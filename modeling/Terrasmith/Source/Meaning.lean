import Terrasmith.Source.Expression
import Terrasmith.Expr.Display

/-!
What written expressions mean. A template means the text it is printed as, without the escapes of its string
literal, and what that text reads as; so its meaning is found by reading that text again.
-/
namespace Terrasmith.Source

/-- The key that an expression in the place of a key is. -/
def keyOf : Expr → Key
  | .variable name => .ident name
  | e => .expr e

mutual

/-- The meaning of an expression, when `read` gives the meaning of the text of a template. -/
def Written.meaning (read : String → Option (List Element)) : Written → Expr
  | .mk _ form _ => form.meaning read

def Form.meaning (read : String → Option (List Element)) : Form → Expr
  | .null => .null
  | .bool b => .bool b
  | .number n _ => .number n
  | .string s => .string s
  | .variable name => .variable name
  | .quoted pieces =>
    let source := templateText pieces
    .template .quoted source (read source)
  | .heredoc delimiter indent pieces _ =>
    let source := templateText pieces
    .template (.heredoc delimiter (indent ≠ 0)) source (read source)
  | .array items _ _ => .array (meanings read items)
  | .object entries _ => .object (entryMeanings read [] entries)
  | .traversal root path => .traversal (root.meaning read) (pathMeaning read path)
  | .call name _ args stop _ => .call name (meanings read args) (stop = .ellipsis)
  | .parens inner => .parens (inner.meaning read)
  | .conditional condition whenTrue whenFalse =>
    .conditional (condition.meaning read) (whenTrue.meaning read) (whenFalse.meaning read)
  | .unary op operand => .unary op (operand.meaning read)
  | .binary left op right => .binary (left.meaning read) op (right.meaning read)
  | .listFor _ names collection value condition =>
    .listFor (.mk names.key? names.value (collection.meaning read) (condition.meaning read)) (value.meaning read)
  | .objectFor _ names collection key value grouping condition =>
    .objectFor (.mk names.key? names.value (collection.meaning read) (condition.meaning read)) (key.meaning read)
      (value.meaning read) grouping

def meanings (read : String → Option (List Element)) : List Written → List Expr
  | [] => []
  | e :: rest => e.meaning read :: meanings read rest

def LoopCondition.meaning (read : String → Option (List Element)) : LoopCondition → Option Expr
  | .always => none
  | .onlyIf _ condition => some (condition.meaning read)

def WrittenEntry.meaning (read : String → Option (List Element)) : WrittenEntry → Key × Expr
  | .mk key _ value _ => (keyOf (key.meaning read), value.meaning read)

/-- Entries written over those in `done`. -/
def entryMeanings (read : String → Option (List Element)) (done : List Entry) : List WrittenEntry → List Entry
  | [] => done
  | entry :: rest =>
    let (key, value) := entry.meaning read
    entryMeanings read (Expr.insertKey key value done) rest

def Step.meaning (read : String → Option (List Element)) : Step → Access
  | .attribute _ name => .attribute name
  | .index e => .index (e.meaning read)
  | .legacyIndex _ n => .legacyIndex n
  | .attributeSplat _ => .attributeSplat
  | .fullSplat _ _ => .fullSplat

def pathMeaning (read : String → Option (List Element)) : List Step → List Access
  | [] => []
  | step :: rest => step.meaning read :: pathMeaning read rest

def Piece.meaning (read : String → Option (List Element)) : Piece → Element
  | .literal text => .literal text
  | .interpolation strip e => .interpolation (e.meaning read) strip
  | .ifDirective strip _ condition whenTrue stop =>
    .ifDirective (condition.meaning read) (pieceMeanings read whenTrue) none strip {} stop.strip
  | .ifElseDirective strip _ condition whenTrue middle whenFalse stop =>
    .ifDirective (condition.meaning read) (pieceMeanings read whenTrue) (some (pieceMeanings read whenFalse)) strip
      middle.strip stop.strip
  | .forDirective strip _ names collection body stop =>
    .forDirective names.key? names.value (collection.meaning read) (pieceMeanings read body) strip stop.strip

def pieceMeanings (read : String → Option (List Element)) : List Piece → List Element
  | [] => []
  | piece :: rest => piece.meaning read :: pieceMeanings read rest

end

/-- The meaning of the text of a template in which templates are nested less than `fuel` deep. -/
def elements? : (fuel : Nat) → String → Option (List Element)
  | 0, _ => none
  | fuel + 1, text => (template? text).map (pieceMeanings (elements? fuel))

/-- The meaning of the text of a template. Templates cannot be nested deeper than the text is long. -/
def readTemplate (text : String) : Option (List Element) :=
  elements? (text.length + 1) text

/-- The meaning of an expression. -/
def Written.expr (w : Written) : Expr := w.meaning readTemplate

end Terrasmith.Source

/-- The template of a text, as in a string literal. -/
def Terrasmith.Expr.quotedTemplate (source : String) : Expr :=
  .template .quoted source (Source.readTemplate source)
