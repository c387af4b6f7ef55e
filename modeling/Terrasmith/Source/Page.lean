import Terrasmith.Source.Heredoc

/-!
Printing written expressions. Blanks, comments and numbers are printed as they were written and strings anew.
Literal parts of templates are escaped from the start of a string literal on; the end of any string literal with
interpolations ends the escaping, also for the rest of a literal around it.
-/
namespace Terrasmith.Source

/-- Escapes in printed strings: digits in upper case, and the delete character among them. -/
def escapes : Text.EscapeFormat := { upper := true, delete := true }

/-- What is printed so far. -/
structure Page where
  text : String := ""
  /-- Whether literal parts of templates are escaped. -/
  escaping : Bool := false
  /-- Whether blanks and comments are left out, which shows what counts when two expressions are compared. -/
  bare : Bool := false

namespace Page

def write (p : Page) (text : String) : Page := { p with text := p.text ++ text }

/-- Prints blanks and comments. -/
def gap (p : Page) (text : String) : Page := if p.bare then p else p.write text

/-- Prints a literal part of a template. -/
def literal (p : Page) (text : String) : Page :=
  p.write (if p.escaping then escapes.inside (Text.doubled text) else Text.doubled text)

/-- Prints the start of an interpolation or directive. -/
def opening (p : Page) (mark : String) (strip : Strip) : Page :=
  p.write (mark ++ "\x7b" ++ stripText strip.before)

def closing (p : Page) (strip : Strip) : Page :=
  p.write (stripText strip.after ++ "\x7d")

/-- Prints the variables of a loop. -/
def names (p : Page) (n : LoopNames) : Page :=
  if p.bare then p.write ((n.key?.getD "") ++ "," ++ n.value ++ " ") else p.write n.text

def directive (p : Page) (d : BareDirective) : Page :=
  ((((p.opening "%" d.strip).gap d.before).write d.word).gap d.after).closing d.strip

/-- Prints a heredoc around its inside: `print` prints that inside. Indented lines are printed on a page of their
own, so that they are neither escaped nor end the escaping. -/
def heredoc (p : Page) (delimiter : String) (indent : Nat) (margin : String) (print : Page → Page) : Page :=
  let inside :=
    if indent = 0 then print (p.write ("<<" ++ delimiter ++ "\n"))
    else (p.write ("<<-" ++ delimiter ++ "\n")).write
      (indentText indent (print { text := "", escaping := false, bare := p.bare }).text)
  (inside.gap margin).write delimiter

end Page

def ArgumentsEnd.text : ArgumentsEnd → String
  | .plain => ""
  | .comma => ","
  | .ellipsis => "..."

def EntryEnd.text : EntryEnd → String
  | .plain => ""
  | .comma => ","
  | .newline => "\n"

mutual

/-- Prints an expression with the blanks around it. -/
def Written.print (p : Page) : Written → Page
  | .mk before form after => (form.print (p.gap before)).gap after
termination_by structural x => x

def Form.print (p : Page) : Form → Page
  | .null => p.write "null"
  | .bool b => p.write (if b then "true" else "false")
  | .number n text => p.write (if p.bare then n.display else text)
  | .string s => p.write (escapes.literal s)
  | .variable name => p.write name
  | .quoted pieces =>
    let inside := printPieces { p.write "\"" with escaping := true } pieces
    { inside with escaping := false }.write "\""
  | .heredoc delimiter indent pieces margin => p.heredoc delimiter indent margin fun p => printPieces p pieces
  | .array items comma tail =>
    ((printItems (p.write "[") items).write (if comma then "," else "")).gap tail |>.write "]"
  | .object entries tail => ((printEntries (p.write "\x7b") entries).gap tail).write "\x7d"
  | .traversal root path => printPath (root.print p) path
  | .call name head args stop tail =>
    let start := p.write (if p.bare then Text.join "::" name else head)
    ((printItems (start.write "(") args).write stop.text).gap tail |>.write ")"
  | .parens inner => (inner.print (p.write "(")).write ")"
  | .conditional condition whenTrue whenFalse =>
    whenFalse.print ((whenTrue.print ((condition.print p).write "?")).write ":")
  | .unary op operand => operand.print (p.write op.symbol)
  | .binary left op right => right.print ((left.print p).write op.symbol)
  | .listFor lead names collection value condition =>
    let start := ((p.write "[").gap lead).write "for"
    let head := (collection.print ((start.names names).write "in")).write ":"
    (condition.print (value.print head)).write "]"
  | .objectFor lead names collection key value grouping condition =>
    let start := ((p.write "\x7b").gap lead).write "for"
    let head := (collection.print ((start.names names).write "in")).write ":"
    let entry := value.print ((key.print head).write "=>")
    (condition.print (entry.write (if grouping then "..." else ""))).write "\x7d"
termination_by structural x => x

/-- Prints items with commas between them. -/
def printItems (p : Page) : List Written → Page
  | [] => p
  | item :: rest => printMore (item.print p) rest
termination_by structural x => x

/-- Prints items that each follow a comma. -/
def printMore (p : Page) : List Written → Page
  | [] => p
  | item :: rest => printMore (item.print (p.write ",")) rest
termination_by structural x => x

def printEntries (p : Page) : List WrittenEntry → Page
  | [] => p
  | entry :: rest => printEntries (entry.print p) rest
termination_by structural x => x

def WrittenEntry.print (p : Page) : WrittenEntry → Page
  | .mk key colon value stop =>
    (value.print ((key.print p).write (if colon then ":" else "="))).write stop.text
termination_by structural x => x

def LoopCondition.print (p : Page) : LoopCondition → Page
  | .always => p
  | .onlyIf lead condition => condition.print ((p.gap lead).write "if")
termination_by structural x => x

def Step.print (p : Page) : Step → Page
  | .attribute lead name => ((p.write ".").gap lead).write name
  | .index e => (e.print (p.write "[")).write "]"
  | .legacyIndex lead n => ((p.write ".").gap lead).write (Number.natText n)
  | .attributeSplat lead => ((p.write ".").gap lead).write "*"
  | .fullSplat before after => ((((p.write "[").gap before).write "*").gap after).write "]"
termination_by structural x => x

def printPath (p : Page) : List Step → Page
  | [] => p
  | step :: rest => printPath (step.print p) rest
termination_by structural x => x

def Piece.print (p : Page) : Piece → Page
  | .literal text => p.literal text
  | .interpolation strip e => (e.print (p.opening "$" strip)).closing strip
  | .ifDirective strip lead condition whenTrue stop =>
    let start := ((p.opening "%" strip).gap lead).write "if"
    (printPieces ((condition.print start).closing strip) whenTrue).directive stop
  | .ifElseDirective strip lead condition whenTrue middle whenFalse stop =>
    let start := ((p.opening "%" strip).gap lead).write "if"
    let first := (printPieces ((condition.print start).closing strip) whenTrue).directive middle
    (printPieces first whenFalse).directive stop
  | .forDirective strip lead names collection body stop =>
    let start := ((p.opening "%" strip).gap lead).write "for"
    let head := (collection.print ((start.names names).write "in")).closing strip
    (printPieces head body).directive stop
termination_by structural x => x

def printPieces (p : Page) : List Piece → Page
  | [] => p
  | piece :: rest => printPieces (piece.print p) rest
termination_by structural x => x

end

/-- The text of an expression, with the blanks around it. -/
def Written.text (w : Written) : String := (w.print {}).text

/-- The text between the ends of a template. -/
def templateText (pieces : List Piece) : String := (printPieces {} pieces).text

/-- Whether two expressions differ in blanks and comments at most. -/
def Written.agrees (a b : Written) : Bool :=
  (a.form.print { bare := true }).text = (b.form.print { bare := true }).text

/-- Writes an entry over one with the same key. -/
def WrittenEntry.insert (e : WrittenEntry) : List WrittenEntry → List WrittenEntry
  | [] => [e]
  | first :: rest =>
    match first, e with
    | .mk key .., .mk key' .. => if key.agrees key' then e :: rest else first :: e.insert rest

/-- Every key once: an entry stands where its key was first written, as it was last written. -/
def mergeEntries (entries : List WrittenEntry) : List WrittenEntry :=
  entries.foldl (fun done e => e.insert done) []

end Terrasmith.Source
