import Terrasmith.Expr.Basic
import Terrasmith.Text.Escape

/-!
Expressions as written. A written expression is a tree that keeps the blanks and comments around its parts, the
texts of numbers, and commas and line ends as they stand, so that it can be printed again.
-/
namespace Terrasmith.Source

/-- What follows the last argument of a call. -/
inductive ArgumentsEnd where
  | plain
  | comma
  | ellipsis
  deriving Repr, DecidableEq

/-- What ends an entry of an object. -/
inductive EntryEnd where
  | plain
  | comma
  | newline
  deriving Repr, DecidableEq

/-- The variables of a loop, and the text between its keywords. -/
structure LoopNames where
  key? : Option String := none
  value : String
  text : String
  deriving Repr, DecidableEq

/-- A directive that consists of its keyword, with the blanks on both sides of it. -/
structure BareDirective where
  strip : Strip
  before : String
  word : String
  after : String
  deriving Repr, DecidableEq

mutual

/-- An expression between the blanks and comments around it. -/
inductive Written where
  | mk (before : String) (form : Form) (after : String)

inductive Form where
  | null
  | bool (b : Bool)
  | number (n : Number) (text : String)
  | string (s : String)
  | variable (name : String)
  /-- A string literal with interpolations or directives. -/
  | quoted (pieces : List Piece)
  /-- A heredoc whose lines are indented by `indent` blanks, and the blanks before its closing delimiter. -/
  | heredoc (delimiter : String) (indent : Nat) (pieces : List Piece) (margin : String)
  | array (items : List Written) (comma : Bool) (tail : String)
  | object (entries : List WrittenEntry) (tail : String)
  | traversal (root : Written) (path : List Step)
  /-- A call; `head` is the text up to the opening parenthesis. -/
  | call (name : List String) (head : String) (args : List Written) (stop : ArgumentsEnd) (tail : String)
  | parens (inner : Written)
  | conditional (condition whenTrue whenFalse : Written)
  | unary (op : UnaryOp) (operand : Written)
  | binary (left : Written) (op : BinaryOp) (right : Written)
  | listFor (lead : String) (names : LoopNames) (collection value : Written) (condition : LoopCondition)
  | objectFor (lead : String) (names : LoopNames) (collection key value : Written) (grouping : Bool)
      (condition : LoopCondition)

/-- The condition at the end of a for expression, with the blanks before its keyword. -/
inductive LoopCondition where
  | always
  | onlyIf (lead : String) (condition : Written)

/-- An entry of an object; its sign is a colon or an equals sign. -/
inductive WrittenEntry where
  | mk (key : Written) (colon : Bool) (value : Written) (stop : EntryEnd)

/-- One step of a traversal, with the blanks after its dot or inside of its brackets. -/
inductive Step where
  | attribute (lead name : String)
  | index (e : Written)
  | legacyIndex (lead : String) (n : Nat)
  | attributeSplat (lead : String)
  | fullSplat (before after : String)

/-- One part of a template. -/
inductive Piece where
  | literal (text : String)
  | interpolation (strip : Strip) (e : Written)
  | ifDirective (strip : Strip) (lead : String) (condition : Written) (whenTrue : List Piece) (stop : BareDirective)
  | ifElseDirective (strip : Strip) (lead : String) (condition : Written) (whenTrue : List Piece)
      (middle : BareDirective) (whenFalse : List Piece) (stop : BareDirective)
  | forDirective (strip : Strip) (lead : String) (names : LoopNames) (collection : Written) (body : List Piece)
      (stop : BareDirective)

end

instance : Inhabited Written := ⟨.mk "" .null ""⟩

namespace Written

/-- A form without blanks around it. -/
def bare (form : Form) : Written := .mk "" form ""

def before : Written → String
  | .mk before _ _ => before

def form : Written → Form
  | .mk _ form _ => form

def after : Written → String
  | .mk _ _ after => after

def withBefore (before : String) : Written → Written
  | .mk _ form after => .mk before form after

def withAfter (after : String) : Written → Written
  | .mk before form _ => .mk before form after

/-- An expression with other blanks around it. -/
def between (before after : String) : Written → Written
  | .mk _ form _ => .mk before form after

@[simp] theorem before_withBefore (before : String) (w : Written) : (w.withBefore before).before = before := by
  cases w; rfl

@[simp] theorem form_withBefore (before : String) (w : Written) : (w.withBefore before).form = w.form := by
  cases w; rfl

@[simp] theorem after_withAfter (after : String) (w : Written) : (w.withAfter after).after = after := by
  cases w; rfl

@[simp] theorem form_withAfter (after : String) (w : Written) : (w.withAfter after).form = w.form := by
  cases w; rfl

end Written

/-- The text of an optional `~`. -/
def stripText (strip : Bool) : String := if strip then "~" else ""

end Terrasmith.Source
