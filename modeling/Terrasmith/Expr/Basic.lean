import Terrasmith.Value.Basic

/-!
Expressions by their meaning: what is left of a written expression once blanks and comments are taken away.
-/
namespace Terrasmith

inductive UnaryOp where
  | neg
  | not
  deriving Repr, DecidableEq

inductive BinaryOp where
  | eq | ne | lt | le | gt | ge
  | add | sub | mul | div | mod
  | and | or
  deriving Repr, DecidableEq

def UnaryOp.symbol : UnaryOp → String
  | .neg => "-"
  | .not => "!"

def BinaryOp.symbol : BinaryOp → String
  | .eq => "=="
  | .ne => "!="
  | .lt => "<"
  | .le => "<="
  | .gt => ">"
  | .ge => ">="
  | .add => "+"
  | .sub => "-"
  | .mul => "*"
  | .div => "/"
  | .mod => "%"
  | .and => "&&"
  | .or => "||"

/-- Operators of higher precedence bind tighter. -/
def BinaryOp.precedence : BinaryOp → Nat
  | .mul | .div | .mod => 6
  | .add | .sub => 5
  | .lt | .le | .gt | .ge => 4
  | .eq | .ne => 3
  | .and => 2
  | .or => 1

/-- White space removed by the `~` markers of an interpolation or directive: before it and after it. -/
structure Strip where
  before : Bool := false
  after : Bool := false
  deriving Repr, DecidableEq, Inhabited

/-- How a template is written. -/
inductive TemplateForm where
  | quoted
  | heredoc (delimiter : String) (indented : Bool)
  deriving Repr, DecidableEq

mutual

inductive Expr where
  | null
  | bool (b : Bool)
  | number (n : Number)
  | string (s : String)
  /-- A string with interpolations or directives, or any heredoc: the text between its ends, and what that text
  reads as. A text that reads as nothing fails when it is evaluated. -/
  | template (form : TemplateForm) (source : String) (elements? : Option (List Element))
  | array (items : List Expr)
  | object (entries : List Entry)
  | variable (name : String)
  | traversal (root : Expr) (path : List Access)
  /-- A call; its name may be in a namespace, and its last argument may be expanded. -/
  | call (name : List String) (args : List Expr) (expand : Bool)
  | parens (inner : Expr)
  | conditional (condition whenTrue whenFalse : Expr)
  | unary (op : UnaryOp) (operand : Expr)
  | binary (left : Expr) (op : BinaryOp) (right : Expr)
  | listFor (loop : Loop) (value : Expr)
  | objectFor (loop : Loop) (key value : Expr) (grouping : Bool)

/-- The head of a for expression. -/
inductive Loop where
  | mk (key? : Option String) (value : String) (collection : Expr) (condition? : Option Expr)

inductive Key where
  | ident (name : String)
  | expr (e : Expr)

inductive Entry where
  | mk (key : Key) (value : Expr)

inductive Access where
  | attribute (name : String)
  | index (e : Expr)
  | legacyIndex (n : Nat)
  | attributeSplat
  | fullSplat

inductive Element where
  | literal (text : String)
  | interpolation (e : Expr) (strip : Strip)
  /-- The markers belong to `if`, `else` and `endif`. -/
  | ifDirective (condition : Expr) (whenTrue : List Element) (whenFalse : Option (List Element))
      (ifStrip elseStrip endStrip : Strip)
  | forDirective (key? : Option String) (value : String) (collection : Expr) (body : List Element)
      (forStrip endStrip : Strip)

end

instance : Inhabited Expr := ⟨.null⟩

namespace Expr

mutual

/-- The expression that denotes a value. Keys of objects are written as strings. -/
def ofValue : Value → Expr
  | .null => .null
  | .bool b => .bool b
  | .number n => .number n
  | .string s => .string s
  | .array items => .array (ofValues items)
  | .object entries => .object (ofEntries entries)

def ofValues : List Value → List Expr
  | [] => []
  | v :: rest => ofValue v :: ofValues rest

def ofEntries : List (String × Value) → List Entry
  | [] => []
  | (key, v) :: rest => .mk (.expr (.string key)) (ofValue v) :: ofEntries rest

end

end Expr

end Terrasmith
