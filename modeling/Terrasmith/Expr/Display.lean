import Terrasmith.Expr.Basic
import Terrasmith.Text.Category
import Terrasmith.Text.Escape

/-!
How expressions and values are shown in messages and inserted into templates. Arrays and objects spread over
lines, two blanks per level, except inside of calls and conditionals, where they stay on one line. A collection
that was just opened takes its next item without a separator, and only an item clears that mark: the item that
follows an empty collection goes without a separator too.
-/
namespace Terrasmith

namespace Display

/-- Escapes in shown strings: digits in lower case, and the delete character as it is. -/
def escapes : Text.EscapeFormat := { upper := false, delete := false }

/-- Stands for the description of a syntax error. -/
def unreadable : String := "<hcl parse error>"

/-- The string literal that denotes `text`. -/
def stringLiteral (text : String) : String := escapes.literal text

/-- A string inside of a shown value; a template is put between quotes as it is. -/
def valueString (text : String) : String :=
  if Text.isTemplate text then "\"" ++ text ++ "\"" else stringLiteral text

/-- A shown part: its text, and whether the next item goes without a separator, if the part holds a collection. -/
structure Shown where
  text : String
  fresh? : Option Bool := none

instance : Inhabited Shown := ⟨{ text := "" }⟩

instance : Append Shown := ⟨fun a b => ⟨a.text ++ b.text, b.fresh?.or a.fresh?⟩⟩

instance : Coe String Shown := ⟨fun text => { text }⟩

def newline (level : Nat) : String := "\n" ++ Text.repeated level "  "

/-- The level of the items of a collection. -/
def inner (level : Nat) (compact : Bool) : Nat := if compact then level else level + 1

/-- Items one after the other: a fresh one behind `first`, others behind `next`. -/
def joined (first next : String) : (fresh : Bool) → List Shown → Shown
  | fresh, [] => { text := "", fresh? := some fresh }
  | fresh, item :: rest =>
    ((if fresh then first else next : String) : Shown) ++ item
      ++ joined first next (item.fresh?.getD false) rest

/-- Items in brackets, at `level` or on one line. -/
def brackets (level : Nat) (compact : Bool) (items : List Shown) : Shown :=
  let line := newline (level + 1)
  let inside := if compact then joined "" ", " true items else joined line ("," ++ line) true items
  let stop := if compact || items.isEmpty then "" else newline level
  ("[" : Shown) ++ inside ++ (stop ++ "]" : String)

/-- Entries in braces, at `level` or on one line. -/
def braces (level : Nat) (compact : Bool) (entries : List Shown) : Shown :=
  let line := newline (level + 1)
  let inside := if compact then joined " " ", " true entries else joined line line true entries
  let stop := if entries.isEmpty then "" else if compact then " " else newline level
  ("\x7b" : Shown) ++ inside ++ (stop ++ "\x7d" : String)

mutual

/-- A value at an indentation level. -/
def value (level : Nat) : Value → Shown
  | .null => "null"
  | .bool b => (if b then "true" else "false" : String)
  | .number n => n.display
  | .string s => valueString s
  | .array items => brackets level false (values (level + 1) items)
  | .object entries => braces level false (valueEntries (level + 1) entries)

def values (level : Nat) : List Value → List Shown
  | [] => []
  | v :: rest => value level v :: values level rest

def valueEntries (level : Nat) : List (String × Value) → List Shown
  | [] => []
  | (key, v) :: rest =>
    (((valueString key ++ " = " : String) : Shown) ++ value level v) :: valueEntries level rest

end

/-- The opening of an interpolation or directive. -/
def opening (mark : String) (strip : Strip) : String :=
  mark ++ "\x7b" ++ (if strip.before then "~" else "")

def closing (strip : Strip) : String :=
  (if strip.after then "~" else "") ++ "\x7d"

/-- A directive with its keyword and argument. -/
def directive (strip : Strip) (text : String) : String :=
  opening "%" strip ++ " " ++ text ++ " " ++ closing strip

/-- A heredoc, its delimiter indented if its lines are. -/
def heredoc (level : Nat) (delimiter : String) (indented : Bool) (source : String) : String :=
  (if indented then "<<-" else "<<") ++ delimiter ++ "\n" ++ source
    ++ (if Text.endsWith source "\n" then "" else "\n")
    ++ (if indented then Text.repeated level "  " else "") ++ delimiter

/-- Arguments of a call, which are always separated. -/
def arguments : List Shown → Shown
  | [] => ""
  | [arg] => arg
  | arg :: rest => arg ++ (", " : Shown) ++ arguments rest

mutual

/-- An expression at an indentation level, on one line if `compact`. -/
def expr (level : Nat) (compact : Bool) : Expr → Shown
  | .null => "null"
  | .bool b => (if b then "true" else "false" : String)
  | .number n => n.display
  | .string s => stringLiteral s
  | .template .quoted source _ => ("\"" ++ source ++ "\"" : String)
  | .template (.heredoc delimiter indented) source _ => heredoc level delimiter indented source
  | .array items => brackets level compact (exprs (inner level compact) compact items)
  | .object es => braces level compact (entries (inner level compact) compact es)
  | .variable name => name
  | .traversal root accesses => expr level compact root ++ path level compact accesses
  | .call name args expand =>
    ((Text.join "::" name ++ "(" : String) : Shown) ++ arguments (exprs level true args)
      ++ ((if expand then "..." else "") ++ ")" : String)
  | .parens e => ("(" : Shown) ++ expr level compact e ++ (")" : Shown)
  | .conditional c t f =>
    expr level true c ++ (" ? " : Shown) ++ expr level true t ++ (" : " : Shown) ++ expr level true f
  | .unary op e => (op.symbol : Shown) ++ expr level compact e
  | .binary l op r => expr level compact l ++ (" " ++ op.symbol ++ " " : String) ++ expr level compact r
  | .listFor loop v =>
    ("[" : Shown) ++ loopHead level compact loop ++ expr level compact v ++ loopTail level compact loop
      ++ ("]" : Shown)
  | .objectFor loop k v grouping =>
    ("\x7b" : Shown) ++ loopHead level compact loop ++ expr level compact k ++ (" => " : Shown)
      ++ expr level compact v ++ (if grouping then "..." else "" : String) ++ loopTail level compact loop
      ++ ("\x7d" : Shown)

def exprs (level : Nat) (compact : Bool) : List Expr → List Shown
  | [] => []
  | e :: rest => expr level compact e :: exprs level compact rest

def loopHead (level : Nat) (compact : Bool) : Loop → Shown
  | .mk key? v collection _ =>
    ("for " ++ (match key? with | some key => key ++ ", " | none => "") ++ v ++ " in " : String)
      ++ expr level compact collection ++ (" : " : Shown)

def loopTail (level : Nat) (compact : Bool) : Loop → Shown
  | .mk _ _ _ none => ""
  | .mk _ _ _ (some condition) => (" if " : Shown) ++ expr level compact condition

def key (level : Nat) (compact : Bool) : Key → Shown
  | .ident name => name
  | .expr e => expr level compact e

def entry (level : Nat) (compact : Bool) : Entry → Shown
  | .mk k v => key level compact k ++ (" = " : Shown) ++ expr level compact v

def entries (level : Nat) (compact : Bool) : List Entry → List Shown
  | [] => []
  | e :: rest => entry level compact e :: entries level compact rest

def access (level : Nat) (compact : Bool) : Access → Shown
  | .attribute name => ("." ++ name : String)
  | .index e => ("[" : Shown) ++ expr level compact e ++ ("]" : Shown)
  | .legacyIndex n => ("." ++ Number.natText n : String)
  | .attributeSplat => ".*"
  | .fullSplat => "[*]"

def path (level : Nat) (compact : Bool) : List Access → Shown
  | [] => ""
  | a :: rest => access level compact a ++ path level compact rest

/-- The source of one element of a template. -/
def elementText : Element → String
  | .literal text => Text.doubled text
  | .interpolation e strip => opening "$" strip ++ (expr 0 false e).text ++ closing strip
  | .ifDirective c t none ifStrip _ endStrip =>
    directive ifStrip ("if " ++ (expr 0 false c).text) ++ elementsText t ++ directive endStrip "endif"
  | .ifDirective c t (some f) ifStrip elseStrip endStrip =>
    directive ifStrip ("if " ++ (expr 0 false c).text) ++ elementsText t ++ directive elseStrip "else"
      ++ elementsText f ++ directive endStrip "endif"
  | .forDirective key? v collection body forStrip endStrip =>
    directive forStrip ("for " ++ (match key? with | some k => k ++ ", " | none => "") ++ v ++ " in "
      ++ (expr 0 false collection).text) ++ elementsText body ++ directive endStrip "endfor"

def elementsText : List Element → String
  | [] => ""
  | e :: rest => elementText e ++ elementsText rest

end

end Display

def Value.display (v : Value) : String := (Display.value 0 v).text

def Expr.display (e : Expr) : String := (Display.expr 0 false e).text

def Key.display (k : Key) : String := (Display.key 0 false k).text

/-- Writes an entry of an object over one with the same key. -/
def Expr.insertKey (key : Key) (value : Expr) : List Entry → List Entry
  | [] => [.mk key value]
  | .mk k v :: rest =>
    if k.display = key.display then .mk k value :: rest else .mk k v :: insertKey key value rest

/-- A value as the text of an expression. A string is taken as it is, so that it can hold the source of any
expression. -/
def Value.sourceText : Value → String
  | .string s => s
  | .null => "null"
  | .bool b => if b then "true" else "false"
  | .number n => n.display
  | v => (Expr.ofValue v).display

end Terrasmith
