import Terrasmith.Expr.Basic

/-!
White space next to the markers `~`. A marker takes away the blanks on its side of a literal and one line end
after them.
-/
namespace Terrasmith

def isInlineBlank (c : Char) : Bool :=
  Text.isBlank c && c ≠ '\n' && c ≠ '\r'

/-- Without the leading blanks and one line end. -/
def stripStart (chars : List Char) : List Char :=
  match chars.dropWhile isInlineBlank with
  | '\r' :: '\n' :: rest => rest
  | '\n' :: rest => rest
  | rest => rest

/-- Without the trailing blanks and one line end. -/
def stripEnd (chars : List Char) : List Char :=
  match chars.reverse.dropWhile isInlineBlank with
  | '\n' :: '\r' :: rest => rest.reverse
  | '\n' :: rest => rest.reverse
  | rest => rest.reverse

/-- A literal between two neighbours that may strip it. -/
def stripLiteral (start stop : Bool) (text : String) : String :=
  let chars := text.toList
  let chars := if start then stripStart chars else chars
  String.ofList (if stop then stripEnd chars else chars)

/-- The markers of an element at its start and at its end. -/
def Element.outer : Element → Strip
  | .literal _ => {}
  | .interpolation _ strip => strip
  | .ifDirective _ _ _ ifStrip _ endStrip => ⟨ifStrip.before, endStrip.after⟩
  | .forDirective _ _ _ _ forStrip endStrip => ⟨forStrip.before, endStrip.after⟩

/-- Whether what follows strips the end of the element before it; at the end `stop` says so. -/
def stripsBefore (stop : Bool) : List Element → Bool
  | [] => stop
  | e :: _ => e.outer.before

end Terrasmith
