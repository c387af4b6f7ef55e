/-!
Sets of characters as rising lists of boundaries: the first boundary starts a range, the second ends it
(it is the first character outside), the third starts the next range, and so on.
-/
namespace Terrasmith.Text

/-- Whether `n` lies in one of the ranges cut by the rising `boundaries`. -/
def inRanges : (boundaries : List Nat) → (n : Nat) → Bool
  | start :: stop :: rest, n => if n < start then false else n < stop || inRanges rest n
  | [start], n => start ≤ n
  | [], _ => false

end Terrasmith.Text
