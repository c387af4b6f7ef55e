import Terrasmith.Regex.Category

/-!
Regular expressions: conditions on a position, and patterns built from them and from sets of characters.
-/
namespace Terrasmith

/-- Conditions on the word characters around a position. -/
inductive WordCondition where
  | boundary
  | noBoundary
  | start
  | stop
  /-- No word character before. -/
  | startHalf
  /-- No word character after. -/
  | stopHalf
  deriving Repr, DecidableEq

/-- Whether the condition holds between a left and a right neighbour of which is told whether they are word
characters. -/
def WordCondition.holds : WordCondition → (left right : Bool) → Bool
  | .boundary, left, right => left != right
  | .noBoundary, left, right => left == right
  | .start, left, right => !left && right
  | .stop, left, right => left && !right
  | .startHalf, left, _ => !left
  | .stopHalf, _, right => !right

/-- Conditions on a position between two characters. A carriage return ends a line if `returns`, and then it ends
one together with the line feed behind it. -/
inductive Anchor where
  | textStart
  | textEnd
  | lineStart (returns : Bool)
  | lineEnd (returns : Bool)
  | word (condition : WordCondition) (set : CharSet)
  deriving Repr, DecidableEq

/-- Whether a position with these neighbours meets the condition. -/
def Anchor.holds (a : Anchor) (before after : Option Char) : Bool :=
  match a with
  | .textStart => before.isNone
  | .textEnd => after.isNone
  | .lineStart returns =>
    before.isNone || before = some '\n' || (returns && before = some '\r' && after ≠ some '\n')
  | .lineEnd false => after.isNone || after = some '\n'
  | .lineEnd true => after.isNone || after = some '\r' || (after = some '\n' && before ≠ some '\r')
  | .word condition set => condition.holds (before.any set.has) (after.any set.has)

/-- Patterns. The choice prefers its first branch, and a greedy repetition prefers to go on. -/
inductive Pattern where
  | empty
  | char (set : CharSet)
  | anchor (a : Anchor)
  /-- A numbered group, counted from one. -/
  | group (index : Nat) (inner : Pattern)
  | sequence (first second : Pattern)
  | choice (first second : Pattern)
  | repetition (least : Nat) (most? : Option Nat) (greedy : Bool) (inner : Pattern)
  deriving Repr, DecidableEq

namespace Pattern

/-- The length of the shortest text that a pattern matches. -/
def leastLength : Pattern → Nat
  | .empty => 0
  | .char _ => 1
  | .anchor _ => 0
  | .group _ inner => inner.leastLength
  | .sequence a b => a.leastLength + b.leastLength
  | .choice a b => min a.leastLength b.leastLength
  | .repetition least _ _ inner => least * inner.leastLength

/-- Whether a pattern reads no character in any of its matches. -/
def readsNothing : Pattern → Bool
  | .empty => true
  | .char _ => false
  | .anchor _ => true
  | .group _ inner => inner.readsNothing
  | .sequence a b => a.readsNothing && b.readsNothing
  | .choice a b => a.readsNothing && b.readsNothing
  | .repetition _ most? _ inner => most? = some 0 || inner.readsNothing

/-- The repetition of a pattern. What reads nothing is not repeated, and no repetition at all is the empty
pattern. -/
def repeated (least : Nat) (most? : Option Nat) (greedy : Bool) (inner : Pattern) : Pattern :=
  let (least, most?) :=
    if inner.readsNothing then (min least 1, some ((most?.map (min · 1)).getD 1)) else (least, most?)
  if least = 0 && most? = some 0 then .empty
  else if least = 1 && most? = some 1 then inner
  else .repetition least most? greedy inner

end Pattern

/-- A pattern with the names of its groups in their order. -/
structure Regex where
  pattern : Pattern
  groups : List (Option String)
  deriving Repr, DecidableEq

end Terrasmith
