import Terrasmith.Text.Case

/-!
Sets of characters as regular expressions build them: ranges, tables of boundaries, the operations of set algebra
and the closure under a change of case.
-/
namespace Terrasmith

/-- Sets of characters. -/
inductive CharSet where
  | none
  | any
  | range (first last : Nat)
  /-- The characters `first, first + step, …` up to `last`. -/
  | stepped (first last step : Nat)
  /-- The ranges between rising boundaries. -/
  | boundaries (cuts : List Nat)
  | union (a b : CharSet)
  | inter (a b : CharSet)
  | except (a b : CharSet)
  /-- With every character also its forms in the other case. -/
  | anyCase (s : CharSet)
  deriving Repr, DecidableEq

namespace CharSet

def single (c : Char) : CharSet := .range c.toNat c.toNat

def complement (s : CharSet) : CharSet := .except .any s

/-- The characters of exactly one of two sets. -/
def symmetric (a b : CharSet) : CharSet := .except (.union a b) (.inter a b)

def unions (sets : List CharSet) : CharSet := sets.foldr .union .none

def ascii : CharSet := .range 0 127

def has : CharSet → Char → Bool
  | .none, _ => false
  | .any, _ => true
  | .range first last, c => first ≤ c.toNat && c.toNat ≤ last
  | .stepped first last step, c => first ≤ c.toNat && c.toNat ≤ last && (c.toNat - first) % step = 0
  | .boundaries cuts, c => Text.inRanges cuts c.toNat
  | .union a b, c => a.has c || b.has c
  | .inter a b, c => a.has c && b.has c
  | .except a b, c => a.has c && !b.has c
  | .anyCase s, c => (Text.caseForms c).any s.has

end CharSet

end Terrasmith
