import Terrasmith.Number.Binary

/-!
The shortest decimal that reads back as a given float. A decimal reads back as the float when it lies in the
interval of reals that round to it; on the grids of one, two, … up to seventeen digits the first one with a
point in that interval is taken, and of two points on it the nearer.
-/
namespace Terrasmith

/-- The decimal `0.d₁d₂…dₙ * 10 ^ point`, where `digits` is the number with the digits `d₁d₂…dₙ`. -/
structure Decimal where
  digits : Nat
  point : Int
  deriving Repr, DecidableEq

namespace Binary

/-- A power of ten. -/
def tenTo (n : Nat) : Nat := Nat.pow 10 n

/-- Counts the decimal zeros behind the point before the first digit of `num / den < 1`. -/
def leadingZeros : (fuel : Nat) → (num den : Nat) → Nat
  | 0, _, _ => 0
  | fuel + 1, num, den => if den ≤ num * 10 then 0 else leadingZeros fuel (num * 10) den + 1

/-- The `k` with `10 ^ (k - 1) ≤ num / den < 10 ^ k`. -/
def magnitude (num den : Nat) : Int :=
  if den ≤ num then (Nat.toDigits 10 (num / den)).length
  else -(leadingZeros 400 num den : Int)

/-- Whether `d * 10 ^ p` lies in the interval of reals that round to `b`. The interval reaches half a unit in
the last place to both sides, a quarter below a power of two, and includes its ends for even mantissas. -/
def roundsTo (b : Binary) (d : Nat) (p : Int) : Bool :=
  let below := if b.mantissa = twoTo 52 && b.exponent > -1074 then 1 else 2
  let e := b.exponent - 2
  let scale (n : Nat) := n * twoTo e.toNat * tenTo (-p).toNat
  let point := d * tenTo p.toNat * twoTo (-e).toNat
  let low := scale (4 * b.mantissa - below)
  let high := scale (4 * b.mantissa + 2)
  if b.mantissa % 2 = 0 then low ≤ point && point ≤ high else low < point && point < high

/-- The point nearest to `b` on the grid of `n` digits that rounds to it. -/
def onGrid? (b : Binary) (n : Nat) : Option Decimal :=
  let num := b.mantissa * twoTo b.exponent.toNat
  let den := twoTo (-b.exponent).toNat
  let k := magnitude num den
  let p := k - n
  let top := num * tenTo (-p).toNat
  let bottom := den * tenTo p.toNat
  let d := top / bottom
  let downNearer := (top % bottom) * 2 ≤ bottom
  let ordered := if downNearer then [d, d + 1] else [d + 1, d]
  (ordered.find? (b.roundsTo · p)).map fun digits =>
    if digits = tenTo n then ⟨tenTo (n - 1), k + 1⟩ else ⟨digits, k⟩

/-- The shortest decimal that rounds to `b`. -/
def shortest (b : Binary) : Decimal :=
  match (List.range 17).findSome? fun n => b.onGrid? (n + 1) with
  | some d => d
  | none => ⟨0, 0⟩

end Binary

end Terrasmith
