/-!
Floating point numbers taken apart exactly: a finite float is a sign, a natural number and a power of two.
-/
namespace Terrasmith

/-- The magnitude of a finite float: `mantissa * 2 ^ exponent`. -/
structure Binary where
  mantissa : Nat
  exponent : Int
  deriving Repr, DecidableEq

namespace Binary

/-- A power of two. -/
def twoTo (n : Nat) : Nat := Nat.pow 2 n

/-- Whether the sign bit of a float is set. -/
def isNegative (x : Float) : Bool :=
  x.toBits.toNat ≥ twoTo 63

/-- The magnitude of a finite float. -/
def ofFloat (x : Float) : Binary :=
  let bits := x.toBits.toNat % twoTo 63
  let field : Nat := bits / twoTo 52
  let fraction := bits % twoTo 52
  if field = 0 then ⟨fraction, -1074⟩ else ⟨twoTo 52 + fraction, (field : Int) - 1075⟩

/-- The magnitude as a natural number, if it is one. -/
def toNat? (b : Binary) : Option Nat :=
  if 0 ≤ b.exponent then some (b.mantissa * twoTo b.exponent.toNat)
  else
    let divisor := twoTo (-b.exponent).toNat
    if b.mantissa % divisor = 0 then some (b.mantissa / divisor) else none

/-- The float closest to `n * 2 ^ e`; exact when it has at most 53 significant bits. -/
def toFloat (n : Nat) (e : Int) : Float :=
  (Float.ofNat n).scaleB e

/-- The remainder of two magnitudes, with the exponent it is given in. -/
def remainder (a b : Binary) : Nat × Int :=
  let e := min a.exponent b.exponent
  let m := a.mantissa * twoTo (a.exponent - e).toNat
  let n := b.mantissa * twoTo (b.exponent - e).toNat
  (m % n, e)

end Binary

/-- The remainder of a truncating division, with the sign of the dividend. -/
def floatRemainder (x y : Float) : Float :=
  if x.isNaN || y.isNaN || x.isInf || y == 0 then 0.0 / 0.0
  else if y.isInf then x
  else
    let (r, e) := (Binary.ofFloat x).remainder (Binary.ofFloat y)
    let magnitude := Binary.toFloat r e
    if Binary.isNegative x then -magnitude else magnitude

end Terrasmith
