import Terrasmith.Number.Binary

/-!
Numbers of the expression language: integers of the unsigned and the signed 64 bit range, and floats.
A computed float with an integral value in that range is kept as an integer.
-/
namespace Terrasmith

inductive Number where
  | int (value : Int)
  | float (value : Float)
  deriving Repr, BEq, Inhabited

namespace Number

/-- Two to the power of 63, where signed integers end. -/
def signedLimit : Nat := 9223372036854775808

/-- Two to the power of 64, where unsigned integers end. -/
def unsignedLimit : Nat := 18446744073709551616

/-- Integers that a number holds exactly. -/
def inRange (i : Int) : Bool :=
  -(signedLimit : Int) ≤ i && i < (unsignedLimit : Int)

/-- A float as a number. Integers in range are held exactly. -/
def ofFloat (x : Float) : Number :=
  if x.isFinite then
    match (Binary.ofFloat x).toNat? with
    | some n =>
      let i : Int := if Binary.isNegative x then -n else n
      if inRange i then .int i else .float x
    | none => .float x
  else .float x

/-- A finite float as a number, none for infinities and not-a-number. -/
def ofFloat? (x : Float) : Option Number :=
  if x.isFinite then some (ofFloat x) else none

def toFloat : Number → Float
  | .int i => Float.ofInt i
  | .float x => x

/-- The unsigned integer of 64 bits that an integer wraps around to. -/
def wrapUnsigned (i : Int) : Int := i % (unsignedLimit : Int)

/-- The signed integer of 64 bits that an integer wraps around to. -/
def wrapSigned (i : Int) : Int := Int.bmod i unsignedLimit

def toNat? : Number → Option Nat
  | .int i => if 0 ≤ i then some i.toNat else none
  | .float _ => none

/-- Computes with integers of equal sign in words of 64 bits and with everything else in floats. Negative
integers are signed words; others are unsigned, up to a negative result. -/
def combine (exact : Int → Int → Int) (rounded : Float → Float → Float) : Number → Number → Number
  | .int a, .int b =>
    let i := exact a b
    if (0 ≤ a) = (0 ≤ b) then .int (if 0 ≤ a && 0 ≤ i then wrapUnsigned i else wrapSigned i)
    else ofFloat (rounded (Float.ofInt a) (Float.ofInt b))
  | a, b => ofFloat (rounded a.toFloat b.toFloat)

def add : Number → Number → Number := combine (· + ·) (· + ·)

def sub : Number → Number → Number := combine (· - ·) (· - ·)

def mul : Number → Number → Number := combine (· * ·) (· * ·)

/-- Division is always carried out in floats. -/
def div (a b : Number) : Number :=
  ofFloat (a.toFloat / b.toFloat)

/-- The remainder has the sign of the dividend. -/
def mod (a b : Number) : Number :=
  combine Int.tmod floatRemainder a b

/-- The negative of a number. Integers without a negative in range, and floats, give floats. -/
def neg : Number → Number
  | .int i => if inRange (-i) || i < 0 then .int (wrapSigned (-i)) else .float (-(Float.ofInt i))
  | .float x => .float (-x)

/-- Equality; that of an integer and a float is the one of floats. -/
def same (a b : Number) : Bool :=
  match a, b with
  | .int a, .int b => a == b
  | a, b => a.toFloat == b.toFloat

def lt (a b : Number) : Bool :=
  match a, b with
  | .int a, .int b => a < b
  | a, b => a.toFloat < b.toFloat

def le (a b : Number) : Bool :=
  match a, b with
  | .int a, .int b => a ≤ b
  | a, b => a.toFloat ≤ b.toFloat

end Number

end Terrasmith
