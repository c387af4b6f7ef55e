import Terrasmith.Number.Text

/-!
Numbers in JSON texts. A number is read as a significand of 64 bits and a power of ten; digits that no longer fit
into the significand are left out. The float of the two is found by one multiplication or division in floats,
and so it can be off in its last place.
-/
namespace Terrasmith.Json

/-- Adds digits to a significand while it stays in 64 bits. `count` is the number of digits added. -/
def addDigits : (significand count : Nat) → List Char → (Nat × Nat) × List Char
  | n, count, [] => ((n, count), [])
  | n, count, c :: rest =>
    let more := 10 * n + (c.toNat - '0'.toNat)
    if c.isDigit && more < Number.unsignedLimit then addDigits more (count + 1) rest
    else ((n, count), c :: rest)

/-- The greatest power of ten that a float holds. -/
def greatestPower : Nat := 308

def powerOfTen (n : Nat) : Float := Float.ofScientific 1 false n

/-- `x` times a power of ten, none if that is too large. A power too small for one division takes several. -/
def scaled? : (fuel : Nat) → (x : Float) → (exponent : Int) → Option Float
  | 0, x, _ => some x
  | fuel + 1, x, exponent =>
    if exponent.natAbs ≤ greatestPower then
      if 0 ≤ exponent then
        let y := x * powerOfTen exponent.natAbs
        if y.isInf then none else some y
      else some (x / powerOfTen exponent.natAbs)
    else if x == 0 then some x
    else if 0 ≤ exponent then none
    else scaled? fuel (x / powerOfTen greatestPower) (exponent + greatestPower)

/-- The float of a significand and a power of ten. Two divisions by the greatest power leave nothing of any
significand. -/
def float? (negative : Bool) (significand : Nat) (exponent : Int) : Option Number :=
  (scaled? 4 significand.toUInt64.toFloat exponent).map fun x => .ofFloat (if negative then -x else x)

/-- An exponent after its mark. -/
def exponent? (chars : List Char) : Option (Int × List Char) :=
  let (negative, rest) := match chars with
    | '+' :: rest => (false, rest)
    | '-' :: rest => (true, rest)
    | rest => (false, rest)
  let digits := rest.takeWhile Char.isDigit
  if digits.isEmpty then none
  else
    let n : Int := Number.digitsValue digits
    some (if negative then -n else n, rest.dropWhile Char.isDigit)

def isExponentMark (c : Char) : Bool := c = 'e' || c = 'E'

/-- The float of a significand, a power of ten and the exponent that may follow. -/
def scientific? (negative : Bool) (significand : Nat) (exponent : Int) (chars : List Char) :
    Option (Number × List Char) :=
  match chars with
  | c :: rest =>
    if isExponentMark c then do
      let (more, rest) ← exponent? rest
      let n ← float? negative significand (exponent + more)
      some (n, rest)
    else do
      let n ← float? negative significand exponent
      some (n, chars)
  | [] => do
    let n ← float? negative significand exponent
    some (n, [])

/-- A number without its sign. It does not start with a zero before another digit, and has digits on both sides of
its point. -/
def number? (negative : Bool) (chars : List Char) : Option (Number × List Char) :=
  let whole := chars.takeWhile Char.isDigit
  if whole.isEmpty || (whole.length > 1 && whole.head? = some '0') then none
  else
    let ((n, _), rest) := addDigits 0 0 chars
    let skipped := (rest.takeWhile Char.isDigit).length
    match rest.dropWhile Char.isDigit with
    | '.' :: rest =>
      if (rest.takeWhile Char.isDigit).isEmpty then none
      else
        let ((n, count), rest) := addDigits n 0 rest
        scientific? negative n (skipped - count) (rest.dropWhile Char.isDigit)
    | rest =>
      let i : Int := if negative then -n else n
      let float := scientific? negative n skipped rest
      if skipped = 0 && Number.inRange i then
        match rest with
        | c :: _ => if isExponentMark c then float else some (.int i, rest)
        | [] => some (.int i, rest)
      else float

end Terrasmith.Json
