import Terrasmith.Number.Basic
import Terrasmith.Number.Shortest
import Terrasmith.Text.Basic

/-!
The texts of numbers, written and read.
-/
namespace Terrasmith.Number

/-- How floats are written: positionally where the decimal point lies in the given span of places, with an
exponent elsewhere. -/
structure FloatFormat where
  /-- Places of the point, counted from the first digit, up to which there are leading zeros. -/
  firstPoint : Int := -4
  lastPoint : Int := 16
  exponentMark : String := "e"
  /-- What stands before a positive exponent. -/
  exponentPlus : String := ""

/-- Numbers in texts and messages: `1e21`. -/
def plain : FloatFormat := {}

/-- Numbers in JSON: `1e+21`. -/
def json : FloatFormat := { exponentPlus := "+" }

def natText (n : Nat) : String := String.ofList (Nat.toDigits 10 n)

def intText (i : Int) : String :=
  if i < 0 then "-" ++ natText i.natAbs else natText i.natAbs

def FloatFormat.decimal (f : FloatFormat) (d : Decimal) : String :=
  let digits := Nat.toDigits 10 d.digits
  let n : Int := digits.length
  if 0 < d.point && d.point ≤ f.lastPoint then
    if n ≤ d.point then String.ofList (digits ++ List.replicate (d.point - n).toNat '0') ++ ".0"
    else String.ofList (digits.take d.point.toNat) ++ "." ++ String.ofList (digits.drop d.point.toNat)
  else if f.firstPoint ≤ d.point && d.point ≤ 0 then
    "0." ++ String.ofList (List.replicate (-d.point).toNat '0' ++ digits)
  else
    let e := d.point - 1
    let head := String.ofList (digits.take 1)
    let tail := if digits.length = 1 then "" else "." ++ String.ofList (digits.drop 1)
    head ++ tail ++ f.exponentMark ++ (if 0 ≤ e then f.exponentPlus else "") ++ intText e

def FloatFormat.write (f : FloatFormat) (x : Float) : String :=
  if x.isNaN then "NaN"
  else if x.isInf then (if Binary.isNegative x then "-inf" else "inf")
  else
    let sign := if Binary.isNegative x then "-" else ""
    let b := Binary.ofFloat x
    if b.mantissa = 0 then sign ++ "0.0" else sign ++ f.decimal b.shortest

def write (f : FloatFormat) : Number → String
  | .int i => intText i
  | .float x => f.write x

def display (n : Number) : String := n.write plain

/-- The value of a list of decimal digits. -/
def digitsValue (digits : List Char) : Nat :=
  digits.foldl (fun n c => 10 * n + (c.toNat - '0'.toNat)) 0

def digits? (chars : List Char) : Option Nat :=
  if !chars.isEmpty && chars.all Char.isDigit then some (digitsValue chars) else none

/-- The float closest to `mantissa * 10 ^ exponent`. Exponents far outside of the range are cut short. -/
def scientific (mantissa : Nat) (exponent : Int) : Float :=
  if mantissa = 0 then 0.0
  else
    let size : Int := (Nat.toDigits 10 mantissa).length
    if exponent + size > 400 then 1.0 / 0.0
    else if exponent + size < -400 then 0.0
    else if 0 ≤ exponent then Float.ofScientific mantissa false exponent.toNat
    else Float.ofScientific mantissa true (-exponent).toNat

/-- An exponent with an optional sign. -/
def exponent? : List Char → Option Int
  | '+' :: rest => (digits? rest).map Int.ofNat
  | '-' :: rest => (digits? rest).map fun n => -(n : Int)
  | rest => (digits? rest).map Int.ofNat

/-- A decimal with optional fraction and exponent; it needs a digit on one side of its point. -/
def unsignedFloat? (chars : List Char) : Option Float :=
  let whole := chars.takeWhile Char.isDigit
  let rest := chars.dropWhile Char.isDigit
  let (fraction, rest) := match rest with
    | '.' :: rest => (rest.takeWhile Char.isDigit, rest.dropWhile Char.isDigit)
    | _ => ([], rest)
  if whole.isEmpty && fraction.isEmpty then none
  else
    let mantissa := digitsValue (whole ++ fraction)
    let places : Int := fraction.length
    match rest with
    | [] => some (scientific mantissa (-places))
    | c :: rest =>
      if c = 'e' || c = 'E' then (exponent? rest).map fun e => scientific mantissa (e - places)
      else none

/-- A float with an optional sign. Infinities and not-a-number are not read. -/
def float? : List Char → Option Float
  | '+' :: rest => unsignedFloat? rest
  | '-' :: rest => (unsignedFloat? rest).map Float.neg
  | rest => unsignedFloat? rest

/-- An integer of the signed 64 bit range with an optional sign. -/
def signed? (chars : List Char) : Option Int := do
  let i ← match chars with
    | '+' :: rest => (digits? rest).map Int.ofNat
    | '-' :: rest => (digits? rest).map fun n => -(n : Int)
    | rest => (digits? rest).map Int.ofNat
  if -(signedLimit : Int) ≤ i && i < (signedLimit : Int) then some i else none

/-- Reads a number from a text: an integer if it is one in range, else a finite float. -/
def ofText? (text : String) : Option Number :=
  match signed? text.toList with
  | some i => some (.int i)
  | none => (float? text.toList).bind ofFloat?

end Terrasmith.Number
