import Terrasmith.Function.Basic
import Terrasmith.Proofs.Formatting
import Terrasmith.Proofs.Rounding
import Terrasmith.Value.Shape

/-!
Integers that are written and read back. The digits of a number give the number, and a sign in front of them the
integer, as long as it is in the signed range. The integers beyond it, which a number holds just as well, are read as
floats, and so only multiples of `2 ^ 11` among them come back.
-/
namespace Terrasmith

namespace Number

/-! ### Digits -/

section Digits

variable (n : Nat)

theorem digitsValue_toDigits : digitsValue (Nat.toDigits 10 n) = n :=
  Nat.ofDigitChars_ten_toDigits

theorem isDigit_toDigits : ∀ c ∈ Nat.toDigits 10 n, c.isDigit = true := fun _ hc =>
  Nat.isDigit_of_mem_toDigits (by decide) (by decide) hc

theorem digits?_toDigits : digits? (Nat.toDigits 10 n) = some n := by
  have hempty : (Nat.toDigits 10 n).isEmpty = false := List.isEmpty_eq_false_iff.mpr Nat.toDigits_ne_nil
  have hall : (Nat.toDigits 10 n).all Char.isDigit = true := List.all_eq_true.mpr (isDigit_toDigits n)
  rw [digits?, hempty, hall, digitsValue_toDigits]
  rfl

/-- Digits begin with a digit, and so with no sign. -/
theorem exists_toDigits : ∃ c rest, Nat.toDigits 10 n = c :: rest ∧ c ≠ '+' ∧ c ≠ '-' := by
  obtain ⟨c, rest, hdigits⟩ := List.exists_cons_of_ne_nil (Nat.toDigits_ne_nil (n := n) (b := 10))
  have hc : c.isDigit = true := isDigit_toDigits n c (hdigits ▸ List.mem_cons_self)
  refine ⟨c, rest, hdigits, ?_, ?_⟩
  · rintro rfl
    exact absurd hc (by decide)
  · rintro rfl
    exact absurd hc (by decide)

theorem float?_toDigits : float? (Nat.toDigits 10 n) = some (scientific n 0) := by
  obtain ⟨c, rest, hdigits, hplus, hminus⟩ := exists_toDigits n
  have hwhole : (c :: rest).takeWhile Char.isDigit = c :: rest :=
    List.takeWhile_eq_self_iff.mpr (hdigits ▸ isDigit_toDigits n)
  have hrest : (c :: rest).dropWhile Char.isDigit = [] :=
    List.dropWhile_eq_nil_iff.mpr (hdigits ▸ isDigit_toDigits n)
  have hvalue : digitsValue (c :: rest) = n := hdigits ▸ digitsValue_toDigits n
  rw [hdigits, float?]
  · rw [unsignedFloat?, hwhole, hrest]
    simp [hvalue]
  · rintro more ⟨⟩
    exact hplus rfl
  · rintro more ⟨⟩
    exact hminus rfl

/-- An integer of 64 bits is far from the sizes at which a numeral is cut short to zero or infinity. -/
theorem scientific_zero {n : Nat} (hn : n ≠ 0) (hsize : n < unsignedLimit) :
    scientific n 0 = Float.ofScientific n false 0 := by
  have hlength : (Nat.toDigits 10 n).length ≤ 20 :=
    (Nat.length_toDigits_le_iff (by decide) (by decide)).mpr (by unfold unsignedLimit at hsize; omega)
  rw [scientific, if_neg hn]
  dsimp only
  rw [if_neg (by omega), if_neg (by omega), if_pos (Int.le_refl 0)]
  rfl

end Digits

/-! ### Integers -/

section Integers

variable {i : Int}

theorem toList_intText (i : Int) :
    (intText i).toList = if i < 0 then '-' :: Nat.toDigits 10 i.natAbs else Nat.toDigits 10 i.natAbs := by
  unfold intText natText
  split <;> simp

/-- An integer as the reader of signed integers gives it. -/
def signedOnly (i : Int) : Option Int :=
  if -(signedLimit : Int) ≤ i && i < (signedLimit : Int) then some i else none

theorem signed?_minus (n : Nat) : signed? ('-' :: Nat.toDigits 10 n) = signedOnly (-n) := by
  have hread : signed? ('-' :: Nat.toDigits 10 n) =
      ((digits? (Nat.toDigits 10 n)).map fun n => -(n : Int)).bind signedOnly := rfl
  rw [hread, digits?_toDigits]
  rfl

theorem signed?_toDigits (n : Nat) : signed? (Nat.toDigits 10 n) = signedOnly n := by
  obtain ⟨c, rest, hdigits, hplus, hminus⟩ := exists_toDigits n
  have hread : signed? (c :: rest) = ((digits? (c :: rest)).map Int.ofNat).bind signedOnly := by
    rw [signed?]
    · rfl
    · rintro more ⟨⟩
      exact hplus rfl
    · rintro more ⟨⟩
      exact hminus rfl
  rw [hdigits, hread, ← hdigits, digits?_toDigits, Option.map_some, Option.bind_some, Int.ofNat_eq_natCast]

/-- Integers in the signed range are read as they were written. -/
theorem signed?_intText (i : Int) : signed? (intText i).toList = signedOnly i := by
  rw [toList_intText]
  split
  · rw [signed?_minus, show -(i.natAbs : Int) = i by omega]
  · rw [signed?_toDigits, show (i.natAbs : Int) = i by omega]

theorem ofText?_intText (h : inRange i = true) : ofText? (intText i) = some (readBack i) := by
  rw [inRange, Bool.and_eq_true, decide_eq_true_iff, decide_eq_true_iff] at h
  rw [ofText?, signed?_intText]
  by_cases hsigned : i < signedLimit
  · simp [readBack, signedOnly, h.1, hsigned]
  · obtain ⟨n, rfl⟩ := Int.eq_ofNat_of_zero_le (show 0 ≤ i by omega)
    have hlow : signedLimit ≤ n := by omega
    have hhigh : n < unsignedLimit := by omega
    have hpos : n ≠ 0 := by
      rintro rfl
      exact absurd hlow (by decide)
    have hdigits : (intText n).toList = Nat.toDigits 10 n := by simp [toList_intText]
    have hunsigned : signedOnly n = none := by simp [signedOnly, hsigned]
    rw [hunsigned, hdigits, float?_toDigits, scientific_zero hpos hhigh]
    exact ofFloat?_ofScientific hlow hhigh

/-- No white space is written in an integer. -/
theorem isBlank_intText (i : Int) : ∀ c ∈ (intText i).toList, Text.isBlank c = false := by
  have hdigit : ∀ c ∈ Nat.toDigits 10 i.natAbs, Text.isBlank c = false := by
    intro c hc
    by_contra hblank
    have hno : c.isDigit = false := Layout.eq_false_of_isBlank (by decide) (by simpa using hblank)
    rw [isDigit_toDigits _ c hc] at hno
    cases hno
  intro c hc
  rw [toList_intText] at hc
  split at hc
  · rcases List.mem_cons.mp hc with rfl | hc
    · decide
    · exact hdigit c hc
  · exact hdigit c hc

theorem trim_intText (i : Int) : Text.trim (intText i) = intText i := by
  rw [Text.trim, Text.trimChars_of_ends (fun c hc => isBlank_intText i c (List.mem_of_head? hc))
    fun c hc => isBlank_intText i c (List.mem_of_getLast? hc), String.ofList_toList]

end Integers

end Number

open Number

/-- An integer that is written as a text and read by `tonumber`. -/
theorem Function.toNumber_toText {i : Int} (h : inRange i = true) :
    (toText (.number (.int i)) >>= toNumber) = .ok (.number (readBack i)) := by
  have htext : toText (.number (.int i)) = .ok (.string (intText i)) := rfl
  have hnumber : toNumber (.string (intText i)) = .ok (.number (readBack i)) := by
    rw [toNumber, trim_intText, ofText?_intText h]
  simp only [htext, bind, Except.bind, hnumber]

/-- An integer that is converted to a text and back. -/
theorem Shape.convert_number_string {i : Int} (h : inRange i = true) :
    Shape.number.convert (Shape.string.convert (.number (.int i))) = .number (readBack i) := by
  have htext : Shape.string.convert (.number (.int i)) = .string (intText i) := by rw [convert]; rfl
  rw [htext, convert, ofText?_intText h]

namespace Number

/-- Every integer that a number holds is read back by both ways from its text to a number. It is the same integer
exactly if it is in the signed range or a multiple of `2 ^ 11`. -/
theorem int_through_text {i : Int} (h : inRange i = true) :
    (Function.toText (.number (.int i)) >>= Function.toNumber) = .ok (.number (readBack i)) ∧
      Shape.number.convert (Shape.string.convert (.number (.int i))) = .number (readBack i) ∧
      (readBack i = .int i ↔ i < signedLimit ∨ 2048 ∣ i) :=
  ⟨Function.toNumber_toText h, Shape.convert_number_string h, readBack_eq_self_iff h⟩

/-- The first integer that does not come back is the second one beyond the signed range: it is read as the first. -/
theorem int_through_text_differs :
    inRange 9223372036854775809 = true ∧
      (Function.toText (.number (.int 9223372036854775809)) >>= Function.toNumber) =
        .ok (.number (.int 9223372036854775808)) ∧
      Shape.number.convert (Shape.string.convert (.number (.int 9223372036854775809))) =
        .number (.int 9223372036854775808) := by
  have hrange : inRange 9223372036854775809 = true := by decide
  have hread : readBack 9223372036854775809 = .int 9223372036854775808 := by rfl
  exact ⟨hrange, hread ▸ Function.toNumber_toText hrange, hread ▸ Shape.convert_number_string hrange⟩

/-- A multiple of `2 ^ 11` beyond the signed range is read back as it was written. -/
theorem int_through_text_beyond :
    inRange 9223372036854777856 = true ∧
      (Function.toText (.number (.int 9223372036854777856)) >>= Function.toNumber) =
        .ok (.number (readBack 9223372036854777856)) ∧
      Shape.number.convert (Shape.string.convert (.number (.int 9223372036854777856))) =
        .number (readBack 9223372036854777856) ∧
      readBack 9223372036854777856 = .int 9223372036854777856 := by
  have hrange : inRange 9223372036854777856 = true := by decide
  obtain ⟨hnumber, hconvert, hsame⟩ := int_through_text hrange
  exact ⟨hrange, hnumber, hconvert, hsame.mpr (by decide)⟩

end Number

end Terrasmith
