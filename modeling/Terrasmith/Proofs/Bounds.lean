import Terrasmith.Proofs.Alignment

/-!
Where tokens end. Names, numbers and keywords are read alike from two texts that begin with the same characters and
go on with one that belongs to no such token.
-/
namespace Terrasmith.Source

/-- The characters that end a token other than a sign. -/
def boundaries : List Char := [' ', '\t', '\n', '\r', '#', '"', '<', '=', '/']

def Bound (v : List Char) : Prop := ∀ d, v.head? = some d → d ∈ boundaries

/-- Rests with the same part of `u` before `v` and `v'`. -/
def Shares (u v v' r r' : List Char) : Prop := ∃ x y, u = x ++ y ∧ r = y ++ v ∧ r' = y ++ v'

section Bounds

variable {v v' : List Char}

theorem takeWhile_bound {p : Char → Bool} (hp : ∀ d ∈ boundaries, p d = false) (hv : Bound v) (u : List Char) :
    (u ++ v).takeWhile p = u.takeWhile p ∧ (u ++ v).dropWhile p = u.dropWhile p ++ v := by
  induction u with
  | nil =>
    cases v with
    | nil => simp
    | cons d v => simp [hp d (hv d rfl)]
  | cons c u ih =>
    cases hc : p c with
    | true => simp [hc, ih]
    | false => simp [hc]

theorem exists_dropWhile (p : Char → Bool) (u : List Char) : ∃ x, u = x ++ u.dropWhile p :=
  ⟨u.takeWhile p, (List.takeWhile_append_dropWhile).symm⟩

theorem isDigit_boundary : ∀ d ∈ boundaries, d.isDigit = false := by
  have h : boundaries.all (fun d => !d.isDigit) = true := by decide
  simpa only [List.all_eq_true, Bool.not_eq_true'] using h

theorem isIdentStart_boundary : ∀ d ∈ boundaries, Text.isIdentStart d = false := by
  have h : boundaries.all (fun d => !Text.isIdentStart d) = true := by decide
  simpa only [List.all_eq_true, Bool.not_eq_true'] using h

theorem isIdentContinue_boundary : ∀ d ∈ boundaries, Text.isIdentContinue d = false := by
  have h : boundaries.all (fun d => !Text.isIdentContinue d) = true := by decide
  simpa only [List.all_eq_true, Bool.not_eq_true'] using h

theorem ident_bound (hv : Bound v) (hv' : Bound v') (u : List Char) :
    Parallel (Shares u v v') (ident? (u ++ v)) (ident? (u ++ v')) := by
  cases u with
  | nil =>
    have hnone : ∀ {w}, Bound w → ident? w = none := by
      intro w hw
      cases w with
      | nil => rfl
      | cons d w => simp [ident?, isIdentStart_boundary d (hw d rfl)]
    rw [List.nil_append, List.nil_append, hnone hv, hnone hv']
    exact .none
  | cons c u =>
    simp only [List.cons_append, ident?]
    split
    · obtain ⟨ht, hd⟩ := takeWhile_bound isIdentContinue_boundary hv u
      obtain ⟨ht', hd'⟩ := takeWhile_bound isIdentContinue_boundary hv' u
      obtain ⟨x, hx⟩ := exists_dropWhile Text.isIdentContinue u
      rw [ht, ht', hd, hd']
      exact .some ⟨c :: x, _, by rw [List.cons_append, ← hx], rfl, rfl⟩
    · exact .none

theorem fraction_bound (hv : Bound v) (u : List Char) :
    fraction (u ++ v) = ((fraction u).1, (fraction u).2 ++ v) := by
  cases u with
  | nil =>
    cases v with
    | nil => rfl
    | cons d v =>
      have hd : d ≠ '.' := by
        rintro rfl
        exact absurd (hv '.' rfl) (by decide)
      simp [fraction, hd]
  | cons c u =>
    by_cases hc : c = '.'
    · subst hc
      obtain ⟨ht, hd⟩ := takeWhile_bound isDigit_boundary hv u
      simp only [List.cons_append, fraction, ht, hd]
      split <;> rfl
    · simp [fraction, hc]

theorem exponentSign_bound (hv : Bound v) (u : List Char) :
    exponentSign (u ++ v) = ((exponentSign u).1, (exponentSign u).2 ++ v) := by
  cases u with
  | nil =>
    cases v with
    | nil => rfl
    | cons d v =>
      have hplus : d ≠ '+' := by
        rintro rfl
        exact absurd (hv '+' rfl) (by decide)
      have hminus : d ≠ '-' := by
        rintro rfl
        exact absurd (hv '-' rfl) (by decide)
      simp [exponentSign, hplus, hminus]
  | cons c u =>
    by_cases hplus : c = '+'
    · subst hplus
      rfl
    · by_cases hminus : c = '-'
      · subst hminus
        rfl
      · simp [exponentSign, hplus, hminus]

theorem exponent_bound (hv : Bound v) (u : List Char) :
    exponent (u ++ v) = ((exponent u).1, (exponent u).2 ++ v) := by
  cases u with
  | nil =>
    cases v with
    | nil => rfl
    | cons d v =>
      have hlower : d ≠ 'e' := by
        rintro rfl
        exact absurd (hv 'e' rfl) (by decide)
      have hupper : d ≠ 'E' := by
        rintro rfl
        exact absurd (hv 'E' rfl) (by decide)
      simp [exponent, hlower, hupper]
  | cons c u =>
    obtain ⟨ht, hd⟩ := takeWhile_bound isDigit_boundary hv (exponentSign u).2
    simp only [List.cons_append, exponent, exponentSign_bound hv, ht, hd]
    split
    · split <;> rfl
    · rfl

theorem number_bound (hv : Bound v) (hv' : Bound v') (u : List Char) :
    Parallel (Shares u v v') (number? (u ++ v)) (number? (u ++ v')) := by
  obtain ⟨ht, hd⟩ := takeWhile_bound isDigit_boundary hv u
  obtain ⟨ht', hd'⟩ := takeWhile_bound isDigit_boundary hv' u
  obtain ⟨x, hx⟩ := ((suffix_exponent (fraction (u.dropWhile Char.isDigit)).2).trans (suffix_fraction _)).trans
    (List.dropWhile_suffix (l := u) _)
  rw [number?_eq, number?_eq]
  simp only [ht, ht', hd, hd', fraction_bound hv, fraction_bound hv', exponent_bound hv, exponent_bound hv']
  cases numeral? (u.takeWhile Char.isDigit) (fraction (u.dropWhile Char.isDigit)).1
    (exponent (fraction (u.dropWhile Char.isDigit)).2).1 with
  | none => exact .none
  | some n => exact .some ⟨x, _, hx.symm, rfl, rfl⟩

theorem legacyIndex_bound (hv : Bound v) (hv' : Bound v') (u : List Char) :
    Parallel (Shares u v v') (legacyIndex? (u ++ v)) (legacyIndex? (u ++ v')) := by
  have hplain : ∀ w : List Char, (∀ r, w ≠ '0' :: r) → legacyIndex? w =
      if (w.takeWhile Char.isDigit).isEmpty || Number.unsignedLimit ≤ Number.digitsValue (w.takeWhile Char.isDigit)
      then none else some (Number.digitsValue (w.takeWhile Char.isDigit), w.dropWhile Char.isDigit) := by
    intro w hw
    rw [legacyIndex?.eq_def]
    split
    · exact absurd rfl (hw _)
    · rfl
  obtain ⟨ht, hd⟩ := takeWhile_bound isDigit_boundary hv u
  obtain ⟨ht', hd'⟩ := takeWhile_bound isDigit_boundary hv' u
  by_cases hu : ∃ w, u = '0' :: w
  · obtain ⟨w, rfl⟩ := hu
    exact .some ⟨['0'], w, rfl, rfl, rfl⟩
  · have hzero : ∀ {z}, Bound z → ∀ r, u ++ z ≠ '0' :: r := by
      intro z hz r hr
      cases u with
      | nil =>
        simp only [List.nil_append] at hr
        subst hr
        exact absurd (hz '0' rfl) (by decide)
      | cons c w =>
        simp only [List.cons_append, List.cons.injEq] at hr
        exact hu ⟨w, by rw [hr.1]⟩
    rw [hplain _ (hzero hv), hplain _ (hzero hv'), ht, ht', hd, hd']
    obtain ⟨x, hx⟩ := exists_dropWhile Char.isDigit u
    split
    · exact .none
    · exact .some ⟨x, _, hx, rfl, rfl⟩

/-- A word without boundaries in it stands before both rests or before none. -/
theorem word_bound (hv : Bound v) (hv' : Bound v') {w : List Char} (hw : ∀ c ∈ w, c ∉ boundaries) (u : List Char) :
    Parallel (Shares u v v') ((Text.afterStart? w (u ++ v)).map fun r => ((), r))
      ((Text.afterStart? w (u ++ v')).map fun r => ((), r)) := by
  induction w generalizing u with
  | nil => exact .some ⟨[], u, rfl, rfl, rfl⟩
  | cons c w ih =>
    have hc := hw c (by simp)
    cases u with
    | nil =>
      have hnone : ∀ {z}, Bound z → Text.afterStart? (c :: w) z = none := by
        intro z hz
        cases z with
        | nil => rfl
        | cons d z =>
          rw [Text.afterStart?, if_neg]
          rintro rfl
          exact hc (hz c rfl)
      rw [List.nil_append, List.nil_append, hnone hv, hnone hv']
      exact .none
    | cons d u =>
      simp only [List.cons_append, Text.afterStart?]
      split
      · have hp := ih (fun e he => hw e (by simp [he])) u
        generalize (Text.afterStart? w (u ++ v)).map (fun r => ((), r)) = o at hp ⊢
        generalize (Text.afterStart? w (u ++ v')).map (fun r => ((), r)) = o' at hp ⊢
        cases hp with
        | none => exact .none
        | some h =>
          obtain ⟨x, y, rfl, hr, hr'⟩ := h
          exact .some ⟨d :: x, y, rfl, hr, hr'⟩
      · exact .none

end Bounds

end Terrasmith.Source
