import Terrasmith.Text.Basic
import Terrasmith.Text.Identifier

/-!
Texts cut at a character. Cutting a text that is put together at the character gives the parts of its two sides, and a
text without the character is its only part, as every identifier is.
-/
namespace Terrasmith.Text

variable {sep : Char}

/-- The parts of a text between the occurrences of a character, the first of them behind `part`. -/
abbrev partsAt (sep : Char) (part chars : List Char) : List (List Char) := cutFrom [sep] 0 part chars

theorem partsAt_nil (part : List Char) : partsAt sep part [] = [part.reverse] := rfl

theorem partsAt_separator (part rest : List Char) :
    partsAt sep part (sep :: rest) = part.reverse :: partsAt sep [] rest := by
  simp [partsAt, cutFrom, afterStart?]

theorem partsAt_char {c : Char} (hc : c ≠ sep) (part rest : List Char) :
    partsAt sep part (c :: rest) = partsAt sep (c :: part) rest := by
  simp [partsAt, cutFrom, afterStart?, hc.symm]

/-- Characters behind a text without a separator among them go to its last part. -/
theorem partsAt_append {tail : List Char} (htail : sep ∉ tail) (part chars : List Char) :
    ∃ init last, partsAt sep part chars = init ++ [last] ∧ partsAt sep part (chars ++ tail) = init ++ [last ++ tail] := by
  induction chars generalizing part with
  | nil =>
    refine ⟨[], part.reverse, rfl, ?_⟩
    rw [List.nil_append, List.nil_append]
    induction tail generalizing part with
    | nil => simp [partsAt_nil]
    | cons c rest ih =>
      obtain ⟨hc, hrest⟩ := not_or.mp fun h => htail (List.mem_cons.mpr h)
      rw [partsAt_char (Ne.symm hc), ih hrest]
      simp
  | cons c rest ih =>
    by_cases hc : c = sep
    · obtain ⟨init, last, hfirst, hboth⟩ := ih []
      refine ⟨part.reverse :: init, last, ?_, ?_⟩
      · rw [hc, partsAt_separator, hfirst, List.cons_append]
      · rw [List.cons_append, hc, partsAt_separator, hboth, List.cons_append]
    · obtain ⟨init, last, hfirst, hboth⟩ := ih (c :: part)
      refine ⟨init, last, ?_, ?_⟩
      · rw [partsAt_char hc, hfirst]
      · rw [List.cons_append, partsAt_char hc, hboth]

/-- A text has a last part. -/
theorem exists_partsAt (sep : Char) (part chars : List Char) :
    ∃ init last, partsAt sep part chars = init ++ [last] := by
  have hnil : sep ∉ ([] : List Char) := List.not_mem_nil
  obtain ⟨init, last, hparts, -⟩ := partsAt_append hnil part chars
  exact ⟨init, last, hparts⟩

theorem partsAt_append_separator (part chars rest : List Char) :
    partsAt sep part (chars ++ sep :: rest) = partsAt sep part chars ++ partsAt sep [] rest := by
  induction chars generalizing part with
  | nil => rw [List.nil_append, partsAt_separator, partsAt_nil]; rfl
  | cons c more ih =>
    by_cases hc : c = sep
    · rw [List.cons_append, hc, partsAt_separator, partsAt_separator, ih, List.cons_append]
    · rw [List.cons_append, partsAt_char hc, partsAt_char hc, ih]

/-- The parts are made of the characters of the text, separators left out. -/
theorem mem_partsAt {part chars : List Char} (hpart : sep ∉ part) {p : List Char} (hp : p ∈ partsAt sep part chars) :
    ∀ c ∈ p, c ≠ sep ∧ (c ∈ part ∨ c ∈ chars) := by
  induction chars generalizing part with
  | nil =>
    obtain rfl : p = part.reverse := by simpa [partsAt_nil] using hp
    intro c hc
    have hc := List.mem_reverse.mp hc
    exact ⟨fun h => hpart (h ▸ hc), .inl hc⟩
  | cons d rest ih =>
    by_cases hd : d = sep
    · rw [hd, partsAt_separator] at hp
      rcases List.mem_cons.mp hp with rfl | hp
      · intro c hc
        have hc := List.mem_reverse.mp hc
        exact ⟨fun h => hpart (h ▸ hc), .inl hc⟩
      · intro c hc
        obtain ⟨hne, hmem⟩ := ih (by simp) hp c hc
        exact ⟨hne, .inr (List.mem_cons_of_mem _ (by simpa using hmem))⟩
    · rw [partsAt_char hd] at hp
      intro c hc
      obtain ⟨hne, hmem⟩ := ih (by simpa using ⟨Ne.symm hd, hpart⟩) hp c hc
      refine ⟨hne, ?_⟩
      rcases hmem with hmem | hmem
      · rcases List.mem_cons.mp hmem with rfl | hmem
        · exact .inr List.mem_cons_self
        · exact .inl hmem
      · exact .inr (List.mem_cons_of_mem _ hmem)

theorem partsAt_of_not_mem {chars : List Char} (h : sep ∉ chars) : partsAt sep [] chars = [chars] := by
  obtain ⟨init, last, hnil, hboth⟩ := partsAt_append h [] []
  obtain ⟨rfl, rfl⟩ : init = [] ∧ last = [] := by simpa using (List.append_eq_singleton_iff.mp hnil.symm)
  simpa using hboth

/-- A text with a single part is that part. -/
theorem eq_of_partsAt_eq_singleton {chars p : List Char} (h : partsAt sep [] chars = [p]) : p = chars := by
  by_cases hmem : sep ∈ chars
  · obtain ⟨before, after, rfl⟩ := List.append_of_mem hmem
    have hlength := congrArg List.length h
    obtain ⟨init, last, hbefore⟩ := exists_partsAt sep [] before
    obtain ⟨init', last', hafter⟩ := exists_partsAt sep [] after
    rw [partsAt_append_separator, hbefore, hafter] at hlength
    simp only [List.length_append, List.length_singleton] at hlength
    omega
  · rw [partsAt_of_not_mem hmem] at h
    exact (List.cons.inj h).1.symm

theorem exists_cons_of_isIdentifier {x : String} (h : isIdentifier x = true) :
    ∃ c v, x.toList = c :: v ∧ isIdentStart c = true ∧ ∀ d ∈ v, isIdentContinue d = true := by
  unfold isIdentifier at h
  cases hx : x.toList with
  | nil => simp [hx] at h
  | cons c v =>
    simp only [hx, Bool.and_eq_true, List.all_eq_true] at h
    exact ⟨c, v, rfl, h.1, h.2⟩

/-- What can neither start nor continue an identifier is in none. -/
theorem not_mem_of_isIdentifier {x : String} (h : isIdentifier x = true) {c : Char} (hstart : isIdentStart c = false)
    (hcontinue : isIdentContinue c = false) : c ∉ x.toList := by
  obtain ⟨first, rest, hx, hfirst, hrest⟩ := exists_cons_of_isIdentifier h
  rw [hx]
  intro hc
  rcases List.mem_cons.mp hc with rfl | hc
  · rw [hstart] at hfirst
    cases hfirst
  · have := hrest c hc
    rw [hcontinue] at this
    cases this

end Terrasmith.Text
