import Mathlib.Data.List.DropRight
import Mathlib.Data.List.TakeWhile
import Terrasmith.Layout

/-!
Lines and the white space at their ends. Lines without newlines that are put together are cut apart again as they
were, unless one of them ends in a carriage return, which counts to the end of the line then.
-/
namespace Terrasmith.Text

section Trim

variable {before chars after : List Char}

theorem trimStartChars_append (h : ∀ c ∈ before, isBlank c = true) :
    trimStartChars (before ++ chars) = trimStartChars chars := by
  unfold trimStartChars
  rw [List.dropWhile_append_of_pos h]

theorem trimEndChars_append (h : ∀ c ∈ after, isBlank c = true) :
    trimEndChars (chars ++ after) = trimEndChars chars := by
  unfold trimEndChars
  rw [List.reverse_append, List.dropWhile_append_of_pos (by simpa using h)]

/-- Nothing is cut off where a text begins and ends with something else than white space. -/
theorem trimChars_of_ends (hfirst : ∀ c, chars.head? = some c → isBlank c = false)
    (hlast : ∀ c, chars.getLast? = some c → isBlank c = false) : trimChars chars = chars := by
  have hstart : trimStartChars chars = chars := by
    cases chars with
    | nil => rfl
    | cons c rest => exact List.dropWhile_cons_of_neg (by simp [hfirst c rfl])
  have hend : trimEndChars chars = chars := by
    refine List.rdropWhile_eq_self_iff.mpr fun hne hblank => ?_
    rw [hlast _ (List.getLast?_eq_getLast_of_ne_nil hne)] at hblank
    cases hblank
  unfold trimChars
  rw [hstart, hend]

theorem head?_trimStartChars {c : Char} (h : (trimStartChars chars).head? = some c) : isBlank c = false := by
  induction chars with
  | nil => cases h
  | cons d rest ih =>
    unfold trimStartChars at h ih
    cases hd : isBlank d with
    | true => exact ih (by simpa [hd] using h)
    | false =>
      obtain rfl : d = c := by simpa [hd] using h
      exact hd

theorem getLast?_trimEndChars {c : Char} (h : (trimEndChars chars).getLast? = some c) : isBlank c = false := by
  unfold trimEndChars at h
  rw [List.getLast?_reverse] at h
  exact head?_trimStartChars h

/-- A text is what trimming leaves of it, between white space. -/
theorem exists_trimChars (chars : List Char) : ∃ before after, chars = before ++ trimChars chars ++ after ∧
    (∀ c ∈ before, isBlank c = true) ∧ ∀ c ∈ after, isBlank c = true := by
  refine ⟨chars.takeWhile isBlank, (trimStartChars chars).rtakeWhile isBlank, ?_, fun c hc => ?_, fun c hc => ?_⟩
  · have hend : trimChars chars ++ (trimStartChars chars).rtakeWhile isBlank = trimStartChars chars :=
      List.rdropWhile_append_rtakeWhile
    rw [List.append_assoc, hend]
    exact List.takeWhile_append_dropWhile.symm
  · exact List.mem_takeWhile_imp hc
  · exact List.mem_rtakeWhile_imp hc

theorem getLast?_trimChars {c : Char} (h : (trimChars chars).getLast? = some c) : isBlank c = false :=
  getLast?_trimEndChars h

theorem head?_trimChars {c : Char} (h : (trimChars chars).head? = some c) : isBlank c = false := by
  obtain ⟨after, hafter⟩ : trimChars chars <+: trimStartChars chars := List.rdropWhile_prefix _ _
  have hhead : (trimStartChars chars).head? = some c := by
    rw [← hafter, List.head?_append, h]
    rfl
  exact head?_trimStartChars hhead

theorem trimChars_between (hbefore : ∀ c ∈ before, isBlank c = true) (hafter : ∀ c ∈ after, isBlank c = true)
    (hfirst : ∀ c, chars.head? = some c → isBlank c = false)
    (hlast : ∀ c, chars.getLast? = some c → isBlank c = false) : trimChars (before ++ chars ++ after) = chars := by
  cases chars with
  | nil =>
    have hall : ∀ c ∈ before ++ [] ++ after, isBlank c = true := by
      intro c hc
      simp only [List.append_nil, List.mem_append] at hc
      exact hc.elim (hbefore c) (hafter c)
    have hstart : trimStartChars (before ++ [] ++ after) = [] := List.dropWhile_eq_nil_iff.mpr hall
    unfold trimChars
    rw [hstart]
    rfl
  | cons c rest =>
    have hstart : trimStartChars (c :: rest ++ after) = c :: rest ++ after :=
      List.dropWhile_cons_of_neg (by simp [hfirst c rfl])
    have hself := trimChars_of_ends hfirst hlast
    have hcut : trimStartChars (c :: rest) = c :: rest := List.dropWhile_cons_of_neg (by simp [hfirst c rfl])
    unfold trimChars at hself ⊢
    rw [List.append_assoc, trimStartChars_append hbefore, hstart, trimEndChars_append hafter]
    rwa [hcut] at hself

theorem mem_of_mem_trimChars {c : Char} (h : c ∈ trimChars chars) : c ∈ chars := by
  obtain ⟨before, after, hchars, -, -⟩ := exists_trimChars chars
  rw [hchars]
  simp [h]

theorem trimChars_eq_nil_iff : trimChars chars = [] ↔ ∀ c ∈ chars, isBlank c = true := by
  obtain ⟨before, after, hchars, hbefore, hafter⟩ := exists_trimChars chars
  constructor
  · intro hnil c hc
    rw [hchars, hnil, List.append_nil] at hc
    exact (List.mem_append.mp hc).elim (hbefore c) (hafter c)
  · intro hblank
    refine List.eq_nil_iff_forall_not_mem.mpr fun c hc => ?_
    cases htrim : trimChars chars with
    | nil => simp [htrim] at hc
    | cons d rest =>
      have hd := hblank d (mem_of_mem_trimChars (by simp [htrim]))
      rw [head?_trimChars (by rw [htrim]; rfl)] at hd
      cases hd

@[simp] theorem trimChars_trimChars (chars : List Char) : trimChars (trimChars chars) = trimChars chars :=
  trimChars_of_ends (fun _ => head?_trimChars) fun _ => getLast?_trimChars

/-- White space around a text does not matter. -/
theorem trimChars_blanks (hbefore : ∀ c ∈ before, isBlank c = true) (hafter : ∀ c ∈ after, isBlank c = true)
    (chars : List Char) : trimChars (before ++ chars ++ after) = trimChars chars := by
  obtain ⟨first, last, hchars, hfirst, hlast⟩ := exists_trimChars chars
  have hcut : before ++ chars ++ after = (before ++ first) ++ trimChars chars ++ (last ++ after) := by
    conv_lhs => rw [hchars]
    simp only [List.append_assoc]
  rw [hcut]
  refine trimChars_between ?_ ?_ (fun _ => head?_trimChars) fun _ => getLast?_trimChars
  · exact fun c hc => (List.mem_append.mp hc).elim (hbefore c) (hfirst c)
  · exact fun c hc => (List.mem_append.mp hc).elim (hlast c) (hafter c)

end Trim

/-- A line that nothing would be cut off when it is read again. -/
structure IsLine (line : List Char) : Prop where
  newline : '\n' ∉ line
  carriage : line.getLast? ≠ some '\r'

theorem dropReturn_of_isLine {line : List Char} (h : IsLine line) : dropReturn line = line := by
  unfold dropReturn
  split
  · rename_i rest heq
    refine absurd ?_ h.carriage
    rw [← List.head?_reverse, heq]
    rfl
  · rfl

theorem newline_not_mem_dropReturn {line : List Char} (h : '\n' ∉ line) : '\n' ∉ dropReturn line := by
  unfold dropReturn
  split
  · rename_i rest heq
    have hsub : ∀ c ∈ rest.reverse, c ∈ line := by
      intro c hc
      rw [← List.mem_reverse, heq]
      exact List.mem_cons_of_mem _ (List.mem_reverse.mp hc)
    exact fun hc => h (hsub _ hc)
  · exact h

/-- A text is cut at its newlines. -/
theorem newline_not_mem_linesFrom {part chars line : List Char} (hpart : '\n' ∉ part)
    (h : line ∈ linesFrom part chars) : '\n' ∉ line := by
  induction chars generalizing part with
  | nil =>
    cases part with
    | nil => cases h
    | cons c part =>
      obtain rfl : line = (c :: part).reverse := by simpa [linesFrom] using h
      exact fun hmem => hpart (List.mem_reverse.mp hmem)
  | cons c chars ih =>
    by_cases hc : c = '\n'
    · subst hc
      rw [linesFrom] at h
      rcases List.mem_cons.mp h with rfl | h
      · exact newline_not_mem_dropReturn fun hmem => hpart (List.mem_reverse.mp hmem)
      · exact ih List.not_mem_nil h
    · rw [linesFrom] at h
      · exact ih (by simp [Ne.symm hc, hpart]) h
      · exact hc

theorem linesFrom_line {line : List Char} (h : '\n' ∉ line) (part rest : List Char) :
    linesFrom part (line ++ '\n' :: rest) = dropReturn (part.reverse ++ line) :: linesFrom [] rest := by
  induction line generalizing part with
  | nil => simp [linesFrom]
  | cons c line ih =>
    obtain ⟨hc, hline⟩ : '\n' ≠ c ∧ '\n' ∉ line := by simpa using h
    rw [List.cons_append, linesFrom]
    · rw [ih hline]
      simp
    · exact Ne.symm hc

/-- Lines that are put together are cut apart as they were. -/
theorem linesOf_unlines {ls : List (List Char)} (h : ∀ line ∈ ls, IsLine line) :
    linesOf (Layout.unlines ls) = ls := by
  induction ls with
  | nil => rfl
  | cons line ls ih =>
    have hline := h line List.mem_cons_self
    have hrest := ih fun l hl => h l (List.mem_cons_of_mem _ hl)
    have hcut : Layout.unlines (line :: ls) = line ++ '\n' :: Layout.unlines ls := by simp [Layout.unlines]
    unfold linesOf at hrest ⊢
    rw [hcut, linesFrom_line hline.newline, hrest, List.reverse_nil, List.nil_append, dropReturn_of_isLine hline]

end Terrasmith.Text
