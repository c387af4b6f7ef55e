import Terrasmith.Proofs.Formatting

/-!
What a layout may change. A line that starts in plain code gets other blanks at its ends and, if it is an assignment,
around its sign; every other line is kept as it is. No line is lost, doubled or moved, whatever groups the assignments
between them form.
-/
namespace Terrasmith.Layout

open Terrasmith.Text

/-- What a text holds besides white space. -/
def visible (chars : List Char) : List Char := chars.filter fun c => !isBlank c

section Visible

variable {chars more : List Char}

@[simp] theorem visible_append (chars more : List Char) : visible (chars ++ more) = visible chars ++ visible more :=
  List.filter_append ..

theorem visible_cons_of_not_blank {c : Char} (h : isBlank c = false) : visible (c :: chars) = c :: visible chars :=
  List.filter_cons_of_pos (by simp [h])

theorem visible_eq_nil (h : ∀ c ∈ chars, isBlank c = true) : visible chars = [] :=
  List.filter_eq_nil_iff.mpr fun c hc => by simp [h c hc]

@[simp] theorem visible_trimChars (chars : List Char) : visible (trimChars chars) = visible chars := by
  obtain ⟨before, after, hchars, hbefore, hafter⟩ := exists_trimChars chars
  conv_rhs => rw [hchars]
  simp [visible_eq_nil hbefore, visible_eq_nil hafter]

@[simp] theorem visible_trimStartChars (chars : List Char) : visible (trimStartChars chars) = visible chars := by
  have hblank : visible (chars.takeWhile isBlank) = [] := visible_eq_nil fun c => List.mem_takeWhile_imp
  conv_rhs => rw [← List.takeWhile_append_dropWhile (p := isBlank) (l := chars)]
  rw [visible_append, hblank]
  rfl

theorem visible_dropReturn (line : List Char) : visible (dropReturn line) = visible line := by
  unfold dropReturn
  split
  · rename_i rest heq
    have hline : line = rest.reverse ++ ['\r'] := by rw [← List.reverse_reverse line, heq, List.reverse_cons]
    have hreturn : visible ['\r'] = [] := by decide
    rw [hline, visible_append, hreturn, List.append_nil]
  · rfl

theorem visible_linesFrom (part chars : List Char) :
    visible (linesFrom part chars).flatten = visible part.reverse ++ visible chars := by
  have hnewline (chars : List Char) : visible ('\n' :: chars) = visible chars := List.filter_cons_of_neg (by decide)
  fun_induction linesFrom part chars with
  | case1 => rfl
  | case2 part _ => simp [visible]
  | case3 part rest ih =>
    rw [List.flatten_cons, visible_append, visible_dropReturn, ih, hnewline]
    rfl
  | case4 part c rest hc ih =>
    rw [ih, List.reverse_cons, visible_append, List.append_assoc, ← visible_append [c]]
    rfl

/-- Cutting a text into lines loses white space only. -/
theorem visible_linesOf (chars : List Char) : visible (linesOf chars).flatten = visible chars :=
  visible_linesFrom [] chars

theorem visible_unlines (ls : List (List Char)) : visible (unlines ls) = visible ls.flatten := by
  have hnewline : visible ['\n'] = [] := by decide
  induction ls with
  | nil => rfl
  | cons line ls ih =>
    have hcut : unlines (line :: ls) = line ++ ['\n'] ++ unlines ls := by simp [unlines]
    rw [hcut, List.flatten_cons, visible_append, visible_append, visible_append, hnewline, List.append_nil, ih]

theorem visible_dropWhile (ls : List (List Char)) :
    visible (ls.dropWhile fun line => line.all isBlank).flatten = visible ls.flatten := by
  induction ls with
  | nil => rfl
  | cons line ls ih =>
    cases hline : line.all isBlank with
    | true =>
      rw [List.dropWhile_cons_of_pos (by simpa using hline), ih, List.flatten_cons, visible_append,
        visible_eq_nil (List.all_eq_true.mp hline), List.nil_append]
    | false => rw [List.dropWhile_cons_of_neg (by simp [hline])]

theorem flatten_rdropWhile_isEmpty (ls : List (List Char)) : (ls.rdropWhile List.isEmpty).flatten = ls.flatten := by
  have hempty : (ls.rtakeWhile List.isEmpty).flatten = [] :=
    List.flatten_eq_nil_iff.mpr fun line hline => List.isEmpty_iff.mp (List.mem_rtakeWhile_imp hline)
  conv_rhs => rw [← List.rdropWhile_append_rtakeWhile (p := List.isEmpty) (l := ls)]
  rw [List.flatten_append, hempty, List.append_nil]

end Visible

/-- A line that holds an assignment between blanks. -/
def Assigns (line : List Char) (a : Assignment) : Prop :=
  ∃ gap rest, Parts a gap rest ∧ trimChars line = a.key ++ gap ++ '=' :: rest

/-- Lines that differ in the blanks at their ends or, where both hold the same key and the same value, in those around
the sign between them too. -/
def Respaced (line shown : List Char) : Prop :=
  trimChars shown = trimChars line ∨ ∃ a, Assigns line a ∧ Assigns shown a

section Lines

variable {s : Scanner} {line shown : List Char} {a : Assignment}

theorem Assigns.visible_eq (h : Assigns line a) : visible line = visible a.key ++ '=' :: visible a.value := by
  obtain ⟨gap, rest, hparts, hline⟩ := h
  have hsign : visible ('=' :: rest) = '=' :: visible rest := visible_cons_of_not_blank (by decide)
  rw [← visible_trimChars, hline, visible_append, visible_append, visible_eq_nil hparts.gap, List.append_nil, hsign,
    ← hparts.value, visible_trimStartChars]

theorem Respaced.visible_eq (h : Respaced line shown) : visible shown = visible line := by
  rcases h with htrim | ⟨a, hline, hshown⟩
  · rw [← visible_trimChars, htrim, visible_trimChars]
  · rw [hline.visible_eq, hshown.visible_eq]

/-- A line of code is shown with other blanks. -/
theorem respaced_of_shows (hs : s.atCodeStart = true) (h : Shows (layLine s line) shown) : Respaced line shown := by
  cases hlay : layLine s line with
  | text chars =>
    obtain rfl : shown = chars := by rwa [hlay] at h
    exact .inl (trimChars_of_layLine hs hlay)
  | assignment a =>
    rw [hlay] at h
    obtain ⟨width, rfl⟩ := h
    obtain ⟨-, gap, rest, hparts, hline⟩ := parts_of_layLine hs hlay
    obtain ⟨gap', rest', hparts', hshown⟩ := hparts.render (hparts.getLast?_value hline) width
    exact .inr ⟨a, ⟨gap, rest, hparts, hline⟩, gap', rest', hparts', hshown⟩

theorem visible_of_shows (h : Shows (layLine s line) shown) : visible shown = visible line := by
  cases hs : s.atCodeStart with
  | true => exact (respaced_of_shows hs h).visible_eq
  | false => rw [eq_of_shows hs h]

/-- What is open before the line at an index when the lines before it have been scanned. -/
def Scanner.before (s : Scanner) (ls : List (List Char)) (i : Nat) : Scanner := (ls.take i).foldl Scanner.next s

/-- As many lines are shown as there are, each in its place. -/
theorem getElem?_of_forall_shows {ls texts : List (List Char)} (h : List.Forall₂ Shows (layLines s ls) texts) :
    texts.length = ls.length ∧ ∀ (i : Nat) (line shown : List Char), ls[i]? = some line → texts[i]? = some shown →
      Shows (layLine (s.before ls i) line) shown := by
  induction ls generalizing s texts with
  | nil =>
    cases h
    exact ⟨rfl, fun i line shown hline _ => by simp at hline⟩
  | cons first rest ih =>
    rw [layLines] at h
    cases h with
    | cons hfirst hrest =>
      obtain ⟨hlength, hplaces⟩ := ih hrest
      refine ⟨congrArg (· + 1) hlength, fun i line shown hline hshown => ?_⟩
      cases i with
      | zero =>
        obtain rfl : first = line := by simpa using hline
        obtain rfl := Option.some.inj hshown
        exact hfirst
      | succ i => exact hplaces i line shown hline hshown

theorem visible_of_forall_shows {ls texts : List (List Char)} (h : List.Forall₂ Shows (layLines s ls) texts) :
    visible texts.flatten = visible ls.flatten := by
  induction ls generalizing s texts with
  | nil =>
    cases h
    rfl
  | cons line rest ih =>
    rw [layLines] at h
    cases h with
    | cons hfirst hrest =>
      simp only [List.flatten_cons, visible_append, visible_of_shows hfirst, ih hrest]

end Lines

/-- A layout changes white space only: the text is the same without it, and behind the blank lines it begins with each
of its lines is shown in its place, with other blanks if it starts in plain code and as it is if not. Only empty lines
at the end are left out. -/
theorem format_respaces (text : String) :
    visible (format text).toList = visible text.toList ∧
      (format text).toList = unlines ((formatLines text).rdropWhile List.isEmpty) ∧
      (∀ shown ∈ formatLines text, '\n' ∉ shown) ∧
      let ls := (linesOf text.toList).dropWhile fun line => line.all isBlank
      (formatLines text).length = ls.length ∧
        ∀ (i : Nat) (line shown : List Char), ls[i]? = some line → (formatLines text)[i]? = some shown →
          if (Scanner.before {} ls i).atCodeStart then Respaced line shown else shown = line := by
  have hshows := shows_formatLines text
  have hnewline : ∀ shown ∈ formatLines text, '\n' ∉ shown :=
    forall_newline_not_mem_of_shows hshows fun line hline =>
      newline_not_mem_linesFrom List.not_mem_nil ((List.dropWhile_suffix _).subset hline)
  have htext := toList_format text hnewline
  obtain ⟨hlength, hplaces⟩ := getElem?_of_forall_shows hshows
  refine ⟨?_, htext, hnewline, hlength, fun i line shown hline hshown => ?_⟩
  · rw [htext, visible_unlines, flatten_rdropWhile_isEmpty, visible_of_forall_shows hshows, visible_dropWhile,
      visible_linesOf]
  · have hline := hplaces i line shown hline hshown
    split
    · exact respaced_of_shows ‹_› hline
    · exact eq_of_shows (Bool.not_eq_true _ ▸ ‹_›) hline

end Terrasmith.Layout
