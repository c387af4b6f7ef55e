import Terrasmith.Proofs.WhiteSpace

/-!
Where the signs of a layout stand. Lines are read in groups as they are written in groups: a maximal run of adjacent
assignments of one indentation in the layout is a group that was written as one, so that their signs stand in one column.
-/
namespace Terrasmith.Layout

open Terrasmith.Text

/-! How groups are written -/

section Groups

variable {group run : List Assignment} {ls before after more : List Line} {indent : Nat}

/-- Where no group goes on, what comes before and what comes behind are written apart. -/
theorem renderLines_apart (h : ∀ a b, (group.reverse.map Line.assignment ++ ls).getLast? = some (.assignment a) →
    more.head? = some (.assignment b) → a.indent ≠ b.indent) :
    renderLines group (ls ++ more) = renderLines group ls ++ renderLines [] more := by
  fun_induction renderLines group ls with
  | case1 group =>
    cases more with
    | nil => simp [renderLines, renderGroup]
    | cons line rest =>
      cases line with
      | text chars => simp [renderLines, renderGroup]
      | assignment b =>
        cases group with
        | nil => simp [renderLines, renderGroup]
        | cons last group =>
          have hother : last.indent ≠ b.indent := h last b (by simp) rfl
          simp [renderLines, hother]
  | case2 group chars rest ih =>
    rw [List.cons_append, renderLines, ih fun a b ha => h a b ?_, List.append_assoc, List.cons_append]
    simp only [List.reverse_nil, List.map_nil, List.nil_append] at ha
    simp [List.getLast?_append, List.getLast?_cons, ha]
  | case3 a rest ih =>
    rw [List.cons_append, renderLines]
    exact ih (by simpa using h)
  | case4 last group a rest hindent ih =>
    rw [List.cons_append, renderLines, if_pos hindent]
    exact ih (by simpa using h)
  | case5 last group a rest hindent ih =>
    rw [List.cons_append, renderLines, if_neg hindent, ih fun b c hb => h b c ?_, List.append_assoc]
    rw [List.getLast?_append] at hb ⊢
    simpa [List.getLast?_cons] using hb

/-- Assignments of one indentation are written as one group. -/
theorem renderLines_run (hgroup : ∀ a ∈ group, a.indent = indent) (hrun : ∀ a ∈ run, a.indent = indent) :
    renderLines group (run.map Line.assignment) = renderGroup (group.reverse ++ run) := by
  induction run generalizing group with
  | nil => simp [renderLines]
  | cons a run ih =>
    have ha : a.indent = indent := hrun a List.mem_cons_self
    have hall : ∀ b ∈ a :: group, b.indent = indent := List.forall_mem_cons.mpr ⟨ha, hgroup⟩
    have hnext := ih hall fun b hb => hrun b (List.mem_cons_of_mem a hb)
    rw [List.reverse_cons, List.append_assoc, List.singleton_append] at hnext
    cases group with
    | nil => simpa [renderLines] using hnext
    | cons last group =>
      have hlast : last.indent = a.indent := (hgroup last List.mem_cons_self).trans ha.symm
      rwa [List.map_cons, renderLines, if_pos hlast]

/-- A maximal run of assignments of one indentation is written as a group of its own. -/
theorem renderLines_maximal (hne : run ≠ []) (hrun : ∀ a ∈ run, a.indent = indent)
    (hbefore : ∀ a, before.getLast? = some (.assignment a) → a.indent ≠ indent)
    (hafter : ∀ a, after.head? = some (.assignment a) → a.indent ≠ indent) :
    renderLines [] (before ++ (run.map Line.assignment ++ after)) =
      renderLines [] before ++ (renderGroup run ++ renderLines [] after) := by
  have hfirst : renderLines [] (before ++ (run.map Line.assignment ++ after)) =
      renderLines [] before ++ renderLines [] (run.map Line.assignment ++ after) := by
    refine renderLines_apart fun a b ha hb => ?_
    obtain ⟨first, rest, rfl⟩ := List.exists_cons_of_ne_nil hne
    obtain rfl : first = b := by simpa using hb
    rw [hrun first List.mem_cons_self]
    exact hbefore a (by simpa using ha)
  have hlast : renderLines [] (run.map Line.assignment ++ after) =
      renderLines [] (run.map Line.assignment) ++ renderLines [] after := by
    refine renderLines_apart fun a b ha hb => ?_
    have hmem : Line.assignment a ∈ run.map Line.assignment := List.mem_of_getLast? (by simpa using ha)
    rw [hrun a (by simpa using hmem)]
    exact (hafter b hb).symm
  rw [hfirst, hlast, renderLines_run (List.forall_mem_nil _) hrun]
  rfl

end Groups

/-! Runs of assignments, and where their signs stand -/

/-- The number of blanks before the assignment of a line, and its key, if the line starts in plain code and holds one. -/
def assignmentAt? (ls : List (List Char)) (i : Nat) : Option (Nat × List Char) :=
  if (Scanner.before {} ls i).atCodeStart then
    ls[i]?.bind fun line => (assignment? 0 (trimChars line)).map fun a => ((line.takeWhile isBlank).length, a.key)
  else none

/-- A maximal run of adjacent lines that hold assignments with `margin` blanks before them. -/
structure IsRun (ls : List (List Char)) (margin start : Nat) (keys : List (List Char)) : Prop where
  nonempty : keys ≠ []
  assigns : ∀ (i : Nat) (h : i < keys.length), assignmentAt? ls (start + i) = some (margin, keys[i])
  first : start ≠ 0 → (assignmentAt? ls (start - 1)).map Prod.fst ≠ some margin
  last : (assignmentAt? ls (start + keys.length)).map Prod.fst ≠ some margin

/-- The length of the longest key. -/
def longest (keys : List (List Char)) : Nat := (keys.map List.length).foldl Nat.max 0

theorem le_foldl_max (ns : List Nat) (m : Nat) : m ≤ ns.foldl Nat.max m ∧ ∀ n ∈ ns, n ≤ ns.foldl Nat.max m := by
  induction ns generalizing m with
  | nil => simp
  | cons k ns ih =>
    obtain ⟨hfirst, hrest⟩ := ih (Nat.max m k)
    exact ⟨(Nat.le_max_left m k).trans hfirst, List.forall_mem_cons.mpr ⟨(Nat.le_max_right m k).trans hfirst, hrest⟩⟩

theorem length_le_widest {run : List Assignment} {a : Assignment} (h : a ∈ run) : a.key.length ≤ widest run :=
  (le_foldl_max _ 0).2 _ (List.mem_map_of_mem h)

theorem widest_eq_longest (run : List Assignment) : widest run = longest (run.map Assignment.key) := by
  rw [longest, List.map_map]
  rfl

section Render

variable {gap rest : List Char} {a : Assignment}

/-- As many blanks stand before a key as its indentation says. -/
theorem takeWhile_isBlank_render (h : Parts a gap rest) (width : Nat) :
    (a.render width).takeWhile isBlank = indentation a.indent := by
  obtain ⟨first, more, hkey, -⟩ := h.start
  have hfirst : isBlank first = false := h.head? (by simp [hkey])
  simp only [Assignment.render, hkey, List.append_assoc, List.cons_append]
  rw [List.takeWhile_append_of_pos (isBlank_indentation a.indent), List.takeWhile_cons_of_neg (by simp [hfirst]),
    List.append_nil]

/-- The sign of an assignment stands one blank behind the place that its key is padded to. -/
theorem idxOf_render (h : Parts a gap rest) {width : Nat} (hwidth : a.key.length ≤ width) :
    (a.render width).idxOf '=' = 2 * a.indent + width + 1 := by
  have hcut : a.render width = indentation a.indent ++ a.key ++ List.replicate (width - a.key.length) ' ' ++ [' '] ++
      '=' :: ' ' :: a.value := by simp [Assignment.render]
  have hkey : '=' ∉ a.key := fun hmem => absurd (h.key _ hmem) (by decide)
  have hfront : '=' ∉ indentation a.indent ++ a.key ++ List.replicate (width - a.key.length) ' ' ++ [' '] := by
    simp [indentation, hkey]
  rw [hcut, List.idxOf_append_of_notMem hfront, List.idxOf_cons_self]
  simp only [indentation, List.length_append, List.length_replicate, List.length_singleton]
  omega

end Render

section Runs

variable {ls : List (List Char)} {i margin start : Nat} {key : List Char} {keys : List (List Char)}

theorem getElem?_layLines (s : Scanner) (ls : List (List Char)) (i : Nat) :
    (layLines s ls)[i]? = ls[i]?.map (layLine (s.before ls i)) := by
  induction ls generalizing s i with
  | nil => simp [layLines]
  | cons line rest ih =>
    cases i with
    | zero => rfl
    | succ i => exact ih (s.next line) i

theorem parts_of_mem_layLines {s : Scanner} {a : Assignment} (h : .assignment a ∈ layLines s ls) :
    ∃ gap rest, Parts a gap rest := by
  obtain ⟨i, hi⟩ := List.mem_iff_getElem?.mp h
  rw [getElem?_layLines] at hi
  obtain ⟨line, -, hlay⟩ := Option.map_eq_some_iff.mp hi
  cases hcode : (s.before ls i).atCodeStart with
  | false => simp [layLine, hcode] at hlay
  | true =>
    obtain ⟨-, gap, rest, hparts, -⟩ := parts_of_layLine hcode hlay
    exact ⟨gap, rest, hparts⟩

/-- An assignment in a layout is what its line was written from. -/
theorem assignmentAt?_eq_some_iff (hshows : List.Forall₂ Shows (layLines {} ls) ls) :
    assignmentAt? ls i = some (margin, key) ↔ ∃ a, (layLines {} ls)[i]? = some (.assignment a) ∧
      2 * a.indent = margin ∧ a.key = key := by
  rw [getElem?_layLines]
  cases hline : ls[i]? with
  | none => simp [assignmentAt?, hline]
  | some line =>
    have hshown := (getElem?_of_forall_shows hshows).2 i line line hline hline
    generalize hs : Scanner.before {} ls i = s at hshown ⊢
    have hmargin {a : Assignment} {gap rest : List Char} (hlay : layLine s line = .assignment a)
        (hparts : Parts a gap rest) : (line.takeWhile isBlank).length = 2 * a.indent := by
      rw [hlay] at hshown
      obtain ⟨width, hwidth⟩ := hshown
      rw [hwidth, takeWhile_isBlank_render hparts, indentation, List.length_replicate]
    simp only [assignmentAt?, hs, hline, Option.bind_some, Option.map_some]
    constructor
    · intro h
      split at h
      · rename_i hcode
        obtain ⟨a, hassignment, ha⟩ := Option.map_eq_some_iff.mp h
        obtain ⟨-, gap, rest, hparts, htrim⟩ := assignment?_eq_some hassignment
        have hparts' : Parts { a with indent := s.depth } gap rest :=
          ⟨hparts.start, hparts.key, hparts.gap, hparts.value, hparts.sign⟩
        have hlay := hparts'.layLine hcode rfl htrim
        obtain ⟨rfl, rfl⟩ := Prod.mk.inj ha
        exact ⟨_, congrArg some hlay, (hmargin hlay hparts').symm, rfl⟩
      · cases h
    · rintro ⟨a, hlay, rfl, rfl⟩
      have hlay := Option.some.inj hlay
      cases hcode : s.atCodeStart with
      | false => simp [layLine, hcode] at hlay
      | true =>
        obtain ⟨-, gap, rest, hparts, htrim⟩ := parts_of_layLine hcode hlay
        have hparts' : Parts { a with indent := 0 } gap rest :=
          ⟨hparts.start, hparts.key, hparts.gap, hparts.value, hparts.sign⟩
        have hassignment : assignment? 0 (trimChars line) = some { a with indent := 0 } := by
          rw [htrim]
          exact hparts'.assignment?
        rw [if_pos rfl, hassignment, ← hmargin hlay hparts]
        rfl

/-- Adjacent assignments are a stretch of the lines. -/
theorem exists_run {p : Assignment → Prop} (lines : List Line) (keys : List (List Char)) (start : Nat)
    (h : ∀ (i : Nat) (hi : i < keys.length), ∃ a, lines[start + i]? = some (.assignment a) ∧ p a ∧ a.key = keys[i]) :
    ∃ run : List Assignment, run.map Assignment.key = keys ∧ (∀ a ∈ run, p a) ∧
      lines.drop start = run.map Line.assignment ++ lines.drop (start + keys.length) := by
  induction keys generalizing start with
  | nil => exact ⟨[], rfl, by simp, rfl⟩
  | cons key keys ih =>
    obtain ⟨a, hfirst, hp, hkey⟩ := h 0 (Nat.zero_lt_succ _)
    have hrest (i : Nat) (hi : i < keys.length) :
        ∃ a, lines[start + 1 + i]? = some (.assignment a) ∧ p a ∧ a.key = keys[i] := by
      have hnext := h (i + 1) (Nat.succ_lt_succ hi)
      rwa [show start + (i + 1) = start + 1 + i by omega] at hnext
    obtain ⟨run, hkeys, hall, hdrop⟩ := ih (start + 1) hrest
    obtain ⟨hlt, hget⟩ := List.getElem?_eq_some_iff.mp hfirst
    refine ⟨a :: run, by rw [List.map_cons, hkeys, hkey]; rfl, List.forall_mem_cons.mpr ⟨hp, hall⟩, ?_⟩
    rw [Nat.add_zero] at hlt
    rw [List.drop_eq_getElem_cons hlt, hdrop, List.map_cons, List.cons_append, List.length_cons,
      show start + (keys.length + 1) = start + 1 + keys.length by omega]
    simpa using hget

/-- In lines that are their own layout, the signs of a run stand one blank behind its longest key. -/
theorem idxOf_of_isRun (hself : renderLines [] (layLines {} ls) = ls) (h : IsRun ls margin start keys) :
    ∀ i < keys.length, ∃ line, ls[start + i]? = some line ∧ line.idxOf '=' = margin + longest keys + 1 := by
  have hshows : List.Forall₂ Shows (layLines {} ls) ls := by
    conv => arg 3; rw [← hself]
    exact shows_renderLines [] _
  obtain ⟨run, rfl, hrun, hdrop⟩ := exists_run (layLines {} ls) keys start (p := fun a => 2 * a.indent = margin)
    fun i hi => (assignmentAt?_eq_some_iff hshows).mp (h.assigns i hi)
  have hne : run ≠ [] := fun hnil => h.nonempty (by rw [hnil]; rfl)
  have houtside {i : Nat} (hi : (assignmentAt? ls i).map Prod.fst ≠ some margin) (a : Assignment)
      (ha : (layLines {} ls)[i]? = some (.assignment a)) : a.indent ≠ margin / 2 := by
    intro hindent
    obtain ⟨first, hfirst⟩ := List.exists_mem_of_ne_nil run hne
    have hmargin := hrun first hfirst
    have hat := (assignmentAt?_eq_some_iff hshows).mpr ⟨a, ha, rfl, rfl⟩
    refine hi ?_
    rw [hat, Option.map_some, show 2 * a.indent = margin by omega]
  have hlines : layLines {} ls = (layLines {} ls).take start ++ (run.map Line.assignment ++
      (layLines {} ls).drop (start + run.length)) := by
    rw [← List.length_map (f := Assignment.key), ← hdrop, List.take_append_drop]
  have hstart : ((layLines {} ls).take start).length = start := by
    have hlength := congrArg List.length hdrop
    have hpos := List.length_pos_of_ne_nil hne
    simp only [List.length_drop, List.length_append, List.length_map] at hlength
    rw [List.length_take]
    omega
  have hindent : ∀ a ∈ run, a.indent = margin / 2 := by
    intro a ha
    have := hrun a ha
    omega
  have hbefore : ∀ a, ((layLines {} ls).take start).getLast? = some (.assignment a) → a.indent ≠ margin / 2 := by
    intro a ha
    rw [List.getLast?_eq_getElem?, hstart] at ha
    by_cases hzero : start = 0
    · simp [hzero] at ha
    · rw [List.getElem?_take_of_lt (by omega)] at ha
      exact houtside (h.first hzero) a ha
  have hafter : ∀ a, ((layLines {} ls).drop (start + run.length)).head? = some (.assignment a) →
      a.indent ≠ margin / 2 := by
    intro a ha
    rw [List.head?_drop] at ha
    exact houtside (by simpa using h.last) a ha
  have hwritten : ls = renderLines [] ((layLines {} ls).take start) ++ (renderGroup run ++
      renderLines [] ((layLines {} ls).drop (start + run.length))) := by
    rw [← renderLines_maximal hne hindent hbefore hafter, ← hlines, hself]
  intro i hi
  have hi : i < run.length := by simpa using hi
  have hwidth : run[i].key.length ≤ widest run := length_le_widest (List.getElem_mem hi)
  obtain ⟨gap, rest, hparts⟩ : ∃ gap rest, Parts run[i] gap rest := by
    have hmem : .assignment run[i] ∈ layLines {} ls := by
      rw [hlines]
      simp
    exact parts_of_mem_layLines hmem
  have hfront : (renderLines [] ((layLines {} ls).take start)).length = start := by
    rw [← hstart, ← (shows_renderLines [] _).length_eq]
    simp
  refine ⟨run[i].render (widest run), ?_, ?_⟩
  · rw [hwritten, List.getElem?_append_right (by omega), hfront, Nat.add_sub_cancel_left,
      List.getElem?_append_left (by simpa [renderGroup] using hi)]
    simp [renderGroup, hi]
  · rw [idxOf_render hparts hwidth, hrun _ (List.getElem_mem hi), widest_eq_longest]

end Runs

/-- The signs of a layout are aligned: in each maximal run of adjacent lines that start in plain code and hold assignments
of one indentation they stand in one column, which is the indentation, the longest key and one blank away. -/
theorem signs_aligned (text : String) (h : ∀ line ∈ linesOf text.toList, line.getLast? ≠ some '\r')
    {margin start : Nat} {keys : List (List Char)} (hrun : IsRun (linesOf (format text).toList) margin start keys) :
    ∀ i < keys.length, ∃ line, (linesOf (format text).toList)[start + i]? = some line ∧
      line.idxOf '=' = margin + longest keys + 1 := by
  rw [linesOf_format h] at hrun ⊢
  exact idxOf_of_isRun (renderLines_layLines {} _) hrun

/-- Assignments around a list and a heredoc, each of which ends a run. -/
def unaligned : String :=
  "locals \x7b\n  a=1\n  name   = [\n  ]\n b = <<EOT\n x = 1\nEOT\n  longer= 2\n c = 3\n\x7d\n"

theorem signs_aligned_behind_heredoc :
    format unaligned = "locals \x7b\n  a    = 1\n  name = [\n  ]\n  b = <<EOT\n x = 1\nEOT\n  longer = 2\n  c      = 3\n\x7d\n" ∧
      IsRun (linesOf (format unaligned).toList) 2 7 ["longer".toList, "c".toList] ∧
      ∀ i < 2, ∃ line, (linesOf (format unaligned).toList)[7 + i]? = some line ∧ line.idxOf '=' = 2 + 6 + 1 := by
  -- the characters are given: to read them off the bytes of the text takes longer than to lay them out
  have hchars : unaligned.toList = _ := String.toList_ofList
  have hlines : ∀ line ∈ linesOf unaligned.toList, line.getLast? ≠ some '\r' := by
    rw [hchars]
    decide +kernel
  have hformat : format unaligned =
      "locals \x7b\n  a    = 1\n  name = [\n  ]\n  b = <<EOT\n x = 1\nEOT\n  longer = 2\n  c      = 3\n\x7d\n" := by
    rw [format, formatLines, hchars]
    decide +kernel
  have hshown : (format unaligned).toList = _ := (congrArg String.toList hformat).trans String.toList_ofList
  have hrun : IsRun (linesOf (format unaligned).toList) 2 7 ["longer".toList, "c".toList] := by
    rw [hshown]
    exact ⟨by decide, by decide +kernel, by decide +kernel, by decide +kernel⟩
  exact ⟨hformat, hrun, signs_aligned unaligned hlines hrun⟩

end Terrasmith.Layout
