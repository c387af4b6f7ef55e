import Mathlib.Data.List.Forall2
import Terrasmith.Proofs.Lines

/-!
The layout of a laid out text. Blanks at the ends of a line and around the equals sign of an assignment open and close
nothing, so a line that has been laid out is read as the line it was made from: it leaves open the same and is laid out
the same again.
-/
namespace Terrasmith.Layout

open Terrasmith.Text

/-- Characters that open and close nothing in plain code, whatever stands around them. -/
def isQuiet (c : Char) : Bool :=
  !(c = '#' || c = '/' || c = '"' || c = '<' || isOpening c || isClosing c)

theorem isQuiet_of {p : Char → Bool} (h : ['#', '/', '"', '<', '{', '[', '(', '}', ']', ')'].all (fun c => !p c) = true)
    {c : Char} (hc : p c = true) : isQuiet c = true := by
  by_contra hloud
  have hmem : c ∈ ['#', '/', '"', '<', '{', '[', '(', '}', ']', ')'] := by
    simp only [isQuiet, isOpening, isClosing, Bool.not_eq_true', Bool.not_eq_false, Bool.or_eq_true,
      decide_eq_true_eq] at hloud
    simp only [List.mem_cons, List.not_mem_nil, or_false]
    tauto
  have hp := List.all_eq_true.mp h c hmem
  rw [hc] at hp
  cases hp

theorem isQuiet_of_isBlank {c : Char} (h : isBlank c = true) : isQuiet c = true := isQuiet_of (by decide) h

theorem isQuiet_of_isKeyChar {c : Char} (h : isKeyChar c = true) : isQuiet c = true := isQuiet_of (by decide) h

/-- The numbers of the characters that are blanks. -/
def blankCodes : List Nat :=
  [9, 10, 11, 12, 13, 32, 0x85, 0xa0, 0x1680, 0x2000, 0x2001, 0x2002, 0x2003, 0x2004, 0x2005, 0x2006, 0x2007, 0x2008,
    0x2009, 0x200a, 0x2028, 0x2029, 0x202f, 0x205f, 0x3000]

theorem toNat_of_isBlank {c : Char} (h : isBlank c = true) : c.toNat ∈ blankCodes := by
  simp only [isBlank, Bool.or_eq_true, Bool.and_eq_true, decide_eq_true_eq] at h
  simp only [blankCodes, List.mem_cons, List.not_mem_nil, or_false]
  omega

/-- What holds of no blank character fails for one that is blank. -/
theorem eq_false_of_isBlank {p : Char → Bool} (hall : blankCodes.all (fun n => !p (Char.ofNat n)) = true) {c : Char}
    (h : isBlank c = true) : p c = false := by
  have hc := List.all_eq_true.mp hall _ (toNat_of_isBlank h)
  rwa [Char.ofNat_toNat, Bool.not_eq_true'] at hc

/-- Blanks end a key. -/
theorem isKeyChar_of_isBlank {c : Char} (h : isBlank c = true) : isKeyChar c = false :=
  eq_false_of_isBlank (by decide +kernel) h

namespace Scanner

variable {s : Scanner}

/-- In plain code quiet characters are passed over. -/
theorem scan_quiet (hcomment : s.blockComment = false) (hstack : s.stack = []) {u : List Char}
    (hu : ∀ c ∈ u, isQuiet c = true) (rest : List Char) : s.scan false (u ++ rest) = s.scan false rest := by
  induction u with
  | nil => rfl
  | cons c u ih =>
    have hc := hu c List.mem_cons_self
    simp only [isQuiet, Bool.not_eq_true', Bool.or_eq_false_iff, decide_eq_false_iff_not] at hc
    obtain ⟨⟨⟨⟨⟨hhash, hslash⟩, hquote⟩, hless⟩, hopening⟩, hclosing⟩ := hc
    have hstep : s.step c (u ++ rest) = (s, .self) := by
      simp [step, hcomment, hstack, hhash, hslash, hquote, hless, hopening, hclosing]
    rw [List.cons_append, scan, hstep]
    exact ih fun d hd => hu d (List.mem_cons_of_mem c hd)

theorem ne_of_isBlank {c d : Char} (hd : isBlank d = true) (hc : isBlank c = false) : d ≠ c := by
  rintro rfl
  rw [hc] at hd
  cases hd

/-- Blanks open and close nothing, wherever they stand. -/
theorem scan_blanks {blanks : List Char} (h : ∀ c ∈ blanks, isBlank c = true) (skip : Bool) :
    s.scan skip blanks = s := by
  induction blanks generalizing skip with
  | nil => cases skip <;> rfl
  | cons c rest ih =>
    have hrest := ih fun d hd => h d (List.mem_cons_of_mem c hd)
    have hc := h c List.mem_cons_self
    have hne : ∀ d, isBlank d = false → c ≠ d := fun d => ne_of_isBlank hc
    cases skip with
    | true => exact hrest false
    | false =>
      have hopening : isOpening c = false := by
        simp [isOpening, hne '{' (by decide), hne '[' (by decide), hne '(' (by decide)]
      have hclosing : isClosing c = false := by
        simp [isClosing, hne '}' (by decide), hne ']' (by decide), hne ')' (by decide)]
      have hstep : s.step c rest = (s, .self) := by
        unfold step
        simp only [hne '*' (by decide), hne '\\' (by decide), hne '"' (by decide), hne '$' (by decide),
          hne '%' (by decide), hne '#' (by decide), hne '/' (by decide), hne '<' (by decide), hopening, hclosing,
          false_and, or_self, if_false, Bool.false_eq_true]
        split
        · rfl
        · split <;> rfl
      rw [scan, hstep]
      exact hrest false

theorem heredocMarker?_append {blanks : List Char} (h : ∀ c ∈ blanks, isBlank c = true) (rest : List Char) :
    heredocMarker? (rest ++ blanks) = heredocMarker? rest := by
  have hdash : (rest ++ blanks).dropWhile (· = '-') = rest.dropWhile (· = '-') ++ blanks := by
    rw [List.dropWhile_append]
    split
    · rename_i hempty
      rw [List.isEmpty_iff.mp hempty, List.nil_append]
      cases blanks with
      | nil => rfl
      | cons c blanks =>
        refine List.dropWhile_cons_of_neg ?_
        simpa using ne_of_isBlank (h c List.mem_cons_self) (by decide)
    · rfl
  have htrim : trimChars ((rest ++ blanks).dropWhile (· = '-')) = trimChars (rest.dropWhile (· = '-')) := by
    rw [hdash]
    exact trimChars_blanks (List.forall_mem_nil _) h _
  unfold heredocMarker?
  rw [htrim]

theorem head?_append_ne {blanks : List Char} (h : ∀ c ∈ blanks, isBlank c = true) {d : Char}
    (hd : isBlank d = false) (rest : List Char) :
    (rest ++ blanks).head? = some d ↔ rest.head? = some d := by
  cases rest with
  | cons c rest => rfl
  | nil =>
    cases blanks with
    | nil => rfl
    | cons c blanks => simpa using ne_of_isBlank (h c List.mem_cons_self) hd

/-- A character does the same whether blanks end its line or not. -/
theorem step_append {blanks : List Char} (h : ∀ c ∈ blanks, isBlank c = true) (c : Char) (rest : List Char) :
    s.step c (rest ++ blanks) = s.step c rest := by
  have hslash := head?_append_ne h (d := '/') (by decide) rest
  have hstar := head?_append_ne h (d := '*') (by decide) rest
  have hbrace := head?_append_ne h (d := '{') (by decide) rest
  have hless := head?_append_ne h (d := '<') (by decide) rest
  unfold step
  simp only [hslash, hstar, hbrace, hless]
  split
  · rfl
  · split
    · rfl
    · by_cases hheredoc : rest.head? = some '<'
      · have htail : (rest ++ blanks).tail = rest.tail ++ blanks := by
          cases rest with
          | nil => cases hheredoc
          | cons d rest => rfl
        rw [htail, heredocMarker?_append h]
      · simp only [hheredoc, false_and, and_false, if_false]

/-- Blanks at the end of a line do not matter. -/
theorem scan_append {blanks : List Char} (h : ∀ c ∈ blanks, isBlank c = true) (skip : Bool) (chars : List Char) :
    s.scan skip (chars ++ blanks) = s.scan skip chars := by
  induction chars generalizing skip s with
  | nil =>
    rw [List.nil_append, scan_blanks h]
    cases skip <;> rfl
  | cons c rest ih =>
    cases skip with
    | true => exact ih false
    | false =>
      rw [List.cons_append, scan, scan, step_append h]
      split
      · rfl
      · exact ih false
      · exact ih true

theorem atCodeStart_iff : s.atCodeStart = true ↔ s.heredoc = none ∧ s.blockComment = false ∧ s.stack = [] := by
  simp [atCodeStart, and_assoc]

theorem next_of_code (h : s.atCodeStart = true) (line : List Char) : s.next line = s.scan false line := by
  obtain ⟨hheredoc, -, -⟩ := atCodeStart_iff.mp h
  simp [next, hheredoc]

/-- What a line of code leaves open is seen without the blanks at its ends. -/
theorem next_trimChars (h : s.atCodeStart = true) (line : List Char) : s.next (trimChars line) = s.next line := by
  obtain ⟨-, hcomment, hstack⟩ := atCodeStart_iff.mp h
  obtain ⟨before, after, hline, hbefore, hafter⟩ := exists_trimChars line
  rw [next_of_code h, next_of_code h]
  conv_rhs => rw [hline]
  rw [scan_append hafter, scan_quiet hcomment hstack fun c hc => isQuiet_of_isBlank (hbefore c hc)]

end Scanner

/-- The parts of an assignment: a key, and a value behind an equals sign that stands for itself. -/
structure Parts (a : Assignment) (gap rest : List Char) : Prop where
  start : ∃ first more, a.key = first :: more ∧ isKeyStart first = true
  key : ∀ c ∈ a.key, isKeyChar c = true
  gap : ∀ c ∈ gap, isBlank c = true
  value : trimStartChars rest = a.value
  sign : rest.head? ≠ some '=' ∧ rest.head? ≠ some '>'

variable {indent : Nat} {line gap rest : List Char} {a : Assignment}

theorem takeWhile_dropWhile_of_head {p : Char → Bool} {u v : List Char} (hu : ∀ c ∈ u, p c = true)
    (hv : ∀ c, v.head? = some c → p c = false) : (u ++ v).takeWhile p = u ∧ (u ++ v).dropWhile p = v := by
  have hstop : v.takeWhile p = [] ∧ v.dropWhile p = v := by
    cases v with
    | nil => exact ⟨rfl, rfl⟩
    | cons c v => simp [hv c rfl]
  rw [List.takeWhile_append_of_pos hu, List.dropWhile_append_of_pos hu, hstop.1, hstop.2, List.append_nil]
  exact ⟨rfl, rfl⟩

theorem Parts.assignment? (h : Parts a gap rest) :
    assignment? a.indent (a.key ++ gap ++ '=' :: rest) = some a := by
  obtain ⟨first, more, hkey, hfirst⟩ := h.start
  have hstop : ∀ c, (gap ++ '=' :: rest).head? = some c → isKeyChar c = false := by
    intro c hc
    cases hgap : gap with
    | nil =>
      obtain rfl : '=' = c := by simpa [hgap] using hc
      decide
    | cons d more =>
      obtain rfl : d = c := by simpa [hgap] using hc
      exact isKeyChar_of_isBlank (h.gap d (by simp [hgap]))
  obtain ⟨htake, hdrop⟩ := takeWhile_dropWhile_of_head h.key hstop
  have hsign : trimStartChars (gap ++ '=' :: rest) = '=' :: rest := by
    rw [trimStartChars_append h.gap]
    exact List.dropWhile_cons_of_neg (by decide)
  rw [List.append_assoc, Layout.assignment?.eq_def]
  split
  · rename_i heq
    simp [hkey] at heq
  · rename_i c tail heq
    obtain rfl : c = first := by
      rw [hkey] at heq
      simpa using (List.cons.inj heq).1.symm
    simp only [hfirst, Bool.not_true, Bool.false_eq_true, if_false, htake, hdrop, hsign, h.value]
    split
    · exact absurd rfl h.sign.1
    · exact absurd rfl h.sign.2
    · rfl

theorem assignment?_eq_some (h : assignment? indent line = some a) :
    a.indent = indent ∧ ∃ gap rest, Parts a gap rest ∧ line = a.key ++ gap ++ '=' :: rest := by
  rw [Layout.assignment?.eq_def] at h
  split at h
  · cases h
  · rename_i first tail
    split at h
    · cases h
    · rename_i hfirst
      dsimp only at h
      split at h
      · rename_i rest hrest
        have hcut : first :: tail = (first :: tail).takeWhile isKeyChar ++
            ((first :: tail).dropWhile isKeyChar).takeWhile isBlank ++ '=' :: rest := by
          rw [← hrest, List.append_assoc, trimStartChars, List.takeWhile_append_dropWhile,
            List.takeWhile_append_dropWhile]
        have hstart : isKeyStart first = true := by simpa using hfirst
        split at h
        · cases h
        · cases h
        · rename_i hequals harrow
          obtain rfl := Option.some.inj h
          refine ⟨rfl, _, rest, ⟨⟨first, tail.takeWhile isKeyChar, ?_, hstart⟩, fun c => List.mem_takeWhile_imp,
            fun c => List.mem_takeWhile_imp, rfl, ?_, ?_⟩, hcut⟩
          · have hkey : isKeyChar first = true := by
              simp only [isKeyStart, Bool.or_eq_true] at hstart
              simp only [isKeyChar, isAlphanumeric, Bool.or_eq_true]
              tauto
            exact List.takeWhile_cons_of_pos hkey
          · cases rest with
            | nil => simp
            | cons c rest =>
              simp only [List.head?_cons, ne_eq, Option.some.injEq]
              rintro rfl
              exact hequals _ rfl
          · cases rest with
            | nil => simp
            | cons c rest =>
              simp only [List.head?_cons, ne_eq, Option.some.injEq]
              rintro rfl
              exact harrow _ rfl
      · cases h

/-- How a line may be shown: a text as it is, an assignment with its key padded to some width. -/
def Shows : Line → List Char → Prop
  | .text chars, shown => shown = chars
  | .assignment a, shown => ∃ width, shown = a.render width

theorem shows_renderGroup (group : List Assignment) :
    List.Forall₂ Shows (group.map Line.assignment) (renderGroup group) := by
  unfold renderGroup
  rw [List.forall₂_map_left_iff, List.forall₂_map_right_iff, List.forall₂_same]
  exact fun a _ => ⟨_, rfl⟩

/-- Every line is shown in its place. -/
theorem shows_renderLines (group : List Assignment) (ls : List Line) :
    List.Forall₂ Shows (group.reverse.map Line.assignment ++ ls) (renderLines group ls) := by
  fun_induction renderLines group ls with
  | case1 group => simpa using shows_renderGroup group.reverse
  | case2 group chars rest ih =>
    exact List.rel_append (shows_renderGroup group.reverse) (.cons rfl ih)
  | case3 a rest ih => exact ih
  | case4 last group a rest hindent ih => simpa using ih
  | case5 last group a rest hindent ih =>
    exact List.rel_append (shows_renderGroup (last :: group).reverse) ih

/-- Texts at the end of some lines are written behind what the lines before them are written as. -/
theorem renderLines_append (group : List Assignment) (ls : List Line) (texts : List (List Char)) :
    renderLines group (ls ++ texts.map Line.text) = renderLines group ls ++ texts := by
  fun_induction renderLines group ls with
  | case1 group =>
    induction texts generalizing group with
    | nil => simp [renderLines]
    | cons chars rest ih =>
      have hrest : renderLines [] (rest.map Line.text) = rest := by simpa [renderGroup] using ih []
      simp [renderLines, hrest]
  | case2 group chars rest ih => simp [renderLines, ih]
  | case3 a rest ih => simpa [renderLines] using ih
  | case4 last group a rest hindent ih => simpa [renderLines, hindent] using ih
  | case5 last group a rest hindent ih => simp [renderLines, hindent, ih]

section Relaying

variable {s : Scanner} {line shown : List Char}

theorem isBlank_indentation (indent : Nat) : ∀ c ∈ indentation indent, isBlank c = true := by
  intro c hc
  obtain rfl := List.eq_of_mem_replicate hc
  decide

/-- A line that does not start in plain code is shown as it is. -/
theorem eq_of_shows (hs : s.atCodeStart = false) (h : Shows (layLine s line) shown) : shown = line := by
  simpa [layLine, hs, Shows] using h

theorem layLine_of_code (h : s.atCodeStart = true) {trimmed : List Char} (htrim : trimChars line = trimmed) :
    layLine s line = match assignment? (s.depth - (trimmed.takeWhile isClosing).length) trimmed with
      | some a => .assignment a
      | none => .text (if trimmed.isEmpty then [] else
          indentation (s.depth - (trimmed.takeWhile isClosing).length) ++ trimmed) := by
  subst htrim
  unfold layLine
  exact if_pos h

theorem isClosing_of_isKeyStart {c : Char} (h : isKeyStart c = true) : isClosing c = false := by
  by_contra hclosing
  simp only [isClosing, Bool.not_eq_false, Bool.or_eq_true, decide_eq_true_eq] at hclosing
  rcases hclosing with (rfl | rfl) | rfl <;> exact absurd h (by decide)

/-- A key closes nothing. -/
theorem Parts.takeWhile_isClosing (h : Parts a gap rest) :
    (a.key ++ gap ++ '=' :: rest).takeWhile isClosing = [] := by
  obtain ⟨first, more, hkey, hfirst⟩ := h.start
  rw [hkey]
  exact List.takeWhile_cons_of_neg (by simp [isClosing_of_isKeyStart hfirst])

theorem Parts.eq_append_value (h : Parts a gap rest) :
    a.key ++ gap ++ '=' :: rest = a.key ++ gap ++ ['='] ++ rest.takeWhile isBlank ++ a.value := by
  rw [← h.value, trimStartChars, List.append_assoc (a.key ++ gap ++ ['=']), List.takeWhile_append_dropWhile]
  simp

/-- The value ends where the line does. -/
theorem Parts.getLast?_value (h : Parts a gap rest) (hline : trimChars line = a.key ++ gap ++ '=' :: rest) :
    ∀ c, a.value.getLast? = some c → isBlank c = false := by
  intro c hc
  refine @getLast?_trimChars line c ?_
  rw [hline, h.eq_append_value, List.getLast?_append, hc]
  rfl

/-- What an assignment leaves open is seen from its value. -/
theorem Parts.next (h : Parts a gap rest) (hs : s.atCodeStart = true) :
    s.next (a.key ++ gap ++ '=' :: rest) = s.scan false a.value := by
  obtain ⟨-, hcomment, hstack⟩ := Scanner.atCodeStart_iff.mp hs
  have hquiet : ∀ c ∈ a.key ++ gap ++ ['='] ++ rest.takeWhile isBlank, isQuiet c = true := by
    simp only [List.mem_append, List.mem_singleton]
    rintro c (((hc | hc) | rfl) | hc)
    · exact isQuiet_of_isKeyChar (h.key c hc)
    · exact isQuiet_of_isBlank (h.gap c hc)
    · decide
    · exact isQuiet_of_isBlank (List.mem_takeWhile_imp hc)
  rw [Scanner.next_of_code hs, h.eq_append_value, Scanner.scan_quiet hcomment hstack hquiet]

theorem Parts.head? (h : Parts a gap rest) {c : Char} (hc : (a.key ++ gap ++ '=' :: rest).head? = some c) :
    isBlank c = false := by
  obtain ⟨first, more, hkey, -⟩ := h.start
  obtain rfl : first = c := by simpa [hkey] using hc
  by_contra hblank
  have hchar := h.key first (by simp [hkey])
  rw [isKeyChar_of_isBlank (Bool.not_eq_false _ ▸ hblank)] at hchar
  cases hchar

/-- An assignment that is shown has the same key and value; the blank behind the sign goes with an empty value. -/
theorem Parts.render (h : Parts a gap rest) (hlast : ∀ c, a.value.getLast? = some c → isBlank c = false)
    (width : Nat) : ∃ gap' rest', Parts a gap' rest' ∧ trimChars (a.render width) = a.key ++ gap' ++ '=' :: rest' := by
  have hgap : ∀ c ∈ List.replicate (width - a.key.length) ' ' ++ [' '], isBlank c = true := by
    intro c hc
    rw [← List.replicate_succ'] at hc
    obtain rfl := List.eq_of_mem_replicate hc
    decide
  by_cases hvalue : a.value = []
  · have hparts : Parts a (List.replicate (width - a.key.length) ' ' ++ [' ']) [] :=
      ⟨h.start, h.key, hgap, by rw [hvalue]; rfl, by simp⟩
    refine ⟨_, _, hparts, ?_⟩
    have hcut : a.render width = indentation a.indent ++
        (a.key ++ (List.replicate (width - a.key.length) ' ' ++ [' ']) ++ ['=']) ++ [' '] := by
      simp [Assignment.render, hvalue]
    rw [hcut]
    refine trimChars_between (isBlank_indentation _) (by simp; decide) (fun _ => hparts.head?) ?_
    simp; decide
  · have hstart : trimStartChars (' ' :: a.value) = a.value := by
      have hself : trimStartChars a.value = a.value := by
        rw [← h.value]
        exact List.dropWhile_idempotent _ _
      have hblank : trimStartChars (' ' :: a.value) = trimStartChars a.value :=
        List.dropWhile_cons_of_pos (by decide)
      rw [hblank, hself]
    have hparts : Parts a (List.replicate (width - a.key.length) ' ' ++ [' ']) (' ' :: a.value) :=
      ⟨h.start, h.key, hgap, hstart, by simp⟩
    refine ⟨_, _, hparts, ?_⟩
    have hcut : a.render width = indentation a.indent ++
        (a.key ++ (List.replicate (width - a.key.length) ' ' ++ [' ']) ++ '=' :: ' ' :: a.value) ++ [] := by
      simp [Assignment.render]
    rw [hcut]
    refine trimChars_between (isBlank_indentation _) (List.forall_mem_nil _) (fun _ => hparts.head?) fun c hc =>
      hlast c ?_
    let front := a.key ++ (List.replicate (width - a.key.length) ' ' ++ [' '])
    rwa [← List.getLast?_append_of_ne_nil (front ++ ['=', ' ']) hvalue, List.append_assoc front ['=', ' ']]

/-- A line of code that is laid out as an assignment has its parts between blanks. -/
theorem parts_of_layLine (h : s.atCodeStart = true) (hlay : layLine s line = .assignment a) :
    a.indent = s.depth ∧ ∃ gap rest, Parts a gap rest ∧ trimChars line = a.key ++ gap ++ '=' :: rest := by
  rw [layLine_of_code h rfl] at hlay
  split at hlay
  · rename_i a' hassignment
    obtain rfl : a' = a := by simpa using hlay
    obtain ⟨hindent, gap, rest, hparts, hline⟩ := assignment?_eq_some hassignment
    rw [hline, hparts.takeWhile_isClosing] at hindent
    exact ⟨hindent, gap, rest, hparts, hline⟩
  · cases hlay

theorem Parts.layLine (h : Parts a gap rest) (hs : s.atCodeStart = true) (hindent : a.indent = s.depth)
    (hline : trimChars line = a.key ++ gap ++ '=' :: rest) : layLine s line = .assignment a := by
  rw [layLine_of_code hs hline, h.takeWhile_isClosing, List.length_nil, Nat.sub_zero, ← hindent, h.assignment?]

/-- A line of code that is shown as an assignment is read as that assignment. -/
theorem relay_assignment (h : s.atCodeStart = true) (hlay : layLine s line = .assignment a) (width : Nat) :
    layLine s (a.render width) = .assignment a ∧ s.next (a.render width) = s.next line := by
  obtain ⟨hindent, gap, rest, hparts, hline⟩ := parts_of_layLine h hlay
  obtain ⟨gap', rest', hparts', hshown⟩ := hparts.render (hparts.getLast?_value hline) width
  refine ⟨hparts'.layLine h hindent hshown, ?_⟩
  rw [← Scanner.next_trimChars h, hshown, hparts'.next h, ← hparts.next h, ← hline, Scanner.next_trimChars h]

/-- Another line of code only changes its indentation. -/
theorem text_of_layLine (h : s.atCodeStart = true) (hlay : layLine s line = .text shown) :
    shown = [] ∧ trimChars line = [] ∨ ∃ indent, shown = indentation indent ++ trimChars line := by
  rw [layLine_of_code h rfl] at hlay
  split at hlay
  · cases hlay
  · obtain rfl := Line.text.inj hlay
    split
    · exact .inl ⟨rfl, List.isEmpty_iff.mp ‹_›⟩
    · exact .inr ⟨_, rfl⟩

theorem trimChars_of_layLine (h : s.atCodeStart = true) (hlay : layLine s line = .text shown) :
    trimChars shown = trimChars line := by
  rcases text_of_layLine h hlay with ⟨rfl, hempty⟩ | ⟨indent, rfl⟩
  · rw [hempty]
    rfl
  · have hcut := trimChars_blanks (isBlank_indentation indent) (List.forall_mem_nil _) (trimChars line)
    rwa [List.append_nil, trimChars_trimChars] at hcut

/-- What a line is shown as is laid out as the line itself and leaves open the same. -/
theorem relay_line (hshows : Shows (layLine s line) shown) :
    layLine s shown = layLine s line ∧ s.next shown = s.next line := by
  cases hs : s.atCodeStart with
  | false =>
    obtain rfl := eq_of_shows hs hshows
    exact ⟨rfl, rfl⟩
  | true =>
    cases hlay : layLine s line with
    | assignment a =>
      rw [hlay] at hshows
      obtain ⟨width, rfl⟩ := hshows
      exact relay_assignment hs hlay width
    | text chars =>
      obtain rfl : shown = chars := by rwa [hlay] at hshows
      have htrim := trimChars_of_layLine hs hlay
      rw [← hlay, layLine_of_code hs rfl, layLine_of_code hs rfl, htrim]
      exact ⟨rfl, by rw [← Scanner.next_trimChars hs, htrim, Scanner.next_trimChars hs]⟩

/-- Lines that are shown are laid out as they were. -/
theorem relay {ls shown : List (List Char)} (h : List.Forall₂ Shows (layLines s ls) shown) :
    layLines s shown = layLines s ls := by
  induction ls generalizing s shown with
  | nil =>
    cases h
    rfl
  | cons line rest ih =>
    rw [layLines] at h ⊢
    cases h with
    | cons hfirst hrest =>
      obtain ⟨hlay, hnext⟩ := relay_line hfirst
      rw [layLines, hlay, hnext, ih hrest]

end Relaying

section Whole

variable {s : Scanner} {line shown : List Char}

theorem equals_mem_render (width : Nat) (a : Assignment) : '=' ∈ a.render width := by
  simp [Assignment.render]

/-- Only blank lines are shown as blank lines. -/
theorem blank_of_shows (h : Shows (layLine s line) shown) (hshown : ∀ c ∈ shown, isBlank c = true) :
    ∀ c ∈ line, isBlank c = true := by
  cases hs : s.atCodeStart with
  | false =>
    obtain rfl := eq_of_shows hs h
    exact hshown
  | true =>
    cases hlay : layLine s line with
    | assignment a =>
      rw [hlay] at h
      obtain ⟨width, rfl⟩ := h
      exact absurd (hshown '=' (equals_mem_render width a)) (by decide)
    | text chars =>
      obtain rfl : shown = chars := by rwa [hlay] at h
      rw [← trimChars_eq_nil_iff, ← trimChars_of_layLine hs hlay, trimChars_eq_nil_iff]
      exact hshown

theorem newline_not_mem_render (hparts : Parts a gap rest) (htrim : trimChars line = a.key ++ gap ++ '=' :: rest)
    (hline : '\n' ∉ line) (width : Nat) : '\n' ∉ a.render width := by
  have hkey : '\n' ∉ a.key := fun hmem => absurd (hparts.key _ hmem) (by decide)
  have hvalue : '\n' ∉ a.value := by
    intro hmem
    refine hline (mem_of_mem_trimChars ?_)
    rw [htrim, hparts.eq_append_value]
    exact List.mem_append_right _ hmem
  simp [Assignment.render, indentation, hkey, hvalue]

/-- A line is shown on one line. -/
theorem newline_not_mem_of_shows (h : Shows (layLine s line) shown) (hline : '\n' ∉ line) : '\n' ∉ shown := by
  cases hs : s.atCodeStart with
  | false =>
    obtain rfl := eq_of_shows hs h
    exact hline
  | true =>
    cases hlay : layLine s line with
    | assignment a =>
      rw [hlay] at h
      obtain ⟨width, rfl⟩ := h
      obtain ⟨-, gap, rest, hparts, htrim⟩ := parts_of_layLine hs hlay
      exact newline_not_mem_render hparts htrim hline width
    | text chars =>
      obtain rfl : shown = chars := by rwa [hlay] at h
      rcases text_of_layLine hs hlay with ⟨rfl, -⟩ | ⟨indent, rfl⟩
      · exact List.not_mem_nil
      · have htrim : '\n' ∉ trimChars line := fun hmem => hline (mem_of_mem_trimChars hmem)
        simp [indentation, htrim]

/-- No carriage return ends what is shown, unless one ends the line. -/
theorem getLast?_of_shows (h : Shows (layLine s line) shown) (hline : line.getLast? ≠ some '\r') :
    shown.getLast? ≠ some '\r' := by
  cases hs : s.atCodeStart with
  | false =>
    obtain rfl := eq_of_shows hs h
    exact hline
  | true =>
    cases hlay : layLine s line with
    | assignment a =>
      rw [hlay] at h
      obtain ⟨width, rfl⟩ := h
      obtain ⟨-, gap, rest, hparts, htrim⟩ := parts_of_layLine hs hlay
      rw [Assignment.render, List.getLast?_append]
      cases hlast : a.value.getLast? with
      | none => simp
      | some c =>
        have hblank := hparts.getLast?_value htrim c hlast
        rintro ⟨⟩
        exact absurd hblank (by decide)
    | text chars =>
      obtain rfl : shown = chars := by rwa [hlay] at h
      rcases text_of_layLine hs hlay with ⟨rfl, -⟩ | ⟨indent, rfl⟩
      · simp
      · rw [List.getLast?_append]
        intro hlast
        cases htrim : (trimChars line).getLast? with
        | none =>
          rw [htrim] at hlast
          have hspace := List.eq_of_mem_replicate (List.mem_of_getLast? hlast)
          exact absurd hspace (by decide)
        | some c =>
          have hblank := getLast?_trimChars htrim
          obtain rfl : c = '\r' := by simpa [htrim] using hlast
          exact absurd hblank (by decide)

/-- What holds of a line and is kept when it is shown holds of all lines that are shown. -/
theorem forall_of_forall_shows {p : List Char → Prop}
    (hkeeps : ∀ {s : Scanner} {line shown : List Char}, Shows (layLine s line) shown → p line → p shown)
    {ls texts : List (List Char)} (h : List.Forall₂ Shows (layLines s ls) texts) (hls : ∀ line ∈ ls, p line) :
    ∀ shown ∈ texts, p shown := by
  induction ls generalizing s texts with
  | nil =>
    cases h
    exact fun _ hshown => absurd hshown List.not_mem_nil
  | cons line rest ih =>
    rw [layLines] at h
    cases h with
    | cons hfirst hrest =>
      refine List.forall_mem_cons.mpr ⟨hkeeps hfirst (hls line List.mem_cons_self), ?_⟩
      exact ih hrest fun l hl => hls l (List.mem_cons_of_mem line hl)

theorem forall_newline_not_mem_of_shows {ls texts : List (List Char)} (h : List.Forall₂ Shows (layLines s ls) texts)
    (hls : ∀ line ∈ ls, '\n' ∉ line) : ∀ shown ∈ texts, '\n' ∉ shown :=
  forall_of_forall_shows newline_not_mem_of_shows h hls

theorem isLine_of_shows (h : Shows (layLine s line) shown) (hline : IsLine line) : IsLine shown :=
  ⟨newline_not_mem_of_shows h hline.newline, getLast?_of_shows h hline.carriage⟩

theorem forall_isLine_of_shows {ls texts : List (List Char)} (h : List.Forall₂ Shows (layLines s ls) texts)
    (hls : ∀ line ∈ ls, IsLine line) : ∀ shown ∈ texts, IsLine shown :=
  forall_of_forall_shows isLine_of_shows h hls

theorem layLines_take (s : Scanner) (ls : List (List Char)) (n : Nat) :
    layLines s (ls.take n) = (layLines s ls).take n := by
  induction ls generalizing s n with
  | nil => simp [layLines]
  | cons line rest ih => cases n <;> simp [layLines, ih]

/-- Only empty texts are shown as nothing. -/
theorem eq_texts_of_shows {ls : List Line} {texts : List (List Char)} (h : List.Forall₂ Shows ls texts)
    (hempty : ∀ t ∈ texts, t.isEmpty = true) : ls = texts.map Line.text := by
  induction h with
  | nil => rfl
  | @cons l t ls texts hfirst _ ih =>
    obtain rfl := List.isEmpty_iff.mp (hempty t List.mem_cons_self)
    rw [List.map_cons, ← ih fun t ht => hempty t (List.mem_cons_of_mem _ ht)]
    cases l with
    | text chars =>
      obtain rfl : [] = chars := hfirst
      rfl
    | assignment a =>
      obtain ⟨width, hwidth⟩ := hfirst
      exact absurd (equals_mem_render width a) (by simp [← hwidth])

/-- The lines of a layout, less the empty ones at the end, are laid out as they are. -/
theorem renderLines_layLines (s : Scanner) (ls : List (List Char)) :
    renderLines [] (layLines s ((renderLines [] (layLines s ls)).rdropWhile List.isEmpty)) =
      (renderLines [] (layLines s ls)).rdropWhile List.isEmpty := by
  have hcut := List.rdropWhile_append_rtakeWhile (p := List.isEmpty) (l := renderLines [] (layLines s ls))
  generalize (renderLines [] (layLines s ls)).rdropWhile List.isEmpty = texts at hcut ⊢
  have hempty : ∀ t ∈ (renderLines [] (layLines s ls)).rtakeWhile List.isEmpty, t.isEmpty = true :=
    fun t => List.mem_rtakeWhile_imp
  generalize (renderLines [] (layLines s ls)).rtakeWhile List.isEmpty = tail at hcut hempty
  have hshows : List.Forall₂ Shows (layLines s ls) (texts ++ tail) := hcut ▸ shows_renderLines [] (layLines s ls)
  have htexts := List.forall₂_take_append _ _ _ hshows
  have htail := eq_texts_of_shows (List.forall₂_drop_append _ _ _ hshows) hempty
  have hrelay : layLines s texts = (layLines s ls).take texts.length := by
    rw [← layLines_take] at htexts ⊢
    exact relay htexts
  rw [← List.take_append_drop texts.length (layLines s ls), htail, renderLines_append] at hcut
  rw [hrelay]
  exact (List.append_cancel_right hcut).symm

theorem unlines_concat (ls : List (List Char)) (l : List Char) : unlines (ls ++ [l]) = unlines ls ++ l ++ ['\n'] := by
  simp [unlines]

/-- Newlines at the end of some lines are those of their empty lines at the end. -/
theorem dropWhile_unlines {ls : List (List Char)} (h : ∀ l ∈ ls, '\n' ∉ l) :
    (unlines ls).reverse.dropWhile (· = '\n') = (unlines (ls.rdropWhile List.isEmpty)).reverse.tail := by
  induction ls using List.reverseRecOn with
  | nil => rfl
  | append_singleton ls l ih =>
    have hrest := ih fun l hl => h l (List.mem_append_left _ hl)
    have hreverse : (unlines (ls ++ [l])).reverse = '\n' :: (l.reverse ++ (unlines ls).reverse) := by
      simp [unlines_concat]
    cases hl : l.reverse with
    | nil =>
      obtain rfl : l = [] := List.reverse_eq_nil_iff.mp hl
      rw [List.rdropWhile_concat_pos _ _ _ rfl, hreverse, List.dropWhile_cons_of_pos (by decide)]
      exact hrest
    | cons c more =>
      have hc : c ≠ '\n' := by
        rintro rfl
        have hmem : '\n' ∈ l := List.mem_reverse.mp (by simp [hl])
        exact h l (by simp) hmem
      have hne : ¬ l.isEmpty = true := by
        rw [← List.isEmpty_reverse, hl]
        simp
      rw [List.rdropWhile_concat_neg _ _ _ hne, hreverse, hl, List.dropWhile_cons_of_pos (by decide),
        List.cons_append, List.dropWhile_cons_of_neg (by simpa using hc)]
      rfl

/-- A text ends in a single newline after its last line that is not empty. -/
theorem toList_format (text : String) (h : ∀ line ∈ formatLines text, '\n' ∉ line) :
    (format text).toList = unlines ((formatLines text).rdropWhile List.isEmpty) := by
  have hdrop := dropWhile_unlines h
  generalize hlines : (formatLines text).rdropWhile List.isEmpty = ls at hdrop ⊢
  unfold format
  induction ls using List.reverseRecOn with
  | nil =>
    rw [hdrop]
    rfl
  | append_singleton ls l _ =>
    have hlast : (ls ++ [l]).rdropWhile List.isEmpty = ls ++ [l] := hlines ▸ List.rdropWhile_idempotent _ _
    have hl : l ≠ [] := by
      rintro rfl
      have hne := List.rdropWhile_eq_self_iff.mp hlast (by simp)
      simp at hne
    have htail : (unlines (ls ++ [l])).reverse.tail = l.reverse ++ (unlines ls).reverse := by
      simp [unlines_concat]
    rw [htail] at hdrop
    split
    · rename_i hnil
      rw [hdrop] at hnil
      exact absurd (List.reverse_eq_nil_iff.mp (List.append_eq_nil_iff.mp hnil).1) hl
    · rw [hdrop]
      simp [unlines_concat]

end Whole

theorem shows_formatLines (text : String) :
    List.Forall₂ Shows (layLines {} ((linesOf text.toList).dropWhile fun line => line.all isBlank))
      (formatLines text) :=
  shows_renderLines [] _

/-- The first line of a layout is not blank. -/
theorem head?_formatLines {text : String} {shown : List Char} (h : (formatLines text).head? = some shown) :
    shown.all isBlank = false := by
  have hshows := shows_formatLines text
  have hfirst := List.head?_dropWhile_not (fun line => line.all isBlank) (linesOf text.toList)
  generalize formatLines text = texts at h hshows
  generalize (linesOf text.toList).dropWhile (fun line => line.all isBlank) = ls at hshows hfirst
  cases ls with
  | nil =>
    cases hshows
    cases h
  | cons line rest =>
    rw [layLines] at hshows
    cases hshows with
    | cons hshown _ =>
      obtain rfl := Option.some.inj h
      have hline : line.all isBlank = false := hfirst
      rw [← Bool.not_eq_true, List.all_eq_true] at hline ⊢
      exact fun hblank => hline (blank_of_shows hshown hblank)

/-- Lines of a text are shown as lines, unless a carriage return ends one of them. -/
theorem isLine_formatLines {text : String} (h : ∀ line ∈ linesOf text.toList, line.getLast? ≠ some '\r') :
    ∀ shown ∈ formatLines text, IsLine shown := by
  refine forall_isLine_of_shows (shows_formatLines text) fun line hline => ?_
  have hmem : line ∈ linesOf text.toList := (List.dropWhile_suffix _).subset hline
  exact ⟨newline_not_mem_linesFrom List.not_mem_nil hmem, h line hmem⟩

/-- The lines of a layout are those that were written, less the empty ones at the end. -/
theorem linesOf_format {text : String} (h : ∀ line ∈ linesOf text.toList, line.getLast? ≠ some '\r') :
    linesOf (format text).toList = (formatLines text).rdropWhile List.isEmpty := by
  have hlines := isLine_formatLines h
  have hkept : ∀ line ∈ (formatLines text).rdropWhile List.isEmpty, IsLine line :=
    fun line hline => hlines line ((List.rdropWhile_prefix _ _).subset hline)
  rw [toList_format text fun line hline => (hlines line hline).newline, linesOf_unlines hkept]

/-- A layout is its own layout, whatever the text is and whatever it leaves open. -/
theorem format_format (text : String) (h : ∀ line ∈ linesOf text.toList, line.getLast? ≠ some '\r') :
    format (format text) = format text := by
  have hlines := isLine_formatLines h
  have hfront : (formatLines text).rdropWhile List.isEmpty <+: formatLines text := List.rdropWhile_prefix _ _
  have hformat := toList_format text fun line hline => (hlines line hline).newline
  have hmargin : ((formatLines text).rdropWhile List.isEmpty).dropWhile (fun line => line.all isBlank) =
      (formatLines text).rdropWhile List.isEmpty := by
    cases hcut : (formatLines text).rdropWhile List.isEmpty with
    | nil => rfl
    | cons line rest =>
      obtain ⟨tail, htail⟩ := hfront
      have hfirst : (formatLines text).head? = some line := by
        rw [← htail, hcut]
        rfl
      exact List.dropWhile_cons_of_neg (by simp [head?_formatLines hfirst])
  have hagain : formatLines (format text) = (formatLines text).rdropWhile List.isEmpty := by
    conv_lhs => unfold formatLines
    rw [linesOf_format h, hmargin]
    exact renderLines_layLines {} _
  have hkept : ∀ line ∈ formatLines (format text), '\n' ∉ line := fun line hline =>
    (hlines line (hfront.subset (hagain ▸ hline))).newline
  have htwice := toList_format (format text) hkept
  rw [hagain, List.rdropWhile_idempotent, ← hformat] at htwice
  exact String.toList_inj.mp htwice

/-- A block and a heredoc that are never closed, with both kinds of line ends. -/
def unfinished : String := "\n  locals \x7b\r\na=1\r\nlonger  =[ \t\n\n# end\nb = <<EOT\n  kept \x7d \r\n\n"

theorem format_format_unfinished :
    format unfinished = "locals \x7b\n  a      = 1\n  longer = [\n\n    # end\n    b = <<EOT\n  kept \x7d \n" ∧
      format (format unfinished) = format unfinished := by
  have hlines : ∀ line ∈ linesOf unfinished.toList, line.getLast? ≠ some '\r' := by decide +kernel
  exact ⟨by decide +kernel, format_format unfinished hlines⟩

end Terrasmith.Layout
