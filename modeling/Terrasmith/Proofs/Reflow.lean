import Terrasmith.Proofs.WhiteSpace

/-!
What a layout makes of a text, character by character. Blanks at the two ends of a line come and go, one newline ends
the text, and the sign of an assignment gets a blank behind it and some before it; a line that is written as it stands
only loses a carriage return at its end.
-/
namespace Terrasmith.Layout

open Terrasmith.Text

/-- Blanks of a single line. -/
def IsGap (chars : List Char) : Prop := ∀ c ∈ chars, isBlank c = true ∧ c ≠ '\n'

theorem IsGap.count_newline {chars : List Char} (h : IsGap chars) : chars.count '\n' = 0 :=
  List.count_eq_zero_of_not_mem fun hmem => (h _ hmem).2 rfl

/-- The key of an assignment that is laid out, its sign and the blanks around it, before the value and what follows. -/
structure IsSign (kept : List Bool) (key gap pad rest s : List Char) : Prop where
  laid : kept.head? ≠ some true
  key_ne : key ≠ []
  isKey : ∀ c ∈ key, isKeyChar c = true
  /-- A sign that follows a `for` at once would make a loop of it. -/
  loop : gap = [] → key ≠ "for".toList
  isGap : IsGap gap
  pad_ne : pad ≠ []
  isPad : ∀ c ∈ pad, c = ' '
  isRest : IsGap rest
  value : rest ≠ [] → ∃ c v, s = c :: v ∧ isBlank c = false
  alone : (rest ++ s).head? ≠ some '=' ∧ (rest ++ s).head? ≠ some '>'

/-- What becomes of the rest of a text. `start` says that nothing of the line has been passed but blanks, `kept` which
lines are written as they stand, from the current one on. -/
inductive Reflows : (start : Bool) → (kept : List Bool) → List Char → List Char → Prop
  /-- Blanks at the end of the text. -/
  | done {start : Bool} {kept : List Bool} {s : List Char} (hs : ∀ c ∈ s, isBlank c = true) :
    Reflows start kept s ['\n']
  | char {start : Bool} {kept : List Bool} {c : Char} {s s' : List Char} (hc : c ≠ '\n')
    (hreturn : c = '\r' → s.head? ≠ some '\n') (h : Reflows false kept s s') : Reflows start kept (c :: s) (c :: s')
  /-- The blanks at the end of a line and those at the start of the next one. -/
  | lineEnd {start : Bool} {kept : List Bool} {before after indent s s' : List Char} (hbefore : IsGap before)
    (hafter : IsGap after) (hindent : ∀ c ∈ indent, c = ' ')
    (hkept : kept.head? = some true → before = [] ∨ before = ['\r'])
    (hnext : kept.tail.head? = some true → after = [] ∧ indent = []) (h : Reflows true kept.tail s s') :
    Reflows start kept (before ++ '\n' :: (after ++ s)) ('\n' :: (indent ++ s'))
  | sign {kept : List Bool} {key gap pad rest s s' : List Char} (hsign : IsSign kept key gap pad rest s)
    (h : Reflows false kept s s') :
    Reflows true kept (key ++ (gap ++ '=' :: (rest ++ s))) (key ++ (pad ++ '=' :: ' ' :: s'))

section Reflows

variable {start : Bool} {kept : List Bool} {s s' u : List Char}

theorem Reflows.of_false (h : Reflows false kept s s') : Reflows start kept s s' := by
  cases h with
  | done hs => exact .done hs
  | char hc hreturn h => exact .char hc hreturn h
  | lineEnd hbefore hafter hindent hkept hnext h => exact .lineEnd hbefore hafter hindent hkept hnext h

/-- Characters inside of a line stay. -/
theorem Reflows.append (hu : '\n' ∉ u) (hlast : u.getLast? = some '\r' → s.head? ≠ some '\n')
    (h : Reflows false kept s s') : Reflows false kept (u ++ s) (u ++ s') := by
  induction u with
  | nil => exact h
  | cons c u ih =>
    obtain ⟨hc, hu⟩ : '\n' ≠ c ∧ '\n' ∉ u := by simpa using hu
    cases u with
    | nil => exact .char hc.symm (fun hreturn => hlast (by simp [hreturn])) (ih (by simp) (by simp))
    | cons d u =>
      have hd : d ≠ '\n' := by
        rintro rfl
        exact hu (by simp)
      exact .char hc.symm (fun _ => by simpa using hd) (ih hu fun hu => hlast (by simpa using hu))

end Reflows

section Lines

variable {s : Scanner} {line shown : List Char} {a : Assignment}

theorem IsGap.of_blank {chars : List Char} (hblank : ∀ c ∈ chars, isBlank c = true) (hline : ∀ c ∈ chars, c ∈ line)
    (hnewline : '\n' ∉ line) : IsGap chars := by
  refine fun c hc => ⟨hblank c hc, ?_⟩
  rintro rfl
  exact hnewline (hline _ hc)

/-- What is shown of a line of code besides the blanks at its ends: its text as it is, or the parts of an assignment. -/
def LaidOut (line shown : List Char) : Prop :=
  ∃ before text after indent text', line = before ++ (text ++ after) ∧ shown = indent ++ text' ∧ IsGap before ∧
    IsGap after ∧ (∀ c ∈ indent, c = ' ') ∧ (line = shown → before = [] ∧ after = [] ∧ indent = []) ∧
    ∀ (kept : List Bool) (t t' : List Char), kept.head? = some (line == shown) →
      (∀ c ∈ t.head?, isBlank c = true) → (text.getLast? = some '\r' → t.head? ≠ some '\n') →
      Reflows false kept t t' → Reflows true kept (text ++ t) (text' ++ t')

theorem laidOut_self (hline : '\n' ∉ line) : LaidOut line line := by
  refine ⟨[], line, [], [], line, by simp, rfl, by simp [IsGap], by simp [IsGap], by simp, by simp, ?_⟩
  exact fun kept t t' _ _ hlast h => (h.append hline hlast).of_false

theorem laidOut_text {indent : Nat} (hline : '\n' ∉ line) (hne : line ≠ indentation indent ++ trimChars line) :
    LaidOut line (indentation indent ++ trimChars line) := by
  obtain ⟨before, after, hcut, hbefore, hafter⟩ := exists_trimChars line
  have htrim : '\n' ∉ trimChars line := fun hmem => hline (mem_of_mem_trimChars hmem)
  refine ⟨before, trimChars line, after, indentation indent, trimChars line, by rw [← List.append_assoc, ← hcut], rfl,
    .of_blank hbefore (fun c hc => ?_) hline, .of_blank hafter (fun c hc => ?_) hline,
    fun c => List.eq_of_mem_replicate, fun h => absurd h hne, ?_⟩
  · rw [hcut]
    simp [hc]
  · rw [hcut]
    simp [hc]
  · exact fun kept t t' _ _ hlast h => (h.append htrim hlast).of_false

theorem laidOut_blank (hline : '\n' ∉ line) (hblank : trimChars line = []) (hne : line ≠ []) : LaidOut line [] := by
  refine ⟨[], [], line, [], [], by simp, rfl, by simp [IsGap], ?_, by simp, fun h => absurd h hne, ?_⟩
  · exact .of_blank (trimChars_eq_nil_iff.mp hblank) (fun c hc => hc) hline
  · exact fun kept t t' _ _ _ h => h.of_false

section Assignment

variable {gap rest : List Char}

/-- The blanks between the sign of an assignment and its value. -/
theorem Parts.rest_eq (h : Parts a gap rest) : rest = rest.takeWhile isBlank ++ a.value := by
  rw [← h.value]
  exact List.takeWhile_append_dropWhile.symm

/-- No blanks follow the sign of an assignment without a value. -/
theorem Parts.rest_eq_nil (h : Parts a gap rest) (htrim : trimChars line = a.key ++ gap ++ '=' :: rest)
    (hvalue : a.value = []) : rest = [] := by
  by_contra hne
  have hlast : (trimChars line).getLast? = rest.getLast? := by
    rw [htrim, ← List.singleton_append, ← List.append_assoc, List.getLast?_append_of_ne_nil _ hne]
  obtain ⟨c, hc⟩ := Option.ne_none_iff_exists'.mp (mt List.getLast?_eq_none_iff.mp hne)
  have hblank : isBlank c = true := by
    rw [h.rest_eq, hvalue, List.append_nil] at hc
    exact List.mem_takeWhile_imp (List.mem_of_getLast? hc)
  have hfilled := getLast?_trimChars (hlast.trans hc)
  rw [hblank] at hfilled
  cases hfilled

/-- The sign of an assignment, the blanks at the two ends of its line apart. -/
theorem Parts.reflows (h : Parts a gap rest) (htrim : trimChars line = a.key ++ gap ++ '=' :: rest)
    (hline : '\n' ∉ line) (hfor : ¬ "for=".toList <+: trimChars line) {kept : List Bool} {pad t t' : List Char}
    (hlaid : kept.head? ≠ some true) (hne : pad ≠ []) (hpad : ∀ c ∈ pad, c = ' ')
    (hblank : ∀ c ∈ t.head?, isBlank c = true) (ht : Reflows false kept t t') :
    Reflows true kept (trimChars line ++ t) (a.key ++ (pad ++ '=' :: ' ' :: (a.value ++ t'))) := by
  have htext : '\n' ∉ trimChars line := fun hmem => hline (mem_of_mem_trimChars hmem)
  have hmem : ∀ c ∈ gap ++ '=' :: rest, c ∈ trimChars line := by
    intro c hc
    rw [htrim, List.append_assoc]
    exact List.mem_append_right _ hc
  have hcontinues : Reflows false kept (a.value ++ t) (a.value ++ t') := by
    refine ht.append (fun hnewline => htext (hmem _ ?_)) fun hreturn => ?_
    · rw [h.rest_eq]
      simp [hnewline]
    · exact absurd (h.getLast?_value htrim _ hreturn) (by decide)
  have hcut : trimChars line ++ t = a.key ++ (gap ++ '=' :: (rest.takeWhile isBlank ++ (a.value ++ t))) := by
    rw [htrim]
    conv_lhs => rw [h.rest_eq]
    simp
  rw [hcut]
  refine .sign ⟨hlaid, ?_, h.key, fun hgap hkey => hfor ?_, ?_, hne, hpad, ?_, fun hrest => ?_, ?_⟩ hcontinues
  · obtain ⟨first, more, hkey, -⟩ := h.start
    simp [hkey]
  · rw [htrim, hgap, hkey]
    exact ⟨rest, by simp⟩
  · exact .of_blank h.gap (fun c hc => hmem c (by simp [hc])) htext
  · exact .of_blank (fun c => List.mem_takeWhile_imp)
      (fun c hc => hmem c (by simp [(List.takeWhile_prefix _).subset hc])) htext
  · have hne : a.value ≠ [] := fun hnil => hrest (by rw [h.rest_eq_nil htrim hnil]; rfl)
    obtain ⟨c, v, hv⟩ := List.exists_cons_of_ne_nil hne
    have hhead : (trimStartChars rest).head? = some c := by rw [h.value, hv, List.head?_cons]
    exact ⟨c, v ++ t, by rw [hv, List.cons_append], head?_trimStartChars hhead⟩
  · rw [← List.append_assoc, ← h.rest_eq]
    cases hr : rest with
    | nil => exact ⟨fun ht => absurd (hblank _ ht) (by decide), fun ht => absurd (hblank _ ht) (by decide)⟩
    | cons c rest => simpa [hr] using h.sign

theorem laidOut_assignment (h : Parts a gap rest) (htrim : trimChars line = a.key ++ gap ++ '=' :: rest)
    (hline : '\n' ∉ line) (hfor : ¬ "for=".toList <+: trimChars line) (width : Nat) (hne : line ≠ a.render width) :
    LaidOut line (a.render width) := by
  obtain ⟨before, after, hcut, hbefore, hafter⟩ := exists_trimChars line
  let pad := List.replicate (width - a.key.length) ' ' ++ [' ']
  have hpad : ∀ c ∈ pad, c = ' ' := by
    intro c hc
    rcases List.mem_append.mp hc with hc | hc
    · exact List.eq_of_mem_replicate hc
    · exact List.mem_singleton.mp hc
  refine ⟨before, trimChars line, after, indentation a.indent, a.key ++ (pad ++ '=' :: ' ' :: a.value),
    by rw [← List.append_assoc, ← hcut], by simp [Assignment.render, pad], .of_blank hbefore (fun c hc => ?_) hline,
    .of_blank hafter (fun c hc => ?_) hline, fun c => List.eq_of_mem_replicate, fun heq => absurd heq hne,
    fun kept t t' hkept hblank _ ht => ?_⟩
  · rw [hcut]
    simp [hc]
  · rw [hcut]
    simp [hc]
  · have hlaid : kept.head? ≠ some true := by
      rw [hkept]
      simpa using hne
    simpa using h.reflows htrim hline hfor hlaid (by simp [pad]) hpad hblank ht

end Assignment

/-- A line is shown as it is or with other blanks. -/
theorem laidOut_of_shows (h : Shows (layLine s line) shown) (hline : '\n' ∉ line)
    (hfor : ¬ "for=".toList <+: trimChars line) : LaidOut line shown := by
  by_cases hne : line = shown
  · subst hne
    exact laidOut_self hline
  have hs : s.atCodeStart = true := by
    by_contra hs
    exact hne (eq_of_shows (by simpa using hs) h).symm
  cases hlay : layLine s line with
  | assignment a =>
    rw [hlay] at h
    obtain ⟨width, rfl⟩ := h
    obtain ⟨-, gap, rest, hparts, htrim⟩ := parts_of_layLine hs hlay
    exact laidOut_assignment hparts htrim hline hfor width hne
  | text chars =>
    obtain rfl : shown = chars := by rwa [hlay] at h
    rcases text_of_layLine hs hlay with ⟨rfl, hblank⟩ | ⟨indent, rfl⟩
    · exact laidOut_blank hline hblank hne
    · exact laidOut_text hline hne

end Lines

section Texts

variable {s : Scanner} {chars : List Char} {ls shown : List (List Char)}

theorem blank_of_visible (h : visible chars = []) : ∀ c ∈ chars, isBlank c = true := by
  intro c hc
  simpa using List.filter_eq_nil_iff.mp h c hc

theorem linesFrom_of_not_mem {part : List Char} (h : '\n' ∉ chars) (hne : part ++ chars ≠ []) :
    linesFrom part chars = [part.reverse ++ chars] := by
  induction chars generalizing part with
  | nil =>
    cases part with
    | nil => exact absurd rfl hne
    | cons c part => simp [linesFrom]
  | cons c chars ih =>
    obtain ⟨hc, hchars⟩ : '\n' ≠ c ∧ '\n' ∉ chars := by simpa using h
    rw [linesFrom]
    · rw [ih hchars (by simp)]
      simp
    · exact hc.symm

theorem dropReturn_cases (line : List Char) :
    dropReturn line = line ∧ line.getLast? ≠ some '\r' ∨ line = dropReturn line ++ ['\r'] := by
  unfold dropReturn
  split
  · next heq => exact .inr (by rw [← List.reverse_reverse line, heq, List.reverse_cons])
  · next h =>
    refine .inl ⟨rfl, fun hlast => ?_⟩
    rw [← List.head?_reverse] at hlast
    obtain ⟨rest, hrest⟩ := List.head?_eq_some_iff.mp hlast
    exact h rest hrest

/-- A text is empty, one line, or a first line and what follows its newline. -/
theorem linesOf_cases (chars : List Char) : chars = [] ∧ linesOf chars = [] ∨
    chars ≠ [] ∧ '\n' ∉ chars ∧ linesOf chars = [chars] ∨
    ∃ line back rest, chars = line ++ (back ++ '\n' :: rest) ∧ '\n' ∉ line ∧ (back = [] ∨ back = ['\r']) ∧
      (line.getLast? = some '\r' → back ≠ []) ∧ linesOf chars = line :: linesOf rest := by
  by_cases hnewline : '\n' ∈ chars
  · obtain ⟨first, rest, rfl, hfirst⟩ := List.eq_append_cons_of_mem hnewline
    have hlines : linesOf (first ++ '\n' :: rest) = dropReturn first :: linesOf rest := linesFrom_line hfirst [] rest
    have hline := newline_not_mem_dropReturn hfirst
    rcases dropReturn_cases first with ⟨hsame, hlast⟩ | hreturn
    · rw [hsame] at hlines
      exact .inr (.inr ⟨first, [], rest, rfl, hfirst, .inl rfl, fun h => absurd h hlast, hlines⟩)
    · refine .inr (.inr ⟨dropReturn first, ['\r'], rest, ?_, hline, .inr rfl, by simp, hlines⟩)
      conv_lhs => rw [hreturn]
      simp
  · cases chars with
    | nil => exact .inl ⟨rfl, rfl⟩
    | cons c chars => exact .inr (.inl ⟨by simp, hnewline, linesFrom_of_not_mem hnewline (by simp)⟩)

theorem rdropWhile_isEmpty_cons (line : List Char) (ls : List (List Char)) :
    (line :: ls).rdropWhile List.isEmpty =
      if ls.rdropWhile List.isEmpty = [] then (if line = [] then [] else [line])
      else line :: ls.rdropWhile List.isEmpty := by
  unfold List.rdropWhile
  rw [List.reverse_cons, List.dropWhile_append]
  cases hdrop : ls.reverse.dropWhile List.isEmpty with
  | nil => cases line <;> simp
  | cons last more => simp

/-- Lines that are shown as empty ones hold nothing but blanks. -/
theorem blank_of_forall_shows (h : List.Forall₂ Shows (layLines s (linesOf chars)) shown)
    (hshown : shown.rdropWhile List.isEmpty = []) : ∀ c ∈ chars, isBlank c = true := by
  refine blank_of_visible ?_
  rw [← visible_linesOf, ← visible_of_forall_shows h, ← flatten_rdropWhile_isEmpty, hshown]
  rfl

/-- A text is reflowed from its first line on, the blanks in front of it apart, if what follows the line is. -/
def ReflowsFrom (keeps : Bool) (kept : List Bool) (chars shown : List Char) : Prop :=
  ∃ before indent t t', chars = before ++ t ∧ shown = indent ++ t' ∧ IsGap before ∧ (∀ c ∈ indent, c = ' ') ∧
    (keeps = true → before = [] ∧ indent = []) ∧ Reflows true (keeps :: kept) t t'

theorem LaidOut.reflowsFrom {line first u u' : List Char} {kept : List Bool} (h : LaidOut line first)
    (hblank : ∀ c ∈ u.head?, isBlank c = true) (hreturn : line.getLast? = some '\r' → u.head? ≠ some '\n')
    (hu : ∀ after, IsGap after → (line = first → after = []) →
      Reflows false ((line == first) :: kept) (after ++ u) u') :
    ReflowsFrom (line == first) kept (line ++ u) (first ++ u') := by
  obtain ⟨before, text, after, indent, text', hcut, hshown, hbefore, hafter, hindent, hsame, hlaid⟩ := h
  have hhead : ∀ c ∈ (after ++ u).head?, isBlank c = true := by
    intro c hc
    cases after with
    | nil => exact hblank c hc
    | cons d after => exact (hafter c (by simp_all)).1
  have hlast : text.getLast? = some '\r' → (after ++ u).head? ≠ some '\n' := by
    intro htext hnewline
    cases after with
    | nil => exact hreturn (by rw [hcut, List.append_nil, List.getLast?_append, htext]; rfl) hnewline
    | cons c after => exact (hafter '\n' (by simp_all)).2 rfl
  refine ⟨before, indent, text ++ (after ++ u), text' ++ u', by simp [hcut], by simp [hshown], hbefore, hindent,
    fun heq => ?_, hlaid _ _ _ rfl hhead hlast (hu after hafter fun heq => (hsame heq).2.1)⟩
  obtain ⟨hbefore, -, hindent⟩ := hsame (by simpa using heq)
  exact ⟨hbefore, hindent⟩

/-- The last line that is shown, before a rest of blanks. -/
theorem LaidOut.reflowsFrom_last {line first u : List Char} {kept : List Bool} (h : LaidOut line first)
    (hblank : ∀ c ∈ u, isBlank c = true) (hreturn : line.getLast? = some '\r' → u.head? ≠ some '\n') :
    ReflowsFrom (line == first) kept (line ++ u) (first ++ ['\n']) := by
  refine h.reflowsFrom (fun c hc => hblank c (List.mem_of_mem_head? hc)) hreturn fun after hafter _ => .done fun c hc => ?_
  exact (List.mem_append.mp hc).elim (fun hc => (hafter c hc).1) (hblank c)

theorem isGap_return {back : List Char} (h : back = [] ∨ back = ['\r']) : IsGap back := by
  rcases h with rfl | rfl
  · exact List.forall_mem_nil _
  · exact List.forall_mem_singleton.mpr (by decide)

/-- A line before others. -/
theorem LaidOut.reflowsFrom_next {line first back chars shown : List Char} {keeps : Bool} {kept : List Bool}
    (h : LaidOut line first) (hback : back = [] ∨ back = ['\r']) (hreturn : line.getLast? = some '\r' → back ≠ [])
    (hnext : ReflowsFrom keeps kept chars shown) :
    ReflowsFrom (line == first) (keeps :: kept) (line ++ (back ++ '\n' :: chars)) (first ++ '\n' :: shown) := by
  obtain ⟨before, indent, t, t', rfl, rfl, hbefore, hindent, hkept, ht⟩ := hnext
  refine h.reflowsFrom (fun c hc => ?_) (fun hlast => ?_) fun after hafter hsame => ?_
  · rcases hback with rfl | rfl <;> obtain rfl := Option.some.inj hc <;> decide
  · obtain rfl := hback.resolve_left (hreturn hlast)
    simp
  · rw [← List.append_assoc]
    refine .lineEnd (fun c hc => (List.mem_append.mp hc).elim (hafter c) (isGap_return hback c)) hbefore hindent
      (fun heq => ?_) (fun heq => hkept (by simpa using heq)) ht
    rw [hsame (by simpa using heq), List.nil_append]
    exact hback

theorem reflowsFrom_of_lastLine {line first : List Char} {rest : List (List Char)} {kept : List Bool}
    (hls : linesOf chars = line :: ls) (hlaid : LaidOut line first)
    (hrest : List.Forall₂ Shows (layLines s ls) rest) (hlines : rest.rdropWhile List.isEmpty = []) :
    ReflowsFrom (line == first) kept chars (first ++ ['\n']) := by
  rcases linesOf_cases chars with ⟨-, hnil⟩ | ⟨-, -, hone⟩ | ⟨line', back, more, rfl, -, hback, hreturn, hcut⟩
  · rw [hnil] at hls
    cases hls
  · obtain ⟨rfl, -⟩ := List.cons.inj (hone.symm.trans hls)
    simpa using hlaid.reflowsFrom_last (u := []) (List.forall_mem_nil _) (by simp)
  · obtain ⟨rfl, hmore⟩ := List.cons.inj (hcut.symm.trans hls)
    have hblank := blank_of_forall_shows (hmore ▸ hrest) hlines
    refine hlaid.reflowsFrom_last (fun c hc => ?_) fun hlast => ?_
    · rcases List.mem_append.mp hc with hc | hc
      · exact (isGap_return hback c hc).1
      · exact (List.mem_cons.mp hc).elim (fun hc => hc ▸ by decide) (hblank c)
    · obtain rfl := hback.resolve_left (hreturn hlast)
      simp

/-- The lines of a text are reflowed, up to the last one that is shown. -/
theorem reflowsFrom_of_laidOut {line first : List Char} {rest : List (List Char)} (hls : linesOf chars = line :: ls)
    (hlaid : LaidOut line first) (hrest : List.Forall₂ Shows (layLines s ls) rest)
    (hfor : ∀ l ∈ ls, ¬ "for=".toList <+: trimChars l) (hne : (first :: rest).rdropWhile List.isEmpty ≠ []) :
    ReflowsFrom (line == first) (List.zipWith (· == ·) ls rest) chars
      (unlines ((first :: rest).rdropWhile List.isEmpty)) := by
  induction rest generalizing s chars line first ls with
  | nil =>
    have hfirst : first ≠ [] := fun hnil => hne (by simp [hnil])
    simpa [rdropWhile_isEmpty_cons, hfirst, unlines] using reflowsFrom_of_lastLine hls hlaid hrest rfl
  | cons second rest ih =>
    by_cases hlines : (second :: rest).rdropWhile List.isEmpty = []
    · have hfirst : first ≠ [] := fun hnil => hne (by rw [rdropWhile_isEmpty_cons, if_pos hlines, if_pos hnil])
      rw [rdropWhile_isEmpty_cons, if_pos hlines, if_neg hfirst]
      simpa [unlines] using reflowsFrom_of_lastLine hls hlaid hrest hlines
    · rw [rdropWhile_isEmpty_cons, if_neg hlines]
      cases ls with
      | nil => cases hrest
      | cons next ls =>
        rw [layLines] at hrest
        obtain ⟨hsecond, hrest⟩ := List.forall₂_cons.mp hrest
        obtain ⟨hfornext, hfor⟩ := List.forall_mem_cons.mp hfor
        rcases linesOf_cases chars with ⟨-, hnil⟩ | ⟨-, -, hone⟩ | ⟨line', back, more, rfl, -, hback, hreturn, hcut⟩
        · rw [hnil] at hls
          cases hls
        · rw [hone] at hls
          cases hls
        · obtain ⟨rfl, hmore⟩ := List.cons.inj (hcut.symm.trans hls)
          have hnewline : '\n' ∉ next := by
            have hmem : next ∈ linesOf more := hmore ▸ List.mem_cons_self
            exact newline_not_mem_linesFrom List.not_mem_nil hmem
          have hnext := ih hmore (laidOut_of_shows hsecond hnewline hfornext) hrest hfor hlines
          simpa [unlines] using hlaid.reflowsFrom_next hback hreturn hnext

/-- The blank lines that a text begins with. -/
theorem exists_leading (chars : List Char) : ∃ before rest, chars = before ++ rest ∧
    (∀ c ∈ before, isBlank c = true) ∧ linesOf rest = (linesOf chars).dropWhile (·.all isBlank) ∧
    (linesOf rest ≠ [] → before.count '\n' = ((linesOf chars).takeWhile (·.all isBlank)).length) := by
  rcases linesOf_cases chars with ⟨rfl, hlines⟩ | ⟨-, -, hlines⟩ | ⟨line, back, more, hchars, hline, hback, -, hlines⟩
  · exact ⟨[], [], rfl, List.forall_mem_nil _, rfl, fun h => absurd hlines h⟩
  · cases hblank : chars.all isBlank with
    | true =>
      refine ⟨chars, [], by simp, List.all_eq_true.mp hblank, ?_, fun h => absurd rfl h⟩
      simp only [hlines, List.dropWhile_cons, hblank]
      rfl
    | false => exact ⟨[], chars, rfl, List.forall_mem_nil _, by simp [hlines, hblank], by simp [hlines, hblank]⟩
  · cases hblank : line.all isBlank with
    | true =>
      obtain ⟨before, rest, hmore, hbefore, hrest, hcount⟩ := exists_leading more
      refine ⟨line ++ (back ++ '\n' :: before), rest, by simp [hchars, hmore], ?_, ?_, fun h => ?_⟩
      · have hnewline : isBlank '\n' = true := by decide
        simp only [List.forall_mem_append, List.forall_mem_cons]
        exact ⟨List.all_eq_true.mp hblank, fun c hc => (isGap_return hback c hc).1, hnewline, hbefore⟩
      · simp only [hlines, List.dropWhile_cons, hblank, hrest, if_true]
      · simp only [hlines, List.takeWhile_cons, hblank, if_true, List.length_cons, ← hcount h]
        simp [List.count_eq_zero_of_not_mem hline, (isGap_return hback).count_newline]
    | false => exact ⟨[], chars, rfl, List.forall_mem_nil _, by simp [hlines, hblank], by simp [hlines, hblank]⟩
termination_by chars.length
decreasing_by simp [hchars]; omega

/-- Which lines of a text are written as they stand, the blank ones it begins with included. -/
def keptLines (text : String) : List Bool :=
  let ls := linesOf text.toList
  (ls.takeWhile (·.all isBlank)).map (fun _ => true) ++
    List.zipWith (· == ·) (ls.dropWhile (·.all isBlank)) (formatLines text)

/-- A text is reflowed by its layout, the blanks in front of it apart, unless it holds nothing else. -/
theorem reflows_format (text : String) (hfor : ∀ line ∈ linesOf text.toList, ¬ "for=".toList <+: trimChars line) :
    (∀ c ∈ text.toList, isBlank c = true) ∧ (format text).toList = [] ∨
      ∃ before indent t t', text.toList = before ++ t ∧ (format text).toList = indent ++ t' ∧
        (∀ c ∈ before, isBlank c = true) ∧ (∀ c ∈ indent, c = ' ') ∧
        Reflows true ((keptLines text).drop (before.count '\n')) t t' := by
  obtain ⟨before, rest, hcut, hblank, hrest, hcount⟩ := exists_leading text.toList
  have hnewline : ∀ line ∈ linesOf text.toList, '\n' ∉ line := fun line => newline_not_mem_linesFrom List.not_mem_nil
  have hsub : ∀ line ∈ linesOf rest, line ∈ linesOf text.toList :=
    fun line hline => (List.dropWhile_suffix _).subset (hrest ▸ hline)
  have hshows : List.Forall₂ Shows (layLines {} (linesOf rest)) (formatLines text) := hrest ▸ shows_formatLines text
  rw [toList_format text (forall_newline_not_mem_of_shows hshows fun line hline => hnewline line (hsub line hline))]
  cases hshown : formatLines text with
  | nil =>
    refine .inl ⟨?_, rfl⟩
    rw [hshown] at hshows
    rw [hcut]
    exact fun c hc => (List.mem_append.mp hc).elim (hblank c) (blank_of_forall_shows hshows rfl c)
  | cons first shown =>
    rw [hshown] at hshows
    cases hls : linesOf rest with
    | nil =>
      rw [hls] at hshows
      cases hshows
    | cons line ls =>
      rw [hls, layLines] at hshows
      rw [hls] at hsub
      obtain ⟨hfirst, hshown'⟩ := List.forall₂_cons.mp hshows
      have hlaid := laidOut_of_shows hfirst (hnewline line (hsub line List.mem_cons_self))
        (hfor line (hsub line List.mem_cons_self))
      have hne : (first :: shown).rdropWhile List.isEmpty ≠ [] := by
        intro hnil
        have hhead : (formatLines text).head? = some first := by rw [hshown, List.head?_cons]
        have hfilled := head?_formatLines hhead
        rw [List.rdropWhile_eq_nil_iff] at hnil
        have hempty := List.isEmpty_iff.mp (hnil first List.mem_cons_self)
        simp [hempty] at hfilled
      obtain ⟨after, indent, t, t', hchars, hlines, hafter, hindent, -, ht⟩ := reflowsFrom_of_laidOut hls hlaid hshown'
        (fun l hl => hfor l (hsub l (List.mem_cons_of_mem _ hl))) hne
      refine .inr ⟨before ++ after, indent, t, t', by rw [hcut, hchars, List.append_assoc], hlines, ?_, hindent, ?_⟩
      · exact fun c hc => (List.mem_append.mp hc).elim (hblank c) fun hc => (hafter c hc).1
      · have hkept : (keptLines text).drop ((before ++ after).count '\n') =
            (line == first) :: List.zipWith (· == ·) ls shown := by
          rw [List.count_append, hafter.count_newline, Nat.add_zero, hcount (by simp [hls]),
            keptLines, ← hrest, hls, hshown]
          simp
        rwa [hkept]

end Texts

end Terrasmith.Layout
