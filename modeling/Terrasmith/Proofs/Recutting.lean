import Terrasmith.Proofs.Pieces

/-!
The cells of a text that is reflowed. If its literals are written as they stand, the text it becomes can be cut into
cells beside those of the text itself, and blanks change only where they may.
-/
namespace Terrasmith.Source

open Layout (Reflows IsGap IsSign)

/-- Whether the literals among cells are written as they stand. -/
def Sheltered : (kept : List Bool) → List Cell → Prop
  | _, [] => True
  | kept, .literal w :: cells => Stays kept w ∧ Sheltered (kept.drop (w.count '\n')) cells
  | kept, cell :: cells => Sheltered (kept.drop (cell.left.count '\n')) cells

/-- Cells of one text only. -/
def Diagonal (cells : List Cell) : Prop := ∀ cell ∈ cells, cell.right = cell.left

/-- Cells of a text beside what it has become. -/
structure Recut (run s s' : List Char) (cells : List Cell) : Prop where
  lexical : Lexical run cells
  spaced : Spaced run cells
  lefts : lefts cells = s
  rights : rights cells = s'

/-- Blanks are put in front of a text only if it is empty. -/
def Begins (s : List Char) (cells : List Cell) : Prop := ∀ w', cells.head? = some (.space [] w') → s = []

section Recut

variable {run s s' : List Char} {cells : List Cell}

theorem MayChange.ne_nil {w w' : List Char} (h : MayChange run w w' cells) : w' ≠ [] := by
  rintro rfl
  rcases h with ⟨h, -⟩ | ⟨-, -, h, -⟩
  · cases h
  · exact h rfl

theorem exists_space_or_solid (cells : List Cell) : (∃ w w' more, cells = .space w w' :: more) ∨
    ∀ cell ∈ cells.head?, cell.isSpace = false := by
  cases cells with
  | nil => exact .inr (by simp)
  | cons cell more =>
    cases cell with
    | space w w' => exact .inl ⟨w, w', more, rfl⟩
    | _ => exact .inr (by simp [Cell.isSpace])

/-- Whether a character can be told from the start of a comment does not depend on the blanks behind it. -/
theorem Recut.isApart {c : Char} (h : Recut run s s' cells) (hc : isApart c s.head? = true) :
    isApart c s'.head? = true := by
  obtain ⟨hl, hs, rfl, rfl⟩ := h
  rcases exists_space_or_solid cells with ⟨w, w', more, rfl⟩ | hsolid
  · obtain ⟨d, hd, hmem⟩ := head_isSpace hl.1.2.1 hs.1.ne_nil (Source.rights more)
    rw [rights_cons, Cell.right, hd]
    simp only [List.mem_cons, List.not_mem_nil, or_false] at hmem
    rcases hmem with rfl | rfl | rfl | rfl <;> simp [Source.isApart]
  · rcases head_solid hl hsolid with rfl | ⟨d, v, v', hleft, hright, -⟩
    · exact hc
    · rw [hleft, List.head?_cons] at hc
      rwa [hright, List.head?_cons]

theorem Recut.code {c : Char} (h : Recut (c :: run) s s' cells) (hc : isCode c = true)
    (hapart : Source.isApart c s.head? = true) : Recut run (c :: s) (c :: s') (.code c :: cells) := by
  have hapart' := h.isApart hapart
  obtain ⟨hl, hs, rfl, rfl⟩ := h
  exact ⟨⟨hc, hapart, hapart', hl⟩, hs, rfl, rfl⟩

theorem Recut.literal {w : List Char} (h : Recut [] s s' cells) (hw : IsLiteral w) :
    Recut run (w ++ s) (w ++ s') (.literal w :: cells) := by
  obtain ⟨hl, hs, rfl, rfl⟩ := h
  exact ⟨⟨hw, hl⟩, hs, rfl, rfl⟩

theorem Recut.block {w w' : List Char} (h : Recut [] s s' cells) (hw : IsBlock w) (hw' : IsBlock w')
    (hweight : weight w = weight w') : Recut run (w ++ s) (w' ++ s') (.block w w' :: cells) := by
  obtain ⟨hl, hs, rfl, rfl⟩ := h
  exact ⟨⟨hw, hw', hweight, hl⟩, hs, rfl, rfl⟩

theorem Recut.space {w x : List Char} (h : Recut [] s s' cells) (hw : isSpace w = true) (hx : isSpace x = true)
    (hsolid : ∀ cell ∈ cells.head?, cell.isSpace = false)
    (hloop : w = [] → cells.head? = some (.code '=') → run ≠ "for".toList.reverse) (hmay : MayChange run w x cells) :
    Recut run (w ++ s) (x ++ s') (.space w x :: cells) := by
  obtain ⟨hl, hs, rfl, rfl⟩ := h
  exact ⟨⟨⟨hw, hx, .inr hmay.ne_nil, hsolid⟩, hloop, hl⟩, ⟨hmay, hs⟩, rfl, rfl⟩

theorem lineEnd?_of_isSpace {w : List Char} (hw : isSpace w = true)
    (hhead : w.head? = some '\n' ∨ w.head? = some '\r') : (lineEnd? w).isSome = true := by
  cases w with
  | nil => simp at hhead
  | cons c w =>
    rcases isSpace_head hw with hc | rfl | ⟨rfl, hnext⟩
    · rcases hhead with hhead | hhead <;>
        obtain rfl := Option.some.inj hhead <;> exact absurd hc (by decide)
    · rfl
    · obtain ⟨rest, rfl⟩ := List.head?_eq_some_iff.mp hnext
      rfl

theorem atLineEnd_cons {c : Char} {v : List Char} (h : atLineEnd (c :: v) = true) : c = '\n' ∨ c = '\r' := by
  unfold atLineEnd at h
  split at h
  · next heq => cases heq
  · next heq => exact .inl (List.cons.inj heq).1
  · next heq => exact .inr (List.cons.inj heq).1
  · cases h

theorem Recut.solid (h : Recut run s s' cells) (hbegins : Begins s cells) (hne : s ≠ [])
    (hs : ∀ c ∈ s.head?, Text.isBlank c = false) : ∀ cell ∈ cells.head?, cell.isSpace = false := by
  rcases exists_space_or_solid cells with ⟨w, w', more, rfl⟩ | hsolid
  · exfalso
    cases w with
    | nil => exact hne (hbegins w' rfl)
    | cons c w =>
      have hc := hs c (by rw [← h.lefts]; rfl)
      rw [isBlank_space h.lexical.1.1 c List.mem_cons_self] at hc
      cases hc
  · exact hsolid

/-- What follows a comment begins with the end of its line. -/
theorem Recut.endsLine (h : Recut [] s s' cells) (hs' : s'.head? = some '\n') (hs : atLineEnd s = true) :
    EndsLine cells := by
  obtain ⟨hl, hspaced, rfl, rfl⟩ := h
  rcases exists_space_or_solid cells with ⟨w, w', more, rfl⟩ | hsolid
  · obtain ⟨⟨hw, hw', -, hmore⟩, -, hlmore⟩ := hl
    refine ⟨lineEnd?_of_isSpace hw' (.inl ?_), ?_⟩
    · cases w' with
      | nil => exact absurd rfl hspaced.1.ne_nil
      | cons c w' => exact hs'
    · cases w with
      | cons c w =>
        rcases atLineEnd_cons hs with rfl | rfl
        · exact .inl (lineEnd?_of_isSpace hw (.inl rfl))
        · exact .inl (lineEnd?_of_isSpace hw (.inr rfl))
      | nil =>
        refine .inr ⟨rfl, ?_⟩
        rcases head_solid hlmore hmore with hnil | ⟨c, v, v', hleft, -, hc, -⟩
        · exact hnil
        · rw [lefts_cons, Cell.left, List.nil_append, hleft] at hs
          rcases atLineEnd_cons hs with rfl | rfl <;> exact absurd hc (by decide)
  · rcases head_solid hl hsolid with rfl | ⟨c, v, v', -, hright, hc, -⟩
    · trivial
    · rw [hright] at hs'
      obtain rfl := Option.some.inj hs'
      exact absurd hc (by decide)

theorem Recut.comment {w w' : List Char} (h : Recut [] s s' cells) (hw : IsComment w) (hw' : IsComment w')
    (hhead : w.head? = w'.head?) (hweight : weight w = weight w') (hs' : s'.head? = some '\n')
    (hs : atLineEnd s = true) : Recut run (w ++ s) (w' ++ s') (.comment w w' :: cells) := by
  have hend := h.endsLine hs' hs
  obtain ⟨hl, hspaced, rfl, rfl⟩ := h
  exact ⟨⟨hw, hw', hhead, hweight, hend, hl⟩, hspaced, rfl, rfl⟩

theorem Recut.key {key : List Char} (h : Recut (key.reverse ++ run) s s' cells)
    (hkey : ∀ c ∈ key, Layout.isKeyChar c = true) : Recut run (key ++ s) (key ++ s') (key.map .code ++ cells) := by
  induction key generalizing run with
  | nil => exact h
  | cons c key ih =>
    obtain ⟨hc, hmore⟩ := List.forall_mem_cons.mp hkey
    have hne : ∀ d, Layout.isKeyChar d = false → c ≠ d := by
      rintro d hd rfl
      rw [hc] at hd
      cases hd
    have hcode : isCode c = true := by
      have hblank : Text.isBlank c = false := by
        by_contra hblank
        rw [Layout.isKeyChar_of_isBlank (by simpa using hblank)] at hc
        cases hc
      simp [isCode, hblank, hne '"' (by decide), hne '#' (by decide)]
    have hapart : ∀ next?, Source.isApart c next? = true := by
      simp [Source.isApart, hne '/' (by decide), hne '<' (by decide)]
    exact (ih (by simpa using h) hmore).code hcode (hapart _)

/-- A blank is put behind an equals sign. -/
theorem Recut.value (h : Recut [] s s' cells) (hequals : s.head? ≠ some '=') (harrow : s.head? ≠ some '>') :
    ∃ cells', Recut ['='] s (' ' :: s') cells' := by
  rcases exists_space_or_solid cells with ⟨w, w', more, rfl⟩ | hsolid
  · obtain ⟨⟨⟨hw, hw', -, hmore⟩, -, hl⟩, ⟨hmay, hs⟩, rfl, rfl⟩ := h
    have hmore' : Recut [] (Source.lefts more) (Source.rights more) more := ⟨hl, hs, rfl, rfl⟩
    have hne : w = [] → more.head? ≠ some (.code '=') := by
      rintro rfl hhead
      obtain ⟨rest, rfl⟩ := List.head?_eq_some_iff.mp hhead
      exact hequals rfl
    refine ⟨_, hmore'.space (w := w) (x := ' ' :: w') hw ?_ hmore (fun _ _ => by decide) ?_⟩
    · rwa [isSpace_cons (.inl rfl)]
    · rcases hmay with ⟨hbreak', hbreak⟩ | ⟨hin, hin', -, hplace⟩
      · exact .inl ⟨by simpa [isIndent] using hbreak', hbreak⟩
      · refine .inr ⟨hin, by simpa [isIndent] using hin', by simp, .inl ?_⟩
        rintro rfl
        rcases hplace with hplace | ⟨hplace, -⟩ | ⟨hplace, -⟩
        · exact hplace rfl
        · exact hne rfl hplace
        · cases hplace
  · refine ⟨_, h.space (w := []) (x := [' ']) rfl rfl hsolid (fun _ _ => by decide) (.inr ⟨rfl, rfl, by simp, ?_⟩)⟩
    have hhead : ∀ c, s.head? ≠ some c → cells.head? ≠ some (.code c) := by
      intro c hc hcode
      obtain ⟨more, rfl⟩ := List.head?_eq_some_iff.mp hcode
      rw [← h.lefts] at hc
      exact hc rfl
    exact .inr (.inr ⟨rfl, hhead '=' hequals, hhead '>' harrow⟩)

theorem all_isIndent {w : List Char} (hw : isSpace w = true) (hgap : IsGap w) : w.all isIndent = true := by
  refine (isSpace_cases hw).resolve_right fun hend => ?_
  have hmem : '\n' ∈ w.dropWhile isIndent := by
    obtain ⟨r, hr⟩ | ⟨r, hr⟩ := lineEnd?_isSome hend <;> simp [hr]
  exact (hgap _ ((List.dropWhile_suffix _).subset hmem)).2 rfl

/-- An assignment is cut around its sign. -/
theorem Recut.sign {kept : List Bool} {key gap pad rest v v' : List Char} (hsign : IsSign kept key gap pad rest v)
    (hgap : isSpace gap = true) (h : Recut ['='] (rest ++ v) (' ' :: v') cells) :
    ∃ cells', Recut [] (key ++ (gap ++ '=' :: (rest ++ v))) (key ++ (pad ++ '=' :: ' ' :: v')) cells' ∧
      Begins (key ++ (gap ++ '=' :: (rest ++ v))) cells' := by
  have hequals := h.code (c := '=') (by decide) (by simp [Source.isApart])
  have hpad : IsGap pad := fun c hc => hsign.isPad c hc ▸ by decide
  have hpadSpace : isSpace pad = true := by
    rw [← List.append_nil pad, isSpace_append hsign.isPad]
    rfl
  have hspace : Recut key.reverse (gap ++ '=' :: (rest ++ v)) (pad ++ '=' :: ' ' :: v')
      (.space gap pad :: .code '=' :: cells) := by
    refine hequals.space hgap hpadSpace (by simp [Cell.isSpace]) (fun hnil _ hkey => ?_) (.inr
      ⟨all_isIndent hgap hsign.isGap, all_isIndent hpadSpace hpad, hsign.pad_ne, .inr (.inl ⟨rfl, ?_⟩)⟩)
    · exact hsign.loop hnil (List.reverse_injective hkey)
    · simpa using hsign.isKey
  refine ⟨_, Recut.key (by simpa using hspace) hsign.isKey, fun w' hhead => ?_⟩
  cases key with
  | nil => exact absurd rfl hsign.key_ne
  | cons c key => cases hhead

end Recut

section Layout

variable {run run₀ : List Char} {start : Bool} {kept : List Bool} {cells : List Cell} {s' : List Char}

theorem Diagonal.tail {cell : Cell} (h : Diagonal (cell :: cells)) : Diagonal cells :=
  fun c hc => h c (List.mem_cons_of_mem _ hc)

theorem Diagonal.drop {front : List Cell} (h : Diagonal (front ++ cells)) : Diagonal cells :=
  fun c hc => h c (List.mem_append_right _ hc)

theorem exists_lexical {front : List Cell} (h : Lexical run (front ++ cells)) : ∃ run', Lexical run' cells := by
  induction front generalizing run with
  | nil => exact ⟨run, h⟩
  | cons cell front ih =>
    cases cell with
    | code c => exact ih h.2.2.2
    | space w w' => exact ih h.2.2
    | block w w' => exact ih h.2.2.2
    | comment w w' => exact ih h.2.2.2.2.2
    | literal w => exact ih h.2

theorem Sheltered.drop {front : List Cell} (h : Sheltered kept (front ++ cells)) :
    Sheltered (kept.drop ((lefts front).count '\n')) cells := by
  induction front generalizing kept with
  | nil => exact h
  | cons cell front ih =>
    rw [lefts_cons, List.count_append, ← List.drop_drop]
    cases cell with
    | literal w => exact ih h.2
    | _ => exact ih h

theorem lefts_solid (hl : Lexical run cells) (hsolid : ∀ cell ∈ cells.head?, cell.isSpace = false) :
    ∀ c ∈ (lefts cells).head?, Text.isBlank c = false := by
  rcases head_solid hl hsolid with rfl | ⟨c, v, v', hleft, -, hc, -⟩
  · simp
  · rw [hleft]
    simpa using hc

theorem Diagonal.space {w w' : List Char} (h : Diagonal (.space w w' :: cells)) (hl : Lexical run (.space w w' :: cells)) :
    isSpace w = true ∧ w ≠ [] := by
  have hsame : w' = w := h _ List.mem_cons_self
  obtain ⟨⟨hw, -, hne, -⟩, -⟩ := hl
  rw [hsame, or_self] at hne
  exact ⟨hw, hne⟩

theorem isBlank_of_isCode {c : Char} (h : isCode c = true) : Text.isBlank c = false := by
  simp only [isCode, Bool.and_eq_true, Bool.not_eq_true'] at h
  exact h.1.1

/-- A character of a token that comes next is a cell of its own. -/
theorem exists_code {c : Char} {v : List Char} (hl : Lexical run cells) (hd : Diagonal cells)
    (hblank : Text.isBlank c = false) (hc : c ∉ ['"', '<', '#', '/']) (h : lefts cells = c :: v) :
    ∃ more, cells = .code c :: more ∧ lefts more = v := by
  rcases exists_space_or_solid cells with ⟨w, w', more, rfl⟩ | hsolid
  · obtain ⟨hw, hne⟩ := hd.space hl
    cases w with
    | nil => exact absurd rfl hne
    | cons d w =>
      obtain ⟨rfl, -⟩ := List.cons.inj h
      exact absurd (isBlank_space hw d List.mem_cons_self) (by simp [hblank])
  · rcases head_solid hl hsolid with rfl | ⟨d, u, u', hleft, -, -, hcode⟩
    · cases h
    · obtain ⟨rfl, rfl⟩ := List.cons.inj (hleft.symm.trans h)
      obtain ⟨more, rfl⟩ := List.head?_eq_some_iff.mp (hcode.resolve_right hc)
      exact ⟨more, rfl, (List.cons.inj h).2⟩

/-- The characters of a key that come next are cells of their own. -/
theorem exists_key {key v : List Char} (hl : Lexical run cells) (hd : Diagonal cells)
    (hkey : ∀ c ∈ key, Layout.isKeyChar c = true) (h : lefts cells = key ++ v) :
    ∃ more, cells = key.map .code ++ more ∧ lefts more = v := by
  induction key generalizing run cells with
  | nil => exact ⟨cells, rfl, h⟩
  | cons c key ih =>
    obtain ⟨hc, hmore⟩ := List.forall_mem_cons.mp hkey
    have hblank : Text.isBlank c = false := by
      by_contra hblank
      rw [Layout.isKeyChar_of_isBlank (by simpa using hblank)] at hc
      cases hc
    have hstart : c ∉ ['"', '<', '#', '/'] := by
      intro hmem
      simp only [List.mem_cons, List.not_mem_nil, or_false] at hmem
      rcases hmem with rfl | rfl | rfl | rfl <;> exact absurd hc (by decide)
    obtain ⟨more, rfl, hleft⟩ := exists_code hl hd hblank hstart h
    obtain ⟨more', rfl, hleft'⟩ := ih hl.2.2.2 hd.tail hmore hleft
    exact ⟨more', rfl, hleft'⟩

/-- Blanks that come next are one cell. -/
theorem exists_blanks {u v : List Char} (hl : Lexical run cells) (hd : Diagonal cells) (hne : u ≠ [])
    (hu : ∀ c ∈ u, Text.isBlank c = true) (hv : ∀ c ∈ v.head?, Text.isBlank c = false) (h : lefts cells = u ++ v) :
    ∃ more, cells = .space u u :: more ∧ lefts more = v ∧ isSpace u = true := by
  rcases exists_space_or_solid cells with ⟨w, w', more, rfl⟩ | hsolid
  · obtain ⟨hw, -⟩ := hd.space hl
    obtain rfl : w' = w := hd _ List.mem_cons_self
    obtain ⟨x, rfl, hx⟩ := exists_append_of_head h hu (lefts_solid hl.2.2 hl.1.2.2.2)
    obtain rfl : x = [] := by
      cases x with
      | nil => rfl
      | cons c x =>
        have hc := hv c (by rw [hx]; rfl)
        rw [isBlank_space hw c (by simp)] at hc
        cases hc
    rw [List.append_nil] at hw ⊢
    exact ⟨more, rfl, hx.symm, hw⟩
  · cases u with
    | nil => exact absurd rfl hne
    | cons c u =>
      have hc := lefts_solid hl hsolid c (by rw [h]; rfl)
      rw [hu c List.mem_cons_self] at hc
      cases hc

/-- The cells of an assignment up to its sign. -/
theorem exists_front {kept : List Bool} {key gap pad rest v : List Char} (hsign : IsSign kept key gap pad rest v)
    (hl : Lexical run cells) (hd : Diagonal cells) (h : lefts cells = key ++ (gap ++ '=' :: (rest ++ v))) :
    ∃ front more, cells = front ++ more ∧ lefts front = key ++ (gap ++ ['=']) ∧ lefts more = rest ++ v ∧
      isSpace gap = true := by
  obtain ⟨more, rfl, hmore⟩ := exists_key hl hd hsign.isKey h
  obtain ⟨run', hl'⟩ := exists_lexical hl
  by_cases hgap : gap = []
  · subst hgap
    obtain ⟨value, rfl, hvalue⟩ := exists_code hl' hd.drop (by decide) (by decide) hmore
    exact ⟨key.map .code ++ [.code '='], value, by simp, by simp [Cell.left], hvalue, rfl⟩
  · obtain ⟨more', rfl, hmore', hspace⟩ :=
      exists_blanks hl' hd.drop hgap (fun c hc => (hsign.isGap c hc).1) (by simp [Text.isBlank]) hmore
    obtain ⟨value, rfl, hvalue⟩ := exists_code hl'.2.2 hd.drop.tail (by decide) (by decide) hmore'
    exact ⟨key.map .code ++ [.space gap gap, .code '='], value, by simp, by simp [Cell.left], hvalue, hspace⟩

/-- The cells of an assignment behind its sign. -/
theorem exists_behind {kept : List Bool} {key gap pad rest v : List Char} (hsign : IsSign kept key gap pad rest v)
    (hl : Lexical run cells) (hd : Diagonal cells) (hk : Sheltered kept cells)
    (h : lefts cells = key ++ (gap ++ '=' :: (rest ++ v))) :
    ∃ run' more, Lexical run' more ∧ Diagonal more ∧ Sheltered kept more ∧ more.length < cells.length ∧
      lefts more = rest ++ v ∧ isSpace gap = true := by
  obtain ⟨front, more, rfl, hfront, hmore, hgap⟩ := exists_front hsign hl hd h
  obtain ⟨run', hl'⟩ := exists_lexical hl
  have hnewline : (lefts front).count '\n' = 0 := by
    refine List.count_eq_zero_of_not_mem fun hmem => ?_
    simp only [hfront, List.mem_append, List.mem_singleton] at hmem
    rcases hmem with hmem | hmem | hmem
    · exact absurd (hsign.isKey _ hmem) (by decide)
    · exact (hsign.isGap _ hmem).2 rfl
    · cases hmem
  have hk' := hk.drop
  rw [hnewline, List.drop_zero] at hk'
  refine ⟨run', more, hl', hd.drop, hk', ?_, hmore, hgap⟩
  rw [List.length_append, Nat.lt_add_left_iff_pos, List.length_pos_iff]
  rintro rfl
  simp at hfront

/-- Whether cells of a text make cells of both texts, however it is reflowed. -/
def Recuts (cells : List Cell) : Prop :=
  ∀ ⦃run run₀ : List Char⦄ ⦃start : Bool⦄ ⦃kept : List Bool⦄ ⦃s' : List Char⦄, Lexical run₀ cells → Diagonal cells →
    Sheltered kept cells → Reflows start kept (lefts cells) s' → (start = true → run = []) →
    ∃ cells', Recut run (lefts cells) s' cells' ∧ Begins (lefts cells) cells'

theorem recuts_nil : Recuts [] := by
  intro run run₀ start kept s' _ _ _ h _
  obtain rfl := reflows_nil h rfl
  exact ⟨[.space [] ['\n']], ⟨⟨⟨rfl, rfl, .inr (by simp), by simp⟩, by simp, trivial⟩, ⟨.inl ⟨rfl, .inr rfl⟩, trivial⟩,
    rfl, rfl⟩, fun _ _ => rfl⟩

theorem recuts_literal {w : List Char} (ih : Recuts cells) : Recuts (.literal w :: cells) := by
  rintro run run₀ start kept s' ⟨hw, hl⟩ hd ⟨hstays, hk⟩ h -
  obtain ⟨r', start', rfl, hr⟩ := reflows_literal hw hstays h
  obtain ⟨cells', hcells', -⟩ := ih hl hd.tail hk hr fun _ => rfl
  exact ⟨_, hcells'.literal hw, fun _ hhead => by cases hhead⟩

theorem recuts_block {w w' : List Char} (ih : Recuts cells) : Recuts (.block w w' :: cells) := by
  rintro run run₀ start kept s' ⟨hw, -, -, hl⟩ hd hk h -
  obtain ⟨x, r', start', rfl, hx, hweight, hr⟩ := reflows_isBlock hw h
  obtain ⟨cells', hcells', -⟩ := ih hl hd.tail hk hr fun _ => rfl
  exact ⟨_, hcells'.block hw hx hweight, fun _ hhead => by cases hhead⟩

theorem recuts_comment {w w' : List Char} (ih : Recuts cells) : Recuts (.comment w w' :: cells) := by
  rintro run run₀ start kept s' ⟨hw, -, -, -, hend, hl⟩ hd hk h -
  obtain ⟨x, r', rfl, hx, hhead, hweight, hnewline, hr⟩ := reflows_isComment hw hend.atLineEnd.1 h
  replace hk : Sheltered (kept.drop (w.count '\n')) cells := hk
  rw [List.count_eq_zero_of_not_mem hw.newline, List.drop_zero] at hk
  obtain ⟨cells', hcells', -⟩ := ih hl hd.tail hk hr fun _ => rfl
  exact ⟨_, hcells'.comment hw hx hhead hweight hnewline hend.atLineEnd.1, fun _ hhead => by cases hhead⟩

theorem recuts_space {w w' : List Char} (ih : Recuts cells) : Recuts (.space w w' :: cells) := by
  intro run run₀ start kept s' hl hd hk h _
  obtain ⟨hw, hne⟩ := hd.space hl
  obtain rfl : w' = w := hd _ List.mem_cons_self
  obtain ⟨⟨-, -, -, hsolid⟩, -, hl⟩ := hl
  obtain ⟨x, r', rfl, hx, hspace, hrest⟩ := reflows_space hw (lefts_solid hl hsolid) h
  have hmay : ∀ cells', (lefts cells = [] → cells' = []) → MayChange run w' x cells' := by
    intro cells' hnil
    rcases hspace with ⟨rfl, hin⟩ | ⟨hbreak', hbreak⟩
    · exact .inr ⟨hin, hin, hne, .inl hne⟩
    · exact .inl ⟨hbreak', hbreak.imp_right hnil⟩
  have hloop : ∀ {cells' : List Cell}, w' = [] → cells'.head? = some (.code '=') → run ≠ "for".toList.reverse :=
    fun hnil => absurd hnil hne
  have hbegins : ∀ cells', Begins (lefts (.space w' w' :: cells)) (.space w' x :: cells') := by
    rintro cells' u hhead
    cases hhead
    exact absurd rfl hne
  rcases hrest with ⟨hnil, rfl⟩ | ⟨hfilled, start', hr⟩
  · have hempty : Recut [] (lefts cells) [] [] := ⟨trivial, trivial, hnil.symm, rfl⟩
    exact ⟨_, hempty.space hw hx (by simp) hloop (hmay [] fun _ => rfl), hbegins _⟩
  · obtain ⟨cells', hcells', hcut⟩ := ih hl hd.tail hk hr fun _ => rfl
    exact ⟨_, hcells'.space hw hx (hcells'.solid hcut hfilled (lefts_solid hl hsolid)) hloop
      (hmay _ fun hnil => absurd hnil hfilled), hbegins _⟩

/-- The value of an assignment: a single blank stands between the sign and it. -/
theorem exists_value {kept : List Bool} {key gap pad rest v v' : List Char} (hsign : IsSign kept key gap pad rest v)
    (ih : ∀ more : List Cell, more.length ≤ cells.length → Recuts more) (hl : Lexical run cells) (hd : Diagonal cells)
    (hk : Sheltered kept cells) (h : lefts cells = rest ++ v) (hv : Reflows false kept v v') :
    ∃ cells', Recut ['='] (rest ++ v) (' ' :: v') cells' := by
  by_cases hrest : rest = []
  · subst hrest
    rw [List.nil_append] at h
    obtain ⟨cells', hcells', -⟩ := ih cells (Nat.le_refl _) hl hd hk (h ▸ hv) fun _ => rfl
    exact Recut.value (h ▸ hcells') hsign.alone.1 hsign.alone.2
  · obtain ⟨d, x, rfl, hd'⟩ := hsign.value hrest
    have hsolid : ∀ c ∈ (d :: x).head?, Text.isBlank c = false := by simpa using hd'
    obtain ⟨more, rfl, hmore, hspace⟩ := exists_blanks hl hd hrest (fun c hc => (hsign.isRest c hc).1) hsolid h
    replace hk : Sheltered (kept.drop (rest.count '\n')) more := hk
    rw [hsign.isRest.count_newline, List.drop_zero] at hk
    obtain ⟨cells', hcells', hbegins⟩ := ih more (Nat.le_succ _) hl.2.2 hd.tail hk (hmore ▸ hv) fun _ => rfl
    rw [hmore] at hcells' hbegins
    have hmay : MayChange ['='] rest [' '] cells' :=
      .inr ⟨all_isIndent hspace hsign.isRest, rfl, by simp, .inl hrest⟩
    exact ⟨_, hcells'.space hspace rfl (hcells'.solid hbegins (by simp) hsolid) (fun _ _ => by decide) hmay⟩

theorem recuts_code {c : Char} (ih : ∀ more : List Cell, more.length ≤ cells.length → Recuts more) :
    Recuts (.code c :: cells) := by
  intro run run₀ start kept s' hl hd hk h hrun
  have hblank : Text.isBlank c = false := isBlank_of_isCode hl.1
  rcases reflows_cons h hblank with ⟨r', rfl, hr⟩ | ⟨hstart, key, gap, pad, rest, v, v', hsign, hcut, rfl, hv⟩
  · have hnewline : c ≠ '\n' := by
      rintro rfl
      exact absurd hblank (by decide)
    replace hk : Sheltered (kept.drop ([c].count '\n')) cells := hk
    rw [List.count_singleton, if_neg (by simpa using hnewline), List.drop_zero] at hk
    obtain ⟨cells', hcells', -⟩ := ih cells (Nat.le_refl _) hl.2.2.2 hd.tail hk hr (by simp)
    exact ⟨_, hcells'.code hl.1 hl.2.1, fun _ hhead => by cases hhead⟩
  · obtain rfl := hrun hstart
    replace hcut : lefts (.code c :: cells) = key ++ (gap ++ '=' :: (rest ++ v)) := hcut
    obtain ⟨run', more, hl, hd, hk, hlength, hmore, hgap⟩ := exists_behind hsign hl hd hk hcut
    have ih' : ∀ m : List Cell, m.length ≤ more.length → Recuts m :=
      fun m hm => ih m (Nat.le_of_lt_succ (Nat.lt_of_le_of_lt hm hlength))
    obtain ⟨value, hvalue⟩ := exists_value hsign ih' hl hd hk hmore hv
    rw [hcut]
    exact hvalue.sign hsign hgap

/-- Cells of a text that is reflowed make cells of both texts, if the literals among them stay. -/
theorem recuts (cells : List Cell) : Recuts cells := by
  match cells with
  | [] => exact recuts_nil
  | .code c :: cells => exact recuts_code fun more hm => have hlt := Nat.lt_succ_of_le hm; recuts more
  | .space w w' :: cells => exact recuts_space (recuts cells)
  | .block w w' :: cells => exact recuts_block (recuts cells)
  | .comment w w' :: cells => exact recuts_comment (recuts cells)
  | .literal w :: cells => exact recuts_literal (recuts cells)
termination_by cells.length

end Layout

end Terrasmith.Source
