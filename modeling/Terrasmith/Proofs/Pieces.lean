import Terrasmith.Proofs.CellAlignment
import Terrasmith.Proofs.Reflow

/-!
What becomes of the pieces of a text that is reflowed. Blanks stay blanks, a comment stays a comment of the same
characters, and a literal that is written as it stands is passed over unchanged.
-/
namespace Terrasmith.Source

open Layout (Reflows IsGap IsSign)

section Peeling

variable {start : Bool} {kept : List Bool} {s' : List Char}

/-- The first of two pieces takes up characters that the second one does not begin with. -/
theorem exists_append_of_head {p : Char → Bool} {w r u s : List Char} (h : w ++ r = u ++ s) (hu : ∀ c ∈ u, p c = true)
    (hr : ∀ c ∈ r.head?, p c = false) : ∃ v, w = u ++ v ∧ s = v ++ r := by
  rcases List.append_eq_append_iff.mp h with ⟨v, rfl, rfl⟩ | ⟨v, rfl, rfl⟩
  · cases v with
    | nil => exact ⟨[], by simp, rfl⟩
    | cons c v =>
      have hc := hr c (by simp)
      rw [hu c (by simp)] at hc
      cases hc
  · exact ⟨v, rfl, rfl⟩

/-- The first of two pieces goes on after characters it cannot end with. -/
theorem exists_append_of_last {p : Char → Bool} {w r u s : List Char} (h : w ++ r = u ++ s) (hne : w ≠ [])
    (hlast : ∀ c ∈ w.getLast?, p c = false) (hu : ∀ c ∈ u, p c = true) : ∃ v, v ≠ [] ∧ w = u ++ v ∧ s = v ++ r := by
  have hmem : ∀ x, u ≠ w ++ x := by
    rintro x rfl
    have hp := hlast _ (List.getLast?_eq_some_getLast hne)
    rw [hu _ (List.mem_append_left _ (List.getLast_mem hne))] at hp
    cases hp
  rcases List.append_eq_append_iff.mp h with ⟨v, hv, -⟩ | ⟨v, rfl, hs⟩
  · exact absurd hv (hmem v)
  · refine ⟨v, ?_, rfl, hs⟩
    rintro rfl
    exact hmem [] (by simp)

theorem blank_lineEnd {before after : List Char} (hbefore : IsGap before) (hafter : IsGap after) :
    ∀ c ∈ before ++ '\n' :: after, Text.isBlank c = true := by
  simp only [List.forall_mem_append, List.forall_mem_cons]
  exact ⟨fun c hc => (hbefore c hc).1, by decide, fun c hc => (hafter c hc).1⟩

/-- A character that is no blank stays, unless an assignment that is laid out begins with it. -/
theorem reflows_cons {c : Char} {r : List Char} (h : Reflows start kept (c :: r) s') (hc : Text.isBlank c = false) :
    (∃ r', s' = c :: r' ∧ Reflows false kept r r') ∨ start = true ∧ ∃ key gap pad rest v v',
      IsSign kept key gap pad rest v ∧ c :: r = key ++ (gap ++ '=' :: (rest ++ v)) ∧
      s' = key ++ (pad ++ '=' :: ' ' :: v') ∧ Reflows false kept v v' := by
  generalize hs : c :: r = s at h
  cases h with
  | done hblank =>
    subst hs
    exact absurd (hblank c List.mem_cons_self) (by simp [hc])
  | char _ _ h =>
    obtain ⟨rfl, rfl⟩ := List.cons.inj hs
    exact .inl ⟨_, rfl, h⟩
  | @lineEnd _ _ before after indent v v' hbefore =>
    cases before with
    | nil =>
      obtain ⟨rfl, -⟩ := List.cons.inj hs
      exact absurd hc (by decide)
    | cons d before =>
      obtain ⟨rfl, -⟩ := List.cons.inj hs
      exact absurd (hbefore c List.mem_cons_self).1 (by simp [hc])
  | sign hsign h => exact .inr ⟨rfl, _, _, _, _, _, _, hsign, rfl, rfl, h⟩

/-- A character that no key holds stays. -/
theorem reflows_solid {c : Char} {r : List Char} (h : Reflows start kept (c :: r) s') (hc : Text.isBlank c = false)
    (hkey : start = true → Layout.isKeyChar c = false) : ∃ r', s' = c :: r' ∧ Reflows false kept r r' := by
  rcases reflows_cons h hc with hstays | ⟨hstart, key, gap, pad, rest, v, v', hsign, hcut, -⟩
  · exact hstays
  · cases key with
    | nil => exact absurd rfl hsign.key_ne
    | cons d key =>
      obtain ⟨rfl, -⟩ := List.cons.inj hcut
      exact absurd (hsign.isKey c List.mem_cons_self) (by simp [hkey hstart])

theorem isSpace_tail {c : Char} {w : List Char} (h : isSpace (c :: w) = true) : isSpace w = true := by
  unfold isSpace at h
  split at h
  · contradiction
  · next heq =>
    obtain ⟨-, rfl⟩ := List.cons.inj heq
    simpa [isSpace] using h
  · next heq =>
    obtain ⟨-, rfl⟩ := List.cons.inj heq
    exact (Bool.and_eq_true_iff.mp h).2

theorem isSpace_drop {u w : List Char} (h : isSpace (u ++ w) = true) : isSpace w = true := by
  induction u with
  | nil => exact h
  | cons c u ih => exact ih (isSpace_tail h)

theorem isSpace_cons {c : Char} (hc : isIndent c = true ∨ c = '\n') (w : List Char) :
    isSpace (c :: w) = isSpace w := by
  have hne : c ≠ '\r' := by
    rintro rfl
    simp [isIndent] at hc
  rw [isSpace]
  · simp [hc]
  · rintro rest rfl
    exact absurd rfl hne

theorem isSpace_append {u : List Char} (hu : ∀ c ∈ u, c = ' ') (w : List Char) : isSpace (u ++ w) = isSpace w := by
  induction u with
  | nil => rfl
  | cons c u ih =>
    obtain ⟨rfl, hmore⟩ := List.forall_mem_cons.mp hu
    rw [List.cons_append, isSpace_cons (.inl rfl), ih hmore]

/-- What blanks begin with: a blank or a line end. -/
theorem isSpace_head {c : Char} {w : List Char} (h : isSpace (c :: w) = true) :
    isIndent c = true ∨ c = '\n' ∨ c = '\r' ∧ w.head? = some '\n' := by
  unfold isSpace at h
  split at h
  · contradiction
  · next heq =>
    obtain ⟨rfl, rfl⟩ := List.cons.inj heq
    exact .inr (.inr ⟨rfl, rfl⟩)
  · next heq =>
    obtain ⟨rfl, rfl⟩ := List.cons.inj heq
    have hc := (Bool.and_eq_true_iff.mp h).1
    simp only [Bool.or_eq_true, decide_eq_true_eq] at hc
    exact hc.imp_right .inl

theorem isBlank_space {w : List Char} (h : isSpace w = true) : ∀ c ∈ w, Text.isBlank c = true := by
  intro c hc
  rcases isBlank_of_isSpace h c hc with rfl | rfl | ⟨-, rfl | rfl⟩ <;> decide

theorem reflows_nil {s : List Char} (h : Reflows start kept s s') (hs : s = []) : s' = ['\n'] := by
  cases h with
  | done => rfl
  | char => cases hs
  | lineEnd => simp at hs
  | sign => simp at hs

/-- Blanks before anything else but blanks: they stay where no line ends among them. -/
theorem reflows_space {start : Bool} {kept : List Bool} {w r s' : List Char} (hw : isSpace w = true)
    (hr : ∀ c ∈ r.head?, Text.isBlank c = false) (h : Reflows start kept (w ++ r) s') :
    ∃ w' r', s' = w' ++ r' ∧ isSpace w' = true ∧
      (w' = w ∧ w.all isIndent = true ∨ w'.all isIndent = false ∧ (w.all isIndent = false ∨ r = [])) ∧
      (r = [] ∧ r' = [] ∨ r ≠ [] ∧ ∃ start', Reflows start' (kept.drop (w.count '\n')) r r') := by
  cases w with
  | nil =>
    cases r with
    | nil => exact ⟨['\n'], [], reflows_nil h rfl, rfl, .inr ⟨rfl, .inr rfl⟩, .inl ⟨rfl, rfl⟩⟩
    | cons c r => exact ⟨[], s', rfl, rfl, .inl ⟨rfl, rfl⟩, .inr ⟨by simp, start, h⟩⟩
  | cons c w =>
    generalize hs : c :: w ++ r = s at h
    cases h with
    | done hblank =>
      obtain rfl : r = [] := by
        cases r with
        | nil => rfl
        | cons d r =>
          have hd := hr d rfl
          rw [hblank d (by simp [← hs])] at hd
          cases hd
      exact ⟨['\n'], [], rfl, rfl, .inr ⟨rfl, .inr rfl⟩, .inl ⟨rfl, rfl⟩⟩
    | char hc hreturn h =>
      obtain ⟨rfl, rfl⟩ := List.cons.inj hs
      have hindent : isIndent c = true := by
        rcases isSpace_head hw with hindent | hnewline | ⟨hcarriage, hnewline⟩
        · exact hindent
        · exact absurd hnewline hc
        · refine absurd ?_ (hreturn hcarriage)
          show (w ++ r).head? = some '\n'
          rw [List.head?_append, hnewline]
          rfl
      obtain ⟨w', r', rfl, hw', hspace, hrest⟩ := reflows_space (isSpace_tail hw) hr h
      refine ⟨c :: w', r', rfl, by rwa [isSpace_cons (.inl hindent)], ?_, ?_⟩
      · rcases hspace with ⟨rfl, hall⟩ | ⟨hall', hall⟩
        · exact .inl ⟨rfl, by simp [hindent, hall]⟩
        · exact .inr ⟨by simp [hindent, hall'], by simpa [hindent] using hall⟩
      · rwa [List.count_cons_of_ne hc]
    | @lineEnd _ _ before after indent v v' hbefore hafter hindent _ _ h =>
      have hu := blank_lineEnd hbefore hafter
      obtain ⟨u, hu, rfl⟩ := exists_append_of_head (w := c :: w) (by simpa using hs) hu hr
      have hlength : u.length < (c :: w).length := by
        rw [hu]
        simp
        omega
      obtain ⟨w', r', rfl, hw', hspace, hrest⟩ := reflows_space (isSpace_drop (hu ▸ hw)) hr h
      have hcount : (c :: w).count '\n' = u.count '\n' + 1 := by
        rw [hu]
        simp [hbefore.count_newline, hafter.count_newline]
      refine ⟨'\n' :: (indent ++ w'), r', by simp, ?_, .inr ⟨by simp [isIndent], .inl ?_⟩, ?_⟩
      · rw [isSpace_cons (.inr rfl), isSpace_append hindent, hw']
      · rw [hu]
        simp [isIndent]
      · rwa [hcount, ← List.drop_tail]
    | @sign _ key gap pad rest v v' hsign =>
      cases key with
      | nil => exact absurd rfl hsign.key_ne
      | cons d key =>
        obtain ⟨rfl, -⟩ := List.cons.inj hs
        have hc := hsign.isKey c List.mem_cons_self
        rw [Layout.isKeyChar_of_isBlank (isBlank_space hw c List.mem_cons_self)] at hc
        cases hc
termination_by w.length

/-- The end of a comment that lasts until the end of the line may lose blanks. -/
theorem reflows_comment {v r : List Char} (hnewline : '\n' ∉ v) (hcarriage : '\r' ∉ v) (hr : atLineEnd r = true)
    (h : Reflows false kept (v ++ r) s') : ∃ v' t r', v = v' ++ t ∧ (∀ c ∈ t, Text.isBlank c = true) ∧
      s' = v' ++ r' ∧ r'.head? = some '\n' ∧ Reflows false kept r r' := by
  induction v generalizing s' with
  | nil =>
    refine ⟨[], [], s', rfl, List.forall_mem_nil _, rfl, ?_, h⟩
    rw [List.nil_append] at h
    generalize hfalse : false = start at h
    cases h with
    | done => rfl
    | lineEnd => rfl
    | @char _ _ c s _ hc hreturn =>
      have hend : c = '\r' ∧ s.head? = some '\n' := by
        unfold atLineEnd at hr
        split at hr
        · next heq => cases heq
        · next heq => exact absurd (List.cons.inj heq).1 hc
        · next heq =>
          obtain ⟨rfl, rfl⟩ := List.cons.inj heq
          exact ⟨rfl, rfl⟩
        · cases hr
      exact absurd hend.2 (hreturn hend.1)
    | sign => cases hfalse
  | cons c v ih =>
    obtain ⟨hc, hv⟩ : '\n' ≠ c ∧ '\n' ∉ v := by simpa using hnewline
    obtain ⟨hc', hv'⟩ : '\r' ≠ c ∧ '\r' ∉ v := by simpa using hcarriage
    generalize hs : c :: v ++ r = s at h
    generalize hfalse : false = start at h
    cases h with
    | done hblank =>
      subst hs
      exact ⟨[], c :: v, ['\n'], rfl, fun d hd => hblank d (List.mem_append_left _ hd), rfl, rfl,
        .done fun d hd => hblank d (List.mem_append_right _ hd)⟩
    | char _ _ h =>
      subst hfalse
      obtain ⟨rfl, rfl⟩ := List.cons.inj hs
      obtain ⟨v', t, r', rfl, ht, rfl, hnext, hr⟩ := ih hv hv' h
      exact ⟨c :: v', t, r', rfl, ht, rfl, hnext, hr⟩
    | @lineEnd _ _ before after indent s s' hbefore hafter hindent hkept hnext h =>
      -- The line ends behind the comment: only its blanks are left.
      obtain ⟨t, rfl, rfl⟩ : ∃ t, before = c :: v ++ t ∧ r = t ++ '\n' :: (after ++ s) := by
        rcases List.append_eq_append_iff.mp hs with ⟨t, hbefore, hr⟩ | ⟨t, hcut, hr⟩
        · exact ⟨t, hbefore, hr⟩
        · cases t with
          | nil => exact ⟨[], by simpa using hcut.symm, by simpa using hr.symm⟩
          | cons d t =>
            obtain ⟨rfl, -⟩ := List.cons.inj hr
            exact absurd (by rw [hcut]; simp) hnewline
      subst hfalse
      refine ⟨[], c :: v, _, rfl, fun d hd => (hbefore d (List.mem_append_left _ hd)).1, rfl, rfl, ?_⟩
      refine .lineEnd (fun d hd => hbefore d (List.mem_append_right _ hd)) hafter hindent (fun heq => ?_) hnext h
      rcases hkept heq with hnil | hreturn
      · simp at hnil
      · exact absurd (List.cons.inj hreturn).1.symm hc'
    | sign => cases hfalse

section Blocks

variable {u v : List Char}

/-- The rest of a block comment behind its first two characters. -/
def ClosesBlock (v : List Char) : Prop := ∃ x, blockComment? v = some (x, [])

theorem closesBlock_cons {c : Char} : ClosesBlock (c :: v) ↔
    c = '*' ∧ v = ['/'] ∨ ¬ (c = '*' ∧ v.head? = some '/') ∧ ClosesBlock v := by
  unfold ClosesBlock
  rw [blockComment?]
  by_cases hend : c = '*' ∧ v.head? = some '/'
  · obtain ⟨rest, rfl⟩ := List.head?_eq_some_iff.mp hend.2
    simp [hend.1]
  · rw [if_neg (by simpa using hend)]
    have hlong : ¬ (c = '*' ∧ v = ['/']) := by
      rintro ⟨rfl, rfl⟩
      exact hend ⟨rfl, rfl⟩
    simp [hend, hlong]

theorem closesBlock_append (hu : '*' ∉ u) : ClosesBlock (u ++ v) ↔ ClosesBlock v := by
  induction u with
  | nil => exact Iff.rfl
  | cons c u ih =>
    obtain ⟨hc, hmore⟩ : '*' ≠ c ∧ '*' ∉ u := by simpa using hu
    rw [List.cons_append, closesBlock_cons, ih hmore]
    simp [hc.symm]

theorem ClosesBlock.getLast? (h : ClosesBlock v) : v.getLast? = some '/' := by
  induction v with
  | nil =>
    obtain ⟨x, hx⟩ := h
    simp [blockComment?] at hx
  | cons c v ih =>
    rcases closesBlock_cons.mp h with ⟨rfl, rfl⟩ | ⟨-, hv⟩
    · rfl
    · rw [List.getLast?_cons, ih hv, Option.getD_some]

theorem weight_blank (h : ∀ c ∈ u, Text.isBlank c = true) : weight u = 0 :=
  List.countP_eq_zero.mpr fun c hc => by simp [h c hc]

theorem weight_append (u v : List Char) : weight (u ++ v) = weight u + weight v := List.countP_append ..

theorem weight_cons (c : Char) (v : List Char) : weight (c :: v) = weight [c] + weight v :=
  weight_append [c] v

/-- Characters that neither end a line nor a block comment. -/
def IsInner (c : Char) : Prop := c ≠ '/' ∧ c ≠ '*' ∧ c ≠ '\n'
  deriving Decidable

theorem IsInner.of_keyChar {c : Char} (h : Layout.isKeyChar c = true) : IsInner c := by
  refine ⟨?_, ?_, ?_⟩ <;> rintro rfl <;> exact absurd h (by decide)

theorem IsInner.of_gap (h : IsGap u) : ∀ c ∈ u, IsInner c := by
  refine fun c hc => ⟨?_, ?_, (h c hc).2⟩ <;> rintro rfl <;> exact absurd (h _ hc).1 (by decide)

/-- A block comment is reflowed into one: the newline that ends a line of it keeps a star and a slash apart. -/
theorem reflows_block {start : Bool} {kept : List Bool} {v r s' : List Char} (hv : ClosesBlock v)
    (h : Reflows start kept (v ++ r) s') : ∃ v' r' start', s' = v' ++ r' ∧ ClosesBlock v' ∧ weight v = weight v' ∧
      (v'.head? = some '/' → v.head? = some '/') ∧ Reflows start' (kept.drop (v.count '\n')) r r' := by
  have hlast := hv.getLast?
  have hne : v ≠ [] := by
    rintro rfl
    cases hlast
  generalize hs : v ++ r = s at h
  cases h with
  | done hblank =>
    subst hs
    have hslash := hblank '/' (List.mem_append_left _ (List.mem_of_getLast? hlast))
    exact absurd hslash (by decide)
  | @char _ _ c s s' hc _ h =>
    obtain ⟨w, rfl, rfl⟩ : ∃ w, v = c :: w ∧ s = w ++ r := by
      cases v with
      | nil => exact absurd rfl hne
      | cons d w =>
        obtain ⟨rfl, rfl⟩ := List.cons.inj hs
        exact ⟨w, rfl, rfl⟩
    rw [List.count_cons_of_ne hc]
    rcases closesBlock_cons.mp hv with ⟨rfl, rfl⟩ | ⟨hend, hw⟩
    · obtain ⟨r', rfl, hr⟩ := reflows_solid h (by decide) (by simp)
      exact ⟨['*', '/'], r', false, rfl, hv, rfl, by simp, hr⟩
    · obtain ⟨w', r', start', rfl, hw', hweight, hhead, hr⟩ := reflows_block hw h
      refine ⟨c :: w', r', start', rfl, ?_, by rw [weight_cons, weight_cons c w', hweight], by simp, hr⟩
      exact closesBlock_cons.mpr (.inr ⟨fun hend' => hend ⟨hend'.1, hhead hend'.2⟩, hw'⟩)
  | @lineEnd _ _ before after indent s s' hbefore hafter hindent hkept hnext h =>
    have hu := blank_lineEnd hbefore hafter
    have hblank : ∀ d ∈ '\n' :: indent, Text.isBlank d = true :=
      List.forall_mem_cons.mpr ⟨by decide, fun d hd => hindent d hd ▸ by decide⟩
    have hstar : ∀ {x : List Char}, (∀ d ∈ x, Text.isBlank d = true) → '*' ∉ x :=
      fun hx hmem => absurd (hx _ hmem) (by decide)
    obtain ⟨w, -, rfl, rfl⟩ := exists_append_of_last (w := v) (by simpa using hs) hne (by rw [hlast]; rintro _ ⟨⟩; rfl) hu
    obtain ⟨w', r', start', rfl, hw', hweight, -, hr⟩ := reflows_block ((closesBlock_append (hstar hu)).mp hv) h
    refine ⟨'\n' :: indent ++ w', r', start', by simp, (closesBlock_append (hstar hblank)).mpr hw', ?_, by simp, ?_⟩
    · rw [weight_append _ w, weight_append _ w', weight_blank hu, weight_blank hblank, hweight]
    · simpa [hbefore.count_newline, hafter.count_newline] using hr
  | @sign _ key gap pad rest s s' hsign h =>
    have hpadding : IsGap pad := fun d hd => hsign.isPad d hd ▸ by decide
    have hu : ∀ d ∈ key ++ (gap ++ '=' :: rest), IsInner d := by
      simp only [List.forall_mem_append, List.forall_mem_cons]
      exact ⟨fun d hd => .of_keyChar (hsign.isKey d hd), .of_gap hsign.isGap, by decide, .of_gap hsign.isRest⟩
    have hu' : ∀ d ∈ key ++ (pad ++ ['=', ' ']), IsInner d := by
      simp only [List.forall_mem_append, List.forall_mem_cons]
      exact ⟨fun d hd => .of_keyChar (hsign.isKey d hd), .of_gap hpadding, by decide, by decide, List.forall_mem_nil _⟩
    obtain ⟨w, -, rfl, rfl⟩ := exists_append_of_last (p := (· ≠ '/')) (u := key ++ (gap ++ '=' :: rest)) (w := v)
      (by simpa using hs) hne (by rw [hlast]; simp) fun d hd => by simpa using (hu d hd).1
    have hw := (closesBlock_append fun hmem => (hu _ hmem).2.1 rfl).mp hv
    have hsigns : weight (key ++ (gap ++ '=' :: rest)) = weight (key ++ (pad ++ ['=', ' '])) := by
      have hblank : ∀ {x : List Char}, IsGap x → weight x = 0 := fun hx => weight_blank fun d hd => (hx d hd).1
      simp only [weight_append, weight_cons '=' rest, hblank hsign.isGap, hblank hpadding, hblank hsign.isRest]
      rfl
    obtain ⟨w', r', start', rfl, hw', hweight, -, hr⟩ := reflows_block hw h
    refine ⟨key ++ (pad ++ ['=', ' ']) ++ w', r', start', by simp, ?_, ?_, ?_, ?_⟩
    · exact (closesBlock_append fun hmem => (hu' _ hmem).2.1 rfl).mpr hw'
    · rw [weight_append _ w, weight_append _ w', hsigns, hweight]
    · cases key with
      | nil => exact absurd rfl hsign.key_ne
      | cons d key => simp
    · rwa [List.count_append, List.count_eq_zero_of_not_mem fun hmem => (hu _ hmem).2.2 rfl, Nat.zero_add]
termination_by v.length

theorem reflows_isBlock {start : Bool} {kept : List Bool} {w r s' : List Char} (hw : IsBlock w)
    (h : Reflows start kept (w ++ r) s') : ∃ w' r' start', s' = w' ++ r' ∧ IsBlock w' ∧ weight w = weight w' ∧
      Reflows start' (kept.drop (w.count '\n')) r r' := by
  obtain ⟨v, x, rfl, hv⟩ := hw
  obtain ⟨_, rfl, hslash⟩ := reflows_solid h (by decide) fun _ => by decide
  obtain ⟨_, rfl, hstar⟩ := reflows_solid hslash (by decide) (by simp)
  obtain ⟨v', r', start', rfl, ⟨x', hv'⟩, hweight, -, hr⟩ := reflows_block ⟨x, hv⟩ hstar
  refine ⟨'/' :: '*' :: v', r', start', rfl, ⟨v', x', rfl, hv'⟩, ?_, by simpa using hr⟩
  exact (weight_append ['/', '*'] v).trans (hweight ▸ (weight_append ['/', '*'] v').symm)

theorem reflows_isComment {w r : List Char} (hw : IsComment w) (hr : atLineEnd r = true)
    (h : Reflows start kept (w ++ r) s') : ∃ w' r', s' = w' ++ r' ∧ IsComment w' ∧ w.head? = w'.head? ∧
      weight w = weight w' ∧ r'.head? = some '\n' ∧ Reflows false kept r r' := by
  obtain ⟨p, v, rfl, hp⟩ : ∃ p v, w = p ++ v ∧ (p = ['#'] ∨ p = ['/', '/']) := by
    have hstarts := hw.starts
    unfold startsLineComment at hstarts
    split at hstarts
    · exact ⟨['#'], _, rfl, .inl rfl⟩
    · exact ⟨['/', '/'], _, rfl, .inr rfl⟩
    · cases hstarts
  obtain ⟨s', rfl, hv⟩ : ∃ s'', s' = p ++ s'' ∧ Reflows false kept (v ++ r) s'' := by
    rcases hp with rfl | rfl
    · obtain ⟨s', rfl, hv⟩ := reflows_solid h (by decide) fun _ => by decide
      exact ⟨s', rfl, hv⟩
    · obtain ⟨_, rfl, hslash⟩ := reflows_solid h (by decide) fun _ => by decide
      obtain ⟨s', rfl, hv⟩ := reflows_solid hslash (by decide) (by simp)
      exact ⟨s', rfl, hv⟩
  have hnewline : '\n' ∉ v := fun hmem => hw.newline (List.mem_append_right _ hmem)
  have hcarriage : '\r' ∉ v := fun hmem => hw.carriage (List.mem_append_right _ hmem)
  obtain ⟨v', t, r', rfl, ht, rfl, hhead, hr'⟩ := reflows_comment hnewline hcarriage hr hv
  refine ⟨p ++ v', r', by simp, ⟨?_, fun hmem => hw.newline ?_, fun hmem => hw.carriage ?_⟩, ?_, ?_, hhead, hr'⟩
  · rcases hp with rfl | rfl <;> rfl
  · rw [← List.append_assoc]
    exact List.mem_append_left _ hmem
  · rw [← List.append_assoc]
    exact List.mem_append_left _ hmem
  · rcases hp with rfl | rfl <;> rfl
  · rw [← List.append_assoc, weight_append _ t, weight_blank ht, Nat.add_zero]

end Blocks

/-- Whether a piece of a text is written as it stands, where `kept` tells of the lines from its first one on. No line
that starts inside of it is laid out, and none ends in blanks or with a carriage return there that would be lost. -/
structure Stays (kept : List Bool) (w : List Char) : Prop where
  lines : ∀ i < w.count '\n', kept[i + 1]? = some true
  first : kept.head? = some true ∨ ∀ c ∈ (w.takeWhile (· ≠ '\n')).getLast?, Text.isBlank c = false
  returns : ¬ ['\r', '\n'] <:+: w

section Literals

variable {c : Char} {w : List Char}

theorem IsLiteral.stays (hw : IsLiteral w) (hnewline : '\n' ∉ w) : Stays kept w := by
  obtain ⟨v, d, hcut, hd⟩ := hw.ends
  refine ⟨fun i hi => ?_, .inr fun e he => ?_, fun hinside => hnewline (hinside.subset (by simp))⟩
  · rw [List.count_eq_zero_of_not_mem hnewline] at hi
    omega
  · rw [List.takeWhile_eq_self_iff.mpr (fun x hx => by simpa using ne_of_mem_of_not_mem hx hnewline), hcut,
      List.getLast?_append_of_ne_nil _ (by simp)] at he
    obtain rfl : d = e := by simpa using he
    exact hd

theorem Stays.tail (h : Stays kept (c :: w)) (hc : c ≠ '\n') : Stays kept w := by
  refine ⟨fun i hi => h.lines i (by rwa [List.count_cons_of_ne hc]), h.first.imp_right fun hlast d hd => ?_,
    fun hinside => h.returns (hinside.trans (List.suffix_cons c w).isInfix)⟩
  rw [List.takeWhile_cons_of_pos (by simpa using hc)] at hlast
  exact hlast d (List.mem_getLast?_cons hd)

theorem Stays.next (h : Stays kept ('\n' :: w)) : kept.tail.head? = some true ∧ Stays kept.tail w := by
  have hkept : ∀ i < w.count '\n' + 1, kept.tail[i]? = some true := by
    intro i hi
    rw [List.getElem?_tail]
    exact h.lines i (by simpa using hi)
  have hhead : kept.tail.head? = some true := by
    rw [List.head?_eq_getElem?]
    exact hkept 0 (by omega)
  exact ⟨hhead, fun i hi => hkept (i + 1) (by omega), .inl hhead,
    fun hinside => h.returns (hinside.trans (List.suffix_cons '\n' w).isInfix)⟩

/-- No blanks are lost at the end of a line. -/
theorem Stays.eq_nil_of_gap {before v : List Char} (h : Stays kept w) (hbefore : IsGap before)
    (hkept : kept.head? = some true → before = [] ∨ before = ['\r']) (hw : w = before ++ '\n' :: v) : before = [] := by
  subst hw
  rcases h.first with hhead | hlast
  · rcases hkept hhead with hnil | rfl
    · exact hnil
    · exact absurd ⟨[], v, rfl⟩ h.returns
  · have htake : (before ++ '\n' :: v).takeWhile (· ≠ '\n') = before := by
      rw [List.takeWhile_append_of_pos fun c hc => by simpa using (hbefore c hc).2]
      simp
    rw [htake] at hlast
    by_contra hne
    have hfilled := hlast _ (List.getLast?_eq_some_getLast hne)
    rw [(hbefore _ (List.getLast_mem hne)).1] at hfilled
    cases hfilled

/-- What stays is passed over as it is. -/
theorem reflows_stays {start : Bool} {kept : List Bool} {w r s' : List Char} (hw : Stays kept w)
    (hlast : ∀ c ∈ w.getLast?, Text.isBlank c = false) (hstart : start = true → kept.head? = some true)
    (h : Reflows start kept (w ++ r) s') :
    ∃ r' start', s' = w ++ r' ∧ Reflows start' (kept.drop (w.count '\n')) r r' := by
  cases w with
  | nil => exact ⟨s', start, rfl, h⟩
  | cons c w =>
    generalize hs : c :: w ++ r = s at h
    have hne : c :: w ≠ [] := by simp
    have hmore : ∀ d ∈ w.getLast?, Text.isBlank d = false := fun d hd => hlast d (List.mem_getLast?_cons hd)
    cases h with
    | done hblank =>
      subst hs
      have hfilled := hlast _ (List.getLast?_eq_some_getLast hne)
      rw [hblank _ (List.mem_append_left _ (List.getLast_mem hne))] at hfilled
      cases hfilled
    | char hc _ h =>
      obtain ⟨rfl, rfl⟩ := List.cons.inj hs
      obtain ⟨r', start', rfl, hr⟩ := reflows_stays (hw.tail hc) hmore (by simp) h
      exact ⟨r', start', rfl, by rwa [List.count_cons_of_ne hc]⟩
    | @lineEnd _ _ before after indent s s' hbefore hafter hindent hkept hnext h =>
      have hu := blank_lineEnd hbefore hafter
      obtain ⟨v, -, hcut, rfl⟩ := exists_append_of_last (w := c :: w) (by simpa using hs) hne hlast hu
      obtain rfl := hw.eq_nil_of_gap hbefore hkept (by simpa using hcut)
      obtain ⟨rfl, rfl⟩ := List.cons.inj hcut
      obtain ⟨hhead, hw⟩ := hw.next
      obtain ⟨rfl, rfl⟩ := hnext hhead
      obtain ⟨r', start', rfl, hr⟩ := reflows_stays hw hmore (fun _ => hhead) h
      exact ⟨r', start', rfl, by simpa using hr⟩
    | sign hsign => exact absurd (hstart rfl) hsign.laid
termination_by w.length

theorem reflows_literal {r : List Char} (hw : IsLiteral w) (hstays : Stays kept w) (h : Reflows start kept (w ++ r) s') :
    ∃ r' start', s' = w ++ r' ∧ Reflows start' (kept.drop (w.count '\n')) r r' := by
  have hlast : ∀ c ∈ w.getLast?, Text.isBlank c = false := by
    obtain ⟨v, c, rfl, hc⟩ := hw.ends
    simpa using hc
  obtain ⟨c, v, rfl, hc⟩ := head_literal hw.starts
  have hsolid : Text.isBlank c = false ∧ Layout.isKeyChar c = false ∧ c ≠ '\n' := by
    rcases hc with rfl | rfl <;> decide
  obtain ⟨_, rfl, hv⟩ := reflows_solid h hsolid.1 fun _ => hsolid.2.1
  obtain ⟨r', start', rfl, hr⟩ := reflows_stays (hstays.tail hsolid.2.2)
    (fun d hd => hlast d (List.mem_getLast?_cons hd)) (by simp) hv
  exact ⟨r', start', rfl, by rwa [List.count_cons_of_ne hsolid.2.2]⟩

end Literals

end Peeling

end Terrasmith.Source
