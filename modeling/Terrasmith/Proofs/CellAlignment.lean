import Terrasmith.Proofs.Cells
import Terrasmith.Proofs.Structures

/-!
The alignment that cells make. Its places are the boundaries of cells; the end of a line may also be cut off the
blanks it belongs to.
-/
namespace Terrasmith.Source

/-- The texts of cells whose blanks change where they may. -/
def Loose (s s' : List Char) : Prop :=
  ∃ run cells, Lexical run cells ∧ Spaced run cells ∧ s = lefts cells ∧ s' = rights cells

def Tight (s s' : List Char) : Prop :=
  ∃ run cells, Lexical run cells ∧ Spaced run cells ∧ AtToken cells ∧ s = lefts cells ∧ s' = rights cells

/-- Blanks and line ends. -/
def IsMargin (m : List Char) : Prop := ∀ c ∈ m, c = ' ' ∨ c = '\t' ∨ true = true ∧ (c = '\n' ∨ c = '\r')

def Fresh (s s' : List Char) : Prop :=
  ∃ m m' r r', IsMargin m ∧ IsMargin m' ∧ Loose r r' ∧ s = m ++ r ∧ s' = m' ++ r'

theorem Tight.loose {s s' : List Char} : Tight s s' → Loose s s'
  | ⟨run, cells, hl, hs, _, h, h'⟩ => ⟨run, cells, hl, hs, h, h'⟩

theorem Loose.fresh {s s' : List Char} (h : Loose s s') : Fresh s s' :=
  ⟨[], [], s, s', by simp [IsMargin], by simp [IsMargin], h, rfl, rfl⟩

theorem Loose.blanks {s s' : List Char} (h : Loose s s') (lines : Bool) :
    Tight (blanks lines s).2 (blanks lines s').2 := by
  obtain ⟨run, cells, hl, hs, rfl, rfl⟩ := h
  obtain ⟨run', cells', -, hl', hs', ht, h, h'⟩ := skip_cells hl hs lines
  exact ⟨run', cells', hl', hs', ht, h, h'⟩

theorem Fresh.blanks {s s' : List Char} (h : Fresh s s') : Tight (blanks true s).2 (blanks true s').2 := by
  obtain ⟨m, m', r, r', hm, hm', h, rfl, rfl⟩ := h
  rw [blanks_blanks hm, blanks_blanks hm']
  exact h.blanks true

section Runs

variable {run : List Char} {cells : List Cell}

@[simp] theorem lefts_append (cells₁ cells₂ : List Cell) : lefts (cells₁ ++ cells₂) = lefts cells₁ ++ lefts cells₂ :=
  List.flatMap_append

@[simp] theorem rights_append (cells₁ cells₂ : List Cell) :
    rights (cells₁ ++ cells₂) = rights cells₁ ++ rights cells₂ :=
  List.flatMap_append

@[simp] theorem lefts_code (u : List Char) : lefts (u.map .code) = u := by
  induction u with
  | nil => rfl
  | cons c u ih => simp [ih, Cell.left]

@[simp] theorem rights_code (u : List Char) : rights (u.map .code) = u := by
  induction u with
  | nil => rfl
  | cons c u ih => simp [ih, Cell.right]

theorem Lexical.drop {u : List Char} (h : Lexical run (u.map .code ++ cells)) : Lexical (u.reverse ++ run) cells := by
  induction u generalizing run with
  | nil => exact h
  | cons c u ih => simpa using ih h.2.2.2

theorem Spaced.drop {u : List Char} (h : Spaced run (u.map .code ++ cells)) : Spaced (u.reverse ++ run) cells := by
  induction u generalizing run with
  | nil => exact h
  | cons c u ih => simpa using ih h

theorem head_isSpace {w : List Char} (h : isSpace w = true) (hne : w ≠ []) (s : List Char) :
    ∃ d, (w ++ s).head? = some d ∧ d ∈ [' ', '\t', '\n', '\r'] := by
  cases w with
  | nil => exact absurd rfl hne
  | cons d w =>
    refine ⟨d, rfl, ?_⟩
    rcases isBlank_of_isSpace h d (by simp) with rfl | rfl | ⟨-, rfl | rfl⟩ <;> decide

theorem bound_cons {d : Char} (hd : d ∈ boundaries) (s : List Char) : Bound (d :: s) := by
  intro e he
  rwa [← Option.some.inj he]

theorem bound_space {w : List Char} (h : isSpace w = true) (hne : w ≠ []) (s : List Char) : Bound (w ++ s) := by
  obtain ⟨d, hd, hmem⟩ := head_isSpace h hne s
  intro e he
  rw [hd] at he
  obtain rfl := Option.some.inj he
  revert hmem
  simp only [List.mem_cons, List.not_mem_nil, or_false]
  rintro (rfl | rfl | rfl | rfl) <;> decide

theorem bound_literal {w : List Char} (h : startsLiteral w = true) (s : List Char) : Bound (w ++ s) := by
  unfold startsLiteral at h
  split at h
  · exact bound_cons (by decide) _
  · exact bound_cons (by decide) _
  · simp at h

theorem bound_comment {w : List Char} (h : startsLineComment w = true) (s : List Char) : Bound (w ++ s) := by
  unfold startsLineComment at h
  split at h
  · exact bound_cons (by decide) _
  · exact bound_cons (by decide) _
  · simp at h

theorem bound_block {w : List Char} (h : IsBlock w) (s : List Char) : Bound (w ++ s) := by
  obtain ⟨v, x, rfl, -⟩ := h
  exact bound_cons (by decide) _

theorem not_isIndent_of_lineEnd {w : List Char} (h : (lineEnd? w).isSome = true) : w.all isIndent = false := by
  obtain ⟨r, rfl⟩ | ⟨r, rfl⟩ := lineEnd?_isSome h <;> simp [isIndent]

/-- The characters of tokens that come next, up to the first that ends a name or a number. -/
theorem exists_run (hl : Lexical run cells) (hs : Spaced run cells) (h : AtToken cells ∨ run.head? ≠ some '=') :
    ∃ (u : List Char) (cells' : List Cell), cells = u.map .code ++ cells' ∧ Bound (lefts cells') ∧ Bound (rights cells') := by
  induction cells generalizing run with
  | nil => exact ⟨[], [], rfl, by simp [Bound], by simp [Bound]⟩
  | cons cell cells ih =>
    cases cell with
    | code c =>
      by_cases hc : c = '='
      · subst hc
        exact ⟨[], _, rfl, bound_cons (by decide) _, bound_cons (by decide) _⟩
      · obtain ⟨u, cells', rfl, hb, hb'⟩ := ih hl.2.2.2 hs (.inr (by simpa using hc))
        exact ⟨c :: u, cells', rfl, hb, hb'⟩
    | literal w => exact ⟨[], _, rfl, bound_literal hl.1.starts _, bound_literal hl.1.starts _⟩
    | comment w w' => exact ⟨[], _, rfl, bound_comment hl.1.starts _, bound_comment hl.2.1.starts _⟩
    | block w w' => exact ⟨[], _, rfl, bound_block hl.1 _, bound_block hl.2.1 _⟩
    | space w w' =>
      obtain ⟨⟨hw, hw', -⟩, -⟩ := hl
      refine ⟨[], _, rfl, ?_⟩
      rcases hs.1 with ⟨hbreak', hbreak⟩ | ⟨hin, hin', hne', hmay⟩
      · have hne' : w' ≠ [] := by
          rintro rfl
          simp at hbreak'
        refine ⟨?_, bound_space hw' hne' _⟩
        by_cases hne : w = []
        · subst hne
          obtain rfl := hbreak.resolve_left (by simp)
          simp [Cell.left, Bound]
        · exact bound_space hw hne _
      · rcases hmay with hne | ⟨hhead, -⟩ | ⟨hrun, -⟩
        · exact ⟨bound_space hw hne _, bound_space hw' hne' _⟩
        · obtain ⟨cells, rfl⟩ : ∃ rest, cells = .code '=' :: rest := by
            cases cells with
            | nil => simp at hhead
            | cons cell cells => exact ⟨cells, by rw [Option.some.inj hhead]⟩
          refine ⟨?_, ?_⟩
          · by_cases hne : w = []
            · subst hne
              exact bound_cons (by decide) _
            · exact bound_space hw hne _
          · by_cases hne : w' = []
            · subst hne
              exact bound_cons (by decide) _
            · exact bound_space hw' hne _
        · have hline := (h.resolve_right (by simp [hrun])).1
          simp [not_isIndent_of_lineEnd hline] at hin'

theorem Loose.of_shares {u r r' : List Char} {run : List Char} {cells : List Cell}
    (hl : Lexical run (u.map .code ++ cells)) (hs : Spaced run (u.map .code ++ cells))
    (h : Shares u (lefts cells) (rights cells) r r') : Loose r r' := by
  obtain ⟨x, y, rfl, rfl, rfl⟩ := h
  rw [List.map_append, List.append_assoc] at hl hs
  exact ⟨_, y.map .code ++ cells, hl.drop, hs.drop, by simp, by simp⟩

theorem Parallel.mono {α : Type} {rel rel' : List Char → List Char → Prop} {x x' : Option (α × List Char)}
    (h : Parallel rel x x') (hrel : ∀ r r', rel r r' → rel' r r') : Parallel rel' x x' := by
  cases h with
  | none => exact .none
  | some h => exact .some (hrel _ _ h)

end Runs

section Tokens

variable {s s' : List Char}

/-- Readers that stop at boundaries read alike. -/
theorem Tight.parallel {α : Type} (h : Tight s s') (read : List Char → Option (α × List Char))
    (hread : ∀ u v v', Bound v → Bound v' → Parallel (Shares u v v') (read (u ++ v)) (read (u ++ v'))) :
    Parallel Loose (read s) (read s') := by
  obtain ⟨run, cells, hl, hs, ht, rfl, rfl⟩ := h
  obtain ⟨u, cells, rfl, hb, hb'⟩ := exists_run hl hs (.inl ht)
  rw [lefts_append, rights_append, lefts_code, rights_code]
  exact (hread u _ _ hb hb').mono fun r r' => .of_shares hl hs

theorem Tight.ident (h : Tight s s') : Parallel Loose (ident? s) (ident? s') :=
  h.parallel ident? fun u _ _ hv hv' => ident_bound hv hv' u

theorem Tight.number (h : Tight s s') : Parallel Loose (number? s) (number? s') :=
  h.parallel number? fun u _ _ hv hv' => number_bound hv hv' u

theorem Tight.legacyIndex (h : Tight s s') : Parallel Loose (legacyIndex? s) (legacyIndex? s') :=
  h.parallel legacyIndex? fun u _ _ hv hv' => legacyIndex_bound hv hv' u

theorem head_literal {w : List Char} (h : startsLiteral w = true) :
    ∃ c v, w = c :: v ∧ (c = '"' ∨ c = '<') := by
  unfold startsLiteral at h
  split at h
  · exact ⟨_, _, rfl, .inl rfl⟩
  · exact ⟨_, _, rfl, .inr rfl⟩
  · simp at h

theorem head_comment {w : List Char} (h : startsLineComment w = true) :
    ∃ c v, w = c :: v ∧ (c = '#' ∨ c = '/') := by
  unfold startsLineComment at h
  split at h
  · exact ⟨_, _, rfl, .inl rfl⟩
  · exact ⟨_, _, rfl, .inr rfl⟩
  · simp at h

/-- Cells other than blanks begin with the same character in both texts. -/
theorem head_solid {run : List Char} {cells : List Cell} (hl : Lexical run cells)
    (hspace : ∀ cell ∈ cells.head?, cell.isSpace = false) :
    cells = [] ∨ ∃ c v v', lefts cells = c :: v ∧ rights cells = c :: v' ∧ Text.isBlank c = false ∧
      (cells.head? = some (.code c) ∨ c ∈ ['"', '<', '#', '/']) := by
  match cells, hl with
  | [], _ => exact .inl rfl
  | .code c :: cells, hl =>
    have hc : Text.isBlank c = false := by
      have := hl.1
      simp only [isCode, Bool.and_eq_true, Bool.not_eq_true'] at this
      exact this.1.1
    exact .inr ⟨c, _, _, rfl, rfl, hc, .inl rfl⟩
  | .space w w' :: cells, _ => simp [Cell.isSpace] at hspace
  | .block w w' :: cells, hl =>
    obtain ⟨⟨v, x, rfl, -⟩, ⟨v', x', rfl, -⟩, -⟩ := hl
    exact .inr ⟨'/', _, _, rfl, rfl, by decide, .inr (by decide)⟩
  | .comment w w' :: cells, hl =>
    obtain ⟨hw, hw', hsame, -⟩ := hl
    obtain ⟨c, v, rfl, hc⟩ := head_comment hw.starts
    obtain ⟨c', v', rfl, -⟩ := head_comment hw'.starts
    obtain rfl : c = c' := by simpa using hsame
    refine .inr ⟨c, _, _, rfl, rfl, ?_, .inr ?_⟩ <;> rcases hc with rfl | rfl <;> decide
  | .literal w :: cells, hl =>
    obtain ⟨c, v, rfl, hc⟩ := head_literal hl.1.starts
    refine .inr ⟨c, _, _, rfl, rfl, ?_, .inr ?_⟩ <;> rcases hc with rfl | rfl <;> decide

/-- A character that starts no literal and no comment comes next as a cell of its own or not at all. -/
theorem head_ne {run : List Char} {cells : List Cell} {d : Char} (hl : Lexical run cells)
    (hspace : ∀ cell ∈ cells.head?, cell.isSpace = false) (hd : d ∉ ['"', '<', '#', '/'])
    (hne : cells.head? ≠ some (.code d)) : (lefts cells).head? ≠ some d ∧ (rights cells).head? ≠ some d := by
  rcases head_solid hl hspace with rfl | ⟨c, v, v', h, h', -, hc⟩
  · simp
  · have hcd : c ≠ d := by
      rintro rfl
      exact hc.elim hne hd
    rw [h, h']
    simp [hcd]

/-- The second character of a sign stands right after the first in both texts or in none. -/
theorem second {run : List Char} {c d : Char} {cells : List Cell} (hl : Lexical run (.code c :: cells))
    (hs : Spaced run (.code c :: cells)) (hc : Layout.isKeyChar c = false)
    (hstart : d ∉ ['"', '<', '#', '/']) (hd : d ∉ [' ', '\t', '\n', '\r']) (heq : c = '=' → d = '=' ∨ d = '>') :
    (∃ cells', cells = .code d :: cells') ∨ (lefts cells).head? ≠ some d ∧ (rights cells).head? ≠ some d := by
  have hl := hl.2.2.2
  replace hs : Spaced (c :: run) cells := hs
  by_cases hcode : cells.head? = some (.code d)
  · cases cells with
    | nil => simp at hcode
    | cons cell cells => exact .inl ⟨cells, by rw [Option.some.inj hcode]⟩
  refine .inr ?_
  cases cells with
  | nil => simp
  | cons cell cells =>
    cases cell with
    | space w w' =>
      obtain ⟨⟨hw, hw', -, hhead⟩, -, hcells⟩ := hl
      have hblank : ∀ {w s}, isSpace w = true → w ≠ [] → (w ++ s).head? ≠ some d := by
        intro w s hw hne h
        obtain ⟨e, he, hmem⟩ := head_isSpace hw hne s
        rw [h] at he
        obtain rfl := Option.some.inj he
        exact hd hmem
      rcases hs.1 with ⟨hbreak', hbreak⟩ | ⟨hin, hin', hne', hne | ⟨-, hrun⟩ | ⟨hrun, hno, hno'⟩⟩
      · have hne' : w' ≠ [] := by
          rintro rfl
          simp at hbreak'
        refine ⟨?_, hblank hw' hne'⟩
        by_cases hne : w = []
        · subst hne
          obtain rfl := hbreak.resolve_left (by simp)
          simp [Cell.left]
        · exact hblank hw hne
      · exact ⟨hblank hw hne, hblank hw' hne'⟩
      · simp [hc] at hrun
      · have hno : cells.head? ≠ some (.code d) := by
          rcases heq (by simpa using hrun) with rfl | rfl
          · exact hno
          · exact hno'
        obtain ⟨h, h'⟩ := head_ne hcells hhead hstart hno
        refine ⟨?_, ?_⟩
        · by_cases hne : w = []
          · subst hne
            exact h
          · exact hblank hw hne
        · by_cases hne : w' = []
          · subst hne
            exact h'
          · exact hblank hw' hne
    | _ => exact head_ne hl (by simp [Cell.isSpace]) hstart hcode

theorem AtToken.endsLine {cells : List Cell} (h : AtToken cells) :
    EndsLine cells ∨ cells ≠ [] ∧ ∀ cell ∈ cells.head?, cell.isSpace = false := by
  match cells, h with
  | [], _ => exact .inl trivial
  | .space w w' :: cells, h => exact .inl h
  | .code c :: cells, _ => exact .inr ⟨by simp, by simp [Cell.isSpace]⟩
  | .comment w w' :: cells, _ => exact .inr ⟨by simp, by simp [Cell.isSpace]⟩
  | .literal w :: cells, _ => exact .inr ⟨by simp, by simp [Cell.isSpace]⟩

theorem EndsLine.atToken {cells : List Cell} (h : EndsLine cells) : AtToken cells := by
  match cells, h with
  | [], _ => trivial
  | .space w w' :: cells, h => exact h

/-- The rests of both texts after a character of a token. -/
def AfterCode (c : Char) (v v' : List Char) : Prop :=
  ∃ run cells, Lexical run (.code c :: cells) ∧ Spaced run (.code c :: cells) ∧ v = lefts cells ∧ v' = rights cells

section AfterCode

variable {c d : Char} {v v' : List Char}

theorem AfterCode.loose (h : AfterCode c v v') : Loose v v' := by
  obtain ⟨run, cells, hl, hs, rfl, rfl⟩ := h
  exact ⟨c :: run, cells, hl.2.2.2, hs, rfl, rfl⟩

theorem AfterCode.isCode (h : AfterCode c v v') : isCode c = true := by
  obtain ⟨run, cells, hl, -⟩ := h
  exact hl.1

theorem AfterCode.isApart (h : AfterCode c v v') : isApart c v.head? = true ∧ isApart c v'.head? = true := by
  obtain ⟨run, cells, hl, -, rfl, rfl⟩ := h
  exact ⟨hl.2.1, hl.2.2.1⟩

/-- A sign of two characters stands in both texts or in none. -/
theorem AfterCode.pair (h : AfterCode c v v') (hc : Layout.isKeyChar c = false)
    (hd : d ∉ ['"', '<', '#', '/']) (hd' : d ∉ [' ', '\t', '\n', '\r']) (heq : c = '=' → d = '=' ∨ d = '>') :
    (∃ w w', v = d :: w ∧ v' = d :: w' ∧ Loose w w') ∨ v.head? ≠ some d ∧ v'.head? ≠ some d := by
  obtain ⟨run, cells, hl, hs, rfl, rfl⟩ := h
  rcases second hl hs hc hd hd' heq with ⟨cells, rfl⟩ | hno
  · exact .inl ⟨_, _, rfl, rfl, d :: c :: run, cells, hl.2.2.2.2.2.2, hs, rfl, rfl⟩
  · exact .inr hno

end AfterCode

/-- A character that starts no literal and no comment stands in a cell of its own. -/
theorem Tight.code {c : Char} {v v' : List Char} (h : Tight (c :: v) (c :: v')) (hstart : c ∉ ['"', '<', '#', '/'])
    (hend : c ≠ '\n' ∧ c ≠ '\r') : AfterCode c v v' := by
  obtain ⟨run, cells, hl, hs, ht, h, h'⟩ := h
  rcases ht.endsLine with hline | ⟨hne, hspace⟩
  · have hend' := hline.atLineEnd.1
    rw [← h, atLineEnd.eq_def] at hend'
    simp [hend] at hend'
  · rcases head_solid hl hspace with rfl | ⟨d, v, v', hd, -, -, hcode⟩
    · exact absurd rfl hne
    · obtain ⟨rfl, rfl⟩ := List.cons.inj (h.trans hd)
      cases cells with
      | nil => exact absurd rfl hne
      | cons cell cells =>
        obtain rfl := Option.some.inj (hcode.resolve_right hstart)
        exact ⟨run, cells, hl, hs, (List.cons.inj h).2, (List.cons.inj h').2⟩

theorem signs_start : ∀ c ∈ signs, c ∉ ['"', '<', '#', '/'] ∧ c ≠ '\n' ∧ c ≠ '\r' := by
  have h : signs.all (fun c => !(['"', '<', '#', '/'].contains c) && (c ≠ '\n' && c ≠ '\r')) = true := by decide
  simpa only [List.all_eq_true, Bool.and_eq_true, Bool.not_eq_true', decide_eq_true_eq, List.contains_eq_mem,
    decide_eq_false_iff_not] using h

theorem Tight.heads (h : Tight s s') : (atLineEnd s = true ∧ atLineEnd s' = true) ∨
    ∃ c v v', s = c :: v ∧ s' = c :: v' ∧ (c ∈ signs → Loose v v') := by
  obtain ⟨run, cells, hl, hs, ht, rfl, rfl⟩ := id h
  rcases ht.endsLine with hline | ⟨hne, hspace⟩
  · exact .inl hline.atLineEnd
  · rcases head_solid hl hspace with rfl | ⟨c, v, v', hv, hv', -, -⟩
    · exact absurd rfl hne
    · refine .inr ⟨c, v, v', hv, hv', fun hc => ?_⟩
      rw [hv, hv'] at h
      exact (h.code (signs_start c hc).1 (signs_start c hc).2).loose

theorem Tight.arrow (h : Tight s s') :
    Parallel Loose ((word? "=>" s).map fun r => ((), r)) ((word? "=>" s').map fun r => ((), r)) := by
  rcases h.heads with ⟨hs, hs'⟩ | ⟨c, v, v', rfl, rfl, -⟩
  · have hnone : ∀ {s}, atLineEnd s = true → word? "=>" s = none := by
      intro s hs
      unfold atLineEnd at hs
      split at hs
      · rfl
      · rfl
      · rfl
      · simp at hs
    rw [hnone hs, hnone hs']
    exact .none
  · by_cases hc : c = '='
    · subst hc
      have hcode := h.code (by decide) (by decide)
      rcases hcode.pair (by decide) (d := '>') (by decide) (by decide) (by simp) with ⟨w, w', rfl, rfl, hw⟩ | ⟨hno, hno'⟩
      · exact .some hw
      · have hnone : ∀ {v : List Char}, v.head? ≠ some '>' → word? "=>" ('=' :: v) = none := by
          intro v hv
          cases v with
          | nil => rfl
          | cons d v => simpa [word?, Text.afterStart?, eq_comm] using hv
        rw [hnone hno, hnone hno']
        exact .none
    · have hnone : ∀ v, word? "=>" (c :: v) = none := by
        intro v
        simp [word?, Text.afterStart?, Ne.symm hc]
      rw [hnone, hnone]
      exact .none

/-- Words without the arrow have no boundaries in them. -/
theorem unbound_of_word {w : String} (hw : w ∈ words) (harrow : w ≠ "=>") : ∀ c ∈ w.toList, c ∉ boundaries := by
  have h : words.all (fun w => w = "=>" || w.toList.all fun c => !boundaries.contains c) = true := by decide
  have hword := List.all_eq_true.mp h w hw
  simpa [harrow] using hword

theorem Tight.word (h : Tight s s') (w : String) (hw : w ∈ words) :
    Parallel Loose ((word? w s).map fun r => ((), r)) ((word? w s').map fun r => ((), r)) := by
  by_cases harrow : w = "=>"
  · subst harrow
    exact h.arrow
  · exact h.parallel (fun s => (word? w s).map fun r => ((), r))
      fun u _ _ hv hv' => word_bound hv hv' (unbound_of_word hw harrow) u

theorem Tight.startsStep (h : Tight s s') : startsStep s = startsStep s' := by
  rcases h.heads with ⟨hs, hs'⟩ | ⟨c, v, v', rfl, rfl, -⟩
  · have hfalse : ∀ {s}, atLineEnd s = true → Source.startsStep s = false := by
      intro s hs
      unfold atLineEnd at hs
      split at hs
      · rfl
      · rfl
      · rfl
      · simp at hs
    rw [hfalse hs, hfalse hs']
  · by_cases hc : c = '.'
    · subst hc
      have hcode := h.code (by decide) (by decide)
      rcases hcode.pair (by decide) (d := '.') (by decide) (by decide) (by simp) with ⟨w, w', rfl, rfl, -⟩ | ⟨hno, hno'⟩
      · rfl
      · have htrue : ∀ {v : List Char}, v.head? ≠ some '.' → Source.startsStep ('.' :: v) = true := by
          intro v hv
          cases v with
          | nil => rfl
          | cons d v =>
            have hd : d ≠ '.' := by simpa using hv
            simp [Source.startsStep, hd]
        rw [htrue hno, htrue hno']
    · have hplain : ∀ v, Source.startsStep (c :: v) = decide (c = '[') := by
        intro v
        unfold Source.startsStep
        split <;> simp_all
      rw [hplain, hplain]

/-- What a tight place holds: the end of a line, a cell of code, a literal or a comment. -/
theorem Tight.cases (h : Tight s s') : (∃ cells, EndsLine cells ∧ Lexical [] cells ∧ Spaced [] cells ∧ s = lefts cells ∧
      s' = rights cells) ∨
    (∃ c v v', AfterCode c v v' ∧ s = c :: v ∧ s' = c :: v') ∨
    (∃ w r r', IsLiteral w ∧ Loose r r' ∧ s = w ++ r ∧ s' = w ++ r') ∨
    ∃ w w' r r', IsComment w ∧ IsComment w' ∧ Tight r r' ∧ atLineEnd r = true ∧ atLineEnd r' = true ∧
      s = w ++ r ∧ s' = w' ++ r' := by
  obtain ⟨run, cells, hl, hs, ht, rfl, rfl⟩ := h
  match cells, ht with
  | [], _ => exact .inl ⟨[], trivial, trivial, trivial, rfl, rfl⟩
  | .space w w' :: cells, ht =>
    have ht : EndsLine (.space w w' :: cells) := ht
    refine .inl ⟨_, ht, ⟨hl.1, fun _ _ => by decide, hl.2.2⟩, ⟨?_, hs.2⟩, rfl, rfl⟩
    rcases hs.1 with hbreak | ⟨-, hin', -⟩
    · exact .inl hbreak
    · simp [not_isIndent_of_lineEnd ht.1] at hin'
  | .code c :: cells, _ => exact .inr (.inl ⟨c, _, _, ⟨run, cells, hl, hs, rfl, rfl⟩, rfl, rfl⟩)
  | .literal w :: cells, _ =>
    exact .inr (.inr (.inl ⟨w, _, _, hl.1, ⟨[], cells, hl.2, hs, rfl, rfl⟩, rfl, rfl⟩))
  | .comment w w' :: cells, _ =>
    obtain ⟨hw, hw', -, -, hend, hl⟩ := hl
    exact .inr (.inr (.inr ⟨w, w', _, _, hw, hw', ⟨[], cells, hl, hs, hend.atToken, rfl, rfl⟩, hend.atLineEnd.1,
      hend.atLineEnd.2, rfl, rfl⟩))

theorem lineComment?_none {s : List Char} (h : startsLineComment s = false) : lineComment? s = none := by
  simp [lineComment?, h]

theorem Tight.comment (h : Tight s s') :
    Tight ((lineComment? s).getD ([], s)).2 ((lineComment? s').getD ([], s')).2 := by
  have hstay : startsLineComment s = false → startsLineComment s' = false →
      Tight ((lineComment? s).getD ([], s)).2 ((lineComment? s').getD ([], s')).2 := by
    intro hs hs'
    rw [lineComment?_none hs, lineComment?_none hs']
    exact h
  rcases h.cases with ⟨cells, hend, -, -, rfl, rfl⟩ | ⟨c, v, v', hv, rfl, rfl⟩ | ⟨w, r, r', hw, -, rfl, rfl⟩ |
    ⟨w, w', r, r', hw, hw', hr, hend, hend', rfl, rfl⟩
  · have hfalse : ∀ {s}, atLineEnd s = true → startsLineComment s = false := by
      intro s hs
      unfold atLineEnd at hs
      split at hs
      · rfl
      · rfl
      · rfl
      · simp at hs
    exact hstay (hfalse hend.atLineEnd.1) (hfalse hend.atLineEnd.2)
  · have hc := hv.isCode
    have hfalse : ∀ {v : List Char}, isApart c v.head? = true → startsLineComment (c :: v) = false := by
      intro v ha
      unfold startsLineComment
      split
      · next heq => simp [(List.cons.inj heq).1, isCode] at hc
      · next heq => simp [(List.cons.inj heq).1, (List.cons.inj heq).2, isApart] at ha
      · rfl
    exact hstay (hfalse hv.isApart.1) (hfalse hv.isApart.2)
  · have hfalse : ∀ r, startsLineComment (w ++ r) = false := by
      intro r
      obtain ⟨c, v, rfl, rfl | rfl⟩ := head_literal hw.starts <;> rfl
    exact hstay (hfalse r) (hfalse r')
  · rw [lineComment?_append hw.starts hw.newline hw.carriage hend,
      lineComment?_append hw'.starts hw'.newline hw'.carriage hend']
    exact hr

theorem IsMargin.of_append {e x : List Char} (h : isSpace (e ++ x) = true) : IsMargin x :=
  fun c hc => isBlank_of_isSpace h c (by simp [hc])

theorem lineEnd?_eq_none {c : Char} {v : List Char} (hn : c ≠ '\n') (hr : c ≠ '\r') : lineEnd? (c :: v) = none := by
  simp [lineEnd?, hn, hr]

theorem Tight.lineEnd (h : Tight s s') :
    Parallel Fresh ((lineEnd? s).map fun r => ((), r)) ((lineEnd? s').map fun r => ((), r)) ∨
    s = [] ∧ ∃ r', lineEnd? s' = some r' ∧ Fresh [] r' := by
  rcases h.cases with ⟨cells, hend, hl, hs, rfl, rfl⟩ | ⟨c, v, v', hv, rfl, rfl⟩ | ⟨w, r, r', hw, -, rfl, rfl⟩ |
    ⟨w, w', r, r', hw, hw', -, -, -, rfl, rfl⟩
  · match cells, hend with
    | [], _ => exact .inl .none
    | .space w w' :: cells, ⟨hw', hw⟩ =>
      obtain ⟨x', ⟨e', rfl⟩, hx'⟩ := lineEnd?_append hw' (rights cells)
      have hm' := IsMargin.of_append hl.1.2.1
      rcases hw with hw | ⟨rfl, rfl⟩
      · obtain ⟨x, ⟨e, rfl⟩, hx⟩ := lineEnd?_append hw (lefts cells)
        have hm := IsMargin.of_append hl.1.1
        simp only [lefts_cons, rights_cons, Cell.left, Cell.right, hx, hx']
        exact .inl (.some ⟨x, x', _, _, hm, hm', ⟨[], cells, hl.2.2, hs.2, rfl, rfl⟩, rfl, rfl⟩)
      · refine .inr ⟨rfl, _, hx', [], x', [], [], by simp [IsMargin], hm', ⟨[], [], trivial, trivial, rfl, rfl⟩, rfl, rfl⟩
  · refine .inl ?_
    have hne : c ≠ '\n' ∧ c ≠ '\r' := by
      constructor <;> (rintro rfl; exact absurd hv.isCode (by decide))
    rw [lineEnd?_eq_none hne.1 hne.2, lineEnd?_eq_none hne.1 hne.2]
    exact .none
  · refine .inl ?_
    obtain ⟨c, v, rfl, rfl | rfl⟩ := head_literal hw.starts <;> exact .none
  · refine .inl ?_
    obtain ⟨c, v, rfl, hc⟩ := head_comment hw.starts
    obtain ⟨c', v', rfl, hc'⟩ := head_comment hw'.starts
    rcases hc with rfl | rfl <;> rcases hc' with rfl | rfl <;> exact .none

/-- A literal without interpolations is found whatever follows it, or never. -/
theorem IsLiteral.plainString {w : List Char} (h : IsLiteral w) :
    (∀ r, plainString? (w ++ r) = none) ∨ ∃ text, ∀ r, plainString? (w ++ r) = some (text, r) := by
  obtain ⟨value, hreads⟩ := h.reads
  obtain ⟨c, v, rfl, rfl | rfl⟩ := head_literal h.starts
  · have hterm : ∀ r, term? (8 * ('"' :: v ++ r).length + 1) {} none ('"' :: v ++ r) = some ((value, false), r) :=
      fun r => (hreads _ {} none r).2 (Nat.le_refl _)
    have hplain : ∀ r text t, plainString? ('"' :: v ++ r) = some (text, t) → value = .bare (.string text) ∧ t = r := by
      intro r text t ht
      have := hterm r
      rw [List.cons_append] at this ht
      rw [term?.eq_def] at this
      simp only [ht, applyPending, Option.some.injEq, Prod.mk.injEq] at this
      exact ⟨this.1.1.symm, this.2⟩
    have hquoted : ∀ r, plainString? ('"' :: v ++ r) = none → ∃ pieces, value = .bare (.quoted pieces) := by
      intro r ht
      have := hterm r
      rw [List.cons_append] at this ht
      rw [term?.eq_def] at this
      simp only [ht, applyPending] at this
      obtain ⟨⟨pieces, t⟩, -, this⟩ := Option.bind_eq_some_iff.1 this
      simp only at this
      split at this
      · simp only [Option.some.injEq, Prod.mk.injEq] at this
        exact ⟨pieces, this.1.1.symm⟩
      · simp at this
    cases hnil : plainString? ('"' :: v ++ []) with
    | none =>
      obtain ⟨pieces, rfl⟩ := hquoted _ hnil
      refine .inl fun r => Option.eq_none_iff_forall_ne_some.2 ?_
      rintro ⟨text, t⟩ ht
      simpa [Written.bare] using (hplain _ _ _ ht).1
    | some p =>
      obtain ⟨text, t⟩ := p
      obtain ⟨rfl, rfl⟩ := hplain _ _ _ hnil
      refine .inr ⟨text, fun r => ?_⟩
      cases hr : plainString? ('"' :: v ++ r) with
      | none =>
        obtain ⟨pieces, hpieces⟩ := hquoted _ hr
        simp [Written.bare] at hpieces
      | some p =>
        obtain ⟨htext, htail⟩ := hplain _ _ _ hr
        obtain rfl : text = p.1 := by simpa [Written.bare] using htext
        rw [← htail]
  · exact .inl fun _ => rfl

/-- A literal stands where one starts. -/
theorem Tight.literalCell (h : Tight s s') (hs : startsLiteral s = true) :
    ∃ w r r', IsLiteral w ∧ Loose r r' ∧ s = w ++ r ∧ s' = w ++ r' := by
  rcases h.cases with ⟨cells, hend, -, -, rfl, rfl⟩ | ⟨c, v, v', hv, rfl, rfl⟩ | hliteral |
    ⟨w, w', r, r', hw, -, -, -, -, rfl, rfl⟩
  · have hend := hend.atLineEnd.1
    generalize lefts cells = s at *
    unfold startsLiteral at hs
    split at hs
    · simp [atLineEnd] at hend
    · simp [atLineEnd] at hend
    · simp at hs
  · have hc := hv.isCode
    have ha := hv.isApart.1
    unfold startsLiteral at hs
    split at hs
    · next heq => simp [(List.cons.inj heq).1, isCode] at hc
    · next heq => simp [(List.cons.inj heq).1, (List.cons.inj heq).2, isApart] at ha
    · simp at hs
  · exact hliteral
  · obtain ⟨c, v, rfl, rfl | rfl⟩ := head_comment hw.starts <;> simp [startsLiteral] at hs

theorem Tight.plainString (h : Tight s s') (hs : startsLiteral s = true) :
    Parallel Loose (plainString? s) (plainString? s') := by
  obtain ⟨w, r, r', hw, hr, rfl, rfl⟩ := h.literalCell hs
  rcases hw.plainString with hnone | ⟨text, htext⟩
  · rw [hnone, hnone]
    exact .none
  · rw [htext, htext]
    exact .some hr

theorem Tight.literal (h : Tight s s') (hs : startsLiteral s = true) {n n' : Nat} {m : Manner}
    {op? : Option (UnaryOp × String)} {w : Written} {lines : Bool} {r : List Char} (hn : 8 * s'.length + 1 ≤ n')
    (hterm : term? n m op? s = some ((w, lines), r)) :
    lines = m.lines ∧ ∃ w₀ r', w = applyPending op? w₀ ∧ Loose r r' ∧ r'.length ≤ s'.length ∧
      ∀ op?', term? n' m op?' s' = some ((applyPending op?' w₀, lines), r') := by
  obtain ⟨v, t, t', hv, ht, rfl, rfl⟩ := h.literalCell hs
  obtain ⟨value, hreads⟩ := hv.reads
  have hsame := (hreads n m op? t).1 _ hterm
  simp only [Prod.mk.injEq] at hsame
  obtain ⟨⟨rfl, rfl⟩, rfl⟩ := hsame
  exact ⟨rfl, value, t', rfl, ht, by simp, fun op?' => (hreads n' m op?' t').2 hn⟩

theorem heredoc?_noDelimiter {n : Nat} {v : List Char} (h : startsLiteral ('<' :: v) = true ∨ v = []) :
    heredoc? n v = none := by
  cases n with
  | zero => rfl
  | succ n =>
    rcases h with h | rfl
    · unfold startsLiteral at h
      split at h
      · next heq => simp at heq
      · next heq =>
        rw [(List.cons.inj heq).2]
        rfl
      · simp at h
    · rfl

/-- After `<<` a heredoc goes on with its delimiter. -/
theorem IsLiteral.heredoc {v : List Char} (h : IsLiteral ('<' :: v)) :
    ∃ x, v = '<' :: x ∧ ∀ r, startsLiteral ('<' :: (x ++ r)) = false := by
  have hstart := h.starts
  obtain ⟨value, hreads⟩ := h.reads
  obtain ⟨x, rfl⟩ : ∃ x, v = '<' :: x := by
    unfold startsLiteral at hstart
    split at hstart
    · next heq => simp at heq
    · next heq => exact ⟨_, (List.cons.inj heq).2⟩
    · simp at hstart
  refine ⟨x, rfl, ?_⟩
  have hdelimiter : ¬ (startsLiteral ('<' :: x) = true ∨ x = []) := by
    intro hx
    have hread := (hreads _ {} none []).2 (Nat.le_refl _)
    simp only [List.append_nil] at hread
    rw [term?.eq_def] at hread
    simp [heredoc?_noDelimiter hx] at hread
  cases x with
  | nil => simp at hdelimiter
  | cons c x =>
    intro r
    have hc : c ≠ '<' := by
      rintro rfl
      simp [startsLiteral] at hdelimiter
    simp [startsLiteral, hc]

/-- The characters at which binary operators start. -/
def operators : List Char := ['=', '!', '<', '>', '&', '|', '+', '-', '*', '/', '%']

theorem binaryOp?_plain {c : Char} (hc : c ∉ operators) (v : List Char) : binaryOp? (c :: v) = none := by
  simp only [operators, List.mem_cons, List.not_mem_nil, or_false, not_or] at hc
  simp [binaryOp?, hc]

theorem binaryOp?_single {c d : Char} {v : List Char} (hv : v.head? ≠ some d)
    (hcd : (c, d) ∈ [('=', '='), ('!', '='), ('<', '='), ('>', '='), ('&', '&'), ('|', '|')]) :
    binaryOp? (c :: v) = (if c = '<' then some (.lt, v) else if c = '>' then some (.gt, v) else none) := by
  have hne : ∀ x, v ≠ d :: x := by
    rintro x rfl
    exact hv rfl
  simp only [List.mem_cons, List.not_mem_nil, or_false, Prod.mk.injEq] at hcd
  obtain ⟨rfl, rfl⟩ | ⟨rfl, rfl⟩ | ⟨rfl, rfl⟩ | ⟨rfl, rfl⟩ | ⟨rfl, rfl⟩ | ⟨rfl, rfl⟩ := hcd <;> simp [binaryOp?, hne]

theorem binaryOp?_slash {v : List Char} (h : isApart '/' v.head? = true) : binaryOp? ('/' :: v) = some (.div, v) := by
  cases v with
  | nil => rfl
  | cons c v =>
    obtain ⟨hslash, hstar⟩ : c ≠ '/' ∧ c ≠ '*' := by simpa [isApart] using h
    simp [binaryOp?, hslash, hstar]

theorem AfterCode.binaryOp {c : Char} {v v' : List Char} (h : AfterCode c v v') (hc : c ∈ operators) :
    Parallel Loose (binaryOp? (c :: v)) (binaryOp? (c :: v')) := by
  have hpair : ∀ d op, (c, d) ∈ [('=', '='), ('!', '='), ('<', '='), ('>', '='), ('&', '&'), ('|', '|')] →
      (∀ v, binaryOp? (c :: d :: v) = some (op, v)) → Parallel Loose (binaryOp? (c :: v)) (binaryOp? (c :: v')) := by
    intro d op hcd hop
    have hsign : ∀ p ∈ [('=', '='), ('!', '='), ('<', '='), ('>', '='), ('&', '&'), ('|', '|')],
        Layout.isKeyChar p.1 = false ∧ p.2 ∉ ['"', '<', '#', '/'] ∧ p.2 ∉ [' ', '\t', '\n', '\r'] ∧
          (p.1 = '=' → p.2 = '=' ∨ p.2 = '>') := by decide
    obtain ⟨h₁, h₂, h₃, h₄⟩ := hsign _ hcd
    rcases h.pair h₁ h₂ h₃ h₄ with ⟨w, w', rfl, rfl, hw⟩ | ⟨hno, hno'⟩
    · rw [hop, hop]
      exact .some hw
    · rw [binaryOp?_single hno hcd, binaryOp?_single hno' hcd]
      split
      · exact .some h.loose
      · split
        · exact .some h.loose
        · exact .none
  simp only [operators, List.mem_cons, List.not_mem_nil, or_false] at hc
  rcases hc with rfl | rfl | rfl | rfl | rfl | rfl | rfl | rfl | rfl | rfl | rfl
  · exact hpair '=' .eq (by decide) fun _ => rfl
  · exact hpair '=' .ne (by decide) fun _ => rfl
  · exact hpair '=' .le (by decide) fun _ => rfl
  · exact hpair '=' .ge (by decide) fun _ => rfl
  · exact hpair '&' .and (by decide) fun _ => rfl
  · exact hpair '|' .or (by decide) fun _ => rfl
  · exact .some h.loose
  · exact .some h.loose
  · exact .some h.loose
  · rw [binaryOp?_slash h.isApart.1, binaryOp?_slash h.isApart.2]
    exact .some h.loose
  · exact .some h.loose

theorem Tight.binaryOp (h : Tight s s') : Parallel Loose (binaryOp? s) (binaryOp? s') ∨
    ∃ v, s = '<' :: '<' :: v ∧ startsLiteral ('<' :: v) = false := by
  rcases h.cases with ⟨cells, hend, -, -, rfl, rfl⟩ | ⟨c, v, v', hv, rfl, rfl⟩ | ⟨w, r, r', hw, -, rfl, rfl⟩ |
    ⟨w, w', r, r', hw, hw', -, -, -, rfl, rfl⟩
  · have hnone : ∀ {s}, atLineEnd s = true → binaryOp? s = none := by
      intro s hs
      unfold atLineEnd at hs
      split at hs
      · rfl
      · rfl
      · rfl
      · simp at hs
    rw [hnone hend.atLineEnd.1, hnone hend.atLineEnd.2]
    exact .inl .none
  · refine .inl ?_
    by_cases hop : c ∈ operators
    · exact hv.binaryOp hop
    · rw [binaryOp?_plain hop, binaryOp?_plain hop]
      exact .none
  · obtain ⟨c, v, rfl, rfl | rfl⟩ := head_literal hw.starts
    · exact .inl .none
    · obtain ⟨x, rfl, hx⟩ := hw.heredoc
      exact .inr ⟨x ++ r, rfl, hx r⟩
  · have hnone : ∀ {w}, startsLineComment w = true → ∀ r, binaryOp? (w ++ r) = none := by
      intro w hw r
      unfold startsLineComment at hw
      split at hw
      · rfl
      · rfl
      · simp at hw
    rw [hnone hw.starts, hnone hw'.starts]
    exact .inl .none

theorem startsLoop_none {s : List Char} (h : word? "for" s = none) : startsLoop s = false := by
  simp [startsLoop, h]

theorem startsLoop_some {s r : List Char} (h : word? "for" s = some r) :
    startsLoop s = r.head?.any (· ∈ [' ', '\t', '\n', '\r']) := by
  cases r with
  | nil => simp [startsLoop, h]
  | cons c r => simp [startsLoop, h, Bool.or_assoc]

/-- White space follows a `for` before both rests or before none, unless the first text ends there: blanks before an
equals sign come and go after other names only. -/
theorem loopSpace {run : List Char} {cells : List Cell} (hl : Lexical ("for".toList.reverse ++ run) cells)
    (hs : Spaced ("for".toList.reverse ++ run) cells) (hrun : ∀ c ∈ run.head?, Layout.isKeyChar c = false) :
    (lefts cells).head?.any (· ∈ [' ', '\t', '\n', '\r']) = (rights cells).head?.any (· ∈ [' ', '\t', '\n', '\r']) ∨
      lefts cells = [] := by
  cases cells with
  | nil => exact .inr rfl
  | cons cell cells =>
    by_cases hcell : cell.isSpace = true
    · obtain ⟨w, w', rfl⟩ : ∃ w w', cell = .space w w' := by
        cases cell <;> simp_all [Cell.isSpace]
      obtain ⟨⟨hw, hw', -⟩, hfor, -⟩ := hl
      have htrue : ∀ {w s}, isSpace w = true → w ≠ [] → (w ++ s).head?.any (· ∈ [' ', '\t', '\n', '\r']) = true := by
        intro w s hw hne
        obtain ⟨d, hd, hmem⟩ := head_isSpace hw hne s
        rw [hd]
        exact decide_eq_true hmem
      rcases hs.1 with ⟨hbreak', hbreak⟩ | ⟨hin, hin', hne', hne | ⟨hhead, hall⟩ | ⟨hequals, -⟩⟩
      · have hne' : w' ≠ [] := by
          rintro rfl
          simp at hbreak'
        by_cases hne : w = []
        · subst hne
          obtain rfl := hbreak.resolve_left (by simp)
          exact .inr rfl
        · exact .inl ((htrue hw hne).trans (htrue hw' hne').symm)
      · exact .inl ((htrue hw hne).trans (htrue hw' hne').symm)
      · cases run with
        | nil =>
          by_cases hne : w = []
          · exact absurd rfl (hfor hne hhead)
          · exact .inl ((htrue hw hne).trans (htrue hw' hne').symm)
        | cons c run =>
          have hc := hrun c rfl
          simp [hc] at hall
      · simp at hequals
    · rcases head_solid hl (by simpa using hcell) with h | ⟨c, v, v', h, h', -⟩
      · simp at h
      · rw [h, h']
        exact .inl rfl

theorem startsLoop_cells {run : List Char} {cells : List Cell} (hl : Lexical run cells) (hs : Spaced run cells)
    (ht : AtToken cells) (hrun : ∀ c ∈ run.head?, Layout.isKeyChar c = false) :
    startsLoop (lefts cells) = startsLoop (rights cells) ∨ lefts cells = "for".toList := by
  obtain ⟨u, cells, rfl, hb, hb'⟩ := exists_run hl hs (.inl ht)
  have hp : Parallel (Shares u (lefts cells) (rights cells)) ((word? "for" (u ++ lefts cells)).map fun r => ((), r))
      ((word? "for" (u ++ rights cells)).map fun r => ((), r)) := word_bound hb hb'
      (unbound_of_word (by simp [words]) (by decide)) u
  simp only [lefts_append, rights_append, lefts_code, rights_code]
  cases hw : word? "for" (u ++ lefts cells) with
  | none =>
    cases hw' : word? "for" (u ++ rights cells) with
    | none => exact .inl ((startsLoop_none hw).trans (startsLoop_none hw').symm)
    | some r' =>
      rw [hw, hw'] at hp
      cases hp
  | some r =>
    cases hw' : word? "for" (u ++ rights cells) with
    | none =>
      rw [hw, hw'] at hp
      cases hp
    | some r' =>
      rw [hw, hw'] at hp
      cases hp with
      | some hshares =>
        obtain ⟨x, y, rfl, rfl, rfl⟩ := hshares
        obtain rfl : x = "for".toList := by
          have := afterStart?_eq_some.1 hw
          rwa [List.append_assoc, List.append_left_inj] at this
        rw [startsLoop_some hw, startsLoop_some hw']
        cases y with
        | cons c y => exact .inl rfl
        | nil =>
          rw [List.append_nil] at hl hs ⊢
          rcases loopSpace hl.drop hs.drop hrun with hsame | hnil
          · exact .inl hsame
          · rw [hnil]
            exact .inr rfl

theorem Tight.startsLoop {c : Char} {v v' : List Char} (hc : c = '[' ∨ c = '{') (h : Tight (c :: v) (c :: v')) :
    startsLoop (blanks true v).2 = startsLoop (blanks true v').2 ∨ (blanks true v).2 = "for".toList := by
  have hsign : c ∈ signs ∧ Layout.isKeyChar c = false := by rcases hc with rfl | rfl <;> decide
  obtain ⟨run, cells, hl, hs, rfl, rfl⟩ := h.code (signs_start c hsign.1).1 (signs_start c hsign.1).2
  obtain ⟨run', cells', hrun, hl', hs', ht, h, h'⟩ := skip_cells hl.2.2.2 (show Spaced (c :: run) cells from hs) true
  rw [h, h']
  refine startsLoop_cells hl' hs' ht ?_
  rcases hrun with rfl | rfl
  · simpa using hsign.2
  · simp

end Tokens

/-- Places between cells lie side by side. -/
def cellAlignment : Alignment where
  loose := Loose
  tight := Tight
  fresh := Fresh
  loose_of_tight := Tight.loose
  fresh_of_loose := Loose.fresh
  blanks_of_loose := Loose.blanks
  blanks_of_fresh := Fresh.blanks
  heads := Tight.heads
  word := Tight.word
  ident := Tight.ident
  number := Tight.number
  legacyIndex := Tight.legacyIndex
  binaryOp := Tight.binaryOp
  startsStep := Tight.startsStep
  startsLoop := Tight.startsLoop
  comment := Tight.comment
  lineEnd := Tight.lineEnd
  plainString := Tight.plainString
  literal := fun h hs _ _ _ _ _ _ _ => Tight.literal h hs

/-- Texts that are cut into the same cells and whose blanks differ where they may are read alike: if the first one can
be read, the second one can be read too and says the same. -/
theorem parse?_cells {text text' : String} {cells : List Cell} (hl : Lexical [] cells) (hs : Spaced [] cells)
    (h : text.toList = lefts cells) (h' : text'.toList = rights cells) {b : Body} (hb : parse? text = some b) :
    ∃ b', parse? text' = some b' ∧ b'.readings = b.readings := by
  have hfresh : Fresh text.toList text'.toList := Loose.fresh ⟨[], cells, hl, hs, h, h'⟩
  exact cellAlignment.parse? hfresh hb

end Terrasmith.Source
