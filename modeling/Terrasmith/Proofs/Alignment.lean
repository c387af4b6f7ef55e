import Terrasmith.Proofs.Compact
import Terrasmith.Proofs.Lexemes

/-!
Two texts read side by side. An alignment relates the places of two texts at which a reader may stand: `loose` where
blanks may come next, `tight` where a token does, and `fresh` at the start of a line. Its laws say that the readers of
blanks and tokens move from places it relates to places it relates. It follows that the readers of expressions do so
too, and that what they read has the same compact form.
-/
namespace Terrasmith.Source

/-- The characters that the readers of expressions and structures look for one by one. -/
def signs : List Char := ['=', '{', '}', '[', ']', '(', ')', ',', ':', '?', '.', '*', '-', '!']

/-- The longer signs and the keywords they look for. -/
def words : List String := ["::", "=>", "...", "for", "in", "if"]

/-- Whether a string literal or a heredoc starts here. -/
def startsLiteral : List Char → Bool
  | '"' :: _ => true
  | '<' :: '<' :: _ => true
  | _ => false

/-- Two optional results that are both there, with rests that `rel` relates, or both missing. -/
inductive Parallel {α : Type} (rel : List Char → List Char → Prop) :
    Option (α × List Char) → Option (α × List Char) → Prop where
  | none : Parallel rel none none
  | some {a : α} {r r' : List Char} (h : rel r r') : Parallel rel (some (a, r)) (some (a, r'))

/-- How the places of two texts lie side by side. -/
structure Alignment where
  loose : List Char → List Char → Prop
  tight : List Char → List Char → Prop
  fresh : List Char → List Char → Prop
  loose_of_tight : ∀ {s s'}, tight s s' → loose s s'
  fresh_of_loose : ∀ {s s'}, loose s s' → fresh s s'
  blanks_of_loose : ∀ {s s'}, loose s s' → ∀ lines, tight (blanks lines s).2 (blanks lines s').2
  blanks_of_fresh : ∀ {s s'}, fresh s s' → tight (blanks true s).2 (blanks true s').2
  heads : ∀ {s s'}, tight s s' → (atLineEnd s = true ∧ atLineEnd s' = true) ∨
    ∃ c v v', s = c :: v ∧ s' = c :: v' ∧ (c ∈ signs → loose v v')
  word : ∀ {s s'}, tight s s' → ∀ w ∈ words,
    Parallel loose ((word? w s).map fun r => ((), r)) ((word? w s').map fun r => ((), r))
  ident : ∀ {s s'}, tight s s' → Parallel loose (ident? s) (ident? s')
  number : ∀ {s s'}, tight s s' → Parallel loose (number? s) (number? s')
  legacyIndex : ∀ {s s'}, tight s s' → Parallel loose (legacyIndex? s) (legacyIndex? s')
  /-- Where a heredoc starts, its first character is read as an operator, but no operand follows. -/
  binaryOp : ∀ {s s'}, tight s s' → Parallel loose (binaryOp? s) (binaryOp? s') ∨
    ∃ v, s = '<' :: '<' :: v ∧ startsLiteral ('<' :: v) = false
  startsStep : ∀ {s s'}, tight s s' → startsStep s = startsStep s'
  startsLoop : ∀ {c v v'}, c = '[' ∨ c = '{' → tight (c :: v) (c :: v') →
    startsLoop (blanks true v).2 = startsLoop (blanks true v').2 ∨ (blanks true v).2 = "for".toList
  comment : ∀ {s s'}, tight s s' →
    tight ((lineComment? s).getD ([], s)).2 ((lineComment? s').getD ([], s')).2
  lineEnd : ∀ {s s'}, tight s s' →
    Parallel fresh ((lineEnd? s).map fun r => ((), r)) ((lineEnd? s').map fun r => ((), r)) ∨
    s = [] ∧ ∃ r', lineEnd? s' = some r' ∧ fresh [] r'
  plainString : ∀ {s s'}, tight s s' → startsLiteral s = true → Parallel loose (plainString? s) (plainString? s')
  /-- String literals and heredocs are read alike. -/
  literal : ∀ {s s'}, tight s s' → startsLiteral s = true →
    ∀ {n n' : Nat} {m : Manner} {op? : Option (UnaryOp × String)} {w : Written} {lines : Bool} {r : List Char},
      8 * s'.length + 1 ≤ n' → term? n m op? s = some ((w, lines), r) →
      lines = m.lines ∧ ∃ w₀ r', w = applyPending op? w₀ ∧ loose r r' ∧ r'.length ≤ s'.length ∧
        ∀ op?', term? n' m op?' s' = some ((applyPending op?' w₀, lines), r')

namespace Alignment

variable {A : Alignment}

theorem skip {s s' : List Char} (h : A.loose s s') (lines : Bool) :
    A.tight (blanks lines s).2 (blanks lines s').2 ∧ (blanks lines s').2.length ≤ s'.length :=
  ⟨A.blanks_of_loose h lines, (suffix_blanks lines s').length_le⟩

theorem skipFresh {s s' : List Char} (h : A.fresh s s') :
    A.tight (blanks true s).2 (blanks true s').2 ∧ (blanks true s').2.length ≤ s'.length :=
  ⟨A.blanks_of_fresh h, (suffix_blanks true s').length_le⟩

theorem atLineEnd_sign {c : Char} (hc : c ∈ signs) (v : List Char) : atLineEnd (c :: v) = false := by
  simp only [signs, List.mem_cons, List.not_mem_nil, or_false] at hc
  rcases hc with rfl | rfl | rfl | rfl | rfl | rfl | rfl | rfl | rfl | rfl | rfl | rfl | rfl | rfl <;> rfl

/-- A sign stands in both texts or in none. -/
theorem sign {s s' : List Char} (h : A.tight s s') (c : Char) (hc : c ∈ signs) :
    (∃ v v', s = c :: v ∧ s' = c :: v' ∧ A.loose v v') ∨ (∀ v, s ≠ c :: v) ∧ ∀ v', s' ≠ c :: v' := by
  rcases A.heads h with ⟨hs, hs'⟩ | ⟨d, v, v', rfl, rfl, hv⟩
  · refine .inr ⟨?_, ?_⟩
    · rintro v rfl
      simp [atLineEnd_sign hc] at hs
    · rintro v rfl
      simp [atLineEnd_sign hc] at hs'
  · by_cases hd : d = c
    · subst hd
      exact .inl ⟨v, v', rfl, rfl, hv hc⟩
    · refine .inr ⟨?_, ?_⟩ <;> simp [hd]

/-- A keyword stands in both texts or in none. -/
theorem keyword {s s' : List Char} (h : A.tight s s') (w : String) (hw : w ∈ words) :
    (∃ v v', word? w s = some v ∧ word? w s' = some v' ∧ A.loose v v') ∨ word? w s = none ∧ word? w s' = none := by
  have hp := A.word h w hw
  cases hs : word? w s with
  | none =>
    cases hs' : word? w s' with
    | none => exact .inr ⟨rfl, rfl⟩
    | some v' => rw [hs, hs'] at hp; cases hp
  | some v =>
    cases hs' : word? w s' with
    | none => rw [hs, hs'] at hp; cases hp
    | some v' =>
      rw [hs, hs'] at hp
      cases hp with
      | some hv => exact .inl ⟨v, v', rfl, rfl, hv⟩

end Alignment

/-- What the second reading does when the first one succeeds: it succeeds too, with a result that `P` relates and a
rest that `rel` relates, of less than `k` characters. -/
def Carried {α β : Type} (rel : List Char → List Char → Prop) (k : Nat) (P : α → β → Prop)
    (x : Option (α × List Char)) (x' : Option (β × List Char)) : Prop :=
  ∀ a r, x = some (a, r) → ∃ a' r', x' = some (a', r') ∧ P a a' ∧ rel r r' ∧ r'.length < k

namespace Carried

variable {α β γ δ : Type} {rel rel₂ : List Char → List Char → Prop} {k l : Nat} {P : α → β → Prop}

theorem none {x' : Option (β × List Char)} : Carried rel k P none x' := by
  intro a r h
  simp at h

theorem some {a : α} {a' : β} {r r' : List Char} (ha : P a a') (hr : rel r r') (hk : r'.length < k) :
    Carried rel k P (some (a, r)) (some (a', r')) := by
  intro b t h
  simp only [Option.some.injEq, Prod.mk.injEq] at h
  obtain ⟨rfl, rfl⟩ := h
  exact ⟨a', r', rfl, ha, hr, hk⟩

theorem bind {Q : γ → δ → Prop} {x : Option (α × List Char)} {x' : Option (β × List Char)}
    {f : α × List Char → Option (γ × List Char)} {f' : β × List Char → Option (δ × List Char)}
    (hx : Carried rel k P x x')
    (hf : ∀ a a' r r', P a a' → rel r r' → r'.length < k → Carried rel₂ l Q (f (a, r)) (f' (a', r'))) :
    Carried rel₂ l Q (x >>= f) (x' >>= f') := by
  intro c t h
  obtain ⟨⟨a, r⟩, hx₁, h⟩ := Option.bind_eq_some_iff.1 h
  obtain ⟨a', r', hx', ha, hr, hk⟩ := hx a r hx₁
  simpa [hx'] using hf a a' r r' ha hr hk c t h

theorem mono {x : Option (α × List Char)} {x' : Option (β × List Char)} (h : Carried rel k P x x') (hkl : k ≤ l) :
    Carried rel l P x x' := by
  intro a r hx
  obtain ⟨a', r', hx', ha, hr, hk⟩ := h a r hx
  exact ⟨a', r', hx', ha, hr, Nat.lt_of_lt_of_le hk hkl⟩

end Carried

/-- The same expression up to blanks and comments. -/
def Alike (w w' : Written) : Prop := w.compact = w'.compact

theorem Alike.eq {w w' : Written} (h : Alike w w') : w.compact = w'.compact := h

/-- How two terms compare. -/
def AlikeTerms (p p' : Written × Bool) : Prop := Alike p.1 p'.1 ∧ p.2 = p'.2

variable (A : Alignment)

/-- The readers of expressions, given `n` rounds in the first text and enough in the second, read alike. -/
structure Reads (n : Nat) : Prop where
  expr : ∀ {n' m s s'}, A.tight s s' → 8 * s'.length + 4 ≤ n' →
    Carried A.loose (s'.length + 1) Alike (expr? n m s) (expr? n' m s')
  padded : ∀ {n' m s s'}, A.loose s s' → 8 * s'.length + 5 ≤ n' →
    Carried A.tight (s'.length + 1) Alike (padded? n m s) (padded? n' m s')
  more : ∀ {n' m operation w w' s s'}, Alike w w' → A.loose s s' → 8 * s'.length + 3 ≤ n' →
    Carried A.loose (s'.length + 1) Alike (more? n m operation w s) (more? n' m operation w' s')
  path : ∀ {n' lines s s'}, A.tight s s' → 8 * s'.length + 2 ≤ n' →
    Carried A.loose s'.length (fun p p' => compactPath p = compactPath p') (path? n lines s) (path? n' lines s')
  step : ∀ {n' s s'}, A.tight s s' → 8 * s'.length + 1 ≤ n' →
    Carried A.loose s'.length (fun p p' => p.compact = p'.compact) (step? n s) (step? n' s')
  term : ∀ {n' m op? op?' s s'}, op?.map Prod.fst = op?'.map Prod.fst → A.tight s s' → 8 * s'.length + 1 ≤ n' →
    Carried A.loose (s'.length + 1) AlikeTerms (term? n m op? s) (term? n' m op?' s')
  named : ∀ {n' m names text text' s s'}, A.loose s s' → 8 * s'.length + 1 ≤ n' →
    Carried A.loose (s'.length + 1) (fun p p' => p.1.compact = p'.1.compact ∧ p.2 = p'.2) (named? n m names text s)
      (named? n' m names text' s')
  arguments : ∀ {n' m s s'}, A.loose s s' → 8 * s'.length + 6 ≤ n' →
    Carried A.tight (s'.length + 1) (fun p p' => compactAll p.1 = compactAll p'.1 ∧ p.2.1 = p'.2.1) (arguments? n m s)
      (arguments? n' m s')
  items : ∀ {n' m s s'}, A.loose s s' → 8 * s'.length + 6 ≤ n' →
    Carried A.tight (s'.length + 1) (fun p p' => compactAll p.1 = compactAll p'.1 ∧ p.2.1 = p'.2.1) (items? n m s)
      (items? n' m s')
  entries : ∀ {n' s s'}, A.fresh s s' → 8 * s'.length + 5 ≤ n' →
    Carried A.loose (s'.length + 1) (fun p p' => compactEntries p.1 = compactEntries p'.1) (entries? n s) (entries? n' s')
  loopHead : ∀ {n' s s'}, A.loose s s' → 8 * s'.length + 6 ≤ n' →
    Carried A.loose (s'.length + 1)
      (fun p p' => p.1.key? = p'.1.key? ∧ p.1.value = p'.1.value ∧ Alike p.2 p'.2) (loopHead? n s) (loopHead? n' s')
  loopCondition : ∀ {n' s s'}, A.loose s s' → 8 * s'.length + 6 ≤ n' →
    Carried (fun r r' => A.tight r r' ∨ r = s ∧ r' = s') (s'.length + 1) (fun p p' => p.compact = p'.compact)
      (loopCondition? n s) (loopCondition? n' s')

variable {A} {n n' : Nat}

theorem carried_expr (ih : Reads A n) {m : Manner} {s s' : List Char} (h : A.tight s s')
    (hn : 8 * s'.length + 4 ≤ n' + 1) : Carried A.loose (s'.length + 1) Alike (expr? (n + 1) m s) (expr? (n' + 1) m s') := by
  rw [expr?, expr?]
  refine (ih.term rfl h (by omega)).bind ?_
  rintro ⟨w, lines⟩ ⟨w', lines'⟩ r r' ⟨hw, rfl⟩ hr hk
  exact (ih.more hw hr (by omega)).mono (by omega)

theorem carried_padded (ih : Reads A n) {m : Manner} {s s' : List Char} (h : A.loose s s')
    (hn : 8 * s'.length + 5 ≤ n' + 1) :
    Carried A.tight (s'.length + 1) Alike (padded? (n + 1) m s) (padded? (n' + 1) m s') := by
  rw [padded?, padded?]
  dsimp only
  obtain ⟨hu, hl⟩ := A.skip h true
  refine (ih.expr hu (by omega)).bind ?_
  intro e e' r r' he hr hk
  dsimp only
  obtain ⟨hv, hl₁⟩ := A.skip hr true
  exact .some (by simpa [Alike] using he) hv (by omega)

theorem carried_path (ih : Reads A n) {lines : Bool} {s s' : List Char} (h : A.tight s s')
    (hn : 8 * s'.length + 2 ≤ n' + 1) :
    Carried A.loose s'.length (fun p p' => compactPath p = compactPath p') (path? (n + 1) lines s)
      (path? (n' + 1) lines s') := by
  rw [path?, path?]
  refine (ih.step h (by omega)).bind ?_
  intro p p' r r' hp hr hk
  obtain ⟨hu, hl⟩ := A.skip hr lines
  dsimp only
  rw [A.startsStep hu]
  split
  · refine (ih.path hu (by omega)).bind ?_
    intro q q' t t' hq ht hk'
    dsimp only
    exact .some (by simp [compactPath, hp, hq]) ht (by omega)
  · exact .some (by simp [compactPath, hp]) hr hk

/-- The characters at which a term other than a number or a name starts. -/
def openers : List Char := ['"', '[', '{', '(', '<', '-', '!']

theorem term?_plain {n : Nat} {m : Manner} {op? : Option (UnaryOp × String)} {c : Char} {v : List Char}
    (hc : c ∉ openers) : term? (n + 1) m op? (c :: v) =
      (if c.isDigit then do
        let ((n, text), rest) ← number? (c :: v)
        some ((applyPending op? (.bare (.number n text)), m.lines), rest)
      else do
        let (name, rest) ← ident? (c :: v)
        let ((form, lines), rest) ← named? n m [name] name rest
        some ((applyPending op? (.bare form), lines), rest)) := by
  simp only [openers, List.mem_cons, List.not_mem_nil, or_false, not_or] at hc
  obtain ⟨h₁, h₂, h₃, h₄, h₅, h₆, h₇⟩ := hc
  rw [term?.eq_def]
  simp only
  split
  · next h => exact absurd (List.cons.inj h).1 h₁
  · next h => exact absurd (List.cons.inj h).1 h₂
  · next h => exact absurd (List.cons.inj h).1 h₃
  · next h => exact absurd (List.cons.inj h).1 h₄
  · next h => exact absurd (List.cons.inj h).1 h₅
  · next h => exact absurd (List.cons.inj h).1 h₆
  · next h => exact absurd (List.cons.inj h).1 h₇
  · next h =>
    obtain ⟨rfl, -⟩ := List.cons.inj h
    rfl
  · next h => simp at h

theorem term?_lone {n : Nat} {m : Manner} {op? : Option (UnaryOp × String)} {v : List Char}
    (h : startsLiteral ('<' :: v) = false) : term? (n + 1) m op? ('<' :: v) = none := by
  cases v with
  | nil => rfl
  | cons d v =>
    have hd : d ≠ '<' := by
      rintro rfl
      simp [startsLiteral] at h
    rw [term?.eq_def]
    simp only
    split
    · next h => simp at h
    · next h => simp at h
    · next h => simp at h
    · next h => simp at h
    · next h =>  exact absurd (List.cons.inj (List.cons.inj h).2).1 hd
    · next h => simp at h
    · next h => simp at h
    · next h =>
      obtain ⟨rfl, -⟩ := List.cons.inj h
      rfl
    · next h => simp at h
theorem blanks_lone (lines : Bool) (v : List Char) : (blanks lines ('<' :: v)).2 = '<' :: v := by
  cases lines <;> rfl

theorem carried_more (ih : Reads A n) {m : Manner} {operation : Bool} {w w' : Written} {s s' : List Char}
    (hw : Alike w w') (h : A.loose s s') (hn : 8 * s'.length + 3 ≤ n' + 1) :
    Carried A.loose (s'.length + 1) Alike (more? (n + 1) m operation w s) (more? (n' + 1) m operation w' s') := by
  rw [more?, more?]
  dsimp only
  obtain ⟨hu, hl⟩ := A.skip h m.lines
  generalize (blanks m.lines s).1 = g at *
  generalize (blanks m.lines s').1 = g' at *
  generalize (blanks m.lines s).2 = u at *
  generalize (blanks m.lines s').2 = u' at *
  rw [A.startsStep hu]
  split
  · refine (ih.path hu (by omega)).bind ?_
    intro p p' r r' hp hr hk
    refine (ih.more ?_ hr (by omega)).mono (by omega)
    simp only [Alike, Written.compact_bare, Form.compact, Written.compact_withAfter, hp, hw.eq]
  · rcases A.sign hu '?' (by decide) with ⟨v, v', rfl, rfl, hv⟩ | ⟨hne, hne'⟩
    · simp only
      simp only [List.length_cons] at hl
      split
      · obtain ⟨hx, hlx⟩ := A.skip hv m.lines
        refine (ih.expr hx (by omega)).bind ?_
        intro t t' r r' ht hr hk
        obtain ⟨hy, hly⟩ := A.skip hr m.lines
        dsimp only
        rcases A.sign hy ':' (by decide) with ⟨z, z', hz, hz', hzz⟩ | ⟨hne, hne'⟩
        · rw [hz, hz']
          rw [hz', List.length_cons] at hly
          simp only
          obtain ⟨hq, hlq⟩ := A.skip hzz m.lines
          refine (ih.expr hq (by omega)).bind ?_
          intro f f' k k' hf hk hlk
          dsimp only
          refine .some ?_ hk (by omega)
          simp only [Alike, Written.compact_bare, Form.compact, Written.compact_withAfter,
            Written.compact_between, Written.compact_withBefore, hw.eq, ht.eq, hf.eq]
        · simp only
          exact .none
      · exact .some hw h (by omega)
    · simp only
      obtain ⟨v, rfl, hv⟩ | hop := (A.binaryOp hu).symm
      · have hnone : expr? n m.operand (blanks m.lines ('<' :: v)).2 = none := by
          cases n with
          | zero => rfl
          | succ n =>
            rw [blanks_lone, expr?]
            cases n with
            | zero => rfl
            | succ n => simp [term?_lone hv]
        have hlt : binaryOp? ('<' :: '<' :: v) = some (.lt, '<' :: v) := rfl
        rw [hlt]
        simp only [hnone]
        exact .none
      generalize binaryOp? u = o at hop ⊢
      generalize ho : binaryOp? u' = o' at hop ⊢
      cases hop with
      | none => exact .some hw h (by omega)
      | @some op v v' hv =>
        have hlv := length_binaryOp? ho
        obtain ⟨hx, hlx⟩ := A.skip hv m.lines
        simp only
        refine (ih.expr hx (by omega)).bind ?_
        intro e e' r r' he hr hk
        refine (ih.more ?_ hr (by omega)).mono (by omega)
        simp only [Alike, Written.compact_bare, Form.compact, Written.compact_withAfter,
          Written.compact_withBefore, hw.eq, he.eq]

theorem carried_step (ih : Reads A n) {s s' : List Char} (h : A.tight s s') (hn : 8 * s'.length + 1 ≤ n' + 1) :
    Carried A.loose s'.length (fun p p' => p.compact = p'.compact) (step? (n + 1) s) (step? (n' + 1) s') := by
  rw [step?.eq_def, step?.eq_def]
  simp only
  rcases A.sign h '.' (by decide) with ⟨v, v', rfl, rfl, hv⟩ | ⟨hne, hne'⟩
  · simp only
    obtain ⟨hu, hl⟩ := A.skip hv true
    rw [List.length_cons] at hn ⊢
    rcases A.sign hu '*' (by decide) with ⟨z, z', hz, hz', hzz⟩ | ⟨hne, hne'⟩
    · rw [hz, hz']
      rw [hz', List.length_cons] at hl
      simp only
      exact .some rfl hzz (by omega)
    · simp only
      have hident := A.ident hu
      generalize ident? (blanks true v).2 = o at hident ⊢
      generalize ho : ident? (blanks true v').2 = o' at hident ⊢
      cases hident with
      | @some name r r' hr =>
        have := length_ident? ho
        exact .some rfl hr (by omega)
      | none =>
        have hindex := A.legacyIndex hu
        simp only
        generalize legacyIndex? (blanks true v).2 = o at hindex ⊢
        generalize ho : legacyIndex? (blanks true v').2 = o' at hindex ⊢
        cases hindex with
        | none => exact .none
        | @some k r r' hr =>
          have := (suffix_legacyIndex? ho).length_le
          exact Carried.some rfl hr (show r'.length < _ by omega)
  · rcases A.sign h '[' (by decide) with ⟨v, v', rfl, rfl, hv⟩ | ⟨hne, hne'⟩
    · simp only
      obtain ⟨hu, hl⟩ := A.skip hv true
      rw [List.length_cons] at hn ⊢
      rcases A.sign hu '*' (by decide) with ⟨z, z', hz, hz', hzz⟩ | ⟨hne, hne'⟩
      · rw [hz, hz']
        rw [hz', List.length_cons] at hl
        simp only
        obtain ⟨hy, hly⟩ := A.skip hzz true
        rcases A.sign hy ']' (by decide) with ⟨q, q', hq, hq', hqq⟩ | ⟨hne, hne'⟩
        · rw [hq, hq']
          rw [hq', List.length_cons] at hly
          simp only
          exact .some rfl hqq (by omega)
        · simp only
          exact .none
      · simp only
        refine (ih.padded hv (by omega)).bind ?_
        intro e e' r r' he hr hk
        simp only
        rcases A.sign hr ']' (by decide) with ⟨q, q', rfl, rfl, hq⟩ | ⟨hne, hne'⟩
        · simp only
          rw [List.length_cons] at hk
          exact .some (by simp only [Step.compact, he.eq]) hq (by omega)
        · simp only
          exact .none
    · simp only
      exact .none

theorem isEmpty_compactAll (items : List Written) : (compactAll items).isEmpty = items.isEmpty := by
  cases items <;> rfl

theorem word?_colons {s v : List Char} : word? "::" s = some v ↔ s = ':' :: ':' :: v := by
  rw [word?, afterStart?_eq_some]
  rfl

theorem carried_named (ih : Reads A n) {m : Manner} {names : List String} {text text' : String} {s s' : List Char}
    (h : A.loose s s') (hn : 8 * s'.length + 1 ≤ n' + 1) :
    Carried A.loose (s'.length + 1) (fun p p' => p.1.compact = p'.1.compact ∧ p.2 = p'.2)
      (named? (n + 1) m names text s) (named? (n' + 1) m names text' s') := by
  rw [named?.eq_def, named?.eq_def]
  simp only
  obtain ⟨hu, hl⟩ := A.skip h m.lines
  generalize (blanks m.lines s).1 = g at *
  generalize (blanks m.lines s').1 = g' at *
  generalize (blanks m.lines s).2 = u at *
  generalize (blanks m.lines s').2 = u' at *
  rcases A.keyword hu "::" (by decide) with ⟨v, v', hv, hv', hvv⟩ | ⟨hnone, hnone'⟩
  · obtain rfl := word?_colons.1 hv
    obtain rfl := word?_colons.1 hv'
    simp only [List.length_cons] at hl ⊢
    obtain ⟨hx, hlx⟩ := A.skip hvv m.lines
    have hident := A.ident hx
    generalize ident? (blanks m.lines v).2 = o at hident ⊢
    generalize ho : ident? (blanks m.lines v').2 = o' at hident ⊢
    cases hident with
    | none => exact .none
    | @some name r r' hr =>
      have := length_ident? ho
      exact (ih.named hr (by omega)).mono (by omega)
  · have hne : ∀ v, u ≠ ':' :: ':' :: v := by
      rintro v rfl
      simp [word?_colons.2 rfl] at hnone
    have hne' : ∀ v, u' ≠ ':' :: ':' :: v := by
      rintro v rfl
      simp [word?_colons.2 rfl] at hnone'
    rcases A.sign hu '(' (by decide) with ⟨v, v', rfl, rfl, hv⟩ | ⟨hno, hno'⟩
    · simp only [List.length_cons] at hl ⊢
      refine (ih.arguments hv (by omega)).bind ?_
      rintro ⟨args, stop, tail⟩ ⟨args', stop', tail'⟩ r r' ⟨hargs, hstop⟩ hr hk
      simp only at hargs hstop ⊢
      rcases A.sign hr ')' (by decide) with ⟨z, z', rfl, rfl, hz⟩ | ⟨hnz, hnz'⟩
      · simp only [List.length_cons] at hk ⊢
        refine .some ⟨?_, rfl⟩ hz (by omega)
        simp only [Form.compact, hargs, hstop]
      · simp only
        exact .none
    · simp only
      split
      · exact .some ⟨rfl, rfl⟩ h (by omega)
      · exact .some ⟨rfl, rfl⟩ h (by omega)
      · exact .some ⟨rfl, rfl⟩ h (by omega)
      · exact .some ⟨rfl, rfl⟩ h (by omega)
      · exact .none

theorem carried_arguments (ih : Reads A n) {m : Manner} {s s' : List Char} (h : A.loose s s')
    (hn : 8 * s'.length + 6 ≤ n' + 1) :
    Carried A.tight (s'.length + 1) (fun p p' => compactAll p.1 = compactAll p'.1 ∧ p.2.1 = p'.2.1)
      (arguments? (n + 1) m s) (arguments? (n' + 1) m s') := by
  rw [arguments?.eq_def, arguments?.eq_def]
  simp only
  obtain ⟨hu, hl⟩ := A.skip h true
  generalize (blanks true s).1 = g at *
  generalize (blanks true s').1 = g' at *
  generalize (blanks true s).2 = u at *
  generalize (blanks true s').2 = u' at *
  rcases A.sign hu ')' (by decide) with ⟨v, v', rfl, rfl, hv⟩ | ⟨hne₁, hne₁'⟩
  · exact .some ⟨rfl, rfl⟩ hu (by omega)
  rcases A.sign hu ',' (by decide) with ⟨v, v', rfl, rfl, hv⟩ | ⟨hne₂, hne₂'⟩
  · exact .some ⟨rfl, rfl⟩ hu (by omega)
  rcases A.sign hu '.' (by decide) with ⟨v, v', rfl, rfl, hv⟩ | ⟨hne₃, hne₃'⟩
  · exact .some ⟨rfl, rfl⟩ hu (by omega)
  simp only
  refine (ih.padded h (by omega)).bind ?_
  intro e e' r r' he hr hk
  simp only
  rcases A.sign hr ',' (by decide) with ⟨v, v', rfl, rfl, hv⟩ | ⟨hne, hne'⟩
  · simp only
    rw [List.length_cons] at hk
    refine (ih.arguments hv (by omega)).bind ?_
    rintro ⟨args, stop, tail⟩ ⟨args', stop', tail'⟩ t t' ⟨hargs, hstop⟩ ht hk'
    simp only at hargs hstop ⊢
    refine .some ⟨?_, ?_⟩ ht (by omega)
    · simp only [compactAll, he.eq, hargs]
    · simp only [← isEmpty_compactAll args, ← isEmpty_compactAll args', hargs, hstop]
  · simp only
    rcases A.keyword hr "..." (by decide) with ⟨v, v', hv, hv', hvv⟩ | ⟨hnone, hnone'⟩
    · rw [hv, hv']
      have hlv := length_word? hv'
      obtain ⟨hx, hlx⟩ := A.skip hvv true
      refine .some ⟨?_, rfl⟩ hx (by omega)
      simp only [compactAll, he.eq]
    · rw [hnone, hnone']
      refine .some ⟨?_, rfl⟩ hr (by omega)
      simp only [compactAll, he.eq]

theorem carried_items (ih : Reads A n) {m : Manner} {s s' : List Char} (h : A.loose s s')
    (hn : 8 * s'.length + 6 ≤ n' + 1) :
    Carried A.tight (s'.length + 1) (fun p p' => compactAll p.1 = compactAll p'.1 ∧ p.2.1 = p'.2.1)
      (items? (n + 1) m s) (items? (n' + 1) m s') := by
  rw [items?.eq_def, items?.eq_def]
  simp only
  obtain ⟨hu, hl⟩ := A.skip h true
  generalize (blanks true s).1 = g at *
  generalize (blanks true s').1 = g' at *
  generalize (blanks true s).2 = u at *
  generalize (blanks true s').2 = u' at *
  rcases A.sign hu ']' (by decide) with ⟨v, v', rfl, rfl, hv⟩ | ⟨hne₁, hne₁'⟩
  · exact .some ⟨rfl, rfl⟩ hu (by omega)
  rcases A.sign hu ',' (by decide) with ⟨v, v', rfl, rfl, hv⟩ | ⟨hne₂, hne₂'⟩
  · exact .some ⟨rfl, rfl⟩ hu (by omega)
  simp only
  refine (ih.padded h (by omega)).bind ?_
  intro e e' r r' he hr hk
  simp only
  rcases A.sign hr ',' (by decide) with ⟨v, v', rfl, rfl, hv⟩ | ⟨hne, hne'⟩
  · simp only
    rw [List.length_cons] at hk
    refine (ih.items hv (by omega)).bind ?_
    rintro ⟨items, comma, tail⟩ ⟨items', comma', tail'⟩ t t' ⟨hitems, hcomma⟩ ht hk'
    simp only at hitems hcomma ⊢
    refine .some ⟨?_, ?_⟩ ht (by omega)
    · simp only [compactAll, he.eq, hitems]
    · simp only [← isEmpty_compactAll items, ← isEmpty_compactAll items', hitems, hcomma]
  · simp only
    refine .some ⟨?_, rfl⟩ hr (by omega)
    simp only [compactAll, he.eq]

theorem carried_loopCondition (ih : Reads A n) {s s' : List Char} (h : A.loose s s')
    (hn : 8 * s'.length + 6 ≤ n' + 1) :
    Carried (fun r r' => A.tight r r' ∨ r = s ∧ r' = s') (s'.length + 1) (fun p p' => p.compact = p'.compact)
      (loopCondition? (n + 1) s) (loopCondition? (n' + 1) s') := by
  rw [loopCondition?, loopCondition?]
  simp only
  obtain ⟨hu, hl⟩ := A.skip h true
  rcases A.keyword hu "if" (by decide) with ⟨v, v', hv, hv', hvv⟩ | ⟨hnone, hnone'⟩
  · rw [hv, hv']
    have hlv := length_word? hv'
    refine (ih.padded hvv (by omega)).bind ?_
    intro e e' r r' he hr hk
    refine .some ?_ (.inl hr) (show r'.length < _ by omega)
    simp only [LoopCondition.compact, he.eq]
  · rw [hnone, hnone']
    exact .some rfl (.inr ⟨rfl, rfl⟩) (by omega)

theorem carried_ident {s s' : List Char} (h : A.tight s s') :
    Carried A.loose s'.length Eq (ident? s) (ident? s') := by
  have hp := A.ident h
  generalize ident? s = o at hp ⊢
  generalize ho : ident? s' = o' at hp ⊢
  cases hp with
  | none => exact .none
  | some hr => exact .some rfl hr (length_ident? ho)

theorem carried_loopNames {s s' : List Char} (h : A.loose s s') :
    Carried A.tight (s'.length + 1) (fun p p' => p.key? = p'.key? ∧ p.value = p'.value) (loopNames? s)
      (loopNames? s') := by
  rw [loopNames?, loopNames?]
  simp only
  obtain ⟨hu, hl⟩ := A.skip h true
  refine (carried_ident hu).bind ?_
  rintro first _ r r' rfl hr hk
  simp only
  obtain ⟨hx, hlx⟩ := A.skip hr true
  rcases A.sign hx ',' (by decide) with ⟨z, z', hz, hz', hzz⟩ | ⟨hne, hne'⟩
  · rw [hz, hz']
    rw [hz', List.length_cons] at hlx
    simp only
    obtain ⟨hy, hly⟩ := A.skip hzz true
    refine (carried_ident hy).bind ?_
    rintro second _ t t' rfl ht hkt
    obtain ⟨hq, hlq⟩ := A.skip ht true
    exact .some ⟨rfl, rfl⟩ hq (show (blanks true t').2.length < _ by omega)
  · simp only
    exact .some ⟨rfl, rfl⟩ hx (by omega)

theorem carried_loopHead (ih : Reads A n) {s s' : List Char} (h : A.loose s s')
    (hn : 8 * s'.length + 6 ≤ n' + 1) :
    Carried A.loose (s'.length + 1)
      (fun p p' => p.1.key? = p'.1.key? ∧ p.1.value = p'.1.value ∧ Alike p.2 p'.2) (loopHead? (n + 1) s)
      (loopHead? (n' + 1) s') := by
  rw [loopHead?, loopHead?]
  refine (carried_loopNames h).bind ?_
  rintro names names' r r' ⟨hkey, hvalue⟩ hr hk
  simp only
  rcases A.keyword hr "in" (by decide) with ⟨v, v', hv, hv', hvv⟩ | ⟨hnone, hnone'⟩
  · rw [hv, hv']
    have hlv := length_word? hv'
    simp only [Option.bind_eq_bind, Option.bind_some]
    refine (ih.padded hvv (by omega)).bind ?_
    intro e e' t t' he ht hkt
    simp only
    rcases A.sign ht ':' (by decide) with ⟨z, z', rfl, rfl, hz⟩ | ⟨hne, hne'⟩
    · simp only [List.length_cons] at hkt ⊢
      exact .some ⟨hkey, hvalue, he⟩ hz (by omega)
    · simp only
      exact .none
  · rw [hnone, hnone']
    exact .none

/-- Entries of an object after the sign of the first of them. -/
def entriesFrom? (n : Nat) (key : Written) (colon : Bool) (chars : List Char) :
    Option ((List WrittenEntry × String) × List Char) := do
  let (gap₂, rest) := blanks false chars
  let (value, rest) ← expr? n {} rest
  let (gap₃, rest) := blanks false rest
  match rest with
  | '}' :: rest => some (([.mk key colon (value.between gap₂ gap₃) .plain], ""), rest)
  | ',' :: rest =>
    let ((entries, tail), rest) ← entries? n rest
    some ((.mk key colon (value.between gap₂ gap₃) .comma :: entries, tail), rest)
  | _ =>
    let (comment, rest) := (lineComment? rest).getD ([], rest)
    let rest ← lineEnd? rest
    let ((entries, tail), rest) ← entries? n rest
    some ((.mk key colon (value.between gap₂ (gap₃ ++ String.ofList comment)) .newline :: entries, tail), rest)

theorem entries?_succ (n : Nat) (chars : List Char) : entries? (n + 1) chars =
    (let (lead, rest) := blanks true chars
    match rest with
    | '}' :: rest => some (([], lead), rest)
    | _ => do
      let (key, rest) ← expr? n {} rest
      let (gap₁, rest) := blanks false rest
      match rest with
      | '=' :: rest => entriesFrom? n (key.between lead gap₁) false rest
      | ':' :: rest => entriesFrom? n (key.between lead gap₁) true rest
      | _ => none) := by
  rw [entries?]
  rfl

theorem carried_entriesFrom (ih : Reads A n) {key key' : Written} {colon : Bool} {s s' : List Char}
    (hkey : Alike key key') (h : A.loose s s') (hn : 8 * s'.length + 5 ≤ n') :
    Carried A.loose (s'.length + 1) (fun p p' => compactEntries p.1 = compactEntries p'.1)
      (entriesFrom? n key colon s) (entriesFrom? n' key' colon s') := by
  rw [entriesFrom?, entriesFrom?]
  simp only
  obtain ⟨hv, hlv⟩ := A.skip h false
  refine (ih.expr hv (by omega)).bind ?_
  intro value value' t t' hvalue ht hkt
  simp only
  obtain ⟨hz, hlz⟩ := A.skip ht false
  generalize (blanks false t).1 = g₃ at *
  generalize (blanks false t').1 = g₃' at *
  generalize (blanks false t).2 = z at *
  generalize (blanks false t').2 = z' at *
  rcases A.sign hz '}' (by decide) with ⟨v, v', rfl, rfl, hv⟩ | ⟨hne₁, hne₁'⟩
  · simp only [List.length_cons] at hlz ⊢
    refine .some ?_ hv (by omega)
    simp only [compactEntries, WrittenEntry.compact, Written.compact_between, hkey.eq, hvalue.eq]
  rcases A.sign hz ',' (by decide) with ⟨v, v', rfl, rfl, hv⟩ | ⟨hne₂, hne₂'⟩
  · simp only [List.length_cons] at hlz ⊢
    refine (ih.entries (A.fresh_of_loose hv) (by omega)).bind ?_
    intro p p' q q' hp hq hkq
    refine .some ?_ hq (show q'.length < _ by omega)
    simp only [compactEntries, WrittenEntry.compact, Written.compact_between, hkey.eq, hvalue.eq, hp]
  simp only
  have hend := A.lineEnd (A.comment hz)
  have hlc := (suffix_lineComment z').length_le
  generalize ((lineComment? z).getD ([], z)).1 = c at *
  generalize ((lineComment? z').getD ([], z')).1 = c' at *
  generalize ((lineComment? z).getD ([], z)).2 = z₁ at *
  generalize ((lineComment? z').getD ([], z')).2 = z₁' at *
  cases hr : lineEnd? z₁ with
  | none => exact .none
  | some r =>
    obtain ⟨r', hr', hfresh⟩ : ∃ r', lineEnd? z₁' = some r' ∧ A.fresh r r' := by
      rcases hend with hp | ⟨rfl, -⟩
      · cases hr' : lineEnd? z₁' with
        | none => rw [hr, hr'] at hp; cases hp
        | some r' =>
          rw [hr, hr'] at hp
          cases hp with
          | some h => exact ⟨r', rfl, h⟩
      · simp [lineEnd?] at hr
    have hlr := length_lineEnd? hr'
    rw [hr']
    simp only [Option.bind_eq_bind, Option.bind_some]
    refine (ih.entries hfresh (by omega)).bind ?_
    intro p p' q q' hp hq hkq
    refine .some ?_ hq (show q'.length < _ by omega)
    simp only [compactEntries, WrittenEntry.compact, Written.compact_between, hkey.eq, hvalue.eq, hp]

theorem carried_entries (ih : Reads A n) {s s' : List Char} (h : A.fresh s s')
    (hn : 8 * s'.length + 5 ≤ n' + 1) :
    Carried A.loose (s'.length + 1) (fun p p' => compactEntries p.1 = compactEntries p'.1) (entries? (n + 1) s)
      (entries? (n' + 1) s') := by
  rw [entries?_succ, entries?_succ]
  simp only
  obtain ⟨hu, hl⟩ := A.skipFresh h
  generalize (blanks true s).1 = g at *
  generalize (blanks true s').1 = g' at *
  generalize (blanks true s).2 = u at *
  generalize (blanks true s').2 = u' at *
  rcases A.sign hu '}' (by decide) with ⟨v, v', rfl, rfl, hv⟩ | ⟨hne, hne'⟩
  · simp only [List.length_cons] at hl ⊢
    exact .some rfl hv (by omega)
  simp only
  refine (ih.expr hu (by omega)).bind ?_
  intro key key' r r' hkey hr hk
  simp only
  obtain ⟨hx, hlx⟩ := A.skip hr false
  generalize (blanks false r).1 = g₁ at *
  generalize (blanks false r').1 = g₁' at *
  generalize (blanks false r).2 = x at *
  generalize (blanks false r').2 = x' at *
  have hkey' : Alike (key.between g g₁) (key'.between g' g₁') := by
    simp only [Alike, Written.compact_between, hkey.eq]
  rcases A.sign hx '=' (by decide) with ⟨v, v', rfl, rfl, hv⟩ | ⟨hno, hno'⟩
  · simp only [List.length_cons] at hlx ⊢
    exact (carried_entriesFrom ih hkey' hv (by omega)).mono (by omega)
  rcases A.sign hx ':' (by decide) with ⟨v, v', rfl, rfl, hv⟩ | ⟨hno₂, hno₂'⟩
  · simp only [List.length_cons] at hlx ⊢
    exact (carried_entriesFrom ih hkey' hv (by omega)).mono (by omega)
  simp only
  exact .none

theorem alike_applyPending {op? op?' : Option (UnaryOp × String)} {w w' : Written}
    (hop : op?.map Prod.fst = op?'.map Prod.fst) (hw : Alike w w') :
    Alike (applyPending op? w) (applyPending op?' w') := by
  cases op? with
  | none =>
    cases op?' with
    | none => exact hw
    | some p => simp at hop
  | some p =>
    cases op?' with
    | none => simp at hop
    | some p' =>
      simp only [Option.map_some, Option.some.injEq] at hop
      simp only [Alike, applyPending, Written.compact, Form.compact, hop, hw.eq]

theorem blanks_nil (lines : Bool) : (blanks lines []).2 = [] := rfl

/-- A name that ends the text is read as a variable, with nothing left. -/
theorem expr?_for {n : Nat} {m : Manner} {w : Written} {r : List Char}
    (h : expr? n m "for".toList = some (w, r)) : r = [] := by
  have hterm : ∀ {n x r}, term? n m none "for".toList = some (x, r) → r = [] := by
    intro n x r h
    cases n with
    | zero => simp [term?] at h
    | succ n =>
      have hident : ident? ['f', 'o', 'r'] = some ("for", []) := by decide
      rw [term?.eq_def] at h
      simp only [String.reduceToList] at h
      rw [hident] at h
      cases n with
      | zero => simp [named?] at h
      | succ n =>
        have hnamed : named? (n + 1) m ["for"] "for" [] = some ((.variable "for", m.lines), []) := rfl
        simp [hnamed] at h
        exact h.2
  cases n with
  | zero => simp [expr?] at h
  | succ n =>
    rw [expr?] at h
    obtain ⟨⟨⟨head, lines⟩, t⟩, ht, h⟩ := Option.bind_eq_some_iff.1 h
    obtain rfl := hterm ht
    cases n with
    | zero => simp [more?] at h
    | succ n =>
      have hmore : ∀ m, more? (n + 1) m false head [] = some (head, []) := fun _ => rfl
      simp [hmore] at h
      exact h.2

theorem items?_for {n : Nat} {m : Manner} {s : List Char} {x : List Written × Bool × String} {r : List Char}
    (hs : (blanks true s).2 = "for".toList) (h : items? n m s = some (x, r)) : r = [] := by
  cases n with
  | zero => simp [items?] at h
  | succ n =>
    rw [items?.eq_def] at h
    simp only [hs, String.reduceToList] at h
    obtain ⟨⟨e, t⟩, he, h⟩ := Option.bind_eq_some_iff.1 h
    have ht : t = [] := by
      cases n with
      | zero => simp [padded?] at he
      | succ n =>
        rw [padded?] at he
        simp only [hs] at he
        obtain ⟨⟨w, v⟩, hw, he⟩ := Option.bind_eq_some_iff.1 he
        obtain rfl := expr?_for hw
        simp only [blanks_nil, Option.some.injEq, Prod.mk.injEq] at he
        exact he.2.symm
    subst ht
    simp only [Option.some.injEq, Prod.mk.injEq] at h
    exact h.2.symm

theorem entries?_for {n : Nat} {s : List Char} (hs : (blanks true s).2 = "for".toList) : entries? n s = none := by
  cases n with
  | zero => simp [entries?]
  | succ n =>
    rw [entries?_succ]
    simp only [hs, String.reduceToList]
    cases h : expr? n {} ['f', 'o', 'r'] with
    | none => rfl
    | some p =>
      obtain ⟨w, r⟩ := p
      obtain rfl := expr?_for h
      rfl

theorem word?_for {s v : List Char} (h : word? "for" s = some v) : s.drop 3 = v := by
  rw [word?, afterStart?_eq_some] at h
  simp [h]

theorem word?_of_startsLoop {s : List Char} (h : startsLoop s = true) : word? "for" s ≠ none := by
  intro hnone
  simp [startsLoop, hnone] at h

/-- After the keyword of a for expression. -/
theorem loose_loop {s s' : List Char} (h : A.tight s s') (hloop : startsLoop s' = true) :
    A.loose (s.drop 3) (s'.drop 3) ∧ (s'.drop 3).length + 3 = s'.length := by
  rcases A.keyword h "for" (by decide) with ⟨v, v', hv, hv', hvv⟩ | ⟨-, hnone⟩
  · have hl := length_word? hv'
    rw [word?_for hv, word?_for hv']
    exact ⟨hvv, hl⟩
  · exact absurd hnone (word?_of_startsLoop hloop)

section Terms

variable {m : Manner} {op? op?' : Option (UnaryOp × String)} {v v' : List Char}

theorem carried_list (ih : Reads A n) (hop : op?.map Prod.fst = op?'.map Prod.fst)
    (ht : A.tight ('[' :: v) ('[' :: v')) (h : A.loose v v') (hn : 8 * (v'.length + 1) + 1 ≤ n' + 1) :
    Carried A.loose (v'.length + 2) AlikeTerms (term? (n + 1) m op? ('[' :: v)) (term? (n' + 1) m op?' ('[' :: v')) := by
  rw [term?.eq_def, term?.eq_def]
  simp only
  obtain ⟨hu, hl⟩ := A.skip h true
  by_cases hfor : (blanks true v).2 = "for".toList
  · -- The text ends inside of the brackets.
    intro x r hx
    rw [if_neg (by rw [hfor]; decide)] at hx
    obtain ⟨⟨p, t⟩, ht, hx⟩ := Option.bind_eq_some_iff.1 hx
    obtain rfl := items?_for hfor ht
    simp at hx
  rw [(A.startsLoop (.inl rfl) ht).resolve_right hfor]
  split
  · next hloop =>
    obtain ⟨hd, hld⟩ := loose_loop hu hloop
    refine (ih.loopHead hd (by omega)).bind ?_
    rintro ⟨names, collection⟩ ⟨names', collection'⟩ r r' ⟨hkey, hvalue, hcollection⟩ hr hk
    simp only at hkey hvalue hcollection ⊢
    refine (ih.padded hr (by omega)).bind ?_
    intro value value' t t' hval ht hkt
    simp only
    refine (ih.loopCondition (A.loose_of_tight ht) (by omega)).bind ?_
    intro condition condition' q q' hcondition hq hkq
    simp only
    have hq : A.tight q q' := by
      rcases hq with hq | ⟨rfl, rfl⟩
      · exact hq
      · exact ht
    rcases A.sign hq ']' (by decide) with ⟨z, z', rfl, rfl, hz⟩ | ⟨hne, hne'⟩
    · simp only [List.length_cons] at hkq ⊢
      refine .some ⟨alike_applyPending hop ?_, rfl⟩ hz (by omega)
      simp only [Alike, Written.compact_bare, Form.compact, hkey, hvalue, hcollection.eq, hval.eq, hcondition]
    · simp only
      exact .none
  · refine (ih.items h (by omega)).bind ?_
    rintro ⟨items, comma, tail⟩ ⟨items', comma', tail'⟩ r r' ⟨hitems, hcomma⟩ hr hk
    simp only at hitems hcomma ⊢
    rcases A.sign hr ']' (by decide) with ⟨z, z', rfl, rfl, hz⟩ | ⟨hne, hne'⟩
    · simp only [List.length_cons] at hk ⊢
      refine .some ⟨alike_applyPending hop ?_, rfl⟩ hz (by omega)
      simp only [Alike, Written.compact_bare, Form.compact, hitems, hcomma]
    · simp only
      exact .none

/-- What follows the value in a for expression that makes an object. -/
theorem carried_objectEnd (ih : Reads A n) (hop : op?.map Prod.fst = op?'.map Prod.fst) {names names' : LoopNames}
    {collection collection' key key' value value' : Written} (hnames : names.key? = names'.key? ∧ names.value = names'.value)
    (hcollection : Alike collection collection') (hkey : Alike key key') (hvalue : Alike value value')
    (lead lead' : String) (grouping : Bool) {z z' : List Char} (hz : A.loose z z') (hn : 8 * z'.length + 6 ≤ n') :
    Carried A.loose (z'.length + 2) AlikeTerms
      (do
        let (condition, rest) ← loopCondition? n z
        let (tail, rest) := blanks true rest
        match rest with
        | '}' :: rest => some ((applyPending op? (.mk "" (.objectFor lead names collection key value grouping condition)
            tail), m.lines), rest)
        | _ => none)
      (do
        let (condition, rest) ← loopCondition? n' z'
        let (tail, rest) := blanks true rest
        match rest with
        | '}' :: rest => some ((applyPending op?' (.mk "" (.objectFor lead' names' collection' key' value' grouping
            condition) tail), m.lines), rest)
        | _ => none) := by
  refine (ih.loopCondition hz hn).bind ?_
  intro condition condition' q q' hcondition hq hkq
  simp only
  have hq : A.loose q q' := by
    rcases hq with hq | ⟨rfl, rfl⟩
    · exact A.loose_of_tight hq
    · exact hz
  obtain ⟨hb, hlb⟩ := A.skip hq true
  rcases A.sign hb '}' (by decide) with ⟨e, e', he, he', hee⟩ | ⟨hne, hne'⟩
  · rw [he, he']
    rw [he', List.length_cons] at hlb
    simp only
    refine .some ⟨alike_applyPending hop ?_, rfl⟩ hee (by omega)
    simp only [Alike, Written.compact, Form.compact, hnames, hcollection.eq, hkey.eq, hvalue.eq, hcondition]
  · simp only
    exact .none

theorem carried_brace (ih : Reads A n) (hop : op?.map Prod.fst = op?'.map Prod.fst)
    (ht : A.tight ('{' :: v) ('{' :: v')) (h : A.loose v v') (hn : 8 * (v'.length + 1) + 1 ≤ n' + 1) :
    Carried A.loose (v'.length + 2) AlikeTerms (term? (n + 1) m op? ('{' :: v)) (term? (n' + 1) m op?' ('{' :: v')) := by
  rw [term?.eq_def, term?.eq_def]
  simp only
  obtain ⟨hu, hl⟩ := A.skip h true
  by_cases hfor : (blanks true v).2 = "for".toList
  · -- The text ends inside of the braces.
    rw [if_neg (by rw [hfor]; decide), entries?_for hfor]
    exact .none
  rw [(A.startsLoop (.inr rfl) ht).resolve_right hfor]
  split
  · next hloop =>
    obtain ⟨hd, hld⟩ := loose_loop hu hloop
    refine (ih.loopHead hd (by omega)).bind ?_
    rintro ⟨names, collection⟩ ⟨names', collection'⟩ r r' ⟨hkey, hvalue, hcollection⟩ hr hk
    simp only at hkey hvalue hcollection ⊢
    refine (ih.padded hr (by omega)).bind ?_
    intro key key' t t' hk₁ ht hkt
    simp only
    obtain hnone | ⟨y, y', hy, hy', hyy⟩ := (A.keyword ht "=>" (by decide)).symm
    · rw [hnone.1]
      exact .none
    rw [hy, hy']
    have hly := length_word? hy'
    simp only [Option.bind_eq_bind, Option.bind_some]
    refine (ih.padded hyy (by omega)).bind ?_
    intro value value' x x' hval hx hkx
    simp only
    rcases A.keyword hx "..." (by decide) with ⟨z, z', hz, hz', hzz⟩ | ⟨hnone, hnone'⟩
    · have := length_word? hz'
      rw [hz, hz']
      exact (carried_objectEnd ih hop ⟨hkey, hvalue⟩ hcollection hk₁ hval _ _ true hzz (by omega)).mono (by omega)
    · rw [hnone, hnone']
      exact (carried_objectEnd ih hop ⟨hkey, hvalue⟩ hcollection hk₁ hval _ _ false (A.loose_of_tight hx)
        (by omega)).mono (by omega)
  · refine (ih.entries (A.fresh_of_loose h) (by omega)).bind ?_
    rintro ⟨entries, tail⟩ ⟨entries', tail'⟩ r r' hentries hr hk
    simp only at hentries ⊢
    refine .some ⟨alike_applyPending hop ?_, rfl⟩ hr (by omega)
    simp only [Alike, Written.compact_bare, Form.compact, compactEntries_mergeEntries hentries]

theorem carried_parens (ih : Reads A n) (hop : op?.map Prod.fst = op?'.map Prod.fst) (h : A.loose v v')
    (hn : 8 * (v'.length + 1) + 1 ≤ n' + 1) :
    Carried A.loose (v'.length + 2) AlikeTerms (term? (n + 1) m op? ('(' :: v)) (term? (n' + 1) m op?' ('(' :: v')) := by
  rw [term?.eq_def, term?.eq_def]
  simp only
  refine (ih.padded h (by omega)).bind ?_
  intro e e' r r' he hr hk
  simp only
  rcases A.sign hr ')' (by decide) with ⟨z, z', rfl, rfl, hz⟩ | ⟨hne, hne'⟩
  · simp only [List.length_cons] at hk ⊢
    refine .some ⟨alike_applyPending hop ?_, rfl⟩ hz (by omega)
    simp only [Alike, Written.compact_bare, Form.compact, he.eq]
  · simp only
    exact .none

theorem carried_minus (ih : Reads A n) (hop : op?.map Prod.fst = op?'.map Prod.fst) (h : A.loose v v')
    (hn : 8 * (v'.length + 1) + 1 ≤ n' + 1) :
    Carried A.loose (v'.length + 2) AlikeTerms (term? (n + 1) m op? ('-' :: v)) (term? (n' + 1) m op?' ('-' :: v')) := by
  rw [term?.eq_def, term?.eq_def]
  simp only
  obtain ⟨hu, hl⟩ := A.skip h false
  have hnumber := A.number hu
  generalize number? (blanks false v).2 = o at hnumber ⊢
  generalize ho : number? (blanks false v').2 = o' at hnumber ⊢
  cases hnumber with
  | none => refine Carried.mono (ih.term rfl hu ?_) ?_ <;> omega
  | @some x r r' hr =>
    have := (suffix_number? ho).length_le
    refine .some ⟨alike_applyPending hop ?_, rfl⟩ hr (show r'.length < _ by omega)
    simp only [Alike, Written.compact_bare, Form.compact]

theorem carried_not (ih : Reads A n) (h : A.loose v v') (hn : 8 * (v'.length + 1) + 1 ≤ n' + 1) :
    Carried A.loose (v'.length + 2) AlikeTerms (term? (n + 1) m op? ('!' :: v)) (term? (n' + 1) m op?' ('!' :: v')) := by
  rw [term?.eq_def, term?.eq_def]
  simp only
  obtain ⟨hu, hl⟩ := A.skip h false
  refine Carried.mono (ih.term rfl hu ?_) ?_ <;> omega

end Terms

theorem carried_term (ih : Reads A n) {m : Manner} {op? op?' : Option (UnaryOp × String)} {s s' : List Char}
    (hop : op?.map Prod.fst = op?'.map Prod.fst) (h : A.tight s s') (hn : 8 * s'.length + 1 ≤ n' + 1) :
    Carried A.loose (s'.length + 1) AlikeTerms (term? (n + 1) m op? s) (term? (n' + 1) m op?' s') := by
  by_cases hlit : startsLiteral s = true
  · rintro ⟨w, lines⟩ r hterm
    obtain ⟨rfl, w₀, r', rfl, hr, hlr, hterm'⟩ := A.literal h hlit hn hterm
    exact ⟨_, r', hterm' op?', ⟨alike_applyPending hop rfl, rfl⟩, hr, by omega⟩
  rcases A.heads h with ⟨hs, -⟩ | ⟨c, v, v', rfl, rfl, hv⟩
  · have hnone : term? (n + 1) m op? s = none := by
      unfold atLineEnd at hs
      split at hs
      · rfl
      · rw [term?_plain (by decide)]
        rfl
      · rw [term?_plain (by decide)]
        rfl
      · simp at hs
    rw [hnone]
    exact .none
  rw [List.length_cons] at hn ⊢
  by_cases hc : c ∈ openers
  · simp only [openers, List.mem_cons, List.not_mem_nil, or_false] at hc
    rcases hc with rfl | rfl | rfl | rfl | rfl | rfl | rfl
    · exact absurd rfl hlit
    · exact carried_list ih hop h (hv (by decide)) hn
    · exact carried_brace ih hop h (hv (by decide)) hn
    · exact carried_parens ih hop (hv (by decide)) hn
    · rw [term?_lone (by simpa using hlit)]
      exact .none
    · exact carried_minus ih hop (hv (by decide)) hn
    · exact carried_not ih (hv (by decide)) hn
  rw [term?_plain hc, term?_plain hc]
  split
  · have hnumber := A.number h
    generalize number? (c :: v) = o at hnumber ⊢
    generalize ho : number? (c :: v') = o' at hnumber ⊢
    cases hnumber with
    | none => exact .none
    | @some x r r' hr =>
      have hlr := (suffix_number? ho).length_le
      rw [List.length_cons] at hlr
      refine .some ⟨alike_applyPending hop rfl, rfl⟩ hr (show r'.length < _ by omega)
  · refine (carried_ident h).bind ?_
    rintro name _ r r' rfl hr hk
    rw [List.length_cons] at hk
    simp only
    refine (ih.named hr (by omega)).bind ?_
    rintro ⟨form, lines⟩ ⟨form', lines'⟩ t t' ⟨hform, hlines⟩ ht hkt
    simp only at hform hlines ⊢
    refine .some ⟨alike_applyPending hop ?_, hlines⟩ ht (by omega)
    simp only [Alike, Written.compact_bare, hform]

/-- The readers of expressions read alike, however many rounds the first one has. -/
theorem reads (A : Alignment) (n : Nat) : Reads A n := by
  induction n with
  | zero =>
    constructor <;> intros <;> intro a r h <;> simp [expr?, padded?, more?, path?, step?, term?, named?, arguments?,
      items?, entries?, loopHead?, loopCondition?] at h
  | succ n ih =>
    -- A round of the second reading is there, since its bound on the rounds is positive.
    constructor
    · intro n' m s s' h hn
      obtain ⟨n', rfl⟩ := Nat.exists_eq_add_one_of_ne_zero (show n' ≠ 0 by omega)
      exact carried_expr ih h hn
    · intro n' m s s' h hn
      obtain ⟨n', rfl⟩ := Nat.exists_eq_add_one_of_ne_zero (show n' ≠ 0 by omega)
      exact carried_padded ih h hn
    · intro n' m operation w w' s s' hw h hn
      obtain ⟨n', rfl⟩ := Nat.exists_eq_add_one_of_ne_zero (show n' ≠ 0 by omega)
      exact carried_more ih hw h hn
    · intro n' lines s s' h hn
      obtain ⟨n', rfl⟩ := Nat.exists_eq_add_one_of_ne_zero (show n' ≠ 0 by omega)
      exact carried_path ih h hn
    · intro n' s s' h hn
      obtain ⟨n', rfl⟩ := Nat.exists_eq_add_one_of_ne_zero (show n' ≠ 0 by omega)
      exact carried_step ih h hn
    · intro n' m op? op?' s s' hop h hn
      obtain ⟨n', rfl⟩ := Nat.exists_eq_add_one_of_ne_zero (show n' ≠ 0 by omega)
      exact carried_term ih hop h hn
    · intro n' m names text text' s s' h hn
      obtain ⟨n', rfl⟩ := Nat.exists_eq_add_one_of_ne_zero (show n' ≠ 0 by omega)
      exact carried_named ih h hn
    · intro n' m s s' h hn
      obtain ⟨n', rfl⟩ := Nat.exists_eq_add_one_of_ne_zero (show n' ≠ 0 by omega)
      exact carried_arguments ih h hn
    · intro n' m s s' h hn
      obtain ⟨n', rfl⟩ := Nat.exists_eq_add_one_of_ne_zero (show n' ≠ 0 by omega)
      exact carried_items ih h hn
    · intro n' s s' h hn
      obtain ⟨n', rfl⟩ := Nat.exists_eq_add_one_of_ne_zero (show n' ≠ 0 by omega)
      exact carried_entries ih h hn
    · intro n' s s' h hn
      obtain ⟨n', rfl⟩ := Nat.exists_eq_add_one_of_ne_zero (show n' ≠ 0 by omega)
      exact carried_loopHead ih h hn
    · intro n' s s' h hn
      obtain ⟨n', rfl⟩ := Nat.exists_eq_add_one_of_ne_zero (show n' ≠ 0 by omega)
      exact carried_loopCondition ih h hn

/-- Expressions are read alike. -/
theorem carried_expression {s s' : List Char} (h : A.tight s s') :
    Carried A.loose (s'.length + 1) Alike (expression? s) (expression? s') :=
  (reads A _).expr h (by simp only [readingFuel]; omega)

end Terrasmith.Source
