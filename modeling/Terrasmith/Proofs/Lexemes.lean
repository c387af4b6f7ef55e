import Terrasmith.Source.Parse

/-!
The smallest pieces of source: what their readers leave is the end of what they were given.
-/
namespace Terrasmith.Source

theorem suffix_blockComment? {s c r : List Char} (h : blockComment? s = some (c, r)) : r <:+ s := by
  induction s generalizing c with
  | nil => simp [blockComment?] at h
  | cons d rest ih =>
    rw [blockComment?] at h
    split at h
    · simp only [Option.some.injEq, Prod.mk.injEq] at h
      rw [← h.2]
      exact (List.tail_suffix rest).trans (List.suffix_cons d rest)
    · simp only [Option.map_eq_some_iff, Prod.mk.injEq] at h
      obtain ⟨⟨inside, r'⟩, hr, -, rfl⟩ := h
      exact (ih hr).trans (List.suffix_cons d rest)

theorem suffix_lineRest? {s c r : List Char} (h : lineRest? s = some (c, r)) : r <:+ s := by
  induction s generalizing c with
  | nil => simp_all [lineRest?]
  | cons d rest ih =>
    rw [lineRest?] at h
    split at h
    · simp only [Option.some.injEq, Prod.mk.injEq] at h
      exact h.2 ▸ List.suffix_refl _
    · split at h
      · split at h
        · simp only [Option.some.injEq, Prod.mk.injEq] at h
          exact h.2 ▸ List.suffix_refl _
        · simp at h
      · simp only [Option.map_eq_some_iff, Prod.mk.injEq] at h
        obtain ⟨⟨inside, r'⟩, hr, -, rfl⟩ := h
        exact (ih hr).trans (List.suffix_cons d rest)

theorem suffix_lineComment? {s c r : List Char} (h : lineComment? s = some (c, r)) : r <:+ s := by
  unfold lineComment? at h
  split at h
  · exact suffix_lineRest? h
  · simp at h

theorem suffix_lineComment (s : List Char) : ((lineComment? s).getD ([], s)).2 <:+ s := by
  cases h : lineComment? s with
  | none => exact List.suffix_refl s
  | some p => exact suffix_lineComment? (c := p.1) h

theorem suffix_blanksFrom (lines : Bool) (fuel : Nat) (s : List Char) : (blanksFrom lines fuel s).2 <:+ s := by
  induction fuel generalizing s with
  | zero => exact List.suffix_refl s
  | succ fuel ih =>
    cases s with
    | nil => exact List.suffix_refl []
    | cons c rest =>
      rw [blanksFrom]
      split
      · exact (ih rest).trans (List.suffix_cons c rest)
      · split
        · cases hc : blockComment? rest.tail with
          | none => exact List.suffix_refl _
          | some p =>
            exact ((ih p.2).trans (suffix_blockComment? (c := p.1) hc)).trans
              ((List.tail_suffix rest).trans (List.suffix_cons c rest))
        · split
          · cases hc : lineComment? (c :: rest) with
            | none => exact List.suffix_refl _
            | some p => exact (ih p.2).trans (suffix_lineComment? (c := p.1) hc)
          · exact List.suffix_refl _

theorem suffix_blanks (lines : Bool) (s : List Char) : (blanks lines s).2 <:+ s :=
  suffix_blanksFrom lines _ s

theorem suffix_ident? {s : List Char} {x : String} {r : List Char} (h : ident? s = some (x, r)) :
    ∃ c v, s = c :: v ∧ r <:+ v := by
  cases s with
  | nil => simp [ident?] at h
  | cons c rest =>
    simp only [ident?] at h
    split at h
    · simp only [Option.some.injEq, Prod.mk.injEq] at h
      exact ⟨c, rest, rfl, h.2 ▸ List.dropWhile_suffix _⟩
    · simp at h

theorem length_ident? {s : List Char} {x : String} {r : List Char} (h : ident? s = some (x, r)) :
    r.length < s.length := by
  obtain ⟨c, v, rfl, hr⟩ := suffix_ident? h
  exact Nat.lt_succ_of_le hr.length_le

theorem afterStart?_eq_some {start s r : List Char} : Text.afterStart? start s = some r ↔ s = start ++ r := by
  induction start generalizing s with
  | nil => simp [Text.afterStart?, eq_comm]
  | cons c start ih =>
    cases s with
    | nil => simp [Text.afterStart?]
    | cons d s =>
      rw [Text.afterStart?]
      split
      · next h => simp [ih, h]
      · next h => simp [Ne.symm h]

theorem length_word? {w : String} {s r : List Char} (h : word? w s = some r) :
    r.length + w.toList.length = s.length := by
  rw [word?, afterStart?_eq_some] at h
  simp [h, Nat.add_comm]

theorem length_binaryOp? {s : List Char} {op : BinaryOp} {r : List Char} (h : binaryOp? s = some (op, r)) :
    r.length < s.length := by
  unfold binaryOp? at h
  split at h <;> cases h <;> grind

theorem length_lineEnd? {s r : List Char} (h : lineEnd? s = some r) : r.length < s.length := by
  unfold lineEnd? at h
  split at h <;> cases h <;> grind

/-- The fraction of a number and what follows it. -/
def fraction (chars : List Char) : List Char × List Char :=
  match chars with
  | '.' :: more =>
    if (more.takeWhile Char.isDigit).isEmpty then ([], chars)
    else ('.' :: more.takeWhile Char.isDigit, more.dropWhile Char.isDigit)
  | _ => ([], chars)

/-- The sign of an exponent and what follows it. -/
def exponentSign (chars : List Char) : List Char × List Char :=
  match chars with
  | '+' :: digits => (['+'], digits)
  | '-' :: digits => (['-'], digits)
  | digits => ([], digits)

/-- The exponent of a number and what follows it. -/
def exponent (chars : List Char) : List Char × List Char :=
  match chars with
  | mark :: more =>
    if mark = 'e' || mark = 'E' then
      if ((exponentSign more).2.takeWhile Char.isDigit).isEmpty then ([], chars)
      else (mark :: (exponentSign more).1 ++ (exponentSign more).2.takeWhile Char.isDigit,
        (exponentSign more).2.dropWhile Char.isDigit)
    else ([], chars)
  | [] => ([], chars)

/-- The number with the given parts and its source. -/
def numeral? (whole fraction exponent : List Char) : Option (Number × String) :=
  let source := whole ++ fraction ++ exponent
  if whole.isEmpty then none
  else if fraction.isEmpty && exponent.isEmpty then
    let n := Number.digitsValue whole
    if n < Number.unsignedLimit then some (.int n, String.ofList source) else none
  else do
    let x ← Number.float? source
    let n ← Number.ofFloat? x
    some (n, String.ofList source)

/-- A number is read part by part. -/
theorem number?_eq (s : List Char) :
    number? s =
      let rest := s.dropWhile Char.isDigit
      (numeral? (s.takeWhile Char.isDigit) (fraction rest).1 (exponent (fraction rest).2).1).map
        fun x => (x, (exponent (fraction rest).2).2) := by
  dsimp only
  generalize hf : fraction (s.dropWhile Char.isDigit) = p
  generalize he : exponent p.2 = q
  have h : number? s = (if (s.takeWhile Char.isDigit).isEmpty then none
      else if p.1.isEmpty && q.1.isEmpty then
        if Number.digitsValue (s.takeWhile Char.isDigit) < Number.unsignedLimit then
          some ((.int (Number.digitsValue (s.takeWhile Char.isDigit)),
            String.ofList (s.takeWhile Char.isDigit ++ p.1 ++ q.1)), q.2)
        else none
      else (Number.float? (s.takeWhile Char.isDigit ++ p.1 ++ q.1)).bind fun x => (Number.ofFloat? x).bind fun n =>
        some ((n, String.ofList (s.takeWhile Char.isDigit ++ p.1 ++ q.1)), q.2)) := by
    subst he hf
    rfl
  rw [h, numeral?]
  dsimp only
  split
  · rfl
  · split
    · split <;> rfl
    · cases Number.float? (s.takeWhile Char.isDigit ++ p.1 ++ q.1) with
      | none => rfl
      | some x => cases hx : Number.ofFloat? x <;> simp [hx]

theorem suffix_fraction (s : List Char) : (fraction s).2 <:+ s := by
  unfold fraction
  split
  · split
    · exact List.suffix_refl _
    · exact (List.dropWhile_suffix _).trans (List.suffix_cons _ _)
  · exact List.suffix_refl _

theorem suffix_exponentSign (s : List Char) : (exponentSign s).2 <:+ s := by
  unfold exponentSign
  split
  · exact List.suffix_cons _ _
  · exact List.suffix_cons _ _
  · exact List.suffix_refl _

theorem suffix_exponent (s : List Char) : (exponent s).2 <:+ s := by
  unfold exponent
  split
  · split
    · split
      · exact List.suffix_refl _
      · exact ((List.dropWhile_suffix _).trans (suffix_exponentSign _)).trans (List.suffix_cons _ _)
    · exact List.suffix_refl _
  · exact List.suffix_refl _

theorem suffix_number? {s : List Char} {x : Number × String} {r : List Char} (h : number? s = some (x, r)) :
    r <:+ s := by
  simp only [number?_eq, Option.map_eq_some_iff, Prod.mk.injEq] at h
  obtain ⟨y, -, -, rfl⟩ := h
  exact ((suffix_exponent _).trans (suffix_fraction _)).trans (List.dropWhile_suffix _)

theorem suffix_legacyIndex? {s : List Char} {x : Nat} {r : List Char} (h : legacyIndex? s = some (x, r)) :
    r <:+ s := by
  unfold legacyIndex? at h
  split at h
  · simp only [Option.some.injEq, Prod.mk.injEq] at h
    exact h.2 ▸ List.suffix_cons _ _
  · dsimp only at h
    split at h
    · simp at h
    · simp only [Option.some.injEq, Prod.mk.injEq] at h
      exact h.2 ▸ List.dropWhile_suffix _

theorem suffix_hexChar? {count k : Nat} {s : List Char} {c : Char} {r : List Char}
    (h : hexChar? count k s = some (c, r)) : r <:+ s := by
  induction count generalizing k s with
  | zero =>
    rw [hexChar?] at h
    split at h
    · simp only [Option.some.injEq, Prod.mk.injEq] at h
      exact h.2 ▸ List.suffix_refl _
    · simp at h
  | succ count ih =>
    cases s with
    | nil => simp [hexChar?] at h
    | cons d s =>
      rw [hexChar?] at h
      obtain ⟨digit, -, h⟩ := Option.bind_eq_some_iff.1 h
      exact (ih h).trans (List.suffix_cons d s)

theorem suffix_escape? {s : List Char} {c : Char} {r : List Char} (h : escape? s = some (c, r)) : r <:+ s := by
  cases s with
  | nil => simp [escape?] at h
  | cons d s =>
    rw [escape?.eq_def] at h
    dsimp only at h
    refine List.IsSuffix.trans ?_ (List.suffix_cons d s)
    split at h
    · exact (Prod.mk.inj (Option.some.inj h)).2 ▸ List.suffix_refl _
    · exact (Prod.mk.inj (Option.some.inj h)).2 ▸ List.suffix_refl _
    · exact (Prod.mk.inj (Option.some.inj h)).2 ▸ List.suffix_refl _
    · exact (Prod.mk.inj (Option.some.inj h)).2 ▸ List.suffix_refl _
    · exact (Prod.mk.inj (Option.some.inj h)).2 ▸ List.suffix_refl _
    · exact (Prod.mk.inj (Option.some.inj h)).2 ▸ List.suffix_refl _
    · exact (Prod.mk.inj (Option.some.inj h)).2 ▸ List.suffix_refl _
    · exact (Prod.mk.inj (Option.some.inj h)).2 ▸ List.suffix_refl _
    · exact suffix_hexChar? h
    · exact suffix_hexChar? h
    · simp at h

theorem suffix_quotedRun (fuel : Nat) (started : Bool) (s : List Char) : (quotedRun fuel started s).2 <:+ s := by
  induction fuel generalizing started s with
  | zero => exact List.suffix_refl _
  | succ fuel ih =>
    cases s with
    | nil => exact List.suffix_refl _
    | cons c rest =>
      rw [quotedRun]
      split
      · exact List.suffix_refl _
      · split
        · exact (ih true _).trans ((List.drop_suffix 2 rest).trans (List.suffix_cons c rest))
        · split
          · cases he : escape? rest with
            | none =>
              dsimp only
              split
              · exact (List.drop_suffix 1 rest).trans (List.suffix_cons c rest)
              · exact List.suffix_refl _
            | some p =>
              exact ((ih true _).trans (suffix_escape? (c := p.1) he)).trans (List.suffix_cons c rest)
          · exact (ih true _).trans (List.suffix_cons c rest)

theorem length_plainString? {s : List Char} {x : String} {r : List Char} (h : plainString? s = some (x, r)) :
    r.length < s.length := by
  unfold plainString? at h
  split at h
  · next rest =>
    split at h
    · next run t hq =>
      have hs := suffix_quotedRun (rest.length + 1) false rest
      simp only [quotedChars] at hq
      rw [hq] at hs
      have hl := hs.length_le
      simp only [Option.some.injEq, Prod.mk.injEq] at h
      rw [← h.2]
      simp only [List.length_cons] at hl ⊢
      omega
    · simp at h
  · simp at h

/-- Whether a line or the text ends here. -/
def atLineEnd : List Char → Bool
  | [] => true
  | '\n' :: _ => true
  | '\r' :: '\n' :: _ => true
  | _ => false

theorem length_lineComment? {s c r : List Char} (h : lineComment? s = some (c, r)) : r.length < s.length := by
  unfold lineComment? at h
  split at h
  · next hs =>
    cases s with
    | nil => simp [startsLineComment] at hs
    | cons d v =>
      have hd : d ≠ '\n' ∧ d ≠ '\r' := by
        constructor
        · rintro rfl
          simp [startsLineComment] at hs
        · rintro rfl
          simp [startsLineComment] at hs
      rw [lineRest?, if_neg hd.1, if_neg hd.2, Option.map_eq_some_iff] at h
      obtain ⟨⟨x, y⟩, hxy, h⟩ := h
      simp only [Prod.mk.injEq] at h
      rw [← h.2]
      exact Nat.lt_succ_of_le (suffix_lineRest? hxy).length_le
  · simp at h

/-- Blanks that go over line ends stop at no line end. -/
theorem blanksFrom_true_done (fuel : Nat) (s : List Char) (h : s.length < fuel) :
    atLineEnd (blanksFrom true fuel s).2 = true → (blanksFrom true fuel s).2 = [] := by
  induction fuel generalizing s with
  | zero => simp at h
  | succ fuel ih =>
    cases s with
    | nil => simp [blanksFrom]
    | cons c rest =>
      rw [List.length_cons] at h
      rw [blanksFrom]
      split
      · exact ih rest (by omega)
      next hc =>
      have hend : atLineEnd (c :: rest) = true → c :: rest = [] := by
        intro hend
        unfold atLineEnd at hend
        split at hend
        · assumption
        · simp_all
        · simp_all
        · simp at hend
      split
      · cases hb : blockComment? rest.tail with
        | none => exact hend
        | some p =>
          have hl := (suffix_blockComment? (c := p.1) hb).length_le
          rw [List.length_tail] at hl
          exact ih p.2 (by omega)
      · rw [if_pos rfl]
        cases hb : lineComment? (c :: rest) with
        | none => exact hend
        | some p => exact ih p.2 (by have := length_lineComment? (c := p.1) hb; rw [List.length_cons] at this; omega)

theorem blanks_true_done {s : List Char} (h : atLineEnd (blanks true s).2 = true) : (blanks true s).2 = [] :=
  blanksFrom_true_done _ s (by omega) h

/-- More rounds than characters read the same blanks. -/
theorem blanksFrom_fuel (lines : Bool) (fuel fuel' : Nat) {s : List Char} (h : s.length < fuel)
    (h' : s.length < fuel') : blanksFrom lines fuel s = blanksFrom lines fuel' s := by
  induction fuel generalizing fuel' s with
  | zero => simp at h
  | succ fuel ih =>
    obtain ⟨fuel', rfl⟩ := Nat.exists_eq_add_one_of_ne_zero (show fuel' ≠ 0 by omega)
    cases s with
    | nil => rfl
    | cons c rest =>
      rw [List.length_cons] at h h'
      rw [blanksFrom, blanksFrom]
      split
      · rw [ih fuel' (by omega) (by omega)]
      · split
        · cases hb : blockComment? rest.tail with
          | none => rfl
          | some p =>
            have hl := (suffix_blockComment? (c := p.1) hb).length_le
            rw [List.length_tail] at hl
            simp only
            rw [ih fuel' (by omega) (by omega)]
        · split
          · cases hb : lineComment? (c :: rest) with
            | none => rfl
            | some p =>
              have hl := length_lineComment? (c := p.1) hb
              rw [List.length_cons] at hl
              simp only
              rw [ih fuel' (by omega) (by omega)]
          · rfl

theorem blanks_blank {lines : Bool} {c : Char} (hc : c = ' ' ∨ c = '\t' ∨ lines = true ∧ (c = '\n' ∨ c = '\r'))
    (s : List Char) : (blanks lines (c :: s)).2 = (blanks lines s).2 := by
  have hcond : (c = ' ' || c = '\t' || (lines && (c = '\n' || c = '\r'))) = true := by
    rcases hc with rfl | rfl | ⟨rfl, rfl | rfl⟩ <;> rfl
  simp only [blanks, List.length_cons]
  rw [blanksFrom, if_pos hcond]

theorem blanks_blanks {lines : Bool} {w : List Char}
    (hw : ∀ c ∈ w, c = ' ' ∨ c = '\t' ∨ lines = true ∧ (c = '\n' ∨ c = '\r')) (s : List Char) :
    (blanks lines (w ++ s)).2 = (blanks lines s).2 := by
  induction w with
  | nil => rfl
  | cons c w ih =>
    rw [List.cons_append, blanks_blank (hw c (by simp)), ih fun d hd => hw d (by simp [hd])]

theorem blanks_block {lines : Bool} {w r x : List Char} (h : blockComment? w = some (x, r)) :
    (blanks lines ('/' :: '*' :: w)).2 = (blanks lines r).2 := by
  have hl := (suffix_blockComment? h).length_le
  have hcond : ¬ ('/' = ' ' || '/' = '\t' || (lines && ('/' = '\n' || '/' = '\r'))) = true := by
    cases lines <;> decide
  simp only [blanks, List.length_cons]
  rw [blanksFrom, if_neg hcond, if_pos (by rfl)]
  simp only [List.tail_cons, h]
  rw [blanksFrom_fuel lines _ (r.length + 1) (by omega) (by omega)]

theorem blanks_comment {s r x : List Char} (h : lineComment? s = some (x, r)) :
    (blanks true s).2 = (blanks true r).2 := by
  have hl := length_lineComment? h
  have hs : startsLineComment s = true := by
    unfold lineComment? at h
    split at h
    · assumption
    · simp at h
  cases s with
  | nil => simp [startsLineComment] at hs
  | cons c v =>
    have hc : c = '#' ∨ c = '/' ∧ v.head? = some '/' := by
      unfold startsLineComment at hs
      split at hs <;> simp_all
    have hcond : ¬ (c = ' ' || c = '\t' || (true && (c = '\n' || c = '\r'))) = true := by
      rcases hc with rfl | ⟨rfl, -⟩ <;> decide
    have hblock : ¬ (c = '/' && v.head? = some '*') = true := by
      rcases hc with rfl | ⟨rfl, hv⟩
      · simp
      · simp [hv]
    simp only [blanks, List.length_cons] at hl ⊢
    rw [blanksFrom, if_neg hcond, if_neg hblock, if_pos rfl]
    simp only [h]
    rw [blanksFrom_fuel true _ (r.length + 1) (by omega) (by omega)]

/-- Whether blanks go on here. -/
def startsBlanks (lines : Bool) : List Char → Bool
  | ' ' :: _ => true
  | '\t' :: _ => true
  | '\n' :: _ => lines
  | '\r' :: _ => lines
  | '#' :: _ => lines
  | '/' :: '*' :: _ => true
  | '/' :: '/' :: _ => lines
  | _ => false

theorem blanks_none {lines : Bool} {s : List Char} (h : startsBlanks lines s = false) : blanks lines s = ("", s) := by
  cases s with
  | nil => rfl
  | cons c v =>
    have hcond : ¬ (c = ' ' || c = '\t' || (lines && (c = '\n' || c = '\r'))) = true := by
      intro hc
      simp only [Bool.or_eq_true, Bool.and_eq_true, decide_eq_true_eq] at hc
      rcases hc with (rfl | rfl) | ⟨rfl, rfl | rfl⟩ <;> simp [startsBlanks] at h
    have hblock : ¬ (c = '/' && v.head? = some '*') = true := by
      intro hc
      simp only [Bool.and_eq_true, decide_eq_true_eq] at hc
      obtain ⟨rfl, hv⟩ := hc
      cases v with
      | nil => simp at hv
      | cons d v =>
        simp only [List.head?_cons, Option.some.injEq] at hv
        subst hv
        simp [startsBlanks] at h
    simp only [blanks, List.length_cons]
    rw [blanksFrom, if_neg hcond, if_neg hblock]
    cases lines with
    | false => rfl
    | true =>
      have hcomment : lineComment? (c :: v) = none := by
        unfold lineComment?
        split
        · next hs =>
          unfold startsLineComment at hs
          split at hs
          · next heq => simp [heq, startsBlanks] at h
          · next heq => simp [heq, startsBlanks] at h
          · simp at hs
        · rfl
      simp only [if_pos, hcomment]

theorem blanks_stop {lines : Bool} {s : List Char} (h : startsBlanks lines s = false) : (blanks lines s).2 = s := by
  rw [blanks_none h]

/-- What follows the end of a block comment does not matter to it. -/
theorem blockComment?_append {s x y : List Char} (h : blockComment? s = some (x, y)) (r : List Char) :
    blockComment? (s ++ r) = some (x, y ++ r) := by
  induction s generalizing x with
  | nil => simp [blockComment?] at h
  | cons c s ih =>
    rw [blockComment?] at h
    rw [List.cons_append, blockComment?]
    split at h
    · next hc =>
      simp only [Bool.and_eq_true, decide_eq_true_eq] at hc
      simp only [Option.some.injEq, Prod.mk.injEq] at h
      obtain ⟨d, s, rfl⟩ : ∃ d v, s = d :: v := by
        cases s with
        | nil => simp at hc
        | cons d v => exact ⟨d, v, rfl⟩
      rw [if_pos (by simpa using hc), ← h.1, ← h.2]
      rfl
    · next hc =>
      obtain ⟨⟨x₀, y₀⟩, hs, h⟩ := Option.map_eq_some_iff.1 h
      simp only [Prod.mk.injEq] at h
      obtain ⟨rfl, rfl⟩ := h
      have hne : s ≠ [] := by
        rintro rfl
        simp [blockComment?] at hs
      have hhead : (s ++ r).head? = s.head? := by
        cases s with
        | nil => exact absurd rfl hne
        | cons d v => rfl
      rw [if_neg (by rwa [hhead]), ih hs]
      rfl

/-- A comment lasts until the line ends. -/
theorem lineComment?_append {w r : List Char} (hw : startsLineComment w = true) (hn : '\n' ∉ w) (hr : '\r' ∉ w)
    (hend : atLineEnd r = true) : lineComment? (w ++ r) = some (w, r) := by
  have hrest : lineRest? r = some ([], r) := by
    unfold atLineEnd at hend
    split at hend
    · rfl
    · rfl
    · rfl
    · simp at hend
  have hline : ∀ w, '\n' ∉ w → '\r' ∉ w → lineRest? (w ++ r) = some (w, r) := by
    intro w
    induction w with
    | nil => exact fun _ _ => hrest
    | cons c w ih =>
      intro hn hr
      simp only [List.mem_cons, not_or] at hn hr
      rw [List.cons_append, lineRest?, if_neg (Ne.symm hn.1), if_neg (Ne.symm hr.1), ih hn.2 hr.2]
      rfl
  have hstart : startsLineComment (w ++ r) = true := by
    unfold startsLineComment at hw
    split at hw
    · rfl
    · rfl
    · simp at hw
  rw [lineComment?, if_pos hstart]
  exact hline w hn hr

end Terrasmith.Source
