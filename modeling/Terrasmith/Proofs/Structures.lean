import Terrasmith.Proofs.Alignment

/-!
Structures read side by side. Along an alignment attributes and blocks are read alike, so that a text can be read if
another one can and says the same.
-/
namespace Terrasmith.Source

/-- What a structure says: an attribute by what its value means, a block by its type, its labels and its inside. -/
inductive Reading where
  | attribute (key : String) (value : Expr)
  | block (ident : String) (labels : List (String × Bool)) (inside : List Reading)

mutual

def Structure.reading : Structure → Reading
  | .attribute a => .attribute a.key a.value.expr
  | .block ⟨_, ident, _, labels, body, _, _⟩ =>
    .block ident (labels.map fun l => (l.text, l.quoted)) body.readings

/-- What a body says. -/
def Body.readings : Body → List Reading
  | ⟨structures, _, _, _, _⟩ => readingsOf structures

def readingsOf : List Structure → List Reading
  | [] => []
  | s :: rest => s.reading :: readingsOf rest

end

variable {A : Alignment} {n n' : Nat}

theorem Alignment.eq_nil_of_blanks {s s' : List Char} (h : A.fresh s s') (hs : (blanks true s).2 = []) :
    (blanks true s').2 = [] := by
  have ht := A.blanks_of_fresh h
  rcases A.heads ht with ⟨-, hs'⟩ | ⟨c, v, v', hv, -⟩
  · exact blanks_true_done hs'
  · simp [hs] at hv

/-- A label without quotes. -/
theorem label?_of_ne {c : Char} (hc : c ≠ '"') (w : List Char) :
    label? (c :: w) = (do
      let (text, rest) ← ident? (c :: w)
      let (trail, rest) := blanks false rest
      some (⟨text, false, trail⟩, rest)) := by
  rw [label?.eq_def]
  split
  · next h => exact absurd (List.cons.inj h).1 hc
  · rfl

theorem carried_label {s s' : List Char} (h : A.tight s s') :
    Carried A.tight s'.length (fun l l' => l.text = l'.text ∧ l.quoted = l'.quoted) (label? s) (label? s') := by
  rcases A.heads h with ⟨hs, -⟩ | ⟨c, v, v', rfl, rfl, -⟩
  · have hnone : label? s = none := by
      unfold atLineEnd at hs
      split at hs
      · rfl
      · rfl
      · rfl
      · simp at hs
    rw [hnone]
    exact .none
  by_cases hc : c = '"'
  · subst hc
    rw [label?, label?]
    have hp := A.plainString h rfl
    generalize plainString? ('"' :: v) = o at hp ⊢
    generalize ho : plainString? ('"' :: v') = o' at hp ⊢
    cases hp with
    | none => exact .none
    | @some text r r' hr =>
      have hlr := length_plainString? ho
      obtain ⟨hu, hl⟩ := A.skip hr false
      exact .some ⟨rfl, rfl⟩ hu (show (blanks false r').2.length < _ by omega)
  · have hlabel := label?_of_ne hc
    rw [hlabel, hlabel]
    refine (carried_ident h).bind ?_
    rintro text _ r r' rfl hr hk
    obtain ⟨hu, hl⟩ := A.skip hr false
    exact .some ⟨rfl, rfl⟩ hu (show (blanks false r').2.length < _ by omega)

theorem carried_labels {s s' : List Char} (h : A.tight s s') (hn : s'.length < n') :
    Carried A.loose s'.length
      (fun ls ls' => ls.map (fun l => (l.text, l.quoted)) = ls'.map (fun l => (l.text, l.quoted))) (labels? n s)
      (labels? n' s') := by
  induction n generalizing s s' n' with
  | zero => simp only [labels?]; exact .none
  | succ n ih =>
    obtain ⟨n', rfl⟩ := Nat.exists_eq_add_one_of_ne_zero (show n' ≠ 0 by omega)
    rcases A.sign h '{' (by decide) with ⟨v, v', rfl, rfl, hv⟩ | ⟨hne, hne'⟩
    · rw [labels?, labels?]
      exact .some rfl hv (by simp)
    · rw [labels?.eq_def, labels?.eq_def]
      simp only
      refine (carried_label h).bind ?_
      rintro l l' r r' ⟨htext, hquoted⟩ hr hk
      simp only
      refine (ih hr (by omega)).bind ?_
      intro ls ls' t t' hls ht hkt
      refine .some ?_ ht (show t'.length < _ by omega)
      simp only [List.map_cons, htext, hquoted, hls]

theorem carried_attributeRest {size size' : Nat} {lead lead' key gap gap' : String} {start start' s s' : List Char}
    (h : A.loose s s') :
    Carried A.loose (s'.length + 1) (fun a a' => a.key = key ∧ a'.key = key ∧ a.value.expr = a'.value.expr)
      (attributeRest? size lead key gap start s) (attributeRest? size' lead' key gap' start' s') := by
  rw [attributeRest?, attributeRest?]
  simp only
  obtain ⟨hu, hl⟩ := A.skip h false
  refine (carried_expression hu).bind ?_
  intro e e' r r' he hr hk
  refine .some ⟨rfl, rfl, ?_⟩ hr (show r'.length < _ by omega)
  exact Written.expr_eq_of_compact (by simpa using he.eq)

theorem Alignment.lineTail {s s' : List Char} (h : A.loose s s') :
    A.tight (lineTail s).2 (lineTail s').2 ∧ (Source.lineTail s').2.length ≤ s'.length := by
  obtain ⟨hu, hl⟩ := A.skip h false
  exact ⟨A.comment hu, Nat.le_trans (suffix_lineComment _).length_le hl⟩

theorem carried_oneLineBody {size size' : Nat} {s s' : List Char} (h : A.loose s s') :
    Carried A.loose (s'.length + 1) (fun b b' => b.readings = b'.readings) (oneLineBody? size s)
      (oneLineBody? size' s') := by
  rw [oneLineBody?, oneLineBody?]
  simp only
  obtain ⟨hu, hl⟩ := A.skip h false
  generalize (blanks false s).1 = g at *
  generalize (blanks false s').1 = g' at *
  generalize (blanks false s).2 = u at *
  generalize (blanks false s').2 = u' at *
  rcases A.sign hu '}' (by decide) with ⟨v, v', rfl, rfl, hv⟩ | ⟨hne, hne'⟩
  · simp only [List.length_cons] at hl ⊢
    exact .some rfl hv (by omega)
  simp only
  refine (carried_ident hu).bind ?_
  rintro key _ r r' rfl hr hk
  simp only
  obtain ⟨hx, hlx⟩ := A.skip hr false
  rcases A.sign hx '=' (by decide) with ⟨z, z', hz, hz', hzz⟩ | ⟨hno, hno'⟩
  · rw [hz, hz']
    rw [hz', List.length_cons] at hlx
    simp only
    refine (carried_attributeRest hzz).bind ?_
    rintro b b' t t' ⟨hkey, hkey', hvalue⟩ ht hkt
    simp only
    obtain ⟨hy, hly⟩ := A.skip ht false
    rcases A.sign hy '}' (by decide) with ⟨q, q', hq, hq', hqq⟩ | ⟨hno, hno'⟩
    · rw [hq, hq']
      rw [hq', List.length_cons] at hly
      simp only
      refine .some ?_ hqq (by omega)
      simp only [Body.readings, readingsOf, Structure.reading, hkey, hkey', hvalue]
    · simp only
      exact .none
  · simp only
    exact .none

/-- No body on one line ends with the text. -/
theorem oneLineBody?_of_lineTail {size : Nat} {s : List Char} (h : (lineTail s).2 = []) : oneLineBody? size s = none := by
  rw [oneLineBody?]
  simp only
  change ((lineComment? (blanks false s).2).getD ([], (blanks false s).2)).2 = [] at h
  generalize (blanks false s).2 = u at h ⊢
  cases hc : lineComment? u with
  | none =>
    rw [hc] at h
    obtain rfl : u = [] := h
    rfl
  | some p =>
    have hstart : startsLineComment u = true := by
      unfold lineComment? at hc
      split at hc
      · assumption
      · simp at hc
    unfold startsLineComment at hstart
    split at hstart
    · rfl
    · rfl
    · simp at hstart

/-- The next line, if the line ends here, and whether the text does. -/
def nextLine? : List Char → Option (Bool × List Char)
  | [] => some (true, [])
  | rest => (lineEnd? rest).map fun rest => (false, rest)

theorem carried_nextLine {s s' : List Char} (h : A.tight s s') :
    Carried A.fresh (s'.length + 1) (fun _ _ => True) (nextLine? s) (nextLine? s') := by
  rcases A.lineEnd h with hp | ⟨rfl, r', hr', hfresh⟩
  · cases s with
    | nil =>
      have hs' : s' = [] := by
        rcases A.heads h with ⟨-, hs'⟩ | ⟨c, v, v', hv, -⟩
        · cases hr' : lineEnd? s' with
          | some r' => rw [hr'] at hp; cases hp
          | none =>
            unfold atLineEnd at hs'
            split at hs'
            · rfl
            · simp [lineEnd?] at hr'
            · simp [lineEnd?] at hr'
            · simp at hs'
        · simp at hv
      subst hs'
      exact .some trivial (A.fresh_of_loose (A.loose_of_tight h)) (by simp)
    | cons c v =>
      intro x r hr
      simp only [nextLine?, Option.map_eq_some_iff, Prod.mk.injEq] at hr
      obtain ⟨t, ht, -, rfl⟩ := hr
      cases hr' : lineEnd? s' with
      | none => rw [ht, hr'] at hp; cases hp
      | some t' =>
        rw [ht, hr'] at hp
        have hl := length_lineEnd? hr'
        cases hp with
        | some hfresh =>
          cases s' with
          | nil => simp [lineEnd?] at hr'
          | cons d v' => exact ⟨false, t', by simp [nextLine?, hr'], trivial, hfresh, by omega⟩
  · have hl := length_lineEnd? hr'
    cases s' with
    | nil => simp [lineEnd?] at hr'
    | cons d v' =>
      simp only [nextLine?, hr']
      exact .some trivial hfresh (by omega)

/-- A structure before a trail, and the keys up to it. -/
def Structure.closed (keys : List String) (trail : String) : Structure → Structure × List String
  | .attribute a => (.attribute { a with trail }, a.key :: keys)
  | .block b => (.block { b with trail }, keys)

theorem Structure.reading_closed {p p' : Structure} (h : p.reading = p'.reading) (keys : List String)
    (trail trail' : String) :
    (p.closed keys trail).1.reading = (p'.closed keys trail').1.reading ∧
      (p.closed keys trail).2 = (p'.closed keys trail').2 := by
  rcases p with a | ⟨_, ident, _, labels, body, _, _⟩
  · rcases p' with a' | ⟨_, ident', _, labels', body', _, _⟩
    · simp_all [Structure.closed, Structure.reading]
    · simp [Structure.reading] at h
  · rcases p' with a' | ⟨_, ident', _, labels', body', _, _⟩
    · simp [Structure.reading] at h
    · simp_all [Structure.closed, Structure.reading]

/-- Structures after the first of them. -/
def structuresFrom? (size n : Nat) (keys : List String) (s : Structure) (chars : List Char) :
    Option ((List Structure × String × Bool) × List Char) := do
  let (trail, rest) := lineTail chars
  let (s, keys) := s.closed keys trail
  let (ended, rest) ← nextLine? rest
  let ((more, tail, ended), rest) ← structures? size n keys ended rest
  some ((s :: more, tail, ended), rest)

theorem structures?_succ (size n : Nat) (keys : List String) (ended : Bool) (chars : List Char) :
    structures? size (n + 1) keys ended chars =
    (let (lead, start) := blanks true chars
    match start with
    | [] => some (([], lead, ended), [])
    | '}' :: rest => some (([], lead, ended), '}' :: rest)
    | _ => do
      let (ident, rest) ← ident? start
      let (gap, rest) := blanks false rest
      match rest with
      | '=' :: rest =>
        if keys.contains ident then none
        else do
          let (a, rest) ← attributeRest? size lead ident gap start rest
          structuresFrom? size n keys (.attribute a) rest
      | _ => do
        let (b, rest) ← block? size n lead ident gap start rest
        structuresFrom? size n keys (.block b) rest) := by
  rw [structures?]
  rcases blanks true chars with ⟨lead, start⟩
  simp only
  split
  · rfl
  · rfl
  · next hnil hbrace =>
    cases ident? start with
    | none => simp only [Option.bind_eq_bind, Option.bind_none]
    | some p =>
      obtain ⟨ident, r⟩ := p
      simp only [Option.bind_eq_bind, Option.bind_some]
      rcases blanks false r with ⟨gap, t⟩
      simp only
      split
      · by_cases hkeys : keys.contains ident = true
        · simp only [if_pos hkeys, Option.bind_none]
        · simp only [if_neg hkeys]
          cases attributeRest? size lead ident gap start _ with
          | none => rfl
          | some p =>
            simp only [structuresFrom?, nextLine?, Structure.closed, Option.map_some, Option.bind_some,
              Option.bind_eq_bind]
            cases (lineTail p.2).2 <;> rfl
      · cases block? size n lead ident gap start _ with
        | none => simp only [Option.bind_none, Option.map_none]
        | some p =>
          simp only [structuresFrom?, nextLine?, Structure.closed, Option.map_some, Option.bind_some,
            Option.bind_eq_bind]
          cases (lineTail p.2).2 <;> rfl


/-- Where structures end: at a brace or with both texts. -/
def Alignment.closing (A : Alignment) (s s' : List Char) : Prop := A.tight s s' ∧ (s = [] → s' = [])

/-- The readers of structures, given `n` rounds in the first text and enough in the second, read alike. -/
structure ReadsStructures (A : Alignment) (n : Nat) : Prop where
  structures : ∀ {n' size size' keys ended ended' s s'}, A.fresh s s' → 4 * s'.length + 1 ≤ n' →
    Carried A.closing (s'.length + 1) (fun p p' => readingsOf p.1 = readingsOf p'.1)
      (structures? size n keys ended s) (structures? size' n' keys ended' s')
  block : ∀ {n' size size' lead lead' ident gap gap' start start' s s'}, A.tight s s' → 4 * s'.length + 1 ≤ n' →
    Carried A.loose (s'.length + 1) (fun b b' => (Structure.block b).reading = (Structure.block b').reading)
      (block? size n lead ident gap start s) (block? size' n' lead' ident gap' start' s')
  body : ∀ {n' size size' s s'}, A.loose s s' → 4 * s'.length + 1 ≤ n' →
    Carried A.loose (s'.length + 1) (fun b b' => b.readings = b'.readings) (body? size n s) (body? size' n' s')

theorem carried_block (ih : ReadsStructures A n) {size size' : Nat} {lead lead' ident gap gap' : String}
    {start start' s s' : List Char} (h : A.tight s s') (hn : 4 * s'.length + 1 ≤ n' + 1) :
    Carried A.loose (s'.length + 1) (fun b b' => (Structure.block b).reading = (Structure.block b').reading)
      (block? size (n + 1) lead ident gap start s) (block? size' (n' + 1) lead' ident gap' start' s') := by
  rw [block?, block?]
  refine (carried_labels h (by omega)).bind ?_
  intro labels labels' r r' hlabels hr hk
  simp only
  refine (ih.body hr (by omega)).bind ?_
  intro b b' t t' hb ht hkt
  refine .some ?_ ht (show t'.length < _ by omega)
  simp only [Structure.reading, hlabels, hb]

theorem carried_body (ih : ReadsStructures A n) {size size' : Nat} {s s' : List Char} (h : A.loose s s')
    (hn : 4 * s'.length + 1 ≤ n' + 1) :
    Carried A.loose (s'.length + 1) (fun b b' => b.readings = b'.readings) (body? size (n + 1) s)
      (body? size' (n' + 1) s') := by
  rw [body?, body?]
  simp only
  obtain ⟨hu, hl⟩ := A.lineTail h
  rcases A.lineEnd hu with hp | ⟨hnil, r', hr', -⟩
  · cases hr : lineEnd? (lineTail s).2 with
    | none =>
      cases hr' : lineEnd? (lineTail s').2 with
      | none => exact carried_oneLineBody h
      | some r' => rw [hr, hr'] at hp; cases hp
    | some r =>
      cases hr' : lineEnd? (lineTail s').2 with
      | none => rw [hr, hr'] at hp; cases hp
      | some r' =>
        rw [hr, hr'] at hp
        cases hp with
        | some hfresh =>
          have hlr := length_lineEnd? hr'
          simp only
          refine (ih.structures hfresh (by omega)).bind ?_
          rintro ⟨structures, tail, ended⟩ ⟨structures', tail', ended'⟩ t t' hs ht hkt
          simp only at hs ⊢
          rcases A.sign ht.1 '}' (by decide) with ⟨z, z', rfl, rfl, hz⟩ | ⟨hne, hne'⟩
          · simp only [List.length_cons] at hkt ⊢
            refine .some ?_ hz (by omega)
            simpa only [Body.readings] using hs
          · simp only
            exact .none
  · rw [hnil, oneLineBody?_of_lineTail hnil]
    exact .none

theorem carried_structuresFrom (ih : ReadsStructures A n) {size size' : Nat} {keys : List String}
    {p p' : Structure} {s s' : List Char} (hp : p.reading = p'.reading) (h : A.loose s s')
    (hn : 4 * s'.length + 1 ≤ n') :
    Carried A.closing (s'.length + 1) (fun p p' => readingsOf p.1 = readingsOf p'.1)
      (structuresFrom? size n keys p s) (structuresFrom? size' n' keys p' s') := by
  rw [structuresFrom?, structuresFrom?]
  simp only
  obtain ⟨hu, hl⟩ := A.lineTail h
  obtain ⟨hreading, hkeys⟩ := Structure.reading_closed hp keys (lineTail s).1 (lineTail s').1
  refine (carried_nextLine hu).bind ?_
  intro ended ended' r r' _ hr hk
  simp only
  rw [hkeys]
  refine (ih.structures hr (by omega)).bind ?_
  intro q q' t t' hq ht hkt
  refine .some ?_ ht (show t'.length < _ by omega)
  simp only [readingsOf, hreading, hq]

theorem carried_structures (ih : ReadsStructures A n) {size size' : Nat} {keys : List String} {ended ended' : Bool}
    {s s' : List Char} (h : A.fresh s s') (hn : 4 * s'.length + 1 ≤ n' + 1) :
    Carried A.closing (s'.length + 1) (fun p p' => readingsOf p.1 = readingsOf p'.1)
      (structures? size (n + 1) keys ended s) (structures? size' (n' + 1) keys ended' s') := by
  rw [structures?_succ, structures?_succ]
  simp only
  obtain ⟨hu, hl⟩ := A.skipFresh h
  have hnil := A.eq_nil_of_blanks h
  have hdone : atLineEnd (blanks true s).2 = true → (blanks true s).2 = [] := blanks_true_done
  generalize (blanks true s).1 = g at *
  generalize (blanks true s').1 = g' at *
  generalize (blanks true s).2 = u at *
  generalize (blanks true s').2 = u' at *
  cases u with
  | nil =>
    obtain rfl := hnil rfl
    exact .some rfl ⟨hu, fun h => h⟩ (by omega)
  | cons c v =>
    rcases A.sign hu '}' (by decide) with ⟨z, z', hz, rfl, -⟩ | ⟨hne, hne'⟩
    · obtain ⟨rfl, rfl⟩ := List.cons.inj hz
      exact .some rfl ⟨hu, by simp⟩ (by omega)
    obtain ⟨d, v', rfl⟩ : ∃ d v', u' = d :: v' := by
      rcases A.heads hu with ⟨hend, -⟩ | ⟨d, w, w', -, rfl, -⟩
      · exact absurd (hdone hend) (by simp)
      · exact ⟨d, w', rfl⟩
    simp only
    refine (carried_ident hu).bind ?_
    rintro ident _ r r' rfl hr hk
    simp only
    obtain ⟨hx, hlx⟩ := A.skip hr false
    rcases A.sign hx '=' (by decide) with ⟨z, z', hz, hz', hzz⟩ | ⟨hno, hno'⟩
    · rw [hz, hz']
      rw [hz', List.length_cons] at hlx
      simp only
      split
      · exact .none
      · refine (carried_attributeRest hzz).bind ?_
        rintro b b' t t' ⟨hkey, hkey', hvalue⟩ ht hkt
        refine (carried_structuresFrom ih ?_ ht (by omega)).mono (by omega)
        simp only [Structure.reading, hkey, hkey', hvalue]
    · simp only
      refine (ih.block hx (by omega)).bind ?_
      intro b b' t t' hb ht hkt
      exact (carried_structuresFrom ih hb ht (by omega)).mono (by omega)

/-- The readers of structures read alike, however many rounds the first one has. -/
theorem readsStructures (A : Alignment) (n : Nat) : ReadsStructures A n := by
  induction n with
  | zero =>
    constructor <;> intros <;> intro a r h <;> simp [structures?, block?, body?] at h
  | succ n ih =>
    constructor
    · intro n' size size' keys ended ended' s s' h hn
      obtain ⟨n', rfl⟩ := Nat.exists_eq_add_one_of_ne_zero (show n' ≠ 0 by omega)
      exact carried_structures ih h hn
    · intro n' size size' lead lead' ident gap gap' start start' s s' h hn
      obtain ⟨n', rfl⟩ := Nat.exists_eq_add_one_of_ne_zero (show n' ≠ 0 by omega)
      exact carried_block ih h hn
    · intro n' size size' s s' h hn
      obtain ⟨n', rfl⟩ := Nat.exists_eq_add_one_of_ne_zero (show n' ≠ 0 by omega)
      exact carried_body ih h hn

/-- A text whose start an alignment relates to the start of a text that can be read can be read too, and says the
same. -/
theorem Alignment.parse? (A : Alignment) {text text' : String} (h : A.fresh text.toList text'.toList) {b : Body}
    (hb : Source.parse? text = some b) : ∃ b', Source.parse? text' = some b' ∧ b'.readings = b.readings := by
  unfold Source.parse? at hb ⊢
  obtain ⟨⟨⟨structures, tail, openEnd⟩, r⟩, hread, hb⟩ := Option.bind_eq_some_iff.1 hb
  simp only at hb
  split at hb
  · next hr =>
    obtain ⟨⟨structures', tail', openEnd'⟩, r', hread', hsame, hrr, -⟩ :=
      (readsStructures A _).structures h
        (show 4 * text'.toList.length + 1 ≤ 4 * (text'.toList.length + 4) by omega) _ r hread
    obtain rfl := hrr.2 (List.isEmpty_iff.1 hr)
    simp only [Option.some.injEq] at hb
    refine ⟨_, Option.bind_eq_some_iff.2 ⟨_, hread', rfl⟩, ?_⟩
    rw [← hb]
    simpa only [Body.readings] using hsame.symm
  · simp at hb

end Terrasmith.Source
