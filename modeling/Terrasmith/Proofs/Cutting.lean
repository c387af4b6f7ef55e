import Terrasmith.Proofs.Recutting
import Terrasmith.Proofs.Templates

/-!
The cells of a text that can be read. Every reader takes whole cells: characters of tokens, blanks, comments, and string
literals and heredocs to their ends. So the cells of what it leaves are cells of what it began with, and a text that is
read to its end is cut into cells.
-/
namespace Terrasmith.Source

/-! ## Characters of tokens -/

/-- A character that is one of a token whatever follows it. -/
def isPlainCode (c : Char) : Bool := isCode c && c != '/' && c != '<'

/-- A reader takes characters of tokens only. -/
def Takes (s r : List Char) : Prop := ∃ u, s = u ++ r ∧ ∀ c ∈ u, isPlainCode c = true

section Takes

variable {s t r : List Char}

theorem Takes.refl (s : List Char) : Takes s s := ⟨[], rfl, List.forall_mem_nil _⟩

theorem Takes.trans (h : Takes s t) (h' : Takes t r) : Takes s r := by
  obtain ⟨u, rfl, hu⟩ := h
  obtain ⟨v, rfl, hv⟩ := h'
  exact ⟨u ++ v, (List.append_assoc u v r).symm, List.forall_mem_append.mpr ⟨hu, hv⟩⟩

theorem Takes.cons {c : Char} (hc : isPlainCode c = true) (r : List Char) : Takes (c :: r) r :=
  ⟨[c], rfl, List.forall_mem_singleton.mpr hc⟩

theorem Takes.suffix (h : Takes s r) : r <:+ s := by
  obtain ⟨u, rfl, -⟩ := h
  exact ⟨u, rfl⟩

theorem isPlainCode_of_unbound {c : Char} (h : c ∉ boundaries) (hblank : Text.isBlank c = false) :
    isPlainCode c = true := by
  simp only [boundaries, List.mem_cons, List.not_mem_nil, or_false, not_or] at h
  simp [isPlainCode, isCode, hblank, h]

theorem isPlainCode_of_holds {p : Char → Bool} (hbound : ∀ d ∈ boundaries, p d = false)
    (hblank : Layout.blankCodes.all (fun n => !p (Char.ofNat n)) = true) {c : Char} (h : p c = true) :
    isPlainCode c = true := by
  refine isPlainCode_of_unbound (fun hc => ?_) ?_
  · rw [hbound c hc] at h
    cases h
  · by_contra hc
    rw [Layout.eq_false_of_isBlank hblank (by simpa using hc)] at h
    cases h

theorem isPlainCode_of_isIdentContinue {c : Char} (h : Text.isIdentContinue c = true) : isPlainCode c = true :=
  isPlainCode_of_holds isIdentContinue_boundary (by decide +kernel) h

theorem isPlainCode_of_isIdentStart {c : Char} (h : Text.isIdentStart c = true) : isPlainCode c = true :=
  isPlainCode_of_holds isIdentStart_boundary (by decide +kernel) h

theorem isPlainCode_of_isDigit {c : Char} (h : c.isDigit = true) : isPlainCode c = true :=
  isPlainCode_of_holds isDigit_boundary (by decide +kernel) h

theorem takes_dropWhile {p : Char → Bool} (hp : ∀ c, p c = true → isPlainCode c = true) (s : List Char) :
    Takes s (s.dropWhile p) :=
  ⟨s.takeWhile p, List.takeWhile_append_dropWhile.symm, fun c hc => hp c (List.mem_takeWhile_imp hc)⟩

theorem takes_digits (s : List Char) : Takes s (s.dropWhile Char.isDigit) :=
  takes_dropWhile (fun _ => isPlainCode_of_isDigit) s

theorem takes_ident {x : String} (h : ident? s = some (x, r)) : Takes s r := by
  cases s with
  | nil => cases h
  | cons c s =>
    rw [ident?] at h
    split at h
    next hc =>
      obtain ⟨-, rfl⟩ := Prod.mk.inj (Option.some.inj h)
      exact (Takes.cons (isPlainCode_of_isIdentStart hc) s).trans
        (takes_dropWhile (fun _ => isPlainCode_of_isIdentContinue) s)
    · cases h

theorem takes_fraction (s : List Char) : Takes s (fraction s).2 := by
  unfold fraction
  split
  · split
    · exact .refl _
    · exact (Takes.cons (by decide) _).trans (takes_digits _)
  · exact .refl _

theorem takes_exponent (s : List Char) : Takes s (exponent s).2 := by
  have hsign : ∀ v, Takes v (exponentSign v).2 := by
    intro v
    unfold exponentSign
    split
    · exact .cons (by decide) _
    · exact .cons (by decide) _
    · exact .refl _
  unfold exponent
  split
  next mark more =>
    split
    next hmark =>
      split
      · exact .refl _
      · have hplain : isPlainCode mark = true := by
          simp only [Bool.or_eq_true, decide_eq_true_eq] at hmark
          rcases hmark with rfl | rfl <;> decide
        exact ((Takes.cons hplain more).trans (hsign more)).trans (takes_digits _)
    · exact .refl _
  · exact .refl _

theorem takes_number {x : Number × String} (h : number? s = some (x, r)) : Takes s r := by
  simp only [number?_eq, Option.map_eq_some_iff, Prod.mk.injEq] at h
  obtain ⟨-, -, -, rfl⟩ := h
  exact ((takes_digits s).trans (takes_fraction _)).trans (takes_exponent _)

theorem takes_legacyIndex {n : Nat} (h : legacyIndex? s = some (n, r)) : Takes s r := by
  unfold legacyIndex? at h
  split at h
  · obtain ⟨-, rfl⟩ := Prod.mk.inj (Option.some.inj h)
    exact .cons (by decide) _
  · dsimp only at h
    split at h
    · cases h
    · obtain ⟨-, rfl⟩ := Prod.mk.inj (Option.some.inj h)
      exact takes_digits s

theorem takes_word {w : String} (hw : w ∈ words) (h : word? w s = some r) : Takes s r := by
  have hplain : words.all (fun w => w.toList.all isPlainCode) = true := by decide
  rw [word?, afterStart?_eq_some] at h
  exact ⟨w.toList, h, List.all_eq_true.mp (List.all_eq_true.mp hplain w hw)⟩

theorem isApart_of_isPlainCode {c : Char} (h : isPlainCode c = true) (next? : Option Char) :
    isApart c next? = true := by
  simp only [isPlainCode, Bool.and_eq_true, bne_iff_ne] at h
  simp [isApart, h]

/-- An operator is a character that starts no comment and no heredoc, and perhaps another one. -/
theorem takes_operator {op : BinaryOp} (h : binaryOp? s = some (op, r)) : ∃ c v, s = c :: v ∧ isCode c = true ∧
    Takes v r ∧ (isApart c v.head? = true ∨ c = '<' ∧ v.head? = some '<') := by
  have hplain : ∀ c v, isPlainCode c = true → Takes v r → ∃ d u, c :: v = d :: u ∧ isCode d = true ∧ Takes u r ∧
      (isApart d u.head? = true ∨ d = '<' ∧ u.head? = some '<') := fun c v hc hv => by
    refine ⟨c, v, rfl, ?_, hv, .inl (isApart_of_isPlainCode hc _)⟩
    simp only [isPlainCode, Bool.and_eq_true] at hc
    exact hc.1.1
  unfold binaryOp? at h
  split at h <;> try cases h
  · exact hplain _ _ (by decide) (.cons (by decide) _)
  · exact hplain _ _ (by decide) (.cons (by decide) _)
  · exact ⟨'<', _, rfl, by decide, .cons (by decide) _, .inl rfl⟩
  · exact hplain _ _ (by decide) (.cons (by decide) _)
  · refine ⟨'<', _, rfl, by decide, .refl _, ?_⟩
    by_cases hr : r.head? = some '<'
    · exact .inr ⟨rfl, hr⟩
    · exact .inl (by simp [isApart, hr])
  · exact hplain _ _ (by decide) (.refl _)
  · exact hplain _ _ (by decide) (.cons (by decide) _)
  · exact hplain _ _ (by decide) (.cons (by decide) _)
  · exact hplain _ _ (by decide) (.refl _)
  · exact hplain _ _ (by decide) (.refl _)
  · exact hplain _ _ (by decide) (.refl _)
  · next hslash hstar =>
    refine ⟨'/', _, rfl, by decide, .refl _, .inl ?_⟩
    cases r with
    | nil => rfl
    | cons d r =>
      have hd : d ≠ '/' ∧ d ≠ '*' := by
        constructor <;> rintro rfl
        · exact hslash r rfl
        · exact hstar r rfl
      simp [isApart, hd]
  · exact hplain _ _ (by decide) (.refl _)

end Takes

/-! ## Comments -/

section Comments

variable {s v x r : List Char}

theorem blockComment?_cut (h : blockComment? v = some (x, r)) : v = x ++ r ∧ blockComment? x = some (x, []) := by
  induction v generalizing x with
  | nil => cases h
  | cons c v ih =>
    rw [blockComment?] at h
    split at h
    next hc =>
      obtain ⟨rfl, rfl⟩ := Prod.mk.inj (Option.some.inj h)
      simp only [Bool.and_eq_true, decide_eq_true_eq] at hc
      obtain ⟨rfl, hnext⟩ := hc
      obtain ⟨v, rfl⟩ := List.head?_eq_some_iff.mp hnext
      exact ⟨rfl, by decide⟩
    next hc =>
      obtain ⟨⟨y, t⟩, hmore, hpair⟩ := Option.map_eq_some_iff.mp h
      obtain ⟨rfl, rfl⟩ := Prod.mk.inj hpair
      obtain ⟨rfl, hclosed⟩ := ih hmore
      refine ⟨rfl, ?_⟩
      have hhead : y.head? = (y ++ t).head? := by
        cases y with
        | nil => cases hclosed
        | cons d y => rfl
      rw [blockComment?, hhead, if_neg hc, hclosed]
      rfl

theorem startsLineComment_cons (c : Char) (v : List Char) :
    startsLineComment (c :: v) = (c = '#' || (c = '/' && v.head? = some '/')) := by
  by_cases hc : c = '#'
  · subst hc
    rfl
  · by_cases hc' : c = '/'
    · subst hc'
      cases v with
      | nil => rfl
      | cons d v => by_cases hd : d = '/' <;> simp [startsLineComment, hd]
    · simp [startsLineComment, hc, hc']

/-- A comment that lasts until the end of the line, where no carriage return is met. -/
theorem lineComment?_cut (hreturn : '\r' ∉ s) (h : lineComment? s = some (x, r)) :
    s = x ++ r ∧ IsComment x ∧ (r = [] ∨ r.head? = some '\n') := by
  have hrest : ∀ {s x}, '\r' ∉ s → lineRest? s = some (x, r) →
      s = x ++ r ∧ '\n' ∉ x ∧ (r = [] ∨ r.head? = some '\n') := by
    intro s
    induction s with
    | nil =>
      intro x _ h
      obtain ⟨rfl, rfl⟩ := Prod.mk.inj (Option.some.inj h)
      exact ⟨rfl, by simp, .inl rfl⟩
    | cons c s ih =>
      intro x hreturn h
      rw [lineRest?] at h
      split at h
      next hc =>
        obtain ⟨rfl, rfl⟩ := Prod.mk.inj (Option.some.inj h)
        exact ⟨rfl, by simp, .inr (by rw [hc, List.head?_cons])⟩
      next hc =>
        rw [if_neg (fun hr => hreturn (by rw [hr]; exact List.mem_cons_self))] at h
        obtain ⟨⟨y, t⟩, hmore, hpair⟩ := Option.map_eq_some_iff.mp h
        obtain ⟨rfl, rfl⟩ := Prod.mk.inj hpair
        obtain ⟨rfl, hnewline, hend⟩ := ih (fun hr => hreturn (List.mem_cons_of_mem c hr)) hmore
        exact ⟨rfl, by simpa [Ne.symm hc] using hnewline, hend⟩
  rw [lineComment?] at h
  split at h
  next hstart =>
    obtain ⟨rfl, hnewline, hend⟩ := hrest hreturn h
    refine ⟨rfl, ⟨?_, hnewline, fun hr => hreturn (List.mem_append_left r hr)⟩, hend⟩
    have hhead : r.head? ≠ some '/' ∧ r.head? ≠ some '#' := by
      rcases hend with rfl | hend
      · simp
      · simp [hend]
    cases x with
    | nil =>
      cases r with
      | nil => cases hstart
      | cons d r =>
        rw [List.nil_append, startsLineComment_cons] at hstart
        simp_all
    | cons c x =>
      rw [List.cons_append, startsLineComment_cons] at hstart
      rw [startsLineComment_cons, ← hstart]
      cases x with
      | nil => simp [hhead]
      | cons d x => rfl
  · cases h

end Comments

/-! ## Cells -/

/-- A heredoc that the layout takes for one: its delimiter is a word that stands alone on the last line only. -/
structure IsHeredoc (name body margin : List Char) : Prop where
  delimiter : IsDelimiter name
  word : ∀ c ∈ name, (Text.isAlphanumeric c || c = '_') = true
  lines : IsBody name body
  margin : ∀ c ∈ margin, isIndent c = true
  apart : ∀ line ∈ Text.linesOf body, Text.trimChars line ≠ name

/-- The end of the text or of a line. -/
def AtBreak (r : List Char) : Prop := r = [] ∨ r.head? = some '\n'

/-- A string literal, or a heredoc with nothing behind it on its last line. -/
def IsClosed (w r : List Char) : Prop :=
  (∃ x, IsInside x ∧ w = '"' :: (x ++ ['"'])) ∨
    ∃ dash name body margin, IsHeredoc name body margin ∧ w = heredocText dash name body margin ∧ AtBreak r

/-- Whether all literals among cells are such. -/
def Confined : List Cell → Prop
  | [] => True
  | .literal w :: cells => IsClosed w (lefts cells) ∧ Confined cells
  | _ :: cells => Confined cells

/-- The cells of a text. -/
structure Cuts (s : List Char) (cells : List Cell) : Prop where
  lexical : ∀ run, Lexical run cells
  diagonal : Diagonal cells
  confined : Confined cells
  lefts : lefts cells = s

section Cuts

variable {s v w x r : List Char} {cells : List Cell} {c : Char}

theorem Diagonal.cons {cell : Cell} (h : Diagonal cells) (hcell : cell.right = cell.left) : Diagonal (cell :: cells) :=
  List.forall_mem_cons.mpr ⟨hcell, h⟩

theorem Diagonal.rights (h : Diagonal cells) : Source.rights cells = Source.lefts cells := by
  induction cells with
  | nil => rfl
  | cons cell cells ih => rw [rights_cons, lefts_cons, ih h.tail, h cell List.mem_cons_self]

theorem cuts_nil : Cuts [] [] := ⟨fun _ => trivial, List.forall_mem_nil _, trivial, rfl⟩

theorem Cuts.code (h : Cuts v cells) (hc : isCode c = true) (hapart : isApart c v.head? = true) :
    Cuts (c :: v) (.code c :: cells) := by
  obtain ⟨hlexical, hdiagonal, hconfined, rfl⟩ := h
  exact ⟨fun run => ⟨hc, hapart, by rwa [hdiagonal.rights], hlexical _⟩, hdiagonal.cons rfl, hconfined, rfl⟩

theorem Cuts.takes (h : Cuts r cells) (hs : Takes s r) : ∃ cells', Cuts s cells' := by
  obtain ⟨u, rfl, hu⟩ := hs
  induction u with
  | nil => exact ⟨cells, h⟩
  | cons c u ih =>
    obtain ⟨hc, hmore⟩ := List.forall_mem_cons.mp hu
    obtain ⟨cells', h'⟩ := ih hmore
    have hcode : isCode c = true := by
      simp only [isPlainCode, Bool.and_eq_true] at hc
      exact hc.1.1
    exact ⟨_, h'.code hcode (isApart_of_isPlainCode hc _)⟩

/-- Blanks become one cell with the blanks behind them. -/
theorem Cuts.blank (h : Cuts v cells) (hc : isIndent c = true ∨ c = '\n') : ∃ cells', Cuts (c :: v) cells' := by
  obtain ⟨hlexical, hdiagonal, hconfined, rfl⟩ := h
  rcases exists_space_or_solid cells with ⟨w, w', more, rfl⟩ | hsolid
  · obtain rfl : w' = w := hdiagonal _ List.mem_cons_self
    obtain ⟨⟨hw, -, -, hmore⟩, -, -⟩ := hlexical []
    have hspace : isSpace (c :: w') = true := by rwa [isSpace_cons hc]
    exact ⟨.space (c :: w') (c :: w') :: more, fun run =>
      ⟨⟨hspace, hspace, .inl (by simp), hmore⟩, by simp, (hlexical run).2.2⟩, hdiagonal.tail.cons rfl, hconfined, rfl⟩
  · have hspace : isSpace [c] = true := by rw [isSpace_cons hc]; rfl
    exact ⟨.space [c] [c] :: cells, fun run => ⟨⟨hspace, hspace, .inl (by simp), hsolid⟩, by simp, hlexical []⟩,
      hdiagonal.cons rfl, hconfined, rfl⟩

theorem Cuts.literal (h : Cuts r cells) (hw : IsLiteral w) (hclosed : IsClosed w r) :
    Cuts (w ++ r) (.literal w :: cells) := by
  obtain ⟨hlexical, hdiagonal, hconfined, rfl⟩ := h
  exact ⟨fun run => ⟨hw, hlexical []⟩, hdiagonal.cons rfl, ⟨hclosed, hconfined⟩, rfl⟩

theorem Cuts.block (h : Cuts r cells) (hv : blockComment? v = some (x, r)) :
    ∃ cells', Cuts ('/' :: '*' :: v) cells' := by
  obtain ⟨hlexical, hdiagonal, hconfined, rfl⟩ := h
  obtain ⟨rfl, hclosed⟩ := blockComment?_cut hv
  have hblock : IsBlock ('/' :: '*' :: x) := ⟨x, x, rfl, hclosed⟩
  exact ⟨.block ('/' :: '*' :: x) ('/' :: '*' :: x) :: cells, fun run => ⟨hblock, hblock, rfl, hlexical []⟩,
    hdiagonal.cons rfl, hconfined, rfl⟩

/-- The first cell at the end of a line is the blanks there. -/
theorem Cuts.endsLine (h : Cuts r cells) (hr : AtBreak r) : EndsLine cells := by
  obtain ⟨hlexical, hdiagonal, -, rfl⟩ := h
  have hblank : ∀ c ∈ (Source.lefts cells).head?, Text.isBlank c = true := by
    intro c hc
    rcases hr with hr | hr
    · rw [hr] at hc
      cases hc
    · obtain rfl : '\n' = c := Option.some.inj (hr.symm.trans hc)
      decide
  rcases exists_space_or_solid cells with ⟨w, w', more, rfl⟩ | hsolid
  · obtain rfl : w' = w := hdiagonal _ List.mem_cons_self
    obtain ⟨hw, hne⟩ := hdiagonal.space (hlexical [])
    obtain ⟨c, w, rfl⟩ := List.exists_cons_of_ne_nil hne
    have hc : c = '\n' := by
      rcases hr with hr | hr
      · cases hr
      · exact Option.some.inj hr
    have hend := lineEnd?_of_isSpace hw (.inl (by rw [hc]; rfl))
    exact ⟨hend, .inl hend⟩
  · rcases head_solid (hlexical []) hsolid with rfl | ⟨c, v, -, hleft, -, hc, -⟩
    · trivial
    · rw [hblank c (by rw [hleft]; rfl)] at hc
      cases hc

theorem Cuts.comment (h : Cuts r cells) (hreturn : '\r' ∉ s) (hs : lineComment? s = some (x, r)) :
    ∃ cells', Cuts s cells' := by
  obtain ⟨rfl, hx, hr⟩ := lineComment?_cut hreturn hs
  have hend := h.endsLine hr
  obtain ⟨hlexical, hdiagonal, hconfined, rfl⟩ := h
  exact ⟨.comment x x :: cells, fun run => ⟨hx, hx, rfl, rfl, hend, hlexical []⟩, hdiagonal.cons rfl, hconfined, rfl⟩

/-- Blanks and comments are cells. -/
theorem Cuts.blanksFrom {lines : Bool} {fuel : Nat} (hreturn : '\r' ∉ s)
    (h : Cuts (Source.blanksFrom lines fuel s).2 cells) : ∃ cells', Cuts s cells' := by
  induction fuel generalizing s with
  | zero => exact ⟨cells, h⟩
  | succ fuel ih =>
    cases s with
    | nil => exact ⟨cells, h⟩
    | cons c s =>
      have hbehind : ∀ r, r <:+ s → '\r' ∉ r := fun r hr hmem =>
        hreturn (List.mem_cons_of_mem c (hr.subset hmem))
      rw [Source.blanksFrom] at h
      split at h
      next hc =>
        obtain ⟨more, hmore⟩ := ih (hbehind s (List.suffix_refl s)) h
        refine hmore.blank ?_
        simp only [Bool.or_eq_true, Bool.and_eq_true, decide_eq_true_eq] at hc
        rcases hc with (rfl | rfl) | ⟨-, rfl | rfl⟩
        · exact .inl rfl
        · exact .inl rfl
        · exact .inr rfl
        · exact absurd List.mem_cons_self hreturn
      split at h
      next hopens =>
        simp only [Bool.and_eq_true, decide_eq_true_eq] at hopens
        obtain ⟨rfl, hnext⟩ := hopens
        obtain ⟨s, rfl⟩ := List.head?_eq_some_iff.mp hnext
        cases hblock : blockComment? s with
        | none =>
          simp only [List.tail_cons, hblock] at h
          exact ⟨cells, h⟩
        | some p =>
          simp only [List.tail_cons, hblock] at h
          obtain ⟨more, hmore⟩ := ih (hbehind p.2
            ((suffix_blockComment? (c := p.1) hblock).trans (List.suffix_cons '*' s))) h
          exact hmore.block (x := p.1) hblock
      split at h
      next hlines =>
        cases hcomment : lineComment? (c :: s) with
        | none =>
          simp only [hcomment] at h
          exact ⟨cells, h⟩
        | some p =>
          simp only [hcomment] at h
          obtain ⟨more, hmore⟩ := ih (fun hmem => hreturn ((suffix_lineComment? (c := p.1) hcomment).subset hmem)) h
          exact hmore.comment hreturn (x := p.1) hcomment
      · exact ⟨cells, h⟩

end Cuts

/-! ## Readers -/

/-- What can be told of the literals of a text without reading it: all interpolations hold names, and the layout takes
all heredocs for such. -/
structure IsPlainText (text : List Char) : Prop where
  returns : '\r' ∉ text
  marked : IsMarked text
  heredocs : ∀ v, '<' :: '<' :: v <:+ text → ∃ dash name body margin r, IsHeredoc name body margin ∧ AtBreak r ∧
    '<' :: '<' :: v = heredocText dash name body margin ++ r

section PlainTexts

variable {c : Char} {u v : List Char}

/-- Whether a character starts no template and no heredoc. -/
def opensNothing (c : Char) : Bool := c != '\r' && !Text.isSigil c && c != '<'

theorem isPlainText_nil : IsPlainText [] := by
  refine ⟨List.not_mem_nil, ⟨fun v hv => ?_, fun v hv hmarker => ?_⟩, fun v hv => ?_⟩
  · rw [List.suffix_nil.mp hv]
    rfl
  · rw [List.suffix_nil.mp hv] at hmarker
    cases hmarker
  · cases List.suffix_nil.mp hv

/-- A text is plain if it is plain behind its first character and starts with nothing else. -/
theorem IsPlainText.cons (h : IsPlainText v) (hreturn : c ≠ '\r') (hdoubled : startsDoubledMarker (c :: v) = false)
    (hmarker : startsMarker (c :: v) = true → ∃ path r, IsPath path ∧ c :: v = '$' :: '{' :: (path ++ '}' :: r))
    (hheredoc : c = '<' → v.head? = some '<' → ∃ dash name body margin r, IsHeredoc name body margin ∧ AtBreak r ∧
      c :: v = heredocText dash name body margin ++ r) : IsPlainText (c :: v) := by
  refine ⟨by simp [Ne.symm hreturn, h.returns], ⟨fun t ht => ?_, fun t ht => ?_⟩, fun t ht => ?_⟩
  · rcases List.suffix_cons_iff.mp ht with rfl | ht
    · exact hdoubled
    · exact h.marked.doubled t ht
  · rcases List.suffix_cons_iff.mp ht with rfl | ht
    · exact hmarker
    · exact h.marked.paths t ht
  · rcases List.suffix_cons_iff.mp ht with heq | ht
    · obtain ⟨rfl, rfl⟩ := List.cons.inj heq
      exact hheredoc rfl rfl
    · exact h.heredocs t ht

theorem IsPlainText.append (h : IsPlainText v) (hu : u.all opensNothing = true) : IsPlainText (u ++ v) := by
  induction u with
  | nil => exact h
  | cons c u ih =>
    rw [List.all_cons, Bool.and_eq_true] at hu
    obtain ⟨hc, hmore⟩ := hu
    simp only [opensNothing, Bool.and_eq_true, bne_iff_ne, Bool.not_eq_true'] at hc
    obtain ⟨⟨hreturn, hsigil⟩, hless⟩ := hc
    refine (ih hmore).cons hreturn ?_ (fun hmarker => ?_) fun hc => absurd hc hless
    · simp [startsDoubledMarker_cons, hsigil]
    · simp [startsMarker_cons, hsigil] at hmarker

theorem IsPlainText.interpolation {path : List Char} (h : IsPlainText (path ++ '}' :: v)) (hpath : IsPath path) :
    IsPlainText ('$' :: '{' :: (path ++ '}' :: v)) := by
  refine (h.append (u := ['{']) (by decide)).cons (by decide) ?_ (fun _ => ⟨path, v, hpath, rfl⟩) (by simp)
  simp [startsDoubledMarker_cons]

theorem IsPlainText.heredoc {dash : Bool} {name body margin r : List Char}
    (h : IsPlainText ((heredocText dash name body margin).drop 2 ++ r)) (hheredoc : IsHeredoc name body margin)
    (hr : AtBreak r) : IsPlainText (heredocText dash name body margin ++ r) := by
  obtain ⟨d, more, rfl, hd⟩ := hheredoc.delimiter.start
  have hless : ((heredocText dash (d :: more) body margin).drop 2 ++ r).head? ≠ some '<' := by
    have hd' : d ≠ '<' := ne_of_isIdentStart hd (by decide)
    cases dash <;> simp [heredocText, hd']
  have hmarker : ∀ v, startsMarker ('<' :: v) = true → ∃ path r, IsPath path ∧
      '<' :: v = '$' :: '{' :: (path ++ '}' :: r) := fun v hv => by cases hv
  have hinner : IsPlainText ('<' :: ((heredocText dash (d :: more) body margin).drop 2 ++ r)) :=
    h.cons (by decide) rfl (hmarker _) fun _ hnext => absurd hnext hless
  exact hinner.cons (by decide) rfl (hmarker _) fun _ _ => ⟨dash, d :: more, body, margin, r, hheredoc, hr, rfl⟩

end PlainTexts

/-- A place in a text. Cells of what is behind it make cells of the text. -/
structure Leads (text s s' : List Char) : Prop where
  same : s' = s
  suffix : s <:+ text
  cuts : ∀ cells, Cuts s cells → ∃ cells', Cuts text cells'

section Readers

variable {text s s' r : List Char}

theorem Leads.go (h : Leads text s s') (hr : r <:+ s) (hcuts : ∀ cells, Cuts r cells → ∃ cells', Cuts s cells') :
    Leads text r r := by
  refine ⟨rfl, hr.trans h.suffix, fun cells hcells => ?_⟩
  obtain ⟨more, hmore⟩ := hcuts cells hcells
  exact h.cuts more hmore

theorem Leads.takes (h : Leads text s s') (hs : Takes s r) : Leads text r r :=
  h.go hs.suffix fun _ hcells => hcells.takes hs

theorem Leads.returns (h : Leads text s s') (htext : IsPlainText text) : '\r' ∉ s :=
  fun hmem => htext.returns (h.suffix.subset hmem)

theorem Leads.blanks (h : Leads text s s') (htext : IsPlainText text) (lines : Bool) :
    Leads text (blanks lines s).2 (blanks lines s').2 := by
  obtain rfl := h.same
  exact h.go (suffix_blanks lines s') fun cells hcells => hcells.blanksFrom (h.returns htext)

/-- A string literal or a heredoc. -/
theorem Leads.exists_literal (h : Leads text s s') (htext : IsPlainText text) {n : Nat} {m : Manner}
    {op? : Option (UnaryOp × String)} {value : Written × Bool} (hs : startsLiteral s = true)
    (hterm : term? n m op? s = some (value, r)) : ∃ w, s = w ++ r ∧ IsLiteral w ∧ IsClosed w r := by
  unfold startsLiteral at hs
  split at hs
  · obtain ⟨x, rfl, hinside, hliteral⟩ := exists_string (htext.marked.of_suffix
      ((List.suffix_cons _ _).trans h.suffix)) hterm
    exact ⟨'"' :: (x ++ ['"']), by simp, hliteral, .inl ⟨x, hinside, rfl⟩⟩
  · obtain ⟨dash, name, body, margin, t, hheredoc, ht, hcut⟩ := htext.heredocs _ h.suffix
    have hliteral : IsLiteral (heredocText dash name body margin) :=
      isLiteral_body hheredoc.delimiter hheredoc.lines hheredoc.margin
    rw [hcut] at hterm ⊢
    obtain ⟨value', hreads⟩ := hliteral.reads
    obtain rfl : r = t := (Prod.mk.inj ((hreads n m op? t).1 _ hterm)).2
    exact ⟨_, rfl, hliteral, .inr ⟨dash, name, body, margin, hheredoc, rfl, ht⟩⟩
  · cases hs

theorem Leads.literal (h : Leads text s s') {w : List Char} (hs : s = w ++ r) (hw : IsLiteral w)
    (hclosed : IsClosed w r) : Leads text r r := by
  subst hs
  exact h.go (List.suffix_append w r) fun cells hcells => ⟨_, hcells.literal hw hclosed⟩

theorem Leads.plainString (h : Leads text s s') (htext : IsPlainText text) :
    Parallel (Leads text) (plainString? s) (plainString? s') := by
  obtain rfl := h.same
  cases hread : plainString? s' with
  | none => exact .none
  | some p =>
    obtain ⟨value, r⟩ := p
    cases s' with
    | nil => cases hread
    | cons c v =>
      by_cases hc : c = '"'
      · subst hc
        obtain ⟨x, rfl, hinside, hplain⟩ := exists_plainString (htext.marked.of_suffix
          ((List.suffix_cons _ _).trans h.suffix)).doubled hread
        exact .some (h.literal (w := '"' :: (x ++ ['"'])) (by simp) (isLiteral_of_plainString hplain)
          (.inl ⟨x, hinside, rfl⟩))
      · simp [plainString?, hc] at hread

theorem Leads.binaryOp (h : Leads text s s') (htext : IsPlainText text) :
    Parallel (Leads text) (binaryOp? s) (binaryOp? s') ∨
      ∃ v, s = '<' :: '<' :: v ∧ startsLiteral ('<' :: v) = false := by
  obtain rfl := h.same
  cases hop : binaryOp? s' with
  | none => exact .inl .none
  | some p =>
    obtain ⟨op, r⟩ := p
    obtain ⟨c, v, rfl, hc, hv, hapart | ⟨rfl, hnext⟩⟩ := takes_operator hop
    · refine .inl (.some (h.go (hv.suffix.trans (List.suffix_cons c v)) fun cells hcells => ?_))
      obtain ⟨more, hmore⟩ := hcells.takes hv
      exact ⟨_, hmore.code hc hapart⟩
    · obtain ⟨v, rfl⟩ := List.head?_eq_some_iff.mp hnext
      refine .inr ⟨v, rfl, ?_⟩
      obtain ⟨dash, name, body, margin, t, hheredoc, -, hcut⟩ := htext.heredocs _ h.suffix
      obtain ⟨d, more, rfl, hd⟩ := hheredoc.delimiter.start
      have hd' : d ≠ '<' := ne_of_isIdentStart hd (by decide)
      rw [heredocText, List.cons_append, List.cons_append] at hcut
      obtain rfl := (List.cons.inj (List.cons.inj hcut).2).2
      cases dash <;> simp [startsLiteral, hd']

theorem Leads.heads (h : Leads text s s') : (atLineEnd s = true ∧ atLineEnd s' = true) ∨
    ∃ c v v', s = c :: v ∧ s' = c :: v' ∧ (c ∈ signs → Leads text v v') := by
  obtain rfl := h.same
  cases s' with
  | nil => exact .inl ⟨rfl, rfl⟩
  | cons c v =>
    have hsigns : ∀ c ∈ signs, isPlainCode c = true := List.all_eq_true.mp (by decide)
    exact .inr ⟨c, v, v, rfl, rfl, fun hc => h.takes (.cons (hsigns c hc) v)⟩

theorem Leads.parallel {α : Type} {read : List Char → Option (α × List Char)} (h : Leads text s s')
    (hread : ∀ {a r}, read s = some (a, r) → Takes s r) : Parallel (Leads text) (read s) (read s') := by
  obtain rfl := h.same
  cases hs : read s' with
  | none => exact .none
  | some p => exact .some (h.takes (hread (a := p.1) hs))

theorem Leads.word (h : Leads text s s') {w : String} (hw : w ∈ words) :
    Parallel (Leads text) ((word? w s).map fun r => ((), r)) ((word? w s').map fun r => ((), r)) := by
  obtain rfl := h.same
  cases hs : word? w s' with
  | none => exact .none
  | some r => exact .some (h.takes (takes_word hw hs))

theorem Leads.comment (h : Leads text s s') (htext : IsPlainText text) :
    Leads text ((lineComment? s).getD ([], s)).2 ((lineComment? s').getD ([], s')).2 := by
  obtain rfl := h.same
  cases hs : lineComment? s' with
  | none => exact h
  | some p =>
    exact h.go (suffix_lineComment? (c := p.1) hs) fun cells hcells =>
      hcells.comment (h.returns htext) (x := p.1) hs

theorem Leads.lineEnd (h : Leads text s s') (htext : IsPlainText text) :
    Parallel (Leads text) ((lineEnd? s).map fun r => ((), r)) ((lineEnd? s').map fun r => ((), r)) := by
  obtain rfl := h.same
  cases hs : lineEnd? s' with
  | none => exact .none
  | some r =>
    obtain ⟨v, rfl⟩ | ⟨v, rfl⟩ := lineEnd?_isSome (by rw [hs]; rfl : (lineEnd? s').isSome = true)
    · obtain rfl := Option.some.inj hs
      exact .some (h.go (List.suffix_cons _ _) fun _ hcells => hcells.blank (.inr rfl))
    · exact absurd List.mem_cons_self (h.returns htext)

/-- The readers of a plain text take its cells one after the other. -/
def cutting (htext : IsPlainText text) : Alignment where
  loose := Leads text
  tight := Leads text
  fresh := Leads text
  loose_of_tight := id
  fresh_of_loose := id
  blanks_of_loose := fun h lines => h.blanks htext lines
  blanks_of_fresh := fun h => h.blanks htext true
  heads := Leads.heads
  word := fun h _ hw => h.word hw
  ident := fun h => h.parallel takes_ident
  number := fun h => h.parallel takes_number
  legacyIndex := fun h => h.parallel takes_legacyIndex
  binaryOp := fun h => h.binaryOp htext
  startsStep := fun h => by rw [h.same]
  startsLoop := fun _ h => .inl (by rw [(List.cons.inj h.same).2])
  comment := fun h => h.comment htext
  lineEnd := fun h => .inl (h.lineEnd htext)
  plainString := fun h _ => h.plainString htext
  literal := by
    intro s s' h hs n n' m op? w lines r hn hterm
    obtain ⟨u, rfl, hliteral, hclosed⟩ := h.exists_literal htext hs hterm
    obtain rfl := h.same
    obtain ⟨value, hreads⟩ := hliteral.reads
    have hsame := (hreads n m op? r).1 _ hterm
    simp only [Prod.mk.injEq] at hsame
    obtain ⟨⟨rfl, rfl⟩, -⟩ := hsame
    exact ⟨rfl, value, r, rfl, h.literal rfl hliteral hclosed, by simp, fun op?' => (hreads n' m op?' r).2 hn⟩

end Readers

/-- A plain text that can be read is cut into cells. -/
theorem exists_cuts {text : String} (htext : IsPlainText text.toList) {b : Body} (hb : parse? text = some b) :
    ∃ cells, Cuts text.toList cells := by
  have hstart : Leads text.toList text.toList text.toList :=
    ⟨rfl, List.suffix_refl _, fun cells hcells => ⟨cells, hcells⟩⟩
  unfold parse? at hb
  obtain ⟨⟨⟨structures, tail, openEnd⟩, r⟩, hread, hb⟩ := Option.bind_eq_some_iff.mp hb
  dsimp only at hb
  split at hb
  next hr =>
    let fuel := 4 * (text.toList.length + 4)
    have hcarried : Carried (cutting htext).closing (text.toList.length + 1)
        (fun p p' => readingsOf p.1 = readingsOf p'.1)
        (structures? (byteSize text.toList) fuel [] false text.toList)
        (structures? (byteSize text.toList) fuel [] false text.toList) :=
      (readsStructures (cutting htext) fuel).structures hstart (by omega)
    obtain ⟨-, r', -, -, hclosing, -⟩ := hcarried _ r hread
    obtain rfl := List.isEmpty_iff.mp hr
    exact hclosing.1.cuts [] cuts_nil
  · cases hb

end Terrasmith.Source
