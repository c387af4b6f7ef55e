import Mathlib.Data.List.TakeWhile
import Terrasmith.Layout
import Terrasmith.Proofs.Bounds

/-!
Two texts cut into the same cells: characters of tokens, blanks, comments, and the string literals and heredocs,
which both texts have in common. Where blanks change only at line ends and around an equals sign that stands for
itself, the cells make an alignment.
-/
namespace Terrasmith.Source

/-- A piece of a text beside what has become of it in another one. -/
inductive Cell where
  /-- A character of a token. -/
  | code (c : Char)
  /-- All the blanks between two other cells, line ends included. -/
  | space (w w' : List Char)
  | block (w w' : List Char)
  /-- A comment that lasts until the end of the line. -/
  | comment (w w' : List Char)
  /-- A string literal or a heredoc. -/
  | literal (w : List Char)

namespace Cell

def left : Cell → List Char
  | code c => [c]
  | space w _ => w
  | block w _ => w
  | comment w _ => w
  | literal w => w

def right : Cell → List Char
  | code c => [c]
  | space _ w' => w'
  | block _ w' => w'
  | comment _ w' => w'
  | literal w => w

def isSpace : Cell → Bool
  | space _ _ => true
  | _ => false

end Cell

def lefts (cells : List Cell) : List Char := cells.flatMap Cell.left

def rights (cells : List Cell) : List Char := cells.flatMap Cell.right

@[simp] theorem lefts_nil : lefts [] = [] := rfl
@[simp] theorem rights_nil : rights [] = [] := rfl
@[simp] theorem lefts_cons (cell : Cell) (cells : List Cell) : lefts (cell :: cells) = cell.left ++ lefts cells := rfl
@[simp] theorem rights_cons (cell : Cell) (cells : List Cell) : rights (cell :: cells) = cell.right ++ rights cells :=
  rfl

/-- A string literal or a heredoc: it is read to its end, and as one value, whatever follows it. -/
structure IsLiteral (w : List Char) : Prop where
  starts : startsLiteral w = true
  ends : ∃ v c, w = v ++ [c] ∧ Text.isBlank c = false
  reads : ∃ value : Written, ∀ (n : Nat) (m : Manner) (op? : Option (UnaryOp × String)) (r : List Char),
    (∀ x, term? n m op? (w ++ r) = some x → x = ((applyPending op? value, m.lines), r)) ∧
      (8 * (w ++ r).length + 1 ≤ n → term? n m op? (w ++ r) = some ((applyPending op? value, m.lines), r))

/-- A block comment, up to its end. -/
def IsBlock (w : List Char) : Prop :=
  ∃ v x, w = '/' :: '*' :: v ∧ blockComment? v = some (x, [])

/-- A comment without the end of its line. -/
structure IsComment (w : List Char) : Prop where
  starts : startsLineComment w = true
  newline : '\n' ∉ w
  carriage : '\r' ∉ w

/-- Blanks and line ends. -/
def isSpace : List Char → Bool
  | [] => true
  | '\r' :: '\n' :: rest => isSpace rest
  | c :: rest => (isIndent c || c = '\n') && isSpace rest

/-- Characters of tokens: neither blanks nor the start of a string literal or of a comment. -/
def isCode (c : Char) : Bool := !Text.isBlank c && c != '"' && c != '#'

/-- Whether a character can be told from the start of a comment or of a heredoc by the one after it. -/
def isApart (c : Char) (next? : Option Char) : Bool :=
  !(c == '/' && (next? == some '/' || next? == some '*')) && !(c == '<' && next? == some '<')

/-- Whether the line ends in both texts before the cells. Only the first text may lack its last line end. -/
def EndsLine : List Cell → Prop
  | [] => True
  | .space w w' :: cells => (lineEnd? w').isSome ∧ ((lineEnd? w).isSome ∨ w = [] ∧ cells = [])
  | _ => False

/-- The number of characters that are no blanks. -/
def weight (s : List Char) : Nat := s.countP (!Text.isBlank ·)

/-- What makes pieces of text cells. `run` holds the characters of the token before them, last first. A `for` that an
equals sign follows keeps that place: with white space after it, it would be the keyword of a loop. -/
def Lexical : (run : List Char) → List Cell → Prop
  | _, [] => True
  | run, .code c :: cells =>
    isCode c = true ∧ isApart c (lefts cells).head? = true ∧ isApart c (rights cells).head? = true ∧
      Lexical (c :: run) cells
  | run, .space w w' :: cells =>
    (isSpace w = true ∧ isSpace w' = true ∧ (w ≠ [] ∨ w' ≠ []) ∧ ∀ cell ∈ cells.head?, cell.isSpace = false) ∧
      (w = [] → cells.head? = some (.code '=') → run ≠ "for".toList.reverse) ∧ Lexical [] cells
  | _, .block w w' :: cells => IsBlock w ∧ IsBlock w' ∧ weight w = weight w' ∧ Lexical [] cells
  | _, .comment w w' :: cells =>
    IsComment w ∧ IsComment w' ∧ w.head? = w'.head? ∧ weight w = weight w' ∧ EndsLine cells ∧ Lexical [] cells
  | _, .literal w :: cells => IsLiteral w ∧ Lexical [] cells

/-- Where blanks may come and go: at the end of a line, beside other blanks, and around an equals sign that stands for
itself. -/
def MayChange (run w w' : List Char) (cells : List Cell) : Prop :=
  w'.all isIndent = false ∧ (w.all isIndent = false ∨ cells = []) ∨
  w.all isIndent = true ∧ w'.all isIndent = true ∧ w' ≠ [] ∧
    (w ≠ [] ∨ cells.head? = some (.code '=') ∧ run.all Layout.isKeyChar = true ∨
      run.head? = some '=' ∧ cells.head? ≠ some (.code '=') ∧ cells.head? ≠ some (.code '>'))

/-- All blanks change where they may. -/
def Spaced : (run : List Char) → List Cell → Prop
  | _, [] => True
  | run, .code c :: cells => Spaced (c :: run) cells
  | run, .space w w' :: cells => MayChange run w w' cells ∧ Spaced [] cells
  | _, .block _ _ :: cells => Spaced [] cells
  | _, .comment _ _ :: cells => Spaced [] cells
  | _, .literal _ :: cells => Spaced [] cells

section Spaces

theorem isSpace_cases {w : List Char} (h : isSpace w = true) :
    w.all isIndent = true ∨ (lineEnd? (w.dropWhile isIndent)).isSome = true := by
  induction w with
  | nil => exact .inl rfl
  | cons c w ih =>
    by_cases hc : isIndent c = true
    · have hw : isSpace w = true := by
        unfold isSpace at h
        split at h
        · contradiction
        · simp_all [isIndent]
        · simp_all
      simpa [hc] using ih hw
    · refine .inr ?_
      rw [List.dropWhile_cons_of_neg hc]
      unfold isSpace at h
      split at h
      · contradiction
      · next heq =>
        rw [heq]
        rfl
      · next heq =>
        obtain ⟨rfl, rfl⟩ := List.cons.inj heq
        have hn : c = '\n' := by simpa [hc] using (Bool.and_eq_true_iff.1 h).1
        subst hn
        rfl

theorem all_dropWhile (w : List Char) : (w.dropWhile isIndent).all isIndent = w.all isIndent := by
  induction w with
  | nil => rfl
  | cons c w ih =>
    cases hc : isIndent c <;> simp [hc, ih]

theorem isBlank_of_isSpace {w : List Char} (h : isSpace w = true) (c : Char) (hc : c ∈ w) :
    c = ' ' ∨ c = '\t' ∨ true = true ∧ (c = '\n' ∨ c = '\r') := by
  fun_induction isSpace w with
  | case1 => simp at hc
  | case2 rest ih =>
    simp only [List.mem_cons] at hc
    rcases hc with rfl | rfl | hc
    · simp
    · simp
    · exact ih h hc
  | case3 d rest _ ih =>
    simp only [Bool.and_eq_true, Bool.or_eq_true, decide_eq_true_eq, isIndent] at h
    rcases List.mem_cons.1 hc with rfl | hc
    · rcases h.1 with (rfl | rfl) | rfl <;> simp
    · exact ih h.2 hc

theorem isSpace_dropWhile {w : List Char} (h : isSpace w = true) : isSpace (w.dropWhile isIndent) = true := by
  induction w with
  | nil => rfl
  | cons c w ih =>
    by_cases hc : isIndent c = true
    · rw [List.dropWhile_cons_of_pos hc]
      refine ih ?_
      unfold isSpace at h
      split at h
      · contradiction
      · simp_all [isIndent]
      · simp_all
    · rwa [List.dropWhile_cons_of_neg hc]

theorem lineEnd?_isSome {s : List Char} (h : (lineEnd? s).isSome = true) :
    (∃ r, s = '\n' :: r) ∨ ∃ r, s = '\r' :: '\n' :: r := by
  unfold lineEnd? at h
  split at h
  · exact .inl ⟨_, rfl⟩
  · exact .inr ⟨_, rfl⟩
  · simp at h

theorem lineEnd?_append {s : List Char} (h : (lineEnd? s).isSome = true) (r : List Char) :
    ∃ x, (∃ e, s = e ++ x) ∧ lineEnd? (s ++ r) = some (x ++ r) := by
  obtain ⟨x, rfl⟩ | ⟨x, rfl⟩ := lineEnd?_isSome h
  · exact ⟨x, ⟨['\n'], rfl⟩, rfl⟩
  · exact ⟨x, ⟨['\r', '\n'], rfl⟩, rfl⟩

theorem atLineEnd_append {s : List Char} (h : (lineEnd? s).isSome = true) (r : List Char) :
    atLineEnd (s ++ r) = true := by
  obtain ⟨x, rfl⟩ | ⟨x, rfl⟩ := lineEnd?_isSome h <;> rfl

/-- Inside of a line blanks are passed over up to the end of the line. -/
theorem blanks_false_space {w : List Char} (h : isSpace w = true) (s : List Char) :
    (blanks false (w ++ s)).2 =
      if w.all isIndent then (blanks false s).2 else w.dropWhile isIndent ++ s := by
  have hskip : ∀ u : List Char, u.all isIndent = true → ∀ r, (blanks false (u ++ r)).2 = (blanks false r).2 := by
    intro u hu r
    refine blanks_blanks (fun c hc => ?_) r
    have := List.all_eq_true.1 hu c hc
    simp only [isIndent, Bool.or_eq_true, decide_eq_true_eq] at this
    rcases this with rfl | rfl <;> simp
  split
  · next hw => exact hskip w hw s
  · next hw =>
    have hend := (isSpace_cases h).resolve_left (by simpa using hw)
    have hcut : w ++ s = w.takeWhile isIndent ++ (w.dropWhile isIndent ++ s) := by
      rw [← List.append_assoc, List.takeWhile_append_dropWhile]
    rw [hcut, hskip _ List.all_takeWhile, blanks_stop]
    obtain ⟨r, hr⟩ | ⟨r, hr⟩ := lineEnd?_isSome hend <;> rw [hr] <;> rfl

end Spaces

/-- Whether a token, a comment or the end of a line comes next. -/
def AtToken : List Cell → Prop
  | .space w w' :: cells => EndsLine (.space w w' :: cells)
  | .block _ _ :: _ => False
  | _ => True

theorem startsBlanks_code {c : Char} {v : List Char} (hc : isCode c = true) (ha : isApart c v.head? = true)
    (lines : Bool) : startsBlanks lines (c :: v) = false := by
  unfold startsBlanks
  split
  · next h => simp [(List.cons.inj h).1, isCode] at hc; exact absurd hc (by decide)
  · next h => simp [(List.cons.inj h).1, isCode] at hc; exact absurd hc (by decide)
  · next h => simp [(List.cons.inj h).1, isCode] at hc; exact absurd hc (by decide)
  · next h => simp [(List.cons.inj h).1, isCode] at hc; exact absurd hc (by decide)
  · next h => simp [(List.cons.inj h).1, isCode] at hc
  · next h => simp [(List.cons.inj h).1, (List.cons.inj h).2, isApart] at ha
  · next h => simp [(List.cons.inj h).1, (List.cons.inj h).2, isApart] at ha
  · rfl

theorem startsBlanks_literal {w : List Char} (h : startsLiteral w = true) (r : List Char) (lines : Bool) :
    startsBlanks lines (w ++ r) = false := by
  unfold startsLiteral at h
  split at h
  · rfl
  · rfl
  · simp at h

theorem startsBlanks_comment {w : List Char} (h : startsLineComment w = true) (r : List Char) :
    startsBlanks false (w ++ r) = false := by
  unfold startsLineComment at h
  split at h
  · rfl
  · rfl
  · simp at h

theorem EndsLine.atLineEnd {cells : List Cell} (h : EndsLine cells) :
    atLineEnd (lefts cells) = true ∧ atLineEnd (rights cells) = true := by
  match cells, h with
  | [], _ => exact ⟨rfl, rfl⟩
  | .space w w' :: cells, ⟨hw', hw⟩ =>
    refine ⟨?_, atLineEnd_append hw' _⟩
    rcases hw with hw | ⟨rfl, rfl⟩
    · exact atLineEnd_append hw _
    · rfl

theorem blanks_isBlock {w : List Char} (h : IsBlock w) (lines : Bool) (r : List Char) :
    (blanks lines (w ++ r)).2 = (blanks lines r).2 := by
  obtain ⟨v, x, rfl, hv⟩ := h
  exact blanks_block (blockComment?_append hv r)

/-- Blanks and comments are passed over in both texts alike. -/
theorem skip_cells {run : List Char} {cells : List Cell} (hl : Lexical run cells) (hs : Spaced run cells)
    (lines : Bool) : ∃ run' cells', (run' = run ∨ run' = []) ∧ Lexical run' cells' ∧ Spaced run' cells' ∧ AtToken cells' ∧
      (blanks lines (lefts cells)).2 = lefts cells' ∧ (blanks lines (rights cells)).2 = rights cells' := by
  induction cells generalizing run with
  | nil => exact ⟨run, [], .inl rfl, hl, hs, trivial, rfl, rfl⟩
  | cons cell cells ih =>
    have hnext : Lexical [] cells → Spaced [] cells → ∃ run' cells', (run' = run ∨ run' = []) ∧ Lexical run' cells' ∧
        Spaced run' cells' ∧ AtToken cells' ∧ (blanks lines (lefts cells)).2 = lefts cells' ∧
        (blanks lines (rights cells)).2 = rights cells' := by
      intro hl hs
      obtain ⟨run', cells', hrun, h⟩ := ih hl hs
      exact ⟨run', cells', .inr (hrun.elim id id), h⟩
    cases cell with
    | code c =>
      refine ⟨run, _, .inl rfl, hl, hs, trivial, ?_, ?_⟩
      · exact blanks_stop (startsBlanks_code hl.1 hl.2.1 lines)
      · exact blanks_stop (startsBlanks_code hl.1 hl.2.2.1 lines)
    | literal w =>
      refine ⟨run, _, .inl rfl, hl, hs, trivial, ?_, ?_⟩
      · exact blanks_stop (startsBlanks_literal hl.1.starts _ lines)
      · exact blanks_stop (startsBlanks_literal hl.1.starts _ lines)
    | block w w' =>
      simp only [lefts_cons, rights_cons, Cell.left, Cell.right, blanks_isBlock hl.1, blanks_isBlock hl.2.1]
      exact hnext hl.2.2.2 hs
    | comment w w' =>
      obtain ⟨hw, hw', -, -, hend, hcells⟩ := id hl
      cases lines with
      | false =>
        refine ⟨run, _, .inl rfl, hl, hs, trivial, ?_, ?_⟩
        · exact blanks_stop (startsBlanks_comment hw.starts _)
        · exact blanks_stop (startsBlanks_comment hw'.starts _)
      | true =>
        have hleft := lineComment?_append hw.starts hw.newline hw.carriage hend.atLineEnd.1
        have hright := lineComment?_append hw'.starts hw'.newline hw'.carriage hend.atLineEnd.2
        simp only [lefts_cons, rights_cons, Cell.left, Cell.right, blanks_comment hleft, blanks_comment hright]
        exact hnext hcells hs
    | space w w' =>
      obtain ⟨⟨hw, hw', -, hhead⟩, -, hcells⟩ := hl
      obtain ⟨hmay, hs⟩ := hs
      cases lines with
      | true =>
        simp only [lefts_cons, rights_cons, Cell.left, Cell.right, blanks_blanks (isBlank_of_isSpace hw),
          blanks_blanks (isBlank_of_isSpace hw')]
        exact hnext hcells hs
      | false =>
        simp only [lefts_cons, rights_cons, Cell.left, Cell.right, blanks_false_space hw, blanks_false_space hw']
        rcases hmay with ⟨hbreak', hbreak⟩ | ⟨hin, hin', -⟩
        · have hend' := (isSpace_cases hw').resolve_left (by simp [hbreak'])
          refine ⟨run, .space (w.dropWhile isIndent) (w'.dropWhile isIndent) :: cells, .inl rfl,
            ⟨⟨isSpace_dropWhile hw, isSpace_dropWhile hw', .inr ?_, hhead⟩, ?_, hcells⟩,
            ⟨.inl ⟨by rw [all_dropWhile, hbreak'], by rwa [all_dropWhile]⟩, hs⟩, ⟨hend', ?_⟩, ?_,
            by rw [if_neg (by simp [hbreak'])]; rfl⟩
          · intro hnil
            rw [hnil] at hend'
            simp [lineEnd?] at hend'
          · intro hall hnext
            have hin : w.all isIndent = true := by rw [← all_dropWhile, hall, List.all_nil]
            rw [hbreak.resolve_left (by simp [hin])] at hnext
            simp at hnext
          · rcases isSpace_cases hw with hin | hend
            · have hall := List.dropWhile_eq_nil_iff.2 (List.all_eq_true.1 hin)
              exact .inr ⟨hall, hbreak.resolve_left (by simp [hin])⟩
            · exact .inl hend
          · split
            · next hin =>
              have hall := List.dropWhile_eq_nil_iff.2 (List.all_eq_true.1 hin)
              obtain rfl := hbreak.resolve_left (by simp [hin])
              simpa [Cell.left, hall] using blanks_stop rfl
            · rfl
        · rw [if_pos hin, if_pos hin']
          exact hnext hcells hs

end Terrasmith.Source
