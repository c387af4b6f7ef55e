import Terrasmith.Proofs.Cells
import Terrasmith.Proofs.Locations
import Terrasmith.Proofs.Quotation

/-!
Texts that are read as one literal whatever follows them: string literals without interpolations, and heredocs of which
the lines are.
-/
namespace Terrasmith.Source

/-- A reader that has `k` rounds reads `u` as `a` in front of what is `behind` it, with more rounds too. With fewer it
reads nothing. -/
def ReadsUpTo {α : Type} (read : Nat → List Char → Option (α × List Char)) (u : List Char) (behind : List Char → Prop)
    (k : Nat) (a : α) : Prop :=
  ∀ n v, behind v → read n (u ++ v) = if k ≤ n then some (a, v) else none

section Strings

/-- A string literal that ends with its last character. -/
theorem isLiteral_of_plainString {v : List Char} {text : String}
    (h : ∀ r, plainString? ('"' :: (v ++ '"' :: r)) = some (text, r)) : IsLiteral ('"' :: (v ++ ['"'])) := by
  refine ⟨rfl, ⟨'"' :: v, '"', rfl, by decide⟩, .bare (.string text), fun n m op? r => ?_⟩
  have hread : ∀ n, term? (n + 1) m op? ('"' :: (v ++ ['"']) ++ r) =
      some ((applyPending op? (.bare (.string text)), m.lines), r) := by
    intro n
    have hplain := h r
    simp only [List.cons_append, List.append_assoc, List.nil_append] at hplain ⊢
    rw [term?.eq_def]
    simp only [hplain]
  cases n with
  | zero => exact ⟨fun x hx => (by cases hx), fun hn => absurd hn (by omega)⟩
  | succ n => exact ⟨fun x hx => Option.some.inj (hx.symm.trans (hread n)), fun _ => hread n⟩

/-- What is printed for a string. -/
theorem isLiteral_quote (text : String) : IsLiteral (quote text).toList := by
  have hplain := plainString?_quote text
  rw [toList_quote] at hplain ⊢
  exact isLiteral_of_plainString fun r => by simpa using hplain r

end Strings

section Heredocs

variable {name body margin : List Char}

/-- A heredoc with a delimiter on the line after its own lines. -/
def heredocText (dash : Bool) (name body margin : List Char) : List Char :=
  '<' :: '<' :: ((if dash then ['-'] else []) ++ (name ++ '\n' :: (body ++ '\n' :: (margin ++ name))))

/-- The newline in front of the line that closes a heredoc, and what follows it. -/
def Closing (name v : List Char) : Prop := v.head? = some '\n' ∧ closesHeredoc name v = true

theorem afterStart?_newline {chars : List Char} (hname : '\n' ∉ name) (r : List Char) :
    (Text.afterStart? name (chars ++ '\n' :: r)).isSome = (Text.afterStart? name (chars ++ ['\n'])).isSome := by
  induction chars generalizing name with
  | nil =>
    cases name with
    | nil => rfl
    | cons c name =>
      have hc : c ≠ '\n' := by
        rintro rfl
        exact hname List.mem_cons_self
      simp [Text.afterStart?, hc]
  | cons d chars ih =>
    cases name with
    | nil => rfl
    | cons c name =>
      simp only [List.cons_append, Text.afterStart?]
      split
      · exact ih fun hmem => hname (List.mem_cons_of_mem _ hmem)
      · rfl

/-- Whether a heredoc is closed does not depend on what follows the next newline but one. -/
theorem closesHeredoc_append {v : List Char} (hname : '\n' ∉ name) (hv : v ≠ []) (hreturn : v ≠ ['\r'])
    (r : List Char) : closesHeredoc name (v ++ '\n' :: r) = closesHeredoc name (v ++ ['\n']) := by
  have hindent : ∀ (x y : List Char), (x ++ '\n' :: y).dropWhile isIndent = x.dropWhile isIndent ++ '\n' :: y := by
    intro x y
    induction x with
    | nil => rfl
    | cons c x ih => cases hc : isIndent c <;> simp [hc, ih]
  have hline : ∀ x : List Char,
      closesHeredoc name ('\n' :: (x ++ '\n' :: r)) = closesHeredoc name ('\n' :: (x ++ ['\n'])) := fun x => by
    simp only [closesHeredoc, lineEnd?, hindent, afterStart?_newline hname r]
  have hnone : ∀ {x : List Char}, lineEnd? x = none → closesHeredoc name x = false := by
    intro x hx
    simp [closesHeredoc, hx]
  cases v with
  | nil => exact absurd rfl hv
  | cons c v =>
    by_cases hc : c = '\n'
    · subst hc
      exact hline v
    · by_cases hc' : c = '\r'
      · subst hc'
        cases v with
        | nil => exact absurd rfl hreturn
        | cons d v =>
          by_cases hd : d = '\n'
          · subst hd
            exact hline v
          · rw [hnone (by simp [lineEnd?, hd]), hnone (by simp [lineEnd?, hd])]
      · rw [hnone (by simp [lineEnd?, hc, hc']), hnone (by simp [lineEnd?, hc, hc'])]

/-- A name, such as the delimiter of a heredoc. -/
structure IsDelimiter (name : List Char) : Prop where
  start : ∃ c more, name = c :: more ∧ Text.isIdentStart c = true
  continues : ∀ c ∈ name, Text.isIdentContinue c = true

theorem IsDelimiter.ident? (h : IsDelimiter name) {r : List Char} (hr : ∀ c ∈ r.head?, Text.isIdentContinue c = false) :
    ident? (name ++ r) = some (String.ofList name, r) := by
  obtain ⟨c, more, rfl, hc⟩ := h.start
  obtain ⟨htake, hdrop⟩ := Layout.takeWhile_dropWhile_of_head (List.forall_mem_cons.mp h.continues).2 hr
  simp [Source.ident?, hc, htake, hdrop]

/-- What a heredoc is read as whose lines are read as `pieces`. -/
def heredocForm (dash : Bool) (name : List Char) (pieces : List Piece) (margin : List Char) : Written :=
  let pieces := appendText "\n" pieces
  let indent := if dash then commonIndent false pieces else 0
  .bare (.heredoc (String.ofList name) indent (if indent = 0 then pieces else dedent indent false pieces)
    (String.ofList margin))

theorem not_isIndent_of_isIdentStart {c : Char} (h : Text.isIdentStart c = true) : isIndent c = false ∧ c ≠ '-' := by
  refine ⟨?_, ?_⟩
  · by_contra hc
    rw [Bool.not_eq_false, isIndent, Bool.or_eq_true, decide_eq_true_eq, decide_eq_true_eq] at hc
    rcases hc with rfl | rfl <;> exact absurd h (by decide)
  · exact ne_of_isIdentStart h (by decide)

theorem not_isBlank_of_isIdentContinue {c : Char} (h : Text.isIdentContinue c = true) : Text.isBlank c = false := by
  by_contra hc
  rw [Bool.not_eq_false] at hc
  have hfalse : Text.isIdentContinue c = false := Layout.eq_false_of_isBlank (by decide +kernel) hc
  rw [hfalse] at h
  cases h

theorem IsDelimiter.newline_not_mem (h : IsDelimiter name) : '\n' ∉ name :=
  fun hmem => absurd (h.continues _ hmem) (by decide)

/-- The indentation before a delimiter, and what stands behind it. -/
theorem IsDelimiter.takeWhile_dropWhile (h : IsDelimiter name) (hmargin : ∀ c ∈ margin, isIndent c = true)
    (r : List Char) : (margin ++ (name ++ r)).takeWhile isIndent = margin ∧
      (margin ++ (name ++ r)).dropWhile isIndent = name ++ r := by
  obtain ⟨c, more, hcut, hc⟩ := h.start
  exact Layout.takeWhile_dropWhile_of_head hmargin (by simpa [hcut] using (not_isIndent_of_isIdentStart hc).1)

theorem closing_margin (hname : IsDelimiter name) (hmargin : ∀ c ∈ margin, isIndent c = true) (r : List Char) :
    Closing name ('\n' :: (margin ++ (name ++ r))) :=
  ⟨rfl, by simp [closesHeredoc, lineEnd?, (hname.takeWhile_dropWhile hmargin r).2, Text.afterStart?_append]⟩

variable {dash : Bool} {pieces : List Piece} {k : Nat}

/-- A heredoc is read whatever follows its delimiter. -/
theorem heredoc?_of_pieces (hname : IsDelimiter name) (hmargin : ∀ c ∈ margin, isIndent c = true)
    (hread : ReadsUpTo (pieces? · (.heredoc name)) body (Closing name) k pieces) (n : Nat) (r : List Char) :
    heredoc? (n + 1) ((if dash then ['-'] else []) ++ (name ++ '\n' :: (body ++ '\n' :: (margin ++ (name ++ r))))) =
      if k ≤ n then some (heredocForm dash name pieces margin, r) else none := by
  have hident := hname.ident? (r := '\n' :: (body ++ '\n' :: (margin ++ (name ++ r)))) (by simp; decide)
  obtain ⟨c, more, hcut, hc⟩ := hname.start
  obtain ⟨htake, hdrop⟩ := hname.takeWhile_dropWhile hmargin r
  have hpieces : pieces? n (.heredoc name) (body ++ '\n' :: (margin ++ (name ++ r))) =
      if k ≤ n then some (pieces, '\n' :: (margin ++ (name ++ r))) else none :=
    hread n _ (closing_margin hname hmargin r)
  generalize body ++ '\n' :: (margin ++ (name ++ r)) = behind at hident hpieces
  have hfirst : name ++ '\n' :: behind = c :: (more ++ '\n' :: behind) := by rw [hcut, List.cons_append]
  have hdash := (not_isIndent_of_isIdentStart hc).2
  rw [hfirst] at hident ⊢
  by_cases hn : k ≤ n
  · rw [if_pos hn] at hpieces ⊢
    cases dash with
    | true =>
      simp only [if_true, List.singleton_append, heredoc?, hident, Option.bind_eq_bind, Option.bind_some, lineEnd?,
        String.toList_ofList, hpieces, htake, hdrop, Text.afterStart?_append]
      rfl
    | false =>
      simp [heredoc?, hdash, hident, lineEnd?, hpieces, htake, hdrop, Text.afterStart?_append]
      rfl
  · rw [if_neg hn] at hpieces ⊢
    cases dash <;> simp [heredoc?, hdash, hident, lineEnd?, hpieces]

theorem term?_heredoc (n : Nat) (m : Manner) (op? : Option (UnaryOp × String)) (v : List Char) :
    term? (n + 1) m op? ('<' :: '<' :: v) =
      (heredoc? n v).bind fun x => some ((applyPending op? x.1, m.lines), x.2) := by
  rw [term?.eq_def]
  rfl

/-- A heredoc whose lines are read up to the one that closes it. -/
theorem isLiteral_heredoc (hname : IsDelimiter name) (hmargin : ∀ c ∈ margin, isIndent c = true)
    (hk : k ≤ 8 * body.length + 1) (hread : ReadsUpTo (pieces? · (.heredoc name)) body (Closing name) k pieces) :
    IsLiteral (heredocText dash name body margin) := by
  refine ⟨rfl, ?_, heredocForm dash name pieces margin, fun n m op? r => ?_⟩
  · obtain ⟨c, more, rfl, hc⟩ := hname.start
    have hlast := List.dropLast_append_getLast (List.cons_ne_nil c more)
    refine ⟨'<' :: '<' :: ((if dash then ['-'] else []) ++
      (c :: more ++ '\n' :: (body ++ '\n' :: (margin ++ (c :: more).dropLast)))), _, ?_,
      not_isBlank_of_isIdentContinue (hname.continues _ (List.getLast_mem (List.cons_ne_nil c more)))⟩
    conv_lhs => rw [heredocText]
    nth_rewrite 2 [← hlast]
    simp only [List.append_assoc, List.cons_append]
  · have hchars : heredocText dash name body margin ++ r = '<' :: '<' ::
        ((if dash then ['-'] else []) ++ (name ++ '\n' :: (body ++ '\n' :: (margin ++ (name ++ r))))) := by
      simp only [heredocText, List.append_assoc, List.cons_append]
    have hlength : body.length + 4 ≤ (heredocText dash name body margin ++ r).length := by
      simp only [hchars, List.length_cons, List.length_append]
      omega
    rw [hchars] at hlength ⊢
    rcases n with _ | _ | n
    · exact ⟨fun x hx => (by cases hx), fun hn => absurd hn (by omega)⟩
    · exact ⟨fun x hx => (by cases hx), fun hn => absurd hn (by omega)⟩
    · rw [term?_heredoc, heredoc?_of_pieces hname hmargin hread]
      by_cases hn : k ≤ n
      · rw [if_pos hn]
        exact ⟨fun x hx => (Option.some.inj hx).symm, fun _ => rfl⟩
      · rw [if_neg hn]
        exact ⟨fun x hx => (by cases hx), fun hrounds => absurd hrounds (by omega)⟩

end Heredocs

end Terrasmith.Source
