import Terrasmith.Proofs.Insertion
import Terrasmith.Proofs.Variables
import Terrasmith.Source.Quote

/-!
Quotes. The literal of a text is read as the text. A sigil is doubled only right before a brace, so of several sigils in
a row only the last one is; read from the left, those in front of it still stand for themselves.
-/
namespace Terrasmith.Source

open Text

/-- How a single character is quoted. -/
def quoteChar : Char → List Char
  | '"' => ['\\', '"']
  | '\\' => ['\\', '\\']
  | '\n' => ['\\', 'n']
  | '\r' => ['\\', 'r']
  | '\t' => ['\\', 't']
  | c => [c]

theorem escapes_quoteChar : Escapes quoteChar := by
  intro c
  unfold quoteChar
  split
  · exact .inr ⟨['"'], rfl, fun _ => rfl, by decide, by decide⟩
  · exact .inr ⟨['\\'], rfl, fun _ => rfl, by decide, by decide⟩
  · exact .inr ⟨['n'], rfl, fun _ => rfl, by decide, by decide⟩
  · exact .inr ⟨['r'], rfl, fun _ => rfl, by decide, by decide⟩
  · exact .inr ⟨['t'], rfl, fun _ => rfl, by decide, by decide⟩
  · rename_i hquote hslash _ _ _
    exact .inl ⟨rfl, hquote, hslash⟩

/-- A text with the sigils doubled that stand right before a brace. -/
def doubleLast : List Char → List Char
  | [] => []
  | c :: rest => if isSigil c && rest.head? = some '{' then c :: c :: doubleLast rest else c :: doubleLast rest

/-- Sigils are doubled, then all characters are quoted one by one. -/
theorem quoteChars_eq (chars : List Char) : quoteChars chars = (doubleLast chars).flatMap quoteChar := by
  induction chars with
  | nil => rfl
  | cons c rest ih =>
    rw [quoteChars.eq_def, doubleLast]
    dsimp only
    split
    · simp [isSigil, quoteChar, ih]
    · simp [isSigil, quoteChar, ih]
    · simp [isSigil, quoteChar, ih]
    · simp [isSigil, quoteChar, ih]
    · simp [isSigil, quoteChar, ih]
    · have hself : quoteChar c = [c] := by
        unfold quoteChar
        split <;> simp_all
      rw [isSigil]
      split <;> simp [hself, ih]

theorem head?_doubleLast (chars : List Char) : (doubleLast chars).head? = chars.head? := by
  fun_cases doubleLast chars <;> rfl

theorem second_doubleLast {c : Char} (hc : isSigil c = true) (rest : List Char) {tail : List Char}
    (htail : tail.head? ≠ some '{') : (doubleLast (c :: rest) ++ tail).tail.head? ≠ some '{' := by
  rw [doubleLast]
  split
  · simpa using ne_brace_of_isSigil hc
  · rename_i hopens
    refine head?_append_ne ?_ htail
    rw [head?_doubleLast]
    simpa [hc] using hopens

/-- A brace in front belongs to no marker. -/
theorem Doubled.of_brace {text chars tail : List Char} (h : Doubled tail ('{' :: text) ('{' :: chars)) :
    Doubled tail text chars := by
  cases h with
  | marker sigil rest => cases sigil
  | char opens doubles rest => exact rest

/-- Whatever stands in a text, its markers are doubled. -/
theorem doubled_doubleLast {text tail : List Char} (h : Follows text tail) : Doubled tail text (doubleLast text) := by
  fun_induction doubleLast text with
  | case1 => exact .nil
  | case2 c rest hopens ih =>
    obtain ⟨hc, hhead⟩ : isSigil c = true ∧ rest.head? = some '{' := by simpa using hopens
    obtain ⟨rest, rfl⟩ := List.head?_eq_some_iff.mp hhead
    have hbrace : doubleLast ('{' :: rest) = '{' :: doubleLast rest := by
      rw [doubleLast, if_neg (by simp [isSigil])]
    have hrest := ih h.of_cons
    rw [hbrace] at hrest ⊢
    exact .marker hc hrest.of_brace
  | case3 c rest hopens ih =>
    refine .char (not_startsMarker (head?_doubleLast rest) hopens h.1)
      (not_startsDoubledMarker (head?_doubleLast rest) ?_ fun hc hd => ?_) (ih h.of_cons)
    · rintro rfl
      exact ⟨rfl, h.2 c rfl⟩
    · cases rest with
      | nil => cases hd
      | cons d more =>
        obtain rfl : d = c := Option.some.inj hd
        exact second_doubleLast hc more h.1

/-! ### Reading quotes -/

/-- The quote of a text. -/
theorem toList_quote (text : String) :
    (quote text).toList = '"' :: ((doubleLast text.toList).flatMap quoteChar ++ ['"']) := by
  rw [quote, String.toList_ofList, quoteChars_eq]

/-- A quote is a string literal, whatever comes behind it. -/
theorem plainString?_quote (text : String) (rest : List Char) :
    plainString? ((quote text).toList ++ rest) = some (text, rest) := by
  rw [toList_quote, List.cons_append, List.append_assoc, List.singleton_append]
  exact plainString?_doubled escapes_quoteChar (doubled_doubleLast (follows_quote text.toList rest))

theorem trimChars_quote (text : String) : trimChars (quote text).toList = (quote text).toList := by
  rw [toList_quote]
  refine trimChars_of_ends (fun c hc => ?_) fun c hc => ?_
  · cases hc
    decide
  · rw [← List.cons_append, List.getLast?_concat] at hc
    cases hc
    decide

/-- Up to the end of its line a quote is read as the string. -/
theorem expression?_quote (text : String) :
    expression? ((quote text).toList ++ ['\n']) = some (.bare (.string text), ['\n']) := by
  have hplain := plainString?_quote text ['\n']
  refine expression?_term fun n => ?_
  rw [toList_quote, List.cons_append] at hplain ⊢
  simp only [term?, hplain]
  rfl

theorem parseExpression_quote (text : String) :
    parseExpression (quote text) = .ok ⟨" ", .bare (.string text)⟩ := by
  have hstart : startsBlanks false ((quote text).toList ++ ['\n']) = false := by
    rw [toList_quote]
    rfl
  have hkey : isIdentifier "value" = true := by decide
  obtain ⟨span?, hread⟩ := parseAttribute_oneLine hkey (trimChars_quote text) hstart (expression?_quote text)
  rw [parseExpression, hread]
  rfl

/-- A quote is read as a plain string, which has the text as its value everywhere. No two texts have the same quote. -/
theorem quote_inverse :
    (∀ text, ∃ e, parseExpression (quote text) = .ok e ∧ e.lead = " " ∧ e.value = .bare (.string text) ∧
      ∀ scope, e.value.expr.evaluate scope = .ok (.string text)) ∧
    Function.Injective quote := by
  refine ⟨fun text => ⟨_, parseExpression_quote text, rfl, rfl, fun _ => rfl⟩, fun s t h => ?_⟩
  have hs := parseExpression_quote s
  rw [h, parseExpression_quote t] at hs
  cases hs
  rfl

/-- Of several sigils before a brace the last one is doubled. -/
example : quote "$$\x7ba\x7d %$\x7bb\x7d" = "\"$$$\x7ba\x7d %$$\x7bb\x7d\"" := by decide +kernel

end Terrasmith.Source
