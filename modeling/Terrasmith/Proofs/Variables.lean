import Terrasmith.Proofs.CellAlignment
import Terrasmith.Proofs.Filling
import Terrasmith.Proofs.Formatting
import Terrasmith.Proofs.Parts

/-!
Names as values. An identifier that is none of the three literal words is read as the variable of that name, up to the
end of its line, and printed as it is.
-/
namespace Terrasmith.Source

open Text

/-- An identifier is read up to a character that ends it. -/
theorem ident?_append {x : String} (h : isIdentifier x = true) {rest : List Char} (hrest : Bound rest) :
    ident? (x.toList ++ rest) = some (x, rest) := by
  obtain ⟨c, v, hx, hc, hv⟩ := exists_cons_of_isIdentifier h
  obtain ⟨htake, hdrop⟩ := takeWhile_bound isIdentContinue_boundary hrest v
  have hall : v.takeWhile isIdentContinue = v := List.takeWhile_eq_self_iff.mpr hv
  have hnone : v.dropWhile isIdentContinue = [] := List.dropWhile_eq_nil_iff.mpr hv
  rw [hx, List.cons_append, ident?, if_pos hc, htake, hdrop, hall, hnone, ← hx, String.ofList_toList]
  rfl

theorem trimChars_identifier {x : String} (h : isIdentifier x = true) : trimChars x.toList = x.toList := by
  obtain ⟨c, v, hx, hc, hv⟩ := exists_cons_of_isIdentifier h
  have hstart {d : Char} (hd : isIdentStart d = true) : isBlank d = false := by
    by_contra hblank
    have hfalse : isIdentStart d = false := Layout.eq_false_of_isBlank (by decide +kernel) (by simpa using hblank)
    exact Bool.false_ne_true (hfalse.symm.trans hd)
  have hcontinue {d : Char} (hd : isIdentContinue d = true) : isBlank d = false := by
    by_contra hblank
    have hfalse : isIdentContinue d = false := Layout.eq_false_of_isBlank (by decide +kernel) (by simpa using hblank)
    exact Bool.false_ne_true (hfalse.symm.trans hd)
  rw [hx]
  refine trimChars_of_ends (fun d hd => ?_) fun d hd => ?_
  · obtain rfl : c = d := by simpa using hd
    exact hstart hc
  · rcases List.mem_cons.mp (List.mem_of_getLast? hd) with rfl | hd
    · exact hstart hc
    · exact hcontinue (hv d hd)

/-- A term or an operation does not start where an identifier does. -/
theorem ident_start {c : Char} (h : isIdentStart c = true) : c ∉ openers ∧ c.isDigit = false := by
  constructor
  · intro hc
    simp only [openers, List.mem_cons, List.not_mem_nil, or_false] at hc
    rcases hc with rfl | rfl | rfl | rfl | rfl | rfl | rfl <;> exact absurd h (by decide)
  · by_contra hdigit
    have hall : ∀ n ∈ [48, 49, 50, 51, 52, 53, 54, 55, 56, 57], isIdentStart (Char.ofNat n) = false := by
      decide +kernel
    have hc : c.toNat ∈ [48, 49, 50, 51, 52, 53, 54, 55, 56, 57] := by
      simp only [Char.isDigit, Bool.and_eq_true, decide_eq_true_eq, Bool.not_eq_false, ge_iff_le,
        UInt32.le_iff_toNat_le] at hdigit
      simp only [List.mem_cons, List.not_mem_nil, or_false]
      have hlow : 48 ≤ c.toNat := hdigit.1
      have hhigh : c.toNat ≤ 57 := hdigit.2
      omega
    have hfalse := hall _ hc
    rw [Char.ofNat_toNat, h] at hfalse
    cases hfalse

/-- The literal words. -/
def literalWords : List String := ["null", "true", "false"]

theorem named?_variable {n : Nat} {x : String} (hx : x ∉ literalWords) :
    named? (n + 1) {} [x] x ['\n'] = some ((.variable x, false), ['\n']) := by
  simp only [literalWords, List.mem_cons, List.not_mem_nil, or_false, not_or] at hx
  have hblanks : blanks false ['\n'] = ("", ['\n']) := by decide
  rw [named?.eq_def]
  dsimp only
  rw [hblanks]
  dsimp only
  split <;> simp_all

theorem more?_newline {n : Nat} (w : Written) : more? (n + 1) {} false w ['\n'] = some (w, ['\n']) := by
  have hblanks : blanks false ['\n'] = ("", ['\n']) := by decide
  rw [more?]
  dsimp only
  rw [hblanks]
  rfl

/-- An expression is a term alone if the line ends behind that. -/
theorem expression?_term {chars : List Char} {w : Written}
    (h : ∀ n, term? (n + 2) {} none chars = some ((w, false), ['\n'])) : expression? chars = some (w, ['\n']) := by
  have hfuel : readingFuel chars = 8 * (chars.length + 4) - 3 + 3 := by
    unfold readingFuel
    omega
  rw [expression?, hfuel, expr?, h]
  exact more?_newline (n := 8 * (chars.length + 4) - 3 + 1) _

theorem expression?_variable {x : String} (h : isIdentifier x = true) (hx : x ∉ literalWords) :
    expression? (x.toList ++ ['\n']) = some (.bare (.variable x), ['\n']) := by
  obtain ⟨c, v, hcons, hc, -⟩ := exists_cons_of_isIdentifier h
  obtain ⟨hopener, hdigit⟩ := ident_start hc
  have hident : ident? (x.toList ++ ['\n']) = some (x, ['\n']) := ident?_append h (by simp [Bound, boundaries])
  refine expression?_term fun n => ?_
  rw [hcons, List.cons_append, term?_plain hopener, if_neg (by simp [hdigit]), ← List.cons_append, ← hcons, hident]
  simp only [Option.bind_eq_bind, Option.bind_some, named?_variable hx]
  rfl

/-- The value of an attribute is read up to the end of the line. -/
theorem attributeRest?_value {value : List Char} {form : Form} (hstart : startsBlanks false (value ++ ['\n']) = false)
    (hvalue : expression? (value ++ ['\n']) = some (.bare form, ['\n'])) (size : Nat) (key : String)
    (start : List Char) :
    attributeRest? size "" key " " start (' ' :: (value ++ ['\n'])) =
      some ({ key, value := .bare form, span? := some (spanOf size start ['\n']) }, ['\n']) := by
  simp only [attributeRest?, blanks_space hstart, hvalue, Option.bind_eq_bind, Option.bind_some]
  rfl

/-- A body that is one line with an attribute is read as one attribute. -/
theorem structures?_oneLine {key : String} (hkey : isIdentifier key = true) {value : List Char} {form : Form}
    (hstart : startsBlanks false (value ++ ['\n']) = false)
    (hvalue : expression? (value ++ ['\n']) = some (.bare form, ['\n'])) (size n : Nat) :
    ∃ span?, structures? size (n + 2) [] false (key.toList ++ ' ' :: '=' :: ' ' :: (value ++ ['\n'])) =
      some (([.attribute { key, value := .bare form, span? }], "", false), []) := by
  obtain ⟨c, v, hcons, hc, -⟩ := exists_cons_of_isIdentifier hkey
  let behind : List Char := ' ' :: '=' :: ' ' :: (value ++ ['\n'])
  have hident : ident? (key.toList ++ behind) = some (key, behind) :=
    ident?_append hkey (by simp [behind, Bound, boundaries])
  have hsplit : key.toList ++ behind = c :: (v ++ behind) := by rw [hcons, List.cons_append]
  have htail : lineTail ['\n'] = ("", ['\n']) := by decide
  have hend (keys : List String) : structures? size (n + 1) keys false [] = some (([], "", false), []) := by
    rw [structures?_succ]
    rfl
  have hlead : blanks true (key.toList ++ behind) = ("", key.toList ++ behind) := by
    rw [hsplit]
    exact blanks_none (startsBlanks_ident hc _)
  have hattribute := attributeRest?_value hstart hvalue size key (key.toList ++ behind)
  refine ⟨some (spanOf size (key.toList ++ behind) ['\n']), ?_⟩
  change structures? size (n + 2) [] false (key.toList ++ behind) = _
  rw [structures?_succ, hlead]
  dsimp only
  split
  · exact absurd (hsplit.symm.trans ‹_›) (List.cons_ne_nil _ _)
  · obtain ⟨rfl, -⟩ := List.cons.inj (hsplit.symm.trans ‹_›)
    exact absurd hc (by decide)
  · simp only [hident, Option.bind_eq_bind, Option.bind_some, behind, blanks_sign, List.contains_nil,
      Bool.false_eq_true, if_false]
    rw [hattribute]
    simp only [Option.bind_some, structuresFrom?, htail, Structure.closed, nextLine?, lineEnd?, Option.map_some,
      Option.bind_eq_bind, hend]
    rfl

theorem source_variable {a : Attribute} {x : String} (h : isIdentifier x = true) (hlead : a.valueLead = " ")
    (hvalue : a.value = .bare (.variable x)) : a.source = x := by
  have htext : (" " ++ Written.text (.bare (.variable x))).toList = [' '] ++ x.toList ++ [] := by
    simp [Written.text, Written.print, Form.print, Written.bare, Page.write, Page.gap]
  have hblank : trimChars ([' '] ++ x.toList ++ []) = trimChars x.toList :=
    trimChars_blanks (List.forall_mem_singleton.mpr (by decide)) (List.forall_mem_nil _) _
  refine String.toList_inj.mp ?_
  rw [Attribute.source, trim, String.toList_ofList, hlead, hvalue, htext, hblank, trimChars_identifier h]

/-- A text that is read as one value up to the end of its line is read as an attribute of that value. -/
theorem parseAttribute_oneLine {key text : String} {form : Form} (hkey : isIdentifier key = true)
    (htrim : trimChars text.toList = text.toList) (hstart : startsBlanks false (text.toList ++ ['\n']) = false)
    (hvalue : expression? (text.toList ++ ['\n']) = some (.bare form, ['\n'])) :
    ∃ span?, parseAttribute key text = .ok { key, value := .bare form, span? } := by
  have hsource : (trim text).toList = text.toList := by rw [trim, String.toList_ofList, htrim]
  have hchars : (key ++ " = " ++ trim text ++ "\n").toList =
      key.toList ++ ' ' :: '=' :: ' ' :: (text.toList ++ ['\n']) := by
    simp [hsource]
  have hread := structures?_oneLine hkey hstart hvalue
  generalize key.toList ++ ' ' :: '=' :: ' ' :: (text.toList ++ ['\n']) = chars at hchars hread
  obtain ⟨span?, hread⟩ := hread (byteSize chars) (4 * chars.length + 14)
  have hparse : parse? (key ++ " = " ++ trim text ++ "\n") =
      some { structures := [.attribute { key, value := .bare form, span? }] } := by
    have hfuel : 4 * (chars.length + 4) = 4 * chars.length + 14 + 2 := by omega
    unfold parse?
    dsimp only
    rw [hchars, hfuel, hread]
    rfl
  refine ⟨span?, ?_⟩
  unfold parseAttribute
  rw [hparse]
  exact if_pos rfl

/-- A name that is no literal word is read as a variable. -/
theorem parseAttribute_variable {key x : String} (hkey : isIdentifier key = true) (h : isIdentifier x = true)
    (hx : x ∉ literalWords) :
    ∃ a, parseAttribute key x = .ok a ∧ a.key = key ∧ a.value = .bare (.variable x) ∧ a.source = x := by
  obtain ⟨c, v, hcons, hc, -⟩ := exists_cons_of_isIdentifier h
  have hstart : startsBlanks false (x.toList ++ ['\n']) = false := by
    rw [hcons, List.cons_append]
    exact startsBlanks_ident hc _
  obtain ⟨span?, hread⟩ :=
    parseAttribute_oneLine hkey (trimChars_identifier h) hstart (expression?_variable h hx)
  exact ⟨_, hread, rfl, rfl, source_variable h rfl rfl⟩

/-- Whether a text is read as the variable of its name. -/
def readsAsVariable (text : String) : Bool :=
  match parseExpression text with
  | .ok e =>
    match e.value.form with
    | .variable name => name = text
    | _ => false
  | .error _ => false

/-- All names but the literal words are variables. -/
theorem readsAsVariable_iff {x : String} (h : isIdentifier x = true) :
    readsAsVariable x = true ↔ x ∉ literalWords := by
  constructor
  · intro hreads hword
    simp only [literalWords, List.mem_cons, List.not_mem_nil, or_false] at hword
    rcases hword with rfl | rfl | rfl <;> exact absurd hreads (by decide +kernel)
  · intro hword
    have hkey : isIdentifier "value" = true := by decide
    obtain ⟨a, hread, -, hvalue, -⟩ := parseAttribute_variable hkey h hword
    have hparse : parseExpression x = .ok a.expression := by
      rw [parseExpression, hread]
      rfl
    have hform : a.expression.value.form = .variable x := congrArg Written.form hvalue
    delta readsAsVariable
    rw [hparse]
    dsimp only
    rw [hform]
    exact decide_eq_true rfl

end Terrasmith.Source
