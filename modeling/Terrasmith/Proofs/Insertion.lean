import Mathlib.Tactic.IntervalCases
import Terrasmith.Proofs.LazyCalls

/-!
Texts in templates. Literal texts are printed with their markers doubled, and strings as literals between quotes. Both
read back as they are, unless behind its first marker a text has one right behind another sigil (`clear`): that one is
not doubled.
-/
namespace Terrasmith

namespace Text

/-- No marker stands right behind a sigil that is read together with the sigil of the marker. -/
def clearLater : List Char → Bool
  | [] => true
  | [_] => true
  | c :: d :: rest =>
    if isSigil c then (d = '{' || !(isSigil d && rest.head? = some '{')) && clearLater rest
    else clearLater (d :: rest)

/-- Whether all markers of a text are doubled. The first one always is. -/
def clear : List Char → Bool
  | [] => true
  | c :: rest => if isSigil c && rest.head? = some '{' then clearLater rest.tail else clear rest

end Text

namespace Source

open Text

theorem startsMarker_cons (c : Char) (rest : List Char) :
    startsMarker (c :: rest) = (isSigil c && rest.head? = some '{') := by
  cases rest with
  | nil => simp [startsMarker]
  | cons d rest =>
    by_cases hc : c = '$'
    · subst hc
      by_cases hd : d = '{' <;> simp [startsMarker, isSigil, hd]
    · by_cases hc' : c = '%'
      · subst hc'
        by_cases hd : d = '{' <;> simp [startsMarker, isSigil, hd]
      · simp [startsMarker, isSigil, hc, hc']

theorem startsDoubledMarker_cons (c : Char) (rest : List Char) :
    startsDoubledMarker (c :: rest) = (isSigil c && rest.head? = some c && rest.tail.head? = some '{') := by
  cases rest with
  | nil => simp [startsDoubledMarker]
  | cons d rest =>
    cases rest with
    | nil => simp [startsDoubledMarker]
    | cons e rest =>
      by_cases hc : c = '$'
      · subst hc
        by_cases hd : d = '$' <;> by_cases he : e = '{' <;> simp [startsDoubledMarker, isSigil, hd, he]
      · by_cases hc' : c = '%'
        · subst hc'
          by_cases hd : d = '%' <;> by_cases he : e = '{' <;> simp [startsDoubledMarker, isSigil, hd, he]
        · simp [startsDoubledMarker, isSigil, hc, hc']

/-- A text and how it is written with doubled markers before `tail`: what is no doubled marker opens none. -/
inductive Doubled (tail : List Char) : List Char → List Char → Prop where
  | nil : Doubled tail [] []
  | marker {c : Char} {text chars : List Char} (sigil : isSigil c = true) (rest : Doubled tail text chars) :
      Doubled tail (c :: '{' :: text) (c :: c :: '{' :: chars)
  | char {c : Char} {text chars : List Char} (opens : startsMarker (c :: (chars ++ tail)) = false)
      (doubles : startsDoubledMarker (c :: (chars ++ tail)) = false) (rest : Doubled tail text chars) :
      Doubled tail (c :: text) (c :: chars)

/-- What may follow a text: no brace, and no marker of the sigil that the text ends in. -/
def Follows (text tail : List Char) : Prop :=
  tail.head? ≠ some '{' ∧ ∀ c ∈ text.getLast?, startsDoubledMarker (c :: tail) = false

theorem Follows.of_cons {c : Char} {text tail : List Char} (h : Follows (c :: text) tail) : Follows text tail := by
  refine ⟨h.1, fun d hd => h.2 d ?_⟩
  cases text with
  | nil => cases hd
  | cons e rest => simpa using hd

theorem head?_doubleLater (chars : List Char) : (doubleLater chars).head? = chars.head? := by
  fun_cases doubleLater chars <;> rfl

theorem head?_doubleMarkers (chars : List Char) : (doubleMarkers chars).head? = chars.head? := by
  fun_cases doubleMarkers chars <;> rfl

theorem head?_append_ne {chars tail : List Char} (h : chars.head? ≠ some '{') (htail : tail.head? ≠ some '{') :
    (chars ++ tail).head? ≠ some '{' := by
  cases chars with
  | nil => exact htail
  | cons c rest => exact h

theorem ne_brace_of_isSigil {c : Char} (h : isSigil c = true) : c ≠ '{' := by
  rintro rfl
  cases h

/-- Behind a sigil there is never a single marker. -/
theorem second_doubleLater {c : Char} (hc : isSigil c = true) (rest : List Char) {tail : List Char}
    (htail : tail.head? ≠ some '{') : (doubleLater (c :: rest) ++ tail).tail.head? ≠ some '{' := by
  cases rest with
  | nil => exact htail
  | cons d rest =>
    rw [doubleLater, if_pos hc]
    split
    · simpa using ne_brace_of_isSigil hc
    · rename_i hd
      simpa using hd

theorem second_doubleMarkers {c : Char} (hc : isSigil c = true) (rest : List Char) {tail : List Char}
    (htail : tail.head? ≠ some '{') : (doubleMarkers (c :: rest) ++ tail).tail.head? ≠ some '{' := by
  rw [doubleMarkers]
  split
  · simpa using ne_brace_of_isSigil hc
  · rename_i hopens
    refine head?_append_ne ?_ htail
    rw [head?_doubleMarkers]
    simpa [hc] using hopens

/-- A character whose followers open no marker with it. -/
theorem not_startsMarker {c : Char} {chars text tail : List Char} (hhead : chars.head? = text.head?)
    (hopens : ¬ (isSigil c && text.head? = some '{') = true) (htail : tail.head? ≠ some '{') :
    startsMarker (c :: (chars ++ tail)) = false := by
  rw [startsMarker_cons]
  cases hc : isSigil c with
  | false => rfl
  | true =>
    have hnext : (chars ++ tail).head? ≠ some '{' := head?_append_ne (by rw [hhead]; simpa [hc] using hopens) htail
    simpa using hnext

/-- A character whose followers open no doubled marker with it. -/
theorem not_startsDoubledMarker {c : Char} {chars text tail : List Char} (hhead : chars.head? = text.head?)
    (hfollows : text = [] → chars = [] ∧ startsDoubledMarker (c :: tail) = false)
    (hsecond : isSigil c = true → text.head? = some c → (chars ++ tail).tail.head? ≠ some '{') :
    startsDoubledMarker (c :: (chars ++ tail)) = false := by
  cases text with
  | nil =>
    obtain ⟨rfl, htail⟩ := hfollows rfl
    exact htail
  | cons d rest =>
    rw [startsDoubledMarker_cons]
    have hhead' : (chars ++ tail).head? = some d := by
      cases chars with
      | nil => cases hhead
      | cons e more => simpa using hhead
    rw [hhead']
    by_cases hdc : d = c
    · subst hdc
      cases hc : isSigil d with
      | false => rfl
      | true => simpa using hsecond hc rfl
    · simp [hdc]

theorem doubled_doubleLater {text tail : List Char} (hclear : clearLater text = true) (h : Follows text tail) :
    Doubled tail text (doubleLater text) := by
  fun_induction doubleLater text with
  | case1 => exact .nil
  | case2 c =>
    refine .char ?_ (h.2 c rfl) .nil
    simp [startsMarker_cons, h.1]
  | case3 c rest hc ih =>
    rw [clearLater, if_pos hc] at hclear
    exact .marker hc (ih (by simpa using hclear) h.of_cons.of_cons)
  | case4 c d rest hc hd ih =>
    rw [clearLater, if_pos hc] at hclear
    obtain ⟨hbehind, hrest⟩ : (isSigil d = true → rest.head? ≠ some '{') ∧ clearLater rest = true := by
      simpa [hd, or_iff_not_imp_left] using hclear
    have hnext : isSigil d = true → (doubleLater rest ++ tail).head? ≠ some '{' := fun hsigil =>
      head?_append_ne (by rw [head?_doubleLater]; exact hbehind hsigil) h.1
    refine .char ?_ ?_ (.char ?_ ?_ (ih hrest h.of_cons.of_cons))
    · simpa [startsMarker_cons, hc] using hd
    · rw [startsDoubledMarker_cons]
      by_cases hcd : d = c
      · subst hcd
        simpa [hc] using hnext hc
      · simp [hcd]
    · rw [startsMarker_cons]
      cases hsigil : isSigil d with
      | false => rfl
      | true => simpa using hnext hsigil
    · refine not_startsDoubledMarker (head?_doubleLater rest) ?_ ?_
      · rintro rfl
        exact ⟨rfl, h.2 d rfl⟩
      · intro hsigil hhead
        cases rest with
        | nil => cases hhead
        | cons e more =>
          cases hhead
          exact second_doubleLater hsigil more h.1
  | case5 c d rest hc ih =>
    rw [clearLater, if_neg hc] at hclear
    refine .char ?_ ?_ (ih hclear h.of_cons)
    · simp [startsMarker_cons, hc]
    · simp [startsDoubledMarker_cons, hc]

/-- Clear texts are written so that their markers are doubled. -/
theorem doubled_doubleMarkers {text tail : List Char} (hclear : clear text = true) (h : Follows text tail) :
    Doubled tail text (doubleMarkers text) := by
  fun_induction doubleMarkers text with
  | case1 => exact .nil
  | case2 c rest hopens =>
    rw [clear, if_pos hopens] at hclear
    obtain ⟨hc, hhead⟩ : isSigil c = true ∧ rest.head? = some '{' := by simpa using hopens
    obtain ⟨rest, rfl⟩ := List.head?_eq_some_iff.mp hhead
    exact .marker hc (doubled_doubleLater hclear h.of_cons.of_cons)
  | case3 c rest hopens ih =>
    rw [clear, if_neg hopens] at hclear
    refine .char (not_startsMarker (head?_doubleMarkers rest) hopens h.1) ?_ (ih hclear h.of_cons)
    refine not_startsDoubledMarker (head?_doubleMarkers rest) ?_ ?_
    · rintro rfl
      exact ⟨rfl, h.2 c rfl⟩
    · intro hsigil hhead
      cases rest with
      | nil => cases hhead
      | cons e more =>
        cases hhead
        exact second_doubleMarkers hsigil more h.1

/-! Reading literals without escapes -/

theorem startsDoubledMarker_double {c : Char} (hc : isSigil c = true) (rest : List Char) :
    startsDoubledMarker (c :: c :: '{' :: rest) = true := by
  simp [startsDoubledMarker_cons, hc]

theorem not_startsDoubledMarker_of_startsMarker {chars : List Char} (h : startsMarker chars = true) :
    startsDoubledMarker chars = false := by
  cases chars with
  | nil => cases h
  | cons c rest =>
    rw [startsMarker_cons] at h
    obtain ⟨hc, hhead⟩ : isSigil c = true ∧ rest.head? = some '{' := by simpa using h
    have hne := ne_brace_of_isSigil hc
    simp [startsDoubledMarker_cons, hhead, hne.symm]

/-- A run of text goes up to the next doubled marker or to the end. -/
theorem textRun?_doubled {text chars tail : List Char} (h : Doubled tail text chars)
    (htail : tail = [] ∨ startsMarker tail = true) :
    ∃ first rest chars', text = first ++ rest ∧ textRun? List.isEmpty (chars ++ tail) = some (first, chars' ++ tail) ∧
      Doubled tail rest chars' ∧ chars'.length ≤ chars.length := by
  induction h with
  | nil =>
    refine ⟨[], [], [], rfl, ?_, .nil, Nat.le_refl 0⟩
    rcases htail with rfl | htail
    · rfl
    · cases tail with
      | nil => rfl
      | cons c rest => simp [textRun?, htail]
  | @marker c text chars hc rest ih =>
    refine ⟨[], _, _, rfl, ?_, .marker hc rest, Nat.le_refl _⟩
    simp [textRun?, startsDoubledMarker_double hc]
  | @char c text chars opens doubles rest ih =>
    obtain ⟨first, more, chars', rfl, hrun, hmore, hlength⟩ := ih
    refine ⟨c :: first, more, chars', rfl, ?_, hmore, Nat.le_succ_of_le hlength⟩
    simp [textRun?, opens, doubles, hrun]

theorem rawRun_doubled {text chars tail : List Char} (h : Doubled tail text chars)
    (htail : tail = [] ∨ startsMarker tail = true) {fuel : Nat} (hfuel : chars.length < fuel) :
    rawRun List.isEmpty fuel (chars ++ tail) = (text, tail) := by
  induction fuel generalizing text chars with
  | zero => omega
  | succ fuel ih =>
    cases h with
    | nil =>
      rcases htail with rfl | htail
      · rfl
      · cases tail with
        | nil => rfl
        | cons c rest =>
          rw [List.nil_append, rawRun, if_neg (by simp [not_startsDoubledMarker_of_startsMarker htail])]
          simp [textRun?, htail]
    | @marker c text chars hc rest =>
      rw [List.cons_append, List.cons_append, List.cons_append, rawRun, if_pos (startsDoubledMarker_double hc _)]
      have hrest := ih rest (by simp at hfuel; omega)
      simp [hrest]
    | @char c text chars opens doubles rest =>
      obtain ⟨first, more, chars', rfl, hrun, hmore, hlength⟩ := textRun?_doubled rest htail
      have htext : textRun? List.isEmpty (c :: (chars ++ tail)) = some (c :: first, chars' ++ tail) := by
        simp [textRun?, opens, doubles, hrun]
      have hrest := ih hmore (by simp at hfuel; omega)
      rw [List.cons_append, rawRun, if_neg (by simp [doubles]), htext]
      simp [hrest]

/-! Reading string literals -/

/-- The code of a control character. -/
theorem hexCode {n : Nat} (hn : n < 32) :
    (∀ rest, escape? (['u', '0', '0', hexDigit false (n / 16), hexDigit false (n % 16)] ++ rest) =
      some (Char.ofNat n, rest)) ∧ isSigil (Char.ofNat n) = false ∧ Char.ofNat n ≠ '{' := by
  interval_cases n <;> exact ⟨fun _ => rfl, by decide, by decide⟩

/-- How characters are written in a string literal: each as itself, or as an escape that denotes it. -/
def Escapes (escape : Char → List Char) : Prop :=
  ∀ c, escape c = [c] ∧ c ≠ '"' ∧ c ≠ '\\' ∨
    ∃ code, escape c = '\\' :: code ∧ (∀ rest, escape? (code ++ rest) = some (c, rest)) ∧
      isSigil c = false ∧ c ≠ '{'

theorem escapes_char : Escapes Display.escapes.char := by
  intro c
  unfold EscapeFormat.char
  split
  · exact .inr ⟨['"'], rfl, fun _ => rfl, by decide, by decide⟩
  · exact .inr ⟨['\\'], rfl, fun _ => rfl, by decide, by decide⟩
  · exact .inr ⟨['n'], rfl, fun _ => rfl, by decide, by decide⟩
  · exact .inr ⟨['r'], rfl, fun _ => rfl, by decide, by decide⟩
  · exact .inr ⟨['t'], rfl, fun _ => rfl, by decide, by decide⟩
  · rename_i hquote hslash _ _ _
    have hc : c = Char.ofNat c.toNat := (Char.ofNat_toNat c).symm
    split
    · rename_i h
      rw [h] at hc
      subst hc
      exact .inr ⟨['b'], rfl, fun _ => rfl, by decide, by decide⟩
    · split
      · rename_i h
        rw [h] at hc
        subst hc
        exact .inr ⟨['f'], rfl, fun _ => rfl, by decide, by decide⟩
      · split
        · rename_i h
          have hlt : c.toNat < 32 := by simpa [Display.escapes] using h
          have hcode := hexCode hlt
          rw [← hc] at hcode
          exact .inr ⟨_, rfl, hcode⟩
        · exact .inl ⟨rfl, hquote, hslash⟩

section Escapes

variable {escape : Char → List Char}

/-- Sigils and braces are written as they are. -/
theorem Escapes.self (h : Escapes escape) {c : Char} (hc : isSigil c = true ∨ c = '{') : escape c = [c] := by
  rcases h c with ⟨hself, -, -⟩ | ⟨code, -, -, hsigil, hbrace⟩
  · exact hself
  · rcases hc with hc | hc
    · simp [hc] at hsigil
    · exact absurd hc hbrace

/-- Escapes hide no sigil and no brace, and make none. -/
theorem startsMarker_escaped (h : Escapes escape) (c : Char) (chars more : List Char) :
    startsMarker (c :: (chars.flatMap escape ++ '"' :: more)) =
      startsMarker (c :: (chars ++ '"' :: more)) := by
  rw [startsMarker_cons, startsMarker_cons]
  cases chars with
  | nil => rfl
  | cons d rest =>
    rw [List.flatMap_cons]
    rcases h d with ⟨hd, -, -⟩ | ⟨code, hd, -, -, hbrace⟩
    · rw [hd]
      rfl
    · rw [hd]
      simp [hbrace]

theorem startsDoubledMarker_escaped (h : Escapes escape) (c : Char) (chars more : List Char) :
    startsDoubledMarker (c :: (chars.flatMap escape ++ '"' :: more)) =
      startsDoubledMarker (c :: (chars ++ '"' :: more)) := by
  cases chars with
  | nil => rfl
  | cons d rest =>
    have hsecond := startsMarker_escaped h d rest more
    rw [startsDoubledMarker_cons, startsDoubledMarker_cons]
    rw [startsMarker_cons, startsMarker_cons] at hsecond
    rw [List.flatMap_cons]
    rcases h d with ⟨hd, -, -⟩ | ⟨code, hd, -, hsigil, hbrace⟩
    · rw [hd]
      by_cases hdc : d = c
      · subst hdc
        cases hs : isSigil d with
        | false => rfl
        | true => simpa [hs] using hsecond
      · simp [hdc]
    · rw [hd]
      by_cases hdc : d = c
      · subst hdc
        simp [hsigil]
      · cases hs : isSigil c with
        | false => rfl
        | true =>
          have hslash : '\\' ≠ c := by
            rintro rfl
            cases hs
          simp [hdc, hslash]

/-- A string literal with doubled markers and escapes reads as the text. -/
theorem quotedRun_doubled (hescape : Escapes escape) {text chars more : List Char}
    (h : Doubled ('"' :: more) text chars) (started : Bool) {fuel : Nat} (hfuel : chars.length < fuel) :
    quotedRun fuel started (chars.flatMap escape ++ '"' :: more) = (text, '"' :: more) := by
  induction h generalizing fuel started with
  | nil =>
    cases fuel with
    | zero => omega
    | succ fuel => simp [quotedRun]
  | @marker c text chars hc rest ih =>
    cases fuel with
    | zero => omega
    | succ fuel =>
      have hself : escape c = [c] := hescape.self (.inl hc)
      have hquote : c ≠ '"' := by
        rintro rfl
        cases hc
      have hbrace : escape '{' = ['{'] := hescape.self (.inr rfl)
      have hmarker : startsMarker (c :: c :: '{' :: (chars.flatMap escape ++ '"' :: more)) = false := by
        simp [startsMarker_cons, ne_brace_of_isSigil hc]
      have hrest := @ih true fuel (by simp at hfuel; omega)
      simp only [List.flatMap_cons, hself, hbrace, List.cons_append, List.nil_append]
      rw [quotedRun, if_neg (by simp [hquote, hmarker]), if_pos (startsDoubledMarker_double hc _)]
      simp [hrest]
  | @char c text chars opens doubles rest ih =>
    cases fuel with
    | zero => omega
    | succ fuel =>
      have hrest := @ih true fuel (by simp at hfuel; omega)
      rw [List.flatMap_cons]
      rcases hescape c with ⟨hc, hquote, hslash⟩ | ⟨code, hc, hcode, -, -⟩
      · rw [hc, List.append_assoc, List.singleton_append, quotedRun, startsMarker_escaped hescape, opens,
          startsDoubledMarker_escaped hescape, doubles]
        simp [hquote, hslash, hrest]
      · rw [hc, List.append_assoc, List.cons_append, quotedRun, if_neg, if_neg, if_pos rfl, hcode]
        · simp [hrest]
        · simp [startsDoubledMarker_cons, isSigil]
        · simp [startsMarker_cons, isSigil]

theorem Escapes.length_le (h : Escapes escape) (chars : List Char) : chars.length ≤ (chars.flatMap escape).length := by
  induction chars with
  | nil => simp
  | cons c rest ih =>
    rw [List.flatMap_cons, List.length_append, List.length_cons]
    have hchar : 1 ≤ (escape c).length := by
      rcases h c with ⟨hc, -, -⟩ | ⟨code, hc, -, -, -⟩ <;> simp [hc]
    omega

/-- A text between quotes, with doubled markers and escapes, is the literal of the text. -/
theorem plainString?_doubled (hescape : Escapes escape) {text : String} {chars rest : List Char}
    (h : Doubled ('"' :: rest) text.toList chars) :
    plainString? ('"' :: (chars.flatMap escape ++ '"' :: rest)) = some (text, rest) := by
  have hlength := hescape.length_le chars
  have hchars : quotedChars (chars.flatMap escape ++ '"' :: rest) = (text.toList, '"' :: rest) :=
    quotedRun_doubled hescape h false (by rw [List.length_append]; omega)
  simp [plainString?, hchars]

end Escapes

/-- The characters of the literal of a string. -/
def literalChars (text : String) : List Char :=
  '"' :: ((doubleMarkers text.toList).flatMap Display.escapes.char ++ ['"'])

theorem toList_stringLiteral (text : String) : (Display.stringLiteral text).toList = literalChars text := by
  simp [Display.stringLiteral, EscapeFormat.literal, EscapeFormat.inside, doubled, literalChars]

theorem follows_quote (text rest : List Char) : Follows text ('"' :: rest) := by
  refine ⟨by simp, fun c _ => ?_⟩
  rw [startsDoubledMarker_cons]
  cases hs : isSigil c with
  | false => rfl
  | true =>
    have hquote : '"' ≠ c := by
      rintro rfl
      cases hs
    simp [hquote]

theorem plainString?_literal {text : String} (h : clear text.toList = true) (rest : List Char) :
    plainString? (literalChars text ++ rest) = some (text, rest) := by
  have hdoubled := doubled_doubleMarkers h (follows_quote text.toList rest)
  simpa [literalChars] using plainString?_doubled escapes_char hdoubled

/-! Reading templates -/

theorem blanks_of_ne {c : Char} (hspace : c ≠ ' ' ∧ c ≠ '\t' ∧ c ≠ '\n' ∧ c ≠ '\r') (hslash : c ≠ '/') (hhash : c ≠ '#')
    (rest : List Char) : blanks true (c :: rest) = ("", c :: rest) := by
  have hcomment : startsLineComment (c :: rest) = false := by
    unfold startsLineComment
    split <;> simp_all
  simp [blanks, blanksFrom, hspace, hslash, lineComment?, hcomment]

/-- A string literal in an interpolation is read as the string, up to the end of the interpolation. -/
theorem padded?_literal {text : String} (h : clear text.toList = true) {c : Char} (hc : c = '~' ∨ c = '}')
    (rest : List Char) (fuel : Nat) :
    padded? (fuel + 4) .enclosed (literalChars text ++ c :: rest) =
      some (.mk "" (.string text) "", c :: rest) := by
  have hstart : blanks true (literalChars text ++ c :: rest) = ("", literalChars text ++ c :: rest) :=
    blanks_of_ne (by decide) (by decide) (by decide) _
  have hstop : blanks true (c :: rest) = ("", c :: rest) := by
    rcases hc with rfl | rfl <;> exact blanks_of_ne (by decide) (by decide) (by decide) rest
  have hterm : term? (fuel + 2) .enclosed none (literalChars text ++ c :: rest) =
      some ((.bare (.string text), true), c :: rest) := by
    have hplain := plainString?_literal h (c :: rest)
    rw [literalChars, List.cons_append] at hplain ⊢
    simp only [term?, hplain]
    rfl
  have hmore : more? (fuel + 2) .enclosed false (.bare (.string text)) (c :: rest) =
      some (.bare (.string text), c :: rest) := by
    rw [more?]
    simp only [Manner.enclosed, hstop]
    rcases hc with rfl | rfl <;> rfl
  simp only [padded?, expr?, hstart, hterm, Option.bind_eq_bind, Option.bind_some]
  have hmore' : more? (fuel + 2) { Manner.enclosed with lines := true } false (.bare (.string text)) (c :: rest) =
      some (.bare (.string text), c :: rest) := hmore
  simp only [hmore', Option.bind_some, hstop]
  rfl

/-- Literals and strings only, all of them clear. Literals are not empty and stand apart, and none before a string ends
in the sigil of its interpolation. -/
def isPlain : List Element → Bool
  | [] => true
  | [.literal text] => text ≠ "" && clear text.toList
  | .literal text :: .interpolation e strip :: rest =>
    text ≠ "" && clear text.toList && text.toList.getLast? ≠ some '$' && isPlain (.interpolation e strip :: rest)
  | .interpolation (.string text) _ :: rest => clear text.toList && isPlain rest
  | _ => false

/-- The end of an interpolation. -/
def closingChars (strip : Strip) : List Char := if strip.after then ['~', '}'] else ['}']

theorem toList_interpolation (text : String) (strip : Strip) (rest : List Element) :
    (Display.elementsText (.interpolation (.string text) strip :: rest)).toList =
      '$' :: '{' :: ((if strip.before then ['~'] else []) ++ (literalChars text ++
        (closingChars strip ++ (Display.elementsText rest).toList))) := by
  have hexpr : (Display.expr 0 false (.string text)).text = Display.stringLiteral text := rfl
  rw [Display.elementsText, Display.elementText, hexpr]
  simp only [String.toList_append, toList_stringLiteral, Display.opening, Display.closing, closingChars]
  cases strip.before <;> cases strip.after <;> simp

theorem toList_literal (text : String) (rest : List Element) :
    (Display.elementsText (.literal text :: rest)).toList =
      doubleMarkers text.toList ++ (Display.elementsText rest).toList := by
  rw [Display.elementsText, Display.elementText, String.toList_append]
  simp [doubled]

theorem pieces?_interpolation {text : String} (h : clear text.toList = true) (strip : Strip) (rest : List Char)
    (fuel : Nat) :
    pieces? (fuel + 5) .bare ('$' :: '{' :: ((if strip.before then ['~'] else []) ++ (literalChars text ++
        (closingChars strip ++ rest)))) =
      (pieces? (fuel + 4) .bare rest).map fun (more, rest) =>
        (.interpolation strip (.mk "" (.string text) "") :: more, rest) := by
  have hclosing : ∃ c more, closingChars strip ++ rest = c :: more ∧ (c = '~' ∨ c = '}') := by
    unfold closingChars
    cases strip.after with
    | false => exact ⟨'}', rest, rfl, .inr rfl⟩
    | true => exact ⟨'~', '}' :: rest, rfl, .inl rfl⟩
  have hstop : closing? (closingChars strip ++ rest) = some (strip.after, rest) := by
    unfold closingChars
    cases strip.after <;> rfl
  have hpadded : padded? (fuel + 4) .enclosed (literalChars text ++ (closingChars strip ++ rest)) =
      some (.mk "" (.string text) "", closingChars strip ++ rest) := by
    obtain ⟨c, more, hchars, hc⟩ := hclosing
    rw [hchars]
    exact padded?_literal h hc more fuel
  have hopen : strip? ((if strip.before then ['~'] else []) ++ (literalChars text ++ (closingChars strip ++ rest))) =
      (strip.before, literalChars text ++ (closingChars strip ++ rest)) := by
    cases strip.before <;> rfl
  have hliteral : ∀ chars, Holder.literal .bare ('$' :: '{' :: chars) = ([], '$' :: '{' :: chars) := fun chars => rfl
  rw [pieces?, hliteral]
  simp only [hopen, hpadded, hstop, Option.bind_eq_bind, Option.bind_some]
  cases pieces? (fuel + 4) .bare rest <;> rfl

theorem rawChars_literal {text : String} (h : clear text.toList = true) {tail : List Char}
    (hfollows : Follows text.toList tail) (htail : tail = [] ∨ startsMarker tail = true) :
    Holder.literal .bare (doubleMarkers text.toList ++ tail) = (text.toList, tail) :=
  rawRun_doubled (doubled_doubleMarkers h hfollows) htail (by rw [List.length_append]; omega)

theorem pieces?_literal {text : String} (hne : text ≠ "") {chars tail : List Char}
    (h : Holder.literal .bare chars = (text.toList, tail)) (fuel : Nat) :
    pieces? (fuel + 1) .bare chars =
      (pieces? fuel .bare tail).map fun (more, rest) => (.literal text :: more, rest) := by
  rw [pieces?.eq_def]
  dsimp only
  rw [h]
  cases hchars : text.toList with
  | nil => exact absurd (by simpa using hchars) hne
  | cons c run =>
    dsimp only
    rw [← hchars, String.ofList_toList]
    cases pieces? fuel .bare tail <;> rfl

/-- An interpolation starts with its marker. -/
theorem exists_interpolation (e : Expr) (strip : Strip) (rest : List Element) :
    ∃ chars, (Display.elementsText (.interpolation e strip :: rest)).toList = '$' :: '{' :: chars := by
  rw [Display.elementsText, Display.elementText]
  simp only [String.toList_append, Display.opening]
  exact ⟨_, rfl⟩

/-- Plain elements are read from their texts. -/
theorem pieces?_plain (elements : List Element) (h : isPlain elements = true) {fuel : Nat}
    (hfuel : elements.length + 5 ≤ fuel) :
    ∃ pieces, pieces? fuel .bare (Display.elementsText elements).toList = some (pieces, []) ∧
      ∀ read, pieceMeanings read pieces = elements := by
  fun_induction isPlain elements generalizing fuel with
  | case1 =>
    obtain ⟨fuel, rfl⟩ : ∃ n, fuel = n + 1 := ⟨fuel - 1, by omega⟩
    exact ⟨[], rfl, fun _ => rfl⟩
  | case2 text =>
    obtain ⟨fuel, rfl⟩ : ∃ n, fuel = n + 2 := ⟨fuel - 2, by simp at hfuel; omega⟩
    obtain ⟨hne, hclear⟩ : text ≠ "" ∧ clear text.toList = true := by simpa using h
    have hfollows : Follows text.toList [] := ⟨by simp, fun c _ => by simp [startsDoubledMarker_cons]⟩
    refine ⟨[.literal text], ?_, fun _ => rfl⟩
    rw [toList_literal, show (Display.elementsText []).toList = [] from rfl,
      pieces?_literal hne (rawChars_literal hclear hfollows (.inl rfl))]
    rfl
  | case3 text e strip rest ih =>
    obtain ⟨fuel, rfl⟩ : ∃ n, fuel = n + 1 := ⟨fuel - 1, by simp at hfuel; omega⟩
    obtain ⟨⟨⟨hne, hclear⟩, hlast⟩, hrest⟩ : ((text ≠ "" ∧ clear text.toList = true) ∧
      text.toList.getLast? ≠ some '$') ∧ isPlain (.interpolation e strip :: rest) = true := by simpa using h
    obtain ⟨pieces, hpieces, hmeaning⟩ := ih hrest (by simp at hfuel ⊢; omega)
    obtain ⟨chars, hchars⟩ := exists_interpolation e strip rest
    have hfollows : Follows text.toList ('$' :: '{' :: chars) := by
      refine ⟨by simp, fun c hc => ?_⟩
      have hne : '$' ≠ c := by
        rintro rfl
        exact hlast hc
      simp [startsDoubledMarker_cons, hne]
    refine ⟨.literal text :: pieces, ?_, fun read => ?_⟩
    · rw [hchars] at hpieces
      rw [toList_literal, hchars, pieces?_literal hne (rawChars_literal hclear hfollows (.inr rfl)), hpieces]
      rfl
    · rw [pieceMeanings, hmeaning]
      rfl
  | case4 text strip rest ih =>
    obtain ⟨fuel, rfl⟩ : ∃ n, fuel = n + 5 := ⟨fuel - 5, by simp at hfuel; omega⟩
    obtain ⟨hclear, hrest⟩ : clear text.toList = true ∧ isPlain rest = true := by simpa using h
    obtain ⟨pieces, hpieces, hmeaning⟩ := @ih hrest (fuel + 4) (by simp at hfuel; omega)
    refine ⟨.interpolation strip (.mk "" (.string text) "") :: pieces, ?_, fun read => ?_⟩
    · rw [toList_interpolation, pieces?_interpolation hclear, hpieces]
      rfl
    · rw [pieceMeanings, hmeaning]
      rfl
  | case5 => cases h

theorem length_le_elementsText (elements : List Element) (h : isPlain elements = true) :
    elements.length ≤ (Display.elementsText elements).toList.length := by
  have literal_pos {text : String} (hne : text ≠ "") : 1 ≤ (doubleMarkers text.toList).length := by
    have hhead := head?_doubleMarkers text.toList
    cases hdoubled : doubleMarkers text.toList with
    | nil =>
      rw [hdoubled] at hhead
      exact absurd (by simpa using hhead.symm) hne
    | cons c rest => exact Nat.le_add_left 1 _
  fun_induction isPlain elements with
  | case1 => exact Nat.zero_le _
  | case2 text =>
    have hpos := literal_pos (show text ≠ "" by simp at h; exact h.1)
    simp only [toList_literal, List.length_append, List.length_cons, List.length_nil]
    omega
  | case3 text e strip rest ih =>
    simp only [Bool.and_eq_true, decide_eq_true_eq] at h
    have hpos := literal_pos h.1.1.1
    have hrest := ih h.2
    rw [toList_literal, List.length_append, List.length_cons]
    omega
  | case4 text strip rest ih =>
    have hrest := ih (by simp at h; exact h.2)
    rw [toList_interpolation]
    simp only [List.length_cons, List.length_append]
    omega
  | case5 => cases h

/-- The text of plain elements reads back as them. -/
theorem readTemplate_plain {elements : List Element} (h : isPlain elements = true) :
    readTemplate (Display.elementsText elements) = some elements := by
  have hlength := length_le_elementsText elements h
  obtain ⟨pieces, hpieces, hmeaning⟩ := pieces?_plain elements h
    (show elements.length + 5 ≤ readingFuel (Display.elementsText elements).toList by
      rw [readingFuel]
      omega)
  rw [readTemplate, elements?, template?, hpieces]
  exact congrArg some (hmeaning _)

end Source

namespace Expr

open Source (isPlain)

/-- The text that plain elements stand for: literals without the blanks that their neighbours strip, and strings as
they are. -/
def plainText (last : Strip) : List Element → String
  | .literal text :: rest => stripLiteral last.after (stripsBefore false rest) text ++ plainText {} rest
  | .interpolation (.string text) strip :: rest => text ++ plainText strip rest
  | _ => ""

theorem evalElements_plain (scope : Scope) (within this : Expr) (last : Strip) (elements : List Element)
    (h : isPlain elements = true) :
    evalElements scope within this last false (groupElements elements) = .ok (plainText last elements) := by
  fun_induction isPlain elements generalizing last with
  | case1 => rfl
  | case2 text => rfl
  | case3 text e strip rest ih =>
    have hrest := ih {} (by simp at h; exact h.2)
    rw [groupElements, evalElements, groupElement, evalElement, Element.outer, hrest]
    rfl
  | case4 text strip rest ih =>
    have hrest := ih strip (by simp at h; exact h.2)
    have hstring : group (.string text) = .string text := rfl
    rw [groupElements, evalElements, groupElement, hstring, evalElement, eval, Element.outer, hrest]
    rfl
  | case5 => cases h

theorem value_plain (scope : Scope) (form : TemplateForm) (source : String) {elements : List Element}
    (h : isPlain elements = true) :
    value scope (.template form source (some elements)) = .ok (.string (plainText {} elements)) := by
  have htext := fun within this => evalElements_plain scope within this {} elements h
  suffices heval : ∀ within, eval scope within (group (.template form source (some elements))) =
      .ok (.string (plainText {} elements)) by
    simp [value, heval]
  intro within
  by_cases hsingle : NotSingle elements
  · rw [group, groupBranch, eval_template (notSingle_groupElements hsingle), htext]
    rfl
  · obtain ⟨e, strip, rfl⟩ : ∃ e strip, elements = [.interpolation e strip] := by simpa [NotSingle] using hsingle
    cases e <;> first
      | cases h
      | simp [group, groupBranch, groupElements, groupElement, eval, plainText]

/-- Strings from lazy calls are inserted into templates as they are. -/
theorem evaluate_inserts {scope : Scope} {elements resolved : List Element} (hlazy : hasLazyElements elements = true)
    (hresolved : resolveElements scope elements = .ok resolved) (hplain : isPlain resolved = true)
    (form : TemplateForm) (source : String) :
    (Expr.template form source (some elements)).evaluate scope = .ok (.string (plainText {} resolved)) := by
  have hresolve : resolve scope (.template form source (some elements)) =
      .ok (.template .quoted (Display.elementsText resolved) (some resolved)) := by
    simp only [resolve, hasLazyBranch, hlazy, if_true, resolveBranch, hresolved]
    simp [bind, Except.bind, pure, Except.pure, quotedTemplate, Source.readTemplate_plain hplain]
  rw [evaluate, hresolve]
  exact value_plain scope .quoted _ hplain

end Expr

/-- Carrying out lazy calls beforehand is sound where it is faithful: what evaluation gives is the value on demand. Into
a template that comes to clear literals and strings, the strings are inserted as they are. -/
theorem lazy_calls_are_sound {scope : Scope} (hscope : ∀ p ∈ scope, p.2.Keyed) :
    (∀ {e : Expr}, e.Direct → e.Faithful scope → ∀ {v}, e.evaluate scope = .ok v → e.onDemand scope = some v) ∧
      ∀ form source {elements resolved}, Expr.hasLazyElements elements = true →
        Expr.resolveElements scope elements = .ok resolved → Source.isPlain resolved = true →
          (Expr.template form source (some elements)).evaluate scope = .ok (.string (Expr.plainText {} resolved)) :=
  ⟨Expr.onDemand_of_evaluate hscope, fun form source _ _ hlazy hresolved hplain =>
    Expr.evaluate_inserts hlazy hresolved hplain form source⟩

/-- A template that inserts the first of its arguments that there is, behind a doubled marker. -/
def markedTemplate : List Element :=
  [.literal "%\x7b", .interpolation (.call ["try"] [.variable "missing", .variable "s"] false) {}]

/-- A string of all that templates treat specially. -/
def specialText : String := "\"\\\n$\x7ba\x7d %\x7bif b\x7d"

theorem lazy_calls_are_sound_special :
    (Expr.template .quoted "" (some markedTemplate)).evaluate [("s", .string specialText)] =
        .ok (.string ("%\x7b" ++ specialText)) ∧
      (Expr.template .quoted "" (some markedTemplate)).onDemand [("s", .string specialText)] =
        some (.string ("%\x7b" ++ specialText)) := by
  have hscope : ∀ p ∈ [("s", Value.string specialText)], p.2.Keyed := by
    simp [Value.Keyed]
  have hresolved : Expr.resolveElements [("s", .string specialText)] markedTemplate =
      .ok [.literal "%\x7b", .interpolation (.string specialText) {}] := rfl
  have hplain : Source.isPlain [.literal "%\x7b", .interpolation (.string specialText) {}] = true := by decide
  have hvalue := (lazy_calls_are_sound hscope).2 .quoted "" (by rfl) hresolved hplain
  have htext : Expr.plainText {} [.literal "%\x7b", .interpolation (.string specialText) {}] =
      "%\x7b" ++ specialText := by decide
  rw [htext] at hvalue
  refine ⟨hvalue, (lazy_calls_are_sound hscope).1 ?_ ?_ hvalue⟩
  · simp [Expr.Direct, Expr.Everywhere, Expr.EverywhereBranch, Expr.EverywhereElements, Expr.EverywhereElement,
      Expr.EverywhereAll, Expr.IsDirect, Expr.IsDirectElement, markedTemplate]
  · refine ⟨fun _ resolved h => ?_, ?_⟩
    · cases hresolved.symm.trans h
      exact Source.readTemplate_plain hplain
    · simp [Expr.Everywhere, Expr.EverywhereElements, Expr.EverywhereElement, Expr.EverywhereBranch,
        Expr.EverywhereAll, Expr.IsFaithful, Expr.IsPrompt, markedTemplate]

/-- A call in a branch that is not taken counts, where it is carried out beforehand. -/
theorem untaken_try_counts :
    (Expr.call ["can"] [.conditional (.bool false) (.call ["try"] [.variable "missing"] false) (.number (.int 1))]
        false).evaluate [] = .ok (.bool false) ∧
      (Expr.call ["can"] [.conditional (.bool false) (.call ["try"] [.variable "missing"] false) (.number (.int 1))]
        false).onDemand [] = some (.bool true) :=
  ⟨rfl, rfl⟩

end Terrasmith
