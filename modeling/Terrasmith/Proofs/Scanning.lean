import Terrasmith.Proofs.Cutting
import Terrasmith.Proofs.Rereading

/-!
The scanner of the layout beside the cells of a text. In code it takes each cell for what it is and is in code again
behind it, so that no line of code starts inside of a literal: the literals of the text are written as they stand, and
the text says the same when it has been laid out.
-/
namespace Terrasmith

namespace Layout

open Text

/-- What is open before each line. -/
def Scanner.states : Scanner → List (List Char) → List Scanner
  | _, [] => []
  | s, line :: rest => s :: (s.next line).states rest

/-- No line starts inside of a string, and those that do not start in code are kept. -/
def Shields : (kept : List Bool) → Scanner → List (List Char) → Prop
  | _, _, [] => True
  | kept, s, line :: rest =>
    s.stack = [] ∧ (s.atCodeStart = false → kept.head? = some true) ∧ Shields kept.tail (s.next line) rest

/-- The same for the lines behind the one of which `t` is left; `s` is what is open there. -/
def Within (kept : List Bool) (s : Scanner) (t : List Char) : Prop :=
  ∀ line more, t = line ++ '\n' :: more → '\n' ∉ line → Shields kept.tail (s.scan false line) (linesOf more)

section Steps

variable {kept : List Bool} {s s' : Scanner} {c d : Char} {t line : List Char}

theorem linesOf_line (hline : '\n' ∉ line) (hreturn : '\r' ∉ line) (more : List Char) :
    linesOf (line ++ '\n' :: more) = line :: linesOf more := by
  have hdrop : dropReturn line = line := dropReturn_of_isLine ⟨hline, fun h => hreturn (List.mem_of_getLast? h)⟩
  rw [linesOf, linesFrom_line hline, List.reverse_nil, List.nil_append, hdrop]
  rfl

theorem within_nil : Within kept s [] := by
  intro line more h
  simp at h

/-- A character that carries the scan past itself, whatever comes on the lines behind. -/
theorem Within.self (h : Within kept s (c :: t)) (hc : c ≠ '\n')
    (hstep : ∀ line, line = [] ∨ line.head? = t.head? → s.step c line = (s', .self)) : Within kept s' t := by
  intro line more ht hline
  have hfollows := h (c :: line) more (by rw [ht, List.cons_append]) (by simp [Ne.symm hc, hline])
  rw [Scanner.scan, hstep line ?_] at hfollows
  · exact hfollows
  · cases line with
    | nil => exact .inl rfl
    | cons d line => exact .inr (by rw [ht]; rfl)

/-- Two characters that are passed over together. -/
theorem Within.pair (h : Within kept s (c :: d :: t)) (hc : c ≠ '\n') (hd : d ≠ '\n')
    (hstep : ∀ line, s.step c (d :: line) = (s', .pair)) : Within kept s' t := by
  intro line more ht hline
  have hfollows := h (c :: d :: line) more (by rw [ht]; rfl) (by simp [Ne.symm hc, Ne.symm hd, hline])
  rw [Scanner.scan, hstep] at hfollows
  exact hfollows

theorem Within.behind (h : Within kept s ('\n' :: t)) : Shields kept.tail s (linesOf t) :=
  h [] t rfl List.not_mem_nil

theorem linesOf_ne_nil (ht : t ≠ []) : ∃ line rest, linesOf t = line :: rest := by
  cases hlines : linesOf t with
  | nil =>
    rcases linesOf_cases t with ⟨h, -⟩ | ⟨-, -, h⟩ | ⟨line, back, more, -, -, -, -, h⟩
    · exact absurd h ht
    · rw [hlines] at h
      cases h
    · rw [hlines] at h
      cases h
  | cons line rest => exact ⟨line, rest, rfl⟩

/-- The next line. -/
theorem Within.newline (h : Within kept s ('\n' :: t)) (hreturn : '\r' ∉ t) (hheredoc : s.heredoc = none) :
    Within kept.tail s t := by
  intro line more ht hline
  have hfollows := h.behind
  rw [ht, linesOf_line hline (fun hr => hreturn (by rw [ht]; exact List.mem_append_left _ hr))] at hfollows
  have hnext := hfollows.2.2
  rwa [Scanner.next, hheredoc] at hnext

/-- No line starts inside of a string. -/
theorem Shields.stack (h : Shields kept s (linesOf t)) (ht : t ≠ []) : s.stack = [] := by
  obtain ⟨line, rest, hlines⟩ := linesOf_ne_nil ht
  rw [hlines] at h
  exact h.1

end Steps

end Layout

namespace Source

open Layout Text

section Cells

variable {kept : List Bool} {s : Scanner} {c : Char} {t r x : List Char}

theorem drop_count_newline (kept : List Bool) (w : List Char) :
    kept.drop (('\n' :: w).count '\n') = kept.tail.drop (w.count '\n') := by
  rw [List.count_cons_self]
  cases kept <;> simp

/-- What a character of code leaves open. -/
def bracketed (s : Scanner) (c : Char) : Scanner :=
  if isOpening c then s.onOpening else if isClosing c then s.onClosing else s

theorem atCodeStart_bracketed (hs : s.atCodeStart = true) (c : Char) : (bracketed s c).atCodeStart = true := by
  obtain ⟨hheredoc, hcomment, hstack⟩ := Scanner.atCodeStart_iff.mp hs
  have hopened : s.onOpening.atCodeStart = true ∧ s.onClosing.atCodeStart = true := by
    simp [Scanner.onOpening, Scanner.onClosing, Scanner.atCodeStart_iff, hstack, hheredoc, hcomment]
  unfold bracketed
  split
  · exact hopened.1
  · split
    · exact hopened.2
    · exact hs

/-- A character that starts no string, no comment and no heredoc opens and closes brackets only. -/
theorem step_code {line : List Char} (hs : s.atCodeStart = true) (hquote : c ≠ '"') (hhash : c ≠ '#')
    (hapart : isApart c line.head? = true) : s.step c line = (bracketed s c, .self) := by
  obtain ⟨-, hcomment, hstack⟩ := Scanner.atCodeStart_iff.mp hs
  simp only [isApart, Bool.and_eq_true, Bool.not_eq_true', Bool.and_eq_false_iff, Bool.or_eq_false_iff,
    beq_eq_false_iff_ne] at hapart
  obtain ⟨hslash, hless⟩ := hapart
  have hcomments : ¬ (c = '/' ∧ line.head? = some '/') ∧ ¬ (c = '/' ∧ line.head? = some '*') := by
    rcases hslash with hslash | ⟨hslash, hstar⟩
    · simp [hslash]
    · simp [hslash, hstar]
  have hopens : ¬ (c = '<' ∧ line.head? = some '<') := by
    rcases hless with hless | hless <;> simp [hless]
  unfold Scanner.step bracketed
  rw [hcomment, hstack]
  simp only [Bool.false_eq_true, if_false, hhash, hquote, hcomments.1, hcomments.2]
  rw [if_neg fun h => hopens ⟨h.1, h.2.1⟩]
  split
  · rfl
  · split <;> rfl

theorem isApart_line {line : List Char} (h : isApart c t.head? = true) (hline : line = [] ∨ line.head? = t.head?) :
    isApart c line.head? = true := by
  rcases hline with rfl | hline
  · simp [isApart]
  · rwa [hline]

theorem within_code (hs : s.atCodeStart = true) (hc : isCode c = true) (hapart : isApart c t.head? = true)
    (h : Within kept s (c :: t)) : Within kept (bracketed s c) t := by
  simp only [isCode, Bool.and_eq_true, Bool.not_eq_true', bne_iff_ne] at hc
  obtain ⟨⟨hblank, hquote⟩, hhash⟩ := hc
  have hnewline : c ≠ '\n' := by
    rintro rfl
    exact absurd hblank (by decide)
  exact h.self hnewline fun line hline => step_code hs hquote hhash (isApart_line hapart hline)

theorem within_space {w : List Char} (hs : s.atCodeStart = true) (hw : isSpace w = true) (hreturn : '\r' ∉ w ++ r)
    (h : Within kept s (w ++ r)) : Within (kept.drop (w.count '\n')) s r := by
  obtain ⟨hheredoc, -, -⟩ := Scanner.atCodeStart_iff.mp hs
  induction w generalizing kept with
  | nil => exact h
  | cons c w ih =>
    have hmore : '\r' ∉ w ++ r := fun hr => hreturn (List.mem_cons_of_mem c hr)
    have hspace := isSpace_tail hw
    by_cases hc : c = '\n'
    · subst hc
      rw [drop_count_newline]
      exact ih hspace hmore (h.newline hmore hheredoc)
    · rw [List.count_cons_of_ne hc]
      refine ih hspace hmore (h.self hc fun line _ => ?_)
      have hcode : c = ' ' ∨ c = '\t' := by
        rcases isBlank_of_isSpace hw c List.mem_cons_self with rfl | rfl | ⟨-, rfl | rfl⟩
        · exact .inl rfl
        · exact .inr rfl
        · exact absurd rfl hc
        · exact absurd List.mem_cons_self hreturn
      rcases hcode with rfl | rfl <;> exact step_code hs (by decide) (by decide) rfl

/-- A comment that lasts until the end of its line. -/
theorem within_comment {w : List Char} (hs : s.atCodeStart = true) (hw : IsComment w) (hr : AtBreak r)
    (h : Within kept s (w ++ r)) : Within kept s r := by
  obtain ⟨-, hcomment, hstack⟩ := Scanner.atCodeStart_iff.mp hs
  rcases hr with rfl | hr
  · exact within_nil
  · obtain ⟨r, rfl⟩ := List.head?_eq_some_iff.mp hr
    intro line more ht hline
    obtain rfl : line = [] := by
      cases line with
      | nil => rfl
      | cons d line =>
        obtain ⟨rfl, -⟩ := List.cons.inj ht
        exact absurd List.mem_cons_self hline
    obtain rfl := (List.cons.inj ht).2
    have hscan : s.scan false w = s := by
      have hstart := hw.starts
      cases w with
      | nil => cases hstart
      | cons c w =>
        rw [startsLineComment_cons, Bool.or_eq_true, Bool.and_eq_true, decide_eq_true_eq, decide_eq_true_eq,
          decide_eq_true_eq] at hstart
        have hstep : s.step c w = (s, .line) := by
          unfold Scanner.step
          rw [hcomment, hstack]
          rcases hstart with rfl | ⟨rfl, hnext⟩
          · rfl
          · simp [hnext]
        rw [Scanner.scan, hstep]
    have hfollows := h w _ rfl hw.newline
    rwa [hscan] at hfollows

/-- The inside of a block comment, to its end. -/
theorem within_inside_block {v : List Char} (hs : s.atCodeStart = true) (hv : blockComment? v = some (x, []))
    (hreturn : '\r' ∉ v ++ r) (h : Within kept { s with blockComment := true } (v ++ r)) :
    Within (kept.drop (v.count '\n')) s r := by
  obtain ⟨hheredoc, hcomment, -⟩ := Scanner.atCodeStart_iff.mp hs
  induction v generalizing kept x with
  | nil => cases hv
  | cons c v ih =>
    have hmore : '\r' ∉ v ++ r := fun hr => hreturn (List.mem_cons_of_mem c hr)
    rw [blockComment?] at hv
    split at hv
    next hcloses =>
      simp only [Bool.and_eq_true, decide_eq_true_eq] at hcloses
      obtain ⟨rfl, hnext⟩ := hcloses
      obtain ⟨v, rfl⟩ := List.head?_eq_some_iff.mp hnext
      obtain rfl : v = [] := (Prod.mk.inj (Option.some.inj hv)).2
      refine h.pair (by decide) (by decide) fun line => ?_
      have hsame : { s with blockComment := false } = s := by rw [← hcomment]
      simp [Scanner.step, hsame]
    next hopen =>
      obtain ⟨⟨y, t⟩, hrest, hpair⟩ := Option.map_eq_some_iff.mp hv
      obtain ⟨-, rfl⟩ := Prod.mk.inj hpair
      by_cases hc : c = '\n'
      · subst hc
        rw [drop_count_newline]
        exact ih hrest hmore (h.newline hmore hheredoc)
      · rw [List.count_cons_of_ne hc]
        refine ih hrest hmore (h.self hc fun line hline => ?_)
        have hcloses : ¬ (c = '*' ∧ line.head? = some '/') := by
          rintro ⟨rfl, hnext⟩
          rcases hline with rfl | hline
          · cases hnext
          · refine hopen ?_
            cases v with
            | nil => cases hrest
            | cons d v => simpa [hline] using hnext
        simp [Scanner.step, hcloses]

theorem within_block {w : List Char} (hs : s.atCodeStart = true) (hw : IsBlock w) (hreturn : '\r' ∉ w ++ r)
    (h : Within kept s (w ++ r)) : Within (kept.drop (w.count '\n')) s r := by
  obtain ⟨-, hcomment, hstack⟩ := Scanner.atCodeStart_iff.mp hs
  obtain ⟨v, x, rfl, hv⟩ := hw
  have hopened : Within kept { s with blockComment := true } (v ++ r) := by
    refine h.pair (by decide) (by decide) fun line => ?_
    simp [Scanner.step, hcomment, hstack]
  rw [List.count_cons_of_ne (by decide), List.count_cons_of_ne (by decide)]
  exact within_inside_block hs hv (fun hr => hreturn (List.mem_cons_of_mem _ (List.mem_cons_of_mem _ hr))) hopened

theorem mem_path {path : List Char} (h : IsPath path) : ∀ c ∈ path, Text.isIdentContinue c = true ∨ c = '.' := by
  induction h with
  | name start => exact fun c hc => .inl (start.continues c hc)
  | step start rest ih =>
    simp only [List.forall_mem_append, List.forall_mem_cons]
    exact ⟨fun c hc => .inl (start.continues c hc), .inr trivial, ih⟩

/-- Names and dots are passed over in an interpolation. -/
theorem within_path {outer : List Context} {path : List Char} (hcomment : s.blockComment = false)
    (hstack : s.stack = .interpolation 0 :: outer) (hpath : ∀ c ∈ path, Text.isIdentContinue c = true ∨ c = '.')
    (h : Within kept s (path ++ t)) : Within kept s t := by
  induction path with
  | nil => exact h
  | cons c path ih =>
    obtain ⟨hc, hmore⟩ := List.forall_mem_cons.mp hpath
    have hne : ∀ d, Text.isIdentContinue d = false → d ≠ '.' → c ≠ d := by
      rintro d hd hdot rfl
      rcases hc with hc | hc
      · rw [hd] at hc
        cases hc
      · exact hdot hc
    refine ih hmore (h.self (hne '\n' (by decide) (by decide)) fun line _ => ?_)
    have hopening : isOpening c = false := by
      simp [isOpening, hne '{' (by decide) (by decide), hne '[' (by decide) (by decide),
        hne '(' (by decide) (by decide)]
    have hclosing : isClosing c = false := by
      simp [isClosing, hne '}' (by decide) (by decide), hne ']' (by decide) (by decide),
        hne ')' (by decide) (by decide)]
    simp [Scanner.step, hcomment, hstack, hne '#' (by decide) (by decide), hne '/' (by decide) (by decide),
      hne '"' (by decide) (by decide), hne '<' (by decide) (by decide), hopening, hclosing]

/-- What stands between the quotes of a string is passed over, and holds no newline. -/
theorem within_inside {outer : List Context} (hx : IsInside x) (hcomment : s.blockComment = false)
    (hstack : s.stack = .string :: outer) (h : Within kept s (x ++ '"' :: r)) :
    '\n' ∉ x ∧ Within kept { s with stack := outer } r := by
  have hbroken : ∀ {t}, t ≠ [] → ¬ Shields kept.tail s (linesOf t) := by
    intro t ht hfollows
    rw [hfollows.stack ht] at hstack
    cases hstack
  induction hx with
  | nil =>
    refine ⟨List.not_mem_nil, h.self (by decide) fun line _ => ?_⟩
    simp [Scanner.step, hcomment, hstack]
  | @char c x quote backslash opens rest ih =>
    have hc : c ≠ '\n' := by
      rintro rfl
      exact hbroken (by simp) h.behind
    obtain ⟨hnewline, hr⟩ := ih (h.self hc fun line hline => by
      have hmarker : ¬ ((c = '$' ∨ c = '%') ∧ line.head? = some '{') := by
        rintro ⟨hsigil, hnext⟩
        rcases hline with rfl | hline
        · cases hnext
        · refine opens (by simpa [isSigil] using hsigil) ?_
          cases x with
          | nil => simp [hline] at hnext
          | cons d x => simpa [hline] using hnext
      unfold Scanner.step
      rw [hcomment, hstack]
      simp only [Bool.false_eq_true, if_false, backslash, quote]
      rw [if_neg hmarker])
    exact ⟨by simp [Ne.symm hc, hnewline], hr⟩
  | @escape c x rest ih =>
    have hc : c ≠ '\n' := by
      rintro rfl
      have hline : s.scan false ['\\'] = s := by
        simp [Scanner.scan, Scanner.step, hcomment, hstack]
      have hfollows := h ['\\'] (x ++ '"' :: r) rfl (by decide)
      rw [hline] at hfollows
      exact hbroken (by simp) hfollows
    obtain ⟨hnewline, hr⟩ := ih (h.pair (by decide) hc fun line => by
      simp [Scanner.step, hcomment, hstack])
    exact ⟨by simp [Ne.symm hc, hnewline], hr⟩
  | @path path x names rest ih =>
    have hnames := mem_path names
    have hopened : Within kept { s with stack := .interpolation 0 :: s.stack } (path ++ '}' :: (x ++ '"' :: r)) := by
      have hchars : '$' :: '{' :: (path ++ '}' :: x) ++ '"' :: r = '$' :: '{' :: (path ++ '}' :: (x ++ '"' :: r)) := by
        simp
      rw [hchars] at h
      refine h.pair (by decide) (by decide) fun line => ?_
      simp [Scanner.step, hcomment, hstack]
    have hclosed := within_path (s := { s with stack := .interpolation 0 :: s.stack }) hcomment rfl hnames hopened
    have hsame : { s with blockComment := false } = s := by rw [← hcomment]
    obtain ⟨hnewline, hr⟩ := ih (hclosed.self (by decide) fun line _ => by
      simp [Scanner.step, hcomment, hsame, isOpening, isClosing, Scanner.onClosing])
    have hnames : '\n' ∉ path := fun hmem => by
      rcases hnames _ hmem with hname | hdot
      · exact absurd hname (by decide)
      · exact absurd hdot (by decide)
    exact ⟨by simp [hnames, hnewline], hr⟩

end Cells

section Heredocs

variable {kept : List Bool} {s : Scanner} {name body margin t r : List Char}

theorem IsDelimiter.trimChars_eq (h : IsDelimiter name) : trimChars name = name :=
  trimChars_of_ends (fun c hc => not_isBlank_of_isIdentContinue (h.continues c (List.mem_of_head? hc)))
    fun c hc => not_isBlank_of_isIdentContinue (h.continues c (List.mem_of_getLast? hc))

/-- The layout finds the delimiter of a heredoc. -/
theorem heredocMarker?_name (h : IsHeredoc name body margin) (dash : Bool) :
    heredocMarker? ((if dash then ['-'] else []) ++ name) = some name := by
  obtain ⟨c, more, hcut, hc⟩ := h.delimiter.start
  have hdrop : ((if dash then ['-'] else []) ++ name).dropWhile (· = '-') = name := by
    have hdash := (not_isIndent_of_isIdentStart hc).2
    cases dash <;> simp [hcut, hdash]
  unfold heredocMarker?
  rw [hdrop, h.delimiter.trimChars_eq, if_pos]
  rw [Bool.and_eq_true, Bool.not_eq_true', List.isEmpty_eq_false_iff]
  exact ⟨by simp [hcut], List.all_eq_true.mpr h.word⟩

/-- The lines of a heredoc are kept, up to the one that closes it. -/
theorem shields_body {kept : List Bool} {body : List Char} (hheredoc : s.heredoc = some name) (hname : name ≠ [])
    (hapart : ∀ line ∈ linesOf body, trimChars line ≠ name) (hreturn : '\r' ∉ body)
    (h : Shields kept s (linesOf (body ++ '\n' :: t))) :
    (∀ i ≤ body.count '\n', kept[i]? = some true) ∧ Shields (kept.drop (body.count '\n' + 1)) s (linesOf t) := by
  have hopen : s.atCodeStart = false := by simp [Scanner.atCodeStart, hheredoc]
  have hfirst : ∀ {line rest}, trimChars line ≠ name → Shields kept s (line :: rest) →
      kept[0]? = some true ∧ Shields kept.tail s rest := by
    rintro line rest hline ⟨-, hkept, hrest⟩
    rw [Scanner.next, hheredoc] at hrest
    simp only [if_neg hline] at hrest
    exact ⟨by rw [← List.head?_eq_getElem?]; exact hkept hopen, hrest⟩
  by_cases hnewline : '\n' ∈ body
  · obtain ⟨line, more, hcut, hline⟩ := List.eq_append_cons_of_mem hnewline
    have hreturn' : '\r' ∉ line ∧ '\r' ∉ more := by simpa [hcut] using hreturn
    rw [hcut, linesOf_line hline hreturn'.1] at hapart
    rw [hcut, List.append_assoc, List.cons_append, linesOf_line hline hreturn'.1] at h
    obtain ⟨hkept, hrest⟩ := hfirst (hapart line List.mem_cons_self) h
    obtain ⟨hmore, hbehind⟩ := shields_body hheredoc hname
      (fun l hl => hapart l (List.mem_cons_of_mem line hl)) hreturn'.2 hrest
    have hcount : body.count '\n' = more.count '\n' + 1 := by
      rw [hcut, List.count_append, List.count_cons_self, List.count_eq_zero_of_not_mem hline, Nat.zero_add]
    rw [hcount]
    refine ⟨fun i hi => ?_, ?_⟩
    · cases i with
      | zero => exact hkept
      | succ i =>
        rw [← List.getElem?_tail]
        exact hmore i (by omega)
    · cases kept <;> simpa using hbehind
  · have hline : trimChars body ≠ name := by
      cases body with
      | nil => exact hname.symm
      | cons c body =>
        refine hapart _ ?_
        rw [linesOf, linesFrom_of_not_mem hnewline (by simp)]
        exact List.mem_singleton.mpr rfl
    rw [linesOf_line hnewline hreturn] at h
    obtain ⟨hkept, hrest⟩ := hfirst hline h
    rw [List.count_eq_zero_of_not_mem hnewline]
    refine ⟨fun i hi => ?_, ?_⟩
    · obtain rfl : i = 0 := by omega
      exact hkept
    · cases kept <;> simpa using hrest
termination_by body.length
decreasing_by simp [hcut]; omega

/-- A heredoc is written as it stands, and behind it there is code again. -/
theorem within_heredoc {dash : Bool} (hs : s.atCodeStart = true) (hw : IsHeredoc name body margin)
    (hreturn : '\r' ∉ heredocText dash name body margin ++ r) (hr : AtBreak r)
    (h : Within kept s (heredocText dash name body margin ++ r)) :
    Stays kept (heredocText dash name body margin) ∧
      Within (kept.drop ((heredocText dash name body margin).count '\n')) s r := by
  obtain ⟨hheredoc, hcomment, hstack⟩ := Scanner.atCodeStart_iff.mp hs
  have hnewline := hw.delimiter.newline_not_mem
  obtain ⟨c, more, hcut, -⟩ := hw.delimiter.start
  have hname : name ≠ [] := by simp [hcut]
  let opening : List Char := '<' :: '<' :: ((if dash then ['-'] else []) ++ name)
  have hopening : '\n' ∉ opening := by
    simp only [opening]
    cases dash <;> simp [hnewline]
  have hmargin : '\n' ∉ margin ++ name := by
    simp only [List.mem_append, hnewline, or_false]
    exact fun hmem => absurd (hw.margin _ hmem) (by decide)
  have hshape : heredocText dash name body margin = opening ++ '\n' :: (body ++ '\n' :: (margin ++ name)) := by
    simp [heredocText, opening]
  have hcount : (heredocText dash name body margin).count '\n' = body.count '\n' + 2 := by
    rw [hshape, List.count_append, List.count_cons_self, List.count_append, List.count_cons_self,
      List.count_eq_zero_of_not_mem hopening, List.count_eq_zero_of_not_mem hmargin]
    omega
  have hreturns : '\r' ∉ body ∧ '\r' ∉ margin ++ name := by
    simp [hshape, not_or] at hreturn
    simp [hreturn]
  have hopened : Shields kept.tail { s with heredoc := some name }
      (linesOf (body ++ '\n' :: (margin ++ name ++ r))) := by
    have hstep : s.step '<' ('<' :: ((if dash then ['-'] else []) ++ name)) =
        ({ s with heredoc := some name }, .line) := by
      unfold Scanner.step
      rw [hcomment, hstack]
      simp [heredocMarker?_name hw dash]
    have hscan : s.scan false opening = { s with heredoc := some name } := by
      rw [Scanner.scan, hstep]
    rw [← hscan]
    exact h _ _ (by simp [hshape]) hopening
  obtain ⟨hlines, hbehind⟩ := shields_body rfl hname hw.apart hreturns.1 hopened
  -- The line that closes the heredoc, whether another one follows or not.
  obtain ⟨rest, hrest, hbreak⟩ : ∃ rest, linesOf (margin ++ name ++ r) = (margin ++ name) :: rest ∧
      ∀ line more, r = line ++ '\n' :: more → '\n' ∉ line → line = [] ∧ rest = linesOf more := by
    rcases hr with rfl | hr
    · refine ⟨[], ?_, fun line more hline => by simp at hline⟩
      rw [List.append_nil, linesOf, linesFrom_of_not_mem hmargin (by simp [hname])]
      rfl
    · obtain ⟨r, rfl⟩ := List.head?_eq_some_iff.mp hr
      refine ⟨linesOf r, linesOf_line hmargin hreturns.2 r, fun line more hline hnone => ?_⟩
      cases line with
      | nil => exact ⟨rfl, by rw [(List.cons.inj hline).2]⟩
      | cons d line =>
        obtain ⟨rfl, -⟩ := List.cons.inj hline
        exact absurd List.mem_cons_self hnone
  rw [hrest] at hbehind
  obtain ⟨-, hkept, hnext⟩ := hbehind
  have hclosed : Scanner.next { s with heredoc := some name } (margin ++ name) = s := by
    have hblank : ∀ d ∈ margin, isBlank d = true := fun d hd => by
      have hindent := hw.margin d hd
      simp only [isIndent, Bool.or_eq_true, decide_eq_true_eq] at hindent
      rcases hindent with rfl | rfl <;> decide
    have htrim : trimChars (margin ++ name) = name := by
      have hblanks := trimChars_blanks hblank (List.forall_mem_nil _) name
      rwa [List.append_nil, hw.delimiter.trimChars_eq] at hblanks
    have hsame : { s with heredoc := none } = s := by rw [← hheredoc]
    simp [Scanner.next, htrim, hsame]
  rw [hclosed] at hnext
  have hopen : Scanner.atCodeStart { s with heredoc := some name } = false := by simp [Scanner.atCodeStart]
  have hdrop : kept.tail.drop (body.count '\n' + 1) = kept.drop (body.count '\n' + 2) := by
    cases kept <;> simp
  rw [hdrop] at hkept hnext
  rw [hcount]
  refine ⟨⟨fun i hi => ?_, .inr fun d hd => ?_, fun hinside => ?_⟩, fun line more ht hline => ?_⟩
  · rw [hcount] at hi
    by_cases hi' : i ≤ body.count '\n'
    · rw [← List.getElem?_tail]
      exact hlines i hi'
    · obtain rfl : i = body.count '\n' + 1 := by omega
      rw [← List.head?_drop]
      exact hkept hopen
  · have htake : (heredocText dash name body margin).takeWhile (· ≠ '\n') = opening := by
      rw [hshape, List.takeWhile_append_of_pos fun c hc => by simpa using ne_of_mem_of_not_mem hc hopening]
      simp
    have hend : opening.getLast? = name.getLast? :=
      List.getLast?_append_of_ne_nil ('<' :: '<' :: (if dash then ['-'] else [])) hname
    rw [htake, hend] at hd
    exact not_isBlank_of_isIdentContinue (hw.delimiter.continues d (List.mem_of_getLast? hd))
  · exact hreturn (List.mem_append_left r (hinside.subset (by simp)))
  · obtain ⟨rfl, rfl⟩ := hbreak line more ht hline
    exact hnext

end Heredocs

/-- A string literal lies on its line. -/
theorem within_string {kept : List Bool} {s : Scanner} {x r : List Char} (hs : s.atCodeStart = true) (hx : IsInside x)
    (h : Within kept s ('"' :: (x ++ ['"']) ++ r)) : '\n' ∉ '"' :: (x ++ ['"']) ∧ Within kept s r := by
  obtain ⟨-, hcomment, hstack⟩ := Scanner.atCodeStart_iff.mp hs
  have hopened : Within kept { s with stack := [.string] } (x ++ '"' :: r) := by
    rw [List.cons_append, List.append_assoc] at h
    refine h.self (by decide) fun line _ => ?_
    simp [Scanner.step, hcomment, hstack]
  obtain ⟨hnewline, hr⟩ := within_inside (s := { s with stack := [.string] }) hx hcomment rfl hopened
  have hsame : { s with stack := [] } = s := by rw [← hstack]
  exact ⟨by simp [hnewline], hsame ▸ hr⟩

/-- The literals of a text are written as they stand. -/
theorem sheltered_of_within {run : List Char} {cells : List Cell} {kept : List Bool} {s : Scanner}
    (hs : s.atCodeStart = true) (hl : Lexical run cells) (hd : Diagonal cells) (hc : Confined cells)
    (hreturn : '\r' ∉ lefts cells) (h : Within kept s (lefts cells)) : Sheltered kept cells := by
  induction cells generalizing run kept s with
  | nil => trivial
  | cons cell cells ih =>
    rw [lefts_cons] at hreturn h
    have hmore : '\r' ∉ lefts cells := fun hr => hreturn (List.mem_append_right _ hr)
    cases cell with
    | code c =>
      obtain ⟨hcode, hapart, -, hl⟩ := hl
      have hnewline : '\n' ∉ [c] := by
        rintro hmem
        obtain rfl := List.mem_singleton.mp hmem
        exact absurd hcode (by decide)
      have hrest := ih (atCodeStart_bracketed hs c) hl hd.tail hc hmore (within_code hs hcode hapart h)
      change Sheltered (kept.drop ([c].count '\n')) cells
      rwa [List.count_eq_zero_of_not_mem hnewline]
    | space w w' => exact ih hs hl.2.2 hd.tail hc hmore (within_space hs hl.1.1 hreturn h)
    | block w w' => exact ih hs hl.2.2.2 hd.tail hc hmore (within_block hs hl.1 hreturn h)
    | comment w w' =>
      obtain ⟨hw, -, -, -, hend, hl⟩ := hl
      have hbreak : AtBreak (lefts cells) := by
        have hstop := hend.atLineEnd.1
        cases hcells : lefts cells with
        | nil => exact .inl rfl
        | cons c v =>
          rw [hcells] at hstop hmore
          rcases atLineEnd_cons hstop with rfl | rfl
          · exact .inr rfl
          · exact absurd List.mem_cons_self hmore
      have hrest := ih hs hl hd.tail hc hmore (within_comment hs hw hbreak h)
      change Sheltered (kept.drop (w.count '\n')) cells
      rwa [List.count_eq_zero_of_not_mem hw.newline]
    | literal w =>
      obtain ⟨hw, hl⟩ := hl
      obtain ⟨⟨x, hx, rfl⟩ | ⟨dash, name, body, margin, hheredoc, rfl, hbreak⟩, hc⟩ := hc
      · obtain ⟨hnewline, hrest⟩ := within_string hs hx h
        refine ⟨hw.stays hnewline, ?_⟩
        rw [List.count_eq_zero_of_not_mem hnewline]
        exact ih hs hl hd.tail hc hmore hrest
      · obtain ⟨hstays, hrest⟩ := within_heredoc hs hheredoc hreturn hbreak h
        exact ⟨hstays, ih hs hl hd.tail hc hmore hrest⟩

end Source

namespace Layout

open Text

/-- Lines that do not start in code are written as they stand. -/
theorem shields_zipWith {s : Scanner} {ls shown : List (List Char)} (h : List.Forall₂ Shows (layLines s ls) shown)
    (hstack : ∀ t ∈ s.states ls, t.stack = []) : Shields (List.zipWith (· == ·) ls shown) s ls := by
  induction ls generalizing s shown with
  | nil => trivial
  | cons line ls ih =>
    rw [layLines] at h
    cases h with
    | @cons _ first _ rest hfirst hrest =>
      obtain ⟨hline, hlines⟩ := List.forall_mem_cons.mp hstack
      refine ⟨hline, fun hopen => ?_, ih hrest hlines⟩
      rw [layLine, if_neg (by simp [hopen])] at hfirst
      obtain rfl : first = line := hfirst
      simp

/-- The blank lines that a text begins with open nothing. -/
theorem shields_keptLines {text : String} (hstack : ∀ t ∈ Scanner.states {} (linesOf text.toList), t.stack = []) :
    Shields (keptLines text) {} (linesOf text.toList) := by
  have hshows := shows_formatLines text
  unfold keptLines
  generalize linesOf text.toList = ls at hstack hshows ⊢
  dsimp only
  induction ls with
  | nil => trivial
  | cons line ls ih =>
    cases hblank : line.all isBlank with
    | true =>
      obtain ⟨-, hlines⟩ := List.forall_mem_cons.mp hstack
      have hnext : Scanner.next {} line = {} := by
        rw [Scanner.next_of_code rfl]
        exact Scanner.scan_blanks (List.all_eq_true.mp hblank) false
      rw [hnext] at hlines
      simp only [List.dropWhile_cons, hblank, if_true] at hshows
      simp only [List.dropWhile_cons, List.takeWhile_cons, hblank, if_true]
      exact ⟨rfl, fun _ => rfl, by rw [hnext]; exact ih hlines hshows⟩
    | false =>
      simp only [List.dropWhile_cons, hblank, Bool.false_eq_true, if_false] at hshows
      simp only [List.dropWhile_cons, List.takeWhile_cons, hblank, Bool.false_eq_true, if_false]
      exact shields_zipWith hshows hstack

end Layout

namespace Source

open Layout Text

/-- At the start of a text everything is code. -/
theorem within_start {text : List Char} {kept : List Bool} (hreturn : '\r' ∉ text)
    (h : Shields kept {} (linesOf text)) : Within kept {} text := by
  rintro line more rfl hline
  rw [linesOf_line hline fun hr => hreturn (List.mem_append_left _ hr)] at h
  exact h.2.2

/-- A text whose literals are plain says the same when it has been laid out. -/
theorem format_keeps_plain_texts {text : String} (htext : IsPlainText text.toList)
    (hstrings : ∀ s ∈ Scanner.states {} (linesOf text.toList), s.stack = [])
    (hfor : ∀ line ∈ linesOf text.toList, ¬ "for=".toList <+: trimChars line) {b : Body} (hb : parse? text = some b) :
    ∃ b', parse? (format text) = some b' ∧ b'.readings = b.readings := by
  obtain ⟨cells, hlexical, hdiagonal, hconfined, hlefts⟩ := exists_cuts htext hb
  have hwithin : Within (keptLines text) {} (lefts cells) := by
    rw [hlefts]
    exact within_start htext.returns (shields_keptLines hstrings)
  have hkept : Sheltered (keptLines text) cells :=
    sheltered_of_within rfl (hlexical []) hdiagonal hconfined (by rw [hlefts]; exact htext.returns) hwithin
  exact cellAlignment.parse? (fresh_format ⟨hlexical [], hdiagonal, hlefts.symm⟩ hkept hfor) hb

section Examples

def templatesAndComment : String := "a=\"x$\x7bb.c\x7d\" # n \nd =<<E\n  x$\x7bc\x7d\nE\n"

theorem isPlainText_templatesAndComment : IsPlainText templatesAndComment.toList := by
  have hname : ∀ {c}, isIdentStart c = true → isIdentContinue c = true → IsDelimiter [c] := fun {c} hstart hcontinue =>
    ⟨⟨c, [], rfl, hstart⟩, List.forall_mem_singleton.mpr hcontinue⟩
  have hvariable : IsPath ['c'] := .name (hname (by decide) (by decide))
  have hpath : IsPath ['b', '.', 'c'] := .step (hname (c := 'b') (by decide) (by decide)) hvariable
  let lines : List Char := [' ', ' ', 'x'] ++ '$' :: '{' :: (['c'] ++ ['}'])
  have hlines : IsBody ['E'] lines := .run (by decide +kernel) (.inr rfl) (.path hvariable .nil)
  have hheredoc : IsHeredoc ['E'] lines [] :=
    ⟨hname (by decide) (by decide), List.forall_mem_singleton.mpr (by decide), hlines, List.forall_mem_nil _,
      by decide +kernel⟩
  have hend : IsPlainText (['c'] ++ '}' :: "\nE\n".toList) :=
    isPlainText_nil.append (u := "c\x7d\nE\n".toList) (by decide)
  have hbody : IsPlainText ("E\n  x".toList ++ '$' :: '{' :: (['c'] ++ '}' :: "\nE\n".toList)) :=
    (hend.interpolation hvariable).append (by decide)
  have htail : IsPlainText (heredocText false ['E'] lines [] ++ ['\n']) := hbody.heredoc hheredoc (.inr rfl)
  have hrest : IsPlainText (['b', '.', 'c'] ++ '}' :: ("\" # n \nd =".toList ++
      (heredocText false ['E'] lines [] ++ ['\n']))) :=
    htail.append (u := "b.c\x7d\" # n \nd =".toList) (by decide)
  exact (hrest.interpolation hpath).append (u := "a=\"x".toList) (by decide)

/-- A string and a heredoc with interpolations, and a comment. -/
theorem format_keeps_templatesAndComment :
    (parse? templatesAndComment).isSome ∧
      format templatesAndComment = "a = \"x$\x7bb.c\x7d\" # n\nd = <<E\n  x$\x7bc\x7d\nE\n" ∧
      ∀ b, parse? templatesAndComment = some b →
        ∃ b', parse? (format templatesAndComment) = some b' ∧ b'.readings = b.readings :=
  ⟨by decide +kernel, by decide +kernel, fun _ =>
    format_keeps_plain_texts isPlainText_templatesAndComment (by decide +kernel) (by decide +kernel)⟩

end Examples

end Source

end Terrasmith
