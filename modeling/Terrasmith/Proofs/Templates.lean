import Terrasmith.Proofs.Literals

/-!
String literals and heredocs with interpolations. If these hold names alone, a string is read up to its closing quote
and a heredoc up to the line that closes it, whatever follows: what the characters say is told before.
-/
namespace Terrasmith.Source

/-- A name, or names with dots between them. -/
inductive IsPath : List Char → Prop where
  | name {name : List Char} (start : IsDelimiter name) : IsPath name
  | step {name path : List Char} (start : IsDelimiter name) (rest : IsPath path) : IsPath (name ++ '.' :: path)

/-- A text that starts with `c`. -/
def Starts (c : Char) (v : List Char) : Prop := ∃ r, v = c :: r

/-- A reader that starts with what another one reads, and takes one more round. -/
theorem ReadsUpTo.of_step {α β : Type} {inner : Nat → List Char → Option (α × List Char)}
    {read : Nat → List Char → Option (β × List Char)} {u w : List Char} {behind : List Char → Prop} {k : Nat} {a : α}
    {b : β} (h : ReadsUpTo inner u behind k a) (hzero : ∀ v, read 0 (w ++ v) = none)
    (hnone : ∀ n v, behind v → inner n (u ++ v) = none → read (n + 1) (w ++ v) = none)
    (hsome : ∀ n v, behind v → k ≤ n → inner n (u ++ v) = some (a, v) → read (n + 1) (w ++ v) = some (b, v)) :
    ReadsUpTo read w behind (k + 1) b := by
  intro n v hv
  cases n with
  | zero => exact hzero v
  | succ n =>
    have hinner := h n v hv
    by_cases hn : k ≤ n
    · rw [if_pos hn] at hinner
      rw [if_pos (Nat.succ_le_succ hn)]
      exact hsome n v hv hn hinner
    · rw [if_neg hn] at hinner
      rw [if_neg (by omega)]
      exact hnone n v hv hinner

section Paths

variable {name path : List Char} {c : Char}

/-- What may follow a name in an interpolation. -/
def pathSigns : List Char := ['.', '}']

theorem blanks_pathSign (hc : c ∈ pathSigns) (r : List Char) : blanks true (c :: r) = ("", c :: r) := by
  simp only [pathSigns, List.mem_cons, List.not_mem_nil, or_false] at hc
  rcases hc with rfl | rfl <;> exact blanks_none rfl

theorem IsDelimiter.ident?_sign (h : IsDelimiter name) (hc : c ∈ pathSigns) (r : List Char) :
    Source.ident? (name ++ c :: r) = some (String.ofList name, c :: r) := by
  refine h.ident? fun d hd => ?_
  obtain rfl : c = d := by simpa using hd
  simp only [pathSigns, List.mem_cons, List.not_mem_nil, or_false] at hc
  rcases hc with rfl | rfl <;> decide

theorem IsDelimiter.blanks (h : IsDelimiter name) (r : List Char) :
    Source.blanks true (name ++ r) = ("", name ++ r) := by
  obtain ⟨d, more, rfl, hd⟩ := h.start
  exact blanks_none (startsBlanks_ident hd _)

theorem IsPath.head (h : IsPath path) : ∃ d more, path = d :: more ∧ Text.isIdentStart d = true := by
  cases h with
  | name start =>
    obtain ⟨d, more, hcut, hd⟩ := start.start
    exact ⟨d, more, hcut, hd⟩
  | step start rest =>
    obtain ⟨d, more, rfl, hd⟩ := start.start
    exact ⟨d, _, rfl, hd⟩

theorem step?_name (h : IsDelimiter name) (hc : c ∈ pathSigns) (n : Nat) (r : List Char) :
    step? (n + 1) ('.' :: (name ++ c :: r)) = some (.attribute "" (String.ofList name), c :: r) := by
  have hblanks := h.blanks (c :: r)
  have hident := h.ident?_sign hc r
  obtain ⟨d, more, rfl, hd⟩ := h.start
  have hstar : d ≠ '*' := ne_of_isIdentStart hd (by decide)
  rw [step?]
  simp only [hblanks, hident]
  simp [hstar]

/-- The names behind the first one. -/
theorem readsUpTo_path? (h : IsPath path) : ∃ steps k, 1 ≤ k ∧ k ≤ path.length + 1 ∧
    ReadsUpTo (path? · true) ('.' :: path) (Starts '}') k steps := by
  induction h with
  | @name name start =>
    have hpos : 1 ≤ name.length := by
      obtain ⟨d, more, rfl, -⟩ := start.start
      exact Nat.le_add_left 1 _
    refine ⟨[.attribute "" (String.ofList name)], 2, by omega, by omega, ?_⟩
    rintro n _ ⟨r, rfl⟩
    rcases n with _ | _ | n
    · rfl
    · rfl
    · change path? (n + 2) true ('.' :: (name ++ '}' :: r)) = _
      rw [path?, step?_name start (by decide)]
      simp [blanks_pathSign (c := '}') (by decide), startsStep]
  | @step name path start rest ih =>
    obtain ⟨steps, k, hpos, hk, hreads⟩ := ih
    obtain ⟨d, more, rfl, hd⟩ := rest.head
    have hdot : d ≠ '.' := ne_of_isIdentStart hd (by decide)
    have hstep : ∀ n r, path? (n + 1) true ('.' :: (name ++ '.' :: d :: more) ++ '}' :: r) =
        (path? n true ('.' :: d :: more ++ '}' :: r)).map fun p =>
          (Step.attribute "" (String.ofList name) :: p.1, p.2) := fun n r => by
      rcases n with _ | n
      · rfl
      · rw [List.cons_append, List.append_assoc, List.cons_append, path?, step?_name start (by decide)]
        simp only [Option.bind_eq_bind, Option.bind_some, blanks_pathSign (c := '.') (by decide), List.cons_append]
        rw [if_pos (by simp [startsStep, hdot])]
        cases path? (n + 1) true ('.' :: d :: (more ++ '}' :: r)) <;> rfl
    refine ⟨.attribute "" (String.ofList name) :: steps, k + 1, by omega,
      by simp only [List.length_append, List.length_cons] at hk ⊢; omega, hreads.of_step (fun _ => rfl) ?_ ?_⟩
    · rintro n _ ⟨r, rfl⟩ hnone
      exact (hstep n r).trans (by rw [hnone]; rfl)
    · rintro n _ ⟨r, rfl⟩ - hsome
      exact (hstep n r).trans (by rw [hsome]; rfl)

/-- The form of a name that stands alone. -/
def nameForm (x : String) : Form :=
  if x = "null" then .null else if x = "true" then .bool true else if x = "false" then .bool false else .variable x

theorem named?_name (x : String) (hc : c ∈ pathSigns) (n : Nat) (r : List Char) :
    named? (n + 1) .enclosed [x] x (c :: r) = some ((nameForm x, true), c :: r) := by
  have hblanks : blanks Manner.enclosed.lines (c :: r) = ("", c :: r) := blanks_pathSign hc r
  rw [named?.eq_def]
  dsimp only
  rw [hblanks]
  simp only [pathSigns, List.mem_cons, List.not_mem_nil, or_false] at hc
  unfold nameForm
  rcases hc with rfl | rfl
  all_goals
    split
    · simp_all
    · simp_all
    · split <;> simp_all [Manner.enclosed]

/-- A name is a term. -/
theorem term?_name (h : IsDelimiter name) (hc : c ∈ pathSigns) (n : Nat) (r : List Char) :
    term? n .enclosed none (name ++ c :: r) =
      if 2 ≤ n then some ((.bare (nameForm (String.ofList name)), true), c :: r) else none := by
  have hident := h.ident?_sign hc r
  obtain ⟨d, more, rfl, hd⟩ := h.start
  obtain ⟨hopener, hdigit⟩ := ident_start hd
  rw [List.cons_append] at hident ⊢
  rcases n with _ | _ | n
  · rfl
  · rw [term?_plain hopener, if_neg (by simp [hdigit]), hident]
    rfl
  · rw [term?_plain hopener, if_neg (by simp [hdigit]), hident]
    simp only [Option.bind_eq_bind, Option.bind_some, named?_name _ hc]
    rfl

theorem more?_brace (n : Nat) (w : Written) (r : List Char) :
    more? (n + 1) .enclosed false w ('}' :: r) = some (w, '}' :: r) := by
  rw [more?]
  simp only [Manner.enclosed, blanks_pathSign (c := '}') (by decide)]
  rfl

/-- The steps behind a name are read up to the end of the interpolation. -/
theorem readsUpTo_more? (h : IsPath path) (w : Written) : ∃ e k, k ≤ path.length + 2 ∧
    ReadsUpTo (more? · .enclosed false w) ('.' :: path) (Starts '}') k e := by
  obtain ⟨steps, k, hpos, hk, hreads⟩ := readsUpTo_path? h
  obtain ⟨d, more, rfl, hd⟩ := h.head
  have hdot : d ≠ '.' := ne_of_isIdentStart hd (by decide)
  have hstep : ∀ n r, more? (n + 1) .enclosed false w ('.' :: d :: more ++ '}' :: r) =
      (path? n true ('.' :: d :: more ++ '}' :: r)).bind fun p =>
        more? n .enclosed false (.bare (.traversal (w.withAfter "") p.1)) p.2 := fun n r => by
    rw [more?]
    simp only [Manner.enclosed, List.cons_append, blanks_pathSign (c := '.') (by decide)]
    rw [if_pos (by simp [startsStep, hdot])]
    rfl
  refine ⟨.bare (.traversal (w.withAfter "") steps), k + 1, by omega, hreads.of_step (fun _ => rfl) ?_ ?_⟩
  · rintro n _ ⟨r, rfl⟩ hnone
    exact (hstep n r).trans (by rw [hnone]; rfl)
  · rintro n _ ⟨r, rfl⟩ hn hsome
    obtain ⟨n, rfl⟩ := Nat.exists_eq_add_one_of_ne_zero (show n ≠ 0 by omega)
    exact (hstep (n + 1) r).trans (by rw [hsome]; exact more?_brace n _ r)

/-- Names with dots between them are an expression. -/
theorem readsUpTo_expr? (h : IsPath path) : ∃ e k, k ≤ path.length + 2 ∧
    ReadsUpTo (expr? · .enclosed) path (Starts '}') k e := by
  cases h with
  | name start =>
    have hpos : 1 ≤ path.length := by
      obtain ⟨d, more, rfl, -⟩ := start.start
      exact Nat.le_add_left 1 _
    refine ⟨.bare (nameForm (String.ofList path)), 3, by omega, ?_⟩
    rintro n _ ⟨r, rfl⟩
    rcases n with _ | _ | _ | n
    · rfl
    · rfl
    · change expr? 2 .enclosed (path ++ '}' :: r) = _
      rw [expr?, term?_name start (by decide)]
      rfl
    · change expr? (n + 3) .enclosed (path ++ '}' :: r) = _
      rw [expr?, term?_name start (by decide), if_pos (by omega), if_pos (by omega)]
      exact more?_brace (n + 1) _ r
  | @step name path start rest =>
    obtain ⟨e, k, hk, hreads⟩ := readsUpTo_more? rest (.bare (nameForm (String.ofList name)))
    refine ⟨e, max k 2 + 1, by simp; omega, ?_⟩
    rintro n _ ⟨r, rfl⟩
    rcases n with _ | n
    · rfl
    · have hmore := hreads n _ ⟨r, rfl⟩
      change more? n .enclosed false (.bare (nameForm (String.ofList name))) ('.' :: (path ++ '}' :: r)) = _ at hmore
      change expr? (n + 1) .enclosed (name ++ '.' :: path ++ '}' :: r) = _
      rw [List.append_assoc, List.cons_append, expr?, term?_name start (by decide)]
      by_cases hn : 2 ≤ n
      · rw [if_pos hn]
        refine hmore.trans ?_
        by_cases hk : k ≤ n
        · rw [if_pos hk, if_pos (by omega)]
        · rw [if_neg hk, if_neg (by omega)]
      · rw [if_neg hn, if_neg (by omega)]
        rfl

/-- What an interpolation holds. -/
theorem readsUpTo_padded? (h : IsPath path) : ∃ e k, k ≤ path.length + 3 ∧
    ReadsUpTo (padded? · .enclosed) path (Starts '}') k e := by
  obtain ⟨e, k, hk, hreads⟩ := readsUpTo_expr? h
  obtain ⟨d, more, rfl, hd⟩ := h.head
  have hstep : ∀ n r, padded? (n + 1) .enclosed (d :: more ++ '}' :: r) =
      (expr? n .enclosed (d :: more ++ '}' :: r)).map fun p =>
        (p.1.between "" (blanks true p.2).1, (blanks true p.2).2) := fun n r => by
    have hblanks : blanks true (d :: more ++ '}' :: r) = ("", d :: more ++ '}' :: r) :=
      blanks_none (startsBlanks_ident hd _)
    rw [padded?, hblanks]
    dsimp only
    cases expr? n .enclosed (d :: more ++ '}' :: r) <;> rfl
  refine ⟨e.between "" "", k + 1, by omega, hreads.of_step (fun _ => rfl) ?_ ?_⟩
  · rintro n _ ⟨r, rfl⟩ hnone
    exact (hstep n r).trans (by rw [hnone]; rfl)
  · rintro n _ ⟨r, rfl⟩ - hsome
    exact (hstep n r).trans (by rw [hsome]; simp [blanks_pathSign (c := '}') (by decide)])

end Paths

section Pieces

variable {holder : Holder} {chars run tail path x z : List Char} {behind : List Char → Prop} {e : Written}
  {pieces : List Piece} {j k : Nat}

/-- A literal part is read, then what follows it. -/
theorem pieces?_run (hne : run ≠ []) (h : holder.literal chars = (run, tail)) (n : Nat) :
    pieces? (n + 1) holder chars =
      (pieces? n holder tail).map fun p => (.literal (String.ofList run) :: p.1, p.2) := by
  obtain ⟨c, run, rfl⟩ := List.exists_cons_of_ne_nil hne
  rw [pieces?.eq_def]
  dsimp only
  rw [h]
  dsimp only
  cases pieces? n holder tail <;> rfl

theorem pieces?_stop (h : holder.literal chars = ([], tail)) (hmarker : ¬ startsMarker chars = true) (n : Nat) :
    pieces? (n + 1) holder chars = some ([], chars) := by
  have hdirective : directive? chars = none := by
    unfold directive?
    split
    · exact absurd rfl hmarker
    · rfl
  rw [pieces?.eq_def]
  dsimp only
  rw [h]
  dsimp only
  split
  · exact absurd rfl hmarker
  · rw [hdirective]

/-- An interpolation of names is read, then what follows it. -/
theorem pieces?_path (hpath : IsPath path) (hread : ReadsUpTo (padded? · .enclosed) path (Starts '}') k e)
    (hliteral : ∀ r, holder.literal ('$' :: '{' :: r) = ([], '$' :: '{' :: r)) (n : Nat) (chars : List Char) :
    pieces? (n + 1) holder ('$' :: '{' :: (path ++ '}' :: chars)) = if k ≤ n then
      (pieces? n holder chars).map fun p => (.interpolation ⟨false, false⟩ e :: p.1, p.2) else none := by
  have hinside := hread n _ ⟨chars, rfl⟩
  change padded? n .enclosed (path ++ '}' :: chars) = _ at hinside
  obtain ⟨d, more, rfl, hd⟩ := hpath.head
  have htilde : d ≠ '~' := ne_of_isIdentStart hd (by decide)
  have hstrip : strip? (d :: more ++ '}' :: chars) = (false, d :: more ++ '}' :: chars) := by
    simp [strip?, htilde]
  rw [pieces?.eq_def]
  dsimp only
  rw [hliteral]
  simp only [hstrip, hinside]
  have hclosing : closing? ('}' :: chars) = some (false, chars) := rfl
  by_cases hn : k ≤ n
  · simp only [if_pos hn, Option.bind_eq_bind, Option.bind_some, hclosing]
    cases pieces? n holder chars <;> rfl
  · rw [if_neg hn, if_neg hn]
    rfl

theorem ReadsUpTo.append_run (h : ReadsUpTo (pieces? · holder) x behind k pieces) (hrun : run ≠ [])
    (hread : ∀ v, behind v → holder.literal (z ++ x ++ v) = (run, x ++ v)) :
    ReadsUpTo (pieces? · holder) (z ++ x) behind (k + 1) (.literal (String.ofList run) :: pieces) := by
  refine h.of_step (fun _ => rfl) (fun n v hv hnone => ?_) fun n v hv _ hsome => ?_
  · exact (pieces?_run hrun (hread v hv) n).trans (by rw [hnone]; rfl)
  · exact (pieces?_run hrun (hread v hv) n).trans (by rw [hsome]; rfl)

theorem ReadsUpTo.append_path (h : ReadsUpTo (pieces? · holder) x behind k pieces) (hpath : IsPath path)
    (hread : ReadsUpTo (padded? · .enclosed) path (Starts '}') j e)
    (hliteral : ∀ r, holder.literal ('$' :: '{' :: r) = ([], '$' :: '{' :: r)) :
    ReadsUpTo (pieces? · holder) ('$' :: '{' :: (path ++ '}' :: x)) behind (max j k + 1)
      (.interpolation ⟨false, false⟩ e :: pieces) := by
  intro n v hv
  rcases n with _ | n
  · rfl
  · have hrest := h n v hv
    have hchars : '$' :: '{' :: (path ++ '}' :: x) ++ v = '$' :: '{' :: (path ++ '}' :: (x ++ v)) := by simp
    dsimp only at hrest ⊢
    rw [hchars, pieces?_path hpath hread hliteral, hrest]
    by_cases hj : j ≤ n
    · by_cases hk : k ≤ n
      · rw [if_pos hj, if_pos hk, if_pos (by omega)]
        rfl
      · rw [if_pos hj, if_neg hk, if_neg (by omega)]
        rfl
    · rw [if_neg hj, if_neg (by omega)]

end Pieces

/-- What stands between the quotes of a string: characters, escapes and interpolations of names. -/
inductive IsInside : List Char → Prop where
  | nil : IsInside []
  | char {c : Char} {x : List Char} (quote : c ≠ '"') (backslash : c ≠ '\\')
      (opens : Text.isSigil c = true → x.head? ≠ some '{') (rest : IsInside x) : IsInside (c :: x)
  | escape (c : Char) {x : List Char} (rest : IsInside x) : IsInside ('\\' :: c :: x)
  | path {path x : List Char} (names : IsPath path) (rest : IsInside x) : IsInside ('$' :: '{' :: (path ++ '}' :: x))

section Markers

variable {d : Char}

/-- Whether a marker starts is told before the next character but one that is none of a marker. -/
theorem startsMarker_append (c : Char) (x r r' : List Char) :
    startsMarker (c :: (x ++ d :: r)) = startsMarker (c :: (x ++ d :: r')) := by
  rw [startsMarker_cons, startsMarker_cons]
  cases x <;> rfl

theorem startsDoubledMarker_append (hd : Text.isSigil d = false) (c : Char) (x r r' : List Char) :
    startsDoubledMarker (c :: (x ++ d :: r)) = startsDoubledMarker (c :: (x ++ d :: r')) := by
  rw [startsDoubledMarker_cons, startsDoubledMarker_cons]
  rcases x with _ | ⟨e, _ | ⟨f, x⟩⟩
  · by_cases hc : d = c
    · subst hc
      simp [hd]
    · simp [hc]
  · rfl
  · rfl

end Markers

section Runs

variable {x y r₀ run : List Char}

/-- A character with a number has no meaning of its own in a string. -/
theorem hexValue?_quote {c : Char} {digit : Nat} (h : hexValue? c = some digit) :
    c ≠ '"' ∧ c ≠ '\\' ∧ Text.isSigil c = false := by
  refine ⟨?_, ?_, ?_⟩
  · rintro rfl
    cases h
  · rintro rfl
    cases h
  · by_contra hc
    rw [Bool.not_eq_false, Text.isSigil, Bool.or_eq_true, decide_eq_true_eq, decide_eq_true_eq] at hc
    rcases hc with rfl | rfl <;> cases h

/-- Hexadecimal digits are read, or not, before the closing quote. -/
theorem hexChar?_quote (count value : Nat) (x : List Char) :
    (∀ r, hexChar? count value (x ++ '"' :: r) = none) ∨
      ∃ d y, (∀ r, hexChar? count value (x ++ '"' :: r) = some (d, y ++ '"' :: r)) ∧ (IsInside y → IsInside x) := by
  induction count generalizing value x with
  | zero =>
    by_cases hvalid : value.isValidChar
    · exact .inr ⟨Char.ofNat value, x, fun r => by rw [hexChar?, if_pos hvalid], id⟩
    · exact .inl fun r => by rw [hexChar?, if_neg hvalid]
  | succ count ih =>
    cases x with
    | nil => exact .inl fun r => rfl
    | cons c x =>
      cases hdigit : hexValue? c with
      | none => exact .inl fun r => by simp [hexChar?, hdigit]
      | some digit =>
        obtain ⟨hquote, hbackslash, hsigil⟩ := hexValue?_quote hdigit
        rcases ih (16 * value + digit) x with hnone | ⟨d, y, hread, hinside⟩
        · exact .inl fun r => by simp [hexChar?, hdigit, hnone]
        · exact .inr ⟨d, y, fun r => by simp [hexChar?, hdigit, hread], fun hy =>
            .char hquote hbackslash (by simp [hsigil]) (hinside hy)⟩

/-- An escape without a number is one character. -/
theorem escape?_single {c : Char} (hu : c ≠ 'u') (hU : c ≠ 'U') (v : List Char) :
    escape? (c :: v) = (escape? [c]).map fun p => (p.1, v) := by
  rw [escape?.eq_def, escape?.eq_def]
  dsimp only
  split <;> simp_all

/-- So are escapes, unless the quote is what is escaped. -/
theorem escape?_quote {x : List Char} (hne : x ≠ []) :
    (∀ r, escape? (x ++ '"' :: r) = none) ∨
      ∃ d y, (∀ r, escape? (x ++ '"' :: r) = some (d, y ++ '"' :: r)) ∧ (IsInside y → IsInside ('\\' :: x)) := by
  cases x with
  | nil => exact absurd rfl hne
  | cons c x =>
    simp only [List.cons_append]
    by_cases hu : c = 'u'
    · subst hu
      rcases hexChar?_quote 4 0 x with hnone | ⟨d, y, hread, hinside⟩
      · exact .inl hnone
      · exact .inr ⟨d, y, hread, fun hy => .escape _ (hinside hy)⟩
    · by_cases hU : c = 'U'
      · subst hU
        rcases hexChar?_quote 8 0 x with hnone | ⟨d, y, hread, hinside⟩
        · exact .inl hnone
        · exact .inr ⟨d, y, hread, fun hy => .escape _ (hinside hy)⟩
      · cases hd : escape? [c] with
        | none => exact .inl fun r => by rw [escape?_single hu hU, hd, Option.map_none]
        | some p => exact .inr ⟨p.1, x, fun r => by rw [escape?_single hu hU, hd, Option.map_some], .escape c⟩

/-- A run of characters that stops before the closing quote or at it does not depend on what follows the quote. -/
theorem quotedRun_quote {fuel : Nat} {started : Bool} (hfuel : (x ++ '"' :: r₀).length < fuel)
    (hdoubled : ∀ v, v <:+ x ++ '"' :: r₀ → startsDoubledMarker v = false)
    (h : quotedRun fuel started (x ++ '"' :: r₀) = (run, y ++ '"' :: r₀)) :
    (∀ r fuel', (x ++ '"' :: r).length < fuel' → quotedRun fuel' started (x ++ '"' :: r) = (run, y ++ '"' :: r)) ∧
      (IsInside y → IsInside x) := by
  induction fuel generalizing started x run with
  | zero => omega
  | succ fuel ih =>
    cases x with
    | nil =>
      have hstop : ∀ n r, quotedRun (n + 1) started ('"' :: r) = ([], '"' :: r) := fun n r => rfl
      rw [List.nil_append, hstop, Prod.mk.injEq] at h
      obtain ⟨rfl, hy⟩ := h
      obtain rfl : y = [] := by simpa using hy
      refine ⟨fun r fuel' hfuel' => ?_, id⟩
      obtain ⟨n, rfl⟩ := Nat.exists_eq_add_one_of_ne_zero (show fuel' ≠ 0 by omega)
      exact hstop n r
    | cons c x =>
      have hdoubled₀ : ∀ r, startsDoubledMarker (c :: (x ++ '"' :: r)) = false := fun r => by
        rw [startsDoubledMarker_append rfl c x r r₀]
        exact hdoubled _ (List.suffix_refl _)
      have hmarker : ∀ r, startsMarker (c :: (x ++ '"' :: r)) = startsMarker (c :: (x ++ '"' :: r₀)) :=
        fun r => startsMarker_append c x r r₀
      replace hdoubled : ∀ v, v <:+ x ++ '"' :: r₀ → startsDoubledMarker v = false :=
        fun v hv => hdoubled v (hv.trans (List.suffix_cons c _))
      rw [List.cons_append, List.length_cons] at hfuel
      rw [List.cons_append, quotedRun, hdoubled₀] at h
      -- Each way to go on is taken whatever follows the quote.
      suffices hread : (∀ r n, (x ++ '"' :: r).length < n →
          quotedRun (n + 1) started (c :: (x ++ '"' :: r)) = (run, y ++ '"' :: r)) ∧ (IsInside y → IsInside (c :: x)) by
        refine ⟨fun r fuel' hfuel' => ?_, hread.2⟩
        obtain ⟨n, rfl⟩ := Nat.exists_eq_add_one_of_ne_zero (show fuel' ≠ 0 by omega)
        exact hread.1 r n (by simpa using hfuel')
      by_cases hstop : (c = '"' || startsMarker (c :: (x ++ '"' :: r₀))) = true
      · rw [if_pos hstop, Prod.mk.injEq] at h
        obtain ⟨rfl, hy⟩ := h
        obtain rfl : y = c :: x := List.append_cancel_right hy.symm
        exact ⟨fun r n _ => by rw [quotedRun, hmarker, if_pos hstop]; rfl, id⟩
      simp only [hstop, if_false, Bool.false_eq_true] at h
      by_cases hbackslash : c = '\\'
      · subst hbackslash
        rw [if_pos rfl] at h
        by_cases hne : x = []
        · -- The closing quote would be escaped.
          subst hne
          have hlength := (suffix_quotedRun fuel true r₀).length_le
          rw [(Prod.mk.inj h).2, List.length_append, List.length_cons] at hlength
          omega
        rcases escape?_quote hne with hnone | ⟨d, z, hescape, hinside⟩
        · obtain ⟨d, x, rfl⟩ := List.exists_cons_of_ne_nil hne
          rw [hnone] at h
          cases started with
          | true =>
            obtain ⟨rfl, hy⟩ := Prod.mk.inj h
            obtain rfl : y = x := List.append_cancel_right hy.symm
            refine ⟨fun r n _ => ?_, .escape d⟩
            rw [quotedRun, hmarker, if_neg hstop, hdoubled₀, if_neg (by simp), if_pos rfl, hnone]
            rfl
          | false =>
            obtain ⟨rfl, hy⟩ := Prod.mk.inj h
            obtain rfl : y = '\\' :: d :: x := List.append_cancel_right hy.symm
            refine ⟨fun r n _ => ?_, id⟩
            rw [quotedRun, hmarker, if_neg hstop, hdoubled₀, if_neg (by simp), if_pos rfl, hnone]
            rfl
        · rw [hescape] at h
          obtain ⟨hrun, hrest⟩ := Prod.mk.inj h
          have hsuffix : z ++ '"' :: r₀ <:+ x ++ '"' :: r₀ := suffix_escape? (hescape r₀)
          have hlength := hsuffix.length_le
          have hbehind : quotedRun fuel true (z ++ '"' :: r₀) =
              ((quotedRun fuel true (z ++ '"' :: r₀)).1, y ++ '"' :: r₀) := Prod.ext rfl hrest
          obtain ⟨hread, hmore⟩ := ih (by omega) (fun v hv => hdoubled v (hv.trans hsuffix)) hbehind
          refine ⟨fun r n hn => ?_, fun hy => hinside (hmore hy)⟩
          have hshort := (suffix_escape? (hescape r)).length_le
          rw [quotedRun, hmarker, if_neg hstop, hdoubled₀, if_neg (by simp), if_pos rfl, hescape]
          simp only [hread r n (by omega), hrun]
      · rw [if_neg hbackslash, Prod.mk.injEq] at h
        obtain ⟨hrun, hrest⟩ := h
        have hbehind : quotedRun fuel true (x ++ '"' :: r₀) =
            ((quotedRun fuel true (x ++ '"' :: r₀)).1, y ++ '"' :: r₀) := Prod.ext rfl hrest
        obtain ⟨hread, hinside⟩ := ih (by omega) hdoubled hbehind
        refine ⟨fun r n hn => ?_, fun hy => ?_⟩
        · rw [quotedRun, hmarker, if_neg hstop, hdoubled₀, if_neg (by simp), if_neg hbackslash, hread r n hn]
          simp only [hrun]
        · rw [startsMarker_cons, Bool.or_eq_true, decide_eq_true_eq, not_or] at hstop
          refine .char hstop.1 hbackslash (fun hsigil hhead => hstop.2 ?_) (hinside hy)
          obtain ⟨z, rfl⟩ := List.head?_eq_some_iff.mp hhead
          simp [hsigil]

end Runs

/-- All interpolations in a text hold names, no directive starts in it and no marker is doubled. -/
structure IsMarked (text : List Char) : Prop where
  doubled : ∀ v, v <:+ text → startsDoubledMarker v = false
  paths : ∀ v, v <:+ text → startsMarker v = true → ∃ path r, IsPath path ∧ v = '$' :: '{' :: (path ++ '}' :: r)

theorem IsMarked.of_suffix {v text : List Char} (h : IsMarked text) (hv : v <:+ text) : IsMarked v :=
  ⟨fun u hu => h.doubled u (hu.trans hv), fun u hu => h.paths u (hu.trans hv)⟩

section Strings

variable {v x y r₀ : List Char}

/-- A run that is not empty takes characters. -/
theorem length_quotedRun {fuel : Nat} {started : Bool} {s : List Char} (h : (quotedRun fuel started s).1 ≠ []) :
    (quotedRun fuel started s).2.length < s.length := by
  cases fuel with
  | zero => exact absurd rfl h
  | succ fuel =>
    cases s with
    | nil => exact absurd rfl h
    | cons c s =>
      have hbehind : ∀ v, v <:+ s → (quotedRun fuel true v).2.length < (c :: s).length := fun v hv =>
        Nat.lt_succ_of_le ((suffix_quotedRun fuel true v).trans hv).length_le
      rw [quotedRun] at h ⊢
      split at h
      · exact absurd rfl h
      next hstop =>
      rw [if_neg hstop]
      split
      · exact hbehind _ (List.drop_suffix 2 s)
      next hdoubled =>
      rw [if_neg hdoubled] at h
      split
      next hbackslash =>
        rw [if_pos hbackslash] at h
        cases hescape : escape? s with
        | some p => exact hbehind _ (suffix_escape? (c := p.1) hescape)
        | none =>
          rw [hescape] at h
          cases started <;> exact absurd rfl h
      · exact hbehind _ (List.suffix_refl s)

/-- What stands between quotes is read as `pieces`, whatever follows the closing one. -/
structure ReadsInside (x : List Char) (pieces : List Piece) : Prop where
  inside : IsInside x
  run : ∃ run y, ∀ r, quotedChars (x ++ '"' :: r) = (run, y ++ '"' :: r)
  reads : ∃ k ≤ 8 * x.length + 1, ReadsUpTo (pieces? · .quoted) x (Starts '"') k pieces

theorem readsInside_nil : ReadsInside [] [] := by
  refine ⟨.nil, ⟨[], [], fun r => rfl⟩, 1, by simp, ?_⟩
  rintro (_ | n) _ ⟨r, rfl⟩ <;> rfl

theorem ReadsInside.path {x path : List Char} {pieces : List Piece} {e : Written} {j : Nat} (h : ReadsInside x pieces)
    (hpath : IsPath path) (hj : j ≤ path.length + 3)
    (hread : ReadsUpTo (padded? · .enclosed) path (Starts '}') j e) :
    ReadsInside ('$' :: '{' :: (path ++ '}' :: x)) (.interpolation ⟨false, false⟩ e :: pieces) := by
  obtain ⟨k, hk, hreads⟩ := h.reads
  refine ⟨.path hpath h.inside, ⟨[], '$' :: '{' :: (path ++ '}' :: x), fun r => rfl⟩, max j k + 1, ?_,
    hreads.append_path hpath hread fun r => rfl⟩
  simp only [List.length_cons, List.length_append]
  omega

theorem ReadsInside.run_append {x z run : List Char} {pieces : List Piece} (h : ReadsInside x pieces) (hrun : run ≠ [])
    (hz : z ≠ []) (hinside : IsInside x → IsInside (z ++ x))
    (hread : ∀ r, quotedChars (z ++ x ++ '"' :: r) = (run, x ++ '"' :: r)) :
    ReadsInside (z ++ x) (.literal (String.ofList run) :: pieces) := by
  obtain ⟨k, hk, hreads⟩ := h.reads
  have hlength := List.length_pos_of_ne_nil hz
  refine ⟨hinside h.inside, ⟨run, x, hread⟩, k + 1, by rw [List.length_append]; omega, hreads.append_run hrun ?_⟩
  rintro _ ⟨r, rfl⟩
  exact hread r

/-- A string literal with parts. -/
theorem ReadsInside.isLiteral {x : List Char} {pieces : List Piece} (h : ReadsInside x pieces)
    (hplain : ∃ r, plainString? ('"' :: (x ++ '"' :: r)) = none) : IsLiteral ('"' :: (x ++ ['"'])) := by
  obtain ⟨run, y, hrun⟩ := h.run
  obtain ⟨k, hk, hreads⟩ := h.reads
  have hnone : ∀ r, plainString? ('"' :: (x ++ '"' :: r)) = none := by
    obtain ⟨r₀, hplain⟩ := hplain
    intro r
    rw [plainString?, hrun] at hplain ⊢
    cases y with
    | nil => cases hplain
    | cons c y =>
      by_cases hc : c = '"'
      · subst hc
        cases hplain
      · simp [hc]
  have hread : ∀ n m op? r, term? (n + 1) m op? ('"' :: (x ++ '"' :: r)) = if k ≤ n then
      some ((applyPending op? (.bare (.quoted pieces)), m.lines), r) else none := by
    intro n m op? r
    have hpieces := hreads n _ ⟨r, rfl⟩
    change pieces? n .quoted (x ++ '"' :: r) = _ at hpieces
    rw [term?.eq_def]
    simp only [hnone, hpieces]
    by_cases hn : k ≤ n
    · rw [if_pos hn, if_pos hn]
      rfl
    · rw [if_neg hn, if_neg hn]
      rfl
  refine ⟨rfl, ⟨'"' :: x, '"', rfl, by decide⟩, .bare (.quoted pieces), fun n m op? r => ?_⟩
  rw [List.cons_append, List.append_assoc, List.singleton_append]
  rcases n with _ | n
  · exact ⟨fun p hp => (by cases hp), fun hn => absurd hn (by omega)⟩
  · rw [hread]
    by_cases hn : k ≤ n
    · rw [if_pos hn]
      exact ⟨fun p hp => (Option.some.inj hp).symm, fun _ => rfl⟩
    · rw [if_neg hn]
      refine ⟨fun p hp => (by cases hp), fun hlength => absurd hlength ?_⟩
      simp only [List.length_cons, List.length_append]
      omega

/-- The parts of a string are read up to its closing quote. -/
theorem exists_readsInside {n : Nat} {pieces : List Piece} (hmarked : IsMarked v)
    (h : pieces? n .quoted v = some (pieces, '"' :: r₀)) : ∃ x, v = x ++ '"' :: r₀ ∧ ReadsInside x pieces := by
  induction n generalizing v pieces with
  | zero => cases h
  | succ n ih =>
    rcases hread : quotedChars v with ⟨run, t⟩
    have hliteral : Holder.quoted.literal v = (run, t) := hread
    by_cases hrun : run = []
    · subst hrun
      by_cases hmarker : startsMarker v = true
      · obtain ⟨path, rest, hpath, rfl⟩ := hmarked.paths v (List.suffix_refl v) hmarker
        obtain ⟨e, j, hj, hinside⟩ := readsUpTo_padded? hpath
        rw [pieces?_path hpath hinside fun r => rfl] at h
        by_cases hn : j ≤ n
        · rw [if_pos hn, Option.map_eq_some_iff] at h
          obtain ⟨⟨more, behind⟩, hmore, hpair⟩ := h
          obtain ⟨rfl, rfl⟩ := Prod.mk.inj hpair
          have hsuffix : rest <:+ '$' :: '{' :: (path ++ '}' :: rest) := ⟨'$' :: '{' :: (path ++ ['}']), by simp⟩
          obtain ⟨x, rfl, hx⟩ := ih (hmarked.of_suffix hsuffix) hmore
          exact ⟨'$' :: '{' :: (path ++ '}' :: x), by simp, hx.path hpath hj hinside⟩
        · rw [if_neg hn] at h
          cases h
      · have hstop : pieces? (n + 1) .quoted v = some ([], v) := pieces?_stop hliteral hmarker n
        obtain ⟨rfl, rfl⟩ := Prod.mk.inj (Option.some.inj (hstop.symm.trans h))
        exact ⟨[], rfl, readsInside_nil⟩
    · have hstep : pieces? (n + 1) .quoted v =
          (pieces? n .quoted t).map fun p => (.literal (String.ofList run) :: p.1, p.2) :=
        pieces?_run hrun hliteral n
      rw [hstep, Option.map_eq_some_iff] at h
      obtain ⟨⟨more, rest⟩, hmore, hpieces⟩ := h
      obtain ⟨rfl, rfl⟩ := Prod.mk.inj hpieces
      have hsuffix := suffix_quotedRun (v.length + 1) false v
      have hlength : (quotedRun (v.length + 1) false v).2.length < v.length :=
        length_quotedRun (by rwa [← quotedChars, hread])
      rw [← quotedChars, hread] at hsuffix hlength
      obtain ⟨y, rfl, hy⟩ := ih (hmarked.of_suffix hsuffix) hmore
      obtain ⟨z, rfl⟩ := hsuffix
      have hz : z ≠ [] := by
        rintro rfl
        exact absurd hlength (by simp)
      rw [← List.append_assoc] at hread hmarked
      obtain ⟨hruns, hinside⟩ := quotedRun_quote (Nat.lt_succ_self _) hmarked.doubled hread
      exact ⟨z ++ y, by rw [List.append_assoc], hy.run_append hrun hz hinside fun r => hruns r _ (Nat.lt_succ_self _)⟩

/-- A string literal without interpolations ends with its closing quote. -/
theorem exists_plainString {text : String} (hdoubled : ∀ u, u <:+ v → startsDoubledMarker u = false)
    (h : plainString? ('"' :: v) = some (text, r₀)) :
    ∃ x, v = x ++ '"' :: r₀ ∧ IsInside x ∧ ∀ r, plainString? ('"' :: (x ++ '"' :: r)) = some (text, r) := by
  rcases hread : quotedChars v with ⟨run, t⟩
  have hsuffix := suffix_quotedRun (v.length + 1) false v
  rw [← quotedChars, hread] at hsuffix
  rw [plainString?, hread] at h
  split at h
  next heq =>
    obtain ⟨rfl, rfl⟩ := Prod.mk.inj heq
    obtain ⟨rfl, rfl⟩ := Prod.mk.inj (Option.some.inj h)
    obtain ⟨x, rfl⟩ := hsuffix
    obtain ⟨hrun, hinside⟩ := quotedRun_quote (y := []) (Nat.lt_succ_self _) hdoubled hread
    refine ⟨x, rfl, hinside .nil, fun r => ?_⟩
    rw [plainString?, quotedChars, hrun r _ (Nat.lt_succ_self _)]
    rfl
  · cases h

/-- A string literal whose interpolations hold names is read whatever follows it. -/
theorem exists_string {n : Nat} {m : Manner} {op? : Option (UnaryOp × String)} {value : Written × Bool}
    (hmarked : IsMarked v) (h : term? n m op? ('"' :: v) = some (value, r₀)) :
    ∃ x, v = x ++ '"' :: r₀ ∧ IsInside x ∧ IsLiteral ('"' :: (x ++ ['"'])) := by
  cases n with
  | zero => cases h
  | succ n =>
    rw [term?.eq_def] at h
    dsimp only at h
    cases hplain : plainString? ('"' :: v) with
    | some p =>
      rw [hplain] at h
      obtain ⟨-, hr⟩ := Prod.mk.inj (Option.some.inj h)
      have hstring : plainString? ('"' :: v) = some (p.1, r₀) := by rw [hplain, ← hr]
      obtain ⟨x, rfl, hinside, hread⟩ := exists_plainString hmarked.doubled hstring
      exact ⟨x, rfl, hinside, isLiteral_of_plainString hread⟩
    | none =>
      rw [hplain] at h
      obtain ⟨⟨pieces, rest⟩, hpieces, h⟩ := Option.bind_eq_some_iff.mp h
      dsimp only at h
      split at h
      next heq =>
        obtain ⟨-, rfl⟩ := Prod.mk.inj (Option.some.inj h)
        obtain ⟨x, rfl, hx⟩ := exists_readsInside hmarked hpieces
        exact ⟨x, rfl, hx.inside, hx.isLiteral ⟨_, hplain⟩⟩
      · cases h

end Strings

section Heredocs

variable {name run body w v : List Char}

/-- Whether nothing in a part of the lines of a heredoc closes it or starts a template. What is `behind` that part
lasts until the newline before the line that closes it. -/
def isPlainRun (name behind : List Char) : List Char → Bool
  | [] => true
  | c :: run =>
    c != '\r' && !closesHeredoc name (c :: (run ++ behind) ++ ['\n']) &&
      !startsMarker (c :: (run ++ behind) ++ ['\n']) && !startsDoubledMarker (c :: (run ++ behind) ++ ['\n']) &&
      isPlainRun name behind run

/-- The lines of a heredoc: interpolations of names, and parts in which nothing closes it or starts a template. -/
inductive IsBody (name : List Char) : List Char → Prop where
  | nil : IsBody name []
  | run {run body : List Char} (plain : isPlainRun name body run = true) (stop : body = [] ∨ startsMarker body = true)
      (rest : IsBody name body) : IsBody name (run ++ body)
  | path {path body : List Char} (names : IsPath path) (rest : IsBody name body) :
      IsBody name ('$' :: '{' :: (path ++ '}' :: body))

theorem IsBody.of_plain (h : isPlainRun name [] run = true) : IsBody name run := by
  simpa using IsBody.run h (.inl rfl) .nil

/-- Where a literal part of a heredoc ends. -/
structure EndsRun (name w : List Char) : Prop where
  stops : (closesHeredoc name w || startsMarker w) = true
  doubled : startsDoubledMarker w = false

theorem EndsRun.textRun? (h : EndsRun name w) : Source.textRun? (closesHeredoc name) w = some ([], w) := by
  cases w with
  | nil => cases h.stops
  | cons c w => rw [Source.textRun?, h.stops, Bool.true_or, if_pos rfl]

theorem EndsRun.rawRun (h : EndsRun name w) (fuel : Nat) :
    Source.rawRun (closesHeredoc name) (fuel + 1) w = ([], w) := by
  cases w with
  | nil => rfl
  | cons c w => simp [Source.rawRun, h.doubled, h.textRun?]

theorem Closing.endsRun (hv : Closing name v) (hbody : body = [] ∨ startsMarker body = true) :
    EndsRun name (body ++ v) := by
  obtain ⟨hnewline, hcloses⟩ := hv
  obtain ⟨v, rfl⟩ := List.head?_eq_some_iff.mp hnewline
  rcases hbody with rfl | hmarker
  · exact ⟨by rw [List.nil_append, hcloses, Bool.true_or], rfl⟩
  · cases body with
    | nil => cases hmarker
    | cons c body =>
      have hmarker' : startsMarker (c :: body ++ '\n' :: v) = true := by
        rw [startsMarker_cons] at hmarker
        rw [List.cons_append, startsMarker_cons]
        cases body with
        | nil => simp at hmarker
        | cons d body => exact hmarker
      exact ⟨by rw [hmarker', Bool.or_true], not_startsDoubledMarker_of_startsMarker hmarker'⟩

theorem textRun?_plainRun (hname : '\n' ∉ name) (hrun : isPlainRun name body run = true)
    (hv : Closing name v) (hend : EndsRun name (body ++ v)) :
    textRun? (closesHeredoc name) (run ++ (body ++ v)) = some (run, body ++ v) := by
  induction run with
  | nil => exact hend.textRun?
  | cons c run ih =>
    obtain ⟨v, rfl⟩ := List.head?_eq_some_iff.mp hv.1
    simp only [isPlainRun, Bool.and_eq_true, Bool.not_eq_true', bne_iff_ne] at hrun
    obtain ⟨⟨⟨⟨hc, hcloses⟩, hmarker⟩, hdoubled⟩, hmore⟩ := hrun
    rw [← closesHeredoc_append hname (by simp) (by simp [hc]) v] at hcloses
    rw [List.cons_append, startsMarker_append c _ [] v] at hmarker
    rw [List.cons_append, startsDoubledMarker_append rfl c _ [] v] at hdoubled
    simp only [List.cons_append, List.append_assoc] at hcloses hmarker hdoubled ⊢
    rw [textRun?, hcloses, hmarker, hdoubled]
    simp [ih hmore]

/-- A literal part of the lines of a heredoc. -/
theorem literal_plainRun (hname : '\n' ∉ name) (hne : run ≠ []) (hrun : isPlainRun name body run = true)
    (hv : Closing name v) (hbody : body = [] ∨ startsMarker body = true) :
    (Holder.heredoc name).literal (run ++ body ++ v) = (run, body ++ v) := by
  have hend := hv.endsRun hbody
  have htext := textRun?_plainRun hname hrun hv hend
  rw [List.append_assoc]
  obtain ⟨c, run, rfl⟩ := List.exists_cons_of_ne_nil hne
  have hdoubled : startsDoubledMarker (c :: (run ++ (body ++ v))) = false := by
    by_contra hdoubled
    rw [Bool.not_eq_false] at hdoubled
    simp [textRun?, hdoubled] at htext
  rw [List.cons_append] at htext ⊢
  simp only [Holder.literal, rawChars, List.length_cons]
  rw [rawRun]
  simp [hdoubled, htext, hend.rawRun]

/-- The lines of a heredoc are read up to the one that closes it. -/
theorem IsBody.readsUpTo (h : IsBody name body) (hname : '\n' ∉ name) :
    ∃ pieces, ∃ k ≤ 8 * body.length + 1, ReadsUpTo (pieces? · (.heredoc name)) body (Closing name) k pieces := by
  induction h with
  | nil =>
    refine ⟨[], 1, by simp, ?_⟩
    rintro (_ | n) v hv
    · rfl
    · have hend : EndsRun name v := hv.endsRun (.inl rfl)
      have hmarker : ¬ startsMarker v = true := by
        obtain ⟨v, rfl⟩ := List.head?_eq_some_iff.mp hv.1
        exact Bool.false_ne_true
      have hliteral : (Holder.heredoc name).literal v = ([], v) := hend.rawRun v.length
      exact pieces?_stop hliteral hmarker n
  | @run run body plain stop rest ih =>
    obtain ⟨pieces, k, hk, hreads⟩ := ih
    by_cases hne : run = []
    · subst hne
      exact ⟨pieces, k, hk, hreads⟩
    · have hlength := List.length_pos_of_ne_nil hne
      exact ⟨_, k + 1, by rw [List.length_append]; omega,
        hreads.append_run hne fun v hv => literal_plainRun hname hne plain hv stop⟩
  | @path path body names rest ih =>
    obtain ⟨pieces, k, hk, hreads⟩ := ih
    obtain ⟨e, j, hj, hread⟩ := readsUpTo_padded? names
    refine ⟨_, max j k + 1, ?_, hreads.append_path names hread fun r => ?_⟩
    · simp only [List.length_cons, List.length_append]
      omega
    · exact EndsRun.rawRun ⟨rfl, rfl⟩ _

/-- A heredoc whose interpolations hold names. -/
theorem isLiteral_body {dash : Bool} {margin : List Char} (hname : IsDelimiter name) (hbody : IsBody name body)
    (hmargin : ∀ c ∈ margin, isIndent c = true) : IsLiteral (heredocText dash name body margin) := by
  obtain ⟨pieces, k, hk, hreads⟩ := hbody.readsUpTo hname.newline_not_mem
  exact isLiteral_heredoc hname hmargin hk hreads

end Heredocs

end Terrasmith.Source
