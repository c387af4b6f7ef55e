/-!
Positions in a text: byte offsets as lines and columns, both counted from one. A text is indexed once by the
offsets at which its lines begin, and the line of an offset is searched for among them by halving.
-/
namespace Terrasmith.Text

/-- Offsets at which the lines of `chars` begin, where `offset` is the offset of the first of `chars`. The
line that is already under way is not listed. -/
def lineStartsFrom : (offset : Nat) → (chars : List Char) → List Nat
  | _, [] => []
  | offset, c :: rest =>
    let next := offset + c.utf8Size
    if c = '\n' then next :: lineStartsFrom next rest else lineStartsFrom next rest

theorem lt_of_mem_lineStartsFrom {start : Nat} : {offset : Nat} → {chars : List Char} →
    start ∈ lineStartsFrom offset chars → offset < start
  | offset, c :: rest, h => by
    have hsize := c.utf8Size_pos
    simp only [lineStartsFrom] at h
    split at h
    · rcases List.mem_cons.mp h with rfl | h
      · omega
      · have := lt_of_mem_lineStartsFrom h
        omega
    · have := lt_of_mem_lineStartsFrom h
      omega

theorem lineStartsFrom_rising : (offset : Nat) → (chars : List Char) →
    (lineStartsFrom offset chars).Pairwise (· < ·)
  | _, [] => .nil
  | offset, c :: rest => by
    have ih := lineStartsFrom_rising (offset + c.utf8Size) rest
    simp only [lineStartsFrom]
    split
    · exact List.pairwise_cons.mpr ⟨fun _ => lt_of_mem_lineStartsFrom, ih⟩
    · exact ih

/-- The offsets at which the lines of a text begin. -/
structure LineIndex where
  starts : Array Nat
  first : starts[0]? = some 0
  rising : starts.toList.Pairwise (· < ·)
  deriving Repr, DecidableEq

def LineIndex.ofText (text : String) : LineIndex where
  starts := (0 :: lineStartsFrom 0 text.toList).toArray
  first := rfl
  rising := List.pairwise_cons.mpr ⟨fun _ => lt_of_mem_lineStartsFrom, lineStartsFrom_rising 0 text.toList⟩

instance : Inhabited LineIndex := ⟨.ofText ""⟩

/-- Searches for `offset` in `starts` from `low` up to `high` by halving: the place where it stands is `ok`, and
the one where it would have to be inserted is an `error`. -/
def search (starts : Array Nat) (offset low high : Nat) (hhigh : high ≤ starts.size) : Except Nat Nat :=
  if hlow : low < high then
    let middle := low + (high - low) / 2
    have hmiddle : middle < starts.size := by omega
    if starts[middle] = offset then .ok middle
    else if starts[middle] < offset then search starts offset (middle + 1) high hhigh
    else search starts offset low middle (Nat.le_of_lt hmiddle)
  else .error low
termination_by high - low

/-- All of `starts` before `low` is below `offset`, and all from `high` on is above. -/
structure Splits (starts : Array Nat) (offset low high : Nat) : Prop where
  below : ∀ i (hi : i < starts.size), i < low → starts[i] < offset
  above : ∀ i (hi : i < starts.size), high ≤ i → offset < starts[i]

/-- What the answer of a search says about `offset`. -/
def Locates (starts : Array Nat) (offset : Nat) : Except Nat Nat → Prop
  | .ok place => starts[place]? = some offset
  | .error place => place ≤ starts.size ∧ Splits starts offset place place

theorem getElem_lt_getElem {starts : Array Nat} (hrising : starts.toList.Pairwise (· < ·)) {i j : Nat}
    (hj : j < starts.size) (h : i < j) : starts[i] < starts[j] := by
  rw [← Array.getElem_toList, ← Array.getElem_toList]
  exact List.pairwise_iff_getElem.mp hrising i j (by simp; omega) (by simpa) h

/-- Halving keeps what lies below and above apart, so the search ends between them. -/
theorem locates_search {starts : Array Nat} (hrising : starts.toList.Pairwise (· < ·)) {offset low high : Nat}
    (hhigh : high ≤ starts.size) (hlow : low ≤ high) (hsplits : Splits starts offset low high) :
    Locates starts offset (search starts offset low high hhigh) := by
  fun_induction search starts offset low high hhigh with
  | case1 low high hhigh hlt middle hmiddle hhit =>
    exact (Array.getElem?_eq_getElem hmiddle).trans (congrArg some hhit)
  | case2 low high hhigh hlt middle hmiddle hmiss hless ih =>
    refine ih (by omega) ⟨fun i hi hbefore => ?_, hsplits.above⟩
    rcases Nat.lt_or_eq_of_le (Nat.le_of_lt_succ hbefore) with hbefore | rfl
    · exact Nat.lt_trans (getElem_lt_getElem hrising hmiddle hbefore) hless
    · exact hless
  | case3 low high hhigh hlt middle hmiddle hmiss hless ih =>
    have hmore : offset < starts[middle] := by omega
    refine ih (by omega) ⟨hsplits.below, fun i hi hbehind => ?_⟩
    rcases Nat.lt_or_eq_of_le hbehind with hbehind | rfl
    · exact Nat.lt_trans hmore (getElem_lt_getElem hrising hi hbehind)
    · exact hmore
  | case4 low high hhigh hlt =>
    obtain rfl : low = high := by omega
    exact ⟨hhigh, hsplits⟩

/-- Subtraction that gives nothing where it would fall below zero. -/
def minus? (m n : Nat) : Option Nat :=
  if n ≤ m then some (m - n) else none

theorem minus?_of_le {m n : Nat} (h : n ≤ m) : minus? m n = some (m - n) := if_pos h

/-- The greatest number of 64 bits. Offsets, lines and columns fit into that. -/
def wordMax : Nat := 18446744073709551615

/-- Addition that gives nothing where it would leave the machine word. -/
def plus? (m n : Nat) : Option Nat :=
  if m + n ≤ wordMax then some (m + n) else none

theorem plus?_of_le {m n : Nat} (h : m + n ≤ wordMax) : plus? m n = some (m + n) := if_pos h

theorem plus?_of_lt {m n : Nat} (h : wordMax < m + n) : plus? m n = none := if_neg (Nat.not_le_of_lt h)

/-- The place of the last line that begins at `offset` or before, and where it begins. -/
structure LineIndex.LastStart (index : LineIndex) (offset line start : Nat) : Prop where
  stands : index.starts[line]? = some start
  le : start ≤ offset
  after : ∀ next, index.starts[line + 1]? = some next → offset < next

/-- The line and column of a byte offset, unless an access, a subtraction or an addition on the way is out of
bounds. -/
def LineIndex.position? (index : LineIndex) (offset : Nat) : Option (Nat × Nat) := do
  let line ← match search index.starts offset 0 index.starts.size (Nat.le_refl _) with
    | .ok line => some line
    | .error next => minus? next 1
  let start ← index.starts[line]?
  let column ← minus? offset start
  return (← plus? line 1, ← plus? column 1)

/-- The line of an offset is the one that begins there, or the one before the place where it is missed; the
first line begins at zero, so there is one. What is left to do is to count from one. -/
theorem LineIndex.exists_lastStart (index : LineIndex) (offset : Nat) :
    ∃ line start, index.LastStart offset line start ∧
      index.position? offset = do return (← plus? line 1, ← plus? (offset - start) 1) := by
  have hlocates : Locates index.starts offset _ :=
    locates_search index.rising (Nat.le_refl index.starts.size) (Nat.zero_le _) ⟨by omega, by omega⟩
  obtain ⟨hsize, hzero⟩ := Array.getElem?_eq_some_iff.mp index.first
  cases hsearch : search index.starts offset 0 index.starts.size (Nat.le_refl _) with
  | ok line =>
    have hstart : index.starts[line]? = some offset := by rwa [hsearch] at hlocates
    obtain ⟨hline, heq⟩ := Array.getElem?_eq_some_iff.mp hstart
    refine ⟨line, offset, ⟨hstart, Nat.le_refl _, fun next hnext => ?_⟩, ?_⟩
    · obtain ⟨hbound, rfl⟩ := Array.getElem?_eq_some_iff.mp hnext
      exact heq ▸ getElem_lt_getElem index.rising hbound (Nat.lt_succ_self line)
    · simp [position?, hsearch, hstart, minus?_of_le]
  | error place =>
    obtain ⟨hplace, hsplits⟩ : place ≤ index.starts.size ∧ Splits index.starts offset place place := by
      rwa [hsearch] at hlocates
    have hpos : 0 < place := by
      rcases Nat.eq_zero_or_pos place with rfl | hpos
      · have := hsplits.above 0 hsize (Nat.le_refl 0)
        omega
      · exact hpos
    have hline : place - 1 < index.starts.size := by omega
    have hle : index.starts[place - 1] ≤ offset := Nat.le_of_lt (hsplits.below _ hline (by omega))
    refine ⟨place - 1, index.starts[place - 1], ⟨Array.getElem?_eq_getElem hline, hle, fun next hnext => ?_⟩, ?_⟩
    · obtain ⟨hbound, rfl⟩ := Array.getElem?_eq_some_iff.mp hnext
      exact hsplits.above _ hbound (by omega)
    · simp [position?, hsearch, minus?_of_le hpos, minus?_of_le hle, Array.getElem?_eq_getElem hline]

/-- The line and column of a byte offset. The greatest offset there is has no column on the first line: counting
wraps around to zero. -/
def LineIndex.position (index : LineIndex) (offset : Nat) : Nat × Nat :=
  (index.position? offset).getD (1, 0)

end Terrasmith.Text
