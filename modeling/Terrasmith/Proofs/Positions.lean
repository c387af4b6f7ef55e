import Mathlib.Data.Prod.Lex
import Mathlib.Order.Interval.Set.Defs
import Terrasmith.Text.LineIndex

/-!
Lines and columns are those of the bytes. The search among the line starts ends at the last one that is not behind
the offset, whatever the offset is; in the bytes of the text that is the place behind the last newline before the
offset, and as many lines begin up to there as newlines stand before, and the first. Counting them and the column
from one stays within a machine word for every offset but the greatest.
-/
namespace Terrasmith.Text

/-! ## The line of an offset -/

namespace LineIndex

variable {index : LineIndex} {offset line start : Nat}

/-- Lines that begin up to the last start are not behind it, and all others begin behind the offset. -/
theorem LastStart.apart (h : index.LastStart offset line start) {j begin : Nat}
    (hj : index.starts[j]? = some begin) : j ≤ line ∧ begin ≤ start ∨ line < j ∧ offset < begin := by
  obtain ⟨hbound, rfl⟩ := Array.getElem?_eq_some_iff.mp hj
  obtain ⟨hline, rfl⟩ := Array.getElem?_eq_some_iff.mp h.stands
  rcases Nat.lt_trichotomy j line with hlt | rfl | hgt
  · exact .inl ⟨hlt.le, (getElem_lt_getElem index.rising hline hlt).le⟩
  · exact .inl ⟨le_rfl, le_rfl⟩
  · have hnext : line + 1 < index.starts.size := Nat.lt_of_le_of_lt hgt hbound
    have hoffset := h.after _ (Array.getElem?_eq_getElem hnext)
    rcases Nat.lt_or_eq_of_le (Nat.succ_le_of_lt hgt) with hlt | heq
    · exact .inr ⟨hgt, hoffset.trans (getElem_lt_getElem index.rising hbound hlt)⟩
    · subst heq
      exact .inr ⟨hgt, hoffset⟩

/-- The number of the line of an offset is the number of lines that begin up to it. -/
theorem LastStart.countP_le (h : index.LastStart offset line start) :
    index.starts.toList.countP (· ≤ offset) = line + 1 := by
  obtain ⟨hline, -⟩ := Array.getElem?_eq_some_iff.mp h.stands
  have hat {j begin : Nat} (hj : index.starts.toList[j]? = some begin) := h.apart (by simpa using hj)
  have hupTo : ∀ begin ∈ index.starts.toList.take (line + 1), begin ≤ offset := by
    intro begin hbegin
    obtain ⟨j, hj⟩ := List.mem_iff_getElem?.mp hbegin
    rw [List.getElem?_take] at hj
    split at hj
    · rcases hat hj with ⟨-, hle⟩ | ⟨hgt, -⟩
      · exact hle.trans h.le
      · omega
    · cases hj
  have hbehind : ∀ begin ∈ index.starts.toList.drop (line + 1), ¬ begin ≤ offset := by
    intro begin hbegin
    obtain ⟨j, hj⟩ := List.mem_iff_getElem?.mp hbegin
    rw [List.getElem?_drop] at hj
    rcases hat hj with ⟨hle, -⟩ | ⟨-, hlt⟩
    · omega
    · exact hlt.not_ge
  calc index.starts.toList.countP (· ≤ offset)
      = (index.starts.toList.take (line + 1)).countP (· ≤ offset)
        + (index.starts.toList.drop (line + 1)).countP (· ≤ offset) := by
          rw [← List.countP_append, List.take_append_drop]
    _ = (index.starts.toList.take (line + 1)).length + 0 := by
          rw [List.countP_eq_length.mpr (by simpa using hupTo), List.countP_eq_zero.mpr (by simpa using hbehind)]
    _ = line + 1 := by simp; omega

/-- Every line but the first takes a byte of those before it. -/
theorem le_getElem_starts (index : LineIndex) {line : Nat} (h : line < index.starts.size) :
    line ≤ index.starts[line] := by
  induction line with
  | zero => exact Nat.zero_le _
  | succ line ih =>
    have hstep := getElem_lt_getElem index.rising h (Nat.lt_succ_self line)
    have := ih (Nat.lt_of_succ_lt h)
    omega

theorem LastStart.line_le (h : index.LastStart offset line start) : line ≤ start := by
  obtain ⟨hline, rfl⟩ := Array.getElem?_eq_some_iff.mp h.stands
  exact index.le_getElem_starts hline

/-- Below the greatest offset nothing is out of bounds. -/
theorem exists_position? (index : LineIndex) (h : offset < wordMax) : ∃ line start, index.LastStart offset line start ∧
    index.position? offset = some (line + 1, offset - start + 1) := by
  obtain ⟨line, start, hlast, heq⟩ := index.exists_lastStart offset
  have hline := hlast.line_le
  have hstart := hlast.le
  refine ⟨line, start, hlast, heq.trans ?_⟩
  rw [plus?_of_le (by omega), plus?_of_le (by omega)]
  rfl

theorem position_eq_of_position? {place : Nat × Nat} (h : index.position? offset = some place) :
    index.position offset = place := by
  rw [position, h, Option.getD_some]

/-- A later offset is on a later line or, on the same one, in a later column. -/
theorem position_lt_position (index : LineIndex) {offset other : Nat} (h : offset < other) (hother : other < wordMax) :
    toLex (index.position offset) < toLex (index.position other) := by
  obtain ⟨line, start, hlast, heq⟩ := index.exists_position? (h.trans hother)
  obtain ⟨line', start', hlast', heq'⟩ := index.exists_position? hother
  rw [position_eq_of_position? heq, position_eq_of_position? heq', Prod.Lex.toLex_lt_toLex]
  have hle : line ≤ line' := by
    rcases hlast'.apart hlast.stands with ⟨hle, -⟩ | ⟨-, hlt⟩
    · exact hle
    · have := hlast.le
      omega
  rcases Nat.lt_or_eq_of_le hle with hlt | rfl
  · exact .inl (by simpa using hlt)
  · obtain rfl : start = start' := Option.some.inj (hlast.stands.symm.trans hlast'.stands)
    have := hlast.le
    exact .inr ⟨rfl, by simp only; omega⟩

end LineIndex

/-! ## Line starts in the bytes -/

def newline : UInt8 := 10

def bytesOf (text : String) : List UInt8 := text.toUTF8.data.toList

theorem bytesOf_eq (text : String) : bytesOf text = text.toList.flatMap String.utf8EncodeChar := by
  rw [bytesOf, String.toUTF8_eq_toByteArray, ← String.utf8Encode_toList, List.utf8Encode, List.toList_data_toByteArray]

/-- The offsets behind the newlines of `bytes`, where `offset` is the offset of the first of them. -/
def lineStartsIn : (offset : Nat) → (bytes : List UInt8) → List Nat
  | _, [] => []
  | offset, b :: rest =>
    if b = newline then (offset + 1) :: lineStartsIn (offset + 1) rest else lineStartsIn (offset + 1) rest

theorem lineStartsIn_append (offset : Nat) (bytes more : List UInt8) :
    lineStartsIn offset (bytes ++ more) = lineStartsIn offset bytes ++ lineStartsIn (offset + bytes.length) more := by
  induction bytes generalizing offset with
  | nil => rfl
  | cons b rest ih =>
    rw [List.cons_append, lineStartsIn, lineStartsIn, ih, List.length_cons, Nat.add_right_comm, ← Nat.add_assoc]
    split <;> rfl

theorem lineStartsIn_eq_nil {bytes : List UInt8} (h : newline ∉ bytes) (offset : Nat) :
    lineStartsIn offset bytes = [] := by
  induction bytes generalizing offset with
  | nil => rfl
  | cons b rest ih =>
    rw [List.mem_cons, not_or] at h
    rw [lineStartsIn, if_neg (Ne.symm h.1), ih h.2]

/-- No character but the newline has its byte among its own. -/
theorem newline_notMem_utf8EncodeChar {c : Char} (h : c ≠ '\n') : newline ∉ String.utf8EncodeChar c := by
  have hvalue (n : Nat) (heq : newline = UInt8.ofNat n) : n % 256 = 10 := by
    rw [← UInt8.toNat_ofNat', ← heq]
    rfl
  have hlead (n : Nat) (hn : 10 < n ∧ n < 256) : newline ≠ UInt8.ofNat n := fun heq => by
    have := hvalue n heq
    omega
  simp only [String.utf8EncodeChar]
  split
  · intro hmem
    have hval : c.val.toNat = 10 := by
      have := hvalue _ (List.mem_singleton.mp hmem)
      omega
    exact h (Char.ext (UInt32.toNat_inj.mp hval))
  · split
    · simp only [List.mem_cons, List.not_mem_nil, or_false, not_or]
      exact ⟨hlead _ (by omega), hlead _ (by omega)⟩
    · split
      · simp only [List.mem_cons, List.not_mem_nil, or_false, not_or]
        exact ⟨hlead _ (by omega), hlead _ (by omega), hlead _ (by omega)⟩
      · simp only [List.mem_cons, List.not_mem_nil, or_false, not_or]
        exact ⟨hlead _ (by omega), hlead _ (by omega), hlead _ (by omega), hlead _ (by omega)⟩

theorem lineStartsFrom_eq (offset : Nat) (chars : List Char) :
    lineStartsFrom offset chars = lineStartsIn offset (chars.flatMap String.utf8EncodeChar) := by
  induction chars generalizing offset with
  | nil => rfl
  | cons c rest ih =>
    rw [lineStartsFrom, List.flatMap_cons, lineStartsIn_append, String.length_utf8EncodeChar, ih]
    split
    · subst ‹c = '\n'›
      rfl
    · rw [lineStartsIn_eq_nil (newline_notMem_utf8EncodeChar ‹_›), List.nil_append]

theorem mem_lineStartsIn {start : Nat} (offset : Nat) (bytes : List UInt8) :
    start ∈ lineStartsIn offset bytes ↔ ∃ i, bytes[i]? = some newline ∧ start = offset + i + 1 := by
  induction bytes generalizing offset with
  | nil => simp [lineStartsIn]
  | cons b rest ih =>
    have hcons : (∃ i, (b :: rest)[i]? = some newline ∧ start = offset + i + 1) ↔
        b = newline ∧ start = offset + 1 ∨ start ∈ lineStartsIn (offset + 1) rest := by
      rw [ih]
      constructor
      · rintro ⟨_ | i, hi, rfl⟩
        · exact .inl ⟨Option.some.inj hi, rfl⟩
        · exact .inr ⟨i, hi, by omega⟩
      · rintro (⟨rfl, rfl⟩ | ⟨i, hi, rfl⟩)
        · exact ⟨0, rfl, rfl⟩
        · exact ⟨i + 1, hi, by omega⟩
    rw [hcons, lineStartsIn]
    split
    · simp [‹b = newline›]
    · simp [‹¬b = newline›]

theorem countP_lineStartsIn (offset n : Nat) (bytes : List UInt8) :
    (lineStartsIn offset bytes).countP (· ≤ offset + n) = (bytes.take n).count newline := by
  induction bytes generalizing offset n with
  | nil => simp [lineStartsIn]
  | cons b rest ih =>
    cases n with
    | zero =>
      rw [List.take_zero, List.count_nil, List.countP_eq_zero]
      intro start hstart
      obtain ⟨i, -, rfl⟩ := (mem_lineStartsIn offset (b :: rest)).mp hstart
      simp only [decide_eq_true_eq]
      omega
    | succ n =>
      have ih := ih (offset + 1) n
      rw [Nat.add_right_comm, Nat.add_assoc] at ih
      rw [lineStartsIn, List.take_succ_cons]
      split
      · subst ‹b = newline›
        rw [List.countP_cons_of_pos (by simp), ih, List.count_cons_self]
      · rw [ih, List.count_cons_of_ne ‹_›]

/-- The line in which `offset` is in `bytes` begins at `start`: behind the last newline before the offset or, where
there is none, at zero. -/
structure Opens (bytes : List UInt8) (offset start : Nat) : Prop where
  le : start ≤ offset
  behind : start = 0 ∨ ∃ i, bytes[i]? = some newline ∧ start = i + 1
  last : ∀ i, bytes[i]? = some newline → i < offset → i < start

theorem starts_ofText (text : String) :
    (LineIndex.ofText text).starts.toList = 0 :: lineStartsIn 0 (bytesOf text) := by
  rw [bytesOf_eq, ← lineStartsFrom_eq]
  rfl

theorem mem_starts_ofText {text : String} {start : Nat} : start ∈ (LineIndex.ofText text).starts ↔
    start = 0 ∨ ∃ i, (bytesOf text)[i]? = some newline ∧ start = i + 1 := by
  simp [← Array.mem_toList_iff, starts_ofText, mem_lineStartsIn]

theorem LineIndex.LastStart.opens {text : String} {offset line start : Nat}
    (h : (LineIndex.ofText text).LastStart offset line start) : Opens (bytesOf text) offset start where
  le := h.le
  behind := mem_starts_ofText.mp (Array.mem_of_getElem? h.stands)
  last i hi hbefore := by
    obtain ⟨j, hj⟩ := Array.mem_iff_getElem?.mp (mem_starts_ofText.mpr (.inr ⟨i, hi, rfl⟩))
    rcases h.apart hj with ⟨-, hle⟩ | ⟨-, hlt⟩ <;> omega

/-- As many lines begin up to an offset as newlines stand before it, and the first. -/
theorem LineIndex.LastStart.succ_line {text : String} {offset line start : Nat}
    (h : (LineIndex.ofText text).LastStart offset line start) :
    line + 1 = 1 + ((bytesOf text).take offset).count newline := by
  have hcount := h.countP_le
  have hnewlines := countP_lineStartsIn 0 offset (bytesOf text)
  rw [starts_ofText, List.countP_cons_of_pos (by simp)] at hcount
  rw [Nat.zero_add] at hnewlines
  rw [← hcount, hnewlines, Nat.add_comm]

/-- The line in which an offset is begins at zero exactly if no newline stands before it. -/
theorem Opens.eq_zero_iff {bytes : List UInt8} {offset start : Nat} (h : Opens bytes offset start) :
    start = 0 ↔ newline ∉ bytes.take offset := by
  rw [List.mem_iff_getElem?]
  constructor
  · rintro rfl ⟨i, hi⟩
    rw [List.getElem?_take] at hi
    split at hi
    · exact absurd (h.last i hi ‹_›) (Nat.not_lt_zero i)
    · cases hi
  · intro hnone
    rcases h.behind with hzero | ⟨i, hi, rfl⟩
    · exact hzero
    · have hbefore : i < offset := h.le
      exact absurd ⟨i, by rw [List.getElem?_take, if_pos hbefore, hi]⟩ hnone

/-- What fits in a word is looked up exactly: no step for an offset below the greatest is out of bounds, whether the
offset is inside the text or past its end; the line is the number of newlines before it, counted from one, and the
column is counted from the last of them. So later offsets have later positions. For the greatest offset of all the
column is too great by one on the first line, and only there. -/
theorem position_exact (text : String) :
    (∀ offset < wordMax, ∃ start, Opens (bytesOf text) offset start ∧
      (LineIndex.ofText text).position? offset = some ((LineIndex.ofText text).position offset) ∧
      (LineIndex.ofText text).position offset =
        (1 + ((bytesOf text).take offset).count newline, offset - start + 1)) ∧
    Set.InjOn (LineIndex.ofText text).position (Set.Iio wordMax) ∧
    StrictMonoOn (fun offset => toLex ((LineIndex.ofText text).position offset)) (Set.Iio wordMax) ∧
    ((bytesOf text).length < wordMax → ∃ start, Opens (bytesOf text) wordMax start ∧
      (LineIndex.ofText text).position? wordMax =
        if newline ∈ bytesOf text then some (1 + (bytesOf text).count newline, wordMax - start + 1) else none) := by
  have hmono : StrictMonoOn (fun offset => toLex ((LineIndex.ofText text).position offset)) (Set.Iio wordMax) :=
    fun _ _ _ hother h => LineIndex.position_lt_position _ h hother
  refine ⟨fun offset hoffset => ?_, fun _ h _ h' heq => hmono.injOn h h' (congrArg toLex heq), hmono, fun hlength => ?_⟩
  · obtain ⟨line, start, hlast, hposition?⟩ := (LineIndex.ofText text).exists_position? hoffset
    have hposition := LineIndex.position_eq_of_position? hposition?
    exact ⟨start, hlast.opens, hposition?.trans (congrArg some hposition.symm), by rw [hposition, hlast.succ_line]⟩
  · obtain ⟨line, start, hlast, hposition?⟩ := (LineIndex.ofText text).exists_lastStart wordMax
    have hwhole : (bytesOf text).take wordMax = bytesOf text := List.take_of_length_le hlength.le
    have hline := hlast.succ_line
    have hzero := hlast.opens.eq_zero_iff
    rw [hwhole] at hline hzero
    have hfits : line + 1 ≤ wordMax := by
      have := (bytesOf text).count_le_length (a := newline)
      omega
    refine ⟨start, hlast.opens, hposition?.trans ?_⟩
    rw [plus?_of_le hfits, hline]
    split
    · have hpos : start ≠ 0 := fun h => hzero.mp h ‹_›
      have hle := hlast.le
      rw [plus?_of_le (by omega)]
      rfl
    · have hstart : start = 0 := hzero.mpr ‹_›
      rw [plus?_of_lt (by omega)]
      rfl

end Terrasmith.Text
