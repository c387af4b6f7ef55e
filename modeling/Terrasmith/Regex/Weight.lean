import Terrasmith.Regex.Basic

/-!
The weight of a pattern: the memory in bytes of a machine that searches a text byte by byte for it, with every counted
repetition written out. A pattern that is too heavy is refused.
-/
namespace Terrasmith

namespace CharSet

/-- The boundaries of a combination of two sets given by theirs. `inA` and `inB` tell whether the characters before
the next boundary are in each set. -/
def mergeCuts (op : Bool → Bool → Bool) (inA inB : Bool) : (a b : List Nat) → List Nat
  | [], [] => []
  | x :: a, [] => emit x (mergeCuts op (!inA) inB a []) (op (!inA) inB)
  | [], y :: b => emit y (mergeCuts op inA (!inB) [] b) (op inA (!inB))
  | x :: a, y :: b =>
    if x < y then emit x (mergeCuts op (!inA) inB a (y :: b)) (op (!inA) inB)
    else if y < x then emit y (mergeCuts op inA (!inB) (x :: a) b) (op inA (!inB))
    else emit x (mergeCuts op (!inA) (!inB) a b) (op (!inA) (!inB))
termination_by a b => a.length + b.length
where
  emit (cut : Nat) (rest : List Nat) (next : Bool) : List Nat :=
    if next = op inA inB then rest else cut :: rest

/-- The boundaries of a set. Forms in the other case are not counted. -/
def cuts : CharSet → List Nat
  | .none => []
  | .any => [0, 0xd800, 0xe000, 0x110000]
  | .range first last => [first, last + 1]
  | .stepped first last step =>
    (List.range ((last - first) / step + 1)).flatMap fun i => [first + i * step, first + i * step + 1]
  | .boundaries cuts => cuts
  | .union a b => mergeCuts (· || ·) false false a.cuts b.cuts
  | .inter a b => mergeCuts (· && ·) false false a.cuts b.cuts
  | .except a b => mergeCuts (fun inA inB => inA && !inB) false false a.cuts b.cuts
  | .anyCase s => s.cuts

/-- The bytes that encode a character. -/
def bytes (n : Nat) : List Nat :=
  if n < 0x80 then [n]
  else if n < 0x800 then [0xc0 + n / 64, 0x80 + n % 64]
  else if n < 0x10000 then [0xe0 + n / 4096, 0x80 + n / 64 % 64, 0x80 + n % 64]
  else [0xf0 + n / 262144, 0x80 + n / 4096 % 64, 0x80 + n / 64 % 64, 0x80 + n % 64]

/-- Where a range is cut in two so that in the end each byte of an encoding runs through a range of its own: after
the last character of one length, and after the characters that share all but their last few bytes. -/
def cutOf? (first last : Nat) : Option Nat :=
  match [0x7f, 0x7ff, 0xffff].find? fun limit => first ≤ limit && limit < last with
  | some limit => some limit
  | .none =>
    if last ≤ 0x7f then .none
    else [64, 4096, 262144].findSome? fun block =>
      if first / block = last / block then .none
      else if first % block ≠ 0 then some (first / block * block + block - 1)
      else if last % block ≠ block - 1 then some (last / block * block - 1)
      else .none

/-- The ranges of bytes that encode the characters of a range. -/
def byteRanges : (fuel : Nat) → (first last : Nat) → List (List (Nat × Nat))
  | 0, first, last => [(bytes first).zip (bytes last)]
  | fuel + 1, first, last =>
    match cutOf? first last with
    | some cut => byteRanges fuel first cut ++ byteRanges fuel (cut + 1) last
    | .none => [(bytes first).zip (bytes last)]

/-- The ranges of bytes that encode the characters between boundaries. -/
def encodings : (cuts : List Nat) → List (List (Nat × Nat))
  | first :: stop :: rest => byteRanges 16 first (stop - 1) ++ encodings rest
  | _ => []

/-- The number of leading elements that two lists share. -/
def sharedLength : List (Nat × Nat) → List (Nat × Nat) → Nat
  | a :: as, b :: bs => if a = b then sharedLength as bs + 1 else 0
  | _, _ => 0

/-- The number of steps that encodings take if each shares its first steps with the one before it. -/
def stepCount (before : List (Nat × Nat)) : List (List (Nat × Nat)) → Nat
  | [] => 0
  | encoding :: rest => encoding.length - sharedLength before encoding + stepCount encoding rest

/-- A single character costs a step for each of its bytes, and other sets a fork besides. -/
def weight (s : CharSet) : Nat :=
  match s.cuts with
  | [first, stop] =>
    if stop = first + 1 then 32 * (bytes first).length
    else if stop ≤ 128 then 72
    else ranges [first, stop]
  | cuts => if cuts.all (· ≤ 128) then 64 + 4 * cuts.length else ranges cuts
where
  ranges (cuts : List Nat) : Nat :=
    let encodings := encodings cuts
    64 + 32 * stepCount [] encodings + 4 * encodings.length

end CharSet

namespace Pattern

/-- The weight of a pattern: thirty-two bytes a step and four for each way that leaves a fork. -/
def weight : Pattern → Nat
  | .empty => 0
  | .char set => set.weight
  | .anchor _ => 32
  | .group _ inner => inner.weight + 64
  | .sequence a b => a.weight + b.weight
  | .choice a b => a.weight + b.weight + 72
  | .repetition least none _ inner => (max least 1) * inner.weight + 40
  | .repetition least (some most) _ inner => most * inner.weight + 40 * (most - least) + 32

end Pattern

end Terrasmith
