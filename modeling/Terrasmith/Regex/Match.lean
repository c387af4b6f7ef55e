import Terrasmith.Regex.Basic

/-!
Matching. A pattern becomes a program whose threads run side by side over the text. Threads are kept in the
order of preference and meet each instruction at most once per position, so that a search takes time linear in
the text and finds, of the matches that start leftmost, the one preferred by the pattern.
-/
namespace Terrasmith.Regex

inductive Instruction where
  | char (set : CharSet)
  | anchor (a : Anchor)
  | save (slot : Nat)
  /-- Goes on at either place, the first preferred. -/
  | fork (first second : Nat)
  | jump (target : Nat)
  | accept
  deriving Repr, DecidableEq

/-- A fork that prefers `next` if `greedy`. -/
def forkTo (greedy : Bool) (next leave : Nat) : Instruction :=
  if greedy then .fork next leave else .fork leave next

/-- `n` copies of code that is placed one after the other. -/
def copies (code : Nat → List Instruction) : (n start : Nat) → List Instruction
  | 0, _ => []
  | n + 1, start =>
    let first := code start
    first ++ copies code n (start + first.length)

/-- Up to `n` copies of code of which each may be the last; every copy leaves to `stop`. -/
def optionalCopies (code : Nat → List Instruction) (greedy : Bool) (stop : Nat) : (n start : Nat) → List Instruction
  | 0, _ => []
  | n + 1, start =>
    let first := code (start + 1)
    forkTo greedy (start + 1) stop :: first ++ optionalCopies code greedy stop n (start + 1 + first.length)

/-- One or more copies of code. -/
def loopOnce (code : Nat → List Instruction) (greedy : Bool) (start : Nat) : List Instruction :=
  let body := code start
  let here := start + body.length
  body ++ [forkTo greedy start (here + 1)]

/-- Any number of copies of code. Code that may match nothing is entered by a fork of its own, so that the
order of preference is kept. -/
def loopAny (code : Nat → List Instruction) (greedy nullable : Bool) (start : Nat) : List Instruction :=
  let body := code (start + 1)
  let stop := start + body.length + 2
  forkTo greedy (start + 1) stop :: body ++
    [if nullable then forkTo greedy (start + 1) stop else .jump start]

/-- The code of a pattern placed at `start`; it leaves to what follows it. -/
def code : Pattern → (start : Nat) → List Instruction
  | .empty, _ => []
  | .char set, _ => [.char set]
  | .anchor a, _ => [.anchor a]
  | .group index inner, start =>
    .save (2 * index) :: code inner (start + 1) ++ [.save (2 * index + 1)]
  | .sequence a b, start =>
    let first := code a start
    first ++ code b (start + first.length)
  | .choice a b, start =>
    let first := code a (start + 1)
    let second := code b (start + first.length + 2)
    .fork (start + 1) (start + first.length + 2) :: first
      ++ .jump (start + first.length + second.length + 2) :: second
  | .repetition 0 none greedy inner, start => loopAny (code inner) greedy (inner.leastLength = 0) start
  | .repetition (least + 1) none greedy inner, start =>
    let lead := copies (code inner) least start
    lead ++ loopOnce (code inner) greedy (start + lead.length)
  | .repetition least (some most) greedy inner, start =>
    let lead := copies (code inner) least start
    let size := (code inner 0).length + 1
    let stop := start + lead.length + (most - least) * size
    lead ++ optionalCopies (code inner) greedy stop (most - least) (start + lead.length)

/-- The program of a pattern. Slots zero and one hold the ends of the whole match. -/
def program (p : Pattern) : Array Instruction :=
  (Instruction.save 0 :: (code p 1 ++ [.save 1, .accept])).toArray

/-- Positions saved on the way, the latest first. -/
abbrev Slots := List (Nat × Nat)

/-- A thread that waits for a character or has accepted. -/
structure Thread where
  instr : Nat
  slots : Slots
  deriving Repr

/-- A position in a text: its number and its neighbours. -/
structure Place where
  index : Nat
  before : Option Char
  after : Option Char
  deriving Repr

/-- Threads reached without reading a character from those on `stack`, behind the `found` ones, which are held
last first. The instructions marked in `seen` have been met at this position. -/
def follow (code : Array Instruction) (place : Place) :
    (fuel : Nat) → (stack : List Thread) → (seen : Array Bool) → (found : List Thread) → List Thread
  | 0, _, _, found => found
  | _ + 1, [], _, found => found
  | fuel + 1, thread :: stack, seen, found =>
    if seen.getD thread.instr true then follow code place fuel stack seen found
    else
      let seen := seen.setIfInBounds thread.instr true
      match code[thread.instr]? with
      | some (.jump target) => follow code place fuel (⟨target, thread.slots⟩ :: stack) seen found
      | some (.fork a b) =>
        follow code place fuel (⟨a, thread.slots⟩ :: ⟨b, thread.slots⟩ :: stack) seen found
      | some (.save slot) =>
        follow code place fuel (⟨thread.instr + 1, (slot, place.index) :: thread.slots⟩ :: stack) seen found
      | some (.anchor a) =>
        if a.holds place.before place.after then
          follow code place fuel (⟨thread.instr + 1, thread.slots⟩ :: stack) seen found
        else follow code place fuel stack seen found
      | some (.char _) => follow code place fuel stack seen (thread :: found)
      | some .accept => follow code place fuel stack seen (thread :: found)
      | none => follow code place fuel stack seen found

/-- Enough steps to meet every instruction once from `n` threads. -/
def followFuel (code : Array Instruction) (n : Nat) : Nat := 2 * code.size + n + 2

/-- The threads after reading `c`, and the slots of the preferred match that ends here: threads behind an
accepting one are dropped. -/
def advance (code : Array Instruction) (c : Option Char) : List Thread → List Thread × Option Slots
  | [] => ([], none)
  | thread :: rest =>
    match code[thread.instr]? with
    | some .accept => ([], some thread.slots)
    | some (.char set) =>
      let (threads, accepted) := advance code c rest
      if c.any set.has then (⟨thread.instr + 1, thread.slots⟩ :: threads, accepted) else (threads, accepted)
    | _ => advance code c rest

/-- Searches the rest of a text after `before`, holding the waiting threads and the best match so far. -/
def searchFrom (code : Array Instruction) :
    (rest : List Char) → (index : Nat) → (before : Option Char) → List Thread → Option Slots → Option Slots
  | rest, index, before, waiting, best =>
    let place : Place := ⟨index, before, rest.head?⟩
    let stack := if best.isNone then waiting ++ [⟨0, []⟩] else waiting
    let unseen := Array.replicate code.size false
    let threads := (follow code place (followFuel code stack.length) stack unseen []).reverse
    let (next, accepted) := advance code rest.head? threads
    let best := accepted <|> best
    match rest with
    | [] => best
    | c :: rest => if next.isEmpty && best.isSome then best else searchFrom code rest (index + 1) (some c) next best

/-- A match: the range of the whole and those of its groups. -/
structure Match where
  start : Nat
  stop : Nat
  groups : List (Option (Nat × Nat))
  deriving Repr

def rangeOf? (slots : Slots) (group : Nat) : Option (Nat × Nat) := do
  let start ← slots.lookup (2 * group)
  let stop ← slots.lookup (2 * group + 1)
  some (start, stop)

/-- The leftmost match that starts at `start` or later. -/
def findFrom? (r : Regex) (code : Array Instruction) (text : List Char) (start : Nat) : Option Match :=
  if text.length < start then none
  else do
    let before := if start = 0 then none else text[start - 1]?
    let slots ← searchFrom code (text.drop start) start before [] none
    let (first, last) ← rangeOf? slots 0
    some ⟨first, last, (List.range r.groups.length).map fun i => rangeOf? slots (i + 1)⟩

/-- The matches from `start` on, none overlapping another and no empty one right behind the last. -/
def matchesFrom (r : Regex) (code : Array Instruction) (text : List Char) :
    (fuel : Nat) → (start : Nat) → (last? : Option Nat) → List Match
  | 0, _, _ => []
  | fuel + 1, start, last? =>
    match findFrom? r code text start with
    | none => []
    | some m =>
      if m.start = m.stop && last? = some m.stop then
        match findFrom? r code text (start + 1) with
        | none => []
        | some m => m :: matchesFrom r code text fuel m.stop (some m.stop)
      else m :: matchesFrom r code text fuel m.stop (some m.stop)

/-- All matches in a text. -/
def allMatches (r : Regex) (text : List Char) : List Match :=
  matchesFrom r (program r.pattern) text (text.length + 2) 0 none

/-- The part of a text in a range. -/
def slice (text : List Char) (range : Nat × Nat) : List Char :=
  (text.drop range.1).take (range.2 - range.1)

/-- The text of a group, where zero is the whole match. -/
def Match.groupText? (m : Match) (text : List Char) (group : Nat) : Option (List Char) :=
  match group with
  | 0 => some (slice text (m.start, m.stop))
  | index + 1 => (m.groups[index]?.join).map (slice text)

/-- The number of the group of a name. -/
def groupOfName? (r : Regex) (name : String) : Option Nat :=
  (r.groups.findIdx? (· = some name)).map (· + 1)

end Terrasmith.Regex
