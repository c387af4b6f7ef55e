import Terrasmith.Regex.Escape

/-!
Classes of characters in brackets: characters, ranges, named classes and nested classes, joined by the operations of
set algebra, which bind less than juxtaposition and all alike.
-/
namespace Terrasmith.Regex

/-- A set of characters with the depth to which its parts are nested. -/
structure Nested where
  set : CharSet
  depth : Nat := 0
  deriving Repr

/-- The parts of a class read one after the other. -/
structure Parts where
  set : CharSet := .none
  count : Nat := 0
  depth : Nat := 0
  deriving Repr

namespace Parts

def add (parts : Parts) (item : Nested) : Parts :=
  ⟨.union parts.set item.set, parts.count + 1, max parts.depth item.depth⟩

/-- Several parts are one level deeper than one alone. -/
def nested (parts : Parts) : Nested :=
  ⟨parts.set, if 1 < parts.count then parts.depth + 1 else parts.depth⟩

end Parts

/-- A single character of a class; outside of Unicode it is an ASCII character. -/
def memberChar? (flags : Flags) (c : Char) : Option Atom :=
  if flags.unicode || c.toNat < 128 then some (.char c) else none

/-- An item of a class: a character or a set. -/
def classItem? (flags : Flags) : List Char → Option (Atom × List Char)
  | '\\' :: rest => do
    let (atom, rest) ← escape? flags rest
    match atom with
    | .char c => (memberChar? flags c).map fun atom => (atom, rest)
    | _ => some (atom, rest)
  | c :: rest => (memberChar? flags c).map fun atom => (atom, rest)
  | [] => none

/-- `[:name:]` or `[:^name:]`: the class, whether it is negated, and the rest. -/
def posixClass? : List Char → Option ((CharSet × Bool) × List Char)
  | '[' :: ':' :: rest =>
    let (negated, rest) := match rest with
      | '^' :: rest => (true, rest)
      | _ => (false, rest)
    let name := rest.takeWhile (· ≠ ':')
    match rest.dropWhile (· ≠ ':') with
    | ':' :: ']' :: after => (asciiClass? (String.ofList name)).map fun set => ((set, negated), after)
    | _ => none
  | _ => none

/-- A set or what it leaves out. Outside of Unicode nothing is left out, since this would reach beyond ASCII. -/
def negate? (flags : Flags) (negated : Bool) (set : CharSet) : Option CharSet :=
  if !negated then some set else if flags.unicode then some set.complement else none

/-- How a class goes on with another set. -/
inductive ClassOp where
  | inter
  | except
  | symmetric
  deriving Repr, DecidableEq

/-- What stands before an operator joined to what stands behind it. -/
def ClassOp.apply : Option (Nested × ClassOp) → Nested → Nested
  | none, right => right
  | some (left, op), right =>
    let set := match op with
      | .inter => .inter left.set right.set
      | .except => .except left.set right.set
      | .symmetric => left.set.symmetric right.set
    ⟨set, max left.depth right.depth + 1⟩

def classOp? : List Char → Option (ClassOp × List Char)
  | '&' :: '&' :: rest => some (.inter, rest)
  | '-' :: '-' :: rest => some (.except, rest)
  | '~' :: '~' :: rest => some (.symmetric, rest)
  | _ => none

/-- The character by which a hyphen before `chars` is judged. Of a comment only the sign that opens it is passed
over. -/
def judge? (flags : Flags) (chars : List Char) : Option Char :=
  if !flags.spaced then chars.head?
  else
    match chars.dropWhile Text.isBlank with
    | '#' :: rest => (rest.dropWhile Text.isBlank).head? <|> chars.head?
    | c :: _ => some c
    | [] => chars.head?

/-- A range or a single item of a class. -/
def classRange? (flags : Flags) (chars : List Char) : Option (CharSet × List Char) := do
  let (first, rest) ← classItem? flags chars
  let rest := skip flags rest
  let alone : Option (CharSet × List Char) := match first with
    | .char c => some (foldCase flags (.single c), rest)
    | .set s => some (foldCase flags s, rest)
    | .anchor _ => none
  match rest with
  | [] => none
  | '-' :: more =>
    if judge? flags more = some ']' || judge? flags more = some '-' then alone
    else
      let (last, rest) ← classItem? flags (skip flags more)
      match first, last with
      | .char a, .char b => if a ≤ b then some (foldCase flags (.range a.toNat b.toNat), rest) else none
      | _, _ => none
  | _ => alone

/-- The hyphens that open a class, and the rest. -/
def openingHyphens (flags : Flags) : (fuel : Nat) → Parts → List Char → Parts × List Char
  | fuel + 1, parts, '-' :: rest =>
    openingHyphens flags fuel (parts.add ⟨.single '-', 0⟩) (skip flags rest)
  | _, parts, chars => (parts, chars)

mutual

/-- A class after its opening bracket. A bracket that closes nothing yet is a member. -/
def class? (flags : Flags) : (fuel : Nat) → List Char → Option (Nested × List Char)
  | 0, _ => none
  | fuel + 1, chars => do
    let chars := skip flags chars
    let (negated, chars) := match chars with
      | '^' :: rest => (true, skip flags rest)
      | _ => (false, chars)
    let (parts, chars) := openingHyphens flags chars.length {} chars
    let (parts, chars) := match chars with
      | ']' :: rest => if parts.count = 0 then (parts.add ⟨.single ']', 0⟩, rest) else (parts, chars)
      | _ => (parts, chars)
    let (inner, rest) ← classRest? flags fuel none parts chars
    let set ← negate? flags negated inner.set
    some (⟨set, inner.depth + 1⟩, rest)

/-- The rest of a class: `left?` is what was read before the last operator, `parts` what was read since. -/
def classRest? (flags : Flags) : (fuel : Nat) → (left? : Option (Nested × ClassOp)) → (parts : Parts) →
    List Char → Option (Nested × List Char)
  | 0, _, _, _ => none
  | fuel + 1, left?, parts, chars =>
    let chars := skip flags chars
    match chars with
    | [] => none
    | ']' :: rest => some (ClassOp.apply left? parts.nested, rest)
    | '[' :: rest =>
      match posixClass? chars with
      | some ((named, negated), rest) => do
        let set ← negate? flags negated (foldCase flags named)
        classRest? flags fuel left? (parts.add ⟨set, 0⟩) rest
      | none => do
        let (inner, rest) ← class? flags fuel rest
        classRest? flags fuel left? (parts.add inner) rest
    | _ =>
      match classOp? chars with
      | some (op, rest) => classRest? flags fuel (some (ClassOp.apply left? parts.nested, op)) {} rest
      | none => do
        let (item, rest) ← classRange? flags chars
        classRest? flags fuel left? (parts.add ⟨item, 0⟩) rest

end

end Terrasmith.Regex
