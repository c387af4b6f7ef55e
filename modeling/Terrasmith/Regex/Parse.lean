import Terrasmith.Regex.Class
import Terrasmith.Regex.Weight

/-!
Regular expressions read from text. Look-around and back references do not exist, and every other construct
that is not understood is refused, so that a text either has one meaning or none.
-/
namespace Terrasmith.Regex

/-- What is known at a place in the text: the flags in force and the names of the groups opened so far. -/
structure Reading where
  flags : Flags := {}
  groups : List (Option String) := []
  deriving Repr, Inhabited

/-- A part of a pattern with the depth to which it is nested. -/
structure Part where
  pattern : Pattern
  depth : Nat := 0
  deriving Repr

namespace Part

/-- The depth of the deepest of some parts. -/
def deepest (parts : List Part) : Nat := (parts.map Part.depth).foldl max 0

/-- Parts one after the other. Several of them are one level deeper than one alone. -/
def sequence : List Part → Part
  | [] => ⟨.empty, 0⟩
  | [part] => part
  | parts => ⟨parts.foldr (fun part rest => .sequence part.pattern rest) .empty, deepest parts + 1⟩

/-- A choice between patterns. -/
def choicePattern (first : Pattern) : List Part → Pattern
  | [] => first
  | second :: rest => .choice first (choicePattern second.pattern rest)

/-- A choice between parts. -/
def choice : List Part → Part
  | [] => ⟨.empty, 0⟩
  | [part] => part
  | first :: rest => ⟨choicePattern first.pattern rest, max first.depth (deepest rest) + 1⟩

end Part

/-- Sets or clears one flag. -/
def Flags.set? (flags : Flags) (c : Char) (value : Bool) : Option Flags :=
  match c with
  | 'i' => some { flags with anyCase := value }
  | 'm' => some { flags with multiLine := value }
  | 's' => some { flags with dotAll := value }
  | 'U' => some { flags with swapGreed := value }
  | 'u' => some { flags with unicode := value }
  | 'x' => some { flags with spaced := value }
  | 'R' => some { flags with returns := value }
  | _ => none

/-- Flags up to `)` or `:`: the flags, the character that ended them and the rest. `seen` holds the flags met so
far, `fresh` tells that no flag followed the last `-`. -/
def flags? : (flags : Flags) → (negated fresh : Bool) → (seen : List Char) → List Char →
    Option ((Flags × Char) × List Char)
  | _, _, _, _, [] => none
  | flags, negated, fresh, seen, c :: rest =>
    if c = ')' || c = ':' then
      if negated && fresh then none
      else if c = ')' && seen.isEmpty then none
      else some ((flags, c), rest)
    else if c = '-' then if negated then none else flags? flags true true seen rest
    else if seen.contains c then none
    else
      match flags.set? c (!negated) with
      | some flags => flags? flags negated false (c :: seen) rest
      | none => none

/-- The name of a group up to `>`. -/
def groupName? (chars : List Char) : Option (String × List Char) :=
  let name := chars.takeWhile (· ≠ '>')
  match name, chars.dropWhile (· ≠ '>') with
  | first :: others, _ :: rest =>
    if (first = '_' || Text.isAlphabetic first) && others.all fun c =>
        c = '_' || c = '.' || c = '[' || c = ']' || Text.isAlphanumeric c then
      some (String.ofList name, rest)
    else none
  | _, _ => none

/-- The digits of a count, without blanks and comments that do not count, and the rest. -/
def digits (flags : Flags) : (fuel : Nat) → List Char → List Char × List Char
  | 0, chars => ([], chars)
  | fuel + 1, chars =>
    match chars with
    | c :: rest =>
      if c.isDigit then
        let (more, rest) := digits flags fuel (skip flags rest)
        (c :: more, rest)
      else ([], chars)
    | [] => ([], [])

/-- A count of repetitions, with blanks around it. -/
def count? (flags : Flags) (chars : List Char) : Option (Nat × List Char) :=
  let (digits, rest) := digits flags chars.length (chars.dropWhile Text.isBlank)
  let n := digits.foldl (fun n c => 10 * n + (c.toNat - '0'.toNat)) 0
  if digits.isEmpty || 4294967296 ≤ n then none else some (n, skip flags (rest.dropWhile Text.isBlank))

/-- The least and greatest count after an opening brace. -/
def counts? (flags : Flags) (chars : List Char) : Option ((Nat × Option Nat) × List Char) := do
  let (least, rest) ← count? flags (skip flags chars)
  match rest with
  | '}' :: rest => some ((least, some least), rest)
  | ',' :: rest =>
    match skip flags rest with
    | '}' :: rest => some ((least, none), rest)
    | rest => do
      let (most, rest) ← count? flags rest
      match rest with
      | '}' :: rest => if most < least then none else some ((least, some most), rest)
      | _ => none
  | _ => none

/-- The counts of the repetition operator that stands here. Blanks that do not count may follow only a count in
braces before the sign that makes it lazy. -/
def repetition? (flags : Flags) : List Char → Option ((Nat × Option Nat) × List Char)
  | '*' :: rest => some ((0, none), rest)
  | '+' :: rest => some ((1, none), rest)
  | '?' :: rest => some ((0, some 1), rest)
  | '{' :: rest => (counts? flags rest).map fun (counts, rest) => (counts, skip flags rest)
  | _ => none

def startsRepetition : List Char → Bool
  | c :: _ => c = '*' || c = '+' || c = '?' || c = '{'
  | [] => false

/-- A part with the repetition operators that follow it. -/
def repeated? (flags : Flags) : (fuel : Nat) → Part → List Char → Option (Part × List Char)
  | 0, _, _ => none
  | fuel + 1, part, chars =>
    let chars := skip flags chars
    if startsRepetition chars then do
      let ((least, most?), rest) ← repetition? flags chars
      let (lazy, rest) := match rest with
        | '?' :: rest => (true, rest)
        | _ => (false, rest)
      repeated? flags fuel ⟨.repeated least most? (lazy == flags.swapGreed) part.pattern, part.depth + 1⟩ rest
    else some (part, chars)

/-- The pattern of an atom. -/
def Atom.pattern (flags : Flags) : Atom → Pattern
  | .char c => .char (foldCase flags (.single c))
  | .set s => .char (foldCase flags s)
  | .anchor a => .anchor a

/-- What a dot stands for: every character that does not end a line. -/
def dotSet (flags : Flags) : CharSet :=
  if flags.dotAll then .any
  else if flags.returns then .complement (.union (.single '\n') (.single '\r'))
  else .complement (.single '\n')

mutual

/-- Choices up to the end of the text or a closing parenthesis. -/
def choices? : (fuel : Nat) → Reading → List Char → Option ((List Part × Reading) × List Char)
  | 0, _, _ => none
  | fuel + 1, reading, chars => do
    let ((parts, reading), rest) ← sequence? fuel reading chars
    let first := Part.sequence parts
    match rest with
    | '|' :: rest =>
      let ((others, reading), rest) ← choices? fuel reading rest
      some ((first :: others, reading), rest)
    | _ => some (([first], reading), rest)

/-- Parts one after the other up to `|`, `)` or the end. Flags are a part that matches nothing and cannot be
repeated. -/
def sequence? : (fuel : Nat) → Reading → List Char → Option ((List Part × Reading) × List Char)
  | 0, _, _ => none
  | fuel + 1, reading, chars =>
    let flags := reading.flags
    let chars := skip flags chars
    match chars with
    | [] => some (([], reading), [])
    | c :: rest =>
      if c = '|' || c = ')' then some (([], reading), chars)
      else if startsRepetition chars then none
      else do
        let ((first?, reading), rest) ← match c with
          | '(' => group? fuel reading rest
          | '[' => (class? flags fuel rest).map fun (inner, rest) =>
              ((some ⟨Pattern.char inner.set, inner.depth⟩, reading), rest)
          | '.' => if flags.unicode then some ((some ⟨Pattern.char (dotSet flags), 0⟩, reading), rest) else none
          | '^' =>
            let anchor := if flags.multiLine then Anchor.lineStart flags.returns else .textStart
            some ((some ⟨.anchor anchor, 0⟩, reading), rest)
          | '$' =>
            let anchor := if flags.multiLine then Anchor.lineEnd flags.returns else .textEnd
            some ((some ⟨.anchor anchor, 0⟩, reading), rest)
          | '\\' => (escape? flags rest).map fun (a, rest) => ((some ⟨a.pattern flags, 0⟩, reading), rest)
          | _ => some ((some ⟨(Atom.char c).pattern flags, 0⟩, reading), rest)
        let (first, rest) ← match first? with
          | none => some (⟨.empty, 0⟩, rest)
          | some first => repeated? reading.flags (rest.length + 1) first rest
        let ((others, reading), rest) ← sequence? fuel reading rest
        some ((first :: others, reading), rest)

/-- A group after its opening parenthesis, or flags for what follows, which are no pattern. -/
def group? : (fuel : Nat) → Reading → List Char → Option ((Option Part × Reading) × List Char)
  | 0, _, _ => none
  | fuel + 1, reading, chars =>
    let flags := reading.flags
    let chars := skip flags chars
    match chars with
    | '?' :: 'P' :: '<' :: rest => namedGroup? fuel reading rest
    | '?' :: '<' :: rest => namedGroup? fuel reading rest
    | '?' :: rest => do
      let ((inner, stop), rest) ← flags? flags false false [] rest
      if stop = ')' then some ((none, { reading with flags := inner }), rest)
      else
        let ((part, reading), rest) ← closed? fuel { reading with flags := inner } rest
        some ((some ⟨part.pattern, part.depth + 1⟩, { reading with flags }), rest)
    | _ => do
      let index := reading.groups.length + 1
      let ((part, reading), rest) ← closed? fuel { reading with groups := reading.groups ++ [none] } chars
      some ((some ⟨.group index part.pattern, part.depth + 1⟩, { reading with flags }), rest)

/-- A named group after `<`. -/
def namedGroup? : (fuel : Nat) → Reading → List Char → Option ((Option Part × Reading) × List Char)
  | 0, _, _ => none
  | fuel + 1, reading, chars => do
    let (name, rest) ← groupName? chars
    if reading.groups.contains (some name) then none
    else
      let index := reading.groups.length + 1
      let ((part, after), rest) ← closed? fuel { reading with groups := reading.groups ++ [some name] } rest
      some ((some ⟨.group index part.pattern, part.depth + 1⟩, { after with flags := reading.flags }), rest)

/-- Choices with the closing parenthesis behind them. -/
def closed? : (fuel : Nat) → Reading → List Char → Option ((Part × Reading) × List Char)
  | 0, _, _ => none
  | fuel + 1, reading, chars => do
    let ((parts, reading), rest) ← choices? fuel reading chars
    match rest with
    | ')' :: rest => some ((Part.choice parts, reading), rest)
    | _ => none

end

/-- The depth beyond which a pattern is refused. -/
def depthLimit : Nat := 250

/-- The memory in bytes beyond which a pattern is refused. -/
def weightLimit : Nat := 10485760

/-- The regular expression that a text denotes. -/
def parse? (text : String) : Option Regex := do
  let chars := text.toList
  let ((parts, reading), rest) ← choices? (4 * (chars.length + 2)) {} chars
  let part := Part.choice parts
  if rest.isEmpty && part.depth ≤ depthLimit && part.pattern.weight ≤ weightLimit then
    some ⟨part.pattern, reading.groups⟩
  else none

end Terrasmith.Regex
