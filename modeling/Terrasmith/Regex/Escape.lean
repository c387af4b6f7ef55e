import Terrasmith.Regex.Basic
import Terrasmith.Regex.Named
import Terrasmith.Text.Basic

/-!
What stands for one character or position of a regular expression: characters by their number, classes by name and
the letters after a backslash. Under the flag that lets a pattern be spaced, blanks and comments do not count even
inside these.
-/
namespace Terrasmith.Regex

structure Flags where
  anyCase : Bool := false
  multiLine : Bool := false
  dotAll : Bool := false
  swapGreed : Bool := false
  unicode : Bool := true
  /-- Blanks and comments do not count. -/
  spaced : Bool := false
  /-- A carriage return ends a line. -/
  returns : Bool := false
  deriving Repr, DecidableEq, Inhabited

/-- What follows blanks and comments, if these do not count. -/
def skipSpaced (flags : Flags) : (fuel : Nat) → List Char → List Char
  | 0, chars => chars
  | fuel + 1, chars =>
    if flags.spaced then
      match chars with
      | '#' :: rest => skipSpaced flags fuel (rest.dropWhile (· ≠ '\n'))
      | c :: rest => if Text.isBlank c then skipSpaced flags fuel rest else chars
      | [] => []
    else chars

def skip (flags : Flags) (chars : List Char) : List Char :=
  skipSpaced flags (chars.length + 1) chars

/-- The characters up to one that `stop` accepts, which is left behind, without blanks and comments that do not
count. -/
def takeUntil? (flags : Flags) (stop : Char → Bool) : (fuel : Nat) → List Char → Option (List Char × List Char)
  | 0, _ => none
  | fuel + 1, chars =>
    match skip flags chars with
    | [] => none
    | c :: rest =>
      if stop c then some ([], rest)
      else (takeUntil? flags stop fuel rest).map fun (taken, rest) => (c :: taken, rest)

/-- The text between an opening brace, which has been read, and the closing one. -/
def braced? (flags : Flags) (chars : List Char) : Option (List Char × List Char) :=
  takeUntil? flags (· = '}') (chars.length + 1) chars

/-- The next `n` characters, without blanks and comments that do not count. -/
def takeCount? (flags : Flags) : (n : Nat) → List Char → Option (List Char × List Char)
  | 0, chars => some ([], chars)
  | n + 1, chars =>
    match skip flags chars with
    | [] => none
    | c :: rest => (takeCount? flags n rest).map fun (taken, rest) => (c :: taken, rest)

def hexDigit? (c : Char) : Option Nat :=
  if c.isDigit then some (c.toNat - '0'.toNat)
  else if 'a' ≤ c && c ≤ 'f' then some (c.toNat - 'a'.toNat + 10)
  else if 'A' ≤ c && c ≤ 'F' then some (c.toNat - 'A'.toNat + 10)
  else none

/-- The number written by hexadecimal digits. -/
def hexNumber? (digits : List Char) : Option Nat :=
  if digits.isEmpty then none
  else digits.foldl (fun n? c => do
    let n ← n?
    let d ← hexDigit? c
    some (16 * n + d)) (some 0)

def charOf? (n : Nat) : Option Char :=
  if n.isValidChar then some (Char.ofNat n) else none

/-- A character by its number, written in braces or with `width` digits. A number of two digits stands for a byte,
which outside of Unicode must be an ASCII character. -/
def hexEscape? (flags : Flags) (width : Nat) (chars : List Char) : Option (Char × List Char) :=
  match skip flags chars with
  | '{' :: rest => do
    let (digits, rest) ← braced? flags rest
    let c ← (hexNumber? digits).bind charOf?
    some (c, rest)
  | chars => do
    let (digits, rest) ← takeCount? flags width chars
    let c ← (hexNumber? digits).bind charOf?
    if !flags.unicode && width = 2 && 127 < c.toNat then none else some (c, rest)

/-- The text before and after the first occurrence of `mark`. -/
def splitAt? (mark : List Char) : List Char → Option (List Char × List Char)
  | [] => none
  | c :: rest =>
    match Text.afterStart? mark (c :: rest) with
    | some after => some ([], after)
    | none => (splitAt? mark rest).map fun (before, after) => (c :: before, after)

/-- The class that the text between the braces of a property denotes: a name, or a name and a value. A sign of
inequality between them reads as one of equality. -/
def propertySet? (text : List Char) : Option CharSet :=
  match splitAt? ['!', '='] text <|> splitAt? [':'] text <|> splitAt? ['='] text with
  | some (name, value) => CharSet.valued? name value
  | none => CharSet.named? text

/-- A class by property after `\p`: one letter or a text in braces. -/
def propertyClass? (flags : Flags) (chars : List Char) : Option (CharSet × List Char) :=
  match skip flags chars with
  | '{' :: rest => do
    let (text, rest) ← braced? flags rest
    let set ← propertySet? text
    some (set, rest)
  | c :: rest => (CharSet.named? [c]).map fun set => (set, rest)
  | [] => none

/-- A class of ASCII characters by its name in `[:name:]`. -/
def asciiClass? : String → Option CharSet
  | "alnum" => some (CharSet.unions [.range 48 57, .range 65 90, .range 97 122])
  | "alpha" => some (.union (.range 65 90) (.range 97 122))
  | "ascii" => some CharSet.ascii
  | "blank" => some (.union (.range 9 9) (.range 32 32))
  | "cntrl" => some (.union (.range 0 31) (.range 127 127))
  | "digit" => some (.range 48 57)
  | "graph" => some (.range 33 126)
  | "lower" => some (.range 97 122)
  | "print" => some (.range 32 126)
  | "punct" => some (CharSet.unions [.range 33 47, .range 58 64, .range 91 96, .range 123 126])
  | "space" => some (.union (.range 9 13) (.range 32 32))
  | "upper" => some (.range 65 90)
  | "word" => some CharSet.asciiWord
  | "xdigit" => some CharSet.asciiHexDigit
  | _ => none

/-- What stands for one position: a character, a set of characters or a condition. -/
inductive Atom where
  | char (c : Char)
  | set (s : CharSet)
  | anchor (a : Anchor)
  deriving Repr

/-- The class of digits, blanks or word characters. -/
def shortClass (flags : Flags) (c : Char) : CharSet :=
  if flags.unicode then
    if c = 'd' then .decimal else if c = 's' then .blank else .word
  else
    ((asciiClass? (if c = 'd' then "digit" else if c = 's' then "space" else "word")).getD .none)

/-- A set under the flags. Outside of Unicode only ASCII letters have a case. -/
def foldCase (flags : Flags) (set : CharSet) : CharSet :=
  if !flags.anyCase then set
  else if flags.unicode then .anyCase set
  else .union set (.inter (.anyCase (.inter set CharSet.ascii)) CharSet.ascii)

/-- A condition on word characters under the flags. -/
def wordAnchor (flags : Flags) (condition : WordCondition) : Atom :=
  .anchor (.word condition (if flags.unicode then .word else .asciiWord))

/-- The condition of the word boundary in braces after `\b`. -/
def boundary? : List Char → Option WordCondition
  | ['s', 't', 'a', 'r', 't'] => some .start
  | ['e', 'n', 'd'] => some .stop
  | ['s', 't', 'a', 'r', 't', '-', 'h', 'a', 'l', 'f'] => some .startHalf
  | ['e', 'n', 'd', '-', 'h', 'a', 'l', 'f'] => some .stopHalf
  | _ => none

/-- What `\b` stands for before `chars`: a brace with a name in it belongs to it, one with a count does not. -/
def wordBoundary? (flags : Flags) (chars : List Char) : Option (Atom × List Char) :=
  match chars with
  | '{' :: rest =>
    if (skip flags rest).head?.any fun c => c.isAlpha || c = '-' then do
      let (name, rest) ← braced? flags rest
      let condition ← boundary? name
      some (wordAnchor flags condition, rest)
    else some (wordAnchor flags .boundary, chars)
  | _ => some (wordAnchor flags .boundary, chars)

/-- The atom written after a backslash. Outside of Unicode there are no sets that reach beyond ASCII. -/
def escape? (flags : Flags) : List Char → Option (Atom × List Char)
  | [] => none
  | c :: rest =>
    match c with
    | 'd' | 's' | 'w' => some (.set (shortClass flags c), rest)
    | 'D' | 'S' | 'W' =>
      if flags.unicode then some (.set (shortClass flags c.toLower).complement, rest) else none
    | 'p' =>
      if flags.unicode then (propertyClass? flags rest).map fun (set, rest) => (.set set, rest) else none
    | 'P' =>
      if flags.unicode then
        (propertyClass? flags rest).map fun (set, rest) => (.set (foldCase flags set).complement, rest)
      else none
    | 'x' => (hexEscape? flags 2 rest).map fun (c, rest) => (.char c, rest)
    | 'u' => (hexEscape? flags 4 rest).map fun (c, rest) => (.char c, rest)
    | 'U' => (hexEscape? flags 8 rest).map fun (c, rest) => (.char c, rest)
    | 'a' => some (.char (Char.ofNat 7), rest)
    | 'f' => some (.char (Char.ofNat 12), rest)
    | 't' => some (.char '\t', rest)
    | 'n' => some (.char '\n', rest)
    | 'r' => some (.char '\r', rest)
    | 'v' => some (.char (Char.ofNat 11), rest)
    | 'A' => some (.anchor .textStart, rest)
    | 'z' => some (.anchor .textEnd, rest)
    | 'B' => some (wordAnchor flags .noBoundary, rest)
    | '<' => some (wordAnchor flags .start, rest)
    | '>' => some (wordAnchor flags .stop, rest)
    | 'b' => wordBoundary? flags rest
    | _ => if c.toNat < 128 && !c.isAlphanum then some (.char c, rest) else none

end Terrasmith.Regex
