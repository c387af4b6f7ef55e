import Terrasmith.Number.Text
import Terrasmith.Text.Identifier

/-!
The smallest pieces of configuration source: blanks and comments, identifiers, numbers and the characters of
string literals. Every reader takes the characters ahead and gives back what it read and the rest.
-/
namespace Terrasmith.Source

/-- The rest of a block comment with its end, after `/*`. -/
def blockComment? : List Char → Option (List Char × List Char)
  | [] => none
  | c :: rest =>
    if c = '*' && rest.head? = some '/' then some (['*', '/'], rest.tail)
    else (blockComment? rest).map fun (inside, rest) => (c :: inside, rest)

/-- The characters up to the end of the line. A carriage return may only stand right before the newline. -/
def lineRest? : List Char → Option (List Char × List Char)
  | [] => some ([], [])
  | c :: rest =>
    if c = '\n' then some ([], c :: rest)
    else if c = '\r' then if rest.head? = some '\n' then some ([], c :: rest) else none
    else (lineRest? rest).map fun (inside, rest) => (c :: inside, rest)

/-- Whether a comment that lasts until the end of the line starts here. -/
def startsLineComment : List Char → Bool
  | '#' :: _ => true
  | '/' :: '/' :: _ => true
  | _ => false

/-- A comment that lasts until the end of the line. -/
def lineComment? (chars : List Char) : Option (List Char × List Char) :=
  if startsLineComment chars then lineRest? chars else none

/-- Blanks and comments. With `lines` they may go over line ends, without they are spaces, tabs and block
comments only. -/
def blanksFrom (lines : Bool) : (fuel : Nat) → List Char → List Char × List Char
  | 0, chars => ([], chars)
  | _ + 1, [] => ([], [])
  | fuel + 1, c :: rest =>
    if c = ' ' || c = '\t' || (lines && (c = '\n' || c = '\r')) then
      let (inside, rest) := blanksFrom lines fuel rest
      (c :: inside, rest)
    else if c = '/' && rest.head? = some '*' then
      match blockComment? rest.tail with
      | some (comment, rest) =>
        let (inside, rest) := blanksFrom lines fuel rest
        ('/' :: '*' :: comment ++ inside, rest)
      | none => ([], c :: rest)
    else if lines then
      match lineComment? (c :: rest) with
      | some (comment, rest) =>
        let (inside, rest) := blanksFrom lines fuel rest
        (comment ++ inside, rest)
      | none => ([], c :: rest)
    else ([], c :: rest)

/-- Blanks and comments as text. -/
def blanks (lines : Bool) (chars : List Char) : String × List Char :=
  let (inside, rest) := blanksFrom lines (chars.length + 1) chars
  (String.ofList inside, rest)

/-- What follows the end of a line. -/
def lineEnd? : List Char → Option (List Char)
  | '\n' :: rest => some rest
  | '\r' :: '\n' :: rest => some rest
  | _ => none

/-- An identifier. -/
def ident? : List Char → Option (String × List Char)
  | [] => none
  | c :: rest =>
    if Text.isIdentStart c then
      some (String.ofList (c :: rest.takeWhile Text.isIdentContinue), rest.dropWhile Text.isIdentContinue)
    else none

/-- What follows a word, which may be the start of a longer one. -/
def word? (word : String) (chars : List Char) : Option (List Char) :=
  Text.afterStart? word.toList chars

/-- A number without a sign: its value and its source. -/
def number? (chars : List Char) : Option ((Number × String) × List Char) :=
  let whole := chars.takeWhile Char.isDigit
  let rest := chars.dropWhile Char.isDigit
  let (fraction, rest) := match rest with
    | '.' :: more =>
      if (more.takeWhile Char.isDigit).isEmpty then ([], rest)
      else ('.' :: more.takeWhile Char.isDigit, more.dropWhile Char.isDigit)
    | _ => ([], rest)
  let (exponent, rest) := match rest with
    | mark :: more =>
      if mark = 'e' || mark = 'E' then
        let (sign, digits) := match more with
          | '+' :: digits => (['+'], digits)
          | '-' :: digits => (['-'], digits)
          | digits => ([], digits)
        if (digits.takeWhile Char.isDigit).isEmpty then ([], rest)
        else (mark :: sign ++ digits.takeWhile Char.isDigit, digits.dropWhile Char.isDigit)
      else ([], rest)
    | [] => ([], rest)
  let source := whole ++ fraction ++ exponent
  if whole.isEmpty then none
  else if fraction.isEmpty && exponent.isEmpty then
    let n := Number.digitsValue whole
    if n < Number.unsignedLimit then some ((.int n, String.ofList source), rest) else none
  else do
    let x ← Number.float? source
    let n ← Number.ofFloat? x
    some ((n, String.ofList source), rest)

def hexValue? (c : Char) : Option Nat :=
  if c.isDigit then some (c.toNat - '0'.toNat)
  else if 'a' ≤ c && c ≤ 'f' then some (c.toNat - 'a'.toNat + 10)
  else if 'A' ≤ c && c ≤ 'F' then some (c.toNat - 'A'.toNat + 10)
  else none

/-- The character whose number is written with `count` hexadecimal digits. -/
def hexChar? : (count value : Nat) → List Char → Option (Char × List Char)
  | 0, n, rest => if n.isValidChar then some (Char.ofNat n, rest) else none
  | count + 1, n, c :: rest => do
    let digit ← hexValue? c
    hexChar? count (16 * n + digit) rest
  | _ + 1, _, [] => none

/-- The character denoted after a backslash. -/
def escape? : List Char → Option (Char × List Char)
  | [] => none
  | c :: rest =>
    match c with
    | '"' => some ('"', rest)
    | '\\' => some ('\\', rest)
    | '/' => some ('/', rest)
    | 'n' => some ('\n', rest)
    | 'r' => some ('\r', rest)
    | 't' => some ('\t', rest)
    | 'b' => some (Char.ofNat 8, rest)
    | 'f' => some (Char.ofNat 12, rest)
    | 'u' => hexChar? 4 0 rest
    | 'U' => hexChar? 8 0 rest
    | _ => none

/-- Whether a template marker starts here. -/
def startsMarker : List Char → Bool
  | '$' :: '{' :: _ => true
  | '%' :: '{' :: _ => true
  | _ => false

/-- Whether a doubled, that is literal, template marker starts here. -/
def startsDoubledMarker : List Char → Bool
  | '$' :: '$' :: '{' :: _ => true
  | '%' :: '%' :: '{' :: _ => true
  | _ => false

/-- The characters of a string literal up to its closing quote or the next marker. An escape that denotes nothing
ends them, and its backslash and the character after it are passed over; they cannot begin with one. -/
def quotedRun : (fuel : Nat) → (started : Bool) → List Char → List Char × List Char
  | 0, _, chars => ([], chars)
  | _ + 1, _, [] => ([], [])
  | fuel + 1, started, c :: rest =>
    if c = '"' || startsMarker (c :: rest) then ([], c :: rest)
    else if startsDoubledMarker (c :: rest) then
      let (run, rest) := quotedRun fuel true (rest.drop 2)
      (c :: '{' :: run, rest)
    else if c = '\\' then
      match escape? rest with
      | some (decoded, rest) =>
        let (run, rest) := quotedRun fuel true rest
        (decoded :: run, rest)
      | none => if started then ([], rest.drop 1) else ([], c :: rest)
    else
      let (run, rest) := quotedRun fuel true rest
      (c :: run, rest)

/-- The characters of a literal part of a string. -/
def quotedChars (chars : List Char) : List Char × List Char :=
  quotedRun (chars.length + 1) false chars

/-- A string literal without interpolations. -/
def plainString? : List Char → Option (String × List Char)
  | '"' :: rest =>
    match quotedChars rest with
    | (run, '"' :: rest) => some (String.ofList run, rest)
    | _ => none
  | _ => none

/-- Text up to a marker, a doubled marker or a place where it stops; none if it does not come to such a place. -/
def textRun? (stops : List Char → Bool) : List Char → Option (List Char × List Char)
  | [] => if stops [] then some ([], []) else none
  | c :: rest =>
    if stops (c :: rest) || startsMarker (c :: rest) || startsDoubledMarker (c :: rest) then some ([], c :: rest)
    else (textRun? stops rest).map fun (run, rest) => (c :: run, rest)

/-- Literal text without escapes, where only doubled markers stand for something else. -/
def rawRun (stops : List Char → Bool) : (fuel : Nat) → List Char → List Char × List Char
  | 0, chars => ([], chars)
  | _ + 1, [] => ([], [])
  | fuel + 1, c :: rest =>
    if startsDoubledMarker (c :: rest) then
      let (run, rest) := rawRun stops fuel (rest.drop 2)
      (c :: '{' :: run, rest)
    else
      match textRun? stops (c :: rest) with
      | some (d :: run, rest) =>
        let (more, rest) := rawRun stops fuel rest
        (d :: run ++ more, rest)
      | _ => ([], c :: rest)

/-- The characters of a literal part of a template without escapes. -/
def rawChars (stops : List Char → Bool) (chars : List Char) : List Char × List Char :=
  rawRun stops (chars.length + 1) chars

end Terrasmith.Source
