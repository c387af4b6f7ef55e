import Terrasmith.Json.Number
import Terrasmith.Value.Basic

/-!
JSON documents read from texts. A document keeps the entries of its objects as they are written; what a
repeated key means is decided by what the document is read into.
-/
namespace Terrasmith.Json

inductive Document where
  | null
  | bool (b : Bool)
  | number (n : Number)
  | string (s : String)
  | array (items : List Document)
  | object (entries : List (String × Document))
  deriving Inhabited

def Document.text? : Document → Option String
  | .string s => some s
  | _ => none

def isSpace (c : Char) : Bool := c = ' ' || c = '\n' || c = '\t' || c = '\r'

def skipSpace (chars : List Char) : List Char := chars.dropWhile isSpace

def hexValue? (c : Char) : Option Nat :=
  if c.isDigit then some (c.toNat - '0'.toNat)
  else if 'a' ≤ c && c ≤ 'f' then some (c.toNat - 'a'.toNat + 10)
  else if 'A' ≤ c && c ≤ 'F' then some (c.toNat - 'A'.toNat + 10)
  else none

/-- Four hexadecimal digits. -/
def hex4? : List Char → Option (Nat × List Char)
  | a :: b :: c :: d :: rest => do
    let a ← hexValue? a
    let b ← hexValue? b
    let c ← hexValue? c
    let d ← hexValue? d
    some (((a * 16 + b) * 16 + c) * 16 + d, rest)
  | _ => none

/-- The character after `\u`: half of a surrogate pair needs the other half. -/
def unicodeEscape? (chars : List Char) : Option (Char × List Char) := do
  let (n, rest) ← hex4? chars
  if 0xd800 ≤ n && n < 0xdc00 then
    match rest with
    | '\\' :: 'u' :: rest =>
      let (low, rest) ← hex4? rest
      if 0xdc00 ≤ low && low < 0xe000 then
        some (Char.ofNat (0x10000 + (n - 0xd800) * 0x400 + (low - 0xdc00)), rest)
      else none
    | _ => none
  else if 0xdc00 ≤ n && n < 0xe000 then none
  else some (Char.ofNat n, rest)

/-- The rest of a string after its opening quote; `done` holds its characters so far, last first. -/
def stringRest? : (fuel : Nat) → (done chars : List Char) → Option (String × List Char)
  | 0, _, _ => none
  | _ + 1, _, [] => none
  | _ + 1, done, '"' :: rest => some (String.ofList done.reverse, rest)
  | fuel + 1, done, '\\' :: rest =>
    match rest with
    | '"' :: rest => stringRest? fuel ('"' :: done) rest
    | '\\' :: rest => stringRest? fuel ('\\' :: done) rest
    | '/' :: rest => stringRest? fuel ('/' :: done) rest
    | 'b' :: rest => stringRest? fuel (Char.ofNat 8 :: done) rest
    | 'f' :: rest => stringRest? fuel (Char.ofNat 12 :: done) rest
    | 'n' :: rest => stringRest? fuel ('\n' :: done) rest
    | 'r' :: rest => stringRest? fuel ('\r' :: done) rest
    | 't' :: rest => stringRest? fuel ('\t' :: done) rest
    | 'u' :: rest =>
      match unicodeEscape? rest with
      | some (c, rest) => stringRest? fuel (c :: done) rest
      | none => none
    | _ => none
  | fuel + 1, done, c :: rest => if c.toNat < 32 then none else stringRest? fuel (c :: done) rest

def string? (chars : List Char) : Option (String × List Char) :=
  stringRest? (chars.length + 1) [] chars

mutual

/-- A document in at most `depth` nested brackets. -/
def value? : (fuel depth : Nat) → List Char → Option (Document × List Char)
  | 0, _, _ => none
  | fuel + 1, depth, chars =>
    match skipSpace chars with
    | 'n' :: 'u' :: 'l' :: 'l' :: rest => some (.null, rest)
    | 't' :: 'r' :: 'u' :: 'e' :: rest => some (.bool true, rest)
    | 'f' :: 'a' :: 'l' :: 's' :: 'e' :: rest => some (.bool false, rest)
    | '"' :: rest => (string? rest).map fun (s, rest) => (.string s, rest)
    | '[' :: rest =>
      if depth ≤ 1 then none
      else match skipSpace rest with
        | ']' :: rest => some (.array [], rest)
        | rest => (items? fuel (depth - 1) rest).map fun (items, rest) => (.array items, rest)
    | '{' :: rest =>
      if depth ≤ 1 then none
      else match skipSpace rest with
        | '}' :: rest => some (.object [], rest)
        | rest => (entries? fuel (depth - 1) rest).map fun (entries, rest) => (.object entries, rest)
    | '-' :: rest => (number? true rest).map fun (n, rest) => (.number n, rest)
    | chars => (number? false chars).map fun (n, rest) => (.number n, rest)

/-- Items up to the closing bracket. -/
def items? : (fuel depth : Nat) → List Char → Option (List Document × List Char)
  | 0, _, _ => none
  | fuel + 1, depth, chars => do
    let (item, rest) ← value? fuel depth chars
    match skipSpace rest with
    | ']' :: rest => some ([item], rest)
    | ',' :: rest =>
      let (items, rest) ← items? fuel depth rest
      some (item :: items, rest)
    | _ => none

/-- Entries up to the closing brace. -/
def entries? : (fuel depth : Nat) → List Char → Option (List (String × Document) × List Char)
  | 0, _, _ => none
  | fuel + 1, depth, chars =>
    match skipSpace chars with
    | '"' :: rest => do
      let (key, rest) ← string? rest
      match skipSpace rest with
      | ':' :: rest =>
        let (item, rest) ← value? fuel depth rest
        match skipSpace rest with
        | '}' :: rest => some ([(key, item)], rest)
        | ',' :: rest =>
          let (entries, rest) ← entries? fuel depth rest
          some ((key, item) :: entries, rest)
        | _ => none
      | _ => none
    | _ => none

end

/-- The deepest nesting of brackets that is read, plus one. -/
def depthLimit : Nat := 128

/-- The document a text holds. -/
def parse? (text : String) : Option Document := do
  let chars := text.toList
  let (document, rest) ← value? (2 * chars.length + 2) depthLimit chars
  if (skipSpace rest).isEmpty then some document else none

mutual

/-- The value of a document. A repeated key keeps its first place and its last value. -/
def Document.toValue : Document → Value
  | .null => .null
  | .bool b => .bool b
  | .number n => .number n
  | .string s => .string s
  | .array items => .array (toValues items)
  | .object entries => .object (insertEntries [] (toValueEntries entries))

def Document.toValues : List Document → List Value
  | [] => []
  | d :: rest => d.toValue :: toValues rest

def Document.toValueEntries : List (String × Document) → List (String × Value)
  | [] => []
  | (key, d) :: rest => (key, d.toValue) :: toValueEntries rest

end

/-- Inserts an entry into entries that are sorted by key, over an entry of the same key. -/
def insertSorted {α : Type} (key : String) (item : α) : List (String × α) → List (String × α)
  | [] => [(key, item)]
  | (k, v) :: rest =>
    if key = k then (k, item) :: rest
    else if key < k then (key, item) :: (k, v) :: rest
    else (k, v) :: insertSorted key item rest

/-- Entries in the order of their keys, the last one of each key. -/
def sortEntries {α : Type} (entries : List (String × α)) : List (String × α) :=
  entries.foldl (fun sorted (key, item) => insertSorted key item sorted) []

end Terrasmith.Json
