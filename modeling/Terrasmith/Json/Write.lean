import Terrasmith.Value.Basic

/-!
JSON texts of values: compact, or laid out with two blanks per level.
-/
namespace Terrasmith.Json

def hexDigit (n : Nat) : Char :=
  if n < 10 then Char.ofNat ('0'.toNat + n) else Char.ofNat ('a'.toNat + (n - 10))

/-- One character inside of a JSON string. -/
def escapeChar (c : Char) : List Char :=
  match c with
  | '"' => ['\\', '"']
  | '\\' => ['\\', '\\']
  | '\n' => ['\\', 'n']
  | '\r' => ['\\', 'r']
  | '\t' => ['\\', 't']
  | _ =>
    if c.toNat = 8 then ['\\', 'b']
    else if c.toNat = 12 then ['\\', 'f']
    else if c.toNat < 32 then ['\\', 'u', '0', '0', hexDigit (c.toNat / 16), hexDigit (c.toNat % 16)]
    else [c]

def quoted (s : String) : String :=
  String.ofList ('"' :: (s.toList.flatMap escapeChar ++ ['"']))

/-- Floats that JSON has no number for are written as null. -/
def numberText : Number → String
  | .float x => if x.isFinite then Number.json.write x else "null"
  | n => n.write Number.json

mutual

/-- The JSON text of a value without any blanks. -/
def compact : Value → String
  | .null => "null"
  | .bool b => if b then "true" else "false"
  | .number n => numberText n
  | .string s => quoted s
  | .array items => "[" ++ compactItems items ++ "]"
  | .object entries => "\x7b" ++ compactEntries entries ++ "\x7d"

def compactItems : List Value → String
  | [] => ""
  | [v] => compact v
  | v :: rest => compact v ++ "," ++ compactItems rest

def compactEntries : List (String × Value) → String
  | [] => ""
  | [(key, v)] => quoted key ++ ":" ++ compact v
  | (key, v) :: rest => quoted key ++ ":" ++ compact v ++ "," ++ compactEntries rest

end

def newline (level : Nat) : String :=
  "\n" ++ Text.repeated level "  "

mutual

/-- The JSON text of a value laid out over several lines, inside of `level` brackets. -/
def pretty (level : Nat) : Value → String
  | .null => "null"
  | .bool b => if b then "true" else "false"
  | .number n => numberText n
  | .string s => quoted s
  | .array [] => "[]"
  | .array (v :: rest) =>
    "[" ++ newline (level + 1) ++ pretty (level + 1) v ++ prettyItems (level + 1) rest ++ newline level ++ "]"
  | .object [] => "\x7b\x7d"
  | .object ((key, v) :: rest) =>
    "\x7b" ++ newline (level + 1) ++ quoted key ++ ": " ++ pretty (level + 1) v
      ++ prettyEntries (level + 1) rest ++ newline level ++ "\x7d"

def prettyItems (level : Nat) : List Value → String
  | [] => ""
  | v :: rest => "," ++ newline level ++ pretty level v ++ prettyItems level rest

def prettyEntries (level : Nat) : List (String × Value) → String
  | [] => ""
  | (key, v) :: rest =>
    "," ++ newline level ++ quoted key ++ ": " ++ pretty level v ++ prettyEntries level rest

end

end Terrasmith.Json
