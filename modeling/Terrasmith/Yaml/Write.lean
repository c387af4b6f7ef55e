import Terrasmith.Value.Basic
import Terrasmith.Yaml.Scalar

/-!
YAML texts of values in block style. Lists in maps are not indented.
-/
namespace Terrasmith.Yaml

/-- How many bytes a key may have that is written before its value on one line. -/
def keyLimit : Nat := 128

/-- Whether a key is written before its value on one line. -/
def isSimpleKey (key : String) : Bool :=
  !key.toList.any isBreak && key.utf8ByteSize ≤ keyLimit

def numberText : Number → String
  | .float x =>
    if x.isNaN then ".nan"
    else if x.isInf then (if x < 0 then "-.inf" else ".inf")
    else Number.plain.write x
  | n => n.display

/-- Blanks before a line, unless it has already begun. -/
def blanks (begun : Bool) (indent : Nat) : String :=
  if begun then "" else Text.repeated indent " "

mutual

/-- What follows a key and its colon in a map at `indent`. -/
def afterKey (indent : Nat) : Value → String
  | .array (v :: rest) => "\n" ++ items indent false (v :: rest)
  | .object (e :: rest) => "\n" ++ entries (indent + 2) false (e :: rest)
  | .array [] => " []\n"
  | .object [] => " \x7b\x7d\n"
  | .string s => " " ++ scalarLine (indent + 2) s
  | .number n => " " ++ numberText n ++ "\n"
  | .bool b => if b then " true\n" else " false\n"
  | .null => " null\n"

/-- A value on a line that has already begun; its own lines are at `indent`. -/
def inline (indent : Nat) : Value → String
  | .array (v :: rest) => items indent true (v :: rest)
  | .object (e :: rest) => entries indent true (e :: rest)
  | .array [] => "[]\n"
  | .object [] => "\x7b\x7d\n"
  | .string s => scalarLine indent s
  | .number n => numberText n ++ "\n"
  | .bool b => if b then "true\n" else "false\n"
  | .null => "null\n"

def items (indent : Nat) (begun : Bool) : List Value → String
  | [] => ""
  | v :: rest => blanks begun indent ++ "- " ++ inline (indent + 2) v ++ items indent false rest

def entries (indent : Nat) (begun : Bool) : List (String × Value) → String
  | [] => ""
  | (key, v) :: rest =>
    blanks begun indent
      ++ (if isSimpleKey key then String.ofList (scalarLine indent key).toList.dropLast ++ ":" ++ afterKey indent v
        else "? " ++ scalarLine (indent + 2) key ++ blanks false indent ++ ": " ++ inline (indent + 2) v)
      ++ entries indent false rest

end

/-- The YAML text of a value. -/
def document : Value → String
  | .array (v :: rest) => items 0 true (v :: rest)
  | .object (e :: rest) => entries 0 true (e :: rest)
  | v => inline 2 v

end Terrasmith.Yaml
