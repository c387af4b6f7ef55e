import Terrasmith.Regex.Match

/-!
Replacing matches. In the replacement `$1`, `$name` and `${name}` stand for groups of the match and `$$` for a
dollar sign; a name without braces is as long as possible, and a group that is not there is empty.
-/
namespace Terrasmith.Regex

/-- Pieces of a replacement. -/
inductive Piece where
  | char (c : Char)
  | group (name : String)
  deriving Repr, DecidableEq

def isGroupNameChar (c : Char) : Bool := c.isAlphanum || c = '_'

/-- The pieces of a replacement. -/
def pieces : (fuel : Nat) → List Char → List Piece
  | 0, _ => []
  | _ + 1, [] => []
  | fuel + 1, '$' :: '$' :: rest => .char '$' :: pieces fuel rest
  | fuel + 1, '$' :: '{' :: rest =>
    match rest.dropWhile (· ≠ '}') with
    | _ :: after => .group (String.ofList (rest.takeWhile (· ≠ '}'))) :: pieces fuel after
    | [] => .char '$' :: pieces fuel ('{' :: rest)
  | fuel + 1, '$' :: rest =>
    let name := rest.takeWhile isGroupNameChar
    if name.isEmpty then .char '$' :: pieces fuel rest
    else .group (String.ofList name) :: pieces fuel (rest.dropWhile isGroupNameChar)
  | fuel + 1, c :: rest => .char c :: pieces fuel rest

/-- The number that a name is, with or without a sign. -/
def groupNumber? (name : List Char) : Option Nat :=
  let digits := match name with
    | '+' :: rest => rest
    | _ => name
  if !digits.isEmpty && digits.all Char.isDigit then
    some (digits.foldl (fun n c => 10 * n + (c.toNat - '0'.toNat)) 0)
  else none

/-- The group that a name or number in a replacement stands for. -/
def groupOf? (r : Regex) (name : String) : Option Nat :=
  groupNumber? name.toList <|> r.groupOfName? name

/-- What a piece of a replacement stands for in a match. -/
def Piece.expand (r : Regex) (text : List Char) (m : Match) : Piece → List Char
  | .char c => [c]
  | .group name => ((r.groupOf? name).bind (m.groupText? text)).getD []

/-- The text from `index` on with its matches replaced. -/
def replaceFrom (r : Regex) (text : List Char) (replacement : List Piece) : List Match → (index : Nat) → List Char
  | [], index => text.drop index
  | m :: rest, index =>
    slice text (index, m.start) ++ replacement.flatMap (Piece.expand r text m)
      ++ replaceFrom r text replacement rest m.stop

/-- A text with all matches replaced. -/
def replaceAll (r : Regex) (text replacement : String) : String :=
  let chars := text.toList
  let parts := pieces (replacement.length + 1) replacement.toList
  String.ofList (replaceFrom r chars parts (r.allMatches chars) 0)

end Terrasmith.Regex
