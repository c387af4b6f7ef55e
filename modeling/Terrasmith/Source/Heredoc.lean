import Terrasmith.Source.Lexeme
import Terrasmith.Source.Written

/-!
The lines of heredocs. A heredoc lasts until a line end that is followed by blanks and its delimiter. When it is
written with `<<-`, its literal parts lose the white space that their lines have in common, and get it back as
blanks when the heredoc is printed.
-/
namespace Terrasmith.Source

def isIndent (c : Char) : Bool := c = ' ' || c = '\t'

/-- Whether the closing line of a heredoc follows. -/
def closesHeredoc (delimiter : List Char) (chars : List Char) : Bool :=
  match lineEnd? chars with
  | some rest => (Text.afterStart? delimiter (rest.dropWhile isIndent)).isSome
  | none => false

/-- The least leading white space of the lines of a literal that are not empty, zero if there is none. The first
line does not count if it continues another one. -/
def leastIndent (continued : Bool) (text : String) : Nat :=
  let lines := Text.linesOf text.toList
  let lines := (if continued then lines.drop 1 else lines).filter (!·.isEmpty)
  ((lines.map fun line => (line.takeWhile Text.isBlank).length).min?).getD 0

/-- The smaller of two numbers where zero says nothing. -/
def smallerPositive (m n : Nat) : Nat :=
  if m = 0 then n else if n = 0 then m else min m n

/-- The indentation of a heredoc: the smallest one of its literal parts, those at zero left out. -/
def commonIndent : (continued : Bool) → List Piece → Nat
  | _, [] => 0
  | continued, .literal text :: rest =>
    smallerPositive (leastIndent continued text) (commonIndent (!Text.endsWith text "\n") rest)
  | _, _ :: rest => commonIndent true rest

/-- Lines joined again; a text that ended in a newline still does. -/
def joinLines (text : String) (lines : List String) : String :=
  Text.join "\n" lines ++ (if Text.endsWith text "\n" then "\n" else "")

/-- A literal without the first `n` characters of its lines. -/
def dedentText (n : Nat) (continued : Bool) (text : String) : String :=
  let cut := fun (line : List Char) => String.ofList (line.drop n)
  match Text.linesOf text.toList with
  | [] => text
  | first :: rest => joinLines text ((if continued then String.ofList first else cut first) :: rest.map cut)

/-- The parts of a heredoc without their common indentation. -/
def dedent (n : Nat) : (continued : Bool) → List Piece → List Piece
  | _, [] => []
  | continued, .literal text :: rest =>
    .literal (dedentText n continued text) :: dedent n (!Text.endsWith text "\n") rest
  | _, piece :: rest => piece :: dedent n true rest

/-- A text with `n` blanks before every line that is not empty. -/
def indentText (n : Nat) (text : String) : String :=
  joinLines text ((Text.lines text).map fun line => if line.isEmpty then line else Text.repeated n " " ++ line)

/-- Adds the last line end to the parts of a heredoc. -/
def appendText (text : String) : List Piece → List Piece
  | [] => [.literal text]
  | [.literal last] => [.literal (last ++ text)]
  | piece :: rest => piece :: appendText text rest

end Terrasmith.Source
