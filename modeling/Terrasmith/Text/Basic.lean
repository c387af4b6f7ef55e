import Terrasmith.Text.Category

/-!
Cutting texts: white space at the ends, lines, separators. Texts are cut as lists of characters, which is
what the statements about them are proved on; the `String` versions wrap those.
-/
namespace Terrasmith.Text

def trimStartChars (chars : List Char) : List Char :=
  chars.dropWhile isBlank

def trimEndChars (chars : List Char) : List Char :=
  (chars.reverse.dropWhile isBlank).reverse

def trimChars (chars : List Char) : List Char :=
  trimEndChars (trimStartChars chars)

/-- A text without the white space at its ends. -/
def trim (text : String) : String := String.ofList (trimChars text.toList)

/-- Whether a text holds nothing but white space. -/
def allBlank (text : String) : Bool := text.toList.all isBlank

/-- A line whose newline was cut off also loses one carriage return before it. -/
def dropReturn (line : List Char) : List Char :=
  match line.reverse with
  | '\r' :: rest => rest.reverse
  | _ => line

/-- The lines of a text. `line` holds the characters of the current line, last first. A text that ends in
a newline has no further empty line after it. -/
def linesFrom : (line chars : List Char) → List (List Char)
  | [], [] => []
  | line, [] => [line.reverse]
  | line, '\n' :: rest => dropReturn line.reverse :: linesFrom [] rest
  | line, c :: rest => linesFrom (c :: line) rest

def linesOf (chars : List Char) : List (List Char) := linesFrom [] chars

def lines (text : String) : List String := (linesOf text.toList).map String.ofList

/-- What follows `start` in `chars`, if they begin with it. -/
def afterStart? : (start chars : List Char) → Option (List Char)
  | [], chars => some chars
  | _ :: _, [] => none
  | s :: start, c :: chars => if s = c then afterStart? start chars else none

def startsWith (text start : String) : Bool :=
  (afterStart? start.toList text.toList).isSome

def endsWith (text stop : String) : Bool :=
  (afterStart? stop.toList.reverse text.toList.reverse).isSome

/-- What follows `start` in `text`. -/
def stripStart? (text start : String) : Option String :=
  (afterStart? start.toList text.toList).map String.ofList

/-- What precedes `stop` in `text`. -/
def stripEnd? (text stop : String) : Option String :=
  (afterStart? stop.toList.reverse text.toList.reverse).map (String.ofList ·.reverse)

/-- Cuts at every occurrence of a non-empty separator, from the left and without overlap. `skip` counts
the characters of the separator that are still to be passed over, `part` is the current part, last
character first. -/
def cutFrom (separator : List Char) : (skip : Nat) → (part chars : List Char) → List (List Char)
  | _, part, [] => [part.reverse]
  | skip + 1, part, _ :: rest => cutFrom separator skip part rest
  | 0, part, c :: rest =>
    if (afterStart? separator (c :: rest)).isSome then
      part.reverse :: cutFrom separator (separator.length - 1) [] rest
    else cutFrom separator 0 (c :: part) rest

/-- The parts between the occurrences of a separator; the empty separator stands before, between and
after all characters. -/
def splitOn (text separator : String) : List String :=
  match separator.toList with
  | [] => "" :: (text.toList.map fun c => String.singleton c) ++ [""]
  | chars => (cutFrom chars 0 [] text.toList).map String.ofList

/-- Parts joined by a separator. -/
def join (separator : String) (parts : List String) : String :=
  String.intercalate separator parts

def replaceAll (text search replacement : String) : String :=
  join replacement (splitOn text search)

def contains (text part : String) : Bool :=
  part.isEmpty || 1 < (splitOn text part).length

def repeated (n : Nat) (text : String) : String :=
  String.join (List.replicate n text)

end Terrasmith.Text
