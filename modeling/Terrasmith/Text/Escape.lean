/-!
The insides of string literals. Quotes, backslashes and control characters are escaped, and a `$` or `%` that
would open a template is doubled.
-/
namespace Terrasmith.Text

/-- How control characters without a short escape are written: by the case of their hexadecimal digits, and
whether the delete character is one of them. -/
structure EscapeFormat where
  upper : Bool
  delete : Bool
  deriving Repr, DecidableEq

def hexDigit (upper : Bool) (n : Nat) : Char :=
  if n < 10 then Char.ofNat ('0'.toNat + n)
  else Char.ofNat ((if upper then 'A' else 'a').toNat + (n - 10))

/-- One character inside of a string literal. -/
def EscapeFormat.char (f : EscapeFormat) (c : Char) : List Char :=
  match c with
  | '"' => ['\\', '"']
  | '\\' => ['\\', '\\']
  | '\n' => ['\\', 'n']
  | '\r' => ['\\', 'r']
  | '\t' => ['\\', 't']
  | _ =>
    if c.toNat = 8 then ['\\', 'b']
    else if c.toNat = 12 then ['\\', 'f']
    else if c.toNat < 32 || (f.delete && c.toNat = 127) then
      ['\\', 'u', '0', '0', hexDigit f.upper (c.toNat / 16), hexDigit f.upper (c.toNat % 16)]
    else [c]

/-- Whether a character can open a template together with a brace. -/
def isSigil (c : Char) : Bool := c = '$' || c = '%'

/-- Doubles the sigils of the markers behind the first one. A sigil is read together with the character after it,
so that a marker right behind another sigil stays as it is. -/
def doubleLater : List Char → List Char
  | [] => []
  | [c] => [c]
  | c :: d :: rest =>
    if isSigil c then
      if d = '{' then c :: c :: d :: doubleLater rest else c :: d :: doubleLater rest
    else c :: doubleLater (d :: rest)

/-- Doubles the sigils of literal markers, so that they are not read as templates. -/
def doubleMarkers : List Char → List Char
  | [] => []
  | c :: rest =>
    if isSigil c && rest.head? = some '{' then c :: c :: '{' :: doubleLater rest.tail
    else c :: doubleMarkers rest

def doubled (text : String) : String := String.ofList (doubleMarkers text.toList)

/-- The inside of a string literal whose markers are doubled already. -/
def EscapeFormat.inside (f : EscapeFormat) (text : String) : String :=
  String.ofList (text.toList.flatMap f.char)

/-- The string literal that denotes `text`. -/
def EscapeFormat.literal (f : EscapeFormat) (text : String) : String :=
  "\"" ++ f.inside (doubled text) ++ "\""

/-- Whether a text holds a marker that opens a template. A doubled sigil takes the next character with it, and no
text of two characters is a template. -/
def opensTemplate : (size : Nat) → List Char → Bool
  | size, c :: d :: rest =>
    if isSigil c && d = '{' then 2 < size
    else if isSigil c && d = c then opensTemplate size rest
    else opensTemplate size (d :: rest)
  | _, _ => false

def isTemplate (text : String) : Bool := opensTemplate text.toList.length text.toList

end Terrasmith.Text
