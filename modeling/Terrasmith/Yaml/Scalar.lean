import Terrasmith.Number.Text

/-!
Strings in YAML. A string stands plain where it can be read as nothing else, over several lines where it has
several, and in quotes otherwise.
-/
namespace Terrasmith.Yaml

/-- Whether characters are digits to a base. -/
def areDigits (base : Nat) (chars : List Char) : Bool :=
  !chars.isEmpty && chars.all fun c =>
    (c.isDigit && c.toNat - '0'.toNat < base)
      || (base = 16 && (('a' ≤ c && c ≤ 'f') || ('A' ≤ c && c ≤ 'F')))

def digitValue (c : Char) : Nat :=
  if c.isDigit then c.toNat - '0'.toNat
  else if 'a' ≤ c then c.toNat - 'a'.toNat + 10
  else c.toNat - 'A'.toNat + 10

/-- Whether a text is a number to a base, no greater than `limit`. -/
def isNumeral (base limit : Nat) (digits : List Char) : Bool :=
  areDigits base digits && digits.foldl (fun n c => base * n + digitValue c) 0 ≤ limit

/-- Whether digits with the mark of their base are a number no greater than `limit`. -/
def isMarkedNumeral (limit : Nat) : List Char → Bool
  | '0' :: 'x' :: digits => isNumeral 16 limit digits
  | '0' :: 'o' :: digits => isNumeral 8 limit digits
  | '0' :: 'b' :: digits => isNumeral 2 limit digits
  | _ => false

def withoutPlus : List Char → List Char
  | '+' :: rest => rest
  | chars => chars

def withoutSign : List Char → List Char
  | '+' :: rest => rest
  | '-' :: rest => rest
  | chars => chars

/-- Whether a text has needless zeros before an integer. -/
def isPaddedInteger (chars : List Char) : Bool :=
  match withoutSign chars with
  | '0' :: c :: rest => (c :: rest).all Char.isDigit
  | _ => false

/-- The greatest integer of 128 bits. -/
def unsignedMax : Nat := Nat.pow 2 128 - 1

/-- The greatest magnitude of a negative integer of 128 bits. -/
def negativeMax : Nat := Nat.pow 2 127

/-- Whether a text could be read as a number. -/
def isNumber (text : String) : Bool :=
  let chars := text.toList
  isPaddedInteger chars
    || isMarkedNumeral unsignedMax (withoutPlus chars)
    || (match chars with
      | '-' :: rest => isMarkedNumeral negativeMax rest
      | _ => false)
    || [".inf", ".Inf", ".INF"].contains (String.ofList (withoutPlus chars))
    || ["-.inf", "-.Inf", "-.INF", ".nan", ".NaN", ".NAN"].contains text
    || (match Number.float? chars with
      | some x => x.isFinite
      | none => false)

/-- Whether a text would be read as something else than a string. -/
def isAmbiguous (text : String) : Bool :=
  ["", "null", "Null", "NULL", "~", "true", "True", "TRUE", "false", "False", "FALSE"].contains text
    || isNumber text

/-- Characters that end a line. -/
def isBreak (c : Char) : Bool :=
  c = '\n' || c = '\r' || c.toNat = 0x85 || c.toNat = 0x2028 || c.toNat = 0x2029

/-- Characters that may be written as they are. -/
def isPrintable (c : Char) : Bool :=
  let n := c.toNat
  c = '\n' || (0x20 ≤ n && n ≤ 0x7e) || (0xa0 ≤ n && n ≤ 0xd7ff)
    || (0xe000 ≤ n && n ≤ 0xfffd && n ≠ 0xfeff) || 0x10000 ≤ n

/-- Whether a string is left by what follows: white space, or nothing. -/
def isGap : Option Char → Bool
  | none => true
  | some c => c = ' ' || c = '\t' || c.toNat = 0 || isBreak c

/-- Characters that mean something at the start of a value. -/
def isIndicator (c : Char) : Bool :=
  "#,[]\x7b\x7d&*!|>'\"%@`".toList.contains c

/-- Whether a string holds, behind its first character, something that ends a plain value. -/
def hasMark : (before : Char) → List Char → Bool
  | _, [] => false
  | before, c :: rest =>
    (c = ':' && isGap rest.head?) || (c = '#' && isGap (some before)) || hasMark c rest

/-- Whether the characters of a string mean something in a plain value. -/
def hasIndicator : List Char → Bool
  | [] => false
  | c :: rest =>
    isIndicator c || ((c = '?' || c = ':' || c = '-') && isGap rest.head?)
      || (c :: rest).take 3 = ['-', '-', '-'] || (c :: rest).take 3 = ['.', '.', '.'] || hasMark c rest

/-- Whether some character that satisfies `p` is followed by one that satisfies `q`. -/
def hasPair (p q : Char → Bool) (chars : List Char) : Bool :=
  (chars.zip chars.tail).any fun (a, b) => p a && q b

def isSpace (c : Char) : Bool := c = ' '

/-- Whether a character stands at one of the ends. -/
def atEnds (p : Char → Bool) (chars : List Char) : Bool :=
  chars.head?.any p || chars.getLast?.any p

inductive Style where
  | plain
  | single
  | double
  /-- Lines as they are, below a bar. -/
  | literal
  deriving Repr, DecidableEq

def canBeSingle (chars : List Char) : Bool :=
  chars.all isPrintable && !hasPair isBreak isSpace chars && !hasPair isSpace isBreak chars

def canBePlain (chars : List Char) : Bool :=
  canBeSingle chars && !chars.any isBreak && !atEnds isSpace chars && !hasIndicator chars

def canBeLiteral (chars : List Char) : Bool :=
  chars.all isPrintable && !hasPair isSpace isBreak chars && !chars.getLast?.any isSpace

/-- How a string is written. -/
def styleOf (text : String) : Style :=
  let chars := text.toList
  if chars.contains '\n' then if canBeLiteral chars then .literal else .double
  else if !isAmbiguous text && canBePlain chars then .plain
  else if canBeSingle chars then .single
  else .double

/-- The last `width` hexadecimal digits of a number. -/
def hex : (width : Nat) → Nat → List Char
  | 0, _ => []
  | width + 1, n => hex width (n / 16) ++ ["0123456789ABCDEF".toList[n % 16]?.getD '0']

/-- Characters with an escape of their own. -/
def escapeLetter? (c : Char) : Option Char :=
  [(0x00, '0'), (0x07, 'a'), (0x08, 'b'), (0x09, 't'), (0x0a, 'n'), (0x0b, 'v'), (0x0c, 'f'), (0x0d, 'r'),
    (0x1b, 'e'), (0x22, '"'), (0x5c, '\\'), (0x85, 'N'), (0x2028, 'L'), (0x2029, 'P')].lookup c.toNat

/-- A character between double quotes. -/
def escape (c : Char) : List Char :=
  match escapeLetter? c with
  | some letter => ['\\', letter]
  | none =>
    if isPrintable c then [c]
    else if c.toNat ≤ 0xff then '\\' :: 'x' :: hex 2 c.toNat
    else if c.toNat ≤ 0xffff then '\\' :: 'u' :: hex 4 c.toNat
    else '\\' :: 'U' :: hex 8 c.toNat

/-- Lines with blanks before them; lines without characters get none. `fresh` tells that a line has just begun. -/
def indented (blanks : List Char) : (fresh : Bool) → List Char → List Char
  | _, [] => []
  | fresh, c :: rest =>
    if isBreak c then c :: indented blanks true rest
    else (if fresh then blanks else []) ++ c :: indented blanks false rest

/-- What follows the bar before lines: how far they are indented if that cannot be seen, and how many breaks are
kept at the end. -/
def literalHints (chars : List Char) : List Char :=
  (if chars.head?.any fun c => isSpace c || isBreak c then ['2'] else [])
    ++ (match chars.reverse with
      | [] => ['-']
      | c :: rest =>
        if !isBreak c then ['-']
        else match rest with
          | [] => ['+']
          | c :: _ => if isBreak c then ['+'] else [])

/-- A string as it is written, up to the end of its last line. Further lines have `indent` blanks before them. -/
def scalarLine (indent : Nat) (text : String) : String :=
  let chars := text.toList
  let blanks := List.replicate indent ' '
  match styleOf text with
  | .plain => text ++ "\n"
  | .single =>
    let body := indented blanks false (chars.flatMap fun c => if c = '\'' then ['\'', '\''] else [c])
    "'" ++ String.ofList body ++ (if chars.getLast?.any isBreak then String.ofList blanks else "") ++ "'\n"
  | .double => "\"" ++ String.ofList (chars.flatMap escape) ++ "\"\n"
  | .literal =>
    "|" ++ String.ofList (literalHints chars) ++ "\n" ++ String.ofList (indented blanks true chars)
      ++ (if chars.getLast?.any isBreak then "" else "\n")

end Terrasmith.Yaml
