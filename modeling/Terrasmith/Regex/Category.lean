import Terrasmith.Regex.CharSet
import Terrasmith.Text.Age
import Terrasmith.Text.Category
import Terrasmith.Text.FineCategory

/-!
The general categories of characters by version 16 of the Unicode standard, and the classes of digits, blanks and
word characters.
-/
namespace Terrasmith.CharSet

/-- The characters of a table that version 16 knows. -/
def known (cuts : List Nat) : CharSet := .except (.boundaries cuts) (.boundaries Text.recentBoundaries)

def letter : CharSet := known Text.letterBoundaries
def uppercaseLetter : CharSet := known Text.upperBoundaries

/-- Version 17 made one lowercase letter a letter without case. -/
def lowercaseLetter : CharSet := .union (known Text.lowerBoundaries) (.range 0x295 0x295)

def titlecaseLetter : CharSet := .boundaries Text.titlecaseBoundaries
def modifierLetter : CharSet := known Text.modifierLetterBoundaries
def casedLetter : CharSet := unions [uppercaseLetter, lowercaseLetter, titlecaseLetter]
def mark : CharSet := known Text.markBoundaries
def nonspacingMark : CharSet := known Text.nonspacingBoundaries
def enclosingMark : CharSet := .boundaries Text.enclosingBoundaries
def spacingMark : CharSet := .except mark (.union nonspacingMark enclosingMark)
def number : CharSet := known Text.numericBoundaries
def decimal : CharSet := known Text.decimalBoundaries
def letterNumber : CharSet := known Text.letterNumberBoundaries
def punctuation : CharSet := known Text.punctuationBoundaries
def connector : CharSet := .boundaries Text.connectorBoundaries
def dash : CharSet := .boundaries Text.dashBoundaries
def openingPunctuation : CharSet := .boundaries Text.openingBoundaries
def closingPunctuation : CharSet := .boundaries Text.closingBoundaries
def initialQuote : CharSet := .boundaries Text.initialQuoteBoundaries
def finalQuote : CharSet := .boundaries Text.finalQuoteBoundaries
def symbol : CharSet := known Text.symbolBoundaries
def mathSymbol : CharSet := known Text.mathBoundaries
def currencySymbol : CharSet := known Text.currencyBoundaries
def modifierSymbol : CharSet := .boundaries Text.modifierSymbolBoundaries
def space : CharSet := .boundaries Text.spaceBoundaries
def lineSeparator : CharSet := .range 0x2028 0x2028
def paragraphSeparator : CharSet := .range 0x2029 0x2029
def separator : CharSet := unions [space, lineSeparator, paragraphSeparator]
def control : CharSet := .union (.range 0 31) (.range 127 159)
def formatControl : CharSet := .boundaries Text.formatBoundaries
def privateUse : CharSet := .boundaries [57344, 63744, 983040, 1048574, 1048576, 1114110]

/-- Controls, private and unassigned characters: what is neither letter, mark, number, punctuation, symbol
nor separator. -/
def other : CharSet := (unions [letter, mark, number, punctuation, symbol, separator]).complement

def unassigned : CharSet := .except other (unions [control, formatControl, privateUse])

/-- White space: the `White_Space` property. -/
def blank : CharSet :=
  .boundaries [9, 14, 32, 33, 133, 134, 160, 161, 5760, 5761, 8192, 8203, 8232, 8234, 8239, 8240, 8287, 8288, 12288,
    12289]

def joiner : CharSet := .range 0x200c 0x200d

def alphabetic : CharSet := known Text.alphabeticBoundaries

/-- Word characters: letters, marks, decimal digits, connecting punctuation and the two joiners. -/
def word : CharSet := unions [alphabetic, mark, decimal, connector, joiner]

def asciiWord : CharSet := unions [.range 48 57, .range 65 90, .range 95 95, .range 97 122]

/-- The set of a general category. -/
def category? : String → Option CharSet
  | "any" => some .any
  | "ascii" => some ascii
  | "assigned" => some unassigned.complement
  | "l" | "letter" => some letter
  | "lc" | "casedletter" => some casedLetter
  | "lu" | "uppercaseletter" => some uppercaseLetter
  | "ll" | "lowercaseletter" => some lowercaseLetter
  | "lt" | "titlecaseletter" => some titlecaseLetter
  | "lm" | "modifierletter" => some modifierLetter
  | "lo" | "otherletter" => some (.except letter (.union casedLetter modifierLetter))
  | "m" | "mark" | "combiningmark" => some mark
  | "mn" | "nonspacingmark" => some nonspacingMark
  | "me" | "enclosingmark" => some enclosingMark
  | "mc" | "spacingmark" => some spacingMark
  | "n" | "number" => some number
  | "nd" | "decimalnumber" | "digit" => some decimal
  | "nl" | "letternumber" => some letterNumber
  | "no" | "othernumber" => some (.except number (.union decimal letterNumber))
  | "p" | "punctuation" | "punct" => some punctuation
  | "pc" | "connectorpunctuation" => some connector
  | "pd" | "dashpunctuation" => some dash
  | "ps" | "openpunctuation" => some openingPunctuation
  | "pe" | "closepunctuation" => some closingPunctuation
  | "pi" | "initialpunctuation" => some initialQuote
  | "pf" | "finalpunctuation" => some finalQuote
  | "po" | "otherpunctuation" =>
    some (.except punctuation
      (unions [connector, dash, openingPunctuation, closingPunctuation, initialQuote, finalQuote]))
  | "s" | "symbol" => some symbol
  | "sm" | "mathsymbol" => some mathSymbol
  | "sc" | "currencysymbol" => some currencySymbol
  | "sk" | "modifiersymbol" => some modifierSymbol
  | "so" | "othersymbol" => some (.except symbol (unions [mathSymbol, currencySymbol, modifierSymbol]))
  | "z" | "separator" => some separator
  | "zs" | "spaceseparator" => some space
  | "zl" | "lineseparator" => some lineSeparator
  | "zp" | "paragraphseparator" => some paragraphSeparator
  | "c" | "other" => some other
  | "cc" | "control" | "cntrl" => some control
  | "cf" | "format" => some formatControl
  | "co" | "privateuse" => some privateUse
  | "cn" | "unassigned" => some unassigned
  | _ => .none

end Terrasmith.CharSet
