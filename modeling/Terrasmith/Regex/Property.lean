import Terrasmith.Regex.Category
import Terrasmith.Text.Identifier
import Terrasmith.Text.Property
import Terrasmith.Text.Script

/-!
The properties that characters have or lack, their scripts and their ages, by version 16 of the Unicode standard.
A property that the standard derives from others is derived here as well.
-/
namespace Terrasmith.CharSet

def lowercase : CharSet := .union lowercaseLetter (known Text.otherLowerBoundaries)

def uppercase : CharSet := .union uppercaseLetter (known Text.otherUpperBoundaries)

/-- The characters that a list of runs covers. -/
def covered (runs : List Text.CaseRun) : CharSet :=
  unions (runs.map fun run => .stepped run.first run.last run.step)

/-- The characters that their lower case differs from; the dotted capital i becomes two characters. -/
def changedByLower : CharSet := .union (covered Text.lowerRuns) (.range 304 304)

def changedByUpper : CharSet :=
  .union (covered Text.upperRuns) (unions (Text.wideUpper.map fun (n, _) => .range n n))

/-- The letters of Georgian, whose title case is themselves. -/
def unicameral : CharSet := .union (.range 0x10d0 0x10fa) (.range 0x10fd 0x10ff)

/-- The characters that their title case differs from. Four ligatures in upper case have a title case of their
own. -/
def changedByTitle : CharSet :=
  unions [.except changedByUpper (.union titlecaseLetter unicameral),
    .range 0x1c4 0x1c4, .range 0x1c7 0x1c7, .range 0x1ca 0x1ca, .range 0x1f1 0x1f1]

/-- The characters that their folded form differs from. Cherokee folds to upper case, everything else to lower
case, and the forms that are written out fold as well. -/
def changedByFolding : CharSet :=
  .union (.except changedByLower (.range 0x13a0 0x13f5))
    (.boundaries [
      0xb5, 0xb6, 0xdf, 0xe0, 0x149, 0x14a, 0x17f, 0x180, 0x345, 0x346, 0x3c2, 0x3c3, 0x3d0, 0x3d2, 0x3d5, 0x3d7,
      0x3f0, 0x3f2, 0x3f5, 0x3f6, 0x587, 0x588, 0x13f8, 0x13fe, 0x1c80, 0x1c89, 0x1e9a, 0x1e9c, 0x1f80, 0x1f88,
      0x1f90, 0x1f98, 0x1fa0, 0x1fa8, 0x1fb2, 0x1fb5, 0x1fb7, 0x1fb8, 0x1fc2, 0x1fc5, 0x1fc7, 0x1fc8, 0x1ff2,
      0x1ff5, 0x1ff7, 0x1ff8, 0xab70, 0xabc0, 0xfb00, 0xfb07, 0xfb13, 0xfb18])

def asciiHexDigit : CharSet := unions [.range 48 57, .range 65 70, .range 97 102]

def emojiModifier : CharSet := .range 0x1f3fb 0x1f3ff

def regionalIndicator : CharSet := .range 0x1f1e6 0x1f1ff

def ideographic : CharSet := .boundaries Text.ideographicBoundaries

def sentenceTerminal : CharSet := .boundaries Text.sentenceEndBoundaries

def defaultIgnorable : CharSet := .boundaries Text.ignorableBoundaries

def prepended : CharSet := .boundaries Text.prependedBoundaries

def variationSelector : CharSet := .boundaries Text.variationBoundaries

def otherExtend : CharSet := .boundaries Text.otherExtendBoundaries

/-- The characters that go on with the character before them. -/
def graphemeExtend : CharSet := unions [nonspacingMark, enclosingMark, otherExtend]

/-- The characters that stand for themselves. -/
def graphemeBase : CharSet :=
  (unions [control, formatControl, privateUse, unassigned, lineSeparator, paragraphSeparator,
    graphemeExtend]).complement

def patternSyntax : CharSet := .boundaries Text.patternBoundaries

def patternBlank : CharSet := .boundaries [9, 14, 32, 33, 0x85, 0x86, 0x200e, 0x2010, 0x2028, 0x202a]

def otherIdentStart : CharSet := .boundaries [0x1885, 0x1887, 0x2118, 0x2119, 0x212e, 0x212f, 0x309b, 0x309d]

def otherIdentContinue : CharSet :=
  .boundaries [0xb7, 0xb8, 0x387, 0x388, 0x1369, 0x1372, 0x19da, 0x19db, 0x200c, 0x200e, 0x30fb, 0x30fc, 0xff65,
    0xff66]

def identStart : CharSet :=
  .except (unions [letter, letterNumber, otherIdentStart]) (.union patternSyntax patternBlank)

def identContinue : CharSet :=
  .union identStart
    (.except (unions [nonspacingMark, spacingMark, decimal, connector, otherIdentContinue])
      (.union patternSyntax patternBlank))

def compatibleMathStart : CharSet := .boundaries Text.compatibleMathBoundaries

/-- The code points that are no characters: a block of them and the last two of every plane. -/
def noncharacter : CharSet :=
  .union (.range 0xfdd0 0xfdef)
    (.union (.stepped 0xfffe 0x10fffe 0x10000) (.stepped 0xffff 0x10ffff 0x10000))

/-- The properties with the names they go by. -/
def properties : List (List String × CharSet) := [
  (["asciihexdigit", "ahex"], asciiHexDigit),
  (["alphabetic", "alpha"], alphabetic),
  (["bidicontrol", "bidic"],
    unions [.range 0x61c 0x61c, .range 0x200e 0x200f, .range 0x202a 0x202e, .range 0x2066 0x2069]),
  (["bidimirrored", "bidim"], .boundaries Text.reflectedBoundaries),
  (["caseignorable", "ci"], known Text.caseIgnorableBoundaries),
  (["cased"], unions [lowercase, uppercase, titlecaseLetter]),
  (["changeswhencasefolded", "cwcf"], changedByFolding),
  (["changeswhencasemapped", "cwcm"], unions [changedByLower, changedByUpper, changedByTitle]),
  (["changeswhenlowercased", "cwl"], changedByLower),
  (["changeswhentitlecased", "cwt"], changedByTitle),
  (["changeswhenuppercased", "cwu"], changedByUpper),
  (["dash"], .boundaries Text.hyphenatingBoundaries),
  (["defaultignorablecodepoint", "di"], defaultIgnorable),
  (["deprecated", "dep"], .boundaries Text.deprecatedBoundaries),
  (["diacritic", "dia"], .boundaries Text.diacriticBoundaries),
  (["emoji"], .boundaries Text.emojiBoundaries),
  (["emojicomponent", "ecomp"], .boundaries Text.emojiComponentBoundaries),
  (["emojimodifier", "emod"], emojiModifier),
  (["emojimodifierbase", "ebase"], .boundaries Text.emojiBaseBoundaries),
  (["emojipresentation", "epres"], .boundaries Text.emojiPresentationBoundaries),
  (["extendedpictographic", "extpict"], .boundaries Text.pictographicBoundaries),
  (["extender", "ext"], .boundaries Text.extenderBoundaries),
  (["graphemebase", "grbase"], graphemeBase),
  (["graphemeextend", "grext"], graphemeExtend),
  (["graphemelink", "grlink"], .boundaries Text.linkBoundaries),
  (["hexdigit", "hex"],
    unions [asciiHexDigit, .range 0xff10 0xff19, .range 0xff21 0xff26, .range 0xff41 0xff46]),
  (["hyphen"], .boundaries Text.hyphenBoundaries),
  (["idsbinaryoperator", "idsb"], .boundaries [0x2ff0, 0x2ff2, 0x2ff4, 0x2ffe, 0x31ef, 0x31f0]),
  (["idstrinaryoperator", "idst"], .range 0x2ff2 0x2ff3),
  (["idsunaryoperator", "idsu"], .range 0x2ffe 0x2fff),
  (["idcompatmathcontinue"],
    .union compatibleMathStart
      (.boundaries [0xb2, 0xb4, 0xb9, 0xba, 0x2070, 0x2071, 0x2074, 0x207f, 0x2080, 0x208f])),
  (["idcompatmathstart"], compatibleMathStart),
  (["idcontinue", "idc"], identContinue),
  (["idstart", "ids"], identStart),
  (["ideographic", "ideo"], ideographic),
  (["joincontrol", "joinc"], joiner),
  (["logicalorderexception", "loe"], .boundaries Text.visualOrderBoundaries),
  (["lowercase", "lower"], lowercase),
  (["math"], .union mathSymbol (.boundaries Text.otherMathBoundaries)),
  (["modifiercombiningmark", "mcm"], .boundaries Text.combiningModifierBoundaries),
  (["noncharactercodepoint", "nchar"], noncharacter),
  (["otheralphabetic", "oalpha"], .except alphabetic (.union letter letterNumber)),
  (["otherdefaultignorablecodepoint", "odi"], .except defaultIgnorable (.union formatControl variationSelector)),
  (["othergraphemeextend", "ogrext"], otherExtend),
  (["otheridcontinue", "oidc"], otherIdentContinue),
  (["otheridstart", "oids"], otherIdentStart),
  (["otherlowercase", "olower"], known Text.otherLowerBoundaries),
  (["othermath", "omath"], .boundaries Text.otherMathBoundaries),
  (["otheruppercase", "oupper"], known Text.otherUpperBoundaries),
  (["patternsyntax", "patsyn"], patternSyntax),
  (["patternwhitespace", "patws"], patternBlank),
  (["prependedconcatenationmark", "pcm"], prepended),
  (["quotationmark", "qmark"], .boundaries Text.quotationBoundaries),
  (["radical"], .boundaries Text.radicalBoundaries),
  (["regionalindicator", "ri"], regionalIndicator),
  (["sentenceterminal", "sterm"], sentenceTerminal),
  (["softdotted", "sd"], .boundaries Text.softDottedBoundaries),
  (["terminalpunctuation", "term"], .boundaries Text.terminalBoundaries),
  (["unifiedideograph", "uideo"], .boundaries Text.unifiedBoundaries),
  (["uppercase", "upper"], uppercase),
  (["variationselector", "vs"], variationSelector),
  (["whitespace", "wspace", "space"], blank),
  (["xidcontinue", "xidc"], known Text.xidContinueBoundaries),
  (["xidstart", "xids"], known Text.xidStartBoundaries)]

/-- The set of the characters that have a property. -/
def property? (name : String) : Option CharSet :=
  (properties.find? fun (names, _) => names.contains name).map (·.2)

/-- The set of the characters of a script. -/
def script? (name : String) : Option CharSet :=
  (Text.script? name).map fun (_, cuts) => .boundaries cuts

/-- The set of the characters used with a script. What is shared by some scripts is neither common to all of them
nor inherited from a neighbour. -/
def scriptUse? (name : String) : Option CharSet :=
  (Text.script? name).map fun (names, cuts) =>
    if names.contains "common" || names.contains "inherited" then
      .except (.boundaries cuts) (unions (Text.sharedCharacters.map fun (_, cuts) => .boundaries cuts))
    else .union (.boundaries cuts) (.boundaries ((Text.sharedCharacters.lookup (names.headD "")).getD []))

/-- The set of the characters that a version of the standard knows. -/
def age? (name : String) : Option CharSet :=
  (Text.ages.findIdx? fun (names, _) => names.contains name).map fun index =>
    unions ((Text.ages.take (index + 1)).map fun (_, cuts) => .boundaries cuts)

end Terrasmith.CharSet
