import Terrasmith.Source.Meaning

/-!
The written tree of a file: attributes and blocks with the blanks and comments around them, so that an
unchanged tree prints as it was read and an edit touches nothing but itself.
-/
namespace Terrasmith.Source

/-- Byte offsets in the text a structure was read from: of its first byte and of the first byte after it. -/
structure Span where
  start : Nat
  stop : Nat
  deriving Repr, DecidableEq, Inhabited

/-- `key = value` with what stands before and after it. The blanks before the value go with the value. -/
structure Attribute where
  lead : String := ""
  key : String
  keyTrail : String := " "
  valueLead : String := " "
  value : Written
  trail : String := ""
  span? : Option Span := none
  deriving Inhabited

/-- A label of a block with the blanks after it. -/
structure Label where
  text : String
  quoted : Bool := true
  trail : String := " "
  deriving Repr, DecidableEq, Inhabited

mutual

/-- The inside of a file or of a block. -/
structure Body where
  structures : List Structure := []
  /-- Comment behind the brace that opens the body. -/
  head : String := ""
  /-- What follows the last structure. -/
  tail : String := ""
  /-- Whether the body stays on one line while it holds at most one attribute. -/
  oneLine : Bool := false
  /-- Whether the last structure of a file goes without a newline. -/
  openEnd : Bool := false

structure Block where
  lead : String := ""
  ident : String
  identTrail : String := " "
  labels : List Label := []
  body : Body
  trail : String := ""
  span? : Option Span := none

inductive Structure where
  | attribute (a : Attribute)
  | block (b : Block)

end

instance : Inhabited Body := ⟨{}⟩
instance : Inhabited Block := ⟨{ ident := "", body := {} }⟩
instance : Inhabited Structure := ⟨.block default⟩

def Label.render (l : Label) : String :=
  (if l.quoted then escapes.literal l.text else l.text) ++ l.trail

/-- An attribute without what stands around it. -/
def Attribute.core (a : Attribute) : String :=
  a.key ++ a.keyTrail ++ "=" ++ a.valueLead ++ a.value.text

def Attribute.render (a : Attribute) : String :=
  a.lead ++ a.core ++ a.trail

/-- Whether structures fit on one line: none or a single attribute. -/
def fitsOneLine : List Structure → Bool
  | [] => true
  | [.attribute _] => true
  | _ => false

mutual

def Structure.render : Structure → String
  | .attribute a => a.render
  | .block ⟨lead, ident, identTrail, labels, body, trail, _⟩ =>
    lead ++ ident ++ identTrail ++ String.join (labels.map Label.render) ++ "\x7b" ++ body.renderInside
      ++ "\x7d" ++ trail

/-- A body between the braces of its block. -/
def Body.renderInside : Body → String
  | ⟨structures, head, tail, oneLine, _⟩ =>
    if oneLine && fitsOneLine structures then renderInline structures ++ tail
    else head ++ "\n" ++ renderLines structures ++ tail

/-- Structures one to a line. -/
def renderLines : List Structure → String
  | [] => ""
  | s :: rest => s.render ++ "\n" ++ renderLines rest

/-- Structures without line ends. -/
def renderInline : List Structure → String
  | [] => ""
  | s :: rest => s.render ++ renderInline rest

end

/-- Structures one to a line, the last one without its newline. -/
def renderOpenEnd : List Structure → String
  | [] => ""
  | [s] => s.render
  | s :: rest => s.render ++ "\n" ++ renderOpenEnd rest

def Block.render (b : Block) : String := (Structure.block b).render

/-- The text of a file. -/
def Body.render (b : Body) : String :=
  (if b.openEnd then renderOpenEnd b.structures else renderLines b.structures) ++ b.tail

/-- The source of an attribute's value. -/
def Attribute.source (a : Attribute) : String :=
  Text.trim (a.valueLead ++ a.value.text)

def Structure.block? : Structure → Option Block
  | .block b => some b
  | .attribute _ => none

def Structure.attribute? : Structure → Option Attribute
  | .attribute a => some a
  | .block _ => none

namespace Body

def blocks (b : Body) : List Block := b.structures.filterMap Structure.block?

def attributes (b : Body) : List Attribute := b.structures.filterMap Structure.attribute?

/-- The attribute of a key. -/
def attribute? (b : Body) (key : String) : Option Attribute :=
  b.attributes.find? fun a => a.key = key

def hasAttribute (b : Body) (key : String) : Bool :=
  (b.attribute? key).isSome

end Body

namespace Block

def labelTexts (b : Block) : List String := b.labels.map Label.text

/-- Whether the block is `dynamic "type"`, which stands for blocks of that type. -/
def isDynamic (b : Block) : Bool :=
  b.ident = "dynamic" && b.labels.length = 1

/-- The type of the block, for dynamic blocks that of the blocks they stand for. -/
def logicalType (b : Block) : String :=
  match b.ident, b.labels with
  | "dynamic", [label] => label.text
  | ident, _ => ident

end Block

end Terrasmith.Source
