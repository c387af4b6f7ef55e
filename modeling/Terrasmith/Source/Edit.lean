import Terrasmith.Source.Parse

/-!
Edits of written trees. Nested blocks are found by their logical type, and a dynamic block is edited through
its `content` block. What an edit does not name keeps its place and its comments.
-/
namespace Terrasmith.Source

namespace Structure

/-- Whether a structure is the attribute of a key. -/
def isAttribute (key : String) : Structure → Bool
  | .attribute a => a.key = key
  | .block _ => false

/-- Whether a structure is a block of a logical type. -/
def isBlockOf (type : String) : Structure → Bool
  | .attribute _ => false
  | .block b => b.logicalType = type

def lead : Structure → String
  | .attribute a => a.lead
  | .block b => b.lead

def withLead (s : Structure) (lead : String) : Structure :=
  match s with
  | .attribute a => .attribute { a with lead }
  | .block b => .block { b with lead }

/-- Drops blanks in front, which are the indentation of another place. Comments stay. -/
def unindent (s : Structure) : Structure :=
  if Text.allBlank s.lead then s.withLead "" else s

end Structure

/-- An attribute with another value. -/
def Attribute.withValue (a : Attribute) (e : Expression) : Attribute :=
  { a with valueLead := e.lead, value := e.value }

def Attribute.expression (a : Attribute) : Expression := ⟨a.valueLead, a.value⟩

namespace Body

def attributeIndex? (b : Body) (key : String) : Option Nat :=
  b.structures.findIdx? (Structure.isAttribute key)

/-- The places of the blocks of a logical type. -/
def blockIndices (b : Body) (type : String) : List Nat :=
  (b.structures.zipIdx.filter fun (s, _) => s.isBlockOf type).map (·.2)

/-- Changes the block at a place, if there is one. -/
def modifyBlockAt? (b : Body) (index : Nat) (f : Block → Option Block) : Option Body := do
  let block ← b.structures[index]?.bind Structure.block?
  let block ← f block
  some { b with structures := b.structures.set index (.block block) }

/-- Changes the attribute at a place, if there is one. -/
def modifyAttributeAt? (b : Body) (index : Nat) (f : Attribute → Attribute) : Option Body := do
  let a ← b.structures[index]?.bind Structure.attribute?
  some { b with structures := b.structures.set index (.attribute (f a)) }

/-- Appends a structure; an attribute whose key is taken is not added. -/
def push (b : Body) (s : Structure) : Body :=
  match s with
  | .attribute a => if b.hasAttribute a.key then b else { b with structures := b.structures ++ [s] }
  | .block _ => { b with structures := b.structures ++ [s] }

/-- Gives an attribute its value: one that is there keeps its place and its comments, a new one goes to the
end. -/
def setAttribute (b : Body) (a : Attribute) : Body :=
  match b.attributeIndex? a.key with
  | some index => (b.modifyAttributeAt? index (·.withValue a.expression)).getD b
  | none => { b with oneLine := false }.push (Structure.attribute a).unindent

/-- Appends a nested block. -/
def pushBlock (b : Body) (block : Block) : Body :=
  { b with oneLine := false }.push (Structure.block block).unindent

/-- Blanks and line ends at the start. -/
def dropMargin (lead : String) : String :=
  String.ofList (lead.toList.dropWhile fun c => c = '\n' || c = '\r' || c = ' ' || c = '\t')

/-- Appends a structure to a file, a blank line apart from what is there. -/
def pushRoot (b : Body) (s : Structure) : Body :=
  let lead := dropMargin s.lead
  b.push (s.withLead (if b.structures.isEmpty then lead else "\n" ++ lead))

end Body

namespace Block

/-- The place of the block that holds the content of a dynamic block. -/
def contentIndex? (b : Block) : Option Nat :=
  b.body.structures.findIdx? fun
    | .block child => child.ident = "content"
    | .attribute _ => false

/-- The body with the logical content of a block. -/
def content? (b : Block) : Option Body :=
  if b.isDynamic then do
    let index ← b.contentIndex?
    let child ← b.body.structures[index]?.bind Structure.block?
    some child.body
  else some b.body

/-- Changes the body with the logical content of a block. -/
def modifyContent? (b : Block) (f : Body → Body) : Option Block :=
  if b.isDynamic then do
    let index ← b.contentIndex?
    let body ← b.body.modifyBlockAt? index fun child => some { child with body := f child.body }
    some { b with body }
  else some { b with body := f b.body }

/-- The text of a block on lines of its own. -/
def text (b : Block) : String := b.render ++ "\n"

end Block

/-- What became of a walk that replaces values. -/
structure Replaced (ε α : Type) where
  result : α
  changed : Bool
  errors : List ε

mutual

/-- Replaces the values of the attributes of a structure, at any depth, by those that `f` gives. Where `f` fails
the attribute stays and the error is collected. -/
def Structure.replaceValues {ε : Type} (f : Attribute → Except ε (Option Expression)) :
    Structure → Replaced ε Structure
  | .attribute a =>
    match f a with
    | .ok (some e) => ⟨.attribute (a.withValue e), true, []⟩
    | .ok none => ⟨.attribute a, false, []⟩
    | .error e => ⟨.attribute a, false, [e]⟩
  | .block ⟨lead, ident, identTrail, labels, ⟨structures, head, tail, oneLine, openEnd⟩, trail, span?⟩ =>
    let inner := replaceAllValues f structures
    ⟨.block ⟨lead, ident, identTrail, labels, ⟨inner.result, head, tail, oneLine, openEnd⟩, trail, span?⟩,
      inner.changed, inner.errors⟩

def replaceAllValues {ε : Type} (f : Attribute → Except ε (Option Expression)) :
    List Structure → Replaced ε (List Structure)
  | [] => ⟨[], false, []⟩
  | s :: rest =>
    let first := s.replaceValues f
    let others := replaceAllValues f rest
    ⟨first.result :: others.result, first.changed || others.changed, first.errors ++ others.errors⟩

end

/-- Replaces the values of the attributes of a body, at any depth. -/
def Body.replaceValues {ε : Type} (b : Body) (f : Attribute → Except ε (Option Expression)) : Replaced ε Body :=
  let inner := replaceAllValues f b.structures
  ⟨{ b with structures := inner.result }, inner.changed, inner.errors⟩

end Terrasmith.Source
