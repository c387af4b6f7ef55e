import Terrasmith.Module.Kind
import Terrasmith.Source.Edit
import Terrasmith.Text.LineIndex

/-!
Snapshots of the blocks of a module: what queries and transforms see of a block, taken from the written tree.
-/
namespace Terrasmith

open Source

/-- Where a module comes from. The root module has the empty key. -/
structure Origin where
  key : String := ""
  source : String := ""
  version : String := ""
  dir : String
  absDir : String
  deriving Repr, DecidableEq, Inhabited

def Origin.isRoot (o : Origin) : Bool := o.key.isEmpty

/-- Lines and columns of a block, zero if it was not read from the file. -/
structure Range where
  fileName : String
  startLine : Nat := 0
  startColumn : Nat := 0
  endLine : Nat := 0
  endColumn : Nat := 0
  deriving Repr, DecidableEq, Inhabited

/-- The lines and columns from the first to the last byte of a span. -/
def Range.ofSpan (fileName : String) (lines : Text.LineIndex) : Option Span → Range
  | none => { fileName }
  | some span =>
    let (startLine, startColumn) := lines.position span.start
    let (endLine, endColumn) := lines.position (max (span.stop - 1) span.start)
    { fileName, startLine, startColumn, endLine, endColumn }

/-- Attributes by name, in order. -/
abbrev Attributes := List (String × Expression)

/-- The source of an expression. -/
def Source.Expression.source (e : Expression) : String :=
  Text.trim (e.lead ++ e.value.text)

def attributesOf (b : Body) : Attributes :=
  b.attributes.map fun a => (a.key, a.expression)

/-- A block in a block. A dynamic block shows its content. -/
inductive NestedBlock where
  | mk (type : String) (labels : List String) (dynamic : Bool) (forEach? iterator? : Option Expression)
      (attributes : Attributes) (nested : List (String × List NestedBlock)) (line? : Option Nat)

namespace NestedBlock

def type : NestedBlock → String
  | .mk type .. => type

def line? : NestedBlock → Option Nat
  | .mk _ _ _ _ _ _ _ line? => line?

/-- Adds a block to the others of its type. -/
def insert (b : NestedBlock) : List (String × List NestedBlock) → List (String × List NestedBlock)
  | [] => [(b.type, [b])]
  | (type, siblings) :: rest =>
    if type = b.type then (type, siblings ++ [b]) :: rest else (type, siblings) :: b.insert rest

/-- Blocks by type, in the order in which the types first occur. -/
def byType (blocks : List NestedBlock) : List (String × List NestedBlock) :=
  blocks.foldl (fun done b => b.insert done) []

mutual

/-- The view of a nested block; with `lines?` it tells where the block starts. -/
def ofStructure? (lines? : Option Text.LineIndex) : Structure → Option NestedBlock
  | .attribute _ => none
  | .block ⟨_, ident, _, labels, ⟨structures, _, _, _, _⟩, _, span?⟩ =>
    let body : Body := { structures }
    let line? := do
      let lines ← lines?
      let span ← span?
      some (lines.position span.start).1
    match ident, labels with
    | "dynamic", [label] =>
      let (attributes, nested) := contentOf lines? structures
      some (.mk label.text [] true ((body.attribute? "for_each").map Attribute.expression)
        ((body.attribute? "iterator").map Attribute.expression) attributes (byType nested) line?)
    | _, _ =>
      some (.mk ident (labels.map Label.text) false none none (attributesOf body)
        (byType (ofStructures lines? structures)) line?)

def ofStructures (lines? : Option Text.LineIndex) : List Structure → List NestedBlock
  | [] => []
  | s :: rest => (ofStructure? lines? s).toList ++ ofStructures lines? rest

/-- The attributes and blocks in the first `content` block. -/
def contentOf (lines? : Option Text.LineIndex) : List Structure → Attributes × List NestedBlock
  | [] => ([], [])
  | s :: rest =>
    match contentOfStructure? lines? s with
    | some content => content
    | none => contentOf lines? rest

def contentOfStructure? (lines? : Option Text.LineIndex) : Structure → Option (Attributes × List NestedBlock)
  | .attribute _ => none
  | .block ⟨_, ident, _, _, ⟨structures, _, _, _, _⟩, _, _⟩ =>
    if ident = "content" then some (attributesOf { structures }, ofStructures lines? structures) else none

end

/-- The views of the blocks in a body, by type. -/
def ofBody (lines? : Option Text.LineIndex) (b : Body) : List (String × List NestedBlock) :=
  byType (ofStructures lines? b.structures)

end NestedBlock

/-- What is known of a block with an address, or of a local. -/
structure Snapshot where
  kind : BlockKind
  labels : List String
  fileName : String
  origin : Origin
  range : Range
  attributes : Attributes
  nested : List (String × List NestedBlock)
  /-- Whether the block was read from a single line. -/
  singleLine : Bool

namespace Snapshot

def address (s : Snapshot) : String := s.kind.address s.labels

def terraformAddress (s : Snapshot) : String := s.kind.terraformAddress s.labels

/-- The type of a resource or data source. -/
def blockType? (s : Snapshot) : Option String :=
  match s.kind with
  | .resource | .data => s.labels.head?
  | _ => none

def name? (s : Snapshot) : Option String := s.labels.getLast?

def count? (s : Snapshot) : Option Expression :=
  if s.kind = .local then none else s.attributes.lookup "count"

def forEach? (s : Snapshot) : Option Expression :=
  if s.kind = .local then none else s.attributes.lookup "for_each"

/-- The value of a local. -/
def localValue? (s : Snapshot) : Option Expression :=
  match s.kind with
  | .local => s.labels.head?.bind fun name => s.attributes.lookup name
  | _ => none

/-- A block read from a file. -/
def ofBlock (kind : BlockKind) (b : Block) (fileName : String) (origin : Origin) (lines : Text.LineIndex) :
    Snapshot :=
  let range := Range.ofSpan fileName lines b.span?
  { kind, labels := b.labelTexts, fileName, origin, range
    attributes := attributesOf b.body
    nested := NestedBlock.ofBody (some lines) b.body
    singleLine := b.span?.isSome && range.startLine = range.endLine }

/-- A local read from a file. -/
def ofLocal (a : Attribute) (fileName : String) (origin : Origin) (lines : Text.LineIndex) : Snapshot :=
  let range := Range.ofSpan fileName lines a.span?
  { kind := .local, labels := [a.key], fileName, origin, range
    attributes := [(a.key, a.expression)]
    nested := []
    singleLine := range.startLine = range.endLine }

/-- A block that was not read from a file. -/
def ofNewBlock (kind : BlockKind) (b : Block) (fileName : String) (origin : Origin) : Snapshot :=
  { kind, labels := b.labelTexts, fileName, origin, range := { fileName }
    attributes := attributesOf b.body
    nested := NestedBlock.ofBody none b.body
    singleLine := false }

/-- A local that was not read from a file. -/
def ofNewLocal (a : Attribute) (fileName : String) (origin : Origin) : Snapshot :=
  { kind := .local, labels := [a.key], fileName, origin, range := { fileName }
    attributes := [(a.key, a.expression)]
    nested := []
    singleLine := true }

/-- The same block in another file. -/
def movedTo (s : Snapshot) (fileName : String) : Snapshot :=
  { s with fileName, range := { fileName } }

/-- The same block after a change of its tree. -/
def refreshBlock (s : Snapshot) (b : Block) : Snapshot :=
  { s with attributes := attributesOf b.body, nested := NestedBlock.ofBody none b.body }

/-- The same local after a change of its tree. -/
def refreshLocal (s : Snapshot) (a : Attribute) : Snapshot :=
  { s with attributes := s.labels.head?.toList.map fun name => (name, a.expression) }

/-- Whether a structure is the block of a snapshot. -/
def isBlock (s : Snapshot) : Structure → Bool
  | .block b => b.ident = s.kind.name && b.labelTexts = s.labels
  | .attribute _ => false

/-- Whether a structure is a `locals` block that declares the local of a snapshot. -/
def isLocals (s : Snapshot) : Structure → Bool
  | .block b => b.ident = "locals" && s.labels.any b.body.hasAttribute
  | .attribute _ => false

/-- The place of a block, or of the `locals` block of a local, in its file. -/
def index? (s : Snapshot) (b : Body) : Option Nat :=
  b.structures.findIdx? (if s.kind = .local then s.isLocals else s.isBlock)

end Snapshot

end Terrasmith
