import Terrasmith.Module.Snapshot
import Terrasmith.Value.Shape

/-!
The values of blocks. Attributes are not evaluated: each is the text of its source. Nested blocks are lists of
objects with the same fields, and every block tells where it comes from in `mptf`.
-/
namespace Terrasmith

open Source

def attributeEntries (attributes : Attributes) : List (String × Value) :=
  attributes.map fun (name, e) => (name, .string e.source)

mutual

def NestedBlock.value : NestedBlock → Value
  | .mk _ _ _ _ _ attributes nested _ =>
    .object (insertEntries (attributeEntries attributes) (nestedEntries nested))

def nestedValues : List NestedBlock → List Value
  | [] => []
  | b :: rest => b.value :: nestedValues rest

/-- Siblings of each type as one list. -/
def nestedEntries : List (String × List NestedBlock) → List (String × Value)
  | [] => []
  | (type, siblings) :: rest => (type, Shape.listOfObjects (nestedValues siblings)) :: nestedEntries rest

end

def Range.value (r : Range) : Value :=
  .object [("file_name", .string r.fileName), ("start_line", .ofNat r.startLine),
    ("start_column", .ofNat r.startColumn), ("end_line", .ofNat r.endLine), ("end_column", .ofNat r.endColumn)]

def Origin.value (o : Origin) : Value :=
  .object [("key", .string o.key), ("source", .string o.source), ("version", .string o.version),
    ("dir", .string o.dir), ("abs_dir", .string o.absDir)]

namespace Snapshot

/-- What a block tells about itself. -/
def metadata (s : Snapshot) : Value :=
  .object [("block_address", .string s.address), ("terraform_address", .string s.terraformAddress),
    ("block_type", .string s.kind.name), ("block_labels", .array (s.labels.map .string)),
    ("range", s.range.value), ("module", s.origin.value)]

def value (s : Snapshot) : Value :=
  let entries := match s.localValue? with
    | some e => [("value", Value.string e.source)]
    | none => insertEntries (attributeEntries s.attributes) (nestedEntries s.nested)
  .object (insertEntry "mptf" s.metadata entries)

end Snapshot

end Terrasmith
