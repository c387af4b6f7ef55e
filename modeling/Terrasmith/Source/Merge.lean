import Terrasmith.Source.Edit

/-!
Merging a patch into a body. Attributes are overwritten, and nested blocks merge into the first block of their
type and labels or are appended. A dynamic block counts as a block of the type that it stands for, and what is
merged into it goes into its content.
-/
namespace Terrasmith.Source

/-- Whether a block of a patch is merged into an existing one. -/
def Block.accepts (existing patch : Block) : Bool :=
  if existing.isDynamic && !patch.isDynamic then
    patch.labels.isEmpty && existing.logicalType = patch.ident
  else existing.ident = patch.ident && existing.labelTexts = patch.labelTexts

/-- The place of the block that a block of a patch is merged into. -/
def Body.acceptingIndex? (b : Body) (patch : Block) : Option Nat :=
  b.structures.findIdx? fun
    | .block existing => existing.accepts patch
    | .attribute _ => false

mutual

def Body.mergeStructure (b : Body) : Structure → Body
  | .attribute a => b.setAttribute a
  | .block ⟨lead, ident, identTrail, labels, ⟨structures, head, tail, oneLine, openEnd⟩, trail, span?⟩ =>
    let block : Block := ⟨lead, ident, identTrail, labels, ⟨structures, head, tail, oneLine, openEnd⟩, trail, span?⟩
    let merged := b.acceptingIndex? block >>= fun index =>
      b.modifyBlockAt? index fun existing =>
        existing.modifyContent? fun content => content.mergeStructures structures
    merged.getD (b.pushBlock block)
termination_by structural x => x

def Body.mergeStructures (b : Body) : List Structure → Body
  | [] => b
  | s :: rest => (b.mergeStructure s).mergeStructures rest
termination_by structural x => x

end

/-- Merges the structures of a patch, one after the other. -/
def Body.merge (b patch : Body) : Body := b.mergeStructures patch.structures

end Terrasmith.Source
