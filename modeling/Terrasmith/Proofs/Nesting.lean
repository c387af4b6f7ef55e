import Terrasmith.Module.Value
import Terrasmith.Proofs.MergeLaw
import Terrasmith.Proofs.Shapes

/-!
The nesting of blocks. The blocks in a body are told apart by their logical types only; those of one type are siblings.
The value of a body is put together from its attributes and, for each type, from the values of the siblings.
-/
namespace Terrasmith

open Source

namespace Source

/-- The body with the logical content of a block, empty for a dynamic block without content. -/
def Block.content (b : Block) : Body :=
  b.content?.getD {}

namespace Body

/-- The logical types of the blocks in a body, each where it first appears. -/
def types (b : Body) : List String :=
  (b.blocks.map Block.logicalType).eraseDups

/-- The contents of the blocks of a logical type, in their order. -/
def siblings (b : Body) (type : String) : List Body :=
  (b.blocks.filter fun c => c.logicalType = type).map Block.content

/-- What blocks of a type there are in some bodies, taken together. -/
def allSiblings (bodies : List Body) (type : String) : List Body :=
  bodies.flatMap fun b => b.siblings type

/-- The bodies that a path of block types leads to. -/
def descend : List String → List Body → List Body
  | [], bodies => bodies
  | type :: path, bodies => descend path (allSiblings bodies type)

/-- At no place is a name used both for attributes and for blocks. -/
def Unmixed (bodies : List Body) : Prop :=
  ∀ path, ∀ c ∈ descend path bodies, ∀ d ∈ descend path bodies, ∀ a ∈ c.attributes, a.key ∉ d.types

variable {b c : Body} {bodies : List Body} {type : String}

theorem mem_types : type ∈ b.types ↔ ∃ q ∈ b.blocks, q.logicalType = type := by
  rw [types, List.mem_eraseDups, List.mem_map]

theorem nodup_types (b : Body) : b.types.Nodup :=
  nodup_eraseDups _

theorem mem_siblings : c ∈ b.siblings type ↔ ∃ q ∈ b.blocks, q.logicalType = type ∧ q.content = c := by
  simp only [siblings, List.mem_map, List.mem_filter, decide_eq_true_eq, and_assoc]

theorem siblings_of_notMem (h : type ∉ b.types) : b.siblings type = [] := by
  rw [siblings, List.map_eq_nil_iff, List.filter_eq_nil_iff]
  exact fun q hq heq => h (mem_types.mpr ⟨q, hq, of_decide_eq_true heq⟩)

theorem sizeOf_body (q : Block) : sizeOf q.body.structures < sizeOf (Structure.block q) := by
  obtain ⟨_, _, _, _, ⟨structures, _, _, _, _⟩, _, _⟩ := q
  simp
  omega

/-- The contents of a block are smaller than a body that it stands in. -/
theorem sizeOf_siblings (h : c ∈ b.siblings type) : sizeOf c.structures < sizeOf b.structures := by
  obtain ⟨q, hq, -, rfl⟩ := mem_siblings.mp h
  have hblock := List.sizeOf_lt_of_mem (mem_blocks.mp hq)
  have hbody := sizeOf_body q
  rw [Block.content]
  cases hcontent : q.content? with
  | none =>
    have hempty : sizeOf ([] : List Structure) = 1 := by simp
    simp only [Option.getD_none, hempty]
    omega
  | some c =>
    rw [Option.getD_some]
    obtain ⟨-, rfl⟩ | ⟨-, i, child, -, hchild, rfl⟩ := Block.content?_cases hcontent
    · omega
    · have hmem := List.sizeOf_lt_of_mem (List.mem_of_getElem? hchild)
      have hchild := sizeOf_body child
      omega

/-- What holds of a body if it holds of the contents of its blocks holds of all bodies. -/
theorem induction {p : Body → Prop} (h : ∀ b : Body, (∀ type, ∀ c ∈ b.siblings type, p c) → p b) (b : Body) : p b :=
  h b fun _ c _ => induction h c
termination_by sizeOf b.structures
decreasing_by exact sizeOf_siblings ‹_›

theorem keysApart_siblings (h : b.KeysApart) (hc : c ∈ b.siblings type) : c.KeysApart := by
  obtain ⟨q, hq, -, rfl⟩ := mem_siblings.mp hc
  rw [Block.content]
  cases hcontent : q.content? with
  | none => exact keysApart_iff.mpr (by simp [attributes])
  | some c => exact keysApart_content ((keysApart_iff.mp h).2 _ (mem_blocks.mp hq)) hcontent

theorem allSiblings_of_notMem (h : type ∉ bodies.flatMap types) : allSiblings bodies type = [] := by
  rw [allSiblings, List.flatMap_eq_nil_iff]
  exact fun b hb => siblings_of_notMem fun htype => h (List.mem_flatMap.mpr ⟨b, hb, htype⟩)

theorem descend_nil (path : List String) : descend path [] = [] := by
  induction path with
  | nil => rfl
  | cons type path ih => exact ih

/-- Names are apart at every place exactly if they are at the first and below each type. -/
theorem unmixed_iff : Unmixed bodies ↔
    (∀ c ∈ bodies, ∀ d ∈ bodies, ∀ a ∈ c.attributes, a.key ∉ d.types) ∧
      ∀ type ∈ bodies.flatMap types, Unmixed (allSiblings bodies type) := by
  constructor
  · exact fun h => ⟨h [], fun type _ path => h (type :: path)⟩
  · rintro ⟨hhere, hbelow⟩ (_ | ⟨type, path⟩)
    · exact hhere
    · by_cases htype : type ∈ bodies.flatMap types
      · exact hbelow type htype path
      · rw [descend, allSiblings_of_notMem htype, descend_nil]
        simp

/-- A test for bodies that are nested no deeper than a bound. -/
def unmixedWithin : (depth : Nat) → List Body → Bool
  | 0, bodies => bodies.isEmpty
  | depth + 1, bodies =>
    (bodies.all fun c => bodies.all fun d => c.attributes.all fun a => !d.types.contains a.key) &&
      (bodies.flatMap types).all fun type => unmixedWithin depth (allSiblings bodies type)

theorem unmixed_of_within {depth : Nat} (h : unmixedWithin depth bodies = true) : Unmixed bodies := by
  induction depth generalizing bodies with
  | zero =>
    obtain rfl := List.isEmpty_iff.mp h
    intro path
    simp [descend_nil]
  | succ depth ih =>
    rw [unmixedWithin, Bool.and_eq_true] at h
    refine unmixed_iff.mpr ⟨?_, fun type htype => ih (List.all_eq_true.mp h.2 type htype)⟩
    simpa using h.1

end Body

end Source

/-! ### Blocks by type -/

namespace NestedBlock

theorem insert_eq_insertEntry (b : NestedBlock) (done : List (String × List NestedBlock)) :
    b.insert done = insertEntry b.type ((done.lookup b.type).getD [] ++ [b]) done := by
  induction done with
  | nil => simp [insert]
  | cons e rest ih =>
    obtain ⟨type, siblings⟩ := e
    by_cases h : type = b.type
    · simp [insert, insertEntry, h]
    · have hne : (b.type == type) = false := beq_eq_false_iff_ne.mpr (Ne.symm h)
      rw [insert, if_neg h, ih, insertEntry, if_neg h, List.lookup_cons, hne]

/-- The blocks by type are the types, each with its blocks. -/
theorem byType_eq_map (blocks : List NestedBlock) :
    byType blocks = (blocks.map type).eraseDups.map fun t => (t, blocks.filter fun b => b.type = t) := by
  unfold byType
  simp only [insert_eq_insertEntry]
  refine foldl_insertEntry_eq_map type id (fun siblings? b => siblings?.getD [] ++ [b]) blocks fun before b _ => ?_
  dsimp only [id]
  split
  · rfl
  · rename_i hnew
    have hnone : before.filter (fun d => d.type = b.type) = [] :=
      List.filter_eq_nil_iff.mpr fun d hd => by
        have hne : d.type ≠ b.type := fun heq => hnew (heq ▸ List.mem_map_of_mem hd)
        simpa using hne
    rw [hnone]
    rfl

end NestedBlock

/-! ### Values of bodies -/

/-- The entries of the value of a body: its attributes, then its blocks by type. -/
def bodyEntries (lines? : Option Text.LineIndex) (b : Body) : List (String × Value) :=
  insertEntries (attributeEntries (attributesOf b)) (nestedEntries (NestedBlock.ofBody lines? b))

def bodyValue (lines? : Option Text.LineIndex) (b : Body) : Value :=
  .object (bodyEntries lines? b)

variable {lines? : Option Text.LineIndex}

theorem nestedValues_eq_map (blocks : List NestedBlock) : nestedValues blocks = blocks.map NestedBlock.value := by
  induction blocks with
  | nil => rfl
  | cons b rest ih => rw [nestedValues, ih, List.map_cons]

theorem nestedEntries_eq_map (nested : List (String × List NestedBlock)) :
    nestedEntries nested = nested.map fun e => (e.1, Shape.listOfObjects (e.2.map NestedBlock.value)) := by
  induction nested with
  | nil => rfl
  | cons e rest ih => rw [nestedEntries, ih, nestedValues_eq_map, List.map_cons]

/-- Whether a structure is the block that holds the content of a dynamic block. -/
def isContent : Structure → Bool
  | .block child => child.ident = "content"
  | .attribute _ => false

/-- The content of a dynamic block is that of its first block named `content`. -/
theorem content?_of_dynamic {q : Block} (h : q.isDynamic = true) :
    q.content? = ((q.body.structures.find? isContent).bind Structure.block?).map Block.body := by
  have hindex : q.contentIndex? = q.body.structures.findIdx? isContent := rfl
  rw [List.find?_eq_bind_findIdx?_getElem?, Block.content?, if_pos h, hindex]
  cases q.body.structures.findIdx? isContent with
  | none => rfl
  | some i =>
    simp only [Option.bind_eq_bind, Option.bind_some]
    cases q.body.structures[i]?.bind Structure.block? <;> rfl

theorem contentOf_eq (lines? : Option Text.LineIndex) (structures : List Structure) :
    NestedBlock.contentOf lines? structures =
      match (structures.find? isContent).bind Structure.block? with
      | some child => (attributesOf child.body, NestedBlock.ofStructures lines? child.body.structures)
      | none => ([], []) := by
  induction structures with
  | nil => rfl
  | cons s rest ih =>
    rcases s with a | child
    · exact ih
    · obtain ⟨lead, ident, identTrail, labels, ⟨inner, head, tail, oneLine, openEnd⟩, trail, span?⟩ := child
      rw [NestedBlock.contentOf, NestedBlock.contentOfStructure?]
      by_cases hident : ident = "content"
      · simp only [hident, if_true, List.find?_cons, isContent, decide_true, Option.bind_some, Structure.block?]
        rfl
      · simp only [hident, if_false, List.find?_cons, isContent, decide_false, ih]

/-- The view of a block shows its logical type and the value of its content. -/
theorem exists_ofStructure? (lines? : Option Text.LineIndex) (q : Block) :
    ∃ b, NestedBlock.ofStructure? lines? (.block q) = some b ∧ b.type = q.logicalType ∧
      b.value = bodyValue lines? q.content := by
  cases hdynamic : q.isDynamic with
  | true =>
    have hcontent : NestedBlock.contentOf lines? q.body.structures =
        (attributesOf q.content, NestedBlock.ofStructures lines? q.content.structures) := by
      rw [contentOf_eq, Block.content, content?_of_dynamic hdynamic]
      cases (q.body.structures.find? isContent).bind Structure.block? <;> rfl
    obtain ⟨lead, ident, identTrail, labels, ⟨structures, head, tail, oneLine, openEnd⟩, trail, span?⟩ := q
    obtain ⟨rfl, label, rfl⟩ : ident = "dynamic" ∧ ∃ label, labels = [label] := by
      simpa [Block.isDynamic, List.length_eq_one_iff] using hdynamic
    dsimp only at hcontent
    rw [NestedBlock.ofStructure?, hcontent]
    exact ⟨_, rfl, rfl, rfl⟩
  | false =>
    have hcontent : q.content = q.body := by simp [Block.content, Block.content?, hdynamic]
    rw [hcontent, Block.logicalType_of_static hdynamic]
    obtain ⟨lead, ident, identTrail, labels, ⟨structures, head, tail, oneLine, openEnd⟩, trail, span?⟩ := q
    rw [NestedBlock.ofStructure?]
    · exact ⟨_, rfl, rfl, rfl⟩
    · rintro label rfl rfl
      cases hdynamic

theorem ofStructures_shows (lines? : Option Text.LineIndex) (structures : List Structure) :
    (NestedBlock.ofStructures lines? structures).map (fun b => (b.type, b.value)) =
      (structures.filterMap Structure.block?).map fun q => (q.logicalType, bodyValue lines? q.content) := by
  induction structures with
  | nil => rfl
  | cons s rest ih =>
    rcases s with a | q
    · rw [NestedBlock.ofStructures, NestedBlock.ofStructure?]
      exact ih
    · obtain ⟨b, hb, htype, hvalue⟩ := exists_ofStructure? lines? q
      rw [NestedBlock.ofStructures, hb]
      simpa [htype, hvalue, Structure.block?] using ih

/-- The blocks in a body become one list for each type, of the values of the siblings made alike. -/
theorem nestedEntries_ofBody (lines? : Option Text.LineIndex) (b : Body) :
    nestedEntries (NestedBlock.ofBody lines? b) =
      b.types.map fun t => (t, Shape.listOfObjects ((b.siblings t).map (bodyValue lines?))) := by
  have hshows := ofStructures_shows lines? b.structures
  have htypes : (NestedBlock.ofStructures lines? b.structures).map NestedBlock.type = b.blocks.map Block.logicalType := by
    have hfirst := congrArg (List.map Prod.fst) hshows
    rwa [List.map_map, List.map_map] at hfirst
  rw [nestedEntries_eq_map, NestedBlock.ofBody, NestedBlock.byType_eq_map, htypes, List.map_map]
  refine List.map_congr_left fun t _ => ?_
  have hvalues := congrArg (fun shown => (shown.filter fun e => e.1 = t).map Prod.snd) hshows
  simp only [List.filter_map, List.map_map] at hvalues
  rw [Body.siblings, List.map_map]
  exact congrArg (fun values => (t, Shape.listOfObjects values)) hvalues

end Terrasmith
