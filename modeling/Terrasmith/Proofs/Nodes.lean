import Mathlib.Data.List.Basic
import Terrasmith.Module.Edit
import Terrasmith.Proofs.Merge

/-!
What has an address in the trees of a module, and what a snapshot shows of it. The snapshots taken from a file are
those of its nodes, and what they show does not depend on where the text of a node stands.
-/
namespace Terrasmith

open Source

/-- A block of a kind with its number of labels, or an attribute of a `locals` block. -/
inductive TreeNode where
  | block (kind : BlockKind) (b : Block)
  | declaration (a : Attribute)

namespace TreeNode

def kind : TreeNode → BlockKind
  | .block kind _ => kind
  | .declaration _ => .local

def labels : TreeNode → List String
  | .block _ b => b.labelTexts
  | .declaration a => [a.key]

def address (n : TreeNode) : String := n.kind.address n.labels

/-- The snapshot of a node, taken afresh. -/
def snapshot (n : TreeNode) (fileName : String) (origin : Origin) : Snapshot :=
  match n with
  | .block kind b => .ofNewBlock kind b fileName origin
  | .declaration a => .ofNewLocal a fileName origin

/-- The snapshot of a node that is read from a file. -/
def snapshotRead (n : TreeNode) (fileName : String) (origin : Origin) (lines : Text.LineIndex) : Snapshot :=
  match n with
  | .block kind b => .ofBlock kind b fileName origin lines
  | .declaration a => .ofLocal a fileName origin lines

end TreeNode

namespace Source

def Block.nodes (b : Block) : List TreeNode :=
  if b.ident = "locals" then b.body.attributes.map .declaration
  else match BlockKind.ofIdent? b.ident with
    | none => []
    | some kind => if b.labels.length = kind.labelCount then [.block kind b] else []

def Structure.nodes : Structure → List TreeNode
  | .block b => b.nodes
  | .attribute _ => []

def Body.nodes (b : Body) : List TreeNode := b.structures.flatMap Structure.nodes

end Source

/-- The nodes of all files, each with the name of its file. -/
def Module.nodes (m : Module) : List (String × TreeNode) :=
  m.files.flatMap fun (name, file) => file.body.nodes.map (name, ·)

/-- A nested block by the texts of its expressions and without its line. -/
inductive Shown where
  | mk (type : String) (labels : List String) (dynamic : Bool) (forEach? iterator? : Option String)
      (attributes : List (String × String)) (nested : List (String × List Shown))

def sourcesOf (attributes : Attributes) : List (String × String) :=
  attributes.map fun (name, e) => (name, e.source)

mutual

def NestedBlock.shown : NestedBlock → Shown
  | .mk type labels dynamic forEach? iterator? attributes nested _ =>
    .mk type labels dynamic (forEach?.map Expression.source) (iterator?.map Expression.source)
      (sourcesOf attributes) (shownByType nested)

def shownByType : List (String × List NestedBlock) → List (String × List Shown)
  | [] => []
  | (type, siblings) :: rest => (type, shownAll siblings) :: shownByType rest

def shownAll : List NestedBlock → List Shown
  | [] => []
  | b :: rest => b.shown :: shownAll rest

end

/-- What a snapshot shows of its block. -/
structure View where
  attributes : List (String × String)
  count? : Option String
  forEach? : Option String
  nested : List (String × List Shown)

def Snapshot.view (s : Snapshot) : View :=
  { attributes := sourcesOf s.attributes
    count? := s.count?.map Expression.source
    forEach? := s.forEach?.map Expression.source
    nested := shownByType s.nested }

/-- What is collected from a node. -/
def TreeNode.view (n : TreeNode) : View := (n.snapshot "" default).view

theorem shownAll_eq_map (blocks : List NestedBlock) : shownAll blocks = blocks.map NestedBlock.shown := by
  induction blocks with
  | nil => rfl
  | cons b rest ih => rw [shownAll, ih, List.map_cons]

def Shown.type : Shown → String
  | .mk type .. => type

theorem NestedBlock.type_shown (b : NestedBlock) : b.shown.type = b.type := by
  cases b
  rw [shown, Shown.type, NestedBlock.type]

/-- Adding a block to others of its type, as it is shown. -/
def Shown.insert (b : Shown) : List (String × List Shown) → List (String × List Shown)
  | [] => [(b.type, [b])]
  | (type, siblings) :: rest =>
    if type = b.type then (type, siblings ++ [b]) :: rest else (type, siblings) :: b.insert rest

theorem shownByType_insert (b : NestedBlock) (done : List (String × List NestedBlock)) :
    shownByType (b.insert done) = b.shown.insert (shownByType done) := by
  induction done with
  | nil => simp [NestedBlock.insert, shownByType, shownAll, Shown.insert, NestedBlock.type_shown]
  | cons entry rest ih =>
    obtain ⟨type, siblings⟩ := entry
    rw [NestedBlock.insert, shownByType, Shown.insert, NestedBlock.type_shown]
    split
    · simp [shownByType, shownAll_eq_map]
    · simp [shownByType, ih]

theorem shownByType_byType (blocks : List NestedBlock) :
    shownByType (NestedBlock.byType blocks) = (shownAll blocks).foldl (fun done b => b.insert done) [] := by
  have hfold : ∀ done, shownByType (blocks.foldl (fun done b => b.insert done) done) =
      (shownAll blocks).foldl (fun done b => b.insert done) (shownByType done) := by
    induction blocks with
    | nil => intro done; rfl
    | cons b rest ih =>
      intro done
      rw [List.foldl_cons, ih, shownByType_insert, shownAll, List.foldl_cons]
  exact hfold []

mutual

/-- What nested blocks show does not depend on where lines begin. -/
theorem shown_ofStructure? (lines? : Option Text.LineIndex) : (s : Structure) →
    (NestedBlock.ofStructure? lines? s).map NestedBlock.shown =
      (NestedBlock.ofStructure? none s).map NestedBlock.shown
  | .attribute _ => rfl
  | .block ⟨_, ident, _, labels, ⟨structures, _, _, _, _⟩, _, span?⟩ => by
    have hinner := shown_ofStructures lines? structures
    have hcontent := shown_contentOf lines? structures
    simp only [NestedBlock.ofStructure?]
    split
    · simp only [Option.map_some, NestedBlock.shown, shownByType_byType, hcontent.1, hcontent.2]
    · simp only [Option.map_some, NestedBlock.shown, shownByType_byType, hinner]

theorem shown_ofStructures (lines? : Option Text.LineIndex) : (structures : List Structure) →
    shownAll (NestedBlock.ofStructures lines? structures) = shownAll (NestedBlock.ofStructures none structures)
  | [] => rfl
  | s :: rest => by
    have hfirst := shown_ofStructure? lines? s
    have hrest := shown_ofStructures lines? rest
    simp only [shownAll_eq_map] at hrest ⊢
    simp only [NestedBlock.ofStructures, List.map_append, hrest, ← Option.toList_map, hfirst]

theorem shown_contentOf (lines? : Option Text.LineIndex) : (structures : List Structure) →
    (NestedBlock.contentOf lines? structures).1 = (NestedBlock.contentOf none structures).1 ∧
      shownAll (NestedBlock.contentOf lines? structures).2 = shownAll (NestedBlock.contentOf none structures).2
  | [] => ⟨rfl, rfl⟩
  | .attribute a :: rest => by
    simpa only [NestedBlock.contentOf, NestedBlock.contentOfStructure?] using shown_contentOf lines? rest
  | .block ⟨_, ident, _, _, ⟨structures, _, _, _, _⟩, _, _⟩ :: rest => by
    have hinner := shown_ofStructures lines? structures
    have hrest := shown_contentOf lines? rest
    by_cases h : ident = "content"
    · simp [NestedBlock.contentOf, NestedBlock.contentOfStructure?, h, hinner]
    · simpa [NestedBlock.contentOf, NestedBlock.contentOfStructure?, h] using hrest

end

theorem shown_ofBody (lines? : Option Text.LineIndex) (b : Body) :
    shownByType (NestedBlock.ofBody lines? b) = shownByType (NestedBlock.ofBody none b) := by
  simp only [NestedBlock.ofBody, shownByType_byType, shown_ofStructures lines? b.structures]

namespace TreeNode

@[simp] theorem view_snapshot (n : TreeNode) (fileName : String) (origin : Origin) :
    (n.snapshot fileName origin).view = n.view := by
  cases n <;> rfl

@[simp] theorem view_snapshotRead (n : TreeNode) (fileName : String) (origin : Origin) (lines : Text.LineIndex) :
    (n.snapshotRead fileName origin lines).view = n.view := by
  cases n with
  | block kind b =>
    have hnested := shown_ofBody (some lines) b.body
    simp only [snapshotRead, view, snapshot, Snapshot.view, Snapshot.ofBlock, Snapshot.ofNewBlock, hnested]
    rfl
  | declaration a => rfl

theorem view_refreshBlock (s : Snapshot) (b : Block) : (s.refreshBlock b).view = (TreeNode.block s.kind b).view := rfl

end TreeNode

theorem shownByType_eq_nil {nested : List (String × List NestedBlock)} : shownByType nested = [] ↔ nested = [] := by
  cases nested with
  | nil => simp [shownByType]
  | cons entry rest => obtain ⟨type, siblings⟩ := entry; simp [shownByType]

/-- A local shows its value only. -/
theorem TreeNode.view_refreshLocal {s : Snapshot} {a : Attribute} (hkind : s.kind = .local) (hlabels : s.labels = [a.key])
    (hnested : s.nested = []) : (s.refreshLocal a).view = (TreeNode.declaration a).view := by
  simp [Snapshot.view, Snapshot.refreshLocal, TreeNode.view, TreeNode.snapshot, Snapshot.ofNewLocal, hlabels, hnested,
    Snapshot.count?, Snapshot.forEach?, hkind]

/-- The snapshots taken from a file are those of its nodes. -/
theorem snapshotsOf_eq (origin : Origin) (fileName : String) (lines : Text.LineIndex) (b : Body) :
    snapshotsOf origin fileName lines b = b.nodes.map (·.snapshotRead fileName origin lines) := by
  unfold snapshotsOf Body.blocks Body.nodes
  induction b.structures with
  | nil => rfl
  | cons s rest ih =>
    rcases s with a | e
    · simpa [List.filterMap_cons, Structure.nodes] using ih
    · have hblock : snapshotsOfBlock origin fileName lines e =
          e.nodes.map (·.snapshotRead fileName origin lines) := by
        unfold snapshotsOfBlock Block.nodes
        split
        · simp [TreeNode.snapshotRead, Function.comp_def]
        · cases BlockKind.ofIdent? e.ident with
          | none => rfl
          | some kind => dsimp only; split <;> rfl
      simp only [List.filterMap_cons, Structure.block?_block, List.flatMap_cons, List.map_append, hblock, ih,
        Structure.nodes]

theorem BlockKind.ofIdent?_name {kind : BlockKind} (h : kind ≠ .local) : ofIdent? kind.name = some kind := by
  cases kind <;> first | rfl | exact absurd rfl h

theorem BlockKind.name_of_ofIdent? {ident : String} {kind : BlockKind} (h : ofIdent? ident = some kind) :
    ident = kind.name ∧ kind ≠ .local := by
  unfold ofIdent? at h
  split at h <;> first | cases h; exact ⟨rfl, by decide⟩ | cases h

theorem BlockKind.name_ne_locals (kind : BlockKind) : kind.name ≠ "locals" := by
  cases kind <;> decide

namespace Source

theorem Block.nodes_of_locals {b : Block} (h : b.ident = "locals") : b.nodes = b.body.attributes.map .declaration := by
  simp [Block.nodes, h]

theorem Block.nodes_of_kind {b : Block} {kind : BlockKind} (hident : b.ident = kind.name) (hkind : kind ≠ .local)
    (hcount : b.labels.length = kind.labelCount) : b.nodes = [.block kind b] := by
  simp [Block.nodes, hident, kind.name_ne_locals, BlockKind.ofIdent?_name hkind, hcount]

theorem Block.mem_nodes_block {b e : Block} {kind : BlockKind} (h : TreeNode.block kind e ∈ b.nodes) :
    e = b ∧ b.ident = kind.name ∧ kind ≠ .local ∧ b.labels.length = kind.labelCount := by
  unfold Block.nodes at h
  split at h
  · simp at h
  · cases hk : BlockKind.ofIdent? b.ident with
    | none => simp [hk] at h
    | some k =>
      obtain ⟨hname, hlocal⟩ := BlockKind.name_of_ofIdent? hk
      simp only [hk] at h
      split at h
      · obtain ⟨rfl, rfl⟩ : kind = k ∧ e = b := by simpa using h
        exact ⟨rfl, hname, hlocal, ‹_›⟩
      · cases h

theorem Block.mem_nodes_declaration {b : Block} {a : Attribute} (h : TreeNode.declaration a ∈ b.nodes) :
    b.ident = "locals" ∧ a ∈ b.body.attributes := by
  unfold Block.nodes at h
  split at h
  · exact ⟨‹_›, by simpa using h⟩
  · split at h
    · cases h
    · split at h <;> simp at h

theorem Body.mem_nodes {b : Body} {n : TreeNode} : n ∈ b.nodes ↔ ∃ e, .block e ∈ b.structures ∧ n ∈ e.nodes := by
  unfold Body.nodes
  rw [List.mem_flatMap]
  constructor
  · rintro ⟨s, hs, hn⟩
    rcases s with a | e
    · cases hn
    · exact ⟨e, hs, hn⟩
  · rintro ⟨e, he, hn⟩
    exact ⟨.block e, he, hn⟩

/-- A node has as many labels as its kind asks for. -/
theorem Body.length_labels_of_mem_nodes {b : Body} {n : TreeNode} (h : n ∈ b.nodes) :
    n.labels.length = n.kind.labelCount := by
  obtain ⟨e, -, hn⟩ := Body.mem_nodes.mp h
  cases n with
  | block kind e' =>
    obtain ⟨rfl, -, -, hcount⟩ := Block.mem_nodes_block hn
    simpa [TreeNode.labels, TreeNode.kind, Block.labelTexts] using hcount
  | declaration a => rfl

end Source

/-- The node that the locator of a snapshot finds in the tree of a file. -/
def Snapshot.node? (s : Snapshot) (b : Body) : Option TreeNode := do
  let index ← s.index? b
  let block ← b.structures[index]?.bind Structure.block?
  match s.kind with
  | .local => do
    let name ← s.labels.head?
    let a ← block.body.attribute? name
    some (.declaration a)
  | kind => some (.block kind block)

namespace Snapshot

variable {s : Snapshot} {b : Body}

theorem isLocals_of_index? {i : Nat} (hkind : s.kind = .local) (h : s.index? b = some i) :
    ∃ e, b.structures[i]? = some (.block e) ∧ e.ident = "locals" ∧
      (s.labels.any fun name => (e.body.attribute? name).isSome) = true := by
  rw [index?, if_pos hkind] at h
  obtain ⟨hlt, ht, -⟩ := List.findIdx?_eq_some_iff_getElem.mp h
  have hget := List.getElem?_eq_getElem hlt
  generalize b.structures[i] = x at ht hget
  rcases x with a | e
  · cases ht
  · simp only [isLocals, Bool.and_eq_true, decide_eq_true_eq] at ht
    exact ⟨e, hget, ht⟩

/-- What the locator of a local finds: a `locals` block that declares it. -/
theorem index?_local_eq_some {i : Nat} (hkind : s.kind = .local) {name : String} (hlabels : s.labels = [name])
    (h : s.index? b = some i) :
    ∃ e a, b.structures[i]? = some (.block e) ∧ e.ident = "locals" ∧ e.body.attribute? name = some a := by
  obtain ⟨e, he, hident, hdeclares⟩ := isLocals_of_index? hkind h
  simp only [hlabels, List.any_cons, List.any_nil, Bool.or_false] at hdeclares
  obtain ⟨a, ha⟩ := Option.isSome_iff_exists.mp hdeclares
  exact ⟨e, a, he, hident, ha⟩

/-- What the locator of any other block finds: a block of its kind and labels. -/
theorem index?_block_eq_some {i : Nat} (hkind : s.kind ≠ .local) (h : s.index? b = some i) :
    ∃ e, b.structures[i]? = some (.block e) ∧ e.ident = s.kind.name ∧ e.labelTexts = s.labels := by
  rw [index?, if_neg hkind] at h
  obtain ⟨hlt, ht, -⟩ := List.findIdx?_eq_some_iff_getElem.mp h
  have hget := List.getElem?_eq_getElem hlt
  generalize b.structures[i] = x at ht hget
  rcases x with a | e
  · cases ht
  · simp only [isBlock, Bool.and_eq_true, decide_eq_true_eq] at ht
    exact ⟨e, hget, ht.1, ht.2⟩

theorem attribute?_mem {e : Body} {name : String} {a : Attribute} (h : e.attribute? name = some a) :
    a ∈ e.attributes ∧ a.key = name := by
  unfold Body.attribute? at h
  exact ⟨List.mem_of_find?_eq_some h, by simpa using List.find?_some h⟩

theorem node?_of_index? {i : Nat} {e : Block} (hkind : s.kind ≠ .local) (hi : s.index? b = some i)
    (he : b.structures[i]? = some (.block e)) : s.node? b = some (.block s.kind e) := by
  simp only [node?, hi, he, Option.bind_some, Structure.block?_block, bind]

/-- A locator finds a node of its kind and labels, if there is one. -/
theorem exists_node? {n : TreeNode} (hn : n ∈ b.nodes) (hkind : n.kind = s.kind) (hlabels : n.labels = s.labels) :
    ∃ found ∈ b.nodes, s.node? b = some found ∧ found.kind = s.kind ∧ found.labels = s.labels := by
  obtain ⟨e, he, hne⟩ := Body.mem_nodes.mp hn
  cases n with
  | declaration a =>
    obtain ⟨hident, ha⟩ := Block.mem_nodes_declaration hne
    have hlocal : s.kind = .local := hkind.symm
    have hhas : e.body.hasAttribute a.key = true := by
      simp only [Body.hasAttribute, Body.attribute?, List.find?_isSome, decide_eq_true_eq]
      exact ⟨a, ha, rfl⟩
    have hsome : (s.index? b).isSome := by
      rw [index?, if_pos hlocal, List.findIdx?_isSome, List.any_eq_true]
      exact ⟨.block e, he, by simp [isLocals, hident, ← hlabels, TreeNode.labels, hhas]⟩
    obtain ⟨i, hi⟩ := Option.isSome_iff_exists.mp hsome
    obtain ⟨e', a', he', hident', ha'⟩ := index?_local_eq_some hlocal hlabels.symm hi
    obtain ⟨hmem, hkey⟩ := attribute?_mem ha'
    refine ⟨.declaration a', ?_, ?_, hkind, by simp [TreeNode.labels, hkey, ← hlabels]⟩
    · refine Body.mem_nodes.mpr ⟨e', List.mem_of_getElem? he', ?_⟩
      rw [Block.nodes_of_locals hident']
      exact List.mem_map_of_mem hmem
    · simp [node?, hi, he', hlocal, ← hlabels, TreeNode.labels, ha']
  | block kind e' =>
    obtain ⟨rfl, hident, hlocal, hcount⟩ := Block.mem_nodes_block hne
    obtain rfl : kind = s.kind := hkind
    have hsome : (s.index? b).isSome := by
      rw [index?, if_neg hlocal, List.findIdx?_isSome, List.any_eq_true]
      exact ⟨.block e', he, by simp [isBlock, hident, ← hlabels, TreeNode.labels]⟩
    obtain ⟨i, hi⟩ := Option.isSome_iff_exists.mp hsome
    obtain ⟨found, hfound, hident', htexts⟩ := index?_block_eq_some hlocal hi
    have hcount' : found.labels.length = s.kind.labelCount := by
      have := congrArg List.length (htexts.trans hlabels.symm)
      simpa [Block.labelTexts, TreeNode.labels, hcount] using this
    refine ⟨.block s.kind found, ?_, ?_, rfl, htexts⟩
    · refine Body.mem_nodes.mpr ⟨found, List.mem_of_getElem? hfound, ?_⟩
      rw [Block.nodes_of_kind hident' hlocal hcount']
      exact List.mem_singleton.mpr rfl
    · rw [node?_of_index? hlocal hi hfound]

/-- A snapshot taken again from a node. -/
def refresh (s : Snapshot) : TreeNode → Snapshot
  | .block _ b => s.refreshBlock b
  | .declaration a => s.refreshLocal a

theorem refreshed?_eq (s : Snapshot) (b : Body) : Module.refreshed? s b = (s.node? b).map s.refresh := by
  unfold Module.refreshed? node?
  cases s.index? b with
  | none => rfl
  | some i =>
    cases hx : b.structures[i]?.bind Structure.block? with
    | none => simp [hx]
    | some e =>
      simp only [Option.bind_eq_bind, Option.bind_some, hx]
      by_cases hkind : s.kind = .local
      · simp only [hkind]
        cases s.labels.head? with
        | none => rfl
        | some name =>
          simp only [Option.bind_some]
          cases e.body.attribute? name <;> rfl
      · simp only [Option.map_some]
        rfl

end Snapshot

end Terrasmith
