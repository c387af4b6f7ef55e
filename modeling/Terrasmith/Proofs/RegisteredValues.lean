import Terrasmith.Proofs.BlockValues
import Terrasmith.Proofs.Consistency

/-!
The values of registered blocks. The value of a block is told by what its snapshot shows, so where the snapshots are up
to date it is that of the block as it is written, and mirrors its tree. Transforms keep this as long as no change is
masked.
-/
namespace Terrasmith

open Source

mutual

/-- The value of a nested block by what is shown of it. -/
def Shown.value : Shown → Value
  | .mk _ _ _ _ _ attributes nested =>
    .object (insertEntries (attributes.map fun (name, text) => (name, .string text)) (shownEntries nested))

def shownValues : List Shown → List Value
  | [] => []
  | b :: rest => b.value :: shownValues rest

def shownEntries : List (String × List Shown) → List (String × Value)
  | [] => []
  | (type, siblings) :: rest => (type, Shape.listOfObjects (shownValues siblings)) :: shownEntries rest

end

theorem attributeEntries_eq (attributes : Attributes) :
    attributeEntries attributes = (sourcesOf attributes).map fun (name, text) => (name, .string text) := by
  rw [attributeEntries, sourcesOf, List.map_map]
  rfl

mutual

theorem NestedBlock.value_eq_shown : (b : NestedBlock) → b.value = b.shown.value
  | .mk _ _ _ _ _ attributes nested _ => by
    rw [NestedBlock.value, NestedBlock.shown, Shown.value, attributeEntries_eq, nestedEntries_eq_shown nested]

theorem nestedValues_eq_shown : (blocks : List NestedBlock) → nestedValues blocks = shownValues (shownAll blocks)
  | [] => rfl
  | b :: rest => by rw [nestedValues, shownAll, shownValues, b.value_eq_shown, nestedValues_eq_shown rest]

theorem nestedEntries_eq_shown : (nested : List (String × List NestedBlock)) →
    nestedEntries nested = shownEntries (shownByType nested)
  | [] => rfl
  | (type, siblings) :: rest => by
    rw [nestedEntries, shownByType, shownEntries, nestedValues_eq_shown siblings, nestedEntries_eq_shown rest]

end

/-- Beside what a block tells of itself, its value has what its snapshot shows. -/
theorem Snapshot.value_eq_of_view {s t : Snapshot} (hview : s.view = t.view) (hmetadata : s.metadata = t.metadata)
    (hs : s.kind ≠ .local) (ht : t.kind ≠ .local) : s.value = t.value := by
  have hattributes : sourcesOf s.attributes = sourcesOf t.attributes := congrArg View.attributes hview
  have hnested : shownByType s.nested = shownByType t.nested := congrArg View.nested hview
  rw [value, value, localValue?_eq_none hs, localValue?_eq_none ht, hmetadata, attributeEntries_eq,
    attributeEntries_eq, nestedEntries_eq_shown, nestedEntries_eq_shown, hattributes, hnested]

/-- The value of a snapshot is that of a block. Where the keys in the block are apart, no name in it stands for
attributes and for blocks at one place, and nothing has the name `mptf`, it tells all of it. -/
structure Snapshot.Tells (s : Snapshot) (q : Block) : Prop where
  value : s.value = (s.refreshBlock q).value
  mirrors : q.body.KeysApart → Body.Unmixed [q.body] → "mptf" ∉ q.body.names →
    ∃ entries, s.value = .object (entries ++ [("mptf", s.metadata)]) ∧ entries.map Prod.fst = q.body.names ∧
      Mirrors q.body (.object entries)

theorem Snapshot.tells_of_view {s : Snapshot} {q : Block} (hkind : s.kind ≠ .local)
    (hview : s.view = (TreeNode.block s.kind q).view) : s.Tells q := by
  have hvalue : s.value = (s.refreshBlock q).value :=
    value_eq_of_view (hview.trans (TreeNode.view_refreshBlock s q).symm) rfl hkind hkind
  refine ⟨hvalue, fun hkeys hunmixed hmptf => ?_⟩
  obtain ⟨lines?, hfresh⟩ := value_of_pictures (pictures_refreshBlock hkind q) hmptf
    (hunmixed [] q.body (List.mem_singleton_self _) q.body (List.mem_singleton_self _))
  obtain ⟨hnames, hmirrors, -⟩ := mirrors_bodyEntries lines? hkeys hunmixed
  exact ⟨bodyEntries lines? q.body, hvalue.trans hfresh, hnames, hmirrors⟩

namespace Module

variable {m : Module} {address : String} {s : Snapshot}

/-- A registered block is written in its file, and where the snapshots are up to date its value tells what is
written. -/
theorem Registered.exists_written (h : m.Registered) (hu : m.UpToDate) (hs : m.block? address = some s)
    (hkind : s.kind ≠ .local) : ∃ q, m.written? address = some q ∧ s.Tells q := by
  obtain ⟨file, n, hfile, hnode, hn, -, -, haddress⟩ := h.indexed.located _ (mem_registry hs)
  simp only [Snapshot.node?, Option.bind_eq_bind, Option.bind_eq_some_iff] at hnode
  obtain ⟨i, hi, q, ⟨x, hx, hq⟩, hnode⟩ := hnode
  obtain rfl : .block s.kind q = n := Option.some.inj hnode
  rcases x with _ | _
  · cases hq
  cases hq
  refine ⟨q, Site.written? ⟨hs, hfile, hi⟩ hx, Snapshot.tells_of_view hkind ?_⟩
  refine hu _ (mem_registry hs) _ (mem_nodes_of_file? hfile hn) ?_
  rw [haddress, h.entries.keys _ (mem_registry hs)]

end Module

/-- As long as no change is masked, queries see the blocks of a module as they are written after any transforms. -/
theorem Transform.tells_written {origin : Origin} {disk : String → Option String} {sources : List (String × String)}
    {m : Module} (hload : Module.ofSources origin disk sources = .ok m) (hnames : (sources.map Prod.fst).Nodup)
    (hterraform : Module.countOf .terraform m.nodes ≤ 1) {ts : List Transform} (hlabelled : ∀ t ∈ ts, t.Labelled)
    (hdisk : ∀ t ∈ ts, ∀ name ∈ t.fileNames, name ∈ sources.map Prod.fst ∨ disk name = none)
    (hplain : (m :: courses ts m).IsChain fun a b => ¬ Module.Masked a b) {address : String} {s : Snapshot}
    (hs : (applyAll ts m).block? address = some s) (hkind : s.kind ≠ .local) :
    ∃ q, (applyAll ts m).written? address = some q ∧ s.Tells q := by
  obtain ⟨h, hu, hfiles, hdisk'⟩ := Module.registered_ofSources hload hnames hterraform
  have hloaded : ∀ t ∈ ts, ∀ name ∈ t.fileNames, m.Loaded name := by
    intro t ht name hname
    rw [Module.Loaded, hfiles, hdisk']
    exact hdisk t ht name hname
  have hpasses := passes_courses ts hlabelled h hloaded
  have hlast : applyAll ts m ∈ m :: courses ts m := List.mem_of_getLast? hpasses.getLast?
  have hcurrent := List.forall_mem_cons.mpr ⟨hu, (hpasses.upToDate_iff hu).mpr hplain⟩
  exact (hpasses.registered h).exists_written (hcurrent _ hlast) hs hkind

end Terrasmith
