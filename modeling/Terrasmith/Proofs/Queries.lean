import Terrasmith.Proofs.Nesting
import Terrasmith.Proofs.Placement
import Terrasmith.Query.Basic

/-!
Queries for blocks. Their results are put together by writing entries under labels, so a block would be lost if another
one had the same labels. In a module that is made from files and changed by transforms none has: the registry holds
every address once, and as many labels as the kind asks for, so that blocks of one kind differ in their labels.
-/
namespace Terrasmith

open Source

namespace Module

variable {m m' : Module}

/-! ### The labels of registered blocks -/

/-- Every entry has as many labels as its kind asks for. -/
def Counted (m : Module) : Prop :=
  ∀ e ∈ m.registry, e.2.labels.length = e.2.kind.labelCount

namespace Counted

theorem insert (h : m.Counted) {address : String} {s : Snapshot} (hs : s.labels.length = s.kind.labelCount)
    (hregistry : m'.registry = insertEntry address s m.registry) : m'.Counted := by
  intro e he
  rw [hregistry] at he
  rcases mem_insertEntry he with rfl | he
  · exact hs
  · exact h e he

/-- A snapshot of the same kind and labels. -/
theorem replace (h : m.Counted) {address : String} {s s' : Snapshot} (hfound : m.block? address = some s)
    (hkind : s'.kind = s.kind) (hlabels : s'.labels = s.labels)
    (hregistry : m'.registry = insertEntry address s' m.registry) : m'.Counted := by
  refine h.insert ?_ hregistry
  rw [hkind, hlabels]
  exact h _ (mem_registry hfound)

theorem invariant : Invariant (fun _ => True) (fun kind labels => labels.length = kind.labelCount) Counted where
  updateBlock h _ hok := by
    obtain ⟨s, file, i, old, hsite, -, -, rfl⟩ := updateBlock_eq_ok hok
    obtain ⟨changed, s', heq, -, hkind, hlabels⟩ := rewritten_eq_setBlock hsite old _
    rw [heq]
    exact h.replace hsite.found hkind hlabels rfl
  updateLocal h hok := by
    obtain ⟨s, file, i, name, e, j, old, hsite, -, -, -, -, -, rfl⟩ := updateLocal_eq_ok hok
    obtain ⟨file', e', s', heq, -, -, -, -, hkind, hlabels⟩ := revalued_eq_setBlock hsite e j old _
    rw [heq]
    exact h.replace hsite.found hkind hlabels rfl
  removeBlock h hok := by
    obtain ⟨file, i, -, rfl⟩ := removeBlock_eq_ok hok
    exact fun e he => h e ((eraseEntry_sublist _ _).subset he)
  moveBlock h _ hok := by
    rcases moveBlock_eq_ok hok with ⟨rfl, -⟩ | ⟨s, file, i, x, hsite, -, -, -, rfl⟩
    · exact h
    · refine h.insert ?_ rfl
      exact h _ (mem_registry hsite.found)
  addBlock h _ _ hlabels hok := by
    obtain ⟨-, -, rfl⟩ := addBlock_eq_ok hok
    exact h.insert hlabels rfl
  addLocal h _ hok := by
    obtain ⟨-, -, rfl⟩ := addLocal_eq_ok hok
    exact h.insert rfl rfl
  replaceIn {m} f name h := by
    unfold Module.replaceIn
    cases m.file? name with
    | none => exact h
    | some file =>
      dsimp only
      unfold replaceBody
      split
      · exact h
      · intro e he
        obtain ⟨⟨key, s⟩, hs, rfl⟩ := List.mem_map.mp he
        dsimp only
        split
        · obtain ⟨-, hkind, hlabels⟩ := Snapshot.tag_eq_iff.mp (tag_refreshed s (replaceInBlocks f file.body).result)
          rw [hkind, hlabels]
          exact h _ hs
        · exact h _ hs

end Counted

theorem Counted.register (h : m.Counted) {s : Snapshot} (hs : s.labels.length = s.kind.labelCount)
    (hok : m.register s = .ok m') : m'.Counted := by
  unfold Module.register at hok
  split at hok
  · cases hok
    exact List.forall_mem_append.mpr ⟨h, List.forall_mem_singleton.mpr hs⟩
  · split at hok
    · cases hok
      exact h
    · cases hok

end Module

/-! ### What is wanted -/

namespace Query

/-- The number of labels under which a query shows a block. -/
def depth : Query → Nat
  | .blocks .. => 2
  | _ => 1

end Query

namespace Query

end Query

namespace Snapshot

variable {s : Snapshot}

end Snapshot

namespace Query

variable {found : List Snapshot}

variable {m : Module} {kind : BlockKind}

end Query

end Terrasmith
