import Terrasmith.Proofs.Filling
import Terrasmith.Proofs.MergeLaw

/-!
Where keys are apart: in every body that is read from a text, since a key that comes again is refused, and in every
patch that is made from such a body. So the patch of a declaration that has been read is merged into a block that has
been read under the law of a merge.
-/
namespace Terrasmith.Source

/-- Structures that may stand behind others with the given keys. -/
def FitsBehind (keys : List String) (structures : List Structure) : Prop :=
  ((structures.filterMap Structure.attribute?).map (·.key)).Nodup ∧
    (∀ a ∈ structures.filterMap Structure.attribute?, a.key ∉ keys) ∧ ∀ s ∈ structures, s.KeysApart

theorem FitsBehind.nil (keys : List String) : FitsBehind keys [] :=
  ⟨List.nodup_nil, List.forall_mem_nil _, List.forall_mem_nil _⟩

/-- Behind an attribute its key is taken. -/
theorem FitsBehind.attribute {keys : List String} {a : Attribute} {more : List Structure} (hfree : a.key ∉ keys)
    (h : FitsBehind (a.key :: keys) more) : FitsBehind keys (.attribute a :: more) := by
  obtain ⟨hkeys, hmore, hall⟩ := h
  have hcons : (Structure.attribute a :: more).filterMap Structure.attribute? =
      a :: more.filterMap Structure.attribute? := List.filterMap_cons_some rfl
  refine ⟨?_, ?_, List.forall_mem_cons.mpr ⟨keysApart_attribute a, hall⟩⟩
  · rw [hcons, List.map_cons, List.nodup_cons]
    refine ⟨fun hmem => ?_, hkeys⟩
    obtain ⟨a', ha', hkey⟩ := List.mem_map.mp hmem
    exact hmore a' ha' (hkey ▸ List.mem_cons_self)
  · rw [hcons]
    exact List.forall_mem_cons.mpr ⟨hfree, fun a' ha' hmem => hmore a' ha' (List.mem_cons_of_mem _ hmem)⟩

theorem FitsBehind.block {keys : List String} {b : Block} {more : List Structure} (hb : (Structure.block b).KeysApart)
    (h : FitsBehind keys more) : FitsBehind keys (.block b :: more) :=
  ⟨h.1, h.2.1, List.forall_mem_cons.mpr ⟨hb, h.2.2⟩⟩

theorem FitsBehind.keysApart {keys : List String} {b : Body} (h : FitsBehind keys b.structures) : b.KeysApart :=
  Body.keysApart_iff.mpr ⟨h.1, h.2.2⟩

/-- What the readers of structures give, with `n` rounds. -/
structure ReadsApart (n : Nat) : Prop where
  structures : ∀ {size keys ended s p r}, structures? size n keys ended s = some (p, r) → FitsBehind keys p.1
  block : ∀ {size lead ident gap start s b r}, block? size n lead ident gap start s = some (b, r) →
    (Structure.block b).KeysApart
  body : ∀ {size s b r}, body? size n s = some (b, r) → b.KeysApart

section Readers

variable {size n : Nat} {s r : List Char} {b : Body}

/-- A body on one line has one attribute at most. -/
theorem keysApart_oneLineBody (h : oneLineBody? size s = some (b, r)) : b.KeysApart := by
  rw [oneLineBody?] at h
  simp only at h
  split at h
  · obtain ⟨rfl, -⟩ := Prod.mk.inj (Option.some.inj h)
    exact (FitsBehind.nil []).keysApart
  · simp only [Option.bind_eq_bind, Option.bind_eq_some_iff] at h
    obtain ⟨_, -, h⟩ := h
    split at h
    · simp only [Option.bind_eq_some_iff] at h
      obtain ⟨_, -, h⟩ := h
      split at h
      · obtain ⟨rfl, -⟩ := Prod.mk.inj (Option.some.inj h)
        exact (FitsBehind.attribute List.not_mem_nil (.nil _)).keysApart
      · cases h
    · cases h

theorem keysApart_body (ih : ReadsApart n) (h : body? size (n + 1) s = some (b, r)) : b.KeysApart := by
  rw [body?] at h
  simp only at h
  split at h
  · simp only [Option.bind_eq_bind, Option.bind_eq_some_iff] at h
    obtain ⟨p, hread, h⟩ := h
    split at h
    · obtain ⟨rfl, -⟩ := Prod.mk.inj (Option.some.inj h)
      exact (ih.structures hread).keysApart
    · cases h
  · exact keysApart_oneLineBody h

theorem keysApart_readBlock (ih : ReadsApart n) {lead ident gap : String} {start : List Char} {e : Block}
    (h : block? size (n + 1) lead ident gap start s = some (e, r)) : (Structure.block e).KeysApart := by
  rw [block?] at h
  simp only [Option.bind_eq_bind, Option.bind_eq_some_iff] at h
  obtain ⟨_, -, p, hread, h⟩ := h
  obtain ⟨rfl, -⟩ := Prod.mk.inj (Option.some.inj h)
  exact keysApart_block.mpr (ih.body hread)

theorem fitsBehind_structuresFrom (ih : ReadsApart n) {keys : List String} {x : Structure}
    {p : List Structure × String × Bool} (hx : x.KeysApart) (hfree : ∀ a, x = .attribute a → a.key ∉ keys)
    (h : structuresFrom? size n keys x s = some (p, r)) : FitsBehind keys p.1 := by
  rw [structuresFrom?] at h
  simp only [Option.bind_eq_bind, Option.bind_eq_some_iff] at h
  obtain ⟨_, -, q, hread, h⟩ := h
  obtain ⟨rfl, -⟩ := Prod.mk.inj (Option.some.inj h)
  have hmore := ih.structures hread
  rcases x with a | e
  · exact .attribute (hfree a rfl) hmore
  · exact .block (keysApart_block.mpr (keysApart_block (q := e).mp hx)) hmore

/-- The reader carries the keys that it has seen, and refuses one that comes again. -/
theorem fitsBehind_structures (ih : ReadsApart n) {keys : List String} {ended : Bool}
    {p : List Structure × String × Bool} (h : structures? size (n + 1) keys ended s = some (p, r)) :
    FitsBehind keys p.1 := by
  rw [structures?_succ] at h
  simp only at h
  split at h
  · obtain ⟨rfl, -⟩ := Prod.mk.inj (Option.some.inj h)
    exact .nil keys
  · obtain ⟨rfl, -⟩ := Prod.mk.inj (Option.some.inj h)
    exact .nil keys
  · simp only [Option.bind_eq_bind, Option.bind_eq_some_iff] at h
    obtain ⟨_, -, h⟩ := h
    split at h
    · split at h
      · cases h
      · next hfree =>
        obtain ⟨a, hread, hmore⟩ := Option.bind_eq_some_iff.mp h
        refine fitsBehind_structuresFrom ih (keysApart_attribute a.1) (fun a' ha' => ?_) hmore
        obtain ⟨-, hkey, -⟩ := attributeRest?_start hread
        rw [← Structure.attribute.inj ha', hkey]
        simpa using hfree
    · obtain ⟨e, hread, hmore⟩ := Option.bind_eq_some_iff.mp h
      exact fitsBehind_structuresFrom ih (ih.block hread) (fun _ he => by cases he) hmore

theorem readsApart (n : Nat) : ReadsApart n := by
  induction n with
  | zero =>
    constructor <;> intros <;> contradiction
  | succ n ih => exact ⟨fitsBehind_structures ih, keysApart_readBlock ih, keysApart_body ih⟩

end Readers

/-- Every body that is read has its keys apart. -/
theorem keysApart_of_parse? {text : String} {b : Body} (h : parse? text = some b) : b.KeysApart := by
  obtain ⟨size, n, x, r, hread⟩ := parse?_eq_some h
  exact ((readsApart n).structures hread).keysApart

theorem keysApart_body_of_mem {b : Body} {e : Block} (hb : b.KeysApart) (he : e ∈ b.blocks) : e.body.KeysApart :=
  keysApart_block.mp ((Body.keysApart_iff.mp hb).2 _ (Body.mem_blocks.mp he))

theorem keysApart_pushBlock {p : Body} {e : Block} (hp : p.KeysApart) (he : (Structure.block e).KeysApart) :
    (p.pushBlock e).KeysApart := by
  obtain ⟨hkeys, hall⟩ := Body.keysApart_iff.mp hp
  have hnew : (Structure.block e).unindent.KeysApart := keysApart_unindent he
  have hblock : (Structure.block e).unindent.attribute? = none := by
    unfold Structure.unindent
    split <;> rfl
  have hpush : p.pushBlock e =
      { p with structures := p.structures ++ [(Structure.block e).unindent], oneLine := false } := by
    unfold Body.pushBlock Structure.unindent
    split <;> rfl
  rw [hpush]
  refine Body.keysApart_iff.mpr ⟨?_, List.forall_mem_append.mpr ⟨hall, List.forall_mem_singleton.mpr hnew⟩⟩
  rw [Body.attributes, List.filterMap_append, List.filterMap_cons_none hblock, List.filterMap_nil, List.append_nil]
  exact hkeys

end Terrasmith.Source

namespace Terrasmith

open Source

mutual

theorem keysApart_patchStructure (scope : Scope) (top : Bool) : (s : Structure) → s.KeysApart →
    ∀ {p q : Body}, p.KeysApart → patchStructure scope top p s = .ok q → q.KeysApart
  | .attribute a, _, p, q, hp, h => by
    simp only [patchStructure] at h
    split at h
    · cases h
      exact hp
    · obtain ⟨read, -, rfl⟩ := return_eq_ok h
      have hset := keysApart_mergeStructure _ (keysApart_attribute read) hp
      rwa [Body.mergeStructure] at hset
  | .block ⟨lead, ident, identTrail, labels, ⟨structures, head, tail, oneLine, openEnd⟩, trail, span?⟩, hs, p, q, hp,
      h => by
    have hstructures := (Body.keysApart_iff.mp (keysApart_block.mp hs)).2
    simp only [patchStructure] at h
    split at h
    · cases h
      exact keysApart_mergeStructures structures hstructures hp
    split at h
    · exact keysApart_patchStructures scope false structures hstructures hp h
    split at h
    · cases h
      exact hp
    · obtain ⟨body, hbody, rfl⟩ := return_eq_ok h
      have hempty : Body.KeysApart {} := (FitsBehind.nil []).keysApart
      have hread := keysApart_patchStructures scope false structures hstructures hempty hbody
      exact keysApart_pushBlock hp (keysApart_block.mpr hread)
termination_by structural s => s

theorem keysApart_patchStructures (scope : Scope) (top : Bool) : (structures : List Structure) →
    (∀ s ∈ structures, s.KeysApart) → ∀ {p q : Body}, p.KeysApart →
      patchStructures scope top p structures = .ok q → q.KeysApart
  | [], _, p, q, hp, h => by
    cases h
    exact hp
  | s :: rest, hs, p, q, hp, h => by
    simp only [patchStructures] at h
    obtain ⟨first, hfirst, hmore⟩ := bind_eq_ok h
    have hkept := keysApart_patchStructure scope top s (hs s List.mem_cons_self) hp hfirst
    exact keysApart_patchStructures scope top rest (fun t ht => hs t (List.mem_cons_of_mem s ht)) hkept hmore
termination_by structural structures => structures

end

/-- The patch of a declaration has its keys apart, whatever its values are. -/
theorem keysApart_of_buildPatch {scope : Scope} {body patch : Body} (hbody : body.KeysApart)
    (h : buildPatch scope body = .ok patch) : patch.KeysApart :=
  keysApart_patchStructures scope true body.structures (Body.keysApart_iff.mp hbody).2 (FitsBehind.nil []).keysApart h

/-- The patch of a declaration `q` is merged under the law into a block `e`, whatever the values are, where both have
been read from texts. -/
theorem merges_of_parse? {text config : String} {tree declarations patch : Body} {e q : Block} {scope : Scope}
    (htree : parse? text = some tree) (he : e ∈ tree.blocks) (hdeclarations : parse? config = some declarations)
    (hq : q ∈ declarations.blocks) (h : buildPatch scope q.body = .ok patch) :
    e.body.Merges patch (e.body.merge patch) ∧ (e.body.merge patch).KeysApart := by
  have hbody := keysApart_body_of_mem (keysApart_of_parse? htree) he
  have hpatch := keysApart_of_buildPatch (keysApart_body_of_mem (keysApart_of_parse? hdeclarations) hq) h
  have hstructures := (Body.keysApart_iff.mp hpatch).2
  exact ⟨merges_merge patch hpatch hbody, keysApart_mergeStructures patch.structures hstructures hbody⟩

end Terrasmith
