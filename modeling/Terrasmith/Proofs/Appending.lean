import Terrasmith.Proofs.Retention

/-!
Files that are read when something is appended to them. What such a file held stays in front of all that is appended,
as long as the blocks in it do not pass for blocks of the module and no replacement finds anything in it.
-/
namespace Terrasmith

open Source

namespace Source

/-- A body with further structures behind those that it held. -/
def Body.Extends (held b : Body) : Prop := ∃ added, b = { held with structures := held.structures ++ added }

namespace Body.Extends

variable {held b : Body}

theorem refl (b : Body) : b.Extends b := ⟨[], by rw [List.append_nil, Body.mk_self]⟩

theorem pushRoot (h : held.Extends b) (s : Structure) : held.Extends (b.pushRoot s) := by
  obtain ⟨added, rfl⟩ := h
  unfold Body.pushRoot Body.push
  dsimp only
  split
  · split
    · exact ⟨added, rfl⟩
    · exact ⟨_, by rw [List.append_assoc]⟩
  · exact ⟨_, by rw [List.append_assoc]⟩

/-- What is found in a body but not in what it held stands behind that. -/
theorem le_index {s : Snapshot} {i : Nat} (h : held.Extends b) (hheld : s.index? held = none)
    (hindex : s.index? b = some i) : held.structures.length ≤ i := by
  obtain ⟨added, rfl⟩ := h
  unfold Snapshot.index? at hheld hindex
  rw [List.findIdx?_append, hheld, Option.none_or, Option.map_eq_some_iff] at hindex
  obtain ⟨j, -, rfl⟩ := hindex
  exact Nat.le_add_left _ _

theorem set {i : Nat} (h : held.Extends b) (hi : held.structures.length ≤ i) (s : Structure) :
    held.Extends { b with structures := b.structures.set i s } := by
  obtain ⟨added, rfl⟩ := h
  exact ⟨added.set (i - held.structures.length) s, by rw [List.set_append_right _ _ hi]⟩

theorem eraseIdx {i : Nat} (h : held.Extends b) (hi : held.structures.length ≤ i) :
    held.Extends { b with structures := b.structures.eraseIdx i } := by
  obtain ⟨added, rfl⟩ := h
  exact ⟨added.eraseIdx (i - held.structures.length), by rw [List.eraseIdx_append_of_length_le hi]⟩

theorem withoutBlock {i : Nat} (h : held.Extends b) (hi : held.structures.length ≤ i) (s : Snapshot) :
    held.Extends { b with structures := Module.withoutBlock s b.structures i } := by
  rcases Module.withoutBlock_cases s b.structures i with heq | ⟨e, inner, -, heq⟩
  · rw [heq]
    exact h.eraseIdx hi
  · rw [heq]
    exact h.set hi _

end Body.Extends

section Replacing

variable {ε : Type} (f : Attribute → Except ε (Option Expression))

mutual

/-- A replacement that changes no value of a structure leaves it as it is. -/
theorem Structure.replaceValues_unchanged : ∀ s : Structure, (s.replaceValues f).changed = false →
    (s.replaceValues f).result = s
  | .attribute a, h => by
    rw [Structure.replaceValues] at h ⊢
    cases hvalue : f a with
    | error e => rfl
    | ok e? =>
      cases e? with
      | none => rfl
      | some e => simp [hvalue] at h
  | .block ⟨lead, ident, identTrail, labels, ⟨structures, head, tail, oneLine, openEnd⟩, trail, span?⟩, h => by
    rw [Structure.replaceValues] at h ⊢
    rw [replaceAllValues_unchanged structures h]

theorem replaceAllValues_unchanged : ∀ structures : List Structure, (replaceAllValues f structures).changed = false →
    (replaceAllValues f structures).result = structures
  | [], _ => by rw [replaceAllValues]
  | s :: rest, h => by
    rw [replaceAllValues] at h ⊢
    obtain ⟨hfirst, hrest⟩ := Bool.or_eq_false_iff.mp h
    rw [Structure.replaceValues_unchanged s hfirst, replaceAllValues_unchanged rest hrest]

end

end Replacing

/-- A replacement that changes nothing in what a body held changes only what stands behind. -/
theorem Body.Extends.replaceInBlocks {ε : Type} {f : Attribute → Except ε (Option Expression)} {held b : Body}
    (h : held.Extends b) (hheld : (Terrasmith.replaceInBlocks f held).changed = false) :
    held.Extends (Terrasmith.replaceInBlocks f b).result := by
  obtain ⟨added, rfl⟩ := h
  refine ⟨(Terrasmith.replaceInBlocks f { structures := added }).result.structures, ?_⟩
  unfold Terrasmith.replaceInBlocks at hheld ⊢
  dsimp only at hheld ⊢
  rw [List.any_map, List.any_eq_false] at hheld
  rw [List.map_append, List.map_append, List.map_map, List.map_map]
  congr 1
  refine congrArg (· ++ _) ((List.map_congr_left fun s hs => ?_).trans (List.map_id _))
  have hs := hheld s hs
  rcases s with a | e
  · rfl
  · exact Structure.replaceValues_unchanged f (.block e) (by simpa using hs)

end Source

namespace Module

/-- A file as a module has it: changed, with what it held on the disk in front. While the module does not have it, the
disk does. -/
structure Holds (m : Module) (name : String) (held : Body) : Prop where
  onDisk : ((m.disk name).bind parse?).getD {} = held
  inModule : ∀ f, m.file? name = some f → f.changed = true ∧ held.Extends f.body

/-- What a file held does not pass for any block that the module has in it. -/
def Apart (m : Module) (name : String) (held : Body) : Prop :=
  ∀ s ∈ m.blocks, s.fileName = name → s.index? held = none

namespace Holds

variable {m m' : Module} {name : String} {held : Body}

theorem start (h : name ∉ m.fileNames) : m.Holds name (((m.disk name).bind parse?).getD {}) where
  onDisk := rfl
  inModule _ hf := absurd (List.mem_map_of_mem (f := Prod.fst) (mem_of_lookup hf)) h

theorem withRegistry (h : m.Holds name held) (registry : List (String × Snapshot)) :
    Holds { m with registry } name held := ⟨h.onDisk, h.inModule⟩

theorem setFile {other : String} {f : SourceFile} (h : m.Holds name held)
    (hf : other = name → f.changed = true ∧ held.Extends f.body) : (m.setFile other f).Holds name held where
  onDisk := h.onDisk
  inModule g hg := by
    by_cases hname : other = name
    · subst hname
      rw [file?_setFile_self] at hg
      obtain rfl := Option.some.inj hg
      exact hf rfl
    · refine h.inModule g ?_
      rwa [Module.file?, Module.setFile, lookup_insertEntry_of_ne (Ne.symm hname)] at hg

theorem appendStructure (h : m.Holds name held) (other : String) (s : Structure) :
    (m.appendStructure other s).Holds name held := by
  refine h.setFile fun hname => ⟨rfl, ?_⟩
  subst hname
  dsimp only
  refine Body.Extends.pushRoot ?_ s
  unfold fileOrDisk
  cases hfile : m.file? other with
  | none =>
    dsimp only
    rw [h.onDisk]
    exact .refl held
  | some f => exact (h.inModule f hfile).2

/-- A file in which a block that is sought there is not among what it held. -/
theorem behind {address : String} {s : Snapshot} {file : SourceFile} {i : Nat} (h : m.Holds name held)
    (hapart : m.Apart name held) (hsite : Site m address s file i) (hname : s.fileName = name) :
    file.changed = true ∧ held.Extends file.body ∧ held.structures.length ≤ i := by
  subst hname
  obtain ⟨hchanged, hextends⟩ := h.inModule file hsite.stored
  have hmem : s ∈ m.blocks := List.mem_map_of_mem (f := Prod.snd) (mem_of_lookup hsite.found)
  exact ⟨hchanged, hextends, hextends.le_index (hapart s hmem rfl) hsite.placed⟩

theorem setAt {address : String} {s : Snapshot} {file : SourceFile} {i : Nat} (h : m.Holds name held)
    (hapart : m.Apart name held) (hsite : Site m address s file i) (x : Structure) {changed : Bool}
    (hchanged : file.changed = true → changed = true) :
    (m.setFile s.fileName { file with
      body := { file.body with structures := file.body.structures.set i x }, changed }).Holds name held := by
  refine h.setFile fun hname => ?_
  obtain ⟨hfile, hextends, hi⟩ := h.behind hapart hsite hname
  exact ⟨hchanged hfile, hextends.set hi x⟩

theorem updateBlock {address : String} {f : Block → Block} (h : m.Holds name held) (hapart : m.Apart name held)
    (hok : m.updateBlock address f = .ok m') : m'.Holds name held := by
  obtain ⟨s, file, i, old, hsite, -, -, rfl⟩ := updateBlock_eq_ok hok
  unfold rewritten
  dsimp only
  split
  · exact h.setAt hapart hsite _ id
  · exact (h.setAt hapart hsite _ fun _ => rfl).withRegistry _

theorem updateLocal {address : String} {f : Attribute → Attribute} (h : m.Holds name held)
    (hapart : m.Apart name held) (hok : m.updateLocal address f = .ok m') : m'.Holds name held := by
  obtain ⟨s, file, i, label, e, j, old, hsite, -, -, -, -, -, rfl⟩ := updateLocal_eq_ok hok
  unfold revalued
  dsimp only
  split
  · exact h.setAt hapart hsite _ id
  · exact (h.setAt hapart hsite _ fun _ => rfl).withRegistry _

theorem removeBlock {address : String} {removed : Snapshot} (h : m.Holds name held) (hapart : m.Apart name held)
    (hok : m.removeBlock address = .ok (m', removed)) : m'.Holds name held := by
  obtain ⟨file, i, hsite, rfl⟩ := removeBlock_eq_ok hok
  refine (h.setFile fun hname => ?_).withRegistry _
  obtain ⟨-, hextends, hi⟩ := h.behind hapart hsite hname
  exact ⟨rfl, hextends.withoutBlock hi removed⟩

theorem moveBlock {address fileName : String} {moved : Bool} (h : m.Holds name held) (hapart : m.Apart name held)
    (hok : m.moveBlock address fileName = .ok (m', moved)) : m'.Holds name held := by
  rcases moveBlock_eq_ok hok with ⟨rfl, -⟩ | ⟨s, file, i, x, hsite, -, -, -, rfl⟩
  · exact h
  · refine ((h.setFile fun hname => ?_).appendStructure fileName x).withRegistry _
    obtain ⟨-, hextends, hi⟩ := h.behind hapart hsite hname
    exact ⟨rfl, hextends.eraseIdx hi⟩

theorem addBlock {kind : BlockKind} {b : Block} {fileName address : String} (h : m.Holds name held)
    (hok : m.addBlock kind b fileName = .ok (m', address)) : m'.Holds name held := by
  obtain ⟨-, -, rfl⟩ := addBlock_eq_ok hok
  exact (h.appendStructure fileName _).withRegistry _

theorem addLocal {a : Attribute} {fileName address : String} (h : m.Holds name held)
    (hok : m.addLocal a fileName = .ok (m', address)) : m'.Holds name held := by
  obtain ⟨-, -, rfl⟩ := addLocal_eq_ok hok
  exact (h.appendStructure fileName _).withRegistry _

theorem replaceIn {f : Attribute → Except InvalidExpression (Option Expression)} (h : m.Holds name held)
    (hheld : (replaceInBlocks f held).changed = false) (other : String) : (m.replaceIn f other).Holds name held := by
  unfold Module.replaceIn
  cases hfile : m.file? other with
  | none => exact h
  | some file =>
    dsimp only
    unfold replaceBody
    split
    · refine h.setFile fun hname => ?_
      obtain ⟨hchanged, hextends⟩ := h.inModule file (hname ▸ hfile)
      exact ⟨hchanged, hextends.replaceInBlocks hheld⟩
    · refine (h.setFile fun hname => ?_).withRegistry _
      obtain ⟨-, hextends⟩ := h.inModule file (hname ▸ hfile)
      exact ⟨rfl, hextends.replaceInBlocks hheld⟩

theorem ofResult {r : Except ModuleError Module} (h : m.Holds name held)
    (hok : ∀ m', r = .ok m' → m'.Holds name held) : (Applied.ofResult m r).module.Holds name held := by
  cases r with
  | error e => exact h
  | ok m' => exact hok m' rfl

/-- The first part of a result is the module after the operation. -/
theorem ofResult_map {α : Type} {r : Except ModuleError (Module × α)} (h : m.Holds name held)
    (hok : ∀ m' x, r = .ok (m', x) → m'.Holds name held) :
    (Applied.ofResult m (r.map (·.1))).module.Holds name held := by
  refine h.ofResult fun m' hr => ?_
  obtain ⟨⟨m'', x⟩, hresult, rfl⟩ := map_eq_ok hr
  exact hok _ x hresult

end Holds

/-- A changed block keeps its file, kind and labels. -/
theorem Apart.updateBlock {m m' : Module} {name address : String} {held : Body} {f : Block → Block}
    (h : m.Apart name held) (hok : m.updateBlock address f = .ok m') : m'.Apart name held := by
  obtain ⟨s, file, i, old, hsite, -, -, rfl⟩ := updateBlock_eq_ok hok
  have hmem : s ∈ m.blocks := List.mem_map_of_mem (f := Prod.snd) (mem_of_lookup hsite.found)
  unfold rewritten
  dsimp only
  split
  · exact h
  · intro s' hs'
    obtain ⟨e, he, rfl⟩ := List.mem_map.mp hs'
    rcases mem_insertEntry he with rfl | he
    · intro hname
      rw [← h s hmem hname]
      exact index?_congr rfl rfl held
    · exact h e.2 (List.mem_map_of_mem he)

end Module

/-- What every step of a walk over a list keeps, the walk keeps. -/
theorem Applied.forAll_keeps {α : Type} {p : Module → Prop} {f : α → Module → Applied}
    (hf : ∀ item m, p m → p (f item m).module) (items : List α) {m : Module} (hm : p m) :
    p (Applied.forAll m items f).module := by
  induction items generalizing m with
  | nil => exact hm
  | cons item rest ih =>
    rw [Applied.forAll_cons]
    split
    · exact hf item m hm
    · exact ih (hf item m hm)

namespace Transform

/-- A replacement finds nothing in a body. Other transforms change the blocks of the module only. -/
def Spares (held : Body) : Transform → Prop
  | .replaceText regex replacement => (replaceInBlocks (replacedValue regex replacement) held).changed = false
  | _ => True

theorem spares_of_name {t : Transform} {held : Body} (h : t.name ≠ "regex_replace_expression") : t.Spares held := by
  cases t with
  | replaceText regex replacement => exact absurd rfl h
  | _ => trivial

/-- A transform keeps what a file held in front of what is appended to it. -/
theorem holds (t : Transform) {m : Module} {name : String} {held : Body} (h : m.Holds name held)
    (hapart : m.Apart name held) (hspares : t.Spares held) : (t.apply m).module.Holds name held := by
  have hupdate : ∀ (address : String) (f : Block → Block),
      (Applied.ofResult m (m.updateBlock address f)).module.Holds name held :=
    fun address f => h.ofResult fun m' hok => h.updateBlock hapart hok
  cases t with
  | updateInPlace target patch => exact hupdate target _
  | removeElements target paths => exact hupdate target _
  | removeNestedBlocks target paths => exact hupdate target _
  | appendBody target body => exact hupdate target _
  | renameElements rules =>
    have hstep : ∀ (r : RenameRule) (address : String) (m : Module), m.Holds name held ∧ m.Apart name held →
        (r.step address m).module.Holds name held ∧ (r.step address m).module.Apart name held := by
      intro r address m hm
      unfold RenameRule.step
      cases hok : m.updateBlock address fun b =>
          { b with body := atAllPaths (renameElement r.newName r.skipIfExists) r.path b.body } with
      | error e => exact hm
      | ok m' => exact ⟨hm.1.updateBlock hm.2 hok, hm.2.updateBlock hok⟩
    have hrule : ∀ (r : RenameRule) (m : Module), m.Holds name held ∧ m.Apart name held →
        (r.apply m).module.Holds name held ∧ (r.apply m).module.Apart name held :=
      fun r m hm => Applied.forAll_keeps (f := r.step) (hstep r) _ hm
    exact (Applied.forAll_keeps hrule rules ⟨h, hapart⟩).1
  | removeBlock target => exact h.ofResult_map fun m' _ hok => h.removeBlock hapart hok
  | moveBlock target fileName => exact h.ofResult_map fun m' _ hok => h.moveBlock hapart hok
  | replaceText regex replacement =>
    have hfold : ∀ (names : List String) {m : Module}, m.Holds name held →
        (names.foldl (Module.replaceIn (replacedValue regex replacement)) m).Holds name held := by
      intro names
      induction names with
      | nil => exact fun hm => hm
      | cons other rest ih => exact fun hm => ih (hm.replaceIn hspares other)
    simp only [apply, Module.replaceValues_fst]
    exact hfold m.fileNames h
  | ensureLocal label fileName value =>
    simp only [apply]
    cases value.attribute label with
    | error e => exact h
    | ok a =>
      dsimp only
      split
      · exact h.ofResult fun m' hok => h.updateLocal hapart hok
      · exact h.ofResult_map fun m' _ hok => h.addLocal hok
  | newBlock kind? labels fileName body =>
    cases kind? with
    | none =>
      exact Applied.forAll_keeps (p := fun m => m.Holds name held)
        (fun a m hm => hm.ofResult_map fun m' _ hok => hm.addLocal hok) _ h
    | some kind => exact h.ofResult_map fun m' _ hok => h.addBlock hok

/-- None of the transforms reaches what a file held, each in the module that those before it leave. -/
def Spared (name : String) (held : Body) : List Transform → Module → Prop
  | [], _ => True
  | t :: rest, m => m.Apart name held ∧ t.Spares held ∧ Spared name held rest (t.apply m).module

theorem holds_applyAll {ts : List Transform} {m : Module} {name : String} {held : Body} (h : m.Holds name held)
    (hspared : Spared name held ts m) : (applyAll ts m).Holds name held := by
  induction ts generalizing m with
  | nil => exact h
  | cons t rest ih => exact ih (t.holds h hspared.1 hspared.2.1) hspared.2.2

end Transform

end Terrasmith
