import Terrasmith.Proofs.Operations
import Terrasmith.Transform.Decode

/-!
What becomes of raw content. It reaches a patch by a merge into an empty body, so it is copied one for one exactly
if no structure of it finds a slot among the ones before it.
-/
namespace Terrasmith.Source

/-- What a structure says, without the blanks and comments around it. -/
inductive Outline where
  | attribute (key : String) (value : Written)
  | block (ident : String) (labels : List (String × Bool)) (inside : List Outline)

mutual

def Structure.outline : Structure → Outline
  | .attribute a => .attribute a.key a.value
  | .block ⟨_, ident, _, labels, ⟨structures, _, _, _, _⟩, _, _⟩ =>
    .block ident (labels.map fun l => (l.text, l.quoted)) (outlines structures)

def outlines : List Structure → List Outline
  | [] => []
  | s :: rest => s.outline :: outlines rest

end

theorem outlines_eq_map (structures : List Structure) : outlines structures = structures.map Structure.outline := by
  induction structures with
  | nil => rfl
  | cons s rest ih => rw [outlines, List.map_cons, ih]

@[simp] theorem outline_unindent (s : Structure) : s.unindent.outline = s.outline := by
  unfold Structure.unindent
  split
  · rcases s with a | b
    · rfl
    · rcases b with ⟨lead, ident, identTrail, labels, body, trail, span?⟩
      rcases body with ⟨structures, head, tail, oneLine, openEnd⟩
      rfl
  · rfl

/-- Structures of which none, given those before it, has a slot: no key is repeated, and the first of the earlier
blocks that accept a block has no content. -/
def StandApart : (before : List Structure) → List Structure → Prop
  | _, [] => True
  | before, s :: rest => Body.slot? { structures := before } s = none ∧ StandApart (before ++ [s]) rest

namespace Body

theorem slot?_map_unindent (b : Body) (before : List Structure) (h : b.structures = before.map Structure.unindent)
    (s : Structure) : b.slot? s = Body.slot? { structures := before } s := by
  apply slot?_sameHeader
  rw [h, List.forall₂_map_left_iff]
  exact List.forall₂_same.mpr fun x _ => sameHeader_unindent x

/-- Structures that stand apart are appended one after the other. -/
theorem mergeStructures_of_standApart {b : Body} (before : List Structure) {patch : List Structure}
    (hb : b.structures = before.map Structure.unindent) (h : StandApart before patch) :
    (b.mergeStructures patch).structures = (before ++ patch).map Structure.unindent := by
  induction patch generalizing b before with
  | nil => simpa using hb
  | cons s rest ih =>
    obtain ⟨hs, hrest⟩ := h
    have hslot : b.slot? s = none := (slot?_map_unindent b before hb s).trans hs
    have hb' : (b.mergeStructure s).structures = (before ++ [s]).map Structure.unindent := by
      simp [mergeStructure_of_no_slot hslot, hb]
    rw [mergeStructures_cons, ih (before ++ [s]) hb' hrest]
    simp

/-- Only structures that stand apart are all appended: each of the others is one structure less. -/
theorem standApart_of_length {b : Body} (before : List Structure) {patch : List Structure}
    (hb : b.structures = before.map Structure.unindent)
    (h : (b.mergeStructures patch).structures.length = before.length + patch.length) :
    StandApart before patch := by
  induction patch generalizing b before with
  | nil => trivial
  | cons s rest ih =>
    have hlen : b.structures.length = before.length := by simp [hb]
    rw [mergeStructures_cons, List.length_cons] at h
    cases hslot : b.slot? s with
    | some i =>
      have := length_mergeStructures_le (b.mergeStructure s) rest
      rw [length_mergeStructure_of_slot hslot] at this
      omega
    | none =>
      have hb' : (b.mergeStructure s).structures = (before ++ [s]).map Structure.unindent := by
        simp [mergeStructure_of_no_slot hslot, hb]
      refine ⟨(slot?_map_unindent b before hb s).symm.trans hslot, ih _ hb' ?_⟩
      simp only [List.length_append, List.length_singleton]
      omega

/-- Merged into an empty body, structures are copied exactly if they stand apart. -/
theorem outlines_merge_empty_iff (patch : List Structure) :
    outlines (Body.mergeStructures {} patch).structures = outlines patch ↔ StandApart [] patch := by
  constructor
  · intro h
    apply standApart_of_length (b := {}) [] rfl
    have := congrArg List.length h
    simpa [outlines_eq_map] using this
  · intro h
    rw [mergeStructures_of_standApart (b := {}) [] rfl h]
    simp [outlines_eq_map, Function.comp_def]

end Body

end Terrasmith.Source

namespace Terrasmith

open Source

/-- The patch of a declaration that holds one `asraw` block and nothing else. -/
theorem buildPatch_raw (scope : Scope) {body : Body} {raw : Block} (hbody : body.structures = [.block raw])
    (hraw : raw.ident = "asraw") : buildPatch scope body = .ok (Body.mergeStructures {} raw.body.structures) := by
  rcases raw with ⟨lead, ident, identTrail, labels, ⟨structures, head, tail, oneLine, openEnd⟩, trail, span?⟩
  obtain rfl : ident = "asraw" := hraw
  simp [buildPatch, hbody, patchStructures, patchStructure, bind, Except.bind]

/-- A declaration of a new block that holds, besides its own fields, nothing but the block `raw`. -/
structure DeclaresRaw (scope : Scope) (body : Body) (kind : BlockKind) (labels : List String) (fileName : String)
    (raw : Block) : Prop where
  type : Fields.string ⟨"new_block", body, scope⟩ "new_block_type" = .ok kind.name
  notLocal : kind ≠ .local
  labelled : if Fields.has ⟨"new_block", body, scope⟩ "labels" then
    Fields.strings ⟨"new_block", body, scope⟩ "labels" = .ok labels else labels = []
  count : labels.length = kind.labelCount
  file : Fields.string ⟨"new_block", body, scope⟩ "filename" = .ok fileName
  rest : (["new_block_type", "labels", "filename"].foldl withoutAttribute body).structures = [.block raw]
  isRaw : raw.ident = "asraw"

theorem newBlockKind_name (f : Fields) {kind : BlockKind} (h : kind ≠ .local) :
    newBlockKind f kind.name = .ok (some kind) := by
  cases kind <;> first | rfl | exact absurd rfl h

theorem DeclaresRaw.decode {scope : Scope} {body : Body} {kind : BlockKind} {labels : List String}
    {fileName : String} {raw : Block} (h : DeclaresRaw scope body kind labels fileName raw) (m : Module) :
    Transform.decode "new_block" body scope m =
      .ok (.newBlock (some kind) labels fileName (Body.mergeStructures {} raw.body.structures)) := by
  have hpatch : Fields.patch ⟨"new_block", body, scope⟩
      (["new_block_type", "labels", "filename"].foldl withoutAttribute body) =
      .ok (Body.mergeStructures {} raw.body.structures) := by
    simp only [Fields.patch, buildPatch_raw scope h.rest h.isRaw]
  have hcount : ¬ labels.length ≠ ((some kind).map BlockKind.labelCount).getD 0 := by
    simpa using h.count
  have hlabels := h.labelled
  unfold Transform.decode
  simp only [Transform.decodeNewBlock, h.type, newBlockKind_name _ h.notLocal, hpatch, h.file,
    bind, Except.bind, pure, Except.pure]
  split
  · rw [if_pos ‹_›] at hlabels
    simp only [hlabels, if_neg hcount]
  · rw [if_neg ‹_›] at hlabels
    subst hlabels
    rw [if_neg hcount]

/-- A block appended to a file is the last structure of it, with another margin. -/
theorem appendStructure_block (m : Module) (name : String) (b : Block) :
    ∃ file lead, (m.appendStructure name (.block b)).file? name = some file ∧
      file.body.structures.getLast? = some (.block { b with lead }) := by
  refine ⟨_, if (m.fileOrDisk name).body.structures.isEmpty then Body.dropMargin b.lead
    else "\n" ++ Body.dropMargin b.lead, Module.file?_setFile_self _ _ _, ?_⟩
  simp only [Body.pushRoot, Structure.withLead, Structure.lead, Body.push, List.getLast?_concat]

/-- Raw content is copied one for one into a patch, and into a new block, exactly if its structures stand apart;
both come about whatever it holds. -/
theorem raw_copied_iff_standApart (raw : Block) (hraw : raw.ident = "asraw") :
    (∀ (scope : Scope) (body : Body), body.structures = [.block raw] →
      ∃ patch, buildPatch scope body = .ok patch ∧
        (outlines patch.structures = outlines raw.body.structures ↔ StandApart [] raw.body.structures)) ∧
    (∀ (scope : Scope) (body : Body) (kind : BlockKind) (labels : List String) (fileName : String) (m : Module),
      DeclaresRaw scope body kind labels fileName raw → m.contains (kind.address labels) = false →
      ∃ t file created, Transform.decode "new_block" body scope m = .ok t ∧ (t.apply m).error? = none ∧
        (t.apply m).module.file? fileName = some file ∧
        file.body.structures.getLast? = some (.block created) ∧
        created.ident = kind.name ∧ created.labelTexts = labels ∧
        (outlines created.body.structures = outlines raw.body.structures ↔
          StandApart [] raw.body.structures)) := by
  constructor
  · intro scope body hbody
    exact ⟨_, buildPatch_raw scope hbody hraw, Body.outlines_merge_empty_iff _⟩
  · intro scope body kind labels fileName m h hfree
    let patch := Body.mergeStructures {} raw.body.structures
    let b : Block := { ident := kind.name, labels := labels.map fun text => { text }
                       body := { patch with oneLine := false } }
    have htexts : b.labelTexts = labels := by simp [b, Block.labelTexts, Function.comp_def]
    have hadd : m.addBlock kind b fileName = .ok
        ((m.appendStructure fileName (.block b)).setBlock (kind.address labels)
          (.ofNewBlock kind b fileName m.origin), kind.address labels) := by
      simp only [Module.addBlock, htexts, hfree, Bool.false_eq_true, if_false]
    obtain ⟨file, lead, hfile, hlast⟩ := appendStructure_block m fileName b
    refine ⟨_, file, { b with lead }, h.decode m, ?_, ?_, hlast, rfl, htexts, Body.outlines_merge_empty_iff _⟩
    · simp only [Transform.apply]
      rw [show m.addBlock kind _ fileName = _ from hadd]
      rfl
    · simp only [Transform.apply]
      rw [show m.addBlock kind _ fileName = _ from hadd]
      exact hfile

/-- A block with labels and one attribute. -/
def smallBlock (ident : String) (labels : List String) (key : String) (n : Nat) : Structure :=
  .block { ident, labels := labels.map fun text => { text }
           body := { structures := [.attribute { key, value := .bare (.number (.int n) (Number.natText n)) }] } }

def rawBlock (structures : List Structure) : Block := { ident := "asraw", body := { structures } }

/-- The declaration of an output with raw content. -/
def outputDeclaration (raw : Block) : Body :=
  { structures := [.attribute { key := "new_block_type", value := .bare (.string "output") },
      .attribute { key := "labels", value := .bare (.array [.bare (.string "o")] false "") },
      .attribute { key := "filename", value := .bare (.string "main.tf") }, .block raw] }

theorem outputDeclaration_declaresRaw (structures : List Structure) :
    DeclaresRaw [] (outputDeclaration (rawBlock structures)) .output ["o"] "main.tf" (rawBlock structures) where
  type := rfl
  notLocal := by decide
  labelled := rfl
  count := rfl
  file := rfl
  rest := rfl
  isRaw := rfl

/-- Siblings that differ in their labels, and a block beside a dynamic one without a content, are copied. -/
theorem raw_copied_labelled :
    let structures := [smallBlock "dynamic" ["a"] "for_each" 1, smallBlock "a" [] "x" 2,
      smallBlock "b" ["one"] "x" 3, smallBlock "b" ["two"] "x" 4]
    (∃ patch, buildPatch [] { structures := [.block (rawBlock structures)] } = .ok patch ∧
      outlines patch.structures = outlines structures) ∧
    ∃ t file created, Transform.decode "new_block" (outputDeclaration (rawBlock structures)) []
        { origin := default } = .ok t ∧ (t.apply { origin := default }).error? = none ∧
      (t.apply { origin := default }).module.file? "main.tf" = some file ∧
      file.body.structures.getLast? = some (.block created) ∧
      created.ident = "output" ∧ created.labelTexts = ["o"] ∧
      outlines created.body.structures = outlines structures := by
  intro structures
  have happart : StandApart [] structures := ⟨rfl, rfl, rfl, rfl, trivial⟩
  have h := raw_copied_iff_standApart (rawBlock structures) rfl
  constructor
  · obtain ⟨patch, hpatch, hiff⟩ := h.1 [] { structures := [.block (rawBlock structures)] } rfl
    exact ⟨patch, hpatch, hiff.mpr happart⟩
  · obtain ⟨t, file, created, hdecode, herror, hfile, hlast, hident, hlabels, hiff⟩ :=
      h.2 [] (outputDeclaration (rawBlock structures)) .output ["o"] "main.tf" { origin := default }
        (outputDeclaration_declaresRaw structures) rfl
    exact ⟨t, file, created, hdecode, herror, hfile, hlast, hident, hlabels, hiff.mpr happart⟩

/-- Two blocks of one type become one. -/
theorem raw_siblings_become_one :
    ∃ patch, buildPatch [] { structures := [.block (rawBlock [smallBlock "b" [] "x" 1, smallBlock "b" [] "y" 2])] } =
        .ok patch ∧
      outlines patch.structures ≠ outlines [smallBlock "b" [] "x" 1, smallBlock "b" [] "y" 2] := by
  refine ⟨_, rfl, ?_⟩
  intro h
  have hlength := congrArg List.length h
  revert hlength
  decide

end Terrasmith
