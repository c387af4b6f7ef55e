import Terrasmith.Proofs.Nodes
import Terrasmith.Proofs.Outcomes
import Terrasmith.Run.Basic

/-!
What declarations evaluate. Their instances, queries and transforms are made of the values of the attributes of their
bodies outside of `asraw` blocks, so they are the same in two scopes if these values are.
-/
namespace Terrasmith

open Source

mutual

/-- The values of the attributes of a structure, at any depth outside of `asraw` blocks. -/
def Source.Structure.expressions : Structure → List Expr
  | .attribute a => [a.value.expr]
  | .block ⟨_, ident, _, _, ⟨structures, _, _, _, _⟩, _, _⟩ =>
    if ident = "asraw" then [] else structuresExpressions structures

def Source.structuresExpressions : List Structure → List Expr
  | [] => []
  | s :: rest => s.expressions ++ structuresExpressions rest

end

@[simp] theorem Source.structuresPaths_append (structures more : List Structure) :
    structuresPaths (structures ++ more) = structuresPaths structures ++ structuresPaths more := by
  induction structures with
  | nil => rfl
  | cons s rest ih => rw [List.cons_append, structuresPaths, structuresPaths, ih, List.append_assoc]

mutual

theorem Source.Structure.paths_withoutRaw : (s : Structure) →
    structuresPaths s.withoutRaw?.toList = s.expressions.flatMap Expr.references
  | .attribute _ => rfl
  | .block ⟨_, ident, _, _, ⟨structures, _, _, _, _⟩, _, _⟩ => by
    rw [Structure.withoutRaw?, Structure.expressions]
    split
    · rfl
    · exact (List.append_nil _).trans (structuresReferences_eq structures)

theorem Source.structuresReferences_eq : (structures : List Structure) →
    structuresReferences structures = (structuresExpressions structures).flatMap Expr.references
  | [] => rfl
  | s :: rest => by
    rw [structuresReferences, withoutRaw, structuresPaths_append, structuresExpressions, List.flatMap_append,
      s.paths_withoutRaw, ← structuresReferences_eq rest, structuresReferences]

end

theorem Source.mem_structuresExpressions {structures : List Structure} {s : Structure} (h : s ∈ structures) :
    s.expressions ⊆ structuresExpressions structures := by
  induction structures with
  | nil => cases h
  | cons first rest ih =>
    rw [structuresExpressions]
    rcases List.mem_cons.mp h with rfl | h
    · exact List.subset_append_left _ _
    · exact List.subset_append_of_subset_right _ (ih h)

theorem Source.structuresExpressions_subset {structures structures' : List Structure} (h : structures ⊆ structures') :
    structuresExpressions structures ⊆ structuresExpressions structures' := by
  induction structures with
  | nil => exact List.nil_subset _
  | cons first rest ih =>
    rw [List.cons_subset] at h
    rw [structuresExpressions]
    exact List.append_subset.mpr ⟨mem_structuresExpressions h.1, ih h.2⟩

/-- Whether all that structures evaluate has the same value, or the same failure, in two scopes. -/
def SameValues (s₁ s₂ : Scope) (structures : List Structure) : Prop :=
  ∀ e ∈ structuresExpressions structures, e.evaluate s₁ = e.evaluate s₂

variable {s₁ s₂ : Scope}

namespace SameValues

theorem mono {structures structures' : List Structure} (h : SameValues s₁ s₂ structures')
    (hsub : structures ⊆ structures') : SameValues s₁ s₂ structures :=
  fun e he => h e (structuresExpressions_subset hsub he)

theorem of_cons {s : Structure} {rest : List Structure} (h : SameValues s₁ s₂ (s :: rest)) :
    (∀ e ∈ s.expressions, e.evaluate s₁ = e.evaluate s₂) ∧ SameValues s₁ s₂ rest :=
  List.forall_mem_append.mp h

theorem of_attribute {body : Body} (h : SameValues s₁ s₂ body.structures) {a : Attribute} (ha : a ∈ body.attributes) :
    a.value.expr.evaluate s₁ = a.value.expr.evaluate s₂ := by
  obtain ⟨s, hs, hattribute⟩ := List.mem_filterMap.mp ha
  cases s with
  | block b => cases hattribute
  | _ =>
    cases hattribute
    exact h _ (mem_structuresExpressions hs List.mem_cons_self)

theorem of_block {body : Body} (h : SameValues s₁ s₂ body.structures) {b : Block} (hb : b ∈ body.blocks)
    (hident : b.ident ≠ "asraw") : SameValues s₁ s₂ b.body.structures := by
  obtain ⟨s, hs, hblock⟩ := List.mem_filterMap.mp hb
  cases s with
  | block b =>
    cases hblock
    refine fun e he => h e (mem_structuresExpressions hs ?_)
    obtain ⟨_, ident, _, _, ⟨structures, _, _, _, _⟩, _, _⟩ := b
    rw [Structure.expressions, if_neg hident]
    exact he
  | _ => cases hblock

end SameValues

/-! Fields, queries and transforms read from the same values -/

namespace Fields

variable {type : String} {body : Body}

theorem value?_same (h : SameValues s₁ s₂ body.structures) (name : String) :
    value? ⟨type, body, s₁⟩ name = value? ⟨type, body, s₂⟩ name := by
  unfold value?
  dsimp only
  cases ha : body.attribute? name with
  | none => rfl
  | some a =>
    dsimp only
    rw [h.of_attribute (Snapshot.attribute?_mem ha).1]

theorem string?_same (h : SameValues s₁ s₂ body.structures) (name : String) :
    string? ⟨type, body, s₁⟩ name = string? ⟨type, body, s₂⟩ name := by
  simp only [string?, value?_same h]

theorem string_same (h : SameValues s₁ s₂ body.structures) (name : String) :
    string ⟨type, body, s₁⟩ name = string ⟨type, body, s₂⟩ name := by
  simp only [string, string?_same h]

theorem bool_same (h : SameValues s₁ s₂ body.structures) (name : String) (default : Bool) :
    bool ⟨type, body, s₁⟩ name default = bool ⟨type, body, s₂⟩ name default := by
  simp only [bool, value?_same h]

theorem strings_same (h : SameValues s₁ s₂ body.structures) (name : String) :
    strings ⟨type, body, s₁⟩ name = strings ⟨type, body, s₂⟩ name := by
  simp only [strings, value?_same h]

theorem target_same (h : SameValues s₁ s₂ body.structures) (m : Module) :
    target ⟨type, body, s₁⟩ m = target ⟨type, body, s₂⟩ m := by
  simp only [target, string_same h]

theorem identifier_same (h : SameValues s₁ s₂ body.structures) (name : String) :
    identifier ⟨type, body, s₁⟩ name = identifier ⟨type, body, s₂⟩ name := by
  simp only [identifier, string_same h]

theorem paths_same (h : SameValues s₁ s₂ body.structures) : paths ⟨type, body, s₁⟩ = paths ⟨type, body, s₂⟩ := by
  simp only [paths, strings_same h]

theorem path_same (h : SameValues s₁ s₂ body.structures) (name : String) :
    path ⟨type, body, s₁⟩ name = path ⟨type, body, s₂⟩ name := by
  simp only [path, value?_same h, strings_same h]

end Fields

theorem evaluatedAttribute_same {a : Attribute} (h : a.value.expr.evaluate s₁ = a.value.expr.evaluate s₂) :
    evaluatedAttribute s₁ a = evaluatedAttribute s₂ a := by
  rw [evaluatedAttribute, evaluatedAttribute, h]

mutual

theorem patchStructure_same : (s : Structure) → (∀ e ∈ s.expressions, e.evaluate s₁ = e.evaluate s₂) →
    ∀ top patch, patchStructure s₁ top patch s = patchStructure s₂ top patch s
  | .attribute a, h, _, _ => by
    rw [patchStructure, patchStructure, evaluatedAttribute_same (h _ List.mem_cons_self)]
  | .block ⟨_, ident, _, _, ⟨structures, _, _, _, _⟩, _, _⟩, h, _, _ => by
    rw [Structure.expressions] at h
    rw [patchStructure, patchStructure]
    split
    · rfl
    · rename_i hident
      rw [if_neg hident] at h
      simp only [patchStructures_same structures h]
termination_by structural x => x

theorem patchStructures_same : (structures : List Structure) → SameValues s₁ s₂ structures →
    ∀ top patch, patchStructures s₁ top patch structures = patchStructures s₂ top patch structures
  | [], _, _, _ => rfl
  | s :: rest, h, _, _ => by
    simp only [patchStructures, patchStructure_same s h.of_cons.1, patchStructures_same rest h.of_cons.2]
termination_by structural x => x

end

theorem Fields.patch_same {type : String} {body patched : Body} (h : SameValues s₁ s₂ patched.structures) :
    Fields.patch ⟨type, body, s₁⟩ patched = Fields.patch ⟨type, body, s₂⟩ patched := by
  simp only [Fields.patch, buildPatch, patchStructures_same patched.structures h]

theorem RenameRule.decode_same {type : String} {body : Body} (h : SameValues s₁ s₂ body.structures) :
    RenameRule.decode ⟨type, body, s₁⟩ = RenameRule.decode ⟨type, body, s₂⟩ := by
  simp only [RenameRule.decode, Fields.string_same h, Fields.path_same h, Fields.identifier_same h,
    Fields.bool_same h, Fields.conflict]

theorem LocalValue.decode_same {type : String} {body : Body} (h : SameValues s₁ s₂ body.structures) :
    LocalValue.decode ⟨type, body, s₁⟩ = LocalValue.decode ⟨type, body, s₂⟩ := by
  simp only [LocalValue.decode, Fields.string?_same h, Fields.blocks, Fields.conflict]

theorem withoutAttribute_subset (body : Body) (name : String) :
    (withoutAttribute body name).structures ⊆ body.structures := by
  unfold withoutAttribute
  split
  · exact List.eraseIdx_subset
  · exact List.Subset.refl _

theorem foldl_withoutAttribute_subset (names : List String) (body : Body) :
    (names.foldl withoutAttribute body).structures ⊆ body.structures := by
  induction names generalizing body with
  | nil => exact List.Subset.refl _
  | cons name rest ih => exact List.Subset.trans (ih (withoutAttribute body name)) (withoutAttribute_subset body name)

namespace Transform

variable {type : String} {body : Body}

theorem decodeNewBlock_same (h : SameValues s₁ s₂ body.structures) :
    decodeNewBlock ⟨type, body, s₁⟩ = decodeNewBlock ⟨type, body, s₂⟩ := by
  have hpatch := h.mono (foldl_withoutAttribute_subset ["new_block_type", "labels", "filename"] body)
  simp only [decodeNewBlock, newBlockKind, Fields.string_same h, Fields.strings_same h, Fields.has, Fields.conflict,
    Fields.patch_same hpatch]
  rfl

theorem renames_same (h : SameValues s₁ s₂ body.structures) :
    ((Fields.blocks ⟨type, body, s₁⟩ "rename").mapM fun b => RenameRule.decode ⟨type, b.body, s₁⟩) =
      (Fields.blocks ⟨type, body, s₂⟩ "rename").mapM fun b => RenameRule.decode ⟨type, b.body, s₂⟩ := by
  refine mapM_congr_of_mem fun b hb => RenameRule.decode_same ?_
  obtain ⟨hb, hident⟩ : b ∈ body.blocks ∧ b.ident = "rename" := by simpa [Fields.blocks] using hb
  exact h.of_block hb (by simp [hident])

/-- A declaration asks for the same transform if its attributes have the same values. -/
theorem decode_same (h : SameValues s₁ s₂ body.structures) (m : Module) :
    decode type body s₁ m = decode type body s₂ m := by
  unfold decode
  simp only [Fields.target_same h, Fields.patch_same h, renames_same h, Fields.paths_same h,
    Fields.string_same h, Fields.identifier_same h, LocalValue.decode_same h, decodeNewBlock_same h, Fields.conflict]

end Transform

namespace Query

variable {type : String} {body : Body}

theorem decode_same (h : SameValues s₁ s₂ body.structures) : decode type body s₁ = decode type body s₂ := by
  unfold decode
  simp only [BlockFilter.decode, Fields.string?_same h, Fields.string_same h, Fields.bool_same h]

theorem inputs_same (h : SameValues s₁ s₂ body.structures) : inputs body s₁ = inputs body s₂ := by
  refine mapM_congr_of_mem fun a ha => ?_
  rw [h.of_attribute (List.mem_of_mem_filter ha)]

/-- A query has the same value if its attributes have. -/
theorem evaluate_same (h : SameValues s₁ s₂ body.structures) (m : Module) (tool? : Option Provider.Tool) :
    evaluate m tool? type body s₁ = evaluate m tool? type body s₂ := by
  rw [evaluate, evaluate, decode_same h, inputs_same h]

end Query

theorem instances_same {d : Declaration} (h : SameValues s₁ s₂ d.body.structures) : instances d s₁ = instances d s₂ := by
  unfold instances
  cases ha : d.body.attribute? "for_each" with
  | none => rfl
  | some a =>
    dsimp only
    rw [h.of_attribute (Snapshot.attribute?_mem ha).1]

end Terrasmith
