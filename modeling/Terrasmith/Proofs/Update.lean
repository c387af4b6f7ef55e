import Mathlib.Logic.Function.Iterate
import Terrasmith.Proofs.Operations
import Terrasmith.Proofs.Tidy
import Terrasmith.Transform.Basic

/-!
Updates in place that are applied again. Where the body of the target takes up the patch for good, the first
application does all there is to do.
-/
namespace Terrasmith

open Source

theorem updateInPlace_apply_again {m : Module} {target : String} {patch : Body}
    (h : ∀ b, m.written? target = some b → b.body.ReceivesAll patch.structures) :
    (Transform.updateInPlace target patch).apply ((Transform.updateInPlace target patch).apply m).module =
      (Transform.updateInPlace target patch).apply m := by
  cases hresult : m.updateBlock target fun b => { b with body := b.body.merge patch } with
  | error e => simp only [Transform.apply, hresult, Applied.ofResult]
  | ok m' =>
    have hagain := Module.updateBlock_updateBlock hresult (fun b => ⟨rfl, rfl⟩)
      (fun b hb => by simp only [Body.merge_merge (h b hb)])
    simp only [Transform.apply, hresult, Applied.ofResult, hagain]

/-- A patch sets attributes once, whatever it holds. If a body takes it up for good, as every body with filled
dynamic blocks does with a tidy patch, then merging it again changes nothing, and every further application of an
update with it gives what the first one gave. -/
theorem update_idempotent (patch : Body) :
    (∀ d : Body, ((d.merge patch).merge patch).attributes = (d.merge patch).attributes) ∧
    (∀ d : Body, d.ReceivesAll patch.structures → (d.merge patch).merge patch = d.merge patch) ∧
    (∀ d : Body, AllFilled d.structures → AllTidy patch.structures → d.ReceivesAll patch.structures) ∧
    (∀ (m : Module) (target : String),
      (∀ b, m.written? target = some b → b.body.ReceivesAll patch.structures) →
      ∀ n, (Transform.updateInPlace target patch).apply
          ((fun m => ((Transform.updateInPlace target patch).apply m).module)^[n] m) =
        (Transform.updateInPlace target patch).apply m) := by
  refine ⟨fun d => Body.attributes_merge_merge d patch, fun d h => Body.merge_merge h,
    fun d hd hp => (receivesAll_of_tidy d hd patch.structures hp).1, ?_⟩
  intro m target h n
  induction n with
  | zero => rfl
  | succ n ih => rw [Function.iterate_succ_apply', ih, updateInPlace_apply_again h]

/-- An attribute with a number. -/
def setting (key : String) (n : Nat) : Structure :=
  .attribute { key, value := .bare (.number (.int n) (Number.natText n)) }

def plainBlock (ident : String) (structures : List Structure) : Structure :=
  .block { ident, body := { structures } }

def dynamicBlock (type : String) (structures : List Structure) : Structure :=
  .block { ident := "dynamic", labels := [{ text := type }], body := { structures } }

/-- The body of a resource with a dynamic block, and a patch for the blocks that it stands for. -/
def dynamicTarget : Body :=
  { structures := [setting "x" 1, dynamicBlock "b" [setting "for_each" 0, plainBlock "content" [setting "y" 1]]] }

def contentPatch : Body :=
  { structures := [setting "x" 2, plainBlock "b" [setting "y" 3, plainBlock "c" []], plainBlock "b" [setting "y" 4],
      plainBlock "e" [plainBlock "c" [setting "z" 5]]] }

def dynamicModule : Module :=
  let b : Block := { ident := "resource", labels := [{ text := "t" }, { text := "r" }], body := dynamicTarget }
  { origin := default
    files := [("main.tf", { stored? := none, body := { structures := [.block b] } })]
    registry := [("resource.t.r", .ofNewBlock .resource b "main.tf" default)] }

theorem dynamicTarget_filled : AllFilled dynamicTarget.structures := by
  simp only [dynamicTarget, setting, plainBlock, dynamicBlock, AllFilled, Structure.Filled]
  exact ⟨trivial, ⟨rfl, trivial, ⟨rfl, trivial, trivial⟩, trivial⟩, trivial⟩

theorem contentPatch_tidy : AllTidy contentPatch.structures := by
  simp [contentPatch, AllTidy, Structure.Tidy, setting, plainBlock]

/-- Blocks that go to one slot, and one that is appended, are merged for good. -/
theorem update_idempotent_dynamic :
    (dynamicTarget.merge contentPatch).merge contentPatch = dynamicTarget.merge contentPatch ∧
    ∀ n, (Transform.updateInPlace "resource.t.r" contentPatch).apply
        ((fun m => ((Transform.updateInPlace "resource.t.r" contentPatch).apply m).module)^[n] dynamicModule) =
      (Transform.updateInPlace "resource.t.r" contentPatch).apply dynamicModule := by
  obtain ⟨-, hmerge, htidy, happly⟩ := update_idempotent contentPatch
  have hreceives := htidy dynamicTarget dynamicTarget_filled contentPatch_tidy
  refine ⟨hmerge dynamicTarget hreceives, happly dynamicModule "resource.t.r" ?_⟩
  intro b hb
  obtain rfl : ({ ident := "resource", labels := [{ text := "t" }, { text := "r" }],
                  body := dynamicTarget } : Block) = b := by
    have hwritten : dynamicModule.written? "resource.t.r" =
        some { ident := "resource", labels := [{ text := "t" }, { text := "r" }], body := dynamicTarget } := rfl
    rw [hwritten] at hb
    exact Option.some.inj hb
  exact hreceives

/-- A block whose inner blocks are alike is appended with both of them, and merging it again puts the second into
the first. -/
theorem alike_siblings_merge_again :
    let patch : Body :=
      { structures := [plainBlock "a" [plainBlock "b" [setting "x" 1], plainBlock "b" [setting "x" 2]]] }
    AllFilled ({} : Body).structures ∧
      (Body.merge (Body.merge {} patch) patch).render ≠ (Body.merge {} patch).render := by
  intro patch
  refine ⟨trivial, ?_⟩
  decide +kernel

end Terrasmith
