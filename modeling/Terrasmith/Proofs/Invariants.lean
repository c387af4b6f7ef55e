import Terrasmith.Proofs.Appending

/-!
Invariants of modules. What every operation on a module keeps is kept by every transform, whether it fails or not, and
so by all of them.
-/
namespace Terrasmith

open Source

/-- The kind and the labels of the block that a transform adds. -/
def Transform.added? : Transform → Option (BlockKind × List String)
  | .newBlock (some kind) labels _ _ => some (kind, labels)
  | _ => none

namespace Module

/-- A property that is kept by the operations on a module, of those that append to a file by the ones whose file is
among `q`, and of those that add a block by the ones whose labels are among `r`. A block is changed under its header. -/
structure Invariant (q : String → Prop) (r : BlockKind → List String → Prop) (p : Module → Prop) : Prop where
  updateBlock : ∀ {m m' : Module} {address : String} {f : Block → Block}, p m →
    (∀ b, (f b).ident = b.ident ∧ (f b).labels = b.labels) → m.updateBlock address f = .ok m' → p m'
  updateLocal : ∀ {m m' : Module} {address : String} {f : Expression → Expression}, p m →
    m.updateLocal address (fun a => a.withValue (f a.expression)) = .ok m' → p m'
  removeBlock : ∀ {m m' : Module} {address : String} {removed : Snapshot}, p m →
    m.removeBlock address = .ok (m', removed) → p m'
  moveBlock : ∀ {m m' : Module} {address fileName : String} {moved : Bool}, p m → q fileName →
    m.moveBlock address fileName = .ok (m', moved) → p m'
  addBlock : ∀ {m m' : Module} {kind : BlockKind} {b : Block} {fileName address : String}, p m → q fileName →
    b.ident = kind.name → r kind b.labelTexts → m.addBlock kind b fileName = .ok (m', address) → p m'
  addLocal : ∀ {m m' : Module} {a : Attribute} {fileName address : String}, p m → q fileName →
    m.addLocal a fileName = .ok (m', address) → p m'
  replaceIn : ∀ {m : Module} (f : Attribute → Except InvalidExpression (Option Expression)) (name : String), p m →
    p (m.replaceIn f name)

namespace Invariant

variable {q : String → Prop} {r : BlockKind → List String → Prop} {p : Module → Prop} {m : Module}

/-- An operation that fails leaves the module as it is. -/
theorem of_ofResult (h : p m) {r : Except ModuleError Module} (hr : ∀ m', r = .ok m' → p m') :
    p (Applied.ofResult m r).module := by
  cases r with
  | error e => exact h
  | ok m' => exact hr m' rfl

theorem of_ofResult_map (h : p m) {α : Type} {r : Except ModuleError (Module × α)}
    (hr : ∀ m' x, r = .ok (m', x) → p m') : p (Applied.ofResult m (r.map (·.1))).module := by
  refine of_ofResult h fun m' hok => ?_
  obtain ⟨⟨m'', x⟩, hr', rfl⟩ := map_eq_ok hok
  exact hr _ x hr'

theorem apply (hp : Invariant q r p) (t : Transform) (hq : ∀ name ∈ t.fileNames, q name)
    (hr : ∀ kind labels, t.added? = some (kind, labels) → r kind labels) (h : p m) : p (t.apply m).module := by
  have hupdate : ∀ (m : Module) (address : String) (f : Block → Body), p m →
      p (Applied.ofResult m (m.updateBlock address fun b => { b with body := f b })).module :=
    fun m address f h => of_ofResult h fun m' hok =>
      hp.updateBlock (f := fun b => { b with body := f b }) h (fun b => ⟨rfl, rfl⟩) hok
  cases t with
  | updateInPlace target patch => exact hupdate m target _ h
  | removeElements target paths => exact hupdate m target _ h
  | removeNestedBlocks target paths => exact hupdate m target _ h
  | appendBody target body => exact hupdate m target _ h
  | renameElements rules =>
    exact Applied.forAll_keeps
      (fun r m hm => Applied.forAll_keeps (fun address m hm => hupdate m address _ hm) _ hm) rules h
  | removeBlock target => exact of_ofResult_map h fun m' _ hok => hp.removeBlock h hok
  | moveBlock target fileName =>
    exact of_ofResult_map h fun m' _ hok => hp.moveBlock h (hq _ (List.mem_singleton_self _)) hok
  | replaceText regex replacement =>
    have hfold : ∀ (names : List String) {m : Module}, p m →
        p (names.foldl (Module.replaceIn (replacedValue regex replacement)) m) := by
      intro names
      induction names with
      | nil => exact fun hm => hm
      | cons name rest ih => exact fun hm => ih (hp.replaceIn _ name hm)
    simp only [Transform.apply, Module.replaceValues_fst]
    exact hfold m.fileNames h
  | ensureLocal label fileName value =>
    have hfile : q fileName := hq _ (List.mem_singleton_self _)
    simp only [Transform.apply]
    cases value.attribute label with
    | error e => exact h
    | ok a =>
      dsimp only
      split
      · exact of_ofResult h fun m' hok => hp.updateLocal (f := fun _ => a.expression) h hok
      · exact of_ofResult_map h fun m' _ hok => hp.addLocal h hfile hok
  | newBlock kind? labels fileName body =>
    have hfile : q fileName := hq _ (List.mem_singleton_self _)
    cases kind? with
    | none => exact Applied.forAll_keeps (fun a m hm => of_ofResult_map hm fun m' _ hok => hp.addLocal hm hfile hok) _ h
    | some kind =>
      have htexts : (labels.map fun text => ({ text } : Label)).map Label.text = labels := by
        rw [List.map_map]
        exact List.map_id labels
      have hlabels := htexts.symm ▸ hr kind labels rfl
      exact of_ofResult_map h fun m' _ hok => hp.addBlock h hfile rfl hlabels hok

theorem applyAll (hp : Invariant q r p) (ts : List Transform) (hq : ∀ t ∈ ts, ∀ name ∈ t.fileNames, q name)
    (hr : ∀ t ∈ ts, ∀ kind labels, t.added? = some (kind, labels) → r kind labels) (h : p m) :
    p (Transform.applyAll ts m) := by
  induction ts generalizing m with
  | nil => exact h
  | cons t rest ih =>
    rw [List.forall_mem_cons] at hq hr
    exact ih hq.2 hr.2 (hp.apply t hq.1 hr.1 h)

/-- What is kept whenever files become others and are appended to is an invariant. -/
theorem of_edits (hp : ∀ {m m' : Module}, p m → Edits q m m' → p m') : Invariant q r p where
  updateBlock h _ hok := hp h (.updateBlock hok)
  updateLocal h hok := hp h (.updateLocal (fun a _ => (a.render_withValue_iff _).mpr) hok)
  removeBlock h hok := hp h (.removeBlock hok)
  moveBlock h hq hok := hp h (.moveBlock hq hok)
  addBlock h hq _ _ hok := hp h (.addBlock hq hok)
  addLocal h hq hok := hp h (.addLocal hq hok)
  replaceIn {m} f name h := by
    refine hp h ?_
    unfold Module.replaceIn
    cases hfile : m.file? name with
    | none => exact .refl m
    | some file => exact .replaceBody hfile _

end Invariant

end Module

end Terrasmith
