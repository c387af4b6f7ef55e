import Terrasmith.Proofs.Saving

/-!
The transforms that a run applies. A run that succeeds leaves the module as these transforms do, one after the other:
queries change nothing, and all instances of a declaration are read before the first of them is applied.
-/
namespace Terrasmith

/-- The transforms of a declaration, one for each instance. -/
def Declaration.transforms (d : Declaration) (results : Results) (m : Module) : List Transform :=
  match d.kind, instances d (results.scope none) with
  | .transform, .ok instances? =>
    ((instances?.map (·.map some)).getD [none]).filterMap fun i? =>
      (Transform.decode d.type d.body (results.scope i?) m).toOption
  | _, _ => []

/-- The transforms of declarations that are carried out one after the other, up to the first that fails. -/
def transformsFrom (tool? : Option Provider.Tool) : List Declaration → Results × Summary → Session → List Transform
  | [], _, _ => []
  | d :: rest, done, session =>
    d.transforms done.1 session.module ++
      match (runDeclaration tool? d done).run.run session with
      | (.ok done, session) => transformsFrom tool? rest done session
      | (.error _, _) => []

/-- The transforms that a run applies to a module. -/
def Config.transforms (c : Config) (tool? : Option Provider.Tool) (m : Module) : List Transform :=
  match c.order with
  | .ok declarations => transformsFrom tool? declarations ({}, {}) { module := m }
  | .error _ => []

theorem Transform.applyAll_append (first second : List Transform) (m : Module) :
    applyAll (first ++ second) m = applyAll second (applyAll first m) :=
  List.foldl_append

namespace RunM

variable {α β : Type} {s s' : Session}

/-- Steps over a list that leave the module alone, and what each of them gives. -/
theorem mapM_run_ok {p : α → β → Prop} {f : α → RunM β} {m : Module}
    (hf : ∀ a b s s', s.module = m → (f a).run.run s = (.ok b, s') → s'.module = m ∧ p a b) {items : List α}
    {results : List β} (hs : s.module = m) (h : (items.mapM f).run.run s = (.ok results, s')) :
    s'.module = m ∧ List.Forall₂ p items results := by
  induction items generalizing s results with
  | nil =>
    cases h
    exact ⟨hs, .nil⟩
  | cons a rest ih =>
    rw [List.mapM_cons] at h
    obtain ⟨b, t, hfirst, h⟩ := run_bind_eq_ok h
    obtain ⟨bs, t', hrest, h⟩ := run_bind_eq_ok h
    cases h
    obtain ⟨ht, hb⟩ := hf a b s t hs hfirst
    obtain ⟨hs', hbs⟩ := ih ht hrest
    exact ⟨hs', .cons hb hbs⟩

end RunM

open RunM

variable {tool? : Option Provider.Tool} {d : Declaration} {results : Results} {s s' : Session}

theorem runQuery_module {scope : Scope} {v : Value} (h : (runQuery tool? d scope).run.run s = (.ok v, s')) :
    s'.module = s.module := by
  unfold runQuery at h
  rw [run_get_bind] at h
  rcases hquery : Query.evaluate s.module tool? d.type d.body scope with ⟨calls, e | v⟩
  · simp only [hquery, run_set_bind] at h
    cases h
  · simp only [hquery, run_set_bind] at h
    cases h
    rfl

theorem runQueries_module {instances? : Option (List Instance)} {v : Value}
    (h : (runQueries tool? d results instances?).run.run s = (.ok v, s')) : s'.module = s.module := by
  cases instances? with
  | none => exact runQuery_module h
  | some instances =>
    obtain ⟨entries, t, hentries, h⟩ := run_bind_eq_ok h
    cases h
    refine (mapM_run_ok (p := fun _ _ => True) (fun i e s s' hs hi => ?_) rfl hentries).1
    obtain ⟨v, t, hquery, hi⟩ := run_bind_eq_ok hi
    cases hi
    exact ⟨(runQuery_module hquery).trans hs, trivial⟩

theorem decodeInstance_ok {each? : Option Instance} {t : Transform}
    (h : (decodeInstance d results each?).run.run s = (.ok t, s')) :
    s'.module = s.module ∧ Transform.decode d.type d.body (results.scope each?) s.module = .ok t := by
  unfold decodeInstance at h
  rw [run_get_bind] at h
  cases hdecode : Transform.decode d.type d.body (results.scope each?) s.module with
  | error e =>
    rw [hdecode] at h
    cases h
  | ok t =>
    rw [hdecode] at h
    cases h
    exact ⟨rfl, rfl⟩

theorem applyInstance_ok {key? : Option String} {t : Transform} {u : Unit}
    (h : (applyInstance d key? t).run.run s = (.ok u, s')) : s'.module = (t.apply s.module).module := by
  unfold applyInstance at h
  rw [run_get_bind, run_modify_bind] at h
  cases herror : (t.apply s.module).error? with
  | some e =>
    rw [herror] at h
    cases h
  | none =>
    rw [herror] at h
    cases h
    rfl

theorem applyInstances_ok {transforms : List (Option String × Transform)} {u : PUnit}
    (h : (transforms.forM fun (key?, t) => applyInstance d key? t).run.run s = (.ok u, s')) :
    s'.module = Transform.applyAll (transforms.map (·.2)) s.module := by
  induction transforms generalizing s with
  | nil =>
    cases h
    rfl
  | cons first rest ih =>
    obtain ⟨u, t, hfirst, hrest⟩ := run_bind_eq_ok h
    rw [ih hrest, applyInstance_ok hfirst]
    rfl

/-- Transforms that were all read are those that can be read. -/
theorem filterMap_decode {m : Module} {each : List (Option Instance)} {transforms : List (Option String × Transform)}
    (h : List.Forall₂ (fun i? entry => Transform.decode d.type d.body (results.scope i?) m = .ok entry.2) each
      transforms) :
    transforms.map (·.2) = each.filterMap fun i? => (Transform.decode d.type d.body (results.scope i?) m).toOption := by
  induction h with
  | nil => rfl
  | cons hfirst _ ih =>
    rw [List.map_cons, List.filterMap_cons, hfirst, ih]
    rfl

theorem runTransforms_ok {instances? : Option (List Instance)} {count : Nat}
    (h : (runTransforms d results instances?).run.run s = (.ok count, s')) :
    s'.module = Transform.applyAll (((instances?.map (·.map some)).getD [none]).filterMap fun i? =>
      (Transform.decode d.type d.body (results.scope i?) s.module).toOption) s.module := by
  obtain ⟨transforms, t, hdecode, h⟩ := run_bind_eq_ok h
  obtain ⟨u, t', happly, h⟩ := run_bind_eq_ok h
  cases h
  obtain ⟨ht, hall⟩ := mapM_run_ok
    (p := fun i? entry => Transform.decode d.type d.body (results.scope i?) s.module = .ok entry.2)
    (fun i? entry s₁ s₂ hs hi => by
      obtain ⟨t, s₃, hi, hreturn⟩ := run_bind_eq_ok hi
      cases hreturn
      obtain ⟨hmodule, hdecode⟩ := decodeInstance_ok hi
      exact ⟨hmodule.trans hs, hs ▸ hdecode⟩) rfl hdecode
  rw [applyInstances_ok happly, ht, filterMap_decode hall]
  cases instances? <;> rfl

theorem runDeclaration_ok {done done' : Results × Summary}
    (h : (runDeclaration tool? d done).run.run s = (.ok done', s')) :
    s'.module = Transform.applyAll (d.transforms done.1 s.module) s.module := by
  obtain ⟨results, summary⟩ := done
  unfold runDeclaration at h
  unfold Declaration.transforms
  dsimp only at h ⊢
  cases hinstances : instances d (results.scope none) with
  | error e =>
    rw [hinstances] at h
    cases h
  | ok instances? =>
    rw [hinstances] at h
    cases hkind : d.kind with
    | data =>
      simp only [hkind] at h
      obtain ⟨v, t, hquery, h⟩ := run_bind_eq_ok h
      cases h
      exact runQueries_module hquery
    | transform =>
      simp only [hkind] at h
      obtain ⟨count, t, hrun, h⟩ := run_bind_eq_ok h
      cases h
      exact runTransforms_ok hrun

theorem foldlM_runDeclaration_ok {declarations : List Declaration} {done done' : Results × Summary}
    (h : (declarations.foldlM (fun done d => runDeclaration tool? d done) done).run.run s = (.ok done', s')) :
    s'.module = Transform.applyAll (transformsFrom tool? declarations done s) s.module := by
  induction declarations generalizing done s with
  | nil =>
    cases h
    rfl
  | cons d rest ih =>
    rw [List.foldlM_cons] at h
    obtain ⟨done₁, t, hfirst, hrest⟩ := run_bind_eq_ok h
    rw [transformsFrom, hfirst, Transform.applyAll_append, ← runDeclaration_ok hfirst]
    exact ih hrest

/-- A run that succeeds leaves the module as the transforms that it applies do. -/
theorem Config.run_module {c : Config} {m : Module} {summary : Summary}
    (h : (c.run tool?).run.run { module := m } = (.ok summary, s')) :
    s'.module = Transform.applyAll (c.transforms tool? m) m := by
  unfold Config.run at h
  unfold Config.transforms
  cases horder : c.order with
  | error e =>
    rw [horder] at h
    cases h
  | ok declarations =>
    rw [horder] at h
    obtain ⟨done, t, hfold, h⟩ := run_bind_eq_ok h
    cases h
    exact foldlM_runDeclaration_ok hfold

end Terrasmith
