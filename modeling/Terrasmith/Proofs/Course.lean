import Terrasmith.Proofs.Changes
import Terrasmith.Transform.Basic

/-!
The course of transforms: the modules that an application of transforms passes through, one after each change of a
block, a local or a file. Along it the registry follows the trees, and the snapshots stay up to date exactly as long
as no change is masked.
-/
namespace Terrasmith

open Source

namespace Applied

/-- The modules that a walk over a list passes through until something fails; `course` tells those of one item. -/
def courseAll {α : Type} (f : α → Module → Applied) (course : α → Module → List Module) :
    List α → Module → List Module
  | [], _ => []
  | item :: rest, m =>
    course item m ++ match (f item m).error? with
      | some _ => []
      | none => courseAll f course rest (f item m).module

/-- The modules after each step of a walk over a list. -/
def steps {α : Type} (f : α → Module → Applied) : List α → Module → List Module :=
  courseAll f fun item m => [(f item m).module]

end Applied

/-- A file after a replacement of values, if it is there. -/
def Module.replaceIn (f : Attribute → Except InvalidExpression (Option Expression)) (m : Module) (name : String) :
    Module :=
  match m.file? name with
  | none => m
  | some file => m.replaceBody name file (replaceInBlocks f file.body).result

def Module.replaceCourse (f : Attribute → Except InvalidExpression (Option Expression)) :
    List String → Module → List Module
  | [], _ => []
  | name :: rest, m => m.replaceIn f name :: Module.replaceCourse f rest (m.replaceIn f name)

/-- The renaming in one block. -/
def RenameRule.step (r : RenameRule) (address : String) (m : Module) : Applied :=
  .ofResult m (m.updateBlock address fun b =>
    { b with body := atAllPaths (renameElement r.newName r.skipIfExists) r.path b.body })

def RenameRule.course (r : RenameRule) (m : Module) : List Module :=
  Applied.steps r.step ((m.blocks.filter r.appliesTo).map Snapshot.address) m

namespace Transform

/-- The modules that the application of a transform passes through. -/
def course : Transform → Module → List Module
  | .renameElements rules, m => Applied.courseAll RenameRule.apply RenameRule.course rules m
  | .replaceText regex replacement, m => Module.replaceCourse (replacedValue regex replacement) m.fileNames m
  | .newBlock none _ fileName body, m =>
    Applied.steps (fun a m => .ofResult m ((m.addLocal a fileName).map (·.1))) body.attributes m
  | t, m => [(t.apply m).module]

/-- The module after a list of transforms, whether they fail or not. -/
def applyAll (ts : List Transform) (m : Module) : Module :=
  ts.foldl (fun m t => (t.apply m).module) m

/-- The modules that the application of a list of transforms passes through. -/
def courses : List Transform → Module → List Module
  | [], _ => []
  | t :: rest, m => t.course m ++ courses rest (t.apply m).module

/-- The files that a transform appends to. -/
def fileNames : Transform → List String
  | .moveBlock _ fileName => [fileName]
  | .ensureLocal _ fileName _ => [fileName]
  | .newBlock _ _ fileName _ => [fileName]
  | _ => []

end Transform

namespace Module

/-- A change of a module that the registry follows and that forgets no file. -/
structure Advances (m m' : Module) : Prop where
  follows : Follows m m'
  disk : m'.disk = m.disk
  fileNames : ∀ name ∈ m.fileNames, name ∈ m'.fileNames

/-- A chain of changes with the modules that it passes through. -/
inductive Passes : Module → List Module → Module → Prop where
  | nil (m : Module) : Passes m [] m
  | cons {m next last : Module} {rest : List Module} :
    Advances m next → Passes next rest last → Passes m (next :: rest) last

namespace Passes

variable {m last : Module} {course : List Module}

theorem single {m' : Module} (h : Advances m m') : Passes m [m'] m' := .cons h (.nil m')

theorem append {middle : Module} {first second : List Module} (h₁ : Passes m first middle)
    (h₂ : Passes middle second last) : Passes m (first ++ second) last := by
  induction h₁ with
  | nil => exact h₂
  | cons h _ ih => exact .cons h (ih h₂)

theorem registered_mem (hp : Passes m course last) (h : m.Registered) : ∀ x ∈ m :: course, x.Registered := by
  induction hp with
  | nil m => simpa using h
  | cons ha _ ih =>
    intro x hx
    rcases List.mem_cons.mp hx with rfl | hx
    · exact h
    · exact ih ha.follows.registered x hx

theorem registered (hp : Passes m course last) (h : m.Registered) : last.Registered := by
  induction hp with
  | nil m => exact h
  | cons ha _ ih => exact ih ha.follows.registered

theorem loaded (hp : Passes m course last) {name : String} (h : Loaded m name) : Loaded last name := by
  induction hp with
  | nil m => exact h
  | cons ha _ ih =>
    apply ih
    rcases h with h | h
    · exact .inl (ha.fileNames name h)
    · exact .inr (by rw [ha.disk, h])

/-- The snapshots stay up to date as long as no change is masked, and no longer. -/
theorem upToDate_iff (hp : Passes m course last) (hu : m.UpToDate) :
    (∀ x ∈ course, x.UpToDate) ↔ (m :: course).IsChain fun a b => ¬ Masked a b := by
  induction hp with
  | nil m => simp
  | cons ha _ ih =>
    rw [List.forall_mem_cons, List.isChain_cons_cons, ha.follows.upToDate hu]
    refine and_congr_right fun hmask => ih ?_
    exact (ha.follows.upToDate hu).mpr hmask

theorem getLast? (hp : Passes m course last) : (m :: course).getLast? = some last := by
  induction hp with
  | nil m => rfl
  | cons _ _ ih => rw [List.getLast?_cons_cons, ih]

end Passes

theorem mem_fileNames_setFile {m : Module} {name : String} (h : name ∈ m.fileNames) (other : String)
    (file : SourceFile) : name ∈ (m.setFile other file).fileNames := by
  cases hfile : m.file? other with
  | some old => rwa [fileNames_setFile hfile]
  | none =>
    unfold file? at hfile
    unfold fileNames at h ⊢
    rw [setFile, insertEntry_of_lookup_eq_none hfile, List.map_append]
    exact List.mem_append_left _ h

theorem Registered.advances_self {m : Module} (h : m.Registered) : Advances m m :=
  ⟨h.follows_self, rfl, fun _ h => h⟩

theorem advances_updateBlock {m m' : Module} {address : String} {f : Block → Block} (h : m.Registered)
    (hheader : ∀ b, (f b).ident = b.ident ∧ (f b).labels = b.labels) (hok : m.updateBlock address f = .ok m') :
    Advances m m' := by
  obtain ⟨s, file, i, old, hsite, hkind, hold, rfl⟩ := updateBlock_eq_ok hok
  refine ⟨follows_rewritten h hsite hkind hold (hheader old).1 (hheader old).2, ?_, fun name hname => ?_⟩
  · unfold rewritten
    split <;> rfl
  · unfold rewritten
    split
    · exact mem_fileNames_setFile hname _ _
    · exact mem_fileNames_setFile hname _ _

theorem advances_updateLocal {m m' : Module} {address : String} {v : Expression} (h : m.Registered)
    (hok : m.updateLocal address (·.withValue v) = .ok m') : Advances m m' := by
  obtain ⟨s, file, i, name, e, j, old, hsite, hkind, hlabels, he, hj, hold, rfl⟩ := updateLocal_eq_ok hok
  refine ⟨follows_revalued h hsite hkind hlabels he hj hold v, ?_, fun name hname => ?_⟩
  · unfold revalued
    split <;> rfl
  · unfold revalued
    split
    · exact mem_fileNames_setFile hname _ _
    · exact mem_fileNames_setFile hname _ _

theorem advances_removeBlock {m m' : Module} {address : String} (h : m.Registered)
    (hok : (m.removeBlock address).map (·.1) = .ok m') : Advances m m' := by
  obtain ⟨⟨m'', removed⟩, hremove, rfl⟩ := map_eq_ok hok
  obtain ⟨file, i, hsite, rfl⟩ := removeBlock_eq_ok hremove
  exact ⟨follows_removed h hsite rfl, rfl, fun name hname => mem_fileNames_setFile hname _ _⟩

theorem advances_moveBlock {m m' : Module} {address fileName : String} (h : m.Registered)
    (hloaded : Loaded m fileName) (hok : (m.moveBlock address fileName).map (·.1) = .ok m') : Advances m m' := by
  obtain ⟨⟨m'', moved⟩, hmove, rfl⟩ := map_eq_ok hok
  rcases moveBlock_eq_ok hmove with ⟨rfl, -⟩ | ⟨s, file, i, x, hsite, hkind, -, hx, rfl⟩
  · exact h.advances_self
  · refine ⟨follows_moved h hsite hkind hx hloaded _ rfl, rfl, fun name hname => ?_⟩
    exact mem_fileNames_setFile (mem_fileNames_setFile hname _ _) _ _

theorem advances_addBlock {m m' : Module} {kind : BlockKind} {b : Block} {fileName : String} (h : m.Registered)
    (hident : b.ident = kind.name) (hkind : kind ≠ .local) (hcount : b.labels.length = kind.labelCount)
    (hloaded : Loaded m fileName) (hok : (m.addBlock kind b fileName).map (·.1) = .ok m') : Advances m m' := by
  obtain ⟨⟨m'', address⟩, hadd, rfl⟩ := map_eq_ok hok
  obtain ⟨rfl, hnew, rfl⟩ := addBlock_eq_ok hadd
  exact ⟨follows_addBlock h hident hkind hcount hnew hloaded, rfl, fun name hname => mem_fileNames_setFile hname _ _⟩

theorem advances_addLocal {m m' : Module} {a : Attribute} {fileName : String} (h : m.Registered)
    (hloaded : Loaded m fileName) (hok : (m.addLocal a fileName).map (·.1) = .ok m') : Advances m m' := by
  obtain ⟨⟨m'', address⟩, hadd, rfl⟩ := map_eq_ok hok
  obtain ⟨rfl, hnew, rfl⟩ := addLocal_eq_ok hadd
  exact ⟨follows_addLocal h hnew hloaded, rfl, fun name hname => mem_fileNames_setFile hname _ _⟩

/-- A change as a whole or not at all. -/
theorem advances_ofResult {m : Module} {r : Except ModuleError Module} (h : m.Registered)
    (hok : ∀ m', r = .ok m' → Advances m m') : Advances m (Applied.ofResult m r).module := by
  cases r with
  | error e => exact h.advances_self
  | ok m' => exact hok m' rfl

end Module

section ReplaceValues

variable {ε : Type} (f : Attribute → Except ε (Option Expression))

/-- A replacement of values keeps keys and the order of attributes. -/
theorem keys_replaceAllValues (structures : List Structure) :
    ((replaceAllValues f structures).result.filterMap Structure.attribute?).map Attribute.key =
      (structures.filterMap Structure.attribute?).map Attribute.key := by
  induction structures with
  | nil => rfl
  | cons s rest ih =>
    rw [replaceAllValues]
    rcases s with a | b
    · rw [Structure.replaceValues]
      split <;> simpa [Attribute.withValue] using ih
    · rcases b with ⟨lead, ident, identTrail, labels, ⟨structures, head, tail, oneLine, openEnd⟩, trail, span?⟩
      simpa [Structure.replaceValues, List.filterMap_cons] using ih

theorem nodes_replaceValues (b : Block) :
    ((Structure.block b).replaceValues f).result.nodes.map (fun n => (n.kind, n.labels)) =
      b.nodes.map fun n => (n.kind, n.labels) := by
  rcases b with ⟨lead, ident, identTrail, labels, ⟨structures, head, tail, oneLine, openEnd⟩, trail, span?⟩
  rw [Structure.replaceValues]
  by_cases hlocals : ident = "locals"
  · have hkeys := congrArg (List.map fun key => (BlockKind.local, [key])) (keys_replaceAllValues f structures)
    simp only [List.map_map] at hkeys
    simpa [Structure.nodes, Block.nodes, hlocals, Body.attributes, Function.comp_def, TreeNode.kind,
      TreeNode.labels] using hkeys
  · cases hkind : BlockKind.ofIdent? ident with
    | none => simp [Structure.nodes, Block.nodes, hlocals, hkind]
    | some kind =>
      by_cases hcount : labels.length = kind.labelCount
      · simp [Structure.nodes, Block.nodes, hlocals, hkind, hcount, TreeNode.kind, TreeNode.labels, Block.labelTexts]
      · simp [Structure.nodes, Block.nodes, hlocals, hkind, hcount]

theorem nodes_replaceInBlocks (b : Body) :
    (replaceInBlocks f b).result.nodes.map (fun n => (n.kind, n.labels)) =
      b.nodes.map fun n => (n.kind, n.labels) := by
  unfold Body.nodes replaceInBlocks
  induction b.structures with
  | nil => rfl
  | cons s rest ih =>
    rcases s with a | e
    · simpa [Structure.nodes] using ih
    · simp only [List.map_cons, List.flatMap_cons, List.map_append, nodes_replaceValues] at ih ⊢
      rw [ih]
      rfl

end ReplaceValues

namespace Module

theorem advances_replaceIn {m : Module} (h : m.Registered)
    (f : Attribute → Except InvalidExpression (Option Expression)) (name : String) :
    Advances m (m.replaceIn f name) := by
  unfold replaceIn
  cases hfile : m.file? name with
  | none => exact h.advances_self
  | some file =>
    refine ⟨follows_replaceBody h hfile (nodes_replaceInBlocks f file.body), ?_, fun other hother => ?_⟩
    · dsimp only
      unfold replaceBody
      split <;> rfl
    · dsimp only
      unfold replaceBody
      split
      · exact mem_fileNames_setFile hother _ _
      · exact mem_fileNames_setFile hother _ _

theorem passes_replaceCourse {m : Module} (h : m.Registered)
    (f : Attribute → Except InvalidExpression (Option Expression)) (names : List String) :
    Passes m (replaceCourse f names m) (names.foldl (replaceIn f) m) := by
  induction names generalizing m with
  | nil => exact .nil m
  | cons name rest ih =>
    have ha := advances_replaceIn h f name
    exact .cons ha (ih ha.follows.registered)

theorem replaceValues_fst (m : Module) (f : Attribute → Except InvalidExpression (Option Expression)) :
    (m.replaceValues f).1 = m.fileNames.foldl (replaceIn f) m := by
  have hfold : ∀ (names : List String) (d : Module) (errors : List InvalidExpression),
      (names.foldl (fun state name =>
        match state.1.file? name with
        | none => (state.1, state.2)
        | some file =>
          let done := replaceInBlocks f file.body
          (state.1.replaceBody name file done.result, state.2 ++ done.errors)) (d, errors)).1 =
        names.foldl (replaceIn f) d := by
    intro names
    induction names with
    | nil => intro d errors; rfl
    | cons name rest ih =>
      intro d errors
      cases hfile : d.file? name with
      | none =>
        simp only [List.foldl_cons, replaceIn, hfile]
        exact ih d errors
      | some file =>
        simp only [List.foldl_cons, replaceIn, hfile]
        exact ih _ _
  exact hfold m.fileNames m []

end Module

namespace Applied

variable {α : Type}

theorem foldl_andThen_of_error (items : List α) (f : α → Module → Applied) {a : Applied} {e : TransformError}
    (h : a.error? = some e) : items.foldl (fun a item => a.andThen (f item)) a = a := by
  induction items with
  | nil => rfl
  | cons item rest ih =>
    have hstay : a.andThen (f item) = a := by simp [andThen, h]
    rw [List.foldl_cons, hstay, ih]

theorem forAll_cons (m : Module) (item : α) (rest : List α) (f : α → Module → Applied) :
    forAll m (item :: rest) f = match (f item m).error? with
      | some _ => f item m
      | none => forAll (f item m).module rest f := by
  have hfirst : andThen { module := m } (f item) = f item m := rfl
  unfold forAll
  rw [List.foldl_cons, hfirst]
  cases he : (f item m).error? with
  | some e => exact foldl_andThen_of_error rest f he
  | none =>
    have hplain : f item m = { module := (f item m).module } := by
      rw [← he]
    rw [hplain]

/-- A walk passes through its course if every item passes through its own. -/
theorem passes_courseAll {f : α → Module → Applied} {course : α → Module → List Module} (names : List String)
    (items : List α) (hitems : ∀ item ∈ items, ∀ m, Module.Registered m → (∀ name ∈ names, m.Loaded name) →
      Module.Passes m (course item m) (f item m).module)
    {m : Module} (h : m.Registered) (hloaded : ∀ name ∈ names, m.Loaded name) :
    Module.Passes m (courseAll f course items m) (forAll m items f).module := by
  induction items generalizing m with
  | nil => exact .nil m
  | cons item rest ih =>
    have hfirst := hitems item (by simp) m h hloaded
    rw [courseAll, forAll_cons]
    refine hfirst.append ?_
    cases (f item m).error? with
    | some e => exact .nil _
    | none =>
      exact ih (fun item hitem => hitems item (by simp [hitem])) (hfirst.registered h)
        fun name hname => hfirst.loaded (hloaded name hname)

theorem passes_steps {f : α → Module → Applied} (names : List String) (items : List α)
    (hitems : ∀ item ∈ items, ∀ m, Module.Registered m → (∀ name ∈ names, m.Loaded name) →
      Module.Advances m (f item m).module)
    {m : Module} (h : m.Registered) (hloaded : ∀ name ∈ names, m.Loaded name) :
    Module.Passes m (steps f items m) (forAll m items f).module :=
  passes_courseAll names items (fun item hitem m h hloaded => .single (hitems item hitem m h hloaded)) h hloaded

end Applied

namespace Transform

/-- A new block has a kind that blocks declare, and as many labels as the kind asks for. -/
def Labelled : Transform → Prop
  | .newBlock (some kind) labels _ _ => kind ≠ .local ∧ labels.length = kind.labelCount
  | _ => True

theorem passes_rename (r : RenameRule) {m : Module} (h : m.Registered) :
    m.Passes (r.course m) (r.apply m).module := by
  have hstep : ∀ address m, Module.Registered m → m.Advances (r.step address m).module := by
    intro address m h
    refine Module.advances_ofResult h fun m' hok => Module.advances_updateBlock h ?_ hok
    exact fun b => ⟨rfl, rfl⟩
  exact Applied.passes_steps (f := r.step) [] _ (fun address _ m h _ => hstep address m h) h (by simp)

/-- The application of a transform passes through its course. -/
theorem passes (t : Transform) (ht : t.Labelled) {m : Module} (h : m.Registered)
    (hloaded : ∀ name ∈ t.fileNames, m.Loaded name) : m.Passes (t.course m) (t.apply m).module := by
  have hupdate : ∀ (address : String) (f : Block → Block), (∀ b, (f b).ident = b.ident ∧ (f b).labels = b.labels) →
      m.Passes [(Applied.ofResult m (m.updateBlock address f)).module]
        (Applied.ofResult m (m.updateBlock address f)).module := fun address f hf =>
    .single (Module.advances_ofResult h fun _ hok => Module.advances_updateBlock h hf hok)
  cases t with
  | updateInPlace target patch => exact hupdate target _ fun _ => ⟨rfl, rfl⟩
  | removeElements target paths => exact hupdate target _ fun _ => ⟨rfl, rfl⟩
  | removeNestedBlocks target paths => exact hupdate target _ fun _ => ⟨rfl, rfl⟩
  | appendBody target body => exact hupdate target _ fun _ => ⟨rfl, rfl⟩
  | renameElements rules =>
    exact Applied.passes_courseAll [] rules (fun r _ _ h _ => passes_rename r h) h (by simp)
  | removeBlock target =>
    exact .single (Module.advances_ofResult h fun _ hok => Module.advances_removeBlock h hok)
  | moveBlock target fileName =>
    exact .single (Module.advances_ofResult h fun _ hok =>
      Module.advances_moveBlock h (hloaded fileName (by simp [fileNames])) hok)
  | replaceText regex replacement =>
    have hpasses := Module.passes_replaceCourse h (replacedValue regex replacement) m.fileNames
    rw [← Module.replaceValues_fst] at hpasses
    exact hpasses
  | ensureLocal name fileName value =>
    have hfile := hloaded fileName (by simp [fileNames])
    refine .single ?_
    simp only [apply]
    cases value.attribute name with
    | error e => exact h.advances_self
    | ok a =>
      refine Module.advances_ofResult h fun m' hok => ?_
      split at hok
      · exact Module.advances_updateLocal h hok
      · exact Module.advances_addLocal h hfile hok
  | newBlock kind? labels fileName body =>
    have hfile := hloaded fileName (by simp [fileNames])
    cases kind? with
    | none =>
      exact Applied.passes_steps [fileName] body.attributes
        (fun a _ _ h hl => Module.advances_ofResult h fun _ hok =>
          Module.advances_addLocal h (hl fileName (by simp)) hok) h (by simpa using hfile)
    | some kind =>
      exact .single (Module.advances_ofResult h fun _ hok =>
        Module.advances_addBlock h rfl ht.1 (by simpa using ht.2) hfile hok)

theorem passes_courses (ts : List Transform) (hts : ∀ t ∈ ts, t.Labelled) {m : Module} (h : m.Registered)
    (hloaded : ∀ t ∈ ts, ∀ name ∈ t.fileNames, m.Loaded name) : m.Passes (courses ts m) (applyAll ts m) := by
  induction ts generalizing m with
  | nil => exact .nil m
  | cons t rest ih =>
    have hfirst := t.passes (hts t (by simp)) h (hloaded t (by simp))
    refine hfirst.append (ih (fun t ht => hts t (by simp [ht])) (hfirst.registered h) ?_)
    intro t ht name hname
    exact hfirst.loaded (hloaded t (by simp [ht]) name hname)

end Transform

end Terrasmith
