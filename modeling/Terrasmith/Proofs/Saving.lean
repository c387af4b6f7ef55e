import Terrasmith.Proofs.Retention
import Terrasmith.Workspace.Transform

/-!
What a run gives back to the workspace. Every step of a run keeps what the files of the module were read from, so
that each file that is saved knows what the workspace held at its path before the run.
-/
namespace Terrasmith

open Source

namespace RunM

/-- A step of a run forgets nothing of the files of the module, whether it fails or not. -/
def Keeping {α : Type} (x : RunM α) : Prop := ∀ s : Session, s.module.Keeps (x.run.run s).2.module

variable {α β : Type}

theorem Keeping.pure (a : α) : Keeping (Pure.pure a) := fun s => .refl s.module

theorem Keeping.throw (e : RunError) : Keeping (MonadExcept.throw e : RunM α) := fun s => .refl s.module

theorem Keeping.get : Keeping (MonadState.get : RunM Session) := fun s => .refl s.module

theorem Keeping.bind {x : RunM α} {f : α → RunM β} (hx : Keeping x) (hf : ∀ a, Keeping (f a)) :
    Keeping (x >>= f) := by
  intro s
  have hfirst := hx s
  show s.module.Keeps ((ExceptT.run (x >>= f)).run s).2.module
  rw [ExceptT.run_bind, StateT.run_bind]
  rcases hrun : x.run.run s with ⟨result, t⟩
  rw [hrun] at hfirst
  cases result with
  | error e => exact hfirst
  | ok a => exact hfirst.trans (hf a t)

theorem Keeping.mapM {f : α → RunM β} (hf : ∀ a, Keeping (f a)) (items : List α) : Keeping (items.mapM f) := by
  induction items with
  | nil => exact .pure []
  | cons a rest ih =>
    rw [List.mapM_cons]
    exact (hf a).bind fun b => ih.bind fun bs => .pure (b :: bs)

theorem Keeping.forM {f : α → RunM PUnit} (hf : ∀ a, Keeping (f a)) (items : List α) : Keeping (items.forM f) := by
  induction items with
  | nil => exact .pure _
  | cons a rest ih => exact (hf a).bind fun _ => ih

theorem Keeping.foldlM {f : β → α → RunM β} (hf : ∀ b a, Keeping (f b a)) (items : List α) (b : β) :
    Keeping (items.foldlM f b) := by
  induction items generalizing b with
  | nil => exact .pure b
  | cons a rest ih =>
    rw [List.foldlM_cons]
    exact (hf b a).bind ih

theorem run_get_bind (f : Session → RunM α) (s : Session) :
    ((MonadState.get : RunM Session) >>= f).run.run s = (f s).run.run s := rfl

theorem run_set_bind (f : PUnit → RunM α) (s s' : Session) :
    ((MonadStateOf.set s' : RunM PUnit) >>= f).run.run s = (f ⟨⟩).run.run s' := rfl

theorem run_modify_bind (g : Session → Session) (f : PUnit → RunM α) (s : Session) :
    ((modify g : RunM PUnit) >>= f).run.run s = (f ⟨⟩).run.run (g s) := rfl

end RunM

open RunM

theorem runQuery_keeping (tool? : Option Provider.Tool) (d : Declaration) (scope : Scope) :
    Keeping (runQuery tool? d scope) := by
  intro s
  unfold runQuery
  rw [run_get_bind]
  rcases Query.evaluate s.module tool? d.type d.body scope with ⟨calls, result⟩
  dsimp only
  rw [run_set_bind]
  cases result <;> exact .refl s.module

theorem runQueries_keeping (tool? : Option Provider.Tool) (d : Declaration) (results : Results)
    (instances? : Option (List Instance)) : Keeping (runQueries tool? d results instances?) := by
  cases instances? with
  | none => exact runQuery_keeping tool? d _
  | some instances =>
    refine .bind (.mapM (fun i => ?_) instances) fun entries => .pure _
    exact (runQuery_keeping tool? d _).bind fun v => .pure _

theorem decodeInstance_keeping (d : Declaration) (results : Results) (each? : Option Instance) :
    Keeping (decodeInstance d results each?) := by
  refine .bind .get fun session => ?_
  cases Transform.decode d.type d.body (results.scope each?) session.module with
  | ok t => exact .pure t
  | error e => exact .throw _

theorem applyInstance_keeping (d : Declaration) (key? : Option String) (t : Transform) :
    Keeping (applyInstance d key? t) := by
  intro s
  unfold applyInstance
  rw [run_get_bind, run_modify_bind]
  have hkeeps := t.keeps s.module
  cases (t.apply s.module).error? <;> exact hkeeps

theorem runTransforms_keeping (d : Declaration) (results : Results) (instances? : Option (List Instance)) :
    Keeping (runTransforms d results instances?) := by
  refine .bind (.mapM (fun i? => ?_) _) fun transforms => ?_
  · exact (decodeInstance_keeping d results i?).bind fun t => .pure _
  · exact .bind (.forM (fun (key?, t) => applyInstance_keeping d key? t) transforms) fun _ => .pure _

theorem runDeclaration_keeping (tool? : Option Provider.Tool) (d : Declaration) (done : Results × Summary) :
    Keeping (runDeclaration tool? d done) := by
  obtain ⟨results, summary⟩ := done
  simp only [runDeclaration]
  cases instances d (results.scope none) with
  | error e => exact .throw _
  | ok instances? =>
    cases d.kind with
    | data => exact (runQueries_keeping tool? d results instances?).bind fun v => .pure _
    | transform => exact (runTransforms_keeping d results instances?).bind fun count => .pure _

theorem Config.run_keeping (c : Config) (tool? : Option Provider.Tool) : Keeping (c.run tool?) := by
  unfold Config.run
  cases c.order with
  | error e => exact .throw _
  | ok declarations =>
    exact (Keeping.foldlM (fun done d => runDeclaration_keeping tool? d done) declarations _).bind fun _ => .pure _

theorem mapError_eq_ok {ε δ α : Type} {x : Except ε α} {f : ε → δ} {a : α} (h : x.mapError f = .ok a) : x = .ok a := by
  cases x with
  | error e => cases h
  | ok b => simpa [Except.mapError] using h

/-- Every file of a module knows what the workspace holds at its path. -/
def Module.ReadFrom (m : Module) (w : Workspace) : Prop :=
  (∀ name, m.disk name = (w.read (Path.join m.origin.absDir name)).toOption) ∧
    ∀ p ∈ m.files, p.2.stored? = m.disk p.1

theorem Module.ReadFrom.keeps {m m' : Module} {w : Workspace} (h : m.ReadFrom w) (hkeeps : m.Keeps m') :
    m'.ReadFrom w := by
  refine ⟨fun name => by rw [hkeeps.disk, hkeeps.origin, h.1], fun p hp => ?_⟩
  rw [hkeeps.disk]
  rcases hkeeps.files p hp with ⟨f, hf, hbecomes⟩ | ⟨hstored, -⟩
  · rw [hbecomes.stored, h.2 _ hf]
  · exact hstored

namespace Workspace

variable {w w' : Workspace}

theorem loadFile_readFrom {m m' : Module} {name : String} (h : m.ReadFrom w) (hload : w.loadFile m name = .ok m') :
    m'.ReadFrom w := by
  simp only [loadFile] at hload
  obtain ⟨content, hread, hadd⟩ := bind_eq_ok hload
  obtain ⟨body, -, hfiles, hdisk, horigin⟩ := Module.addFile_files (mapError_eq_ok hadd)
  refine ⟨fun name => by rw [hdisk, horigin, h.1], fun p hp => ?_⟩
  rw [hdisk]
  rcases mem_insertEntry (hfiles ▸ hp) with rfl | hp
  · rw [h.1, mapError_eq_ok hread]
    rfl
  · exact h.2 p hp

theorem loadModule_readFrom {o : Origin} {m : Module} (h : w.loadModule o = .ok m) : m.ReadFrom w := by
  simp only [loadModule] at h
  obtain ⟨names, -, hfold⟩ := bind_eq_ok h
  have hempty : (w.emptyModule o).ReadFrom w := by simp [Module.ReadFrom, emptyModule]
  exact foldlM_keeps (p := fun m => m.ReadFrom w) (fun m name m' _ hm hload => loadFile_readFrom hm hload) hempty hfold

/-- A module that was loaded comes from its directory, and has each file once. -/
theorem loadModule_frame {o : Origin} {m : Module} (h : w.loadModule o = .ok m) :
    m.origin = o ∧ m.fileNames.Nodup ∧ ∃ l, w.locate o.absDir = .ok l ∧ w.node? l = some .directory := by
  obtain ⟨names, hnames, hload⟩ := bind_eq_ok h
  have hfiles : m.origin = o ∧ m.fileNames.Nodup := by
    refine foldlM_keeps (p := fun m => m.origin = o ∧ m.fileNames.Nodup) (fun m name m' _ hm hfile => ?_)
      ⟨rfl, List.nodup_nil⟩ hload
    obtain ⟨content, -, hadd⟩ := bind_eq_ok hfile
    obtain ⟨body, -, hfiles, -, horigin⟩ := Module.addFile_files (mapError_eq_ok hadd)
    have hset := Module.fileNames_nodup_setFile hm.2 name { stored? := some content, body }
    exact ⟨horigin.trans hm.1, by rwa [Module.fileNames, hfiles]⟩
  refine ⟨hfiles.1, hfiles.2, ?_⟩
  obtain ⟨l, hlocate, hl⟩ := bind_eq_ok (mapError_eq_ok hnames)
  refine ⟨l, hlocate, ?_⟩
  cases hnode : w.node? l with
  | none => simp [hnode] at hl
  | some n =>
    cases n with
    | file content => simp [hnode] at hl
    | directory => rfl

/-- A module that was changed was loaded and then run on. -/
theorem runModule_eq_ok {tool? : Option Provider.Tool} {c : Config} {o : Origin} {m : Module}
    (h : (w.runModule tool? c o).result = .ok m) :
    ∃ m₀ summary session, w.loadModule o = .ok m₀ ∧
      (c.run tool?).run.run { module := m₀ } = (.ok summary, session) ∧ session.module = m := by
  unfold runModule at h
  cases hload : w.loadModule o with
  | error e => simp [hload] at h
  | ok m₀ =>
    simp only [hload] at h
    rcases hrun : (c.run tool?).run.run { module := m₀ } with ⟨e | summary, session⟩
    · simp [hrun] at h
    · simp only [hrun, Except.ok.injEq] at h
      exact ⟨m₀, summary, session, rfl, hrun, h⟩

theorem runModule_readFrom {tool? : Option Provider.Tool} {c : Config} {o : Origin} {m : Module}
    (h : (w.runModule tool? c o).result = .ok m) : m.ReadFrom w := by
  obtain ⟨m₀, summary, session, hload, hrun, rfl⟩ := runModule_eq_ok h
  have hkeeps := c.run_keeping tool? { module := m₀ }
  rw [hrun] at hkeeps
  exact (loadModule_readFrom hload).keeps hkeeps

theorem runModule_frame {tool? : Option Provider.Tool} {c : Config} {o : Origin} {m : Module}
    (h : (w.runModule tool? c o).result = .ok m) :
    m.origin = o ∧ m.fileNames.Nodup ∧ ∃ l, w.locate o.absDir = .ok l ∧ w.node? l = some .directory := by
  obtain ⟨m₀, summary, session, hload, hrun, rfl⟩ := runModule_eq_ok h
  have hkeeps := c.run_keeping tool? { module := m₀ }
  rw [hrun] at hkeeps
  obtain ⟨horigin, hnodup, hdir⟩ := loadModule_frame hload
  exact ⟨hkeeps.origin.trans horigin, hkeeps.names hnodup, hdir⟩

theorem exists_of_forall₂ {α β : Type} {r : α → β → Prop} {xs : List α} {ys : List β} (h : List.Forall₂ r xs ys) :
    ∀ y ∈ ys, ∃ x ∈ xs, r x y := by
  induction h with
  | nil => simp
  | cons hxy _ ih =>
    intro y hy
    rcases List.mem_cons.mp hy with rfl | hy
    · exact ⟨_, List.mem_cons_self, hxy⟩
    · obtain ⟨x, hx, hxy⟩ := ih y hy
      exact ⟨x, List.mem_cons_of_mem _ hx, hxy⟩

/-- When all modules were changed, each of them was. -/
theorem runModules_eq_ok {tool? : Option Provider.Tool} {c : Config} {origins : List Origin} {modules : List Module}
    (h : (w.runModules tool? c origins).result = .ok modules) :
    List.Forall₂ (fun o m => (w.runModule tool? c o).result = .ok m) origins modules := by
  induction origins generalizing modules with
  | nil =>
    cases h
    exact .nil
  | cons o rest ih =>
    simp only [runModules] at h
    cases hfirst : (w.runModule tool? c o).result with
    | error e => simp [hfirst] at h
    | ok m =>
      simp only [hfirst] at h
      obtain ⟨others, hothers, rfl⟩ := map_eq_ok h
      exact .cons hfirst (ih hothers)

/-- The first file is saved, and the others after it if that succeeds. -/
theorem saveFiles_cons_cases {files : List (String × SourceFile)} {p : String × SourceFile}
    {result : Except SaveError (List String)}
    (h : saveFiles (p :: files) w = (w', result)) :
    (∃ e, w.saveFile p.1 p.2 = (w', .error e) ∧ result = .error e) ∨
      ∃ w₁ saved, w.saveFile p.1 p.2 = (w₁, .ok ()) ∧ saveFiles files w₁ = (w', saved) ∧
        result = saved.map (p.1 :: ·) := by
  obtain ⟨path, f⟩ := p
  rw [saveFiles] at h
  rcases hfirst : w.saveFile path f with ⟨w₁, e | u⟩
  · simp only [hfirst, Prod.mk.injEq] at h
    exact .inl ⟨e, by rw [h.1], h.2.symm⟩
  · simp only [hfirst, Prod.mk.injEq] at h
    exact .inr ⟨w₁, _, rfl, Prod.ext h.1 rfl, h.2.symm⟩

/-- The paths of files that are saved. -/
theorem saveFiles_paths {files : List (String × SourceFile)} {paths : List String}
    (h : saveFiles files w = (w', .ok paths)) : paths = files.map (·.1) := by
  induction files generalizing w w' paths with
  | nil =>
    cases h
    rfl
  | cons p rest ih =>
    rcases saveFiles_cons_cases h with ⟨e, -, he⟩ | ⟨w₁, saved, -, hrest, hsaved⟩
    · cases he
    · obtain ⟨others, rfl, rfl⟩ := map_eq_ok hsaved.symm
      rw [List.map_cons, ← ih hrest]

/-- A run that has changed all modules has read the configuration and the targets before. -/
theorem changedModules_eq_ok {tool? : Option Provider.Tool} {dir configDir : String} {recursive : Bool}
    {modules : List Module} (h : (w.changedModules tool? dir configDir recursive).result = .ok modules) :
    ∃ c origins, w.loadConfig configDir = .ok c ∧ w.targets dir recursive = .ok origins ∧
      (w.runModules tool? c origins).result = .ok modules := by
  unfold changedModules at h
  cases hconfig : w.loadConfig configDir with
  | error e => simp [hconfig] at h
  | ok c =>
    simp only [hconfig] at h
    cases htargets : w.targets dir recursive with
    | error e => simp [htargets] at h
    | ok origins =>
      simp only [htargets] at h
      exact ⟨c, origins, rfl, rfl, h⟩

/-- A run whose modules cannot be changed does nothing to the workspace. -/
theorem transform_of_error {tool? : Option Provider.Tool} {dir configDir : String} {recursive : Bool}
    {e : WorkspaceError} (h : (w.changedModules tool? dir configDir recursive).result = .error e) :
    (w.transform tool? dir configDir recursive).1 = w ∧
      (w.transform tool? dir configDir recursive).2.result = .error e := by
  unfold transform
  simp only [h, and_self]

/-- A run that has changed all modules saves their changed files. -/
theorem transform_of_ok {tool? : Option Provider.Tool} {dir configDir : String} {recursive : Bool}
    {modules : List Module} (h : (w.changedModules tool? dir configDir recursive).result = .ok modules) :
    (w.transform tool? dir configDir recursive).1 = (saveFiles (modules.flatMap Module.unsaved) w).1 ∧
      (w.transform tool? dir configDir recursive).2.result =
        (saveFiles (modules.flatMap Module.unsaved) w).2.mapError .save := by
  unfold transform
  simp only [h, and_self]

/-- A run succeeds if all modules can be changed and their changed files can be saved. -/
theorem transform_of_saved {tool? : Option Provider.Tool} {dir configDir : String} {recursive : Bool}
    {modules : List Module} {paths : List String}
    (h : (w.changedModules tool? dir configDir recursive).result = .ok modules)
    (hsaved : (saveFiles (modules.flatMap Module.unsaved) w).2 = .ok paths) :
    (w.transform tool? dir configDir recursive).2.result = .ok paths := by
  rw [(transform_of_ok h).2, hsaved]
  rfl

/-- A run that succeeds has changed all modules and saved their changed files. -/
theorem transform_eq_ok {tool? : Option Provider.Tool} {dir configDir : String} {recursive : Bool}
    {paths : List String} (h : (w.transform tool? dir configDir recursive).2.result = .ok paths) :
    ∃ modules, (w.changedModules tool? dir configDir recursive).result = .ok modules ∧
      saveFiles (modules.flatMap Module.unsaved) w = ((w.transform tool? dir configDir recursive).1, .ok paths) := by
  cases hmodules : (w.changedModules tool? dir configDir recursive).result with
  | error e => simp [(transform_of_error hmodules).2] at h
  | ok modules =>
    obtain ⟨hleft, hresult⟩ := transform_of_ok hmodules
    exact ⟨modules, rfl, Prod.ext hleft.symm (mapError_eq_ok (hresult.symm.trans h))⟩

/-- Every file that a run saves knows what the workspace held at its path before. -/
theorem unsaved_stored {tool? : Option Provider.Tool} {dir configDir : String} {recursive : Bool}
    {modules : List Module} (h : (w.changedModules tool? dir configDir recursive).result = .ok modules) :
    ∀ p ∈ modules.flatMap Module.unsaved, p.2.stored? = (w.read p.1).toOption := by
  obtain ⟨c, origins, -, -, hrun⟩ := changedModules_eq_ok h
  intro p hp
  obtain ⟨m, hm, hunsaved⟩ := List.mem_flatMap.mp hp
  obtain ⟨q, hq, rfl⟩ := List.mem_map.mp hunsaved
  obtain ⟨o, -, hmodule⟩ := exists_of_forall₂ (runModules_eq_ok hrun) m hm
  have hread := runModule_readFrom hmodule
  have hfile := hread.2 q (List.mem_of_mem_filter hq)
  rw [hread.1] at hfile
  exact hfile

end Workspace

end Terrasmith
