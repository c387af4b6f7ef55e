import Terrasmith.Proofs.Additions
import Terrasmith.Proofs.Atomicity
import Terrasmith.Proofs.Trace

/-!
Where a run writes. A file comes to a module from its directory, by a move, or by what is added to it. The names of
the first two are those of files right in the directory; the third may be any path, so a run stays inside of the
directory exactly if the paths that it adds to do.
-/
namespace Terrasmith

open Source Backup

/-- A file name that ends in `.tf` and has no slash. -/
def IsPlain (name : String) : Prop := '/' ∉ name.toList ∧ Text.endsWith name ".tf" = true

/-- A path of a file of that kind right in a directory. -/
def Inside (dir path : String) : Prop := ∃ name, IsPlain name ∧ path = Path.join dir name

theorem isPlain_of_isModuleFileName {name : String} (h : isModuleFileName name = true) : IsPlain name := by
  obtain ⟨hslash, hend⟩ := Bool.and_eq_true_iff.mp h
  refine ⟨fun hmem => ?_, hend⟩
  simp only [Bool.not_eq_true', List.any_eq_false] at hslash
  exact hslash _ hmem (by simp)

namespace Module

/-- Whether a file counts as changed. -/
def IsChanged (m : Module) (name : String) : Prop := ∃ f, m.file? name = some f ∧ f.changed = true

theorem isChanged_appendStructure (m : Module) (name : String) (s : Structure) :
    (m.appendStructure name s).IsChanged name := ⟨_, file?_setFile_self .., rfl⟩

theorem isChanged_addLocal {m : Module} {a : Attribute} {fileName : String}
    (hfree : m.contains (BlockKind.local.address [a.key]) = false) :
    (Applied.ofResult m ((m.addLocal a fileName).map (·.1))).module.IsChanged fileName := by
  simp only [addLocal, hfree]
  exact isChanged_appendStructure m fileName _

theorem isChanged_addBlock {m : Module} {kind : BlockKind} {b : Block} {fileName : String}
    (hfree : m.contains (kind.address b.labelTexts) = false) :
    (Applied.ofResult m ((m.addBlock kind b fileName).map (·.1))).module.IsChanged fileName := by
  simp only [addBlock, hfree]
  exact isChanged_appendStructure m fileName _

namespace Edits

variable {p : String → Prop} {m m' : Module} {name : String}

theorem fileNames (h : Edits p m m') (hname : name ∈ m'.fileNames) : name ∈ m.fileNames ∨ p name := by
  have hset : ∀ {m : Module} {other : String} {f : SourceFile}, name ∈ (m.setFile other f).fileNames →
      name = other ∨ name ∈ m.fileNames := by
    intro m other f hmem
    obtain ⟨entry, hentry, rfl⟩ := List.mem_map.mp hmem
    exact (mem_insertEntry hentry).imp (congrArg Prod.fst) (List.mem_map_of_mem (f := Prod.fst))
  induction h with
  | refl m => exact .inl hname
  | trans _ _ ih ih' => exact (ih' hname).elim ih .inr
  | withRegistry _ registry ih => exact ih hname
  | setFile hfile _ =>
    rcases hset hname with rfl | hname
    · exact .inl (List.mem_map_of_mem (f := Prod.fst) (mem_of_lookup hfile))
    · exact .inl hname
  | appendStructure m hp s =>
    rcases hset hname with rfl | hname
    · exact .inr hp
    · exact .inl hname

/-- A file that counts as changed does so from then on. -/
theorem isChanged (h : Edits p m m') (hname : m.IsChanged name) : m'.IsChanged name := by
  have hset : ∀ {m : Module} {other : String} {f : SourceFile}, m.IsChanged name →
      (other = name → f.changed = true) → (m.setFile other f).IsChanged name := by
    rintro m other f ⟨g, hg, hchanged⟩ hf
    by_cases hother : other = name
    · subst hother
      exact ⟨f, file?_setFile_self .., hf rfl⟩
    · refine ⟨g, ?_, hchanged⟩
      rwa [Module.file?, Module.setFile, lookup_insertEntry_of_ne (Ne.symm hother)]
  induction h with
  | refl m => exact hname
  | trans _ _ ih ih' => exact ih' (ih hname)
  | withRegistry _ registry ih => exact ih hname
  | @setFile m other old new hfile hbecomes =>
    refine hset hname ?_
    rintro rfl
    obtain ⟨g, hg, hchanged⟩ := hname
    obtain rfl : old = g := Option.some.inj (hfile.symm.trans hg)
    by_contra hnew
    have hold := (hbecomes.unchanged (Bool.eq_false_iff.mpr hnew)).1
    simp [hchanged] at hold
  | appendStructure m _ s => exact hset hname fun _ => rfl

end Edits

end Module

namespace Transform

/-- What a transform adds to counts as changed. -/
theorem isChanged_of_addsTo {t : Transform} {m : Module} {name : String} (h : name ∈ t.addsTo m) :
    (t.apply m).module.IsChanged name := by
  cases t with
  | ensureLocal label fileName value =>
    simp only [addsTo, apply] at h ⊢
    cases hvalue : value.attribute label with
    | error e => simp [hvalue] at h
    | ok a =>
      simp only [hvalue] at h ⊢
      split at h
      · cases h
      · next hfree =>
        obtain rfl := List.mem_singleton.mp h
        rw [if_neg hfree]
        exact Module.isChanged_addLocal (by rw [LocalValue.key_attribute hvalue]; exact Bool.eq_false_iff.mpr hfree)
  | newBlock kind? labels fileName body =>
    cases kind? with
    | none =>
      simp only [addsTo, apply] at h ⊢
      cases hattributes : body.attributes with
      | nil => simp [hattributes] at h
      | cons a rest =>
        rw [hattributes] at h
        dsimp only at h
        split at h
        · cases h
        · next hfree =>
          obtain rfl := List.mem_singleton.mp h
          have hfirst : (Applied.ofResult m ((m.addLocal a name).map (·.1))).module.IsChanged name :=
            Module.isChanged_addLocal (Bool.eq_false_iff.mpr hfree)
          rw [Applied.forAll_cons]
          split
          · exact hfirst
          · exact (Module.Edits.forAll (p := fun _ => True) (fun a m =>
              .ofResult_map fun m' _ hok => .addLocal trivial hok) _).isChanged hfirst
    | some kind =>
      simp only [addsTo, apply] at h ⊢
      split at h
      · cases h
      · next hfree =>
        obtain rfl := List.mem_singleton.mp h
        exact Module.isChanged_addBlock (by rw [Block.labelTexts_eq rfl]; exact Bool.eq_false_iff.mpr hfree)
  | _ => cases h

/-- The files that a list of transforms adds new blocks to. -/
def allAddTo : List Transform → Module → List String
  | [], _ => []
  | t :: rest, m => t.addsTo m ++ allAddTo rest (t.apply m).module

theorem edits_applyAll {ts : List Transform} {m : Module} {p : String → Prop} (hadds : ∀ name ∈ allAddTo ts m, p name)
    (hmoves : ∀ t ∈ ts, ∀ target fileName, t = .moveBlock target fileName → p fileName) :
    m.Edits p (applyAll ts m) := by
  induction ts generalizing m with
  | nil => exact .refl m
  | cons t rest ih =>
    refine .trans (t.edits m (fun name hname => hadds name (List.mem_append_left _ hname))
      (hmoves t List.mem_cons_self)) (ih (fun name hname => hadds name (List.mem_append_right _ hname)) ?_)
    exact fun t ht => hmoves t (List.mem_cons_of_mem _ ht)

theorem isChanged_applyAll {ts : List Transform} {m : Module} {name : String} (h : name ∈ allAddTo ts m) :
    (applyAll ts m).IsChanged name := by
  induction ts generalizing m with
  | nil => cases h
  | cons t rest ih =>
    rcases List.mem_append.mp h with hfirst | hrest
    · have hedits : (t.apply m).module.Edits (fun _ => True) (applyAll rest (t.apply m).module) :=
        edits_applyAll (fun _ _ => trivial) fun _ _ _ _ _ => trivial
      exact hedits.isChanged (isChanged_of_addsTo hfirst)
    · exact ih hrest

end Transform

/-! ## Runs -/

theorem Declaration.exists_decode {d : Declaration} {results : Results} {m : Module} {t : Transform}
    (h : t ∈ d.transforms results m) : ∃ scope, Transform.decode d.type d.body scope m = .ok t := by
  unfold Declaration.transforms at h
  split at h
  · obtain ⟨i?, -, hdecode⟩ := List.mem_filterMap.mp h
    exact ⟨_, ok_of_toOption hdecode⟩
  · cases h

/-- Every transform of a run is read from a declaration. -/
theorem checked_of_transforms {c : Config} {tool? : Option Provider.Tool} {m : Module} {t : Transform}
    (h : t ∈ c.transforms tool? m) : t.Checked := by
  have hfrom : ∀ (declarations : List Declaration) (done : Results × Summary) (session : Session),
      t ∈ transformsFrom tool? declarations done session → t.Checked := by
    intro declarations
    induction declarations with
    | nil => exact fun _ _ hmem => absurd hmem List.not_mem_nil
    | cons d rest ih =>
      intro done session hmem
      rw [transformsFrom] at hmem
      rcases List.mem_append.mp hmem with hfirst | hrest
      · obtain ⟨scope, hdecode⟩ := d.exists_decode hfirst
        exact Transform.checked_of_decode hdecode
      · split at hrest
        · exact ih _ _ hrest
        · cases hrest
  unfold Config.transforms at h
  split at h
  · exact hfrom _ _ _ h
  · cases h

namespace Workspace

variable {w : Workspace}

/-- No name has a slash in it. -/
def Named (w : Workspace) : Prop := ∀ e ∈ w.nodes, ∀ part ∈ e.1, '/' ∉ part.toList

instance (w : Workspace) : Decidable w.Named :=
  inferInstanceAs (Decidable (∀ e ∈ w.nodes, ∀ part ∈ e.1, '/' ∉ part.toList))

theorem Named.fileNames (hw : w.Named) {dir : String} {names : List String} (h : w.fileNames dir = .ok names) :
    ∀ name ∈ names, '/' ∉ name.toList := by
  intro name hname
  obtain ⟨l, -, h⟩ := bind_eq_ok h
  split at h
  · cases h
  · cases h
  · cases h
    obtain ⟨⟨k, node⟩, he, hfile⟩ := List.mem_filterMap.mp (List.mem_mergeSort.mp hname)
    cases node with
    | directory => cases hfile
    | file content =>
      simp only [fileIn?] at hfile
      split at hfile
      · exact hw _ he name (List.mem_of_getLast? hfile)
      · cases hfile

theorem fileNames_loadFile {m m' : Module} {name : String} (h : w.loadFile m name = .ok m') :
    ∀ other ∈ m'.fileNames, other ∈ m.fileNames ∨ other = name := by
  intro other hother
  obtain ⟨content, -, hadd⟩ := bind_eq_ok h
  obtain ⟨body, -, hfiles, -, -⟩ := Module.addFile_files (mapError_eq_ok hadd)
  obtain ⟨entry, hentry, rfl⟩ := List.mem_map.mp hother
  rw [hfiles] at hentry
  exact (mem_insertEntry hentry).symm.imp (List.mem_map_of_mem (f := Prod.fst)) (congrArg Prod.fst)

theorem fileNames_foldlM_loadFile {names : List String} {m m' : Module} (h : names.foldlM w.loadFile m = .ok m') :
    ∀ name ∈ m'.fileNames, name ∈ m.fileNames ∨ name ∈ names := by
  induction names generalizing m with
  | nil =>
    cases h
    exact fun name hname => .inl hname
  | cons first rest ih =>
    rw [List.foldlM_cons] at h
    obtain ⟨m₁, hfirst, hrest⟩ := bind_eq_ok h
    intro name hname
    rcases ih hrest name hname with hname | hname
    · exact (fileNames_loadFile hfirst name hname).imp id fun heq => by rw [heq]; exact List.mem_cons_self
    · exact .inr (List.mem_cons_of_mem first hname)

/-- The files of a module that was loaded are right in its directory. -/
theorem Named.loadModule (hw : w.Named) {o : Origin} {m : Module} (h : w.loadModule o = .ok m) :
    ∀ name ∈ m.fileNames, IsPlain name := by
  intro name hname
  obtain ⟨names, hnames, hload⟩ := bind_eq_ok h
  rcases fileNames_foldlM_loadFile hload name hname with hname | hname
  · cases hname
  · obtain ⟨hmem, hmodule⟩ := List.mem_filter.mp hname
    simp only [isModuleFile, Bool.and_eq_true] at hmodule
    exact ⟨hw.fileNames (mapError_eq_ok hnames) name hmem, hmodule.1.1⟩

theorem exists_unsaved {m : Module} {name : String} (h : m.IsChanged name) :
    Path.join m.origin.absDir name ∈ m.unsaved.map (·.1) := by
  obtain ⟨f, hf, hchanged⟩ := h
  exact List.mem_map.mpr ⟨_, List.mem_map.mpr ⟨(name, f), List.mem_filter.mpr ⟨mem_of_lookup hf, hchanged⟩, rfl⟩, rfl⟩

theorem mem_unsaved {m : Module} {path : String} (h : path ∈ m.unsaved.map (·.1)) :
    ∃ name ∈ m.fileNames, path = Path.join m.origin.absDir name := by
  obtain ⟨p, hp, rfl⟩ := List.mem_map.mp h
  obtain ⟨⟨name, f⟩, hf, rfl⟩ := List.mem_map.mp hp
  exact ⟨name, List.mem_map_of_mem (f := Prod.fst) (List.mem_filter.mp hf).1, rfl⟩

/-- A module whose changed files are right in its directory is one to which only such files are added. -/
theorem runModule_inside_iff {c : Config} {o : Origin} {m m₀ : Module} {tool? : Option Provider.Tool} (hw : w.Named)
    (h : (w.runModule tool? c o).result = .ok m) (hload : w.loadModule o = .ok m₀) :
    (∀ path ∈ m.unsaved.map (·.1), Inside o.absDir path) ↔
      ∀ name ∈ Transform.allAddTo (c.transforms tool? m₀) m₀, Inside o.absDir (Path.join o.absDir name) := by
  obtain ⟨horigin, -, -⟩ := runModule_frame h
  obtain ⟨m₁, summary, session, hload', hrun, rfl⟩ := runModule_eq_ok h
  obtain rfl := Except.ok.inj (hload.symm.trans hload')
  rw [← horigin]
  constructor
  · intro hinside name hname
    refine hinside _ (exists_unsaved ?_)
    rw [Config.run_module hrun]
    exact Transform.isChanged_applyAll hname
  · intro hinside path hpath
    obtain ⟨name, hname, rfl⟩ := mem_unsaved hpath
    have hmoves : ∀ t ∈ c.transforms tool? m₀, ∀ target fileName, t = .moveBlock target fileName →
        Inside session.module.origin.absDir (Path.join session.module.origin.absDir fileName) :=
      fun t ht target fileName hmove =>
        ⟨fileName, isPlain_of_isModuleFileName ((checked_of_transforms ht).moved target fileName hmove), rfl⟩
    rw [Config.run_module hrun] at hname
    rcases (Transform.edits_applyAll hinside hmoves).fileNames hname with hloaded | hadded
    · exact ⟨name, hw.loadModule hload name hloaded, rfl⟩
    · exact hadded

end Workspace

/-- A run that succeeds on one module leaves all as it was but the paths it gives and their backups. These paths are
right in the directory of the module exactly if those that it adds new blocks to are, for the files it has loaded and
those it moves blocks to always are. -/
theorem writes_stay_inside_iff {w : Workspace} {tool? : Option Provider.Tool} {dir configDir : String}
    {paths : List String} (hw : w.Named) (h : (w.transform tool? dir configDir false).2.result = .ok paths) :
    (∀ k, (∀ path ∈ paths, w.locate path ≠ .ok k ∧ w.locate (pathOf path) ≠ .ok k) →
      (w.transform tool? dir configDir false).1.node? k = w.node? k) ∧
    ∃ c m, w.loadConfig configDir = .ok c ∧ w.loadModule (w.rootOrigin dir) = .ok m ∧
      ((∀ path ∈ paths, Inside (w.absolute dir) path) ↔
        ∀ name ∈ Transform.allAddTo (c.transforms tool? m) m,
          Inside (w.absolute dir) (Path.join (w.absolute dir) name)) := by
  obtain ⟨modules, hmodules, hsave⟩ := Workspace.transform_eq_ok h
  obtain rfl := Workspace.saveFiles_paths hsave
  constructor
  · intro k hk
    refine Workspace.saveFiles_elsewhere hsave fun p hp => ?_
    obtain ⟨hpath, hbackup⟩ := hk p.1 (List.mem_map_of_mem hp)
    exact ⟨hpath, fun hlocate => absurd hlocate hbackup⟩
  · obtain ⟨c, origins, hconfig, htargets, hrun⟩ := Workspace.changedModules_eq_ok hmodules
    obtain rfl : [w.rootOrigin dir] = origins := Except.ok.inj htargets
    obtain ⟨m, rfl, hmodule⟩ : ∃ m, modules = [m] ∧ (w.runModule tool? c (w.rootOrigin dir)).result = .ok m := by
      cases Workspace.runModules_eq_ok hrun with
      | cons hmodule hrest =>
        cases hrest
        exact ⟨_, rfl, hmodule⟩
    obtain ⟨m₀, -, -, hload, -, -⟩ := Workspace.runModule_eq_ok hmodule
    refine ⟨c, m₀, hconfig, hload, ?_⟩
    have hdir : (w.rootOrigin dir).absDir = w.absolute dir := rfl
    rw [List.flatMap_singleton, ← hdir]
    exact Workspace.runModule_inside_iff hw hmodule hload

/-- A variable `n` is added to a file of the module in `mod`, which has another one. -/
def additionIn (fileName : String) : Workspace where
  nodes := [
    (["conf"], .directory),
    (["conf", "main.mptf.hcl"], .file (.text (additionTo fileName "n"))),
    (["mod"], .directory),
    (["mod", "main.tf"], .file (.text "variable \"v\" \x7b\n\x7d\n"))]

/-- A file of the module is added to. -/
theorem writes_stay_inside_iff_addition :
    (additionIn "new.tf").Named ∧
    ((additionIn "new.tf").transform none "mod" "conf" false).2.result.toOption = some ["/mod/new.tf"] ∧
    ((additionIn "new.tf").transform none "mod" "conf" false).1.node? ["mod", "main.tf"] =
      (additionIn "new.tf").node? ["mod", "main.tf"] ∧
    ∃ c m, (additionIn "new.tf").loadConfig "conf" = .ok c ∧
      (additionIn "new.tf").loadModule ((additionIn "new.tf").rootOrigin "mod") = .ok m ∧
      Transform.allAddTo (c.transforms none m) m = ["new.tf"] ∧ ∀ path ∈ ["/mod/new.tf"], Inside "/mod" path := by
  have hnamed : (additionIn "new.tf").Named := by decide +kernel
  have hpaths : ((additionIn "new.tf").transform none "mod" "conf" false).2.result.toOption = some ["/mod/new.tf"] := by
    decide +kernel
  have hadds : ((additionIn "new.tf").loadConfig "conf").toOption.any (fun c =>
      ((additionIn "new.tf").loadModule ((additionIn "new.tf").rootOrigin "mod")).toOption.any fun m =>
        Transform.allAddTo (c.transforms none m) m = ["new.tf"]) = true := by decide +kernel
  have hdir : (additionIn "new.tf").absolute "mod" = "/mod" := by decide +kernel
  obtain ⟨helsewhere, c, m, hconfig, hload, hiff⟩ := writes_stay_inside_iff hnamed (ok_of_toOption hpaths)
  rw [hconfig, hload] at hadds
  simp only [Except.toOption, Option.any_some, decide_eq_true_eq] at hadds
  rw [hdir, hadds] at hiff
  refine ⟨hnamed, hpaths, helsewhere _ (by decide +kernel), c, m, hconfig, hload, hadds, hiff.mpr ?_⟩
  intro name hname
  obtain rfl := List.mem_singleton.mp hname
  exact ⟨"new.tf", ⟨by decide +kernel, by decide +kernel⟩, rfl⟩

/-- Nothing keeps what is added in the directory of the module. -/
theorem addition_leaves_directory :
    ((additionIn "../outside.tf").transform none "mod" "conf" false).2.result.toOption =
      some ["/mod/../outside.tf"] ∧
    ((additionIn "../outside.tf").transform none "mod" "conf" false).1.node? ["outside.tf"] =
      some (.file (.text "variable \"n\" \x7b\n\x7d\n")) ∧
    (additionIn "../outside.tf").absolute "mod" = "/mod" ∧ ¬ Inside "/mod" "/mod/../outside.tf" := by
  refine ⟨by decide +kernel, by decide +kernel, by decide +kernel, ?_⟩
  rintro ⟨name, ⟨hslash, -⟩, hpath⟩
  unfold Path.join at hpath
  split at hpath
  · rw [← hpath] at hslash
    exact hslash (by decide +kernel)
  · rw [if_neg (by decide +kernel)] at hpath
    have hchars := congrArg String.toList hpath
    have hfront : "/mod/../outside.tf".toList = "/mod/".toList ++ "../outside.tf".toList := by decide +kernel
    have hname : "../outside.tf".toList = name.toList := by simpa [hfront] using hchars
    rw [← hname] at hslash
    exact hslash (by decide +kernel)

end Terrasmith
