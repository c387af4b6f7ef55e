import Terrasmith.Proofs.Reset
import Terrasmith.Proofs.Writing

/-!
A run is all or nothing as long as no file is being saved. Loading and changing the modules leaves the workspace alone,
whatever fails on the way, and saving reaches the changed files and their backups only.
-/
namespace Terrasmith

open Backup

namespace Workspace

variable {w : Workspace} {tool? : Option Provider.Tool}

theorem runModule_ne_save {c : Config} {o : Origin} {e : WorkspaceError}
    (h : (w.runModule tool? c o).result = .error e) (s : SaveError) : e ≠ .save s := by
  unfold runModule at h
  cases hload : w.loadModule o with
  | error cause =>
    simp only [hload, Except.error.injEq] at h
    subst h
    nofun
  | ok m =>
    simp only [hload] at h
    rcases hrun : (c.run tool?).run.run { module := m } with ⟨cause | summary, session⟩
    · simp only [hrun, Except.error.injEq] at h
      subst h
      nofun
    · simp [hrun] at h

/-- No module fails for a file that cannot be saved. -/
theorem runModules_ne_save {c : Config} {origins : List Origin} {e : WorkspaceError}
    (h : (w.runModules tool? c origins).result = .error e) (s : SaveError) : e ≠ .save s := by
  induction origins with
  | nil => cases h
  | cons o rest ih =>
    simp only [runModules] at h
    cases hfirst : (w.runModule tool? c o).result with
    | error first =>
      obtain rfl : first = e := by simpa [hfirst] using h
      exact runModule_ne_save hfirst s
    | ok m =>
      simp only [hfirst] at h
      cases hrest : (w.runModules tool? c rest).result with
      | error later =>
        obtain rfl : later = e := by simpa [hrest, Except.map] using h
        exact ih hrest
      | ok modules => simp [hrest, Except.map] at h

/-- The modules are changed before a file is saved, so nothing that fails then has to do with saving. -/
theorem changedModules_ne_save {dir configDir : String} {recursive : Bool} {e : WorkspaceError}
    (h : (w.changedModules tool? dir configDir recursive).result = .error e) (s : SaveError) : e ≠ .save s := by
  unfold changedModules at h
  cases hconfig : w.loadConfig configDir with
  | error cause =>
    simp only [hconfig, Except.error.injEq] at h
    subst h
    nofun
  | ok c =>
    cases htargets : w.targets dir recursive with
    | error cause =>
      simp only [hconfig, htargets, Except.error.injEq] at h
      subst h
      nofun
    | ok origins =>
      simp only [hconfig, htargets] at h
      exact runModules_ne_save h s

end Workspace

/-- A run that fails before it comes to saving leaves the workspace as it was, and it comes to saving only when all
modules have been changed. A run that succeeds gives the paths of the changed files, and leaves all else but them and
their backups as it was. -/
theorem run_is_all_or_nothing (w : Workspace) (tool? : Option Provider.Tool) (dir configDir : String)
    (recursive : Bool) :
    (∀ e, (w.transform tool? dir configDir recursive).2.result = .error e → (∀ s, e ≠ .save s) →
      (w.transform tool? dir configDir recursive).1 = w) ∧
    (∀ s, (w.transform tool? dir configDir recursive).2.result = .error (.save s) →
      ∃ modules, (w.changedModules tool? dir configDir recursive).result = .ok modules) ∧
    ∀ paths, (w.transform tool? dir configDir recursive).2.result = .ok paths →
      (∃ modules, (w.changedModules tool? dir configDir recursive).result = .ok modules ∧
        paths = (modules.flatMap Module.unsaved).map (·.1)) ∧
      ∀ k, (∀ path ∈ paths, w.locate path ≠ .ok k ∧ w.locate (pathOf path) ≠ .ok k) →
        (w.transform tool? dir configDir recursive).1.node? k = w.node? k := by
  refine ⟨fun e he hsave => ?_, fun s hs => ?_, fun paths hpaths => ?_⟩
  · cases hmodules : (w.changedModules tool? dir configDir recursive).result with
    | error cause => exact (Workspace.transform_of_error hmodules).1
    | ok modules =>
      rw [(Workspace.transform_of_ok hmodules).2] at he
      cases hsaved : (Workspace.saveFiles (modules.flatMap Module.unsaved) w).2 with
      | ok paths => simp [hsaved, Except.mapError] at he
      | error s =>
        rw [hsaved] at he
        exact absurd (Except.error.inj he).symm (hsave s)
  · cases hmodules : (w.changedModules tool? dir configDir recursive).result with
    | error cause =>
      have hcause := Except.error.inj ((Workspace.transform_of_error hmodules).2.symm.trans hs)
      exact absurd hcause (Workspace.changedModules_ne_save hmodules s)
    | ok modules => exact ⟨modules, rfl⟩
  · obtain ⟨modules, hmodules, hsave⟩ := Workspace.transform_eq_ok hpaths
    obtain rfl := Workspace.saveFiles_paths hsave
    refine ⟨⟨modules, hmodules, rfl⟩, fun k hk => ?_⟩
    refine Workspace.saveFiles_elsewhere hsave fun p hp => ?_
    obtain ⟨hpath, hbackup⟩ := hk p.1 (List.mem_map_of_mem hp)
    exact ⟨hpath, fun hlocate => absurd hlocate hbackup⟩

/-- Variables of the given names are added to `new.tf`, one after the other, beside `main.tf` and an image. -/
def additionsBeside (labels : List String) : Workspace where
  nodes := [
    (["conf"], .directory),
    (["conf", "main.mptf.hcl"], .file (.text (Text.join "\n" (labels.map (additionTo "new.tf"))))),
    (["main.tf"], .file (.text "variable \"a\" \x7b\n\x7d\n")),
    (["images"], .directory),
    (["images", "a.png"], .file (.bytes [0x89, 0x50]))]

/-- Adding `b` and then `a`, which is taken, does nothing at all. Adding `b` alone leaves all other files. -/
theorem run_is_all_or_nothing_additions :
    (((additionsBeside ["b", "a"]).transform none "." "conf" false).2.result.toOption = none ∧
      ((additionsBeside ["b", "a"]).transform none "." "conf" false).1 = additionsBeside ["b", "a"]) ∧
    (((additionsBeside ["b"]).transform none "." "conf" false).2.result.toOption = some ["/new.tf"] ∧
      ∀ k ∈ [["main.tf"], ["images", "a.png"], ["conf", "main.mptf.hcl"]],
        ((additionsBeside ["b"]).transform none "." "conf" false).1.node? k = (additionsBeside ["b"]).node? k) := by
  have hfails : ((additionsBeside ["b", "a"]).changedModules none "." "conf" false).result.toOption = none := by
    have hdisk : ((additionsBeside ["b", "a"]).fileNames "conf").toOption = some ["main.mptf.hcl"] ∧
        ((additionsBeside ["b", "a"]).read (Path.join "conf" "main.mptf.hcl")).toOption =
          some (additionTo "new.tf" "b" ++ "\n" ++ additionTo "new.tf" "a") := by decide +kernel
    have hconfig := loadConfig_of_single (ok_of_toOption hdisk.1) (by decide +kernel) (ok_of_toOption hdisk.2)
    have hchars : (additionTo "new.tf" "b" ++ "\n" ++ additionTo "new.tf" "a").toList = _ :=
      String.toList_append.trans (congrArg₂ (· ++ ·) (String.toList_append.trans (congrArg₂ (· ++ ·)
        (additionChars _ _).2 rfl)) (additionChars _ _).2)
    rw [Workspace.changedModules, hconfig, Source.parse?, hchars]
    decide +kernel
  have hsaves : ((additionsBeside ["b"]).transform none "." "conf" false).2.result.toOption = some ["/new.tf"] := by
    decide +kernel
  refine ⟨?_, hsaves, ?_⟩
  · cases hmodules : ((additionsBeside ["b", "a"]).changedModules none "." "conf" false).result with
    | ok modules =>
      rw [hmodules] at hfails
      cases hfails
    | error e =>
      have hresult := (Workspace.transform_of_error hmodules).2
      refine ⟨by rw [hresult]; rfl, ?_⟩
      exact (run_is_all_or_nothing (additionsBeside ["b", "a"]) none "." "conf" false).1 e hresult
        (Workspace.changedModules_ne_save hmodules)
  · have helsewhere := ((run_is_all_or_nothing (additionsBeside ["b"]) none "." "conf" false).2.2 _
      (ok_of_toOption hsaves)).2
    intro k hk
    refine helsewhere k fun path hpath => ?_
    obtain rfl : path = "/new.tf" := by simpa using hpath
    revert k
    decide +kernel

end Terrasmith
