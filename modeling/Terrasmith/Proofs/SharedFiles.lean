import Mathlib.Data.List.Induction
import Terrasmith.Proofs.Reset
import Terrasmith.Proofs.Writing

/-!
Files of several modules. All modules are loaded and changed before the first of them is saved, so where two changed
files lead to one place the last one stays. What a run wrote stands there for all modules exactly if such files print
the same, as when the modules have directories of their own.
-/
namespace Terrasmith

open Source

namespace Workspace

variable {w w' : Workspace} {files : List (String × SourceFile)} {paths : List String}

/-- The last of the files that lead to a location. -/
theorem exists_last {k : Location} {p : String × SourceFile} (hp : p ∈ files) (hk : w.locate p.1 = .ok k) :
    ∃ before q after, files = before ++ q :: after ∧ w.locate q.1 = .ok k ∧ ∀ r ∈ after, w.locate r.1 ≠ .ok k := by
  induction files using List.reverseRecOn with
  | nil => cases hp
  | append_singleton rest last ih =>
    by_cases hlast : w.locate last.1 = .ok k
    · exact ⟨rest, last, [], rfl, hlast, by simp⟩
    · have hrest : p ∈ rest := by
        rcases List.mem_append.mp hp with hp | hp
        · exact hp
        · obtain rfl := List.mem_singleton.mp hp
          exact absurd hk hlast
      obtain ⟨before, q, after, rfl, hq, hafter⟩ := ih hrest
      refine ⟨before, q, after ++ [last], by simp, hq, fun r hr => ?_⟩
      rcases List.mem_append.mp hr with hr | hr
      · exact hafter r hr
      · obtain rfl := List.mem_singleton.mp hr
        exact hlast

/-- Files that were saved all read as they print exactly if those that lead to one place print the same. -/
theorem saveFiles_read_iff (h : saveFiles files w = (w', .ok paths)) :
    (∀ p ∈ files, w'.read p.1 = .ok p.2.render) ↔
      ∀ p ∈ files, ∀ q ∈ files, w.locate p.1 = w.locate q.1 → p.2.render = q.2.render := by
  have hsame := saveFiles_sameDirectories h
  constructor
  · intro hread p hp q hq heq
    obtain ⟨k, hk⟩ := saveFiles_located h p hp
    have hfind : w'.read p.1 = w'.read q.1 := by
      unfold read find
      rw [hsame.locate hk, hsame.locate (heq ▸ hk)]
    rw [hread p hp, hread q hq] at hfind
    exact Except.ok.inj hfind
  · intro hagree p hp
    obtain ⟨k, hk⟩ := saveFiles_located h p hp
    obtain ⟨before, q, after, rfl, hq, hafter⟩ := exists_last hp hk
    have hnode := saveFiles_last h hq hafter
    rw [hagree p hp q (by simp) (hk.trans hq.symm)]
    exact read_of_locate (hsame.locate hk) hnode

/-- Changed files of modules in directories of their own lead to places of their own. -/
theorem unsaved_apart {tool? : Option Provider.Tool} {c : Config} {origins : List Origin} {modules : List Module}
    (h : List.Forall₂ (fun o m => (w.runModule tool? c o).result = .ok m) origins modules)
    (hdirs : (origins.map fun o => w.locate o.absDir).Nodup)
    (hnames : ∀ m ∈ modules, ∀ name ∈ m.changedFiles, IsName name) :
    ∀ p ∈ modules.flatMap Module.unsaved, ∀ q ∈ modules.flatMap Module.unsaved,
      w.locate p.1 = w.locate q.1 → p = q := by
  have horigins : origins = modules.map Module.origin := by
    have hframe := h.imp fun o m hm => (runModule_frame hm).1.symm
    rwa [← List.forall₂_map_right_iff (R := Eq), List.forall₂_eq_eq_eq] at hframe
  have hplace : ∀ m ∈ modules, ∀ p ∈ m.unsaved, ∃ name f l, (name, f) ∈ m.files ∧
      p = (Path.join m.origin.absDir name, f) ∧ w.locate m.origin.absDir = .ok l ∧
      w.locate p.1 = .ok (l ++ [name]) := by
    intro m hm p hp
    obtain ⟨⟨name, f⟩, hfile, rfl⟩ := List.mem_map.mp hp
    obtain ⟨hfile, hchanged⟩ := List.mem_filter.mp hfile
    obtain ⟨o, -, hrun⟩ := exists_of_forall₂ h m hm
    obtain ⟨rfl, -, l, hlocate, hl⟩ := runModule_frame hrun
    have hname : IsName name := hnames m hm name (List.mem_map.mpr ⟨(name, f), by simp [hfile, hchanged], rfl⟩)
    exact ⟨name, f, l, hfile, rfl, hlocate, locate_join hlocate hl hname⟩
  intro p hp q hq heq
  obtain ⟨m, hm, hp⟩ := List.mem_flatMap.mp hp
  obtain ⟨m', hm', hq⟩ := List.mem_flatMap.mp hq
  obtain ⟨name, f, l, hf, rfl, hl, hlocate⟩ := hplace m hm p hp
  obtain ⟨name', f', l', hf', rfl, hl', hlocate'⟩ := hplace m' hm' q hq
  rw [hlocate, hlocate'] at heq
  obtain ⟨rfl, hlast⟩ := List.append_inj' (Except.ok.inj heq) rfl
  obtain rfl : name = name' := by simpa using hlast
  have hsame : m = m' := by
    rw [horigins, List.map_map] at hdirs
    exact List.inj_on_of_nodup_map hdirs hm hm' (hl.trans hl'.symm)
  subst hsame
  obtain ⟨o, -, hrun⟩ := exists_of_forall₂ h m hm
  have hkey := List.inj_on_of_nodup_map (runModule_frame hrun).2.1 hf hf' rfl
  rw [(Prod.mk.inj hkey).2]

end Workspace

open Workspace

/-- After a run over the modules of a project that succeeds, what the modules wrote stands in all changed files exactly
if those that lead to one place print the same. So it does when the modules are in directories of their own and the
changed files have plain names. -/
theorem changed_files_survive {w : Workspace} {tool? : Option Provider.Tool} {dir configDir : String}
    {paths : List String} (h : (w.transform tool? dir configDir true).2.result = .ok paths) :
    ∃ c all modules, w.loadConfig configDir = .ok c ∧ w.origins dir = .ok all ∧
      (w.changedModules tool? dir configDir true).result = .ok modules ∧
      List.Forall₂ (fun o m => (w.runModule tool? c o).result = .ok m) (all.filter Origin.isOwn) modules ∧
      ((∀ m ∈ modules, ∀ p ∈ m.unsaved, (w.transform tool? dir configDir true).1.read p.1 = .ok p.2.render) ↔
        ∀ m ∈ modules, ∀ p ∈ m.unsaved, ∀ m' ∈ modules, ∀ q ∈ m'.unsaved,
          w.locate p.1 = w.locate q.1 → p.2.render = q.2.render) ∧
      (((all.filter Origin.isOwn).map fun o => w.locate o.absDir).Nodup →
        (∀ m ∈ modules, ∀ name ∈ m.changedFiles, IsName name) →
        ∀ m ∈ modules, ∀ p ∈ m.unsaved, (w.transform tool? dir configDir true).1.read p.1 = .ok p.2.render) := by
  obtain ⟨modules, hmodules, hsave⟩ := transform_eq_ok h
  obtain ⟨c, origins, hconfig, htargets, hrun⟩ := changedModules_eq_ok hmodules
  have hrun := runModules_eq_ok hrun
  rw [targets, if_pos rfl] at htargets
  obtain ⟨all, hall, rfl⟩ := map_eq_ok htargets
  have hread := saveFiles_read_iff hsave
  simp only [List.mem_flatMap, forall_exists_index, and_imp] at hread
  refine ⟨c, all, modules, hconfig, hall, hmodules, hrun, ?_, fun hdirs hnames m hm p hp => ?_⟩
  · exact ⟨fun hall m hm p hp m' hm' q hq => hread.mp (fun p m hm hp => hall m hm p hp) p m hm hp q m' hm' hq,
      fun hall m hm p hp => hread.mpr (fun p m hm hp q m' hm' hq => hall m hm p hp m' hm' q hq) p m hm hp⟩
  · refine hread.mpr (fun p m hm hp q m' hm' hq heq => ?_) p m hm hp
    rw [unsaved_apart hrun hdirs hnames p (List.mem_flatMap.mpr ⟨m, hm, hp⟩) q (List.mem_flatMap.mpr ⟨m', hm', hq⟩) heq]

/-- A configuration that adds, for each variable of a module, one that is named as the module. -/
def nameModules : String :=
  "data \"variable\" \"v\" \x7b\x7d\n\ntransform \"new_block\" \"n\" \x7b\n  for_each = data.variable.v.result\n"
    ++ "  new_block_type = \"variable\"\n  labels = [each.value.mptf.module.key]\n  filename = \"main.tf\"\n\x7d\n"

/-- A manifest with a module `a` and a module `b`. -/
def manifestOf (a b : String) : String :=
  "\x7b\"Modules\": [\x7b\"Key\": \"a\", \"Dir\": \"" ++ a ++ "\"\x7d, \x7b\"Key\": \"b\", \"Dir\": \"" ++ b
    ++ "\"\x7d]\x7d"

/-- The declaration of a variable. -/
def declared (name : String) : String := "variable \"" ++ name ++ "\" \x7b\n\x7d\n"

/-- Two directories with a variable `v` each, and the modules `a` and `b` in some of them. -/
def twoModules (a b : String) : Workspace where
  nodes := [
    (["conf"], .directory),
    (["conf", "main.mptf.hcl"], .file (.text nameModules)),
    ([".terraform"], .directory),
    ([".terraform", "modules"], .directory),
    ([".terraform", "modules", "modules.json"], .file (.text (manifestOf a b))),
    (["x"], .directory),
    (["x", "main.tf"], .file (.text (declared "v"))),
    (["y"], .directory),
    (["y", "main.tf"], .file (.text (declared "v")))]

/-- Both modules are changed, and their files are saved. -/
theorem changedModules_twoModules :
    (((twoModules "x" "y").changedModules none "." "conf" true).result.toOption.any fun modules =>
      let saving := saveFiles (modules.flatMap Module.unsaved) (twoModules "x" "y")
      saving.2.toOption = some ["/x/main.tf", "/y/main.tf"] &&
        modules.all fun m => m.changedFiles.all (· = "main.tf")) = true ∧
    (((twoModules "x" "x").changedModules none "." "conf" true).result.toOption.any fun modules =>
      let saving := saveFiles (modules.flatMap Module.unsaved) (twoModules "x" "x")
      saving.2.toOption = some ["/x/main.tf", "/x/main.tf"] &&
        modules.any fun m => m.origin.key = "a" && m.unsaved.any fun p =>
          p.2.render = declared "v" ++ "\n" ++ declared "a" &&
          (saving.1.read p.1).toOption = some (declared "v" ++ "\n" ++ declared "b")) = true := by
  have hdisk : ∀ b ∈ ["x", "y"], ((twoModules "x" b).fileNames "conf").toOption = some ["main.mptf.hcl"] ∧
      ((twoModules "x" b).read (Path.join "conf" "main.mptf.hcl")).toOption = some nameModules := by decide +kernel
  have hconfig : ∀ b ∈ ["x", "y"], (twoModules "x" b).loadConfig "conf" = _ := fun b hb =>
    loadConfig_of_single (ok_of_toOption (hdisk b hb).1) (by decide +kernel) (ok_of_toOption (hdisk b hb).2)
  -- the characters are given: to read them off the bytes of the configuration takes longer than to run it
  have hchars : nameModules.toList = _ :=
    String.toList_append.trans (congrArg₂ (· ++ ·) String.toList_ofList String.toList_ofList)
  rw [changedModules, changedModules, hconfig "x" (by decide), hconfig "y" (by decide), Source.parse?, hchars]
  decide +kernel

/-- In directories of their own both modules keep what was added to them. -/
theorem changed_files_survive_apart :
    ((twoModules "x" "y").transform none "." "conf" true).2.result = .ok ["/x/main.tf", "/y/main.tf"] ∧
      ∃ modules, ((twoModules "x" "y").changedModules none "." "conf" true).result = .ok modules ∧
        ∀ m ∈ modules, ∀ p ∈ m.unsaved,
          ((twoModules "x" "y").transform none "." "conf" true).1.read p.1 = .ok p.2.render := by
  have hdirs : ((twoModules "x" "y").origins ".").toOption.all (fun all =>
      ((all.filter Origin.isOwn).map fun o => (twoModules "x" "y").locate o.absDir).Nodup) = true := by decide +kernel
  have hname : IsName "main.tf" :=
    ⟨by decide, by decide, by decide, by decide, by decide, by decide⟩
  obtain ⟨modules, hmodules, htest⟩ := (Option.any_eq_true _ _).mp changedModules_twoModules.1
  simp only [Bool.and_eq_true, List.all_eq_true, decide_eq_true_eq] at htest
  have hresult := transform_of_saved (ok_of_toOption hmodules) (ok_of_toOption htest.1)
  obtain ⟨c, all, modules', -, hall, hmodules', -, -, hapart⟩ := changed_files_survive hresult
  obtain rfl := Except.ok.inj (hmodules'.symm.trans (ok_of_toOption hmodules))
  rw [hall] at hdirs
  simp only [Except.toOption, Option.all_some, decide_eq_true_eq] at hdirs
  refine ⟨hresult, modules', hmodules', hapart hdirs fun m hm name hmem => ?_⟩
  rwa [htest.2 m hm name hmem]

/-- In a directory of both modules what was added to the first one is lost. -/
theorem shared_directory_loses_update :
    ((twoModules "x" "x").transform none "." "conf" true).2.result = .ok ["/x/main.tf", "/x/main.tf"] ∧
      ∃ modules, ((twoModules "x" "x").changedModules none "." "conf" true).result = .ok modules ∧
        ∃ m ∈ modules, m.origin.key = "a" ∧ ∃ p ∈ m.unsaved,
          p.2.render = declared "v" ++ "\n" ++ declared "a" ∧
          ((twoModules "x" "x").transform none "." "conf" true).1.read p.1 =
            .ok (declared "v" ++ "\n" ++ declared "b") := by
  obtain ⟨modules, hmodules, htest⟩ := (Option.any_eq_true _ _).mp changedModules_twoModules.2
  simp only [Bool.and_eq_true, List.any_eq_true, decide_eq_true_eq] at htest
  obtain ⟨hsaved, m, hm, hkey, p, hp, hrender, hread⟩ := htest
  rw [← (transform_of_ok (ok_of_toOption hmodules)).1] at hread
  exact ⟨transform_of_saved (ok_of_toOption hmodules) (ok_of_toOption hsaved), modules, ok_of_toOption hmodules, m, hm,
    hkey, p, hp, hrender, ok_of_toOption hread⟩

end Terrasmith
