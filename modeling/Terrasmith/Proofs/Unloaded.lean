import Terrasmith.Proofs.Appending
import Terrasmith.Proofs.Reset
import Terrasmith.Proofs.Trace
import Terrasmith.Proofs.Writing

/-!
Files that no module has loaded. When something is added to such a file, what could be read of it stays in front. What
could not be read is gone: nothing stays of a file that is no text or does not parse.
-/
namespace Terrasmith

open Source

/-- What can be read of a file. -/
def Content.body : Content → Body
  | .text s => (parse? s).getD {}
  | .bytes _ => {}

namespace Workspace

variable {w : Workspace} {k : Location} {content : Content}

theorem read_body {path : String} (hlocate : w.locate path = .ok k) (hk : w.node? k = some (.file content)) :
    ((w.read path).toOption.bind parse?).getD {} = content.body := by
  cases content with
  | text s =>
    rw [read_of_locate hlocate hk]
    rfl
  | bytes b =>
    have hread : w.read path = .error .notText := by
      unfold read
      rw [find_of_locate hlocate hk]
      rfl
    rw [hread]
    rfl

/-- A changed file of a module that was on the disk but not loaded prints what could be read of it in front. -/
theorem runModule_holds {tool? : Option Provider.Tool} {c : Config} {o : Origin} {m m₀ : Module} {name : String}
    (h : (w.runModule tool? c o).result = .ok m) (hload : w.loadModule o = .ok m₀)
    (hlocate : w.locate (Path.join o.absDir name) = .ok k) (hk : w.node? k = some (.file content))
    (hnew : name ∉ m₀.fileNames) (hspared : Transform.Spared name content.body (c.transforms tool? m₀) m₀) :
    m.Holds name content.body := by
  obtain ⟨m₁, summary, session, hload', hrun, rfl⟩ := runModule_eq_ok h
  obtain rfl := Except.ok.inj (hload.symm.trans hload')
  have hdisk : m₀.disk name = (w.read (Path.join o.absDir name)).toOption := by
    rw [(loadModule_readFrom hload).1, (loadModule_frame hload).1]
  have hstart := Module.Holds.start hnew
  rw [hdisk, read_body hlocate hk] at hstart
  rw [Config.run_module hrun]
  exact Transform.holds_applyAll hstart hspared

end Workspace

open Workspace

/-- A file that is there but that no module has loaded is as it was after a run, or what could be read of it stands in
front of what was added. This is so whatever comes of the run, as long as no transform that is applied after the file
was added to reaches what it held. -/
theorem unloaded_file_stays_in_front {w : Workspace} {tool? : Option Provider.Tool} {dir configDir : String}
    {recursive : Bool} {c : Config} {origins : List Origin} {k : Location} {content : Content}
    (hconfig : w.loadConfig configDir = .ok c) (htargets : w.targets dir recursive = .ok origins)
    (hk : w.node? k = some (.file content))
    (hspared : ∀ o ∈ origins, ∀ m, w.loadModule o = .ok m → ∀ name, w.locate (Path.join o.absDir name) = .ok k →
      name ∉ m.fileNames ∧ Transform.Spared name content.body (c.transforms tool? m) m) :
    (w.transform tool? dir configDir recursive).1.node? k = some (.file content) ∨
      ∃ b, content.body.Extends b ∧
        (w.transform tool? dir configDir recursive).1.node? k = some (.file (.text (Layout.format b.render))) := by
  cases hmodules : (w.changedModules tool? dir configDir recursive).result with
  | error e =>
    rw [(transform_of_error hmodules).1]
    exact .inl hk
  | ok modules =>
    obtain ⟨c', origins', hconfig', htargets', hrun⟩ := changedModules_eq_ok hmodules
    obtain rfl := Except.ok.inj (hconfig.symm.trans hconfig')
    obtain rfl := Except.ok.inj (htargets.symm.trans htargets')
    rw [(transform_of_ok hmodules).1, ← hk]
    refine (saveFiles_kept_or_written rfl (by simp [hk])).imp id ?_
    rintro ⟨p, hp, hlocate, hnode⟩
    obtain ⟨m, hm, hp⟩ := List.mem_flatMap.mp hp
    obtain ⟨⟨name, f⟩, hf, rfl⟩ := List.mem_map.mp hp
    obtain ⟨hf, hchanged⟩ := List.mem_filter.mp hf
    obtain ⟨o, ho, hmodule⟩ := exists_of_forall₂ (runModules_eq_ok hrun) m hm
    obtain ⟨rfl, hnodup, -⟩ := runModule_frame hmodule
    obtain ⟨m₀, -, -, hload, -, -⟩ := runModule_eq_ok hmodule
    obtain ⟨hnew, hspared⟩ := hspared _ ho m₀ hload name hlocate
    have hholds := runModule_holds hmodule hload hlocate hk hnew hspared
    obtain ⟨-, hextends⟩ := hholds.inModule f (Module.file?_of_mem hnodup hf)
    refine ⟨f.body, hextends, ?_⟩
    rw [hnode, SourceFile.render, if_pos hchanged]

/-- A file with a variable. -/
def variableWith (inside : String) : Content := .text ("variable \"v\" \x7b\n" ++ inside ++ "\x7d\n")

/-- A variable is added to `override.tf`, which is not loaded. -/
def overriding (content : Content) : Workspace where
  nodes := [
    (["conf"], .directory),
    (["conf", "main.mptf.hcl"], .file (.text (additionTo "override.tf" "n"))),
    (["override.tf"], .file content)]

/-- A variable that could be read stays in front of the one that is added. -/
theorem unloaded_file_stays_in_front_readable :
    (variableWith "").body.structures.length = 1 ∧ ∃ b, (variableWith "").body.Extends b ∧
      ((overriding (variableWith "")).transform none "." "conf" false).1.node? ["override.tf"] =
        some (.file (.text (Layout.format b.render))) := by
  have htest : ((overriding (variableWith "")).loadConfig "conf").toOption.any (fun c =>
      ((overriding (variableWith "")).loadModule ((overriding (variableWith "")).rootOrigin ".")).toOption.all fun m =>
        m.fileNames.isEmpty && m.blocks.isEmpty &&
          (c.transforms none m).map Transform.name = ["new_block"]) = true := by decide +kernel
  have hwritten : ((overriding (variableWith "")).transform none "." "conf" false).1.node? ["override.tf"] ≠
      some (.file (variableWith "")) := by decide +kernel
  obtain ⟨c, hconfig, htest⟩ := (Option.any_eq_true _ _).mp htest
  have hspared : ∀ o ∈ [(overriding (variableWith "")).rootOrigin "."], ∀ m,
      (overriding (variableWith "")).loadModule o = .ok m → ∀ name,
      (overriding (variableWith "")).locate (Path.join o.absDir name) = .ok ["override.tf"] →
      name ∉ m.fileNames ∧ Transform.Spared name (variableWith "").body (c.transforms none m) m := by
    intro o ho m hload name _
    obtain rfl := List.mem_singleton.mp ho
    rw [hload] at htest
    simp only [Except.toOption, Option.all_some, Bool.and_eq_true, List.isEmpty_iff, decide_eq_true_eq] at htest
    obtain ⟨⟨hfiles, hblocks⟩, hnames⟩ := htest
    obtain ⟨t, ht, hname⟩ := List.map_eq_singleton_iff.mp hnames
    rw [hfiles, ht]
    refine ⟨List.not_mem_nil, fun s hs => ?_, ?_, trivial⟩
    · rw [hblocks] at hs
      cases hs
    · exact Transform.spares_of_name (by rw [hname]; decide)
  exact ⟨by decide +kernel,
    (unloaded_file_stays_in_front (ok_of_toOption hconfig) rfl rfl hspared).resolve_left hwritten⟩

/-- A variable that could not be read, for its value is missing, is lost when another one is added. -/
theorem unreadable_file_is_lost :
    ((overriding (variableWith "  default =\n")).transform none "." "conf" false).2.result.toOption =
        some ["/override.tf"] ∧
      ((overriding (variableWith "  default =\n")).transform none "." "conf" false).1.node? ["override.tf"] =
        some (.file (.text "variable \"n\" \x7b\n\x7d\n")) := by
  decide +kernel

end Terrasmith
