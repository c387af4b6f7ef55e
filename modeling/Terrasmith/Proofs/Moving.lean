import Mathlib.Data.List.TakeWhile
import Terrasmith.Proofs.Placement

/-!
Moving a block. It goes from where it is found in its file to the end of another one, with its text but for the blanks
in front, and nothing happens to anything else of the module.
-/
namespace Terrasmith

open Source

namespace Source

/-- Two texts that differ in nothing but the blanks and line ends in front. -/
def SameButMargin (s t : String) : Prop :=
  ∃ margin margin' core, s = margin ++ core ∧ t = margin' ++ core ∧
    ∀ c ∈ margin.toList ++ margin'.toList, c = '\n' ∨ c = '\r' ∨ c = ' ' ∨ c = '\t'

theorem exists_margin (lead : String) : ∃ margin, lead = margin ++ Body.dropMargin lead ∧
    ∀ c ∈ margin.toList, c = '\n' ∨ c = '\r' ∨ c = ' ' ∨ c = '\t' := by
  refine ⟨String.ofList (lead.toList.takeWhile fun c => c = '\n' || c = '\r' || c = ' ' || c = '\t'), ?_, ?_⟩
  · rw [Body.dropMargin, ← String.ofList_append, List.takeWhile_append_dropWhile, String.ofList_toList]
  · intro c hc
    rw [String.toList_ofList] at hc
    simpa [or_assoc] using List.mem_takeWhile_imp hc

/-- What stands before a block is in front of its text. -/
theorem Block.render_withLead (b : Block) (lead : String) :
    (Structure.block { b with lead }).render = lead ++ (Structure.block { b with lead := "" }).render := by
  simp only [Structure.render, String.append_assoc, String.empty_append]

/-- A block goes to the end of a file with another margin. -/
theorem Body.exists_pushRoot (d : Body) (b : Block) : ∃ lead,
    d.pushRoot (.block b) = { d with structures := d.structures ++ [.block { b with lead }] } ∧
      SameButMargin (Structure.block b).render (Structure.block { b with lead }).render := by
  obtain ⟨margin, hlead, hmargin⟩ := exists_margin b.lead
  let margin' := if d.structures.isEmpty then "" else "\n"
  have hmargin' : ∀ c ∈ margin'.toList, c = '\n' := by
    intro c hc
    dsimp only [margin'] at hc
    split at hc
    · simp at hc
    · simpa using hc
  refine ⟨margin' ++ dropMargin b.lead, ?_, margin, margin',
    dropMargin b.lead ++ (Structure.block { b with lead := "" }).render, ?_, ?_, fun c hc => ?_⟩
  · dsimp only [margin']
    rw [pushRoot, Structure.withLead, push, Structure.lead]
    split <;> simp
  · rw [← String.append_assoc, ← hlead, ← b.render_withLead b.lead, Block.mk_self]
  · rw [← String.append_assoc]
    exact b.render_withLead _
  · rcases List.mem_append.mp hc with hc | hc
    · exact hmargin c hc
    · exact .inl (hmargin' c hc)

end Source

namespace Module

variable {m m' : Module} {address fileName : String} {s : Snapshot} {source : SourceFile} {i : Nat} {b : Block}

/-- A block was taken from its place in its file and stands at the end of another file, which was there before or is
new. All else is as before but for the place that the entry of the block tells. -/
structure Moved (m m' : Module) (address fileName : String) (s : Snapshot) (source target : SourceFile) (i : Nat)
    (b : Block) (lead : String) : Prop where
  site : Site m address s source i
  block : source.body.structures[i]? = some (.block b)
  destination : m.file? fileName = some target ∨ m.file? fileName = none ∧ target = { stored? := none, body := {} }
  same : SameButMargin (Structure.block b).render (Structure.block { b with lead }).render
  taken : m'.file? s.fileName = some { source with
    body := { source.body with structures := source.body.structures.eraseIdx i }, changed := true }
  added : m'.file? fileName = some { target with
    body := { target.body with structures := target.body.structures ++ [.block { b with lead }] }, changed := true }
  others : ∀ name, name ≠ s.fileName → name ≠ fileName → m'.file? name = m.file? name
  names : m'.fileNames = if fileName ∈ m.fileNames then m.fileNames else m.fileNames ++ [fileName]
  registry : ∃ before after, m.registry = before ++ (address, s) :: after ∧
    m'.registry = before ++ (address, { s with fileName, range := { fileName } }) :: after

theorem moveBlock_same (hfound : m.block? address = some s) (hstored : m.file? s.fileName = some source)
    (hkind : s.kind ≠ .local) (hsame : s.fileName = fileName) : m.moveBlock address fileName = .ok (m, false) := by
  subst hsame
  simp [moveBlock, lookup, hfound, hstored, hkind, bind, Except.bind, pure, Except.pure]

theorem moveBlock_other (hsite : Site m address s source i) (hkind : s.kind ≠ .local) (hother : s.fileName ≠ fileName)
    (hb : source.body.structures[i]? = some (.block b)) : m.moveBlock address fileName =
      .ok (((m.setFile s.fileName { source with
        body := { source.body with structures := source.body.structures.eraseIdx i }, changed := true }).appendStructure
          fileName (.block b)).setBlock address (s.movedTo fileName), true) := by
  simp [moveBlock, lookup, locate, hsite.found, hsite.stored, hsite.placed, hkind, hother, hb, bind, Except.bind, pure,
    Except.pure]

theorem fileOrDisk_of_loaded (h : m.Loaded fileName) {target : SourceFile} (htarget : m.fileOrDisk fileName = target) :
    m.file? fileName = some target ∨ m.file? fileName = none ∧ target = { stored? := none, body := {} } := by
  subst htarget
  unfold fileOrDisk
  cases hfile : m.file? fileName with
  | some file => exact .inl rfl
  | none =>
    have hdisk : m.disk fileName = none := h.resolve_left fun hmem => by
      obtain ⟨e, he, rfl⟩ := List.mem_map.mp hmem
      simpa using List.lookup_eq_none_iff.mp hfile e he
    simp [hdisk]

/-- After the block was appended and its entry renewed it is moved. -/
theorem moved_appendStructure (hsite : Site m address s source i) (hb : source.body.structures[i]? = some (.block b))
    (hother : s.fileName ≠ fileName) (hloaded : m.Loaded fileName) : ∃ target lead,
      Moved m (((m.setFile s.fileName { source with
        body := { source.body with structures := source.body.structures.eraseIdx i }, changed := true }).appendStructure
          fileName (.block b)).setBlock address (s.movedTo fileName)) address fileName s source target i b lead := by
  have hfile {m : Module} {name other : String} {file : SourceFile} (h : name ≠ other) :
      (m.setFile other file).file? name = m.file? name := lookup_insertEntry_of_ne h file m.files
  have htarget (file : SourceFile) : (m.setFile s.fileName file).fileOrDisk fileName = m.fileOrDisk fileName := by
    unfold fileOrDisk
    rw [hfile hother.symm]
    rfl
  obtain ⟨lead, hpush, hsame⟩ := Body.exists_pushRoot (m.fileOrDisk fileName).body b
  obtain ⟨before, after, hregistry, hinsert, -⟩ := registry_around hsite.found
  refine ⟨m.fileOrDisk fileName, lead,
    { site := hsite, block := hb, destination := fileOrDisk_of_loaded hloaded rfl, same := hsame
      taken := ?_, added := ?_, others := fun name hsource htarget => ?_, names := ?_
      registry := ⟨before, after, hregistry, hinsert _⟩ }⟩
  · rw [file?_setBlock, appendStructure, hfile hother, file?_setFile_self]
  · rw [file?_setBlock, appendStructure, file?_setFile_self, htarget, hpush]
  · rw [file?_setBlock, appendStructure, hfile htarget, hfile hsource]
  · have hnames := fileNames_setFile hsite.stored { source with
      body := { source.body with structures := source.body.structures.eraseIdx i }, changed := true }
    unfold fileNames at hnames ⊢
    rw [← hnames]
    exact keys_insertEntry fileName _ _

end Module

/-- In every module that is made from files and changed by transforms, a registered block other than a local can be
moved to any file that was loaded or is not there. If it is in the file already nothing happens. Otherwise its file
loses exactly the block that was found, the other file gets it as its last structure with the same text but for the
blanks in front, both count as changed, and nothing else happens but that its entry tells the other file. -/
theorem move_conserves {origin : Origin} {disk : String → Option String} {sources : List (String × String)}
    {m : Module} (hload : Module.ofSources origin disk sources = .ok m) (hnames : (sources.map Prod.fst).Nodup)
    (ts : List Transform) {address fileName : String} {s : Snapshot}
    (hfound : (Transform.applyAll ts m).block? address = some s) (hkind : s.kind ≠ .local)
    (hloaded : (Transform.applyAll ts m).Loaded fileName) :
    let before := Transform.applyAll ts m
    ∃ after moved, before.moveBlock address fileName = .ok (after, moved) ∧ (moved = false ↔ s.fileName = fileName) ∧
      (moved = false → after = before) ∧
      (moved = true → ∃ source target i b lead, before.Moved after address fileName s source target i b lead) := by
  intro before
  have hplaced : before.Placed := (Module.placed_ofSources hload hnames).applyAll ts
  obtain ⟨source, i, b, hsite, hb⟩ := hplaced.exists_site hfound hkind
  by_cases hsame : s.fileName = fileName
  · exact ⟨before, false, Module.moveBlock_same hfound hsite.stored hkind hsame, iff_of_true rfl hsame, fun _ => rfl,
      fun h => (nomatch h)⟩
  · obtain ⟨target, lead, hmoved⟩ := Module.moved_appendStructure hsite hb hsame hloaded
    exact ⟨_, true, Module.moveBlock_other hsite hkind hsame hb, iff_of_false Bool.noConfusion hsame,
      fun h => (nomatch h), fun _ => ⟨source, target, i, b, lead, hmoved⟩⟩

/-- Two resources, one with a comment behind a blank line, and a file with a local. -/
def commentedSources : List (String × String) :=
  [("main.tf", "resource \"a\" \"c\" \x7b\n\x7d\n\n# kept\nresource \"a\" \"b\" \x7b\n\x7d\n"),
    ("other.tf", "locals \x7b\n  x = 1\n\x7d\n")]

/-- Before, the local is removed. -/
def localRemoval : List (String × String) :=
  [("remove_block", "target_block_address = \"local.x\"\n")]

/-- In the file that became empty the block needs no blank line in front. -/
theorem move_conserves_commented :
    ∃ m ts s after source target i b lead, Module.ofSources default (fun _ => none) commentedSources = .ok m ∧
      ts.length = 1 ∧ (Transform.applyAll ts m).block? "resource.a.b" = some s ∧ s.kind ≠ .local ∧
      (Transform.applyAll ts m).Loaded "other.tf" ∧
      (Transform.applyAll ts m).moveBlock "resource.a.b" "other.tf" = .ok (after, true) ∧
      (Transform.applyAll ts m).Moved after "resource.a.b" "other.tf" s source target i b lead ∧
      (after.file? "other.tf").map (fun f => f.body.render) = some "# kept\nresource \"a\" \"b\" \x7b\n\x7d\n" := by
  have hread : (readAll commentedSources localRemoval).any (fun (m, ts) => ts.length = 1 &&
      (Transform.applyAll ts m).fileNames.contains "other.tf" &&
      ((Transform.applyAll ts m).block? "resource.a.b").any (fun s => s.kind ≠ .local && s.fileName ≠ "other.tf") &&
      ((Transform.applyAll ts m).moveBlock "resource.a.b" "other.tf").toOption.any fun r =>
        (r.1.file? "other.tf").map (fun f => f.body.render) =
          some "# kept\nresource \"a\" \"b\" \x7b\n\x7d\n") = true := by
    decide +kernel
  obtain ⟨m, ts, hload, -, htest⟩ := exists_of_readAll hread
  simp only [Bool.and_eq_true, decide_eq_true_eq, Option.any_eq_true, ne_eq, List.contains_iff_mem] at htest
  obtain ⟨⟨⟨hlength, hfile⟩, s, hfound, hkind, hother⟩, ⟨after, moved⟩, hok, htext⟩ := htest
  have hnames : (commentedSources.map Prod.fst).Nodup := by decide
  obtain ⟨after', moved', hok', hmoved, -, hall⟩ := move_conserves hload hnames ts hfound hkind (.inl hfile)
  cases hok'.symm.trans (ok_of_toOption hok)
  obtain rfl : moved = true := Bool.eq_true_of_not_eq_false fun h => hother (hmoved.mp h)
  obtain ⟨source, target, i, b, lead, hconserved⟩ := hall rfl
  exact ⟨m, ts, s, after, source, target, i, b, lead, hload, hlength, hfound, hkind, .inl hfile, hok', hconserved,
    htext⟩

end Terrasmith
