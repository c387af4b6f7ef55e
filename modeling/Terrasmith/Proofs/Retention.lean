import Terrasmith.Proofs.Course
import Terrasmith.Proofs.Loading

/-!
What changes of a module keep of its files. Every file remembers what was stored under its name, and a file that does
not count as changed prints as it did before. This holds of each operation by itself, and so of all that are made of
them.
-/
namespace Terrasmith

open Source

/-- What may become of a file. -/
structure SourceFile.Becomes (f g : SourceFile) : Prop where
  stored : g.stored? = f.stored?
  unchanged : g.changed = false → f.changed = false ∧ g.body.render = f.body.render

namespace SourceFile.Becomes

variable {f g h : SourceFile}

theorem refl (f : SourceFile) : f.Becomes f := ⟨rfl, fun hf => ⟨hf, rfl⟩⟩

theorem trans (hfg : f.Becomes g) (hgh : g.Becomes h) : f.Becomes h := by
  refine ⟨hgh.stored.trans hfg.stored, fun hh => ?_⟩
  obtain ⟨hg, hrender⟩ := hgh.unchanged hh
  obtain ⟨hf, hrender'⟩ := hfg.unchanged hg
  exact ⟨hf, hrender.trans hrender'⟩

/-- A file that counts as changed may hold any tree. -/
theorem marked (f : SourceFile) (b : Body) : f.Becomes { f with body := b, changed := true } :=
  ⟨rfl, fun h => by cases h⟩

/-- A tree of the same text. -/
theorem reprinted {b : Body} (h : b.render = f.body.render) : f.Becomes { f with body := b } :=
  ⟨rfl, fun hf => ⟨hf, h⟩⟩

end SourceFile.Becomes

namespace Module

/-- A change of a module that forgets nothing of its files: each of them comes from a file that was there, or is new,
knows what the disk holds under its name, and counts as changed. The names of the files stay distinct. -/
structure Keeps (m m' : Module) : Prop where
  origin : m'.origin = m.origin
  disk : m'.disk = m.disk
  names : m.fileNames.Nodup → m'.fileNames.Nodup
  files : ∀ p ∈ m'.files, (∃ f, (p.1, f) ∈ m.files ∧ f.Becomes p.2) ∨
    (p.2.stored? = m.disk p.1 ∧ p.2.changed = true)

namespace Keeps

variable {m m' m'' : Module}

theorem refl (m : Module) : Keeps m m := ⟨rfl, rfl, id, fun p hp => .inl ⟨p.2, hp, .refl p.2⟩⟩

theorem trans (h : Keeps m m') (h' : Keeps m' m'') : Keeps m m'' := by
  refine ⟨h'.origin.trans h.origin, h'.disk.trans h.disk, h'.names ∘ h.names, fun p hp => ?_⟩
  rcases h'.files p hp with ⟨f, hf, hbecomes⟩ | ⟨hstored, hchanged⟩
  · rcases h.files _ hf with ⟨g, hg, hbecomes'⟩ | ⟨hstored, hchanged⟩
    · exact .inl ⟨g, hg, hbecomes'.trans hbecomes⟩
    · refine .inr ⟨hbecomes.stored.trans hstored, ?_⟩
      by_contra hp
      have hf := (hbecomes.unchanged (Bool.eq_false_iff.mpr hp)).1
      simp [hf] at hchanged
  · exact .inr ⟨by rw [hstored, h.disk], hchanged⟩

/-- The registry does not count. -/
theorem withRegistry (h : Keeps m m') (registry : List (String × Snapshot)) :
    Keeps m { m' with registry } := ⟨h.origin, h.disk, h.names, h.files⟩

theorem setFile {name : String} {old new : SourceFile} (h : m.file? name = some old) (hbecomes : old.Becomes new) :
    Keeps m (m.setFile name new) := by
  refine ⟨rfl, rfl, fun hm => fileNames_nodup_setFile hm name new, fun p hp => .inl ?_⟩
  rcases mem_insertEntry hp with rfl | hp
  · exact ⟨old, mem_of_lookup h, hbecomes⟩
  · exact ⟨p.2, hp, .refl p.2⟩

theorem appendStructure (m : Module) (name : String) (s : Structure) : Keeps m (m.appendStructure name s) := by
  cases hfile : m.file? name with
  | some file =>
    simp only [Module.appendStructure, fileOrDisk, hfile]
    exact .setFile hfile (.marked file _)
  | none =>
    refine ⟨rfl, rfl, fun hm => fileNames_nodup_setFile hm name _, fun p hp => ?_⟩
    rcases mem_insertEntry hp with rfl | hp
    · exact .inr ⟨by simp [fileOrDisk, hfile], rfl⟩
    · exact .inl ⟨p.2, hp, .refl p.2⟩

end Keeps

/-- The ways in which a module is changed: a file that is there becomes another one, something is appended to a file
whose name is one of `p`, or the registry is changed. -/
inductive Edits (p : String → Prop) : Module → Module → Prop where
  | refl (m : Module) : Edits p m m
  | trans {m m' m'' : Module} : Edits p m m' → Edits p m' m'' → Edits p m m''
  | withRegistry {m m' : Module} (h : Edits p m m') (registry : List (String × Snapshot)) :
    Edits p m { m' with registry }
  | setFile {m : Module} {name : String} {old new : SourceFile} (h : m.file? name = some old)
    (hbecomes : old.Becomes new) : Edits p m (m.setFile name new)
  | appendStructure (m : Module) {name : String} (hp : p name) (s : Structure) : Edits p m (m.appendStructure name s)

namespace Edits

variable {p : String → Prop} {m m' : Module}

theorem keeps (h : Edits p m m') : Keeps m m' := by
  induction h with
  | refl m => exact .refl m
  | trans _ _ ih ih' => exact ih.trans ih'
  | withRegistry _ registry ih => exact ih.withRegistry registry
  | setFile h hbecomes => exact .setFile h hbecomes
  | appendStructure m _ s => exact .appendStructure m _ s

theorem updateBlock {address : String} {f : Block → Block} (h : m.updateBlock address f = .ok m') : Edits p m m' := by
  obtain ⟨s, file, i, old, hsite, -, hold, rfl⟩ := updateBlock_eq_ok h
  unfold rewritten
  dsimp only
  split
  · exact .setFile hsite.stored (.reprinted ((Body.render_set_block_iff hold _).mpr ‹_›))
  · exact (setFile hsite.stored (.marked file _)).withRegistry _

/-- A local is noticed to be changed by the text of its value. -/
theorem updateLocal {address : String} {f : Attribute → Attribute}
    (hnoticed : ∀ a, m.declared? address = some a → (f a).valueText = a.valueText → (f a).render = a.render)
    (h : m.updateLocal address f = .ok m') : Edits p m m' := by
  obtain ⟨s, file, i, name, e, j, old, hsite, -, hlabels, he, hj, hold, rfl⟩ := updateLocal_eq_ok h
  unfold revalued
  dsimp only
  split
  · rename_i hvalue
    have hrender := hnoticed old (hsite.declared? hlabels he hj hold) hvalue
    have htext := (Block.text_set_attribute_iff hold (f old)).mpr hrender
    exact .setFile hsite.stored (.reprinted ((Body.render_set_block_iff he _).mpr htext))
  · exact (setFile hsite.stored (.marked file _)).withRegistry _

theorem removeBlock {address : String} {removed : Snapshot} (h : m.removeBlock address = .ok (m', removed)) :
    Edits p m m' := by
  obtain ⟨file, i, hsite, rfl⟩ := removeBlock_eq_ok h
  exact (setFile hsite.stored (.marked file _)).withRegistry _

theorem moveBlock {address fileName : String} {moved : Bool} (hp : p fileName)
    (h : m.moveBlock address fileName = .ok (m', moved)) : Edits p m m' := by
  rcases moveBlock_eq_ok h with ⟨rfl, -⟩ | ⟨s, file, i, x, hsite, -, -, -, rfl⟩
  · exact .refl _
  · exact ((setFile hsite.stored (.marked file _)).trans (appendStructure _ hp x)).withRegistry _

theorem addBlock {kind : BlockKind} {b : Block} {fileName address : String} (hp : p fileName)
    (h : m.addBlock kind b fileName = .ok (m', address)) : Edits p m m' := by
  obtain ⟨-, -, rfl⟩ := addBlock_eq_ok h
  exact (appendStructure m hp _).withRegistry _

theorem addLocal {a : Attribute} {fileName address : String} (hp : p fileName)
    (h : m.addLocal a fileName = .ok (m', address)) : Edits p m m' := by
  obtain ⟨-, -, rfl⟩ := addLocal_eq_ok h
  exact (appendStructure m hp _).withRegistry _

theorem replaceBody {name : String} {file : SourceFile} (h : m.file? name = some file) (b : Body) :
    Edits p m (m.replaceBody name file b) := by
  unfold Module.replaceBody
  split
  · exact .setFile h (.reprinted ‹_›)
  · exact (setFile h (.marked file b)).withRegistry _

theorem ofResult {r : Except ModuleError Module} (h : ∀ m', r = .ok m' → Edits p m m') :
    Edits p m (Applied.ofResult m r).module := by
  cases r with
  | error e => exact .refl m
  | ok m' => exact h m' rfl

/-- The first part of a result is the module after the operation. -/
theorem ofResult_map {α : Type} {r : Except ModuleError (Module × α)}
    (h : ∀ m' x, r = .ok (m', x) → Edits p m m') : Edits p m (Applied.ofResult m (r.map (·.1))).module := by
  refine ofResult fun m' hok => ?_
  obtain ⟨⟨m'', x⟩, hr, rfl⟩ := map_eq_ok hok
  exact h _ x hr

theorem forAll {α : Type} {items : List α} {f : α → Module → Applied} (h : ∀ item m, Edits p m (f item m).module)
    (m : Module) : Edits p m (Applied.forAll m items f).module := by
  induction items generalizing m with
  | nil => exact .refl m
  | cons item rest ih =>
    rw [Applied.forAll_cons]
    split
    · exact h item m
    · exact (h item m).trans (ih _)

/-- Files that are given other trees one after the other. -/
theorem replaceAll (f : Module → String → Body → Body) (names : List String) (m : Module) :
    Edits p m (names.foldl (fun m name =>
      match m.file? name with
      | none => m
      | some file => m.replaceBody name file (f m name file.body)) m) := by
  induction names generalizing m with
  | nil => exact .refl m
  | cons name rest ih =>
    rw [List.foldl_cons]
    refine trans ?_ (ih _)
    cases hfile : m.file? name with
    | none => exact .refl m
    | some file => exact replaceBody hfile _

end Edits

end Module

/-- A file that was read stands beside those read before, as it is stored. -/
theorem Module.addFile_files {m m' : Module} {name content : String} (h : m.addFile name content = .ok m') :
    ∃ body, parse? content = some body ∧ m'.files = insertEntry name { stored? := some content, body } m.files ∧
      m'.disk = m.disk ∧ m'.origin = m.origin := by
  obtain ⟨body, m₁, hparse, hfold, rfl⟩ := addFile_eq_ok h
  obtain ⟨hfiles, hdisk, horigin⟩ := foldlM_register_frame hfold
  exact ⟨body, hparse, by rw [← hfiles]; rfl, hdisk, horigin⟩

theorem Source.Block.labelTexts_eq {b : Block} {labels : List String} (h : b.labels = labels.map fun text => { text }) :
    b.labelTexts = labels := by
  simp [Block.labelTexts, h, Function.comp_def]

/-- The file that a transform adds a new block to, if it gets that far. -/
def Transform.addsTo : Transform → Module → List String
  | .ensureLocal name fileName value, m =>
    match value.attribute name with
    | .error _ => []
    | .ok _ => if m.contains (BlockKind.local.address [name]) then [] else [fileName]
  | .newBlock none _ fileName body, m =>
    match body.attributes with
    | [] => []
    | a :: _ => if m.contains (BlockKind.local.address [a.key]) then [] else [fileName]
  | .newBlock (some kind) labels fileName _, m => if m.contains (kind.address labels) then [] else [fileName]
  | _, _ => []

/-- A transform adds to the file it is said to add to, and moves blocks to the file that it names. All else is done to
files that are there. -/
theorem Transform.edits (t : Transform) {p : String → Prop} (m : Module) (hadds : ∀ name ∈ t.addsTo m, p name)
    (hmoves : ∀ target fileName, t = .moveBlock target fileName → p fileName) :
    m.Edits p (t.apply m).module := by
  have hupdate : ∀ (m : Module) (address : String) (f : Block → Block),
      m.Edits p (Applied.ofResult m (m.updateBlock address f)).module :=
    fun m address f => .ofResult fun m' hok => .updateBlock hok
  cases t with
  | updateInPlace target patch => exact hupdate m target _
  | removeElements target paths => exact hupdate m target _
  | removeNestedBlocks target paths => exact hupdate m target _
  | appendBody target body => exact hupdate m target _
  | renameElements rules => exact .forAll (fun r m => .forAll (fun address m => hupdate m address _) m) m
  | removeBlock target => exact .ofResult_map fun m' _ hok => .removeBlock hok
  | moveBlock target fileName => exact .ofResult_map fun m' _ hok => .moveBlock (hmoves target fileName rfl) hok
  | replaceText regex replacement =>
    simp only [apply, Module.replaceValues_fst]
    exact .replaceAll (fun _ _ b => (replaceInBlocks (replacedValue regex replacement) b).result) m.fileNames m
  | ensureLocal name fileName value =>
    simp only [apply, addsTo] at hadds ⊢
    cases hvalue : value.attribute name with
    | error e => exact .refl m
    | ok a =>
      rw [hvalue] at hadds
      dsimp only at hadds ⊢
      split
      · exact .ofResult fun m' hok => .updateLocal (fun old _ => (old.render_withValue_iff _).mpr) hok
      · rw [if_neg ‹_›] at hadds
        exact .ofResult_map fun m' _ hok => .addLocal (hadds fileName (by simp)) hok
  | newBlock kind? labels fileName body =>
    cases kind? with
    | none =>
      simp only [apply, addsTo] at hadds ⊢
      cases hattributes : body.attributes with
      | nil => exact .refl m
      | cons a rest =>
        rw [hattributes] at hadds
        dsimp only at hadds
        split at hadds
        · next htaken =>
          -- The first local is taken, so the transform fails before anything is added.
          rw [Applied.forAll_cons]
          simp only [Module.addLocal, htaken, if_true]
          exact .refl m
        · exact .forAll (fun a m => .ofResult_map fun m' _ hok => .addLocal (hadds fileName (by simp)) hok) m
    | some kind =>
      refine .ofResult_map fun m' _ hok => .addBlock (hadds fileName ?_) hok
      obtain ⟨rfl, hfree, -⟩ := Module.addBlock_eq_ok hok
      rw [Block.labelTexts_eq rfl] at hfree
      simp [addsTo, hfree]

/-- A transform forgets nothing of the files of a module, whether it fails or not. -/
theorem Transform.keeps (t : Transform) (m : Module) : m.Keeps (t.apply m).module :=
  (t.edits (p := fun _ => True) m (fun _ _ => trivial) fun _ _ _ => trivial).keeps

end Terrasmith
