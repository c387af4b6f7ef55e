import Terrasmith.Proofs.Consistency
import Terrasmith.Proofs.Retention
import Terrasmith.Proofs.Stepwise

/-!
Files that do not count as changed. Whatever is done to a module that was read from texts, such a file prints as its
text, and it is that text that would be written, as long as a local is only changed in a way that its value tells.
Operations that fail, or that find nothing to do, leave all texts, all marks and the registry as they are.
-/
namespace Terrasmith

open Source

/-- An operation on a module. -/
inductive Operation where
  | block (op : BlockOperation)
  | updateFiles (f : String → Body → Body)
  | transform (t : Transform)

namespace Operation

/-- What a module and a failure come of an operation. Those on one block or local go step by step. -/
def apply : Operation → Module → Applied
  | .block op, m =>
    match op.procedure.run.run m with
    | (.ok (), m') => { module := m' }
    | (.error e, m') => { module := m', error? := some (.module e) }
  | .updateFiles f, m =>
    { module := m.fileNames.foldl (fun m name =>
        match m.file? name with
        | none => m
        | some file => m.replaceBody name file (f name file.body)) m }
  | .transform t, m => t.apply m

/-- The module after a list of operations, whether they fail or not. -/
def applyAll (ops : List Operation) (m : Module) : Module :=
  ops.foldl (fun m op => (op.apply m).module) m

theorem apply_block (op : BlockOperation) (m : Module) : (block op).apply m = .ofResult m (op.result m) := by
  rw [apply, op.run_procedure]
  cases op.result m <;> rfl

/-- Whether an operation that changes a local is noticed by it: the attribute reads otherwise exactly if its value
does. -/
def Noticed : Operation → Module → Prop
  | .block (.updateLocal address f), m =>
    ∀ a, m.declared? address = some a → ((f a).render = a.render ↔ (f a).valueText = a.valueText)
  | _, _ => True

/-- Whether this is so of each of some operations when its turn comes. -/
def AllNoticed : List Operation → Module → Prop
  | [], _ => True
  | op :: rest, m => op.Noticed m ∧ AllNoticed rest (op.apply m).module

theorem edits (op : Operation) {m : Module} (h : op.Noticed m) : m.Edits (fun _ => True) (op.apply m).module := by
  cases op with
  | block op =>
    rw [apply_block]
    cases op with
    | updateBlock address f => exact .ofResult fun m' hok => .updateBlock hok
    | updateLocal address f => exact .ofResult fun m' hok => .updateLocal (fun a ha => (h a ha).mpr) hok
    | removeBlock address => exact .ofResult_map fun m' _ hok => .removeBlock hok
    | moveBlock address fileName => exact .ofResult_map fun m' _ hok => .moveBlock trivial hok
    | addBlock kind b fileName => exact .ofResult_map fun m' _ hok => .addBlock trivial hok
    | addLocal a fileName => exact .ofResult_map fun m' _ hok => .addLocal trivial hok
  | updateFiles f => exact .replaceAll (fun _ => f) m.fileNames m
  | transform t => exact t.edits m (fun _ _ => trivial) fun _ _ _ => trivial

theorem keeps_applyAll {ops : List Operation} {m : Module} (h : AllNoticed ops m) : m.Keeps (applyAll ops m) := by
  induction ops generalizing m with
  | nil => exact .refl m
  | cons op rest ih => exact (op.edits h.1).keeps.trans (ih h.2)

end Operation

namespace Module

/-- What a module shows: the texts of its trees, the marks of its files, and its registry. -/
def shown (m : Module) : List (String × String × Bool) × List (String × Snapshot) :=
  (m.files.map fun (name, f) => (name, f.body.render, f.changed), m.registry)

/-- The files of a module that was just read. -/
theorem files_foldlM_addFile {sources : List (String × String)} {m m' : Module}
    (h : sources.foldlM (fun m (name, content) => m.addFile name content) m = .ok m') :
    ∀ p ∈ m'.files, p ∈ m.files ∨ ∃ content body, (p.1, content) ∈ sources ∧ parse? content = some body ∧
      p.2 = { stored? := some content, body } := by
  induction sources generalizing m with
  | nil =>
    cases h
    exact fun p hp => .inl hp
  | cons source rest ih =>
    obtain ⟨name, content⟩ := source
    rw [List.foldlM_cons] at h
    obtain ⟨m₁, hfirst, hrest⟩ := bind_eq_ok h
    obtain ⟨body, hparse, hfiles, -, -⟩ := addFile_files hfirst
    intro p hp
    rcases ih hrest p hp with hp | ⟨content', body', hmem, hparse', heq⟩
    · rw [hfiles] at hp
      rcases mem_insertEntry hp with rfl | hp
      · exact .inr ⟨content, body, List.mem_cons_self, hparse, rfl⟩
      · exact .inl hp
    · exact .inr ⟨content', body', List.mem_cons_of_mem _ hmem, hparse', heq⟩

/-- A tree that prints as another one in its place shows the same. -/
theorem shown_setFile {m : Module} {name : String} {file : SourceFile} (h : m.file? name = some file) {b : Body}
    (hrender : b.render = file.body.render) : (m.setFile name { file with body := b }).shown = m.shown := by
  obtain ⟨before, after, hfiles, hkey⟩ := lookup_eq_some_split h
  simp only [shown, setFile, hfiles, insertEntry_split hkey, List.map_append, List.map_cons, hrender]

theorem moveBlock_self {m : Module} {address : String} {s : Snapshot} (h : m.block? address = some s) :
    ((Operation.block (.moveBlock address s.fileName)).apply m).module = m := by
  rw [Operation.apply_block, BlockOperation.result]
  cases hok : m.moveBlock address s.fileName with
  | error e => rfl
  | ok result =>
    obtain ⟨m', moved⟩ := result
    rcases moveBlock_eq_ok hok with ⟨rfl, -⟩ | ⟨s', file, i, x, hsite, -, hne, -, -⟩
    · rfl
    · obtain rfl : s' = s := Option.some.inj (hsite.found.symm.trans h)
      exact absurd rfl hne

theorem shown_updateBlock {m : Module} {address : String} {f : Block → Block}
    (h : ∀ b, m.written? address = some b → (f b).text = b.text) :
    ((Operation.block (.updateBlock address f)).apply m).module.shown = m.shown := by
  rw [Operation.apply_block, BlockOperation.result]
  cases hok : m.updateBlock address f with
  | error e => rfl
  | ok m' =>
    obtain ⟨s, file, i, old, hsite, -, hold, rfl⟩ := updateBlock_eq_ok hok
    have htext := h old (hsite.written? hold)
    simp only [Applied.ofResult, rewritten, if_pos htext]
    exact shown_setFile hsite.stored ((Body.render_set_block_iff hold _).mpr htext)

/-- Where an update does not change the block, nothing changes. -/
theorem updateBlock_self {m : Module} {address : String} {f : Block → Block}
    (h : ∀ b, m.written? address = some b → f b = b) :
    (Applied.ofResult m (m.updateBlock address f)).module = m := by
  cases hok : m.updateBlock address f with
  | error e => rfl
  | ok m' =>
    obtain ⟨s, file, i, old, hsite, -, hold, rfl⟩ := updateBlock_eq_ok hok
    rw [h old (hsite.written? hold)]
    exact rewritten_self hsite hold

theorem index?_set_attribute {s : Snapshot} {b : Body} {i j : Nat} {e : Block} {old new : Attribute}
    (hplaced : s.index? b = some i) (hkind : s.kind = .local) (he : b.structures[i]? = some (.block e))
    (hold : e.body.structures[j]? = some (.attribute old)) (hkey : new.key = old.key) :
    s.index? { b with structures := b.structures.set i (.block { e with body := { e.body with
      structures := e.body.structures.set j (.attribute new) } }) } = some i := by
  have hkeys : Body.hasAttribute { e.body with
      structures := e.body.structures.set j (.attribute new) } = e.body.hasAttribute := by
    funext key
    obtain ⟨first, second, hsplit, hset, -⟩ := set_of_split hold
    rw [Body.hasAttribute_eq_any, Body.hasAttribute_eq_any]
    dsimp only
    rw [hset, hsplit]
    simp [Structure.isAttribute, hkey]
  simp only [Snapshot.index?, hkind, if_true] at hplaced ⊢
  rw [← hplaced]
  refine findIdx?_set he ?_
  dsimp only at hkeys
  simp only [Snapshot.isLocals, hkeys]

/-- Where a local keeps its name and is noticed to change, an update after which its block reads the same shows
nothing else. -/
theorem shown_updateLocal {m : Module} {address : String} {f : Attribute → Attribute}
    (hkey : ∀ a, m.declared? address = some a → (f a).key = a.key)
    (hnoticed : (Operation.block (.updateLocal address f)).Noticed m)
    (h : ∀ b b', m.written? address = some b →
      ((Operation.block (.updateLocal address f)).apply m).module.written? address = some b' → b'.text = b.text) :
    ((Operation.block (.updateLocal address f)).apply m).module.shown = m.shown := by
  rw [Operation.apply_block, BlockOperation.result] at h ⊢
  cases hok : m.updateLocal address f with
  | error e => rfl
  | ok m' =>
    obtain ⟨s, file, i, name, e, j, old, hsite, hkind, hlabels, he, hj, hold, rfl⟩ := updateLocal_eq_ok hok
    have hdeclared := hsite.declared? hlabels he hj hold
    have hplaced := index?_set_attribute hsite.placed hkind he hold (hkey old hdeclared)
    have hlt : i < file.body.structures.length := (List.getElem?_eq_some_iff.mp he).1
    simp only [hok, Applied.ofResult] at h ⊢
    by_cases hvalue : (f old).valueText = old.valueText
    · have htext := (Block.text_set_attribute_iff hold (f old)).mpr ((hnoticed old hdeclared).mpr hvalue)
      have hsame : m.revalued address s file i e j old (f old) = _ := if_pos hvalue
      rw [hsame]
      exact shown_setFile hsite.stored ((Body.render_set_block_iff he _).mpr htext)
    · -- Another text of the value is another text of its block.
      refine absurd ?_ hvalue
      have hafter : (m.revalued address s file i e j old (f old)).written? address =
          some { e with body := { e.body with structures := e.body.structures.set j (.attribute (f old)) } } := by
        have hother : m.revalued address s file i e j old (f old) = _ := if_neg hvalue
        rw [hother]
        exact Site.written? ⟨block?_setBlock_self .., file?_setFile_self .., (index?_congr rfl rfl _).trans hplaced⟩
          (by simp [hlt])
      have htext := h e _ (hsite.written? he) hafter
      exact (hnoticed old hdeclared).mp ((Block.text_set_attribute_iff hold _).mp htext)

end Module

namespace Source.Body

/-- Whether a path leads to something: through the first block of each type, whose content holds the rest, to what
`ends` asks for. -/
def Resolves (ends : String → Body → Prop) : (path : List String) → Body → Prop
  | [], _ => False
  | [element], b => ends element b
  | type :: rest, b => ∃ index child content, (b.blockIndices type).head? = some index ∧
      b.structures[index]? = some (.block child) ∧ child.content? = some content ∧ Resolves ends rest content

/-- Whether a body has an attribute or a nested block of a name. -/
def HasElement (name : String) (b : Body) : Prop :=
  b.hasAttribute name = true ∨ b.blockIndices name ≠ []

/-- Whether a body has nested blocks of a type. -/
def HasNested (type : String) (b : Body) : Prop := b.blockIndices type ≠ []

end Source.Body

theorem removeElement_of_not_hasElement {name : String} {b : Body} (h : ¬ b.HasElement name) :
    removeElement name b = b := by
  obtain ⟨hattribute, hblocks⟩ := not_or.mp h
  have hnone : b.attributeIndex? name = none := by
    rw [Body.hasAttribute_eq_any, List.any_eq_true] at hattribute
    refine List.findIdx?_eq_none_iff.mpr fun s hs => Bool.eq_false_iff.mpr fun hs' => hattribute ⟨s, hs, hs'⟩
  simp [removeElement, hnone, not_not.mp hblocks]

theorem removeNestedBlocks_of_not_hasNested {type : String} {b : Body} (h : ¬ b.HasNested type) :
    removeNestedBlocks type b = b := by
  have hkept : ∀ s ∈ b.structures, (!s.isBlockOf type) = true := by
    intro s hs
    rw [Bool.not_eq_true', Bool.eq_false_iff]
    intro hblock
    obtain ⟨i, hi, rfl⟩ := List.getElem_of_mem hs
    refine h (List.ne_nil_of_mem (a := i) ?_)
    refine List.mem_map.mpr ⟨(b.structures[i], i), List.mem_filter.mpr ⟨?_, hblock⟩, rfl⟩
    exact List.mem_zipIdx_iff_getElem?.mpr (List.getElem?_eq_getElem hi)
  unfold removeNestedBlocks
  rw [List.filter_eq_self.mpr hkept, Body.mk_self]

/-- A path that leads to nothing changes nothing. -/
theorem atPath_of_not_resolves {ends : String → Body → Prop} {f : String → Body → Body}
    (hends : ∀ element b, ¬ ends element b → f element b = b) (path : List String) (b : Body)
    (h : ¬ b.Resolves ends path) : atPath f path b = b := by
  induction path generalizing b with
  | nil => rfl
  | cons type rest ih =>
    cases rest with
    | nil => exact hends type b h
    | cons next more =>
      rw [atPath]
      · cases hindices : b.blockIndices type with
        | nil => rfl
        | cons index others =>
          dsimp only
          cases hchild : b.structures[index]?.bind Structure.block? with
          | none => simp [Body.modifyBlockAt?, hchild]
          | some child =>
            obtain ⟨s, hs, hblock⟩ := Option.bind_eq_some_iff.mp hchild
            obtain rfl : s = .block child := by
              rcases s with a | e
              · cases hblock
              · rw [Structure.block?_block] at hblock
                rw [Option.some.inj hblock]
            cases hcontent : child.content? with
            | none => simp [Body.modifyBlockAt?, hchild, Block.modifyContent?_eq, hcontent]
            | some content =>
              have hrest : ¬ content.Resolves ends (next :: more) := fun hr =>
                h ⟨index, child, content, by simp [hindices], hs, hcontent, hr⟩
              have hset : b.structures.set index (.block child) = b.structures := set_of_getElem? hs
              simp [Body.modifyBlockAt?, hchild, Block.modifyContent?_eq, hcontent, ih content hrest,
                Block.putContent_self hcontent, hset]
      · simp

theorem foldl_atPath_of_not_resolves {ends : String → Body → Prop} {f : String → Body → Body}
    (hends : ∀ element b, ¬ ends element b → f element b = b) {paths : List (List String)} {b : Body}
    (h : ∀ path ∈ paths, ¬ b.Resolves ends path) : paths.foldl (fun b path => atPath f path b) b = b := by
  induction paths with
  | nil => rfl
  | cons path rest ih =>
    rw [List.foldl_cons, atPath_of_not_resolves hends path b (h path List.mem_cons_self)]
    exact ih fun p hp => h p (List.mem_cons_of_mem _ hp)

/-- No edit goes unmarked, and nothing else is marked. After any operations on a module read from texts that print as
they are written, a file that does not count as changed prints as its text and would be written as it, if each change
of a local is noticed by its value. And an operation whose steps fail, a move of a block to its own file, an update after
which the block reads the same, and a removal at paths that lead to nothing leave the texts, the marks and the registry
as they are. -/
theorem edited_files_are_marked :
    (∀ (origin : Origin) (disk : String → Option String) (sources : List (String × String)) (m : Module),
      Module.ofSources origin disk sources = .ok m →
      (∀ p ∈ sources, ∀ b, parse? p.2 = some b → b.render = p.2) →
      ∀ (ops : List Operation), Operation.AllNoticed ops m →
        ∀ p ∈ (Operation.applyAll ops m).files, p.2.changed = false →
          ∃ content, (p.1, content) ∈ sources ∧ p.2.stored? = some content ∧ p.2.body.render = content ∧
            p.2.render = content) ∧
    (∀ (m m' : Module) (op : BlockOperation) (e : ModuleError), op.procedure.run.run m = (.error e, m') →
      m' = m ∧ op.result m = .error e) ∧
    (∀ (m : Module) (address : String) (s : Snapshot), m.block? address = some s →
      ((Operation.block (.moveBlock address s.fileName)).apply m).module = m) ∧
    (∀ (m : Module) (address : String) (f : Block → Block),
      (∀ b, m.written? address = some b → (f b).text = b.text) →
      ((Operation.block (.updateBlock address f)).apply m).module.shown = m.shown) ∧
    (∀ (m : Module) (address : String) (f : Attribute → Attribute),
      (∀ a, m.declared? address = some a → (f a).key = a.key) →
      (Operation.block (.updateLocal address f)).Noticed m →
      (∀ b b', m.written? address = some b →
        ((Operation.block (.updateLocal address f)).apply m).module.written? address = some b' → b'.text = b.text) →
      ((Operation.block (.updateLocal address f)).apply m).module.shown = m.shown) ∧
    (∀ (m : Module) (target : String) (paths : List (List String)),
      ((∀ b, m.written? target = some b → ∀ path ∈ paths, ¬ b.body.Resolves (fun name b => b.HasElement name) path) →
        ((Operation.transform (.removeElements target paths)).apply m).module = m) ∧
      ((∀ b, m.written? target = some b → ∀ path ∈ paths, ¬ b.body.Resolves (fun type b => b.HasNested type) path) →
        ((Operation.transform (.removeNestedBlocks target paths)).apply m).module = m)) := by
  refine ⟨?_, fun m m' op e h => BlockOperation.run_procedure_of_error h, fun m address s h => Module.moveBlock_self h,
    fun m address f h => Module.shown_updateBlock h,
    fun m address f hkey hnoticed h => Module.shown_updateLocal hkey hnoticed h, ?_⟩
  · intro origin disk sources m hload hprint ops hnoticed p hp hunchanged
    rcases (Operation.keeps_applyAll hnoticed).files p hp with ⟨f, hf, hbecomes⟩ | ⟨-, hchanged⟩
    · obtain ⟨-, hrender⟩ := hbecomes.unchanged hunchanged
      rcases Module.files_foldlM_addFile hload _ hf with hnone | ⟨content, body, hmem, hparse, heq⟩
      · cases hnone
      · dsimp only at hmem heq
        subst heq
        have hstored : p.2.stored? = some content := hbecomes.stored
        have hbody : p.2.body.render = content := hrender.trans (hprint _ hmem body hparse)
        refine ⟨content, hmem, hstored, hbody, ?_⟩
        simp [SourceFile.render, hunchanged, hstored]
    · rw [hunchanged] at hchanged
      cases hchanged
  · intro m target paths
    constructor
    · intro h
      refine Module.updateBlock_self fun b hb => ?_
      rw [foldl_atPath_of_not_resolves (fun name b => removeElement_of_not_hasElement) (h b hb), Block.mk_self]
    · intro h
      refine Module.updateBlock_self fun b hb => ?_
      rw [foldl_atPath_of_not_resolves (fun type b => removeNestedBlocks_of_not_hasNested) (h b hb), Block.mk_self]

/-- Three files with a block each. -/
def threeFiles : List (String × String) :=
  [("main.tf", "resource \"a\" \"b\" \x7b\n  x = 1\n\x7d\n"), ("vars.tf", "variable \"v\" \x7b\x7d\n"),
    ("locals.tf", "locals \x7b\n  c = 1\n\x7d\n")]

/-- A move to a new file, a removal that finds nothing, one of a block that is not there, and another value for a
local. -/
def someOperations : List Operation :=
  [.block (.moveBlock "resource.a.b" "other.tf"), .transform (.removeElements "variable.v" [["x"]]),
    .block (.removeBlock "resource.c.d"), .block (.updateLocal "local.c" (·.withValue ⟨" ", .bare (.bool true)⟩))]

/-- The move marks both of its files and the value the one of the local; the file in between stays as it was read. -/
theorem edited_files_are_marked_move :
    ∃ m, Module.ofSources default (fun _ => none) threeFiles = .ok m ∧ Operation.AllNoticed someOperations m ∧
      (Operation.applyAll someOperations m).fileNames = ["main.tf", "vars.tf", "locals.tf", "other.tf"] ∧
      (Operation.applyAll someOperations m).changedFiles = ["main.tf", "locals.tf", "other.tf"] ∧
      ∀ p ∈ (Operation.applyAll someOperations m).files, p.2.changed = false →
        ∃ content, (p.1, content) ∈ threeFiles ∧ p.2.stored? = some content ∧ p.2.body.render = content ∧
          p.2.render = content := by
  have hprint : ∀ p ∈ threeFiles, ∀ b, parse? p.2 = some b → b.render = p.2 := by
    have htexts : threeFiles.all (fun p => (parse? p.2).all fun b => b.render = p.2) = true := by decide +kernel
    intro p hp b hb
    simpa [hb] using List.all_eq_true.mp htexts p hp
  have htest : (Module.ofSources default (fun _ => none) threeFiles).toOption.any (fun m =>
      (Operation.applyAll someOperations m).fileNames = ["main.tf", "vars.tf", "locals.tf", "other.tf"] &&
        (Operation.applyAll someOperations m).changedFiles = ["main.tf", "locals.tf", "other.tf"]) = true := by
    decide +kernel
  cases hload : Module.ofSources default (fun _ => none) threeFiles with
  | error e => simp [hload, Except.toOption] at htest
  | ok m =>
    have hnoticed : Operation.AllNoticed someOperations m :=
      ⟨trivial, trivial, trivial, fun a _ => a.render_withValue_iff _, trivial⟩
    simp only [hload, Except.toOption, Option.any_some, Bool.and_eq_true, decide_eq_true_eq] at htest
    exact ⟨m, rfl, hnoticed, htest.1, htest.2,
      edited_files_are_marked.1 default _ threeFiles m hload hprint someOperations hnoticed⟩

/-- A file with a local. -/
def localText : String := "locals \x7b\n  c = 1\n\x7d\n"

/-- A comment in front of an attribute. -/
def commented (a : Attribute) : Attribute := { a with lead := "  # counted\n" ++ a.lead }

/-- A comment in front of a local is not noticed: the file prints otherwise and does not count as changed. Nor is an
update after which a block reads the same: it has other attributes, and its file does not count as changed either. -/
theorem edits_go_unmarked :
    (∃ m p, Module.ofSources default (fun _ => none) [("main.tf", localText)] = .ok m ∧
      (∀ b, parse? localText = some b → b.render = localText) ∧
      p ∈ (Operation.applyAll [.block (.updateLocal "local.c" commented)] m).files ∧ p.2.changed = false ∧
      p.2.stored? = some localText ∧ p.2.body.render ≠ localText) ∧
    ∃ m t, Module.ofSources default (fun _ => none) [("main.tf", quotedText)] = .ok m ∧
      (∃ body, Transform.decode "update_in_place" body [] m = .ok t) ∧
      (Operation.applyAll [.transform t] m).changedFiles = [] ∧
      (Operation.applyAll [.transform t] m).nodes.map (fun n => n.2.view.attributes.map (·.1)) = [["x", "y"]] ∧
      m.nodes.map (fun n => n.2.view.attributes.map (·.1)) = [["x"]] := by
  constructor
  · have hprint : (parse? localText).all (fun b => b.render = localText) = true := by decide +kernel
    have htest : (Module.ofSources default (fun _ => none) [("main.tf", localText)]).toOption.any (fun m =>
        (Operation.applyAll [.block (.updateLocal "local.c" commented)] m).files.any fun p =>
          !p.2.changed && p.2.stored? = some localText && p.2.body.render ≠ localText) = true := by decide +kernel
    cases hload : Module.ofSources default (fun _ => none) [("main.tf", localText)] with
    | error e => simp [hload, Except.toOption] at htest
    | ok m =>
      simp only [hload, Except.toOption, Option.any_some, List.any_eq_true, Bool.and_eq_true, Bool.not_eq_true',
        decide_eq_true_eq] at htest
      obtain ⟨p, hp, ⟨hunchanged, hstored⟩, hrender⟩ := htest
      exact ⟨m, p, rfl, fun b hb => by simpa [hb] using hprint, hp, hunchanged, hstored, hrender⟩
  · have hread : (readPair quotedText "update_in_place" quotedUpdate).any (fun p =>
        (Operation.applyAll [.transform p.2] p.1).changedFiles = [] &&
          (Operation.applyAll [.transform p.2] p.1).nodes.map (fun n => n.2.view.attributes.map (·.1)) =
            [["x", "y"]] &&
          p.1.nodes.map (fun n => n.2.view.attributes.map (·.1)) = [["x"]]) = true := by
      decide +kernel
    obtain ⟨m, t, hload, hdecode, htest⟩ := exists_of_readPair hread
    simp only [Bool.and_eq_true, decide_eq_true_eq] at htest
    exact ⟨m, t, hload, hdecode, htest.1.1, htest.1.2, htest.2⟩

end Terrasmith
