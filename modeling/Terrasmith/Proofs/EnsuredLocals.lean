import Terrasmith.Proofs.Additions
import Terrasmith.Proofs.Locals
import Terrasmith.Proofs.Moving
import Terrasmith.Proofs.Unchanged

/-!
Ensuring a local. One that exists gets its value where it is declared; another one is declared at the end of the file
that is given for it. Nothing else happens, and nothing at all when it is done again.
-/
namespace Terrasmith

open Source

namespace Module

variable {m m' : Module} {name fileName : String} {v : Expression} {s : Snapshot} {file : SourceFile} {i j : Nat}
  {e : Block} {old : Attribute}

theorem local_address_injective {first second : String}
    (h : BlockKind.local.address [first] = BlockKind.local.address [second]) : first = second := by
  simpa [BlockKind.address] using h

/-- A local that was declared has another value in its place. Its file counts as changed and its entry is taken again
if the text of the value became another one. Nothing else happens. -/
structure Redefined (m m' : Module) (name : String) (v : Expression) (s : Snapshot) (file : SourceFile) (i j : Nat)
    (e : Block) (old : Attribute) : Prop where
  site : Site m (BlockKind.local.address [name]) s file i
  block : file.body.structures[i]? = some (.block e)
  locals : e.ident = "locals"
  declaration : e.body.structures[j]? = some (.attribute old)
  key : old.key = name
  written : m'.file? s.fileName = some { file with
    body := { file.body with structures := file.body.structures.set i (.block
      { e with body := { e.body with structures := e.body.structures.set j (.attribute (old.withValue v)) } }) }
    changed := file.changed || decide (v.lead ++ v.value.text ≠ old.valueLead ++ old.value.text) }
  others : ∀ other, other ≠ s.fileName → m'.file? other = m.file? other
  names : m'.fileNames = m.fileNames
  registry : ∃ before after, m.registry = before ++ (BlockKind.local.address [name], s) :: after ∧
    m'.registry = before ++ (BlockKind.local.address [name],
      if v.lead ++ v.value.text = old.valueLead ++ old.value.text then s else s.refreshLocal (old.withValue v)) :: after

/-- A local that was not there is declared in a `locals` block of its own, which is the last structure of its file. The
file was there before or is new and counts as changed, and the local is registered. Nothing else happens. -/
structure Declared (m m' : Module) (name fileName : String) (v : Expression) (target : SourceFile) (locals : Block)
    (d : Attribute) : Prop where
  new : m.contains (BlockKind.local.address [name]) = false
  destination : m.file? fileName = some target ∨ m.file? fileName = none ∧ target = { stored? := none, body := {} }
  header : locals.ident = "locals" ∧ locals.labels = []
  only : locals.body.structures = [.attribute d]
  key : d.key = name
  value : d.expression = v
  added : m'.file? fileName = some { target with
    body := { target.body with structures := target.body.structures ++ [.block locals] }, changed := true }
  others : ∀ other, other ≠ fileName → m'.file? other = m.file? other
  names : m'.fileNames = if fileName ∈ m.fileNames then m.fileNames else m.fileNames ++ [fileName]
  registry : m'.registry = m.registry ++ [(BlockKind.local.address [name], .ofNewLocal d fileName m.origin)]

/-- The entry of a local under its own address is that of its name. -/
theorem Placed.labels_of_local (h : m.Placed) {label : String}
    (hfound : m.block? (BlockKind.local.address [name]) = some s) (hkind : s.kind = .local)
    (hlabels : s.labels = [label]) : label = name := by
  have hkey : BlockKind.local.address [name] = s.address := h.keys _ (mem_registry hfound)
  rw [Snapshot.address, hkind, hlabels] at hkey
  exact (local_address_injective hkey).symm

theorem redefined_of_updateLocal (h : m.Placed)
    (hok : m.updateLocal (BlockKind.local.address [name]) (·.withValue v) = .ok m') :
    ∃ s file i j e old, Redefined m m' name v s file i j e old ∧ s.kind = .local ∧ s.labels = [name] ∧
      e.body.attributeIndex? name = some j := by
  obtain ⟨s, file, i, label, e, j, old, hsite, hkind, hlabels, he, hj, hold, rfl⟩ := updateLocal_eq_ok hok
  obtain rfl := h.labels_of_local hsite.found hkind hlabels
  obtain ⟨hident, -⟩ := hsite.locals hkind hlabels he
  obtain ⟨before, after, hregistry, hinsert, -⟩ := registry_around hsite.found
  rw [revalued_eq hsite]
  refine ⟨s, file, i, j, e, old, ?_, hkind, hlabels, hj⟩
  exact {
    site := hsite, block := he, locals := hident, declaration := hold, key := key_of_attributeIndex? hj hold
    written := (file?_setBlock ..).trans (file?_setFile_self ..)
    others := fun other hother => (file?_setBlock ..).trans (lookup_insertEntry_of_ne hother _ m.files)
    names := fileNames_setFile hsite.stored _
    registry := ⟨before, after, hregistry, hinsert _⟩ }

theorem declared_of_addLocal {a : Attribute} {address : String} (hloaded : m.Loaded fileName)
    (hok : m.addLocal a fileName = .ok (m', address)) :
    ∃ target locals d, Declared m m' a.key fileName a.expression target locals d := by
  obtain ⟨rfl, hnew, rfl⟩ := addLocal_eq_ok hok
  obtain ⟨margin, hset⟩ := Body.exists_setAttribute_empty a
  obtain ⟨lead, hpush, -⟩ := Body.exists_pushRoot (m.fileOrDisk fileName).body
    { ident := "locals", body := Body.setAttribute {} a }
  refine ⟨m.fileOrDisk fileName, { ident := "locals", body := Body.setAttribute {} a, lead }, { a with lead := margin },
    ?_⟩
  exact {
    new := hnew, destination := fileOrDisk_of_loaded hloaded rfl, header := ⟨rfl, rfl⟩
    only := by rw [hset]
    key := rfl, value := rfl
    added := by rw [file?_setBlock, appendStructure, file?_setFile_self, hpush]
    others := fun other hother => (file?_setBlock ..).trans (lookup_insertEntry_of_ne hother _ m.files)
    names := keys_insertEntry fileName _ _
    registry := insertEntry_of_lookup_eq_none (block?_eq_none_of_contains hnew) _ }

/-- A local that was redefined is defined so already. -/
theorem Redefined.again (h : Redefined m m' name v s file i j e old) (hplaced : m'.Placed) (hkind : s.kind = .local)
    (hlabels : s.labels = [name]) (hj : e.body.attributeIndex? name = some j) :
    m'.updateLocal (BlockKind.local.address [name]) (·.withValue v) = .ok m' := by
  obtain ⟨before, after, -, hregistry⟩ := h.registry
  generalize hentry : (if v.lead ++ v.value.text = old.valueLead ++ old.value.text then s
    else s.refreshLocal (old.withValue v)) = s' at hregistry
  have hs' : s'.fileName = s.fileName ∧ s'.kind = s.kind ∧ s'.labels = s.labels := by
    rw [← hentry]
    split <;> exact ⟨rfl, rfl, rfl⟩
  let e' : Block := { e with body := { e.body with
    structures := e.body.structures.set j (.attribute (old.withValue v)) } }
  let file' : SourceFile := { file with
    body := { file.body with structures := file.body.structures.set i (.block e') }
    changed := file.changed || decide (v.lead ++ v.value.text ≠ old.valueLead ++ old.value.text) }
  have hsite : Site m' (BlockKind.local.address [name]) s' file' i := by
    refine ⟨lookup_of_mem hplaced.distinct (by simp [hregistry]), hs'.1 ▸ h.written, ?_⟩
    rw [index?_congr hs'.2.1 hs'.2.2]
    exact index?_set_attribute h.site.placed hkind h.block h.declaration rfl
  have he' : file'.body.structures[i]? = some (.block e') :=
    List.getElem?_set_self (List.getElem?_eq_some_iff.mp h.block).1
  have hold : e'.body.structures[j]? = some (.attribute (old.withValue v)) :=
    List.getElem?_set_self (List.getElem?_eq_some_iff.mp h.declaration).1
  have hkey : Structure.isAttribute name (.attribute (old.withValue v)) =
      Structure.isAttribute name (.attribute old) := rfl
  have hj' : e'.body.attributeIndex? name = some j := (findIdx?_set h.declaration hkey).trans hj
  have hdone := updateLocal_of_site (f := (·.withValue v)) hsite (hs'.2.1.trans hkind) (hs'.2.2.trans hlabels) he' hj'
    hold
  exact hdone.trans (congrArg _ (revalued_self hsite he' hold))

/-- Where a local is not declared, its locator finds nothing. -/
theorem isLocals_eq_false (hnone : m.declarations name = []) (hstored : m.file? fileName = some file)
    (hlabels : s.labels = [name]) {x : Structure} (hx : x ∈ file.body.structures) : s.isLocals x = false := by
  refine Bool.eq_false_iff.mpr fun hlocals => ?_
  rcases x with a | b
  · cases hlocals
  · simp only [Snapshot.isLocals, hlabels, List.any_cons, List.any_nil, Bool.or_false, Bool.and_eq_true,
      decide_eq_true_eq] at hlocals
    obtain ⟨a, ha⟩ := Option.isSome_iff_exists.mp hlocals.2
    obtain ⟨hmem, hkey⟩ := Snapshot.attribute?_mem ha
    have hnode : TreeNode.declaration a ∈ file.body.nodes := by
      refine Body.mem_nodes.mpr ⟨b, hx, ?_⟩
      rw [Block.nodes_of_locals hlocals.1]
      exact List.mem_map_of_mem hmem
    have hdeclared : (fileName, TreeNode.declaration a) ∈ m.declarations name :=
      List.mem_filter.mpr ⟨mem_nodes_of_file? hstored hnode, by simp [hkey]⟩
    rw [hnone] at hdeclared
    cases hdeclared

/-- A local that was declared is found where it was declared, if it was not declared before. -/
theorem Declared.again {target : SourceFile} {locals : Block} {d : Attribute}
    (h : Declared m m' name fileName v target locals d) (hplaced : m'.Placed) (hnone : m.declarations name = []) :
    m'.updateLocal (BlockKind.local.address [name]) (·.withValue v) = .ok m' := by
  obtain ⟨rfl, rfl⟩ : d.key = name ∧ d.expression = v := ⟨h.key, h.value⟩
  let s := Snapshot.ofNewLocal d fileName m.origin
  let file : SourceFile := { target with
    body := { target.body with structures := target.body.structures ++ [.block locals] }, changed := true }
  have hfree : ∀ x ∈ target.body.structures, s.isLocals x = false := by
    intro x hx
    rcases h.destination with hstored | ⟨-, rfl⟩
    · exact isLocals_eq_false hnone hstored rfl hx
    · cases hx
  have hlocals : s.isLocals (.block locals) = true := by
    simp [s, Snapshot.isLocals, Snapshot.ofNewLocal, h.header.1, Body.hasAttribute_eq_any, h.only,
      Structure.isAttribute]
  have hindex : s.index? file.body = some target.body.structures.length := by
    have hfirst : s.index? file.body = (target.body.structures ++ [Structure.block locals]).findIdx? s.isLocals := rfl
    rw [hfirst, List.findIdx?_append, List.findIdx?_eq_none_iff.mpr hfree]
    simp [hlocals]
  have hsite : Site m' (BlockKind.local.address [d.key]) s file target.body.structures.length :=
    ⟨lookup_of_mem hplaced.distinct (by simp [h.registry, s]), h.added, hindex⟩
  have hblock : file.body.structures[target.body.structures.length]? = some (.block locals) :=
    List.getElem?_concat_length
  have hj : locals.body.attributeIndex? d.key = some 0 := by
    simp [Body.attributeIndex?, h.only, Structure.isAttribute]
  have hd : locals.body.structures[0]? = some (.attribute d) := by rw [h.only, List.getElem?_cons_zero]
  have hdone := updateLocal_of_site (f := (·.withValue d.expression)) hsite rfl rfl hblock hj hd
  exact hdone.trans (congrArg _ (revalued_self hsite hblock hd))

/-- There is one declaration of a local in all files, with a value. -/
def Established (m : Module) (name : String) (v : Expression) : Prop :=
  ∃ fileName d, m.declarations name = [(fileName, .declaration d)] ∧ d.expression = v

theorem mem_declarations (hstored : m.file? fileName = some file) (he : file.body.structures[i]? = some (.block e))
    (hident : e.ident = "locals") (hold : e.body.structures[j]? = some (.attribute old)) :
    (fileName, TreeNode.declaration old) ∈ m.declarations old.key := by
  refine List.mem_filter.mpr ⟨mem_nodes_of_file? hstored ?_, by simp⟩
  refine Body.mem_nodes.mpr ⟨e, List.mem_of_getElem? he, ?_⟩
  rw [Block.nodes_of_locals hident]
  exact List.mem_map_of_mem (List.mem_filterMap.mpr ⟨.attribute old, List.mem_of_getElem? hold, rfl⟩)

theorem established_iff {d : Attribute} (hmem : (fileName, TreeNode.declaration d) ∈ m.declarations name)
    (hvalue : d.expression = v) : m.Established name v ↔ (m.declarations name).length = 1 := by
  constructor
  · rintro ⟨other, d', hall, -⟩
    rw [hall, List.length_singleton]
  · intro hlength
    obtain ⟨p, hall⟩ := List.length_eq_one_iff.mp hlength
    rw [hall, List.mem_singleton] at hmem
    exact ⟨fileName, d, by rw [hall, hmem], hvalue⟩

theorem Redefined.established_iff (h : Redefined m m' name v s file i j e old) :
    m'.Established name v ↔ (m'.declarations name).length = 1 := by
  have hmem := mem_declarations h.written (List.getElem?_set_self (List.getElem?_eq_some_iff.mp h.block).1) h.locals
    (List.getElem?_set_self (List.getElem?_eq_some_iff.mp h.declaration).1)
  rw [← h.key]
  exact Module.established_iff hmem rfl

theorem Declared.established_iff {target : SourceFile} {locals : Block} {d : Attribute}
    (h : Declared m m' name fileName v target locals d) :
    m'.Established name v ↔ (m'.declarations name).length = 1 := by
  have hd : locals.body.structures[0]? = some (.attribute d) := by rw [h.only, List.getElem?_cons_zero]
  have hmem := mem_declarations h.added List.getElem?_concat_length h.header.1 hd
  rw [← h.key]
  exact Module.established_iff hmem h.value

/-- A local is registered once, if at all. -/
theorem Placed.localEntries_le (h : m.Placed) (name : String) :
    m.localEntries name ≤ if m.contains (BlockKind.local.address [name]) = true then 1 else 0 := by
  have hkeys : m.localEntries name ≤ (m.registry.map Prod.fst).count (BlockKind.local.address [name]) := by
    rw [localEntries, List.count, List.countP_map]
    refine List.countP_mono_left fun e he hlocal => ?_
    simp only [Snapshot.isLocal, Bool.and_eq_true, decide_eq_true_eq] at hlocal
    rw [Function.comp_apply, beq_iff_eq, h.keys e he, Snapshot.address, hlocal.1, hlocal.2]
  refine hkeys.trans ?_
  split
  · exact List.nodup_iff_count_le_one.mp h.distinct _
  · rename_i hnew
    have hnone := block?_eq_none_of_contains (Bool.eq_false_iff.mpr hnew)
    exact (List.count_eq_zero.mpr (lookup_eq_none_iff_notMem.mp hnone)).le

end Module

/-- What ensuring a local does. -/
theorem ensureLocal_cases {m : Module} {name fileName : String} {value : LocalValue}
    (hok : ((Transform.ensureLocal name fileName value).apply m).error? = none) :
    ∃ a, value.attribute name = .ok a ∧ a.key = name ∧
      (m.contains (BlockKind.local.address [name]) = true ∧
        m.updateLocal (BlockKind.local.address [name]) (·.withValue a.expression) =
          .ok ((Transform.ensureLocal name fileName value).apply m).module ∨
      m.contains (BlockKind.local.address [name]) = false ∧
        m.addLocal a fileName = .ok (((Transform.ensureLocal name fileName value).apply m).module,
          BlockKind.local.address [name])) := by
  simp only [Transform.apply] at hok ⊢
  cases hvalue : value.attribute name with
  | error e => simp [hvalue] at hok
  | ok a =>
    have hkey := LocalValue.key_attribute hvalue
    simp only [hvalue] at hok
    refine ⟨a, rfl, hkey, ?_⟩
    cases hfound : m.contains (BlockKind.local.address [name]) with
    | true =>
      simp only [hfound, if_true] at hok ⊢
      exact .inl ⟨trivial, Applied.eq_ok_of_error?_eq_none hok⟩
    | false =>
      have hnew : m.hasLocal a = false := by rwa [Module.hasLocal, hkey]
      simp only [Module.addLocal_of_not_hasLocal hnew, hkey]
      exact .inr ⟨trivial, rfl⟩

/-- In every module that is made from files and changed by transforms, a local is ensured as follows, if the file given
for it was loaded or is not there. If it is registered it gets the value where it is declared, otherwise it is declared
with the value at the end of the given file, and in both cases nothing else happens. Afterwards there is one declaration
of it in all files, with the value, exactly if before there was one in case that it was registered and none otherwise.
Then, and always if it was registered, ensuring it again changes nothing. It is so whenever the files that the
transforms append to were loaded or are new. -/
theorem ensureLocal_establishes {origin : Origin} {disk : String → Option String} {sources : List (String × String)}
    {m : Module} (hload : Module.ofSources origin disk sources = .ok m) (hnames : (sources.map Prod.fst).Nodup)
    (ts : List Transform) {name fileName : String} {value : LocalValue}
    (hloaded : (Transform.applyAll ts m).Loaded fileName)
    (hok : ((Transform.ensureLocal name fileName value).apply (Transform.applyAll ts m)).error? = none) :
    let before := Transform.applyAll ts m
    let after := ((Transform.ensureLocal name fileName value).apply before).module
    let registered := before.contains (BlockKind.local.address [name])
    ∃ v, (value.attribute name).map Attribute.expression = .ok v ∧
      (registered = true → ∃ s file i j e old, before.Redefined after name v s file i j e old) ∧
      (registered = false → ∃ target locals d, before.Declared after name fileName v target locals d) ∧
      (after.Established name v ↔ (before.declarations name).length = if registered = true then 1 else 0) ∧
      (registered = true ∨ before.declarations name = [] →
        (Transform.ensureLocal name fileName value).apply after = { module := after }) ∧
      ((∀ t ∈ ts, ∀ other ∈ t.fileNames, m.Loaded other) → after.Established name v) := by
  intro before after registered
  have hplaced : before.Placed := (Module.placed_ofSources hload hnames).applyAll ts
  have hplaced' : after.Placed := by
    have hstep := hplaced.applyAll [.ensureLocal name fileName value]
    exact hstep
  have hcovered (h : ∀ t ∈ ts, ∀ other ∈ t.fileNames, m.Loaded other) :
      (before.declarations name).length ≤ if registered = true then 1 else 0 :=
    ((Module.covered_ofSources hload hnames).applyAll ts h name).trans (hplaced.localEntries_le name)
  obtain ⟨a, hvalue, hkey, hcase⟩ := ensureLocal_cases hok
  refine ⟨a.expression, by rw [hvalue]; rfl, ?_⟩
  -- Ensured again, the local is there and gets the value that it has.
  have hagain (hsame : after.updateLocal (BlockKind.local.address [name]) (·.withValue a.expression) = .ok after) :
      (Transform.ensureLocal name fileName value).apply after = { module := after } := by
    obtain ⟨_, _, _, _, _, _, _, hsite, -⟩ := Module.updateLocal_eq_ok hsame
    have h : after.contains (BlockKind.local.address [name]) = true := Option.isSome_iff_exists.mpr ⟨_, hsite.found⟩
    simp only [Transform.apply, hvalue, h, if_true, hsame]
    rfl
  rcases hcase with ⟨hfound, hupdate⟩ | ⟨hnew, hadd⟩
  · obtain ⟨s, file, i, j, e, old, hredefined, hkind, hlabels, hj⟩ := Module.redefined_of_updateLocal hplaced hupdate
    have hlength := Module.length_declarations_updateLocal (f := fun _ => a.expression) hupdate name
    have hdeclared : 0 < (before.declarations name).length := by
      have hmem := Module.mem_declarations hredefined.site.stored hredefined.block hredefined.locals
        hredefined.declaration
      rw [hredefined.key] at hmem
      exact List.length_pos_of_mem hmem
    have hthere : registered = true := hfound
    rw [if_pos hthere, hredefined.established_iff, hlength]
    refine ⟨fun _ => ⟨s, file, i, j, e, old, hredefined⟩, fun h => absurd (h.symm.trans hthere) Bool.false_ne_true,
      Iff.rfl, fun _ => hagain (hredefined.again hplaced' hkind hlabels hj), fun h => ?_⟩
    have hle := hcovered h
    rw [if_pos hthere] at hle
    exact Nat.le_antisymm hle hdeclared
  · obtain ⟨target, locals, d, hdeclared⟩ := Module.declared_of_addLocal hloaded hadd
    have hlength : (after.declarations name).length = (before.declarations name).length + _ :=
      Module.length_declarations_addLocal hloaded hadd name
    rw [if_pos hkey] at hlength
    rw [hkey] at hdeclared
    have hthere : ¬registered = true := Bool.eq_false_iff.mp hnew
    rw [if_neg hthere, hdeclared.established_iff, hlength]
    refine ⟨fun h => absurd h hthere, fun _ => ⟨target, locals, d, hdeclared⟩, by omega,
      fun h => hagain (hdeclared.again hplaced' (h.resolve_left hthere)), fun h => ?_⟩
    have hle := hcovered h
    rw [if_neg hthere] at hle
    omega

/-- Whether the last of some transforms ensures a local in a file that was loaded, does not fail and passes a test. -/
def endsEnsuring (ts : List Transform) (m : Module) (name : String) (test : Module → Bool) : Bool :=
  match ts.getLast? with
  | some (.ensureLocal label fileName value) =>
    let before := Transform.applyAll ts.dropLast m
    let applied := (Transform.ensureLocal label fileName value).apply before
    label = name && before.fileNames.contains fileName && applied.error?.isNone && test applied.module
  | _ => false

theorem exists_of_endsEnsuring {ts : List Transform} {m : Module} {name : String} {test : Module → Bool}
    (h : endsEnsuring ts m name test = true) : ∃ fileName value,
    .ensureLocal name fileName value ∈ ts ∧ (Transform.applyAll ts.dropLast m).Loaded fileName ∧
      ((Transform.ensureLocal name fileName value).apply (Transform.applyAll ts.dropLast m)).error? = none ∧
      test ((Transform.ensureLocal name fileName value).apply (Transform.applyAll ts.dropLast m)).module = true := by
  unfold endsEnsuring at h
  split at h
  · next label fileName value hlast =>
    simp only [Bool.and_eq_true, decide_eq_true_eq, List.contains_iff_mem, Option.isNone_iff_eq_none] at h
    obtain ⟨⟨⟨rfl, hfile⟩, hok⟩, htest⟩ := h
    exact ⟨fileName, value, List.mem_of_getLast? hlast, .inl hfile, hok, htest⟩
  · cases h

/-- Two locals in one file, and another file. -/
def localSources : List (String × String) :=
  [("main.tf", "locals \x7b\n  x = 1\n  y = 2\n\x7d\n"), ("other.tf", "variable \"v\" \x7b\n\x7d\n")]

/-- One of the locals is removed, the other one is ensured. -/
def localDeclarations : List (String × String) :=
  [("remove_block", "target_block_address = \"local.y\"\n"),
    ("ensure_local", "local_name = \"x\"\nfallback_file_name = \"other.tf\"\nvalue_as_string = \"[2]\"\n")]

/-- The local stays where it is. -/
theorem ensureLocal_establishes_in_place : ∃ m ts fileName value v,
    Module.ofSources default (fun _ => none) localSources = .ok m ∧ ts.length = 1 ∧
    (Transform.applyAll ts m).Loaded fileName ∧
    ((Transform.ensureLocal "x" fileName value).apply (Transform.applyAll ts m)).error? = none ∧
    ((Transform.ensureLocal "x" fileName value).apply (Transform.applyAll ts m)).module.Established "x" v ∧
    ((Transform.ensureLocal "x" fileName value).apply (Transform.applyAll ts m)).module.files.map
      (fun f => (f.1, f.2.body.render)) =
        [("main.tf", "locals \x7b\n  x = [2]\n\x7d\n"), ("other.tf", "variable \"v\" \x7b\n\x7d\n")] := by
  have hread : (readAll localSources localDeclarations).any (fun (m, ts) => ts.length = 2 &&
      ts.dropLast.all (·.fileNames.isEmpty) && endsEnsuring ts m "x" fun after =>
        after.files.map (fun f => (f.1, f.2.body.render)) =
          [("main.tf", "locals \x7b\n  x = [2]\n\x7d\n"), ("other.tf", "variable \"v\" \x7b\n\x7d\n")]) =
      true := by
    decide +kernel
  obtain ⟨m, ts, hload, -, htest⟩ := exists_of_readAll hread
  simp only [Bool.and_eq_true, decide_eq_true_eq, List.all_eq_true, List.isEmpty_iff] at htest
  obtain ⟨⟨hlength, hnone⟩, hends⟩ := htest
  obtain ⟨fileName, value, -, hloaded, hok, htexts⟩ := exists_of_endsEnsuring hends
  obtain ⟨v, -, -, -, -, -, hestablished⟩ := ensureLocal_establishes hload (by decide) ts.dropLast hloaded hok
  refine ⟨m, ts.dropLast, fileName, value, v, hload, by rw [List.length_dropLast, hlength], hloaded, hok,
    hestablished fun t ht other hother => ?_, of_decide_eq_true htexts⟩
  rw [hnone t ht] at hother
  cases hother

/-- A file that was not loaded declares the local. -/
def overridden (name : String) : Option String :=
  if name = "override.tf" then some "locals \x7b\n  x = 1\n\x7d\n" else none

/-- An output is added to that file, before the local is ensured. -/
def overridingDeclarations : List (String × String) :=
  [("new_block", "new_block_type = \"output\"\nlabels = [\"o\"]\nfilename = \"override.tf\"\n"),
    ("ensure_local", "local_name = \"x\"\nfallback_file_name = \"main.tf\"\nvalue_as_string = \"2\"\n")]

/-- The declaration that came in with the output is not registered, so the local is declared once more. -/
theorem ensureLocal_declares_twice : ∃ m ts fileName value,
    Module.ofSources default overridden [("main.tf", "variable \"v\" \x7b\n\x7d\n")] = .ok m ∧
    (∀ t ∈ .ensureLocal "x" fileName value :: ts,
      ∃ type body scope d, Transform.decode type body scope d = .ok t) ∧
    (Transform.applyAll ts m).Loaded fileName ∧
    ((Transform.ensureLocal "x" fileName value).apply (Transform.applyAll ts m)).error? = none ∧
    ∀ v, ¬((Transform.ensureLocal "x" fileName value).apply (Transform.applyAll ts m)).module.Established "x" v := by
  have hread : (Module.ofSources default overridden [("main.tf", "variable \"v\" \x7b\n\x7d\n")]).toOption.any
      (fun m => (readAll [("main.tf", "variable \"v\" \x7b\n\x7d\n")] overridingDeclarations).any fun (_, ts) =>
        endsEnsuring ts m "x" fun after => (after.declarations "x").map Prod.fst = ["main.tf", "override.tf"]) =
      true := by
    decide +kernel
  obtain ⟨m, hload, hread⟩ := (Option.any_eq_true _ _).mp hread
  obtain ⟨_, ts, -, hdecoded, htest⟩ := exists_of_readAll hread
  obtain ⟨fileName, value, hmem, hloaded, hok, htwice⟩ := exists_of_endsEnsuring htest
  refine ⟨m, ts.dropLast, fileName, value, ok_of_toOption hload, fun t ht => ?_, hloaded, hok, ?_⟩
  · rcases List.mem_cons.mp ht with rfl | ht
    · exact hdecoded _ hmem
    · exact hdecoded t (List.dropLast_subset ts ht)
  · rintro v ⟨file, d, hall, -⟩
    rw [hall, decide_eq_true_eq] at htwice
    cases htwice

end Terrasmith
