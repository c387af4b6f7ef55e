import Terrasmith.Proofs.Inventory
import Terrasmith.Proofs.Renaming
import Terrasmith.Proofs.Reworking

/-!
What a rename rule does to a module. It reworks the bodies of the blocks of its kind and type, in each of them the
bodies that the types of its path lead to, and leaves the rest of the module as it is.
-/
namespace Terrasmith

open Source Text

namespace RenameRule

variable {m m' : Module} {r : RenameRule}

/-- Whether an address is that of a block that a rule applies to. -/
def Targets (r : RenameRule) (m : Module) (address : String) : Prop :=
  ∃ s, m.block? address = some s ∧ r.appliesTo s = true

/-- Whether a block has the kind and the type of a rule. -/
def Concerns (r : RenameRule) (b : Block) : Prop :=
  (r.kind = .resource ∨ r.kind = .data) ∧ b.ident = r.kind.name ∧ b.labelTexts.head? = some r.blockType

/-- What the rule does to the body of a block. -/
def rework (r : RenameRule) (b : Body) : Body := atAllPaths (renameElement r.newName r.skipIfExists) r.path b

theorem appliesTo_iff {s : Snapshot} : r.appliesTo s = true ↔
    s.kind = r.kind ∧ (r.kind = .resource ∨ r.kind = .data) ∧ s.labels.head? = some r.blockType := by
  rw [appliesTo, Bool.and_eq_true, decide_eq_true_eq, decide_eq_true_eq]
  refine and_congr_right fun hkind => ?_
  unfold Snapshot.blockType?
  rw [hkind]
  cases r.kind <;> simp

theorem kind_of_appliesTo {s : Snapshot} (h : r.appliesTo s = true) : s.kind ≠ .local := by
  obtain ⟨hkind, hresource, -⟩ := appliesTo_iff.mp h
  rw [hkind]
  rintro hlocal
  simp [hlocal] at hresource

theorem mem_addresses_iff (h : m.Placed) {address : String} :
    address ∈ (m.blocks.filter r.appliesTo).map Snapshot.address ↔ r.Targets m address := by
  simp only [List.mem_map, List.mem_filter, Module.blocks]
  constructor
  · rintro ⟨s, ⟨⟨e, he, rfl⟩, happlies⟩, rfl⟩
    refine ⟨e.2, ?_, happlies⟩
    rw [← h.keys e he]
    exact lookup_of_mem h.distinct he
  · rintro ⟨s, hfound, happlies⟩
    have hmem := Module.mem_registry hfound
    exact ⟨s, ⟨⟨_, hmem, rfl⟩, happlies⟩, (h.keys _ hmem).symm⟩

theorem nodup_addresses (h : m.Placed) : ((m.blocks.filter r.appliesTo).map Snapshot.address).Nodup := by
  have haddresses : m.blocks.map Snapshot.address = m.registry.map Prod.fst := by
    rw [Module.blocks, List.map_map]
    exact List.map_congr_left fun e he => (h.keys e he).symm
  exact (List.filter_sublist.map _).nodup (haddresses ▸ h.distinct)

/-- A rule succeeds, and reworks the blocks that it applies to. -/
theorem reworked (r : RenameRule) (h : m.Placed) :
    ∃ m', r.apply m = { module := m' } ∧ m'.Placed ∧ m.Reworked (r.Targets m) (fun b d => d = r.rework b) m' := by
  have hknown : ∀ address ∈ (m.blocks.filter r.appliesTo).map Snapshot.address,
      ∃ s, m.block? address = some s ∧ s.kind ≠ .local := by
    intro address ha
    obtain ⟨s, hfound, happlies⟩ := (mem_addresses_iff h).mp ha
    exact ⟨s, hfound, kind_of_appliesTo happlies⟩
  obtain ⟨m', happly, hplaced, hreworked⟩ := h.reworked_forAll r.rework (nodup_addresses h) hknown
  have htargets : (· ∈ (m.blocks.filter r.appliesTo).map Snapshot.address) = r.Targets m :=
    funext fun address => propext (mem_addresses_iff h)
  exact ⟨m', happly, hplaced, htargets ▸ hreworked⟩

/-- A rule that would do nothing more to any body it has reworked changes nothing the second time. -/
theorem apply_again (h : m.Placed) (h' : m'.Placed)
    (hreworked : m.Reworked (r.Targets m) (fun b d => d = r.rework b) m')
    (hself : ∀ b, r.rework (r.rework b) = r.rework b) : r.apply m' = { module := m' } := by
  refine Module.forAll_updateBlock_self r.rework fun address ha => ?_
  obtain ⟨s', hfound', happlies'⟩ := (mem_addresses_iff h').mp ha
  have htag := hreworked.map_tag address
  rw [hfound', Option.map_some, eq_comm, Option.map_eq_some_iff] at htag
  obtain ⟨s, hfound, htag⟩ := htag
  obtain ⟨hname, hkind, hlabels⟩ := Snapshot.tag_eq_iff.mp htag
  have happlies : r.appliesTo s = true := by
    rw [appliesTo_iff] at happlies' ⊢
    rwa [hkind, hlabels]
  have hlocal := kind_of_appliesTo happlies
  obtain ⟨f, i, b, hsite, hb⟩ := h.exists_site hfound hlocal
  obtain ⟨s'', g, hsite', -, hfile⟩ := hreworked.exists_site hsite hlocal
  obtain rfl : s'' = s' := Option.some.inj (hsite'.found.symm.trans hfound')
  obtain ⟨hlt, -⟩ := List.getElem?_eq_some_iff.mp hb
  have hy := List.getElem?_eq_getElem (hfile.length.symm ▸ hlt : i < g.body.structures.length)
  obtain ⟨c, body, hc, heq, rfl⟩ := hfile.inside i _ _
    ⟨address, s, f, ⟨s, hfound, happlies⟩, hsite, hlocal, rfl⟩ hb hy
  rw [heq] at hy
  exact ⟨s'', g, i, _, hsite', kind_of_appliesTo happlies', hy, hself c.body⟩

/-- The rule comes to blocks of its kind and type only. -/
theorem concerns_of_isPlace {name : String} {f : SourceFile} {i : Nat} {b : Block} (hf : m.file? name = some f)
    (hb : f.body.structures[i]? = some (.block b)) (h : m.IsPlace (r.Targets m) name i) : r.Concerns b := by
  obtain ⟨address, s, file, ⟨t, hfound, happlies⟩, hsite, hlocal, rfl⟩ := h
  obtain rfl : t = s := Option.some.inj (hfound.symm.trans hsite.found)
  obtain rfl : file = f := Option.some.inj (hsite.stored.symm.trans hf)
  obtain ⟨e, he, hident, hlabels⟩ := Snapshot.index?_block_eq_some hlocal hsite.placed
  obtain rfl : e = b := by simpa [he] using hb
  obtain ⟨hkind, hresource, htype⟩ := appliesTo_iff.mp happlies
  exact ⟨hresource, hident.trans (congrArg BlockKind.name hkind), hlabels ▸ htype⟩

/-- The rule comes to all blocks of its kind and type, if the registry lists what is in the files. -/
theorem isPlace_of_concerns (h : m.Placed) (hlisted : m.Listed) {name : String} {f : SourceFile} {i : Nat} {b : Block}
    (hf : m.file? name = some f) (hb : f.body.structures[i]? = some (.block b)) (hconcerns : r.Concerns b)
    (hcount : b.labels.length = r.kind.labelCount) : m.IsPlace (r.Targets m) name i := by
  obtain ⟨hresource, hident, htype⟩ := hconcerns
  have hkind : r.kind ≠ .local ∧ r.kind ≠ .terraform := by
    rcases hresource with heq | heq <;> rw [heq] <;> decide
  have hlistable : Listable (b.ident, b.labelTexts) :=
    ⟨r.kind, hkind.1, hkind.2, hident, by rwa [Block.labelTexts, List.length_map]⟩
  obtain ⟨address, s, hsite, hname, hheader⟩ := hlisted.exists_site h hf hb hlistable
  have hsame : s.kind = r.kind := BlockKind.name_injective ((congrArg Prod.fst hheader).trans hident)
  have hlabels : s.labels = b.labelTexts := congrArg Prod.snd hheader
  have happlies : r.appliesTo s = true := appliesTo_iff.mpr ⟨hsame, hresource, hlabels ▸ htype⟩
  exact ⟨address, s, f, ⟨s, hsite.found, happlies⟩, hsite, hsame ▸ hkind.1, hname⟩

end RenameRule

/-- In every module that is made from files and changed by transforms a rule without `skip_if_exists` succeeds. It
renames in all bodies at the end of its path of all blocks that it applies to, changes nothing else, and does nothing
when it is applied again. The blocks are those of its kind and type; one is missed only if it came from a file that
was not loaded but appended to. -/
theorem rename_is_complete {origin : Origin} {disk : String → Option String} {sources : List (String × String)}
    {m : Module} (hload : Module.ofSources origin disk sources = .ok m) (hnames : (sources.map Prod.fst).Nodup)
    (ts : List Transform) {r : RenameRule} {path : List String} {old : String} (hpath : r.path = path ++ [old])
    (hskip : r.skipIfExists = false) (hold : isIdentifier old = true) (hvariable : readsAsVariable old = true)
    (hnew : r.newName ≠ old) (hdynamic : r.newName ≠ "dynamic") :
    let before := Transform.applyAll ts m
    ∃ after, r.apply before = { module := after } ∧
      before.Reworked (r.Targets before) (Body.Along (Body.Renamed old r.newName) path) after ∧
      (∀ name f i b, before.file? name = some f → f.body.structures[i]? = some (.block b) →
        (before.IsPlace (r.Targets before) name i → r.Concerns b) ∧
        ((∀ t ∈ ts, ∀ n ∈ t.fileNames, m.Loaded n) → r.Concerns b → b.labels.length = r.kind.labelCount →
          before.IsPlace (r.Targets before) name i)) ∧
      r.apply after = { module := after } := by
  intro before
  have hplaced : before.Placed := (Module.placed_ofSources hload hnames).applyAll ts
  have hliteral : old ∉ literalWords := (readsAsVariable_iff hold).mp hvariable
  have hrework : r.rework = atAllPaths (renameElement r.newName false) (path ++ [old]) := by
    funext b
    rw [RenameRule.rework, hskip, hpath]
  have hrenamed : ∀ c : Body, c.Renamed old r.newName (renameElement r.newName false old c) :=
    renameElement_renamed (Ne.symm hnew) hdynamic hold hliteral
  have hself : ∀ b, r.rework (r.rework b) = r.rework b := by
    intro b
    rw [hrework]
    exact atAllPaths_atAllPaths (fun c => renameElement_of_lacks (Ne.symm hnew) false (hrenamed c).lacks) path b
  obtain ⟨after, happly, hplaced', hreworked⟩ := r.reworked hplaced
  refine ⟨after, happly, hreworked.mono fun b d hd => ?_, fun name f i b hf hb =>
    ⟨RenameRule.concerns_of_isPlace hf hb, fun hloaded hconcerns hcount => ?_⟩,
    RenameRule.apply_again hplaced hplaced' hreworked hself⟩
  · rw [hd, hrework]
    exact atAllPaths_along hrenamed path b
  · have hlisted : before.Listed := (Module.listed_ofSources hload hnames).applyAll ts hloaded
    exact RenameRule.isPlace_of_concerns hplaced hlisted hf hb hconcerns hcount

/-- A resource whose nested block has a dynamic block and an attribute of one name, and an attribute of another. -/
def nestedNames : List (String × String) :=
  [("main.tf", "resource \"t\" \"a\" \x7b\n  b \x7b\n    new = 0\n    old = 1 # kept\n    dynamic \"old\" \x7b\n" ++
    "      for_each = [3]\n      content \x7b\n      \x7d\n    \x7d\n  \x7d\n\x7d\n")]

def nestedRule : RenameRule :=
  { kind := .resource, blockType := "t", path := ["b", "old"], newName := "new", skipIfExists := false }

/-- The resource moves to another file before the rule comes to it. -/
def nestedMove : List (String × String) :=
  [("move_block", "target_block_address = \"resource.t.a\"\nfile_name = \"b.tf\"\n")]

def nestedRenamed : String :=
  "resource \"t\" \"a\" \x7b\n  b \x7b\n    new = 1 # kept\n    dynamic \"new\" \x7b\n" ++
    "      for_each = [3]\n      iterator = old\n      content \x7b\n      \x7d\n    \x7d\n  \x7d\n\x7d\n"

/-- The attribute takes the place of the one that had the new name, and the dynamic block is given an iterator. -/
theorem rename_is_complete_nested :
    ∃ m ts after, Module.ofSources default (fun _ => none) nestedNames = .ok m ∧ ts.length = 1 ∧
      nestedRule.apply (Transform.applyAll ts m) = { module := after } ∧
      (after.file? "b.tf").map SourceFile.render = some nestedRenamed ∧
      (Transform.applyAll ts m).Reworked (nestedRule.Targets (Transform.applyAll ts m))
        (Body.Along (Body.Renamed "old" "new") ["b"]) after ∧
      nestedRule.apply after = { module := after } := by
  have hread : (readAll nestedNames nestedMove).any (fun (m, ts) => ts.length = 1 &&
      ((nestedRule.apply (Transform.applyAll ts m)).module.file? "b.tf").map SourceFile.render =
        some nestedRenamed) = true := by
    decide +kernel
  obtain ⟨m, ts, hload, -, htest⟩ := exists_of_readAll hread
  simp only [Bool.and_eq_true, decide_eq_true_eq] at htest
  have hnames : (nestedNames.map Prod.fst).Nodup := by decide
  have hvariable : readsAsVariable "old" = true := by decide +kernel
  obtain ⟨after, happly, hreworked, -, hagain⟩ := rename_is_complete hload hnames ts (r := nestedRule)
    (show nestedRule.path = ["b"] ++ ["old"] from rfl) rfl (by decide) hvariable (by decide) (by decide)
  refine ⟨m, ts, after, hload, htest.1, happly, ?_, hreworked, hagain⟩
  rw [happly] at htest
  exact htest.2

/-- A file on the disk that is not loaded, with a resource. -/
def resourceOnDisk (name : String) : Option String :=
  if name = "override.tf" then some "resource \"t\" \"a\" \x7b\n  old = 1\n\x7d\n" else none

/-- An output is added to that file, before the rule is applied. -/
def outputThere : List (String × String) :=
  [("new_block", "new_block_type = \"output\"\nlabels = [\"o\"]\nfilename = \"override.tf\"\n")]

def plainRule : RenameRule :=
  { kind := .resource, blockType := "t", path := ["old"], newName := "new", skipIfExists := false }

/-- The resource that came in with the output is not registered, so the rule misses it. -/
theorem rename_misses_unregistered : ∃ m ts after f b,
    Module.ofSources default resourceOnDisk [("main.tf", "variable \"v\" \x7b\n\x7d\n")] = .ok m ∧
      (∀ t ∈ ts, ∃ type body scope d, Transform.decode type body scope d = .ok t) ∧
      plainRule.apply (Transform.applyAll ts m) = { module := after } ∧ after.file? "override.tf" = some f ∧
      b ∈ f.body.blocks ∧ plainRule.Concerns b ∧ b.labels.length = plainRule.kind.labelCount ∧
      b.body.hasAttribute "old" = true := by
  have hread : (Module.ofSources default resourceOnDisk [("main.tf", "variable \"v\" \x7b\n\x7d\n")]).toOption.any
      (fun m => (readAll [("main.tf", "variable \"v\" \x7b\n\x7d\n")] outputThere).any fun (_, ts) =>
        (plainRule.apply (Transform.applyAll ts m)).error?.isNone &&
          ((plainRule.apply (Transform.applyAll ts m)).module.file? "override.tf").any fun f =>
            f.body.blocks.any fun b => b.ident = "resource" && b.labelTexts.head? = some "t" &&
              b.labels.length = 2 && b.body.hasAttribute "old") = true := by
    decide +kernel
  obtain ⟨m, hload, hread⟩ := (Option.any_eq_true _ _).mp hread
  obtain ⟨_, ts, -, hdecoded, htest⟩ := exists_of_readAll hread
  simp only [Bool.and_eq_true, Option.isNone_iff_eq_none, Option.any_eq_true, List.any_eq_true,
    decide_eq_true_eq] at htest
  obtain ⟨hok, f, hfile, b, hb, ⟨⟨hident, htype⟩, hlabels⟩, hattribute⟩ := htest
  have happly : plainRule.apply (Transform.applyAll ts m) =
      { module := (plainRule.apply (Transform.applyAll ts m)).module } := by
    rw [← hok]
  exact ⟨m, ts, _, f, b, ok_of_toOption hload, hdecoded, happly, hfile, hb, ⟨.inl rfl, hident, htype⟩, hlabels,
    hattribute⟩

end Terrasmith
