import Terrasmith.Proofs.Course
import Terrasmith.Proofs.Loading
import Terrasmith.Transform.Decode

/-!
The registry of a module that was loaded and then changed by transforms. It has an entry for every block with an
address, which its locator finds, and its snapshots show what the trees say unless a change was masked.
-/
namespace Terrasmith

open Source

theorem newBlockKind_eq_ok {f : Fields} {type : String} {kind : BlockKind} (h : newBlockKind f type = .ok (some kind)) :
    kind ≠ .local := by
  unfold newBlockKind at h
  split at h
  · cases h
  · split at h
    · cases h
      exact (BlockKind.name_of_ofIdent? ‹_›).2
    · cases h

/-- What reading makes sure of: a new block has the labels of its kind, and a block is moved to a file of the
module. -/
structure Transform.Checked (t : Transform) : Prop where
  labelled : t.Labelled
  moved : ∀ target fileName, t = .moveBlock target fileName → isModuleFileName fileName = true

theorem Transform.checked_of_decodeNewBlock {f : Fields} {t : Transform}
    (h : Transform.decodeNewBlock f = .ok t) : t.Checked := by
  obtain ⟨type, -, h⟩ := bind_eq_ok h
  obtain ⟨kind?, hkind, h⟩ := bind_eq_ok h
  have hrest : ∀ labels : List String, (if labels.length ≠ (kind?.map BlockKind.labelCount).getD 0 then
        f.conflict (.labelCount type ((kind?.map BlockKind.labelCount).getD 0) labels.length)
      else do
        let body ← f.patch (["new_block_type", "labels", "filename"].foldl withoutAttribute f.body)
        return .newBlock kind? labels (← f.string "filename") body) = Except.ok t → t.Checked := by
    intro labels h
    split at h
    · cases h
    · rename_i hcount
      obtain ⟨patch, -, h⟩ := bind_eq_ok h
      obtain ⟨fileName, -, h⟩ := bind_eq_ok h
      cases h
      cases kind? with
      | none => exact ⟨trivial, nofun⟩
      | some kind => exact ⟨⟨newBlockKind_eq_ok hkind, by simpa using hcount⟩, nofun⟩
  dsimp only at h
  split at h
  · obtain ⟨labels, -, h⟩ := bind_eq_ok h
    exact hrest labels h
  · exact hrest [] h

theorem Transform.checked_of_appendBody {f : Fields} {m : Module} {t : Transform}
    (h : (do
      let target ← f.target m
      match parseBody (← f.string "block_body") with
      | .ok b => return .appendBody target b
      | .error e => throw (.invalidBody e)) = (.ok t : Except DecodeError Transform)) : t.Checked := by
  obtain ⟨target, -, h⟩ := bind_eq_ok h
  obtain ⟨text, -, h⟩ := bind_eq_ok h
  split at h
  · cases h
    exact ⟨trivial, nofun⟩
  · cases h

theorem Transform.checked_of_decode {type : String} {body : Body} {scope : Scope} {m : Module} {t : Transform}
    (h : Transform.decode type body scope m = .ok t) : t.Checked := by
  unfold decode at h
  dsimp only at h
  split at h
  · obtain ⟨target, -, h⟩ := bind_eq_ok h
    obtain ⟨patch, -, h⟩ := bind_eq_ok h
    cases h
    exact ⟨trivial, nofun⟩
  · obtain ⟨rules, -, h⟩ := bind_eq_ok h
    split at h
    · cases h
    · cases h
      exact ⟨trivial, nofun⟩
  · obtain ⟨target, -, h⟩ := bind_eq_ok h
    cases h
    exact ⟨trivial, nofun⟩
  · obtain ⟨target, -, h⟩ := bind_eq_ok h
    obtain ⟨paths, -, h⟩ := bind_eq_ok h
    cases h
    exact ⟨trivial, nofun⟩
  · obtain ⟨target, -, h⟩ := bind_eq_ok h
    obtain ⟨paths, -, h⟩ := bind_eq_ok h
    cases h
    exact ⟨trivial, nofun⟩
  · obtain ⟨target, -, h⟩ := bind_eq_ok h
    obtain ⟨fileName, -, h⟩ := bind_eq_ok h
    split at h
    · next hname =>
      cases h
      refine ⟨trivial, fun _ _ ht => ?_⟩
      cases ht
      exact hname
    · cases h
  · exact checked_of_appendBody h
  · exact checked_of_appendBody h
  · obtain ⟨pattern, -, h⟩ := bind_eq_ok h
    split at h
    · obtain ⟨replacement, -, h⟩ := bind_eq_ok h
      cases h
      exact ⟨trivial, nofun⟩
    · cases h
  · obtain ⟨name, -, h⟩ := bind_eq_ok h
    obtain ⟨fileName, -, h⟩ := bind_eq_ok h
    obtain ⟨value, -, h⟩ := bind_eq_ok h
    cases h
    exact ⟨trivial, nofun⟩
  · exact checked_of_decodeNewBlock h
  · cases h

/-- What is read from a declaration asks for blocks of a kind only with the labels of the kind. -/
theorem Transform.labelled_of_decode {type : String} {body : Body} {scope : Scope} {m : Module} {t : Transform}
    (h : Transform.decode type body scope m = .ok t) : t.Labelled :=
  (checked_of_decode h).labelled

namespace Module

/-- The registry of a module is that of its trees: its keys are the addresses of the nodes, each of which is declared
once in all files, and the locator of a snapshot finds the node of its key in its file. -/
structure Indexed (m : Module) : Prop where
  files : m.fileNames.Nodup
  keys : (m.registry.map Prod.fst).Perm (m.nodes.map fun p => p.2.address)
  distinct : (m.nodes.map fun p => p.2.address).Nodup
  located : ∀ e ∈ m.registry, ∃ file n, m.file? e.2.fileName = some file ∧ e.2.node? file.body = some n ∧
    n ∈ file.body.nodes ∧ n.kind = e.2.kind ∧ n.labels = e.2.labels ∧ n.address = e.1

theorem Registered.indexed {m : Module} (h : m.Registered) : m.Indexed where
  files := h.files
  keys := h.entries.keys_perm
  distinct := h.entries.distinct
  located := by
    intro e he
    obtain ⟨p, hp, htag⟩ := h.entries.exists_node he
    obtain ⟨file, hfile, hn⟩ := exists_file_of_mem_nodes h.files hp
    simp only [tagOf, Snapshot.tag, Prod.mk.injEq] at htag
    obtain ⟨found, hfound, hnode, hkind, hlabels⟩ := Snapshot.exists_node? hn htag.2.1 htag.2.2
    refine ⟨file, found, htag.1 ▸ hfile, hnode, hfound, hkind, hlabels, ?_⟩
    rw [h.entries.keys e he, TreeNode.address, hkind, hlabels, Snapshot.address]

end Module

/-- In every module that transforms pass through, the registry is that of the trees. The snapshots show what the
trees say in all of them exactly if no change on the way leaves the text of a file as it was and yet changes what one
of its blocks shows. -/
theorem registry_follows_trees {origin : Origin} {disk : String → Option String} {sources : List (String × String)}
    {m : Module} (hload : Module.ofSources origin disk sources = .ok m) (hnames : (sources.map Prod.fst).Nodup)
    (hterraform : Module.countOf .terraform m.nodes ≤ 1) (ts : List Transform)
    (hdecoded : ∀ t ∈ ts, ∃ type body scope d, Transform.decode type body scope d = .ok t)
    (hdisk : ∀ t ∈ ts, ∀ name ∈ t.fileNames, name ∈ sources.map Prod.fst ∨ disk name = none) :
    (m :: Transform.courses ts m).getLast? = some (Transform.applyAll ts m) ∧
    (∀ x ∈ m :: Transform.courses ts m, x.Indexed) ∧
    ((∀ x ∈ m :: Transform.courses ts m, x.UpToDate) ↔
      (m :: Transform.courses ts m).IsChain fun a b => ¬ Module.Masked a b) := by
  obtain ⟨h, hu, hfiles, hdisk'⟩ := Module.registered_ofSources hload hnames hterraform
  have hlabelled : ∀ t ∈ ts, t.Labelled := by
    intro t ht
    obtain ⟨type, body, scope, d, hdecode⟩ := hdecoded t ht
    exact Transform.labelled_of_decode hdecode
  have hloaded : ∀ t ∈ ts, ∀ name ∈ t.fileNames, m.Loaded name := by
    intro t ht name hname
    rw [Module.Loaded, hfiles, hdisk']
    exact hdisk t ht name hname
  have hpasses := Transform.passes_courses ts hlabelled h hloaded
  refine ⟨hpasses.getLast?, fun x hx => (hpasses.registered_mem h x hx).indexed, ?_⟩
  rw [← hpasses.upToDate_iff hu, List.forall_mem_cons]
  exact and_iff_right hu

/-- Whether the snapshot of an address shows other attributes than its node. -/
def staleAt (m : Module) (address : String) : Bool :=
  (m.block? address).any fun s => (m.file? s.fileName).any fun file =>
    file.body.nodes.any fun n => n.address = s.address && n.view.attributes ≠ s.view.attributes

theorem not_upToDate_of_staleAt {m : Module} {address : String} (h : staleAt m address = true) : ¬ m.UpToDate := by
  intro hu
  unfold staleAt at h
  cases hs : m.block? address with
  | none => simp [hs] at h
  | some s =>
    cases hfile : m.file? s.fileName with
    | none => simp [hs, hfile] at h
    | some file =>
      obtain ⟨n, hn, haddress, hother⟩ :
          ∃ n ∈ file.body.nodes, n.address = s.address ∧ n.view.attributes ≠ s.view.attributes := by
        simpa [hs, hfile] using h
      have hview := hu _ (Module.mem_registry hs) _ (Module.mem_nodes_of_file? hfile hn) haddress
      exact hother (congrArg View.attributes hview.symm)

/-- A module and a transform that are read from texts. -/
def readPair (text type declaration : String) : Option (Module × Transform) := do
  let m ← (Module.ofSources default (fun _ => none) [("main.tf", text)]).toOption
  let body ← parse? declaration
  let t ← (Transform.decode type body [] m).toOption
  return (m, t)

theorem exists_of_readPair {text type declaration : String} {test : Module × Transform → Bool}
    (h : (readPair text type declaration).any test = true) :
    ∃ m t, Module.ofSources default (fun _ => none) [("main.tf", text)] = .ok m ∧
      (∃ body, Transform.decode type body [] m = .ok t) ∧ test (m, t) = true := by
  unfold readPair at h
  cases hload : Module.ofSources default (fun _ => none) [("main.tf", text)] with
  | error e => simp [hload, Except.toOption] at h
  | ok m =>
    cases hparse : parse? declaration with
    | none => simp [hload, hparse, Except.toOption] at h
    | some body =>
      cases hdecode : Transform.decode type body [] m with
      | error e => simp [hload, hparse, hdecode, Except.toOption] at h
      | ok t =>
        refine ⟨m, t, rfl, ⟨body, hdecode⟩, ?_⟩
        simpa [hload, hparse, hdecode, Except.toOption] using h

/-- A resource and a local. -/
def plainText : String :=
  "resource \"a\" \"b\" \x7b\n  x = 1\n\x7d\nlocals \x7b\n  c = 2\n\x7d\n"

/-- A block moves to a file that is not there yet. -/
theorem registry_follows_moved_block :
    ∃ m t, Module.ofSources default (fun _ => none) [("main.tf", plainText)] = .ok m ∧
      t.fileNames = ["other.tf"] ∧ (Transform.applyAll [t] m).fileNames = ["main.tf", "other.tf"] ∧
      (∀ x ∈ m :: Transform.courses [t] m, x.Indexed) ∧
      ((∀ x ∈ m :: Transform.courses [t] m, x.UpToDate) ↔
        (m :: Transform.courses [t] m).IsChain fun a b => ¬ Module.Masked a b) := by
  have hread : (readPair plainText "move_block"
      "target_block_address = \"resource.a.b\"\nfile_name = \"other.tf\"\n").any (fun (m, t) =>
        Module.countOf .terraform m.nodes ≤ 1 && t.fileNames = ["other.tf"] &&
          (Transform.applyAll [t] m).fileNames = ["main.tf", "other.tf"]) = true := by
    decide +kernel
  obtain ⟨m, t, hload, ⟨body, hdecode⟩, htest⟩ := exists_of_readPair hread
  simp only [Bool.and_eq_true, decide_eq_true_eq] at htest
  have h := registry_follows_trees hload (by simp) htest.1.1 [t]
    (fun u hu => ⟨_, body, [], m, List.mem_singleton.mp hu ▸ hdecode⟩) (fun _ _ _ _ => .inr rfl)
  exact ⟨m, t, hload, htest.1.2, htest.2, h.2⟩

/-- A resource whose attribute is a string with quotes and a line end behind an interpolation. -/
def quotedText : String :=
  "resource \"a\" \"b\" \x7b\n  x = \"$\x7b\"$\x7ba\x7d\"\x7d\\\"\\ny = \\\"foo\"\n\x7d\n"

/-- An update that gives the resource two attributes instead, which read the same. -/
def quotedUpdate : String :=
  "target_block_address = \"resource.a.b\"\nasraw \x7b\n  x = \"$\x7b\"$\x7ba\x7d\"\x7d\"\n  y = \"foo\"\n\x7d\n"

/-- Behind a string in an interpolation, quotes and line ends are printed as they are. So a block with one string and
a block with two attributes have one text, and an update from one to the other leaves the snapshot behind. -/
theorem snapshot_behind_masked_update :
    ∃ m t, Module.ofSources default (fun _ => none) [("main.tf", quotedText)] = .ok m ∧
      Module.countOf .terraform m.nodes ≤ 1 ∧ t.fileNames = [] ∧
      (∃ body, Transform.decode "update_in_place" body [] m = .ok t) ∧
      ¬ (Transform.applyAll [t] m).UpToDate := by
  have hread : (readPair quotedText "update_in_place" quotedUpdate).any (fun (m, t) =>
      Module.countOf .terraform m.nodes ≤ 1 && t.fileNames = [] &&
        staleAt (Transform.applyAll [t] m) "resource.a.b") = true := by
    decide +kernel
  obtain ⟨m, t, hload, hdecode, htest⟩ := exists_of_readPair hread
  simp only [Bool.and_eq_true, decide_eq_true_eq] at htest
  exact ⟨m, t, hload, htest.1.1, htest.1.2, hdecode, not_upToDate_of_staleAt htest.2⟩

end Terrasmith
