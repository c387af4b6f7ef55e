import Terrasmith.Proofs.Appending
import Terrasmith.Proofs.Keys

/-!
The `terraform` blocks of a module. They all have the same header and only one of them is registered; it is found in
its file by a search from the front. What each operation does to the registered block and to the others.
-/
namespace Terrasmith

open Source

namespace Source

/-- Whether a root block is one of the `terraform` blocks. -/
def Block.isTerraform (b : Block) : Bool := b.ident = "terraform" && b.labels = []

def Structure.terraforms : Structure → List Block
  | .block b => if b.isTerraform then [b] else []
  | .attribute _ => []

def Body.terraforms (b : Body) : List Block := b.structures.flatMap Structure.terraforms

theorem Block.isTerraform_of_ne {b : Block} (h : b.ident ≠ "terraform") : b.isTerraform = false := by
  simp [isTerraform, h]

theorem Structure.terraforms_of_ne {b : Block} (h : b.ident ≠ "terraform") : (Structure.block b).terraforms = [] := by
  simp [terraforms, Block.isTerraform_of_ne h]

theorem Structure.terraforms_of_isTerraform {b : Block} (h : b.isTerraform = true) :
    (Structure.block b).terraforms = [b] := by
  simp [terraforms, h]

theorem Body.terraforms_set {b d : Body} {i : Nat} {x y : Structure} (hx : b.structures[i]? = some x)
    (hnone : x.terraforms = []) (hy : y.terraforms = []) (hd : d.structures = b.structures.set i y) :
    d.terraforms = b.terraforms := by
  obtain ⟨hall, hset, -⟩ := flatMap_around Structure.terraforms hx
  rw [terraforms, terraforms, hd, hset, hall, hnone, hy]

theorem Body.terraforms_eraseIdx {b d : Body} {i : Nat} {x : Structure} (hx : b.structures[i]? = some x)
    (hnone : x.terraforms = []) (hd : d.structures = b.structures.eraseIdx i) : d.terraforms = b.terraforms := by
  obtain ⟨hall, -, herase⟩ := flatMap_around Structure.terraforms hx
  rw [terraforms, terraforms, hd, herase, hall, hnone, List.append_nil]

/-- A block gets a lead of its own behind others. -/
theorem Body.terraforms_pushRoot (b : Body) (e : Block) :
    ∃ e' : Block, e'.isTerraform = e.isTerraform ∧
      (b.pushRoot (.block e)).terraforms = b.terraforms ++ (Structure.block e').terraforms := by
  refine ⟨{ e with lead := if b.structures.isEmpty then dropMargin e.lead else "\n" ++ dropMargin e.lead }, rfl, ?_⟩
  rw [pushRoot, Structure.withLead, push, terraforms, List.flatMap_append, List.flatMap_singleton]
  rfl

end Source

/-- The number of `terraform` blocks in front of a place. -/
def rankAt (b : Body) (i : Nat) : Nat := ((b.structures.take i).flatMap Structure.terraforms).length

namespace Snapshot

variable {s : Snapshot} {b : Body} {i : Nat}

/-- The locator of a block that is not a `terraform` block does not stop at one. -/
theorem exists_of_index? (hkind : s.kind ≠ .terraform) (h : s.index? b = some i) :
    ∃ e, b.structures[i]? = some (.block e) ∧ e.ident ≠ "terraform" := by
  by_cases hlocal : s.kind = .local
  · obtain ⟨e, he, hident, -⟩ := isLocals_of_index? hlocal h
    exact ⟨e, he, by simp [hident]⟩
  · obtain ⟨e, he, hident, -⟩ := index?_block_eq_some hlocal h
    refine ⟨e, he, ?_⟩
    rw [hident]
    cases hk : s.kind <;> simp_all [BlockKind.name]

theorem terraforms_of_isBlock (hkind : s.kind = .terraform) (hlabels : s.labels = []) (x : Structure) :
    if s.isBlock x then ∃ e : Block, x = .block e ∧ e.isTerraform = true else x.terraforms = [] := by
  rcases x with a | e
  · simp [isBlock, Structure.terraforms]
  · have hsame : s.isBlock (.block e) = e.isTerraform := by
      simp [isBlock, Block.isTerraform, hkind, hlabels, BlockKind.name, Block.labelTexts]
    rw [hsame]
    split
    · exact ⟨e, rfl, ‹_›⟩
    · simp [Structure.terraforms, ‹¬ e.isTerraform = true›]

/-- The locator of a `terraform` block stops at the first one of all. -/
theorem index?_terraform (hkind : s.kind = .terraform) (hlabels : s.labels = []) (h : s.index? b = some i) :
    ∃ e, b.structures[i]? = some (.block e) ∧ e.isTerraform = true ∧
      (b.structures.take i).flatMap Structure.terraforms = [] := by
  have hlocal : s.kind ≠ .local := by simp [hkind]
  rw [index?, if_neg hlocal] at h
  obtain ⟨hlt, ht, hbefore⟩ := List.findIdx?_eq_some_iff_getElem.mp h
  have hfound := terraforms_of_isBlock hkind hlabels b.structures[i]
  rw [if_pos ht] at hfound
  obtain ⟨e, he, hterraform⟩ := hfound
  refine ⟨e, by rw [List.getElem?_eq_getElem hlt, he], hterraform, List.flatMap_eq_nil_iff.mpr fun y hy => ?_⟩
  obtain ⟨j, hj, rfl⟩ := List.getElem_of_mem hy
  rw [List.length_take] at hj
  have hother := terraforms_of_isBlock hkind hlabels b.structures[j]
  rw [if_neg (hbefore j (by omega))] at hother
  rw [List.getElem_take, hother]

/-- If there is a `terraform` block, the locator finds one. -/
theorem exists_index?_terraform (hkind : s.kind = .terraform) (hlabels : s.labels = []) (h : b.terraforms ≠ []) :
    ∃ i, s.index? b = some i := by
  have hlocal : s.kind ≠ .local := by simp [hkind]
  rw [index?, if_neg hlocal, ← Option.isSome_iff_exists, List.findIdx?_isSome, List.any_eq_true]
  by_contra hnone
  refine h (List.flatMap_eq_nil_iff.mpr fun x hx => ?_)
  have hother := terraforms_of_isBlock hkind hlabels x
  rwa [if_neg fun hblock => hnone ⟨x, hx, hblock⟩] at hother

end Snapshot

theorem BlockKind.address_terraform : BlockKind.terraform.address [] = "terraform" := by
  simp [address, name]

/-- Entries under the addresses of their blocks, each once. A `terraform` block has no labels. -/
structure Entered (registry : List (String × Snapshot)) : Prop where
  keys : ∀ e ∈ registry, e.1 = e.2.address
  distinct : (registry.map Prod.fst).Nodup
  bare : ∀ e ∈ registry, e.2.kind = .terraform → e.2.labels = []

namespace Entered

variable {registry : List (String × Snapshot)}

/-- Only a `terraform` block has the address of one. -/
theorem kind_iff (h : Entered registry) {e : String × Snapshot} (he : e ∈ registry) :
    e.1 = "terraform" ↔ e.2.kind = .terraform := by
  rw [h.keys e he, Snapshot.address]
  constructor
  · intro haddress
    exact BlockKind.kind_eq_of_address (haddress.trans BlockKind.address_terraform.symm)
  · intro hkind
    rw [hkind, h.bare e he hkind, BlockKind.address_terraform]

theorem insert (h : Entered registry) {key : String} {s : Snapshot} (hkey : key = s.address)
    (hbare : s.kind = .terraform → s.labels = []) : Entered (insertEntry key s registry) where
  keys := by
    intro e he
    rcases mem_insertEntry he with rfl | he
    · exact hkey
    · exact h.keys e he
  distinct := nodup_keys_insertEntry h.distinct key s
  bare := by
    intro e he
    rcases mem_insertEntry he with rfl | he
    · exact hbare
    · exact h.bare e he

/-- A snapshot of the same kind and labels has the same address. -/
theorem replace (h : Entered registry) {key : String} {s s' : Snapshot} (hmem : (key, s) ∈ registry)
    (hkind : s'.kind = s.kind) (hlabels : s'.labels = s.labels) : Entered (insertEntry key s' registry) := by
  refine h.insert ?_ ?_
  · rw [Snapshot.address, hkind, hlabels]
    exact h.keys _ hmem
  · rw [hkind, hlabels]
    exact h.bare _ hmem

theorem erase (h : Entered registry) (key : String) : Entered (eraseEntry key registry) where
  keys := fun e he => h.keys e ((eraseEntry_sublist key registry).subset he)
  distinct := ((eraseEntry_sublist key registry).map _).nodup h.distinct
  bare := fun e he => h.bare e ((eraseEntry_sublist key registry).subset he)

end Entered

namespace Module

variable {m m' : Module}

/-- The `terraform` blocks of a file, which is read if it has not been loaded. -/
def terraforms (m : Module) (name : String) : List Block := (m.fileOrDisk name).body.terraforms

/-- The file of the registered `terraform` block. -/
def terraformFile? (m : Module) : Option String := (m.block? "terraform").map (·.fileName)

/-- The `terraform` blocks of a file that are not registered, if the registered one is the first of its file. -/
def strays (m : Module) (name : String) : List Block :=
  if m.terraformFile? = some name then (m.terraforms name).tail else m.terraforms name

theorem strays_of_none (h : m.terraformFile? = none) (name : String) : m.strays name = m.terraforms name := by
  rw [strays, h, if_neg nofun]

/-- The registered `terraform` block is in a file that was loaded. -/
structure Tracked (m : Module) : Prop where
  entered : Entered m.registry
  present : ∀ name, m.terraformFile? = some name → (m.file? name).isSome = true ∧ m.terraforms name ≠ []

theorem terraforms_of_file? {name : String} {file : SourceFile} (h : m.file? name = some file) :
    m.terraforms name = file.body.terraforms := by
  simp [terraforms, fileOrDisk, h]

theorem terraforms_setFile (m : Module) (name : String) (file : SourceFile) (other : String) :
    (m.setFile name file).terraforms other = if other = name then file.body.terraforms else m.terraforms other := by
  split
  · subst other
    exact terraforms_of_file? (file?_setFile_self ..)
  · have hfile : (m.setFile name file).file? other = m.file? other :=
      lookup_insertEntry_of_ne ‹_› file m.files
    unfold terraforms fileOrDisk
    rw [hfile]
    rfl

theorem terraforms_setFile_same {name : String} {file file' : SourceFile} (h : m.file? name = some file)
    (hsame : file'.body.terraforms = file.body.terraforms) (other : String) :
    (m.setFile name file').terraforms other = m.terraforms other := by
  rw [terraforms_setFile]
  split
  · rw [hsame, ‹other = name›, terraforms_of_file? h]
  · rfl

theorem terraforms_appendStructure (m : Module) (name : String) (b : Block) :
    ∃ b' : Block, b'.isTerraform = b.isTerraform ∧ ∀ other,
      (m.appendStructure name (.block b)).terraforms other =
        if other = name then m.terraforms name ++ (Structure.block b').terraforms else m.terraforms other := by
  obtain ⟨b', hsame, hpush⟩ := Body.terraforms_pushRoot (m.fileOrDisk name).body b
  refine ⟨b', hsame, fun other => ?_⟩
  rw [appendStructure, terraforms_setFile]
  dsimp only
  rw [hpush]
  rfl

theorem isSome_file?_setFile {name : String} (h : (m.file? name).isSome = true) (other : String) (file : SourceFile) :
    ((m.setFile other file).file? name).isSome = true := by
  by_cases hname : name = other
  · subst hname
    rw [file?_setFile_self]
    rfl
  · have hfile : (m.setFile other file).file? name = m.file? name := lookup_insertEntry_of_ne hname file m.files
    rwa [hfile]

theorem terraformFile?_setBlock_of_ne {address : String} (h : address ≠ "terraform") (s : Snapshot) :
    (m.setBlock address s).terraformFile? = m.terraformFile? := by
  have hblock : (m.setBlock address s).block? "terraform" = m.block? "terraform" :=
    lookup_insertEntry_of_ne (Ne.symm h) s m.registry
  rw [terraformFile?, terraformFile?, hblock]

theorem terraformFile?_setBlock_self (m : Module) (s : Snapshot) :
    (m.setBlock "terraform" s).terraformFile? = some s.fileName := by
  simp [terraformFile?]

/-- What is found under another address is not a `terraform` block. -/
theorem Site.other {address : String} {s : Snapshot} {file : SourceFile} {i : Nat} (hsite : Site m address s file i)
    (h : m.Tracked) (haddress : address ≠ "terraform") :
    ∃ e, file.body.structures[i]? = some (.block e) ∧ e.ident ≠ "terraform" :=
  Snapshot.exists_of_index? (mt (h.entered.kind_iff (mem_registry hsite.found)).mpr haddress) hsite.placed

/-- The registered `terraform` block is the first one of its file. -/
theorem Site.terraform {s : Snapshot} {file : SourceFile} {i : Nat} (hsite : Site m "terraform" s file i)
    (h : m.Tracked) :
    s.kind = .terraform ∧ m.terraformFile? = some s.fileName ∧ ∃ (e : Block) (rest : List Block),
      file.body.structures[i]? = some (.block e) ∧ e.isTerraform = true ∧ m.terraforms s.fileName = e :: rest ∧
      (∀ (d : Body) (y : Structure), d.structures = file.body.structures.set i y →
        d.terraforms = y.terraforms ++ rest) ∧
      ∀ d : Body, d.structures = file.body.structures.eraseIdx i → d.terraforms = rest := by
  have hmem := mem_registry hsite.found
  have hkind := (h.entered.kind_iff hmem).mp rfl
  obtain ⟨e, he, hterraform, hfirst⟩ := Snapshot.index?_terraform hkind (h.entered.bare _ hmem hkind) hsite.placed
  obtain ⟨hall, hset, herase⟩ := flatMap_around Structure.terraforms he
  rw [hfirst, List.nil_append] at hall herase
  refine ⟨hkind, by simp [terraformFile?, hsite.found], e,
    (file.body.structures.drop (i + 1)).flatMap Structure.terraforms, he, hterraform, ?_, fun d y hd => ?_,
    fun d hd => ?_⟩
  · rw [terraforms_of_file? hsite.stored, Body.terraforms, hall, Structure.terraforms_of_isTerraform hterraform]
    rfl
  · rw [Body.terraforms, hd, hset, hfirst, List.nil_append]
  · rw [Body.terraforms, hd, herase]

/-- The registered `terraform` block stays where it is, and the others are as before. -/
structure Steady (m m' : Module) : Prop where
  tracked : m'.Tracked
  file : m'.terraformFile? = m.terraformFile?
  strays : ∀ name, m'.strays name = m.strays name

/-- The registered `terraform` block is gone, and the others are as before. -/
structure Loses (m m' : Module) : Prop where
  tracked : m'.Tracked
  file : m'.terraformFile? = none
  strays : ∀ name, m'.strays name = m.strays name

/-- The registered `terraform` block comes to the end of a file that it was not in. -/
structure Enters (m m' : Module) (name : String) : Prop where
  tracked : m'.Tracked
  file : m'.terraformFile? = some name
  outside : m.terraformFile? ≠ some name
  appended : ∃ b, m'.terraforms name = m.terraforms name ++ [b]
  strays : ∀ other, other ≠ name → m'.strays other = m.strays other

theorem Steady.trans {m'' : Module} (h : Steady m m') (h' : Steady m' m'') : Steady m m'' :=
  ⟨h'.tracked, h'.file.trans h.file, fun name => (h'.strays name).trans (h.strays name)⟩

namespace Tracked

theorem steady_self (h : m.Tracked) : Steady m m := ⟨h, rfl, fun _ => rfl⟩

/-- A change that leaves the `terraform` blocks of all files and the registered one alone. -/
theorem steady (h : m.Tracked) (hentered : Entered m'.registry) (hfile : m'.terraformFile? = m.terraformFile?)
    (hloaded : ∀ name, (m.file? name).isSome = true → (m'.file? name).isSome = true)
    (hsame : ∀ name, m'.terraforms name = m.terraforms name) : Steady m m' where
  tracked := by
    refine ⟨hentered, fun name hname => ?_⟩
    obtain ⟨hsome, hne⟩ := h.present name (hfile ▸ hname)
    exact ⟨hloaded name hsome, hsame name ▸ hne⟩
  file := hfile
  strays := fun name => by rw [Module.strays, Module.strays, hfile, hsame]

/-- The registered block reads anew. -/
theorem steady_of_head (h : m.Tracked) {s : Snapshot} {file file' : SourceFile} {i : Nat}
    (hsite : Site m "terraform" s file i) {e : Block} (he : e.isTerraform = true)
    (hstructures : file'.body.structures = file.body.structures.set i (.block e)) {s' : Snapshot}
    (hs' : s'.fileName = s.fileName ∧ s'.kind = s.kind ∧ s'.labels = s.labels) :
    Steady m ((m.setFile s.fileName file').setBlock "terraform" s') := by
  obtain ⟨hkind, hhome, old, rest, -, -, hall, hset, -⟩ := hsite.terraform h
  have hmem := mem_registry hsite.found
  obtain ⟨hname, hkind', hlabels⟩ := hs'
  have hnew := hset file'.body (.block e) hstructures
  rw [Structure.terraforms_of_isTerraform he] at hnew
  have hfile : ((m.setFile s.fileName file').setBlock "terraform" s').terraformFile? = some s.fileName :=
    (terraformFile?_setBlock_self ..).trans (congrArg some hname)
  have hterraforms : ∀ name, ((m.setFile s.fileName file').setBlock "terraform" s').terraforms name =
      if name = s.fileName then e :: rest else m.terraforms name := by
    intro name
    exact (terraforms_setFile m s.fileName file' name).trans (by rw [hnew]; rfl)
  refine ⟨⟨h.entered.replace hmem hkind' hlabels, fun name hname => ?_⟩, hfile.trans hhome.symm, fun name => ?_⟩
  · obtain rfl : s.fileName = name := Option.some.inj (hfile.symm.trans hname)
    rw [hterraforms, if_pos rfl]
    exact ⟨isSome_file?_setFile (h.present _ hhome).1 .., nofun⟩
  · rw [Module.strays, Module.strays, hfile, hhome, hterraforms]
    by_cases hn : name = s.fileName
    · subst hn
      rw [if_pos rfl, if_pos rfl, if_pos rfl, hall]
      rfl
    · rw [if_neg hn]

/-- A block that has an address reads anew under its header. -/
theorem steady_site (h : m.Tracked) {address : String} {s : Snapshot} {file file' : SourceFile} {i : Nat}
    (hsite : Site m address s file i) {e e' : Block} (he : file.body.structures[i]? = some (.block e))
    (hident : e'.ident = e.ident) (hlabels : e'.labels = e.labels)
    (hstructures : file'.body.structures = file.body.structures.set i (.block e')) {s' : Snapshot}
    (hs' : s'.fileName = s.fileName ∧ s'.kind = s.kind ∧ s'.labels = s.labels) :
    Steady m ((m.setFile s.fileName file').setBlock address s') := by
  by_cases haddress : address = "terraform"
  · subst haddress
    obtain ⟨-, -, old, rest, hold, hterraform, -⟩ := hsite.terraform h
    obtain rfl : old = e := by simpa [hold] using he
    refine h.steady_of_head hsite ?_ hstructures hs'
    rwa [Block.isTerraform, hident, hlabels]
  · obtain ⟨old, hold, hother⟩ := hsite.other h haddress
    obtain rfl : old = e := by simpa [hold] using he
    have hmem := mem_registry hsite.found
    have hsame : file'.body.terraforms = file.body.terraforms :=
      Body.terraforms_set hold (Structure.terraforms_of_ne hother)
        (Structure.terraforms_of_ne (by rwa [hident])) hstructures
    obtain ⟨-, hkind, htexts⟩ := hs'
    exact h.steady (h.entered.replace hmem hkind htexts) (terraformFile?_setBlock_of_ne haddress s')
      (fun name hname => isSome_file?_setFile hname ..) (terraforms_setFile_same hsite.stored hsame)

theorem updateBlock (h : m.Tracked) {address : String} {f : Block → Block}
    (hf : ∀ b, (f b).ident = b.ident ∧ (f b).labels = b.labels) (hok : m.updateBlock address f = .ok m') :
    Steady m m' := by
  obtain ⟨s, file, i, old, hsite, -, hold, rfl⟩ := updateBlock_eq_ok hok
  obtain ⟨changed, s', heq, hs'⟩ := rewritten_eq_setBlock hsite old (f old)
  rw [heq]
  exact h.steady_site hsite hold (hf old).1 (hf old).2 rfl hs'

theorem updateLocal (h : m.Tracked) {address : String} {f : Attribute → Attribute}
    (hok : m.updateLocal address f = .ok m') : Steady m m' := by
  obtain ⟨s, file, i, name, e, j, old, hsite, -, -, he, -, -, rfl⟩ := updateLocal_eq_ok hok
  obtain ⟨file', e', s', heq, hident, hlabels, hstructures, hs'⟩ := revalued_eq_setBlock hsite e j old (f old)
  rw [heq]
  exact h.steady_site hsite he hident hlabels hstructures hs'

/-- What is no `terraform` block is appended and registered. -/
theorem steady_append (h : m.Tracked) (fileName : String) {b : Block} (hb : b.ident ≠ "terraform") {address : String}
    {s : Snapshot} (haddress : address = s.address) (hkind : s.kind ≠ .terraform) :
    Steady m ((m.appendStructure fileName (.block b)).setBlock address s) := by
  have hentered : Entered ((m.appendStructure fileName (.block b)).setBlock address s).registry :=
    h.entered.insert haddress fun hterraform => absurd hterraform hkind
  have hne : address ≠ "terraform" := by
    have hiff := hentered.kind_iff (mem_registry (block?_setBlock_self _ address s))
    exact fun heq => hkind (hiff.mp heq)
  refine h.steady hentered (terraformFile?_setBlock_of_ne hne s) (fun name hname => isSome_file?_setFile hname ..)
    fun name => ?_
  obtain ⟨b', hsame, happended⟩ := terraforms_appendStructure m fileName b
  have hnone : (Structure.block b').terraforms = [] := by
    simp [Structure.terraforms, hsame, Block.isTerraform_of_ne hb]
  refine (happended name).trans ?_
  split
  · rw [hnone, List.append_nil, ‹name = fileName›]
  · rfl

theorem addBlock (h : m.Tracked) {kind : BlockKind} {b : Block} {fileName address : String}
    (hident : b.ident = kind.name) (hkind : kind ≠ .terraform) (hok : m.addBlock kind b fileName = .ok (m', address)) :
    Steady m m' := by
  obtain ⟨haddress, -, rfl⟩ := addBlock_eq_ok hok
  refine h.steady_append fileName ?_ haddress hkind
  rw [hident]
  cases kind <;> simp_all [BlockKind.name]

theorem addLocal (h : m.Tracked) {a : Attribute} {fileName address : String}
    (hok : m.addLocal a fileName = .ok (m', address)) : Steady m m' := by
  obtain ⟨haddress, -, rfl⟩ := addLocal_eq_ok hok
  exact h.steady_append fileName (by simp) haddress (by simp [Snapshot.ofNewLocal])

theorem removeBlock (h : m.Tracked) {address : String} {removed : Snapshot} (haddress : address ≠ "terraform")
    (hok : m.removeBlock address = .ok (m', removed)) : Steady m m' := by
  obtain ⟨file, i, hsite, rfl⟩ := removeBlock_eq_ok hok
  obtain ⟨e, he, hother⟩ := hsite.other h haddress
  have hnone : (Structure.block e).terraforms = [] := Structure.terraforms_of_ne hother
  have hfile : (eraseEntry address m.registry).lookup "terraform" = m.registry.lookup "terraform" :=
    lookup_eraseEntry_of_ne (Ne.symm haddress) m.registry
  refine h.steady (h.entered.erase address) (congrArg (Option.map _) hfile)
    (fun name hname => isSome_file?_setFile hname ..) (terraforms_setFile_same hsite.stored ?_)
  rcases withoutBlock_cases removed file.body.structures i with hgone | ⟨b, body, hb, hkept⟩
  · exact Body.terraforms_eraseIdx he hnone hgone
  · obtain rfl : e = b := by simpa [he] using hb
    have hstays : (Structure.block { e with body }).terraforms = [] := Structure.terraforms_of_ne hother
    exact Body.terraforms_set he hnone hstays hkept

theorem moveBlock (h : m.Tracked) {address fileName : String} {moved : Bool} (haddress : address ≠ "terraform")
    (hok : m.moveBlock address fileName = .ok (m', moved)) : Steady m m' := by
  rcases moveBlock_eq_ok hok with ⟨rfl, -⟩ | ⟨s, file, i, x, hsite, -, -, hx, rfl⟩
  · exact h.steady_self
  · obtain ⟨e, he, hother⟩ := hsite.other h haddress
    obtain rfl : x = .block e := Option.some.inj (hx.symm.trans he)
    have hmem := mem_registry hsite.found
    let file' : SourceFile :=
      { file with body := { file.body with structures := file.body.structures.eraseIdx i }, changed := true }
    have hsame : file'.body.terraforms = file.body.terraforms :=
      Body.terraforms_eraseIdx he (Structure.terraforms_of_ne hother) rfl
    have hout : Steady m (m.setFile s.fileName file') :=
      h.steady h.entered rfl (fun name hname => isSome_file?_setFile hname ..)
        (terraforms_setFile_same hsite.stored hsame)
    exact hout.trans (hout.tracked.steady_append fileName hother (h.entered.keys _ hmem)
      (mt (h.entered.kind_iff hmem).mpr haddress))

/-- Without its first block the file of the registered `terraform` block has the others left. -/
theorem strays_eraseIdx (h : m.Tracked) {s : Snapshot} {file file' : SourceFile} {i : Nat}
    (hsite : Site m "terraform" s file i)
    (hstructures : file'.body.structures = file.body.structures.eraseIdx i) (name : String) :
    (m.setFile s.fileName file').terraforms name = m.strays name := by
  obtain ⟨-, hfile, e, rest, -, -, hall, -, herase⟩ := hsite.terraform h
  rw [terraforms_setFile, Module.strays, hfile, herase _ hstructures]
  by_cases hname : name = s.fileName
  · subst hname
    rw [if_pos rfl, if_pos rfl, hall]
    rfl
  · rw [if_neg hname, if_neg fun heq => hname (Option.some.inj heq).symm]

theorem removeTerraform (h : m.Tracked) {removed : Snapshot} (hok : m.removeBlock "terraform" = .ok (m', removed)) :
    Loses m m' := by
  obtain ⟨file, i, hsite, heq⟩ := removeBlock_eq_ok hok
  obtain ⟨hkind, -⟩ := hsite.terraform h
  let file' : SourceFile :=
    { file with body := { file.body with structures := withoutBlock removed file.body.structures i }, changed := true }
  have herased : file'.body.structures = file.body.structures.eraseIdx i := by simp [file', withoutBlock, hkind]
  have hregistry : m'.registry = eraseEntry "terraform" m.registry := by rw [heq]
  have hfile : m'.terraformFile? = none := by
    rw [terraformFile?, block?, hregistry, lookup_eraseEntry_self h.entered.distinct]
    rfl
  refine ⟨⟨hregistry ▸ h.entered.erase _, fun name hname => ?_⟩, hfile, fun name => ?_⟩
  · rw [hfile] at hname
    cases hname
  · rw [strays_of_none hfile, ← h.strays_eraseIdx hsite herased, heq]
    rfl

/-- A `terraform` block is appended and registered, after the registered one was taken out of its file. -/
theorem enters_append (h : m.Tracked) {taken : Module} (hleft : ∀ name, taken.terraforms name = m.strays name)
    (hregistry : taken.registry = m.registry) {fileName : String}
    (houtside : m.terraformFile? ≠ some fileName) {b : Block} (hb : b.isTerraform = true) {s : Snapshot}
    (hname : s.fileName = fileName) (hkind : s.kind = .terraform) (hlabels : s.labels = []) :
    Enters m ((taken.appendStructure fileName (.block b)).setBlock "terraform" s) fileName := by
  obtain ⟨b', hsame, happended⟩ := terraforms_appendStructure taken fileName b
  have hblock : (Structure.block b').terraforms = [b'] :=
    Structure.terraforms_of_isTerraform (hsame.trans hb)
  have hfile : ((taken.appendStructure fileName (.block b)).setBlock "terraform" s).terraformFile? = some fileName :=
    (terraformFile?_setBlock_self ..).trans (congrArg some hname)
  have hthere : ((taken.appendStructure fileName (.block b)).setBlock "terraform" s).terraforms fileName =
      m.terraforms fileName ++ [b'] := by
    refine (happended fileName).trans ?_
    rw [if_pos rfl, hblock, hleft, Module.strays, if_neg houtside]
  refine ⟨⟨?_, fun name hfound => ?_⟩, hfile, houtside, ⟨b', hthere⟩, fun name hne => ?_⟩
  · have hentered : Entered taken.registry := hregistry ▸ h.entered
    refine hentered.insert ?_ fun _ => hlabels
    rw [Snapshot.address, hkind, hlabels, BlockKind.address_terraform]
  · obtain rfl : fileName = name := Option.some.inj (hfile.symm.trans hfound)
    rw [hthere]
    refine ⟨?_, by simp⟩
    exact Option.isSome_of_eq_some (file?_setFile_self ..)
  · rw [Module.strays, hfile, if_neg fun heq => hne (Option.some.inj heq).symm, ← hleft]
    exact (happended name).trans (if_neg hne)

theorem moveTerraform (h : m.Tracked) {fileName : String} {moved : Bool} (houtside : m.terraformFile? ≠ some fileName)
    (hok : m.moveBlock "terraform" fileName = .ok (m', moved)) : Enters m m' fileName := by
  rcases moveBlock_eq_ok hok with ⟨-, hinside⟩ | ⟨s, file, i, x, hsite, -, -, hx, rfl⟩
  · exact absurd hinside houtside
  · obtain ⟨hkind, -, e, -, he, hterraform, -⟩ := hsite.terraform h
    obtain rfl : x = .block e := Option.some.inj (hx.symm.trans he)
    let file' : SourceFile :=
      { file with body := { file.body with structures := file.body.structures.eraseIdx i }, changed := true }
    have hbare : s.labels = [] := h.entered.bare _ (mem_registry hsite.found) hkind
    have hleft : ∀ name, (m.setFile s.fileName file').terraforms name = m.strays name :=
      h.strays_eraseIdx hsite rfl
    exact h.enters_append hleft rfl houtside hterraform rfl hkind hbare

theorem moveTerraform_self (h : m.Tracked) {fileName : String} {moved : Bool}
    (hinside : m.terraformFile? = some fileName) (hok : m.moveBlock "terraform" fileName = .ok (m', moved)) :
    Steady m m' := by
  rcases moveBlock_eq_ok hok with ⟨rfl, -⟩ | ⟨s, file, i, x, hsite, -, hne, -, -⟩
  · exact h.steady_self
  · obtain ⟨-, hfile, -⟩ := hsite.terraform h
    exact absurd (Option.some.inj (hfile.symm.trans hinside)) hne

theorem addTerraform (h : m.Tracked) {b : Block} {fileName address : String} (hident : b.ident = "terraform")
    (hlabels : b.labels = []) (hok : m.addBlock .terraform b fileName = .ok (m', address)) :
    Enters m m' fileName := by
  obtain ⟨haddress, hfree, rfl⟩ := addBlock_eq_ok hok
  have htexts : b.labelTexts = [] := by simp [Block.labelTexts, hlabels]
  rw [htexts, BlockKind.address_terraform] at haddress
  subst haddress
  have hnone : m.terraformFile? = none := by
    rw [contains, Option.isSome_eq_false_iff, Option.isNone_iff_eq_none] at hfree
    rw [terraformFile?, hfree]
    rfl
  have hleft : ∀ name, m.terraforms name = m.strays name := fun name => (strays_of_none hnone name).symm
  exact h.enters_append hleft rfl (by simp [hnone]) (by simp [Block.isTerraform, hident, hlabels]) rfl rfl htexts

theorem steady_ofResult (h : m.Tracked) {r : Except ModuleError Module} (hr : ∀ m', r = .ok m' → Steady m m') :
    Steady m (Applied.ofResult m r).module := by
  cases r with
  | error e => exact h.steady_self
  | ok m' => exact hr m' rfl

theorem steady_ofResult_map (h : m.Tracked) {α : Type} {r : Except ModuleError (Module × α)}
    (hr : ∀ m' x, r = .ok (m', x) → Steady m m') : Steady m (Applied.ofResult m (r.map (·.1))).module := by
  refine h.steady_ofResult fun m' hok => ?_
  obtain ⟨⟨m'', x⟩, hr', rfl⟩ := map_eq_ok hok
  exact hr _ x hr'

/-- A walk over a list of changes that each leave the `terraform` blocks alone. -/
theorem steady_forAll (h : m.Tracked) {α : Type} {f : α → Module → Applied}
    (hf : ∀ item m, m.Tracked → Steady m (f item m).module) (items : List α) :
    Steady m (Applied.forAll m items f).module :=
  Applied.forAll_keeps (p := fun m' => Steady m m') (fun item m' hm' => hm'.trans (hf item m' hm'.tracked)) items
    h.steady_self

end Tracked

end Module

end Terrasmith
