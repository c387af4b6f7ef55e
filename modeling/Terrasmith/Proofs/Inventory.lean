import Terrasmith.Proofs.Placement

/-!
The registry as an inventory. In a module that is made from files, each header stands in a file as often as it is
registered for the file, and stays so through all transforms that append only to files that were loaded or are new.
Blocks of the kind `terraform` are left out, since of them only the first is registered.
-/
namespace Terrasmith

open Source

/-- A header under which all blocks are registered. -/
def Listable (header : String × List String) : Prop :=
  ∃ kind : BlockKind, kind ≠ .local ∧ kind ≠ .terraform ∧ header.1 = kind.name ∧ header.2.length = kind.labelCount

namespace Listable

variable {header : String × List String}

theorem fst_ne_locals (h : Listable header) : header.1 ≠ "locals" := by
  obtain ⟨kind, -, -, hname, -⟩ := h
  exact hname ▸ kind.name_ne_locals

/-- Entries of other kinds have other headers. -/
theorem kind_ne (h : Listable header) {s : Snapshot} (hs : s.kind = .local ∨ s.kind = .terraform) :
    s.header ≠ header := by
  obtain ⟨kind, hlocal, hterraform, hname, -⟩ := h
  rintro rfl
  have hkind : s.kind = kind := BlockKind.name_injective hname
  rw [hkind] at hs
  exact hs.elim hlocal hterraform

end Listable

/-- Whether a snapshot is one of a file and a header, as a number. -/
def Snapshot.weight (s : Snapshot) (name : String) (header : String × List String) : Nat :=
  if s.fileName = name ∧ s.header = header then 1 else 0

theorem Snapshot.weight_eq_of_tag {s t : Snapshot} (h : s.tag = t.tag) : s.weight = t.weight := by
  obtain ⟨hname, hkind, hlabels⟩ := tag_eq_iff.mp h
  funext name header
  rw [weight, weight, Snapshot.header, Snapshot.header, hname, hkind, hlabels]

theorem Snapshot.weight_eq_zero {s : Snapshot} {name : String} {header : String × List String} (h : s.header ≠ header) :
    s.weight name header = 0 :=
  if_neg fun hboth => h hboth.2

/-- How many of the snapshots are of a file and a header. -/
def snapshotCount (snapshots : List Snapshot) (name : String) (header : String × List String) : Nat :=
  snapshots.countP fun s => s.fileName = name ∧ s.header = header

section SnapshotCount

variable {name : String} {header : String × List String}

@[simp]
theorem snapshotCount_nil : snapshotCount [] name header = 0 :=
  rfl

@[simp]
theorem snapshotCount_cons (s : Snapshot) (rest : List Snapshot) :
    snapshotCount (s :: rest) name header = s.weight name header + snapshotCount rest name header := by
  simp [snapshotCount, Snapshot.weight, List.countP_cons, Nat.add_comm]

@[simp]
theorem snapshotCount_append (first second : List Snapshot) : snapshotCount (first ++ second) name header =
    snapshotCount first name header + snapshotCount second name header :=
  List.countP_append

theorem snapshotCount_eq_zero {snapshots : List Snapshot} (h : ∀ s ∈ snapshots, s.header ≠ header) :
    snapshotCount snapshots name header = 0 :=
  List.countP_eq_zero.mpr fun s hs => by simp [h s hs]

theorem snapshotCount_congr {first second : List Snapshot} (h : first.map Snapshot.tag = second.map Snapshot.tag) :
    snapshotCount first name header = snapshotCount second name header := by
  have htags : ∀ snapshots : List Snapshot, snapshotCount snapshots name header =
      (snapshots.map Snapshot.tag).countP fun t => t.1 = name ∧ (t.2.1.name, t.2.2) = header := fun snapshots => by
    rw [List.countP_map]
    rfl
  rw [htags, htags, h]

end SnapshotCount

namespace Source

/-- A block has one header. -/
theorem Structure.count_headers_block (b : Block) (header : String × List String) :
    (Structure.block b).headers.count header = if (b.ident, b.labelTexts) = header then 1 else 0 := by
  rw [headers, List.count_singleton]
  simp only [beq_iff_eq]

theorem Body.count_headers_eraseIdx {b d : Body} {i : Nat} {x : Structure} (hx : b.structures[i]? = some x)
    (hd : d.structures = b.structures.eraseIdx i) (header : String × List String) :
    d.headers.count header + x.headers.count header = b.headers.count header := by
  obtain ⟨hall, -, herase⟩ := flatMap_around Structure.headers hx
  rw [headers, headers, hd, hall, herase]
  simp only [List.count_append]
  omega

theorem Body.count_headers_withoutBlock {b d : Body} {s : Snapshot} {i : Nat} (hi : s.index? b = some i)
    (hd : d.structures = Module.withoutBlock s b.structures i) {header : String × List String} (h : Listable header) :
    d.headers.count header + (if s.header = header then 1 else 0) = b.headers.count header := by
  by_cases hkind : s.kind = .local
  · -- The header of a `locals` block is not counted, whether the block goes or stays.
    obtain ⟨e, he, hident, -⟩ := Snapshot.isLocals_of_index? hkind hi
    have hne : (e.ident, e.labelTexts) ≠ header := fun heq => h.fst_ne_locals (heq ▸ hident)
    rw [if_neg (h.kind_ne (.inl hkind)), Nat.add_zero]
    rcases Module.withoutBlock_cases s b.structures i with hgone | ⟨e', body, he', hkept⟩
    · have hcount := count_headers_eraseIdx he (hd.trans hgone) header
      rwa [Structure.count_headers_block, if_neg hne, Nat.add_zero] at hcount
    · rw [headers_set (y := .block { e' with body }) he' rfl (hd.trans hkept)]
  · obtain ⟨e, he, hident, hlabels⟩ := Snapshot.index?_block_eq_some hkind hi
    have hcount := count_headers_eraseIdx he (hd.trans (Module.withoutBlock_of_kind hkind ..)) header
    rwa [Structure.count_headers_block, hident, hlabels] at hcount

end Source

namespace Module

variable {m m' : Module} {name : String} {header : String × List String}

/-- How often a header stands in a file. -/
def headerCount (m : Module) (name : String) (header : String × List String) : Nat :=
  ((m.file? name).map fun file => file.body.headers.count header).getD 0

/-- How often a header is registered for a file. -/
def entryCount (m : Module) (name : String) (header : String × List String) : Nat :=
  snapshotCount (m.registry.map Prod.snd) name header

/-- What is in the files is what is registered. -/
def Listed (m : Module) : Prop := ∀ name header, Listable header → m.headerCount name header = m.entryCount name header

theorem headerCount_of_file? {file : SourceFile} (h : m.file? name = some file) (header : String × List String) :
    m.headerCount name header = file.body.headers.count header := by
  rw [headerCount, h]
  rfl

theorem headerCount_setFile (m : Module) (name : String) (file : SourceFile) (other : String)
    (header : String × List String) : (m.setFile name file).headerCount other header =
      if other = name then file.body.headers.count header else m.headerCount other header := by
  split
  · subst other
    exact headerCount_of_file? (file?_setFile_self ..) header
  · rw [headerCount, headerCount, file?, setFile, lookup_insertEntry_of_ne ‹_›]
    rfl

theorem headerCount_appendStructure {fileName : String} (h : m.Loaded fileName) (b : Block) (name : String)
    (header : String × List String) : (m.appendStructure fileName (.block b)).headerCount name header =
      m.headerCount name header + if fileName = name ∧ (b.ident, b.labelTexts) = header then 1 else 0 := by
  unfold appendStructure
  rw [headerCount_setFile]
  by_cases hname : name = fileName
  · subst hname
    have hbefore : (m.fileOrDisk name).body.headers.count header = m.headerCount name header := by
      cases hfile : m.file? name with
      | some file => rw [headerCount_of_file? hfile, fileOrDisk, hfile]
      | none =>
        rw [fileOrDisk_nodes h hfile, headerCount, hfile]
        rfl
    rw [if_pos rfl, Body.headers_pushRoot, List.count_append, hbefore, Structure.count_headers_block]
    simp only [true_and]
  · rw [if_neg hname, if_neg fun hboth => hname hboth.1.symm, Nat.add_zero]

theorem entryCount_setBlock {address : String} {s : Snapshot} (h : m.block? address = some s) (s' : Snapshot)
    (name : String) (header : String × List String) :
    (m.setBlock address s').entryCount name header + s.weight name header =
      m.entryCount name header + s'.weight name header := by
  obtain ⟨before, after, hsplit, hinsert, -⟩ := registry_around h
  rw [entryCount, entryCount, setBlock, hinsert, hsplit]
  simp only [List.map_append, List.map_cons, snapshotCount_append, snapshotCount_cons]
  omega

theorem block?_eq_none_of_contains {address : String} (h : m.contains address = false) : m.block? address = none :=
  Option.not_isSome_iff_eq_none.mp (Bool.eq_false_iff.mp h)

theorem entryCount_setBlock_new {address : String} (h : m.block? address = none) (s : Snapshot) (name : String)
    (header : String × List String) :
    (m.setBlock address s).entryCount name header = m.entryCount name header + s.weight name header := by
  rw [entryCount, entryCount, setBlock, insertEntry_of_lookup_eq_none h]
  simp

theorem entryCount_eraseEntry {address : String} {s : Snapshot} (h : m.block? address = some s) (name : String)
    (header : String × List String) :
    entryCount { m with registry := eraseEntry address m.registry } name header + s.weight name header =
      m.entryCount name header := by
  obtain ⟨before, after, hsplit, -, herase⟩ := registry_around h
  have herased : { m with registry := eraseEntry address m.registry }.registry = before ++ after := herase
  rw [entryCount, entryCount, herased, hsplit]
  simp only [List.map_append, List.map_cons, snapshotCount_append, snapshotCount_cons]
  omega

theorem Loaded.setFile (h : m.Loaded name) (other : String) (file : SourceFile) : (m.setFile other file).Loaded name :=
  h.imp (fun hmem => mem_fileNames_setFile hmem other file) id

/-- A file without the block of a site. -/
theorem headerCount_without {address : String} {s : Snapshot} {file file' : SourceFile} {i : Nat}
    (hsite : Site m address s file i)
    (h : file'.body.headers.count header + (if s.header = header then 1 else 0) = file.body.headers.count header) :
    (m.setFile s.fileName file').headerCount name header + s.weight name header = m.headerCount name header := by
  rw [headerCount_setFile]
  by_cases hname : name = s.fileName
  · subst hname
    rw [if_pos rfl, headerCount_of_file? hsite.stored, ← h, Snapshot.weight]
    simp only [true_and]
  · rw [if_neg hname, Snapshot.weight, if_neg fun hboth => hname hboth.1.symm, Nat.add_zero]

namespace Listed

/-- A block that has an address reads anew under its header. -/
theorem setSite (h : m.Listed) {address : String} {s : Snapshot} {file file' : SourceFile} {i : Nat}
    (hsite : Site m address s file i) {e e' : Block} (he : file.body.structures[i]? = some (.block e))
    (hident : e'.ident = e.ident) (hlabels : e'.labels = e.labels)
    (hstructures : file'.body.structures = file.body.structures.set i (.block e')) {s' : Snapshot}
    (hs' : s'.fileName = s.fileName ∧ s'.kind = s.kind ∧ s'.labels = s.labels) :
    ((m.setFile s.fileName file').setBlock address s').Listed := by
  have hheaders : file'.body.headers = file.body.headers := by
    refine Body.headers_set he ?_ hstructures
    rw [Structure.headers, Structure.headers, hident, Block.labelTexts, hlabels]
    rfl
  intro name header hlistable
  have hentries := entryCount_setBlock (m := m.setFile s.fileName file') hsite.found s' name header
  rw [Snapshot.weight_eq_of_tag (Snapshot.tag_eq_iff.mpr hs')] at hentries
  have hfiles : (m.setFile s.fileName file').headerCount name header = m.headerCount name header := by
    rw [headerCount_setFile]
    split
    · subst name
      rw [hheaders, headerCount_of_file? hsite.stored]
    · rfl
  exact (hfiles.trans (h name header hlistable)).trans (Nat.add_right_cancel hentries).symm

theorem updateBlock (h : m.Listed) {address : String} {f : Block → Block}
    (hf : ∀ b, (f b).ident = b.ident ∧ (f b).labels = b.labels) (hok : m.updateBlock address f = .ok m') :
    m'.Listed := by
  obtain ⟨s, file, i, old, hsite, -, hold, rfl⟩ := updateBlock_eq_ok hok
  obtain ⟨changed, s', heq, hs'⟩ := rewritten_eq_setBlock hsite old (f old)
  rw [heq]
  exact h.setSite hsite hold (hf old).1 (hf old).2 rfl hs'

theorem updateLocal (h : m.Listed) {address : String} {f : Attribute → Attribute}
    (hok : m.updateLocal address f = .ok m') : m'.Listed := by
  obtain ⟨s, file, i, name, e, j, old, hsite, -, -, he, -, -, rfl⟩ := updateLocal_eq_ok hok
  obtain ⟨file', e', s', heq, hident, hlabels, hstructures, hs'⟩ := revalued_eq_setBlock hsite e j old (f old)
  rw [heq]
  exact h.setSite hsite he hident hlabels hstructures hs'

theorem removeBlock (h : m.Listed) {address : String} {removed : Snapshot}
    (hok : m.removeBlock address = .ok (m', removed)) : m'.Listed := by
  obtain ⟨file, i, hsite, rfl⟩ := removeBlock_eq_ok hok
  intro name header hlistable
  let body : Body := { file.body with structures := withoutBlock removed file.body.structures i }
  let file' : SourceFile := { file with body, changed := true }
  have hentries := entryCount_eraseEntry hsite.found name header
  have hfiles : (m.setFile removed.fileName file').headerCount name header + removed.weight name header =
      m.headerCount name header :=
    headerCount_without hsite (Body.count_headers_withoutBlock hsite.placed rfl hlistable)
  exact Nat.add_right_cancel ((hfiles.trans (h name header hlistable)).trans hentries.symm)

theorem moveBlock (h : m.Listed) {address fileName : String} {moved : Bool} (hloaded : m.Loaded fileName)
    (hok : m.moveBlock address fileName = .ok (m', moved)) : m'.Listed := by
  rcases moveBlock_eq_ok hok with ⟨rfl, -⟩ | ⟨s, file, i, x, hsite, hkind, -, hx, rfl⟩
  · exact h
  · obtain ⟨b, hb, hident, hlabels⟩ := Snapshot.index?_block_eq_some hkind hsite.placed
    obtain rfl : .block b = x := Option.some.inj (hb.symm.trans hx)
    intro name header hlistable
    let file' : SourceFile := { file with
      body := { file.body with structures := file.body.structures.eraseIdx i }, changed := true }
    let taken := m.setFile s.fileName file'
    let added := taken.appendStructure fileName (.block b)
    have hheader : (b.ident, b.labelTexts) = s.header := by rw [hident, hlabels, Snapshot.header]
    have hwithout : taken.headerCount name header + s.weight name header = m.headerCount name header := by
      refine headerCount_without hsite ?_
      have hbody := Body.count_headers_eraseIdx hx (d := file'.body) rfl header
      rwa [Structure.count_headers_block, hheader] at hbody
    have happend : added.headerCount name header =
        taken.headerCount name header + (s.movedTo fileName).weight name header := by
      have hcount := headerCount_appendStructure (hloaded.setFile s.fileName file') b name header
      rwa [hheader] at hcount
    have hentries : (added.setBlock address (s.movedTo fileName)).entryCount name header + s.weight name header =
        m.entryCount name header + (s.movedTo fileName).weight name header :=
      entryCount_setBlock (m := added) hsite.found _ name header
    have hbefore := h name header hlistable
    show added.headerCount name header = (added.setBlock address (s.movedTo fileName)).entryCount name header
    omega

theorem addBlock (h : m.Listed) {kind : BlockKind} {b : Block} {fileName address : String} (hloaded : m.Loaded fileName)
    (hident : b.ident = kind.name) (hok : m.addBlock kind b fileName = .ok (m', address)) : m'.Listed := by
  obtain ⟨rfl, hnew, rfl⟩ := addBlock_eq_ok hok
  intro name header hlistable
  let added := m.appendStructure fileName (.block b)
  let s := Snapshot.ofNewBlock kind b fileName m.origin
  have hfiles : added.headerCount name header = m.headerCount name header + s.weight name header := by
    have hcount := headerCount_appendStructure hloaded b name header
    rwa [hident] at hcount
  have hentries : (added.setBlock (kind.address b.labelTexts) s).entryCount name header =
      m.entryCount name header + s.weight name header :=
    entryCount_setBlock_new (m := added) (block?_eq_none_of_contains hnew) s name header
  have hbefore := h name header hlistable
  show added.headerCount name header = (added.setBlock (kind.address b.labelTexts) s).entryCount name header
  omega

theorem addLocal (h : m.Listed) {a : Attribute} {fileName address : String} (hloaded : m.Loaded fileName)
    (hok : m.addLocal a fileName = .ok (m', address)) : m'.Listed := by
  obtain ⟨rfl, hnew, rfl⟩ := addLocal_eq_ok hok
  intro name header hlistable
  let locals : Block := { ident := "locals", body := Body.setAttribute {} a }
  have hne : ¬ (fileName = name ∧ (locals.ident, locals.labelTexts) = header) := by
    rintro ⟨-, rfl⟩
    exact hlistable.fst_ne_locals rfl
  have hfiles := headerCount_appendStructure hloaded locals name header
  rw [if_neg hne, Nat.add_zero] at hfiles
  have hentries := entryCount_setBlock_new (m := m.appendStructure fileName (.block locals))
    (block?_eq_none_of_contains hnew) (.ofNewLocal a fileName m.origin) name header
  rw [Snapshot.weight_eq_zero (hlistable.kind_ne (.inl rfl)), Nat.add_zero] at hentries
  exact (hfiles.trans (h name header hlistable)).trans hentries.symm

theorem replaceIn (h : m.Listed) (f : Attribute → Except InvalidExpression (Option Expression)) (name : String) :
    (m.replaceIn f name).Listed := by
  unfold Module.replaceIn
  cases hfile : m.file? name with
  | none => exact h
  | some file =>
    dsimp only
    have hfiles : ∀ (file' : SourceFile), file'.body = (replaceInBlocks f file.body).result → ∀ other header,
        (m.setFile name file').headerCount other header = m.headerCount other header := by
      intro file' hbody other header
      rw [headerCount_setFile]
      split
      · subst other
        rw [headerCount_of_file? hfile, hbody, Body.headers_replaceInBlocks]
      · rfl
    unfold replaceBody
    split
    · exact fun other header hlistable => (hfiles _ rfl other header).trans (h other header hlistable)
    · -- The snapshots of the file are taken again; file, kind and labels of each stay.
      intro other header hlistable
      refine (hfiles _ rfl other header).trans ((h other header hlistable).trans ?_)
      refine snapshotCount_congr ?_
      dsimp only [refreshFile, Module.setFile]
      rw [List.map_map, List.map_map, List.map_map]
      refine List.map_congr_left fun e _ => Eq.symm ?_
      dsimp only [Function.comp_apply]
      split
      · exact tag_refreshed e.2 _
      · rfl

end Listed

theorem Edits.loaded {p : String → Prop} (h : Edits p m m') (hloaded : m.Loaded name) : m'.Loaded name := by
  induction h with
  | refl m => exact hloaded
  | trans _ _ ih ih' => exact ih' (ih hloaded)
  | withRegistry _ registry ih => exact ih hloaded
  | setFile h hbecomes => exact hloaded.setFile _ _
  | appendStructure m hp s => exact hloaded.setFile _ _

/-- Appends go to files of which nothing unread is in the way. -/
theorem Listed.invariant (q : String → Prop) :
    Invariant q (fun _ _ => True) fun m => m.Listed ∧ ∀ name, q name → m.Loaded name := by
  have hloaded : Invariant q (fun _ _ => True) fun m => ∀ name, q name → m.Loaded name :=
    .of_edits fun h hedits _ hname => hedits.loaded (h _ hname)
  exact {
    updateBlock := fun h hf hok => ⟨h.1.updateBlock hf hok, hloaded.updateBlock h.2 hf hok⟩
    updateLocal := fun h hok => ⟨h.1.updateLocal hok, hloaded.updateLocal h.2 hok⟩
    removeBlock := fun h hok => ⟨h.1.removeBlock hok, hloaded.removeBlock h.2 hok⟩
    moveBlock := fun h hq hok => ⟨h.1.moveBlock (h.2 _ hq) hok, hloaded.moveBlock h.2 hq hok⟩
    addBlock := fun h hq hident hr hok => ⟨h.1.addBlock (h.2 _ hq) hident hok, hloaded.addBlock h.2 hq hident hr hok⟩
    addLocal := fun h hq hok => ⟨h.1.addLocal (h.2 _ hq) hok, hloaded.addLocal h.2 hq hok⟩
    replaceIn := fun f name h => ⟨h.1.replaceIn f name, hloaded.replaceIn f name h.2⟩ }

theorem Listed.applyAll (ts : List Transform) (h : m.Listed)
    (hloaded : ∀ t ∈ ts, ∀ name ∈ t.fileNames, m.Loaded name) : (Transform.applyAll ts m).Listed :=
  ((Listed.invariant fun name => ∃ t ∈ ts, name ∈ t.fileNames).applyAll ts (fun t ht _ hname => ⟨t, ht, hname⟩)
    (fun _ _ _ _ _ => trivial) ⟨h, fun _ ⟨t, ht, hname⟩ => hloaded t ht _ hname⟩).1

end Module

/-- A block that is read is registered under its header, if all blocks of it are. -/
theorem snapshotCount_nodes {header : String × List String} (h : Listable header) (e : Block) (fileName : String)
    (origin : Origin) (lines : Text.LineIndex) (name : String) :
    snapshotCount (e.nodes.map fun n => n.snapshotRead fileName origin lines) name header =
      if fileName = name ∧ (e.ident, e.labelTexts) = header then 1 else 0 := by
  by_cases hheader : (e.ident, e.labelTexts) = header
  · obtain ⟨kind, hlocal, -, hident, hcount⟩ := hheader ▸ h
    rw [Block.nodes_of_kind hident hlocal (by simpa [Block.labelTexts] using hcount), List.map_singleton,
      snapshotCount_cons, snapshotCount_nil, Nat.add_zero]
    have hsame : (kind.name, e.labelTexts) = (e.ident, e.labelTexts) := congrArg (·, e.labelTexts) hident.symm
    rw [← hheader, ← hsame]
    rfl
  · rw [if_neg fun hboth => hheader hboth.2]
    refine snapshotCount_eq_zero fun s hs => ?_
    obtain ⟨n, hn, rfl⟩ := List.mem_map.mp hs
    cases n with
    | declaration a => exact h.kind_ne (.inl rfl)
    | block kind e' =>
      obtain ⟨rfl, hident, -, -⟩ := Block.mem_nodes_block hn
      rw [← Ne.eq_def, hident] at hheader
      exact hheader

/-- What is read from a file are the headers that stand in it. -/
theorem snapshotCount_snapshotsOf {header : String × List String} (h : Listable header) (origin : Origin)
    (fileName : String) (lines : Text.LineIndex) (b : Body) (name : String) :
    snapshotCount (snapshotsOf origin fileName lines b) name header =
      if fileName = name then b.headers.count header else 0 := by
  rw [snapshotsOf_eq, Body.nodes, Body.headers]
  induction b.structures with
  | nil => exact (ite_self 0).symm
  | cons x rest ih =>
    have hfirst : snapshotCount (x.nodes.map fun n => n.snapshotRead fileName origin lines) name header =
        if fileName = name then x.headers.count header else 0 := by
      rcases x with a | e
      · exact (ite_self 0).symm
      · rw [Structure.nodes, snapshotCount_nodes h, Structure.count_headers_block]
        by_cases hname : fileName = name <;> simp [hname]
    rw [List.flatMap_cons, List.map_append, snapshotCount_append, List.flatMap_cons, List.count_append, ih, hfirst]
    split <;> rfl

namespace Module

theorem entryCount_foldlM_register {snapshots : List Snapshot} {m m' : Module} {header : String × List String}
    (h : Listable header) (hok : snapshots.foldlM register m = .ok m') (name : String) :
    m'.entryCount name header = m.entryCount name header + snapshotCount snapshots name header := by
  induction snapshots generalizing m with
  | nil =>
    cases hok
    rfl
  | cons s rest ih =>
    rw [List.foldlM_cons] at hok
    obtain ⟨m₁, hfirst, hrest⟩ := bind_eq_ok hok
    have hs : m₁.entryCount name header = m.entryCount name header + s.weight name header := by
      unfold register at hfirst
      split at hfirst
      · cases hfirst
        simp [entryCount]
      · split at hfirst
        · -- A further `terraform` block is passed over.
          cases hfirst
          rw [Snapshot.weight_eq_zero (h.kind_ne (.inr ‹_›)), Nat.add_zero]
        · cases hfirst
    rw [ih hrest, hs, snapshotCount_cons, Nat.add_assoc]

theorem Listed.addFile {m m' : Module} (h : m.Listed) {name content : String} (hok : m.addFile name content = .ok m')
    (hnew : name ∉ m.fileNames) : m'.Listed := by
  obtain ⟨body, m₁, -, hfold, rfl⟩ := addFile_eq_ok hok
  obtain ⟨hfiles, -, -⟩ := foldlM_register_frame hfold
  have hsame : ∀ other header, m₁.headerCount other header = m.headerCount other header := fun other header => by
    rw [headerCount, headerCount, file?, file?, hfiles]
  intro other header hlistable
  have hentries := entryCount_foldlM_register hlistable hfold other
  rw [snapshotCount_snapshotsOf hlistable, ← h other header hlistable] at hentries
  rw [headerCount_setFile, hsame]
  refine Eq.trans ?_ hentries.symm
  by_cases hname : other = name
  · have hnone : m.file? other = none := by
      rw [file?, List.lookup_eq_none_iff]
      intro p hp
      have hne : p.1 ≠ other := fun heq => hnew (hname ▸ heq ▸ List.mem_map_of_mem hp)
      simpa using Ne.symm hne
    rw [if_pos hname, if_pos hname.symm, headerCount, hnone, Option.map_none, Option.getD_none, Nat.zero_add]
  · rw [if_neg hname, if_neg (Ne.symm hname), Nat.add_zero]

theorem listed_ofSources {origin : Origin} {disk : String → Option String} {sources : List (String × String)}
    {m : Module} (hok : ofSources origin disk sources = .ok m) (hnames : (sources.map Prod.fst).Nodup) : m.Listed :=
  ofSources_keeps (fun h hok hnew => h.addFile hok hnew) (fun _ _ _ => rfl) hok hnames

variable {m : Module}

/-- No other entry has the header of an entry. -/
theorem Placed.entryCount_header (h : m.Placed) {e : String × Snapshot} (he : e ∈ m.registry) (name : String) :
    m.entryCount name e.2.header = e.2.weight name e.2.header := by
  obtain ⟨before, after, hsplit⟩ := List.append_of_mem he
  have hothers : ∀ e' ∈ before ++ after, e'.2.header ≠ e.2.header := by
    intro e' he' hheader
    have hmem : e' ∈ m.registry := by
      rw [hsplit]
      rcases List.mem_append.mp he' with h | h <;> simp [h]
    have haddress : e'.1 = e.1 := by
      rw [h.keys e' hmem, h.keys e he, Snapshot.address, Snapshot.address,
        BlockKind.name_injective (congrArg Prod.fst hheader),
        show e'.2.labels = e.2.labels from congrArg Prod.snd hheader]
    have hdistinct := h.distinct
    rw [hsplit, (List.perm_middle.map _).nodup_iff, List.map_cons, List.nodup_cons] at hdistinct
    exact hdistinct.1 (haddress ▸ List.mem_map_of_mem he')
  have hzero : snapshotCount ((before ++ after).map Prod.snd) name e.2.header = 0 := by
    refine snapshotCount_eq_zero fun s hs => ?_
    obtain ⟨e', he', rfl⟩ := List.mem_map.mp hs
    exact hothers e' he'
  rw [List.map_append, snapshotCount_append] at hzero
  rw [entryCount, hsplit, List.map_append, snapshotCount_append, List.map_cons, snapshotCount_cons]
  omega

end Module

namespace Source

/-- A header that stands in a body once stands in one place. -/
theorem Body.index_unique {b : Body} {i j : Nat} {d e : Block} (hd : b.structures[i]? = some (.block d))
    (he : b.structures[j]? = some (.block e)) (hheader : (e.ident, e.labelTexts) = (d.ident, d.labelTexts))
    (hcount : b.headers.count (d.ident, d.labelTexts) ≤ 1) : j = i := by
  by_contra hne
  -- Without the first of the two blocks the second one is still there.
  let rest : Body := { b with structures := b.structures.eraseIdx i }
  have hrest : (d.ident, d.labelTexts) ∈ rest.headers :=
    Body.mem_headers (x := .block e) (List.mem_eraseIdx_iff_getElem?.mpr ⟨j, hne, he⟩)
      (List.mem_singleton.mpr hheader.symm)
  have herase := Body.count_headers_eraseIdx hd (d := rest) rfl (d.ident, d.labelTexts)
  rw [Structure.count_headers_block, if_pos rfl] at herase
  have hpos := List.count_pos_iff.mpr hrest
  omega

end Source

namespace Module

variable {m : Module}

/-- A block of a kind that is registered has an address, under which it is found. -/
theorem Listed.exists_site (h : m.Listed) (hplaced : m.Placed) {name : String} {f : SourceFile} {i : Nat} {b : Block}
    (hf : m.file? name = some f) (hb : f.body.structures[i]? = some (.block b))
    (hlistable : Listable (b.ident, b.labelTexts)) :
    ∃ address s, Site m address s f i ∧ s.fileName = name ∧ s.header = (b.ident, b.labelTexts) := by
  have hcount := h name _ hlistable
  rw [headerCount_of_file? hf] at hcount
  have hpos : 0 < f.body.headers.count (b.ident, b.labelTexts) :=
    List.count_pos_iff.mpr (Body.mem_headers (List.mem_of_getElem? hb) (List.mem_singleton_self _))
  obtain ⟨e, he, hname, hheader⟩ : ∃ e ∈ m.registry, e.2.fileName = name ∧ e.2.header = (b.ident, b.labelTexts) := by
    obtain ⟨s, hs, hboth⟩ := List.countP_pos_iff.mp (hcount ▸ hpos)
    obtain ⟨e, he, rfl⟩ := List.mem_map.mp hs
    exact ⟨e, he, of_decide_eq_true hboth⟩
  have hlocal : e.2.kind ≠ .local := fun heq => hlistable.kind_ne (.inl heq) hheader
  obtain ⟨f', j, d, hsite, hd⟩ := hplaced.exists_site (lookup_of_mem hplaced.distinct he) hlocal
  obtain rfl : f' = f := Option.some.inj (hsite.stored.symm.trans (hname ▸ hf))
  obtain ⟨d', hd', hident, hlabels⟩ := Snapshot.index?_block_eq_some hlocal hsite.placed
  have honce : f'.body.headers.count (b.ident, b.labelTexts) ≤ 1 := by
    rw [hcount, ← hheader, hplaced.entryCount_header he, Snapshot.weight]
    split <;> decide
  have hsame : (d'.ident, d'.labelTexts) = (b.ident, b.labelTexts) := by
    rw [← hheader, hident, hlabels]
    rfl
  obtain rfl := Body.index_unique hb hd' hsame honce
  exact ⟨e.1, e.2, hsite, hname, hheader⟩

end Module

end Terrasmith
