import Terrasmith.Proofs.Following
import Terrasmith.Proofs.Invariants

/-!
Registered blocks are where they are said to be. In every module that is made from files and changed by transforms
each entry other than that of a local has a block of its header in its file, so an update of it does not fail.
-/
namespace Terrasmith

open Source

namespace Source

/-- The identifier and the labels of a block. -/
def Structure.headers : Structure → List (String × List String)
  | .block b => [(b.ident, b.labelTexts)]
  | .attribute _ => []

def Body.headers (b : Body) : List (String × List String) := b.structures.flatMap Structure.headers

theorem Body.mem_headers {b : Body} {x : Structure} (hx : x ∈ b.structures) {header : String × List String}
    (h : header ∈ x.headers) : header ∈ b.headers :=
  List.mem_flatMap.mpr ⟨x, hx, h⟩

theorem Body.headers_set {b d : Body} {i : Nat} {x y : Structure} (hx : b.structures[i]? = some x)
    (hy : y.headers = x.headers) (hd : d.structures = b.structures.set i y) : d.headers = b.headers := by
  obtain ⟨hall, hset, -⟩ := flatMap_around Structure.headers hx
  rw [headers, headers, hd, hset, hall, hy]

theorem Body.mem_headers_eraseIdx {b d : Body} {i : Nat} {x : Structure} (hx : b.structures[i]? = some x)
    {header : String × List String} (hne : header ∉ x.headers) (hd : d.structures = b.structures.eraseIdx i)
    (h : header ∈ b.headers) : header ∈ d.headers := by
  obtain ⟨hall, -, herase⟩ := flatMap_around Structure.headers hx
  rw [headers, hall, List.mem_append, List.mem_append] at h
  rw [headers, hd, herase, List.mem_append]
  rcases h with (h | h) | h
  · exact .inl h
  · exact absurd h hne
  · exact .inr h

theorem Body.headers_pushRoot (b : Body) (e : Block) :
    (b.pushRoot (.block e)).headers = b.headers ++ (Structure.block e).headers := by
  rw [pushRoot, Structure.withLead, push, headers, List.flatMap_append, List.flatMap_singleton]
  rfl

theorem Body.headers_replaceInBlocks {ε : Type} (f : Attribute → Except ε (Option Expression)) (b : Body) :
    (replaceInBlocks f b).result.headers = b.headers := by
  unfold replaceInBlocks headers
  dsimp only
  rw [List.map_map, List.flatMap_map]
  congr 1
  funext x
  rcases x with a | ⟨lead, ident, identTrail, labels, ⟨structures, head, tail, oneLine, openEnd⟩, trail, span?⟩
  · rfl
  · simp only [Function.comp_apply, Structure.replaceValues]
    rfl

end Source

def Snapshot.header (s : Snapshot) : String × List String := (s.kind.name, s.labels)

theorem Snapshot.tag_eq_iff {s t : Snapshot} :
    s.tag = t.tag ↔ s.fileName = t.fileName ∧ s.kind = t.kind ∧ s.labels = t.labels := by
  rw [tag, tag, Prod.mk.injEq, Prod.mk.injEq]

theorem Snapshot.mem_headers_iff (s : Snapshot) (x : Structure) : s.header ∈ x.headers ↔ s.isBlock x = true := by
  rcases x with a | e
  · exact iff_of_false List.not_mem_nil Bool.false_ne_true
  · rw [Structure.headers, List.mem_singleton, header, Prod.mk.injEq, isBlock, Bool.and_eq_true, decide_eq_true_eq,
      decide_eq_true_eq, eq_comm, eq_comm (a := s.labels)]

theorem BlockKind.name_injective {k k' : BlockKind} (h : k.name = k'.name) : k = k' := by
  cases k <;> cases k' <;> first | rfl | exact absurd h (by decide)

namespace Module

variable {m m' : Module}

/-- A file that was loaded has a block of a header. -/
def Has (m : Module) (name : String) (header : String × List String) : Prop :=
  ∃ file, m.file? name = some file ∧ header ∈ file.body.headers

namespace Has

variable {name : String} {header : String × List String}

theorem setFile (h : m.Has name header) {other : String} {file' : SourceFile}
    (hkeeps : ∀ file, m.file? other = some file → header ∈ file.body.headers → header ∈ file'.body.headers) :
    (m.setFile other file').Has name header := by
  obtain ⟨file, hfile, hheader⟩ := h
  by_cases hname : name = other
  · subst hname
    exact ⟨file', file?_setFile_self .., hkeeps file hfile hheader⟩
  · exact ⟨file, (lookup_insertEntry_of_ne hname file' m.files).trans hfile, hheader⟩

/-- The file that is replaced keeps the block. -/
theorem setStored (h : m.Has name header) {other : String} {file file' : SourceFile}
    (hstored : m.file? other = some file) (hkeeps : header ∈ file.body.headers → header ∈ file'.body.headers) :
    (m.setFile other file').Has name header := by
  refine h.setFile fun file₁ hfile₁ => ?_
  obtain rfl : file = file₁ := Option.some.inj (hstored.symm.trans hfile₁)
  exact hkeeps

theorem appendStructure (h : m.Has name header) (other : String) (b : Block) :
    (m.appendStructure other (.block b)).Has name header := by
  refine h.setFile fun file hfile hheader => ?_
  simp only [fileOrDisk, hfile, Body.headers_pushRoot, List.mem_append]
  exact .inl hheader

end Has

theorem has_appendStructure (m : Module) (name : String) (b : Block) :
    (m.appendStructure name (.block b)).Has name (b.ident, b.labelTexts) := by
  refine ⟨_, file?_setFile_self .., ?_⟩
  rw [Body.headers_pushRoot, List.mem_append]
  exact .inr (List.mem_singleton_self _)

/-- Every entry that is not a local has a block in its file. -/
structure Placed (m : Module) : Prop where
  keys : ∀ e ∈ m.registry, e.1 = e.2.address
  distinct : (m.registry.map Prod.fst).Nodup
  present : ∀ e ∈ m.registry, e.2.kind ≠ .local → m.Has e.2.fileName e.2.header

namespace Placed

/-- The block of an entry is found. -/
theorem exists_site (h : m.Placed) {address : String} {s : Snapshot} (hfound : m.block? address = some s)
    (hkind : s.kind ≠ .local) :
    ∃ file i b, Site m address s file i ∧ file.body.structures[i]? = some (.block b) := by
  obtain ⟨file, hfile, hheader⟩ := h.present _ (mem_registry hfound) hkind
  obtain ⟨x, hx, hheader⟩ := List.mem_flatMap.mp hheader
  obtain ⟨i, hi⟩ : ∃ i, s.index? file.body = some i := by
    rw [Snapshot.index?, if_neg hkind, ← Option.isSome_iff_exists, List.findIdx?_isSome, List.any_eq_true]
    exact ⟨x, hx, (s.mem_headers_iff x).mp hheader⟩
  obtain ⟨b, hb, -⟩ := Snapshot.index?_block_eq_some hkind hi
  exact ⟨file, i, b, ⟨hfound, hfile, hi⟩, hb⟩

/-- What is found for one entry is not the block of another one. -/
theorem not_mem_headers (h : m.Placed) {address : String} {s : Snapshot} {file : SourceFile} {i : Nat}
    (hsite : Site m address s file i) {x : Structure} (hx : file.body.structures[i]? = some x)
    {e : String × Snapshot} (he : e ∈ m.registry) (hne : e.1 ≠ address) : e.2.header ∉ x.headers := by
  intro hheader
  by_cases hkind : s.kind = .local
  · obtain ⟨d, hd, hident, -⟩ := Snapshot.isLocals_of_index? hkind hsite.placed
    obtain rfl : .block d = x := Option.some.inj (hd.symm.trans hx)
    have hname := congrArg Prod.fst (List.mem_singleton.mp hheader)
    exact e.2.kind.name_ne_locals (hname.trans hident)
  · obtain ⟨d, hd, hident, hlabels⟩ := Snapshot.index?_block_eq_some hkind hsite.placed
    obtain rfl : .block d = x := Option.some.inj (hd.symm.trans hx)
    have hsame : e.2.header = s.header := by
      rw [List.mem_singleton.mp hheader, Snapshot.header, hident, hlabels]
    have haddress : e.2.address = s.address := by
      rw [Snapshot.address, Snapshot.address, BlockKind.name_injective (congrArg Prod.fst hsame),
        show e.2.labels = s.labels from congrArg Prod.snd hsame]
    exact hne ((h.keys e he).trans (haddress.trans (h.keys _ (mem_registry hsite.found)).symm))

theorem setBlock (h : m.Placed) {address : String} {s : Snapshot}
    (hregistry : m'.registry = insertEntry address s m.registry) (haddress : address = s.address)
    (hnew : s.kind ≠ .local → m'.Has s.fileName s.header)
    (hothers : ∀ e ∈ m.registry, e.1 ≠ address → e.2.kind ≠ .local → m'.Has e.2.fileName e.2.header) : m'.Placed := by
  have hdistinct : (m'.registry.map Prod.fst).Nodup := by
    rw [hregistry]
    exact nodup_keys_insertEntry h.distinct address s
  refine ⟨fun e he => ?_, hdistinct, fun e he hkind => ?_⟩
  · rw [hregistry] at he
    rcases mem_insertEntry he with rfl | he
    · exact haddress
    · exact h.keys e he
  · by_cases hkey : e.1 = address
    · have hfound : m'.registry.lookup address = some s := by rw [hregistry, lookup_insertEntry_self]
      have he' : m'.registry.lookup e.1 = some e.2 := lookup_of_mem hdistinct he
      obtain rfl : e.2 = s := by
        rw [hkey, hfound] at he'
        exact (Option.some.inj he').symm
      exact hnew hkind
    · rw [hregistry] at he
      rcases mem_insertEntry he with rfl | he
      · exact absurd rfl hkey
      · exact hothers e he hkey hkind

/-- A block that has an address reads anew under its header. -/
theorem setSite (h : m.Placed) {address : String} {s : Snapshot} {file file' : SourceFile} {i : Nat}
    (hsite : Site m address s file i) {e e' : Block} (he : file.body.structures[i]? = some (.block e))
    (hident : e'.ident = e.ident) (hlabels : e'.labels = e.labels)
    (hstructures : file'.body.structures = file.body.structures.set i (.block e')) {s' : Snapshot}
    (hs' : s'.fileName = s.fileName ∧ s'.kind = s.kind ∧ s'.labels = s.labels) :
    ((m.setFile s.fileName file').setBlock address s').Placed := by
  obtain ⟨hname, hkind, htexts⟩ := hs'
  have hmem := mem_registry hsite.found
  have hheaders : file'.body.headers = file.body.headers := by
    refine Body.headers_set he ?_ hstructures
    rw [Structure.headers, Structure.headers, hident, Block.labelTexts, hlabels]
    rfl
  have hhas : ∀ e ∈ m.registry, e.2.kind ≠ .local → (m.setFile s.fileName file').Has e.2.fileName e.2.header :=
    fun e he hlocal => (h.present e he hlocal).setStored hsite.stored fun hheader => by rwa [hheaders]
  refine h.setBlock rfl ?_ (fun hlocal => ?_) fun e he _ hlocal => hhas e he hlocal
  · rw [show address = s.address from h.keys _ hmem, Snapshot.address, Snapshot.address, hkind, htexts]
  · rw [hname, Snapshot.header, hkind, htexts]
    exact hhas _ hmem (by rwa [hkind] at hlocal)

theorem updateBlock (h : m.Placed) {address : String} {f : Block → Block}
    (hf : ∀ b, (f b).ident = b.ident ∧ (f b).labels = b.labels) (hok : m.updateBlock address f = .ok m') :
    m'.Placed := by
  obtain ⟨s, file, i, old, hsite, -, hold, rfl⟩ := updateBlock_eq_ok hok
  obtain ⟨changed, s', heq, hs'⟩ := rewritten_eq_setBlock hsite old (f old)
  rw [heq]
  exact h.setSite hsite hold (hf old).1 (hf old).2 rfl hs'

theorem updateLocal (h : m.Placed) {address : String} {f : Attribute → Attribute}
    (hok : m.updateLocal address f = .ok m') : m'.Placed := by
  obtain ⟨s, file, i, name, e, j, old, hsite, -, -, he, -, -, rfl⟩ := updateLocal_eq_ok hok
  obtain ⟨file', e', s', heq, hident, hlabels, hstructures, hs'⟩ := revalued_eq_setBlock hsite e j old (f old)
  rw [heq]
  exact h.setSite hsite he hident hlabels hstructures hs'

/-- What is taken out of its file leaves the blocks of other entries there. -/
theorem has_eraseIdx (h : m.Placed) {address : String} {s : Snapshot} {file file' : SourceFile} {i : Nat}
    (hsite : Site m address s file i) {x : Structure} (hx : file.body.structures[i]? = some x)
    (hstructures : file'.body.structures = file.body.structures.eraseIdx i) {e : String × Snapshot}
    (he : e ∈ m.registry) (hne : e.1 ≠ address) (hlocal : e.2.kind ≠ .local) :
    (m.setFile s.fileName file').Has e.2.fileName e.2.header :=
  (h.present e he hlocal).setStored hsite.stored
    (Body.mem_headers_eraseIdx hx (h.not_mem_headers hsite hx he hne) hstructures)

theorem removeBlock (h : m.Placed) {address : String} {removed : Snapshot}
    (hok : m.removeBlock address = .ok (m', removed)) : m'.Placed := by
  obtain ⟨file, i, hsite, rfl⟩ := removeBlock_eq_ok hok
  have hsub := eraseEntry_sublist address m.registry
  refine ⟨fun e he => h.keys e (hsub.subset he), (hsub.map _).nodup h.distinct, fun e he hlocal => ?_⟩
  have hne : e.1 ≠ address := by
    rintro rfl
    have hnone : (eraseEntry e.1 m.registry).lookup e.1 = none := lookup_eraseEntry_self h.distinct
    rw [lookup_of_mem ((hsub.map _).nodup h.distinct) he] at hnone
    cases hnone
  have hmem := hsub.subset he
  rcases withoutBlock_cases removed file.body.structures i with hgone | ⟨b, body, hb, hkept⟩
  · obtain ⟨x, hx⟩ : ∃ x, file.body.structures[i]? = some x := by
      obtain ⟨hlt, -⟩ := List.findIdx?_eq_some_iff_getElem.mp hsite.placed
      exact ⟨_, List.getElem?_eq_getElem hlt⟩
    let file' : SourceFile :=
      { file with
        body := { file.body with structures := withoutBlock removed file.body.structures i }, changed := true }
    have hstructures : file'.body.structures = file.body.structures.eraseIdx i := hgone
    exact h.has_eraseIdx hsite hx hstructures hmem hne hlocal
  · have hheaders : (Structure.block { b with body }).headers = (Structure.block b).headers := rfl
    refine (h.present e hmem hlocal).setStored hsite.stored fun hheader => ?_
    rwa [Body.headers_set hb hheaders hkept]

theorem moveBlock (h : m.Placed) {address fileName : String} {moved : Bool}
    (hok : m.moveBlock address fileName = .ok (m', moved)) : m'.Placed := by
  rcases moveBlock_eq_ok hok with ⟨rfl, -⟩ | ⟨s, file, i, x, hsite, hkind, -, hx, rfl⟩
  · exact h
  · obtain ⟨b, hb, hident, hlabels⟩ := Snapshot.index?_block_eq_some hkind hsite.placed
    obtain rfl : .block b = x := Option.some.inj (hb.symm.trans hx)
    refine h.setBlock rfl (h.keys _ (mem_registry hsite.found)) (fun _ => ?_) fun e he hne hlocal => ?_
    · have hadded := has_appendStructure (m.setFile s.fileName { file with
        body := { file.body with structures := file.body.structures.eraseIdx i }, changed := true }) fileName b
      rwa [hident, hlabels] at hadded
    · exact (h.has_eraseIdx hsite hx rfl he hne hlocal).appendStructure fileName b

theorem addBlock (h : m.Placed) {kind : BlockKind} {b : Block} {fileName address : String}
    (hident : b.ident = kind.name) (hok : m.addBlock kind b fileName = .ok (m', address)) : m'.Placed := by
  obtain ⟨rfl, -, rfl⟩ := addBlock_eq_ok hok
  refine h.setBlock rfl rfl (fun _ => ?_) fun e he _ hlocal => (h.present e he hlocal).appendStructure fileName b
  have hadded := has_appendStructure m fileName b
  rwa [hident] at hadded

theorem addLocal (h : m.Placed) {a : Attribute} {fileName address : String}
    (hok : m.addLocal a fileName = .ok (m', address)) : m'.Placed := by
  obtain ⟨rfl, -, rfl⟩ := addLocal_eq_ok hok
  exact h.setBlock rfl rfl (fun hlocal => absurd rfl hlocal)
    fun e he _ hlocal => (h.present e he hlocal).appendStructure fileName _

theorem replaceIn (h : m.Placed) (f : Attribute → Except InvalidExpression (Option Expression)) (name : String) :
    (m.replaceIn f name).Placed := by
  unfold Module.replaceIn
  cases hfile : m.file? name with
  | none => exact h
  | some file =>
    have hhas : ∀ file' : SourceFile, file'.body = (replaceInBlocks f file.body).result →
        ∀ other header, m.Has other header → (m.setFile name file').Has other header :=
      fun file' hbody other header hold => hold.setStored hfile fun hheader => by
        rwa [hbody, Body.headers_replaceInBlocks]
    dsimp only
    unfold replaceBody
    split
    · exact ⟨h.keys, h.distinct, fun e he hlocal => hhas _ rfl _ _ (h.present e he hlocal)⟩
    · -- The snapshots of the file are taken again; file, kind and labels of each stay.
      have htags : ∀ s : Snapshot, (if s.fileName = name then
          (refreshed? s (replaceInBlocks f file.body).result).getD s else s).tag = s.tag := by
        intro s
        split
        · exact tag_refreshed s _
        · rfl
      refine ⟨fun e he => ?_, ?_, fun e he hlocal => ?_⟩
      · obtain ⟨⟨key, s⟩, hs, rfl⟩ := List.mem_map.mp he
        obtain ⟨-, hkind, hlabels⟩ := Snapshot.tag_eq_iff.mp (htags s)
        dsimp only
        rw [Snapshot.address, hkind, hlabels]
        exact h.keys _ hs
      · have hsame : (m.registry.map fun e => (e.1, if e.2.fileName = name then
            (refreshed? e.2 (replaceInBlocks f file.body).result).getD e.2 else e.2)).map Prod.fst =
            m.registry.map Prod.fst := List.map_map
        exact hsame ▸ h.distinct
      · obtain ⟨⟨key, s⟩, hs, rfl⟩ := List.mem_map.mp he
        obtain ⟨hname, hkind, hlabels⟩ := Snapshot.tag_eq_iff.mp (htags s)
        dsimp only at hlocal ⊢
        rw [hkind] at hlocal
        rw [hname, Snapshot.header, hkind, hlabels]
        exact hhas _ rfl _ _ (h.present _ hs hlocal)

theorem invariant : Invariant (fun _ => True) (fun _ _ => True) Placed where
  updateBlock h hf hok := h.updateBlock hf hok
  updateLocal h hok := h.updateLocal hok
  removeBlock h hok := h.removeBlock hok
  moveBlock h _ hok := h.moveBlock hok
  addBlock h _ hident _ hok := h.addBlock hident hok
  addLocal h _ hok := h.addLocal hok
  replaceIn f name h := h.replaceIn f name

theorem applyAll (ts : List Transform) (h : m.Placed) : (Transform.applyAll ts m).Placed :=
  invariant.applyAll ts (fun _ _ _ _ => trivial) (fun _ _ _ _ _ => trivial) h

end Placed

end Module

/-- What is registered of a file is in it. -/
theorem header_of_mem_snapshotsOf {origin : Origin} {name : String} {lines : Text.LineIndex} {b : Body} {s : Snapshot}
    (hs : s ∈ snapshotsOf origin name lines b) (hkind : s.kind ≠ .local) :
    s.fileName = name ∧ s.header ∈ b.headers := by
  rw [snapshotsOf_eq] at hs
  obtain ⟨n, hn, rfl⟩ := List.mem_map.mp hs
  cases n with
  | declaration a => exact absurd rfl hkind
  | block kind e =>
    obtain ⟨e', he', hn⟩ := Body.mem_nodes.mp hn
    obtain ⟨rfl, hident, -, -⟩ := Block.mem_nodes_block hn
    refine ⟨rfl, Body.mem_headers he' ?_⟩
    rw [Structure.headers, hident, List.mem_singleton]
    rfl

namespace Module

theorem Placed.addFile {m m' : Module} (h : m.Placed) (hread : m.Read) {name content : String}
    (hok : m.addFile name content = .ok m') (hnew : name ∉ m.fileNames) : m'.Placed := by
  obtain ⟨body, m₁, -, hfold, rfl⟩ := addFile_eq_ok hok
  obtain ⟨hfiles, -, -⟩ := foldlM_register_frame hfold
  obtain ⟨hentered, hblock⟩ := entered_foldlM_register (fun s hs => bare_of_mem_snapshotsOf hs) hread.entered hfold
  refine ⟨hentered.keys, hentered.distinct, fun e he hlocal => ?_⟩
  have hfound := (hblock e.1).symm.trans (lookup_of_mem hentered.distinct he)
  rcases Option.or_eq_some_iff.mp hfound with hold | ⟨-, hadded⟩
  · obtain ⟨file, hfile, hheader⟩ := h.present _ (mem_registry hold) hlocal
    have hne : e.2.fileName ≠ name := by
      rintro rfl
      exact hnew (List.mem_map_of_mem (f := Prod.fst) (mem_of_lookup hfile))
    refine ⟨file, (lookup_insertEntry_of_ne hne _ m₁.files).trans ?_, hheader⟩
    rw [hfiles]
    exact hfile
  · obtain ⟨hname, hheader⟩ := header_of_mem_snapshotsOf (List.mem_of_find?_eq_some hadded) hlocal
    refine ⟨{ stored? := some content, body }, ?_, hheader⟩
    rw [hname]
    exact file?_setFile_self ..

theorem placed_ofSources {origin : Origin} {disk : String → Option String} {sources : List (String × String)}
    {m : Module} (hok : ofSources origin disk sources = .ok m) (hnames : (sources.map Prod.fst).Nodup) : m.Placed := by
  refine (ofSources_keeps (p := fun m => m.Placed ∧ m.Read)
    (fun h hok hnew => ⟨h.1.addFile h.2 hok hnew, h.2.addFile hok hnew⟩) ⟨?_, ?_⟩ hok hnames).1
  · exact ⟨by simp, List.nodup_nil, by simp⟩
  · exact ⟨⟨by simp, List.nodup_nil, by simp⟩, rfl⟩

end Module

end Terrasmith
