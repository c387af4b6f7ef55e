import Terrasmith.Proofs.Changes

/-!
Modules that are made from files. If there is at most one `terraform` block, every node of the files is registered,
and its snapshot shows what it says.
-/
namespace Terrasmith

open Source

/-- An address begins with the name of its kind. -/
theorem BlockKind.address_eq_append (kind : BlockKind) (labels : List String) :
    ∃ rest, kind.address labels = kind.name ++ rest := by
  cases labels with
  | nil => exact ⟨"", by simp [address]⟩
  | cons l more => exact ⟨"." ++ String.intercalate "." (l :: more), by simp [address, String.append_assoc]⟩

/-- No two kinds have addresses in common: their names begin with different letters. -/
theorem BlockKind.kind_eq_of_address {k k' : BlockKind} {labels labels' : List String}
    (h : k.address labels = k'.address labels') : k = k' := by
  obtain ⟨rest, hrest⟩ := k.address_eq_append labels
  obtain ⟨rest', hrest'⟩ := k'.address_eq_append labels'
  rw [hrest, hrest'] at h
  have hhead := congrArg (fun s : String => s.toList.head?) h
  simp only [String.toList_append] at hhead
  cases k <;> cases k' <;> first | rfl | simp [name] at hhead

theorem Current.of_exists {registry : List (String × Snapshot)} {nodes : List (String × TreeNode)}
    (h : Matches registry nodes)
    (hviews : ∀ e ∈ registry, ∃ p ∈ nodes, p.2.address = e.2.address ∧ e.2.view = p.2.view) :
    Current registry nodes := by
  intro e he p hp haddress
  obtain ⟨q, hq, hqe, hview⟩ := hviews e he
  rw [h.node_unique hp hq (haddress.trans hqe.symm), hview]

theorem not_mem_of_nodup_append {α : Type} {before after : List α} {x : α} (h : (before ++ x :: after).Nodup) :
    x ∉ before := by
  intro hmem
  exact (List.nodup_append.mp h).2.2 x hmem x List.mem_cons_self rfl

namespace Module

/-- How many nodes of a kind there are. -/
def countOf (kind : BlockKind) (nodes : List (String × TreeNode)) : Nat :=
  (nodes.map fun p => p.2.kind).count kind

theorem Registered.count_kinds {m : Module} (h : m.Registered) (kind : BlockKind) :
    (m.registry.map fun e => e.2.kind).count kind = countOf kind m.nodes := by
  have hkinds := (h.entries.tags.map fun t => t.2.1).count_eq kind
  simpa [countOf, List.map_map, Function.comp_def, Snapshot.tag, tagOf] using hkinds

theorem block?_eq_some_mem {m : Module} {address : String} {s : Snapshot}
    (hkeys : ∀ e ∈ m.registry, e.1 = e.2.address) (h : m.block? address = some s) :
    (address, s) ∈ m.registry ∧ s.address = address :=
  ⟨mem_registry h, (hkeys _ (mem_registry h)).symm⟩

/-- Blocks are entered one after the other, if no second `terraform` block is among them. -/
theorem foldlM_register {snapshots : List Snapshot} {m m' : Module}
    (hkeys : ∀ e ∈ m.registry, e.1 = e.2.address)
    (hcount : ((m.registry.map fun e => e.2.kind) ++ snapshots.map (·.kind)).count .terraform ≤ 1)
    (hok : snapshots.foldlM register m = .ok m') :
    m' = { m with registry := m.registry ++ snapshots.map fun s => (s.address, s) } ∧
      ((m.registry.map Prod.fst).Nodup → (m'.registry.map Prod.fst).Nodup) := by
  induction snapshots generalizing m with
  | nil =>
    cases hok
    simp
  | cons s rest ih =>
    rw [List.foldlM_cons] at hok
    obtain ⟨m₁, hfirst, hrest⟩ := bind_eq_ok hok
    unfold register at hfirst
    split at hfirst
    · rename_i hnone
      cases hfirst
      obtain ⟨rfl, hnodup⟩ := ih (m := { m with registry := m.registry ++ [(s.address, s)] })
        (by
          intro e he
          rcases List.mem_append.mp he with he | he
          · exact hkeys e he
          · rw [List.mem_singleton.mp he])
        (by simpa using hcount) hrest
      refine ⟨by simp, fun hm => hnodup ?_⟩
      have hfresh : s.address ∉ m.registry.map Prod.fst := by
        intro hmem
        obtain ⟨e, he, hkey⟩ := List.mem_map.mp hmem
        rw [block?, List.lookup_eq_none_iff] at hnone
        simpa [hkey] using hnone e he
      rw [List.map_append, List.nodup_append]
      exact ⟨hm, by simp, fun a ha b hb => by rintro rfl; exact hfresh (by simpa [List.mem_singleton.mp hb] using ha)⟩
    · rename_i existing hexisting
      split at hfirst
      · -- A second block of the address: it is a `terraform` block, and the first one is too.
        rename_i hterraform
        obtain ⟨hmem, haddress⟩ := block?_eq_some_mem hkeys hexisting
        have hkind : existing.kind = .terraform := by
          rw [← hterraform]
          exact BlockKind.kind_eq_of_address haddress
        have hpos : 0 < (m.registry.map fun e => e.2.kind).count .terraform :=
          List.count_pos_iff.mpr (List.mem_map.mpr ⟨_, hmem, hkind⟩)
        simp only [List.map_cons, List.count_append, List.count_cons, hterraform, beq_self_eq_true, if_true] at hcount
        omega
      · cases hfirst

theorem foldlM_register_frame {snapshots : List Snapshot} {m m' : Module}
    (hok : snapshots.foldlM register m = .ok m') :
    m'.files = m.files ∧ m'.disk = m.disk ∧ m'.origin = m.origin := by
  refine foldlM_keeps (p := fun m' => m'.files = m.files ∧ m'.disk = m.disk ∧ m'.origin = m.origin)
    (fun m₁ s m₂ _ hm hfirst => ?_) ⟨rfl, rfl, rfl⟩ hok
  unfold register at hfirst
  split at hfirst
  · cases hfirst
    exact hm
  · split at hfirst
    · cases hfirst
      exact hm
    · cases hfirst

theorem addFile_eq_ok {m m' : Module} {name content : String} (hok : m.addFile name content = .ok m') :
    ∃ body m₁, parse? content = some body ∧
      (snapshotsOf m.origin name (.ofText content) body).foldlM register m = .ok m₁ ∧
      m' = m₁.setFile name { stored? := some content, body } := by
  unfold addFile at hok
  split at hok
  · cases hok
  · obtain ⟨m₁, hfold, hok⟩ := bind_eq_ok hok
    cases hok
    exact ⟨_, m₁, ‹_›, hfold, rfl⟩

/-- What a file adds to the trees. -/
theorem addFile_frame {m m' : Module} {name content : String} (hok : m.addFile name content = .ok m')
    (hnew : name ∉ m.fileNames) :
    ∃ body, parse? content = some body ∧ m'.nodes = m.nodes ++ body.nodes.map (name, ·) ∧
      m'.fileNames = m.fileNames ++ [name] ∧ m'.disk = m.disk := by
  obtain ⟨body, m₁, hparse, hfold, rfl⟩ := addFile_eq_ok hok
  obtain ⟨hfiles, hdisk, -⟩ := foldlM_register_frame hfold
  have hnone : m₁.file? name = none := by
    rw [file?, hfiles, List.lookup_eq_none_iff]
    intro p hp
    have hne : p.1 ≠ name := fun h => hnew (h ▸ List.mem_map_of_mem hp)
    simpa using Ne.symm hne
  have hnodes : m₁.nodes = m.nodes := by simp [nodes, hfiles]
  refine ⟨body, hparse, by rw [nodes_setFile_new hnone, hnodes], ?_, hdisk⟩
  unfold file? at hnone
  rw [fileNames, setFile, insertEntry_of_lookup_eq_none hnone, hfiles, List.map_append]
  rfl

theorem registered_addFile {m m' : Module} {name content : String} (h : m.Registered) (hu : m.UpToDate)
    (hok : m.addFile name content = .ok m') (hnew : name ∉ m.fileNames)
    (hcount : countOf .terraform m'.nodes ≤ 1) : m'.Registered ∧ m'.UpToDate := by
  obtain ⟨body, hparse, hnodes, hnames, -⟩ := addFile_frame hok hnew
  obtain ⟨body', m₁, hparse', hfold, rfl⟩ := addFile_eq_ok hok
  obtain rfl : body = body' := Option.some.inj (hparse.symm.trans hparse')
  let added := body.nodes.map fun n => n.snapshotRead name m.origin (.ofText content)
  have hkinds : added.map (·.kind) = (body.nodes.map (name, ·)).map fun p : String × TreeNode => p.2.kind := by
    simp only [added, List.map_map]
    refine List.map_congr_left fun n _ => ?_
    cases n <;> rfl
  have htags : added.map Snapshot.tag = (body.nodes.map (name, ·)).map tagOf := by
    simp only [added, List.map_map]
    refine List.map_congr_left fun n _ => ?_
    cases n <;> rfl
  rw [snapshotsOf_eq] at hfold
  have hsum : ((m.registry.map fun e => e.2.kind) ++ added.map (·.kind)).count .terraform ≤ 1 := by
    rw [hkinds, List.count_append, h.count_kinds]
    rw [hnodes, countOf, List.map_append, List.count_append] at hcount
    exact hcount
  obtain ⟨rfl, hnodup⟩ := foldlM_register h.entries.keys hsum hfold
  have hmatches := h.entries.append htags (hnodup h.entries.keys_nodup)
  rw [← hnodes] at hmatches
  refine ⟨⟨?_, hmatches⟩, Current.of_exists hmatches fun e he => ?_⟩
  · rw [hnames, List.nodup_append]
    exact ⟨h.files, by simp, fun a ha b hb => by rintro rfl; exact hnew (List.mem_singleton.mp hb ▸ ha)⟩
  · rw [hnodes]
    rcases List.mem_append.mp he with he | he
    · obtain ⟨p, hp, htag⟩ := h.entries.exists_node he
      have haddress := address_eq_of_tag htag
      exact ⟨p, List.mem_append_left _ hp, haddress, hu e he p hp haddress⟩
    · obtain ⟨s, hs, rfl⟩ := List.mem_map.mp he
      obtain ⟨n, hn, rfl⟩ := List.mem_map.mp hs
      refine ⟨(name, n), List.mem_append_right _ (List.mem_map_of_mem hn), ?_, TreeNode.view_snapshotRead ..⟩
      cases n <;> rfl

/-- What files add to the trees. -/
theorem foldlM_addFile_frame {sources : List (String × String)} {m m' : Module}
    (hok : sources.foldlM (fun m (name, content) => m.addFile name content) m = .ok m')
    (hnames : (m.fileNames ++ sources.map Prod.fst).Nodup) :
    m.nodes <+: m'.nodes ∧ m'.fileNames = m.fileNames ++ sources.map Prod.fst ∧ m'.disk = m.disk := by
  induction sources generalizing m with
  | nil =>
    cases hok
    simp
  | cons source rest ih =>
    obtain ⟨name, content⟩ := source
    rw [List.foldlM_cons] at hok
    obtain ⟨m₁, hfirst, hrest⟩ := bind_eq_ok hok
    have hnew : name ∉ m.fileNames := not_mem_of_nodup_append hnames
    obtain ⟨body, -, hnodes, hfiles, hdisk⟩ := addFile_frame hfirst hnew
    obtain ⟨hbefore, hfiles', hdisk'⟩ := ih hrest (by simpa [hfiles] using hnames)
    refine ⟨?_, by simp [hfiles', hfiles], hdisk'.trans hdisk⟩
    exact (List.prefix_append _ _).trans (hnodes ▸ hbefore)

/-- What is kept when a file is added under a new name holds of every module that is made from files. -/
theorem ofSources_keeps {p : Module → Prop} (hadd : ∀ {m m' : Module} {name content : String}, p m →
      m.addFile name content = .ok m' → name ∉ m.fileNames → p m')
    {origin : Origin} {disk : String → Option String} {sources : List (String × String)} {m : Module}
    (hempty : p { origin, disk }) (hok : ofSources origin disk sources = .ok m)
    (hnames : (sources.map Prod.fst).Nodup) : p m := by
  have hfold : ∀ {m₀ : Module}, p m₀ → (m₀.fileNames ++ sources.map Prod.fst).Nodup →
      sources.foldlM (fun m (name, content) => m.addFile name content) m₀ = .ok m → p m := by
    clear hempty hok hnames
    induction sources with
    | nil =>
      intro m₀ h _ hok
      cases hok
      exact h
    | cons source rest ih =>
      intro m₀ h hnames hok
      obtain ⟨name, content⟩ := source
      rw [List.foldlM_cons] at hok
      obtain ⟨m₁, hfirst, hrest⟩ := bind_eq_ok hok
      have hnew : name ∉ m₀.fileNames := not_mem_of_nodup_append hnames
      obtain ⟨-, -, -, hfileNames, -⟩ := addFile_frame hfirst hnew
      exact ih (hadd h hfirst hnew) (by simpa [hfileNames] using hnames) hrest
  exact hfold hempty hnames hok

theorem registered_foldlM_addFile {sources : List (String × String)} {m m' : Module} (h : m.Registered)
    (hu : m.UpToDate) (hok : sources.foldlM (fun m (name, content) => m.addFile name content) m = .ok m')
    (hnames : (m.fileNames ++ sources.map Prod.fst).Nodup) (hcount : countOf .terraform m'.nodes ≤ 1) :
    m'.Registered ∧ m'.UpToDate := by
  induction sources generalizing m with
  | nil =>
    cases hok
    exact ⟨h, hu⟩
  | cons source rest ih =>
    obtain ⟨name, content⟩ := source
    rw [List.foldlM_cons] at hok
    obtain ⟨m₁, hfirst, hrest⟩ := bind_eq_ok hok
    have hnew : name ∉ m.fileNames := not_mem_of_nodup_append hnames
    obtain ⟨body, -, -, hfiles, -⟩ := addFile_frame hfirst hnew
    have hnames' : (m₁.fileNames ++ rest.map Prod.fst).Nodup := by simpa [hfiles] using hnames
    have hfewer : countOf .terraform m₁.nodes ≤ countOf .terraform m'.nodes :=
      ((foldlM_addFile_frame hrest hnames').1.sublist.map _).count_le _
    obtain ⟨h₁, hu₁⟩ := registered_addFile h hu hfirst hnew (Nat.le_trans hfewer hcount)
    exact ih h₁ hu₁ hrest hnames'

/-- A module that was made from files is registered and up to date. -/
theorem registered_ofSources {origin : Origin} {disk : String → Option String} {sources : List (String × String)}
    {m : Module} (hok : ofSources origin disk sources = .ok m) (hnames : (sources.map Prod.fst).Nodup)
    (hcount : countOf .terraform m.nodes ≤ 1) :
    m.Registered ∧ m.UpToDate ∧ m.fileNames = sources.map Prod.fst ∧ m.disk = disk := by
  have hempty : Registered { origin, disk } :=
    ⟨List.nodup_nil, ⟨fun _ he => absurd he List.not_mem_nil, List.Perm.nil, List.nodup_nil⟩⟩
  have hcurrent : UpToDate { origin, disk } := fun _ he => absurd he List.not_mem_nil
  obtain ⟨h, hu⟩ := registered_foldlM_addFile hempty hcurrent hok hnames hcount
  obtain ⟨-, hfiles, hdisk⟩ := foldlM_addFile_frame hok hnames
  exact ⟨h, hu, hfiles, hdisk⟩

end Module

end Terrasmith
