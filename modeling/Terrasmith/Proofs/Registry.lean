import Mathlib.Data.List.Nodup
import Mathlib.Data.List.Perm.Basic
import Terrasmith.Proofs.Nodes
import Terrasmith.Proofs.Operations

/-!
The registry and the trees. A registry matches the nodes of the trees if its entries are theirs, one for one, and it
is current if its snapshots show what the nodes show. Both are relations between two lists, and the changes of a
module replace, remove or add one element of each.
-/
namespace Terrasmith

open Source

/-- The file, kind and labels of a block. -/
def Snapshot.tag (s : Snapshot) : String × BlockKind × List String := (s.fileName, s.kind, s.labels)

/-- The file, kind and labels of a node. -/
def tagOf (p : String × TreeNode) : String × BlockKind × List String := (p.1, p.2.kind, p.2.labels)

theorem address_eq_of_tag {p : String × TreeNode} {s : Snapshot} (h : tagOf p = s.tag) : p.2.address = s.address := by
  simp only [tagOf, Snapshot.tag, Prod.mk.injEq] at h
  rw [TreeNode.address, Snapshot.address, h.2.1, h.2.2]

/-- Entries and nodes with the same tags, each address once. -/
structure Matches (registry : List (String × Snapshot)) (nodes : List (String × TreeNode)) : Prop where
  keys : ∀ e ∈ registry, e.1 = e.2.address
  tags : (registry.map fun e => e.2.tag).Perm (nodes.map tagOf)
  distinct : (nodes.map fun p => p.2.address).Nodup

/-- Entries and nodes with the same tags have the same addresses. -/
theorem keys_perm_of_tags {registry : List (String × Snapshot)} {nodes : List (String × TreeNode)}
    (hkeys : ∀ e ∈ registry, e.1 = e.2.address) (htags : (registry.map fun e => e.2.tag).Perm (nodes.map tagOf)) :
    (registry.map Prod.fst).Perm (nodes.map fun p => p.2.address) := by
  have hregistry : registry.map Prod.fst = (registry.map fun e => e.2.tag).map fun t => t.2.1.address t.2.2 := by
    rw [List.map_map]
    exact List.map_congr_left fun e he => hkeys e he
  have hnodes : (nodes.map fun p => p.2.address) = (nodes.map tagOf).map fun t => t.2.1.address t.2.2 := by
    rw [List.map_map]
    rfl
  rw [hregistry, hnodes]
  exact htags.map _

/-- Entries that show what the nodes of their addresses show. -/
def Current (registry : List (String × Snapshot)) (nodes : List (String × TreeNode)) : Prop :=
  ∀ e ∈ registry, ∀ p ∈ nodes, p.2.address = e.2.address → e.2.view = p.2.view

namespace Matches

variable {registry : List (String × Snapshot)} {nodes : List (String × TreeNode)}

theorem exists_node (h : Matches registry nodes) {e : String × Snapshot} (he : e ∈ registry) :
    ∃ p ∈ nodes, tagOf p = e.2.tag := by
  have hmem := h.tags.mem_iff.mp (List.mem_map_of_mem (f := fun e => e.2.tag) he)
  obtain ⟨p, hp, htag⟩ := List.mem_map.mp hmem
  exact ⟨p, hp, htag⟩

theorem exists_entry (h : Matches registry nodes) {p : String × TreeNode} (hp : p ∈ nodes) :
    ∃ e ∈ registry, tagOf p = e.2.tag := by
  have hmem := h.tags.mem_iff.mpr (List.mem_map_of_mem (f := tagOf) hp)
  obtain ⟨e, he, htag⟩ := List.mem_map.mp hmem
  exact ⟨e, he, htag.symm⟩

theorem node_unique (h : Matches registry nodes) {p q : String × TreeNode} (hp : p ∈ nodes) (hq : q ∈ nodes)
    (haddress : p.2.address = q.2.address) : p = q :=
  List.inj_on_of_nodup_map h.distinct hp hq haddress

/-- The node of the address of an entry has the file, kind and labels of the entry. -/
theorem tag_eq (h : Matches registry nodes) {e : String × Snapshot} {p : String × TreeNode} (he : e ∈ registry)
    (hp : p ∈ nodes) (haddress : p.2.address = e.2.address) : tagOf p = e.2.tag := by
  obtain ⟨q, hq, htag⟩ := h.exists_node he
  rw [h.node_unique hp hq (haddress.trans (address_eq_of_tag htag).symm), htag]

theorem keys_perm (h : Matches registry nodes) :
    (registry.map Prod.fst).Perm (nodes.map fun p => p.2.address) :=
  keys_perm_of_tags h.keys h.tags

theorem keys_nodup (h : Matches registry nodes) : (registry.map Prod.fst).Nodup :=
  h.keys_perm.nodup_iff.mpr h.distinct

theorem perm {nodes' : List (String × TreeNode)} (h : Matches registry nodes) (hp : nodes.Perm nodes') :
    Matches registry nodes' where
  keys := h.keys
  tags := h.tags.trans (hp.map _)
  distinct := (hp.map _).nodup_iff.mp h.distinct

theorem congr {registry' : List (String × Snapshot)} {nodes' : List (String × TreeNode)} (h : Matches registry nodes)
    (hentries : registry'.map (fun e => (e.1, e.2.tag)) = registry.map fun e => (e.1, e.2.tag))
    (hnodes : nodes'.map tagOf = nodes.map tagOf) : Matches registry' nodes' where
  keys := by
    intro e he
    have hmem : (e.1, e.2.tag) ∈ registry.map fun e => (e.1, e.2.tag) :=
      hentries ▸ List.mem_map_of_mem (f := fun e => (e.1, e.2.tag)) he
    obtain ⟨d, hd, hde⟩ := List.mem_map.mp hmem
    simp only [Prod.mk.injEq, Snapshot.tag] at hde
    rw [← hde.1, h.keys d hd, Snapshot.address, Snapshot.address, hde.2.2.1, hde.2.2.2]
  tags := by
    have htags := congrArg (List.map Prod.snd) hentries
    simp only [List.map_map] at htags
    rw [hnodes, show (registry'.map fun e => e.2.tag) = registry.map fun e => e.2.tag from htags]
    exact h.tags
  distinct := by
    have haddress := congrArg (List.map fun t : String × BlockKind × List String => t.2.1.address t.2.2) hnodes
    simp only [List.map_map] at haddress
    rw [show (nodes'.map fun p => p.2.address) = nodes.map fun p => p.2.address from haddress]
    exact h.distinct

/-- New entries for new nodes, all with keys of their own. -/
theorem append {added : List Snapshot} {extra : List (String × TreeNode)} (h : Matches registry nodes)
    (htags : added.map Snapshot.tag = extra.map tagOf)
    (hnodup : ((registry ++ added.map fun s => (s.address, s)).map Prod.fst).Nodup) :
    Matches (registry ++ added.map fun s => (s.address, s)) (nodes ++ extra) := by
  have hkeys : ∀ e ∈ registry ++ added.map fun s => (s.address, s), e.1 = e.2.address := by
    intro e he
    rcases List.mem_append.mp he with he | he
    · exact h.keys e he
    · obtain ⟨s, -, rfl⟩ := List.mem_map.mp he
      rfl
  have hperm : ((registry ++ added.map fun s => (s.address, s)).map fun e => e.2.tag).Perm
      ((nodes ++ extra).map tagOf) := by
    rw [List.map_append, List.map_append, List.map_map, ← htags]
    exact h.tags.append_right _
  exact ⟨hkeys, hperm, (keys_perm_of_tags hkeys hperm).nodup_iff.mp hnodup⟩

variable {before after : List (String × Snapshot)} {left right : List (String × TreeNode)} {key : String}
  {s s' : Snapshot} {p p' : String × TreeNode}

/-- The entries and nodes beside one that belong together. -/
theorem rest_tags (h : Matches (before ++ (key, s) :: after) (left ++ p :: right)) (hp : tagOf p = s.tag) :
    ((before ++ after).map fun e => e.2.tag).Perm ((left ++ right).map tagOf) := by
  have htags := h.tags
  rw [List.map_append, List.map_cons, List.map_append, List.map_cons, hp] at htags
  have hcons := List.perm_middle.symm.trans (htags.trans List.perm_middle)
  rw [List.map_append, List.map_append]
  exact hcons.cons_inv

theorem replace (h : Matches (before ++ (key, s) :: after) (left ++ p :: right)) (hp : tagOf p = s.tag)
    (hp' : tagOf p' = s'.tag) (haddress : s'.address = s.address) :
    Matches (before ++ (key, s') :: after) (left ++ p' :: right) where
  keys := by
    intro e he
    rcases List.mem_append.mp he with he | he
    · exact h.keys e (List.mem_append_left _ he)
    · rcases List.mem_cons.mp he with rfl | he
      · exact (h.keys (key, s) (by simp)).trans haddress.symm
      · exact h.keys e (by simp [he])
  tags := by
    have hrest := rest_tags h hp
    rw [List.map_append, List.map_append] at hrest
    rw [List.map_append, List.map_cons, List.map_append, List.map_cons, hp']
    exact List.perm_middle.trans ((hrest.cons _).trans List.perm_middle.symm)
  distinct := by
    have hsame : p'.2.address = p.2.address := by
      rw [address_eq_of_tag hp', address_eq_of_tag hp, haddress]
    have hdistinct := h.distinct
    rw [List.map_append, List.map_cons] at hdistinct ⊢
    rwa [hsame]

theorem erase (h : Matches (before ++ (key, s) :: after) (left ++ p :: right)) (hp : tagOf p = s.tag) :
    Matches (before ++ after) (left ++ right) where
  keys := by
    intro e he
    rcases List.mem_append.mp he with he | he
    · exact h.keys e (List.mem_append_left _ he)
    · exact h.keys e (by simp [he])
  tags := rest_tags h hp
  distinct := by
    have hsub : (left ++ right).Sublist (left ++ p :: right) :=
      (List.Sublist.refl left).append (List.sublist_cons_self p right)
    exact (hsub.map _).nodup h.distinct

theorem insert (h : Matches registry nodes) (hp : tagOf p = s.tag) (hkey : key = s.address)
    (hnew : key ∉ registry.map Prod.fst) : Matches (registry ++ [(key, s)]) (p :: nodes) where
  keys := by
    intro e he
    rcases List.mem_append.mp he with he | he
    · exact h.keys e he
    · obtain rfl := List.mem_singleton.mp he
      exact hkey
  tags := by
    rw [List.map_append, List.map_cons, List.map_nil, List.map_cons, hp]
    exact List.perm_append_singleton _ _ |>.trans (h.tags.cons _)
  distinct := by
    rw [List.map_cons, List.nodup_cons]
    refine ⟨fun hmem => hnew ?_, h.distinct⟩
    rw [hkey, ← address_eq_of_tag hp]
    exact h.keys_perm.mem_iff.mpr hmem

end Matches

/-- A current registry stays current when one entry and its node are new and show the same. -/
theorem Current.extend {registry registry' : List (String × Snapshot)} {nodes nodes' : List (String × TreeNode)}
    (hc : Current registry nodes) (h' : Matches registry' nodes') {e : String × Snapshot} {p : String × TreeNode}
    (he : e ∈ registry') (hp : p ∈ nodes') (haddress : p.2.address = e.2.address) (hview : e.2.view = p.2.view)
    (hentries : ∀ d ∈ registry', d = e ∨ d ∈ registry) (hnodes : ∀ q ∈ nodes', q = p ∨ q ∈ nodes) :
    Current registry' nodes' := by
  intro d hd q hq hdq
  rcases hnodes q hq with rfl | hq'
  · -- The keys are distinct, so the new node is only compared with the new entry.
    have hkey : d.1 = e.1 := by rw [h'.keys d hd, h'.keys e he, ← hdq, haddress]
    rw [List.inj_on_of_nodup_map h'.keys_nodup hd he hkey, hview]
  · rcases hentries d hd with rfl | hd'
    · rw [h'.node_unique hq hp (hdq.trans haddress.symm), hview]
    · exact hc d hd' q hq' hdq

/-- Nodes that show in another list what they showed. -/
def ViewsKept (nodes nodes' : List (String × TreeNode)) : Prop :=
  ∀ p ∈ nodes, ∀ p' ∈ nodes', p.2.address = p'.2.address → p.2.view = p'.2.view

/-- A registry that was current and stays as it is, is current exactly if the nodes show what they showed. -/
theorem current_iff_viewsKept {registry : List (String × Snapshot)} {nodes nodes' : List (String × TreeNode)}
    (h : Matches registry nodes) (hc : Current registry nodes) :
    Current registry nodes' ↔ ViewsKept nodes nodes' := by
  constructor
  · intro hc' p hp p' hp' haddress
    obtain ⟨e, he, htag⟩ := h.exists_entry hp
    have hpe := address_eq_of_tag htag
    rw [← hc e he p hp hpe, hc' e he p' hp' (haddress.symm.trans hpe)]
  · intro hkept e he p' hp' haddress
    obtain ⟨p, hp, htag⟩ := h.exists_node he
    have hpe := address_eq_of_tag htag
    rw [hc e he p hp hpe, hkept p hp p' hp' (hpe.trans haddress.symm)]

theorem Matches.viewsKept_of_subset {registry : List (String × Snapshot)} {nodes nodes' : List (String × TreeNode)}
    (h : Matches registry nodes) (hsub : ∀ p' ∈ nodes', ∃ p ∈ nodes, p.2 = p'.2) : ViewsKept nodes nodes' := by
  intro p hp p' hp' haddress
  obtain ⟨q, hq, hqp⟩ := hsub p' hp'
  rw [h.node_unique hp hq (by rw [haddress, hqp]), hqp]

namespace Module

/-- The registry of a module follows its trees: it has an entry for every node. -/
structure Registered (m : Module) : Prop where
  files : m.fileNames.Nodup
  entries : Matches m.registry m.nodes

/-- The snapshots of a module show what its trees say. -/
def UpToDate (m : Module) : Prop := Current m.registry m.nodes

/-- A change that no text tells: a file reads as before, but one of its nodes shows something else. -/
def Masked (m m' : Module) : Prop :=
  ∃ name file file', m.file? name = some file ∧ m'.file? name = some file' ∧
    file.body.render = file'.body.render ∧
    ∃ n ∈ file.body.nodes, ∃ n' ∈ file'.body.nodes, n.address = n'.address ∧ n.view ≠ n'.view

theorem mem_nodes_of_file? {m : Module} {name : String} {file : SourceFile} (h : m.file? name = some file)
    {n : TreeNode} (hn : n ∈ file.body.nodes) : (name, n) ∈ m.nodes := by
  obtain ⟨before, after, hfiles, -⟩ := lookup_eq_some_split h
  refine List.mem_flatMap.mpr ⟨(name, file), by simp [hfiles], ?_⟩
  exact List.mem_map_of_mem hn

theorem file?_of_mem {m : Module} (h : m.fileNames.Nodup) {name : String} {file : SourceFile}
    (hmem : (name, file) ∈ m.files) : m.file? name = some file :=
  lookup_of_mem h hmem

theorem exists_file_of_mem_nodes {m : Module} (h : m.fileNames.Nodup) {p : String × TreeNode} (hp : p ∈ m.nodes) :
    ∃ file, m.file? p.1 = some file ∧ p.2 ∈ file.body.nodes := by
  obtain ⟨⟨name, file⟩, hmem, hp⟩ := List.mem_flatMap.mp hp
  obtain ⟨n, hn, rfl⟩ := List.mem_map.mp hp
  exact ⟨file, file?_of_mem h hmem, hn⟩

theorem not_masked_of_viewsKept {m m' : Module} (h : ViewsKept m.nodes m'.nodes) : ¬ Masked m m' := by
  rintro ⟨name, file, file', hfile, hfile', -, n, hn, n', hn', haddress, hview⟩
  exact hview (h _ (mem_nodes_of_file? hfile hn) _ (mem_nodes_of_file? hfile' hn') haddress)

/-- The nodes of a module around those of one file. -/
theorem nodes_setFile {m : Module} {name : String} {file : SourceFile} (h : m.file? name = some file) :
    ∃ left right, m.nodes = left ++ file.body.nodes.map (name, ·) ++ right ∧
      ∀ file', (m.setFile name file').nodes = left ++ file'.body.nodes.map (name, ·) ++ right := by
  obtain ⟨before, after, hfiles, hname⟩ := lookup_eq_some_split h
  refine ⟨before.flatMap fun entry => entry.2.body.nodes.map (entry.1, ·),
    after.flatMap fun entry => entry.2.body.nodes.map (entry.1, ·), ?_, ?_⟩
  · simp [nodes, hfiles]
  · intro file'
    simp [nodes, setFile, hfiles, insertEntry_split hname]

theorem nodes_setFile_new {m : Module} {name : String} (h : m.file? name = none) (file : SourceFile) :
    (m.setFile name file).nodes = m.nodes ++ file.body.nodes.map (name, ·) := by
  unfold file? at h
  simp [nodes, setFile, insertEntry_of_lookup_eq_none h]

theorem fileNames_setFile {m : Module} {name : String} {file : SourceFile} (h : m.file? name = some file)
    (file' : SourceFile) : (m.setFile name file').fileNames = m.fileNames := by
  obtain ⟨before, after, hfiles, hname⟩ := lookup_eq_some_split h
  simp [fileNames, setFile, hfiles, insertEntry_split hname]

end Module

end Terrasmith
