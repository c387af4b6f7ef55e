import Terrasmith.Proofs.Printing
import Terrasmith.Proofs.Registry

/-!
What each operation on a module does to its registry. All of them keep the registry in step with the trees. The
snapshots stay up to date as well, except by an operation that changes what a node shows and not the text of its file.
-/
namespace Terrasmith

open Source

/-- The nodes of a tree around those of one structure. -/
theorem Source.Body.nodes_around {b : Body} {i : Nat} {x : Structure} (h : b.structures[i]? = some x) :
    ∃ left right, b.nodes = left ++ x.nodes ++ right ∧
      (∀ (d : Body) (y : Structure), d.structures = b.structures.set i y → d.nodes = left ++ y.nodes ++ right) ∧
      ∀ d : Body, d.structures = b.structures.eraseIdx i → d.nodes = left ++ right := by
  obtain ⟨hnodes, hset, herase⟩ := flatMap_around Structure.nodes h
  refine ⟨_, _, hnodes, fun d y hd => ?_, fun d hd => ?_⟩
  · rw [Body.nodes, hd, hset]
  · rw [Body.nodes, hd, herase]

/-- The body of a new `locals` block. -/
theorem Source.Body.exists_setAttribute_empty (a : Attribute) : ∃ margin,
    Body.setAttribute {} a = { structures := [.attribute { a with lead := margin }] } := by
  rw [Body.setAttribute_eq, show Body.slot? {} (.attribute a) = none from rfl]
  dsimp only
  unfold Structure.unindent
  split
  · exact ⟨"", rfl⟩
  · exact ⟨a.lead, rfl⟩

namespace Module

/-- The nodes of a module around those of one structure. -/
theorem nodes_around {m : Module} {name : String} {file : SourceFile} {i : Nat} {x : Structure}
    (hfile : m.file? name = some file) (hx : file.body.structures[i]? = some x) :
    ∃ left right, m.nodes = left ++ x.nodes.map (name, ·) ++ right ∧
      (∀ (file' : SourceFile) (y : Structure), file'.body.structures = file.body.structures.set i y →
        (m.setFile name file').nodes = left ++ y.nodes.map (name, ·) ++ right) ∧
      ∀ file' : SourceFile, file'.body.structures = file.body.structures.eraseIdx i →
        (m.setFile name file').nodes = left ++ right := by
  obtain ⟨outerLeft, outerRight, hnodes, hsetFile⟩ := nodes_setFile hfile
  obtain ⟨left, right, hbody, hset, herase⟩ := Body.nodes_around hx
  refine ⟨outerLeft ++ left.map (name, ·), right.map (name, ·) ++ outerRight, ?_, fun file' y h => ?_,
    fun file' h => ?_⟩
  · simp [hnodes, hbody]
  · simp [hsetFile, hset _ y h]
  · simp [hsetFile, herase _ h]

theorem registry_around {m : Module} {address : String} {s : Snapshot} (h : m.block? address = some s) :
    ∃ before after, m.registry = before ++ (address, s) :: after ∧
      (∀ s', insertEntry address s' m.registry = before ++ (address, s') :: after) ∧
      eraseEntry address m.registry = before ++ after := by
  obtain ⟨before, after, hsplit, hkey⟩ := lookup_eq_some_split h
  refine ⟨before, after, hsplit, fun s' => ?_, ?_⟩
  · rw [hsplit, insertEntry_split hkey]
  · rw [hsplit, eraseEntry_split hkey]

theorem mem_registry {m : Module} {address : String} {s : Snapshot} (h : m.block? address = some s) :
    (address, s) ∈ m.registry := by
  obtain ⟨before, after, hsplit, -⟩ := registry_around h
  simp [hsplit]

/-- A registered module after a change of it: the registry follows, and the snapshots stay up to date unless the
change is masked. -/
structure Follows (m m' : Module) : Prop where
  registered : m'.Registered
  upToDate : m.UpToDate → (m'.UpToDate ↔ ¬ Masked m m')

theorem Registered.not_masked_self {m : Module} (h : m.Registered) : ¬ Masked m m :=
  not_masked_of_viewsKept (h.entries.viewsKept_of_subset fun p hp => ⟨p, hp, rfl⟩)

theorem Registered.follows_self {m : Module} (h : m.Registered) : Follows m m :=
  ⟨h, fun hu => ⟨fun _ => h.not_masked_self, fun _ => hu⟩⟩

theorem Follows.of_upToDate {m m' : Module} (h' : m'.Registered) (hu : m.UpToDate → m'.UpToDate)
    (hmask : ¬ Masked m m') : Follows m m' :=
  ⟨h', fun h => ⟨fun _ => hmask, fun _ => hu h⟩⟩

/-- A change that leaves the text of a file and the registry alone is masked exactly if it changes what nodes show. -/
theorem follows_of_same_text {m : Module} {name : String} {file file' : SourceFile} (h : m.Registered)
    (hfile : m.file? name = some file) (htext : file.body.render = file'.body.render)
    (h' : (m.setFile name file').Registered) : Follows m (m.setFile name file') := by
  refine ⟨h', fun hu => ?_⟩
  rw [show (m.setFile name file').UpToDate ↔ ViewsKept m.nodes (m.setFile name file').nodes from
    current_iff_viewsKept h.entries hu]
  refine ⟨not_masked_of_viewsKept, fun hmask p hp p' hp' haddress => ?_⟩
  by_contra hview
  have htag : tagOf p = tagOf p' := by
    obtain ⟨e, he, htag⟩ := h.entries.exists_entry hp
    rw [htag, h'.entries.tag_eq he hp' (haddress.symm.trans (address_eq_of_tag htag))]
  have hsame : p.1 = p'.1 := (Prod.mk.inj htag).1
  obtain ⟨f, hf, hn⟩ := exists_file_of_mem_nodes h.files hp
  obtain ⟨f', hf', hn'⟩ := exists_file_of_mem_nodes h'.files hp'
  by_cases hname : p.1 = name
  · obtain rfl : f = file := by rw [hname, hfile] at hf; exact (Option.some.inj hf).symm
    obtain rfl : f' = file' := by
      rw [← hsame, hname, file?_setFile_self] at hf'
      exact (Option.some.inj hf').symm
    exact hmask ⟨name, f, f', hfile, file?_setFile_self .., htext, p.2, hn, p'.2, hn', haddress, hview⟩
  · have hother : (m.setFile name file').file? p.1 = m.file? p.1 := lookup_insertEntry_of_ne hname file' m.files
    obtain rfl : f' = f := by
      rw [← hsame, hother, hf] at hf'
      exact (Option.some.inj hf').symm
    have heq := h.entries.node_unique hp (mem_nodes_of_file? hf hn') haddress
    exact hview (by rw [heq])

/-- A change of the text of a file is not masked. -/
theorem not_masked_of_text {m m' : Module} {name : String} {file file' : SourceFile} (h : m.Registered)
    (hfile : m.file? name = some file) (htext : file'.body.render ≠ file.body.render)
    (hfiles : m'.files = insertEntry name file' m.files) : ¬ Masked m m' := by
  rintro ⟨other, f, f', hf, hf', hrender, n, hn, n', hn', haddress, hview⟩
  unfold file? at hf'
  rw [hfiles] at hf'
  by_cases hname : other = name
  · subst hname
    rw [lookup_insertEntry_self] at hf'
    obtain rfl : file' = f' := Option.some.inj hf'
    obtain rfl : file = f := by rw [hfile] at hf; exact Option.some.inj hf
    exact htext hrender.symm
  · rw [lookup_insertEntry_of_ne hname] at hf'
    obtain rfl : f = f' := by
      rw [file?] at hf
      rw [hf] at hf'
      exact Option.some.inj hf'
    have heq := h.entries.node_unique (mem_nodes_of_file? hf hn) (mem_nodes_of_file? hf hn') haddress
    exact hview (by rw [Prod.mk.inj heq |>.2])

/-- A change of one entry and its node, which keep their address. -/
structure Replaces (m m' : Module) (address : String) (s s' : Snapshot) (p p' : String × TreeNode) : Prop where
  found : m.block? address = some s
  registry : m'.registry = insertEntry address s' m.registry
  nodes : ∃ left right, m.nodes.Perm (left ++ p :: right) ∧ m'.nodes.Perm (left ++ p' :: right)
  tag : tagOf p = s.tag
  tag' : tagOf p' = s'.tag
  address_eq : s'.address = s.address

theorem Replaces.matches {m m' : Module} {address : String} {s s' : Snapshot} {p p' : String × TreeNode}
    (r : Replaces m m' address s s' p p') (h : Matches m.registry m.nodes) : Matches m'.registry m'.nodes := by
  obtain ⟨left, right, hnodes, hnodes'⟩ := r.nodes
  obtain ⟨before, after, hregistry, hinsert, -⟩ := registry_around r.found
  have hentries := h.perm hnodes
  rw [hregistry] at hentries
  rw [r.registry, hinsert]
  exact (hentries.replace r.tag r.tag' r.address_eq).perm hnodes'.symm

theorem Replaces.current {m m' : Module} {address : String} {s s' : Snapshot} {p p' : String × TreeNode}
    (r : Replaces m m' address s s' p p') (h : Matches m.registry m.nodes) (hu : m.UpToDate)
    (hview : s'.view = p'.2.view) : m'.UpToDate := by
  obtain ⟨left, right, hnodes, hnodes'⟩ := r.nodes
  obtain ⟨before, after, hregistry, hinsert, -⟩ := registry_around r.found
  have hregistry' : m'.registry = before ++ (address, s') :: after := r.registry.trans (hinsert s')
  have haddress : p'.2.address = s'.address := address_eq_of_tag r.tag'
  refine hu.extend (r.matches h) (e := (address, s')) (p := p') ?_ ?_ haddress hview ?_ ?_
  · simp [hregistry']
  · exact hnodes'.mem_iff.mpr (by simp)
  · intro d hd
    rw [hregistry'] at hd
    rw [hregistry]
    simp only [List.mem_append, List.mem_cons] at hd ⊢
    tauto
  · intro q hq
    have hq := hnodes'.mem_iff.mp hq
    rw [hnodes.mem_iff]
    simp only [List.mem_append, List.mem_cons] at hq ⊢
    tauto

/-- What a registered block that is not a local has for its header. -/
theorem Site.header {m : Module} {address : String} {s : Snapshot} {file : SourceFile} {i : Nat} {old : Block}
    (hsite : Site m address s file i) (h : m.Registered) (hkind : s.kind ≠ .local)
    (hold : file.body.structures[i]? = some (.block old)) :
    old.ident = s.kind.name ∧ old.labelTexts = s.labels ∧ old.labels.length = s.kind.labelCount := by
  obtain ⟨e, he, hident, htexts⟩ := Snapshot.index?_block_eq_some hkind hsite.placed
  obtain rfl : e = old := by simpa [he] using hold
  refine ⟨hident, htexts, ?_⟩
  obtain ⟨p, hp, htag⟩ := h.entries.exists_node (mem_registry hsite.found)
  obtain ⟨f, -, hn⟩ := exists_file_of_mem_nodes h.files hp
  simp only [tagOf, Snapshot.tag, Prod.mk.injEq] at htag
  have hcount := Body.length_labels_of_mem_nodes hn
  rw [htag.2.1, htag.2.2, ← htexts] at hcount
  simpa [Block.labelTexts] using hcount

/-- A change of one node, after which the snapshot is taken again unless the text is the same. -/
theorem follows_of_rewrite {m : Module} {address : String} {s : Snapshot} {file : SourceFile} {i : Nat}
    {x y : Structure} {left right : List TreeNode} {n n' : TreeNode} {same : Prop} [Decidable same]
    (s' : Snapshot) (h : m.Registered) (hsite : Site m address s file i) (hx : file.body.structures[i]? = some x)
    (hold : x.nodes = left ++ n :: right) (hnew : y.nodes = left ++ n' :: right)
    (htag : tagOf (s.fileName, n) = s.tag) (htag' : tagOf (s.fileName, n') = s.tag) (hs' : s'.tag = s.tag)
    (hview : m.UpToDate → s'.view = n'.view)
    (htext : Body.render { file.body with structures := file.body.structures.set i y } = file.body.render ↔ same) :
    Follows m (if same then
        m.setFile s.fileName { file with body := { file.body with structures := file.body.structures.set i y } }
      else (m.setFile s.fileName { file with
          body := { file.body with structures := file.body.structures.set i y }, changed := true }).setBlock
        address s') := by
  obtain ⟨outerLeft, outerRight, hnodes, hset, -⟩ := nodes_around hsite.stored hx
  have hreplaces : ∀ (file' : SourceFile) (t : Snapshot),
      file'.body.structures = file.body.structures.set i y → t.tag = s.tag →
      Replaces m ((m.setFile s.fileName file').setBlock address t) address s t (s.fileName, n) (s.fileName, n') := by
    intro file' t hfile' ht
    refine ⟨hsite.found, rfl, ⟨outerLeft ++ left.map (s.fileName, ·), right.map (s.fileName, ·) ++ outerRight,
      ?_, ?_⟩, htag, htag'.trans ht.symm, ?_⟩
    · rw [hnodes, hold]
      simp
    · have hfile := hset file' y hfile'
      rw [hnew] at hfile
      exact .of_eq (hfile.trans (by simp))
    · simp only [Snapshot.tag, Prod.mk.injEq] at ht
      rw [Snapshot.address, Snapshot.address, ht.2.1, ht.2.2]
  have hfileNames : ∀ file', (m.setFile s.fileName file').fileNames.Nodup := by
    intro file'
    rw [fileNames_setFile hsite.stored]
    exact h.files
  split
  · -- The text is the same: the registry stays as it is.
    refine follows_of_same_text h hsite.stored (htext.mpr ‹_›).symm ⟨hfileNames _, ?_⟩
    have hmatches := (hreplaces { file with body := { file.body with
      structures := file.body.structures.set i y } } s rfl rfl).matches h.entries
    have hself : insertEntry address s m.registry = m.registry := insertEntry_self hsite.found
    simpa only [setBlock, setFile, hself] using hmatches
  · have r := hreplaces { file with body := { file.body with
      structures := file.body.structures.set i y }, changed := true } s' rfl hs'
    refine .of_upToDate ⟨hfileNames _, r.matches h.entries⟩ (fun hu => r.current h.entries hu (hview hu)) ?_
    exact not_masked_of_text h hsite.stored (fun hsame => absurd (htext.mp hsame) ‹_›) rfl

theorem follows_rewritten {m : Module} {address : String} {s : Snapshot} {file : SourceFile} {i : Nat}
    {old new : Block} (h : m.Registered) (hsite : Site m address s file i) (hkind : s.kind ≠ .local)
    (hold : file.body.structures[i]? = some (.block old)) (hident : new.ident = old.ident)
    (hlabels : new.labels = old.labels) : Follows m (m.rewritten address s file i old new) := by
  obtain ⟨hname, htexts, hcount⟩ := hsite.header h hkind hold
  have htexts' : new.labelTexts = s.labels := by
    rw [← htexts, Block.labelTexts, hlabels]
    rfl
  have hnodes : (Structure.block old).nodes = [] ++ .block s.kind old :: [] := Block.nodes_of_kind hname hkind hcount
  have hnodes' : (Structure.block new).nodes = [] ++ .block s.kind new :: [] :=
    Block.nodes_of_kind (hident.trans hname) hkind (by rw [hlabels, hcount])
  exact follows_of_rewrite (s.refreshBlock new) h hsite hold hnodes hnodes'
    (by simp [tagOf, TreeNode.kind, TreeNode.labels, Snapshot.tag, htexts])
    (by simp [tagOf, TreeNode.kind, TreeNode.labels, Snapshot.tag, htexts'])
    rfl (fun _ => TreeNode.view_refreshBlock s new) (Body.render_set_block_iff hold new)

/-- The nodes of a `locals` block around that of one attribute. -/
theorem nodes_around_attribute {e : Block} {j : Nat} {old : Attribute} (hident : e.ident = "locals")
    (hold : e.body.structures[j]? = some (.attribute old)) :
    ∃ left right, e.nodes = left ++ .declaration old :: right ∧
      (∀ (d : Block) (new : Attribute), d.ident = "locals" →
        d.body.structures = e.body.structures.set j (.attribute new) → d.nodes = left ++ .declaration new :: right) ∧
      ∀ d : Block, d.ident = "locals" → d.body.structures = e.body.structures.eraseIdx j →
        d.nodes = left ++ right := by
  obtain ⟨before, after, hsplit, hset, herase⟩ := set_of_split hold
  refine ⟨(before.filterMap Structure.attribute?).map .declaration,
    (after.filterMap Structure.attribute?).map .declaration, ?_, fun d new hd hstructures => ?_,
    fun d hd hstructures => ?_⟩
  · simp [Block.nodes_of_locals hident, Body.attributes, hsplit]
  · simp [Block.nodes_of_locals hd, Body.attributes, hstructures, hset]
  · simp [Block.nodes_of_locals hd, Body.attributes, hstructures, herase]

theorem key_of_attributeIndex? {b : Body} {name : String} {j : Nat} {a : Attribute}
    (hj : b.attributeIndex? name = some j) (ha : b.structures[j]? = some (.attribute a)) : a.key = name := by
  obtain ⟨hlt, ht, -⟩ := List.findIdx?_eq_some_iff_getElem.mp hj
  obtain ⟨_, hget⟩ := List.getElem?_eq_some_iff.mp ha
  simpa [hget, Structure.isAttribute] using ht

/-- The `locals` block of a local. -/
theorem Site.locals {m : Module} {address name : String} {s : Snapshot} {file : SourceFile} {i : Nat} {e : Block}
    (hsite : Site m address s file i) (hkind : s.kind = .local) (hlabels : s.labels = [name])
    (he : file.body.structures[i]? = some (.block e)) :
    e.ident = "locals" ∧ ∃ a, e.body.attribute? name = some a := by
  obtain ⟨e', a, he', hident, ha⟩ := Snapshot.index?_local_eq_some hkind hlabels hsite.placed
  obtain rfl : e' = e := by simpa [he'] using he
  exact ⟨hident, a, ha⟩

theorem nested_eq_nil_of_view {s : Snapshot} {a : Attribute} (h : s.view = (TreeNode.declaration a).view) :
    s.nested = [] :=
  shownByType_eq_nil.mp (congrArg View.nested h)

theorem follows_revalued {m : Module} {address name : String} {s : Snapshot} {file : SourceFile} {i j : Nat}
    {e : Block} {old : Attribute} (h : m.Registered) (hsite : Site m address s file i) (hkind : s.kind = .local)
    (hlabels : s.labels = [name]) (he : file.body.structures[i]? = some (.block e))
    (hj : e.body.attributeIndex? name = some j) (hold : e.body.structures[j]? = some (.attribute old))
    (v : Expression) : Follows m (m.revalued address s file i e j old (old.withValue v)) := by
  obtain ⟨hident, -⟩ := hsite.locals hkind hlabels he
  have hkey := key_of_attributeIndex? hj hold
  obtain ⟨left, right, hinner, hinnerSet, -⟩ := nodes_around_attribute hident hold
  have htag : tagOf (s.fileName, .declaration old) = s.tag := by
    simp [tagOf, TreeNode.kind, TreeNode.labels, Snapshot.tag, hkind, hlabels, hkey]
  have hview : m.UpToDate → (s.refreshLocal (old.withValue v)).view =
      (TreeNode.declaration (old.withValue v)).view := by
    intro hu
    -- The snapshot was up to date, so it has no nested blocks.
    have hn : TreeNode.declaration old ∈ file.body.nodes :=
      Body.mem_nodes.mpr ⟨e, List.mem_of_getElem? he, by simp [hinner]⟩
    have hold := hu _ (mem_registry hsite.found) _ (mem_nodes_of_file? hsite.stored hn) (address_eq_of_tag htag)
    exact TreeNode.view_refreshLocal hkind (by rw [hlabels, ← hkey]; rfl) (nested_eq_nil_of_view hold)
  exact follows_of_rewrite _ h hsite he hinner (hinnerSet _ (old.withValue v) hident rfl) htag htag rfl hview
    (by rw [Body.render_set_block_iff he, Block.text_set_attribute_iff hold, Attribute.render_withValue_iff]; rfl)

theorem exists_attributeIndex? {b : Body} {name : String} {a : Attribute} (h : b.attribute? name = some a) :
    ∃ j old, b.attributeIndex? name = some j ∧ b.structures[j]? = some (.attribute old) := by
  have hany : b.structures.any (Structure.isAttribute name) = true := by
    rw [← Body.hasAttribute_eq_any, Body.hasAttribute, h]
    rfl
  rw [← List.findIdx?_isSome, Option.isSome_iff_exists] at hany
  obtain ⟨j, hj⟩ := hany
  obtain ⟨hlt, ht, -⟩ := List.findIdx?_eq_some_iff_getElem.mp hj
  have hget := List.getElem?_eq_getElem hlt
  generalize b.structures[j] = x at ht hget
  rcases x with old | e
  · exact ⟨j, old, hj, hget⟩
  · cases ht

/-- The labels of a registered local: its name. -/
theorem Site.labels_local {m : Module} {address : String} {s : Snapshot} {file : SourceFile} {i : Nat}
    (hsite : Site m address s file i) (h : m.Registered) (hkind : s.kind = .local) : ∃ name, s.labels = [name] := by
  obtain ⟨p, hp, htag⟩ := h.entries.exists_node (mem_registry hsite.found)
  obtain ⟨f, -, hn⟩ := exists_file_of_mem_nodes h.files hp
  have hcount := Body.length_labels_of_mem_nodes hn
  simp only [tagOf, Snapshot.tag, Prod.mk.injEq] at htag
  rw [htag.2.1, htag.2.2, hkind] at hcount
  exact List.length_eq_one_iff.mp hcount

/-- A block that is taken out of its file takes its node with it, and no other. -/
theorem nodes_withoutBlock {m : Module} {address : String} {s : Snapshot} {file : SourceFile} {i : Nat}
    (h : m.Registered) (hsite : Site m address s file i) :
    ∃ left n right, tagOf (s.fileName, n) = s.tag ∧ m.nodes = left ++ (s.fileName, n) :: right ∧
      ∀ file' : SourceFile, file'.body.structures = withoutBlock s file.body.structures i →
        (m.setFile s.fileName file').nodes = left ++ right := by
  by_cases hkind : s.kind = .local
  · obtain ⟨name, hlabels⟩ := hsite.labels_local h hkind
    obtain ⟨e, a, he, hident, ha⟩ := Snapshot.index?_local_eq_some hkind hlabels hsite.placed
    obtain ⟨j, old, hj, hold⟩ := exists_attributeIndex? ha
    have hkey := key_of_attributeIndex? hj hold
    obtain ⟨outerLeft, outerRight, hnodes, hset, herase⟩ := nodes_around hsite.stored he
    obtain ⟨left, right, hinner, -, hinnerErase⟩ := nodes_around_attribute hident hold
    refine ⟨outerLeft ++ left.map (s.fileName, ·), .declaration old, right.map (s.fileName, ·) ++ outerRight,
      ?_, ?_, fun file' hfile' => ?_⟩
    · simp [tagOf, TreeNode.kind, TreeNode.labels, Snapshot.tag, hkind, hlabels, hkey]
    · rw [hnodes, Structure.nodes, hinner]
      simp
    · have hrest := hinnerErase { e with body := { e.body with structures := e.body.structures.eraseIdx j } } hident rfl
      simp only [withoutBlock, hkind, hlabels, he, hj] at hfile'
      split at hfile'
      · -- Nothing else was declared there.
        rename_i hempty
        have hnone : left ++ right = [] := by
          rw [← hinnerErase { e with body := {} } hident (List.isEmpty_iff.mp hempty).symm]
          simp [Block.nodes, hident, Body.attributes]
        obtain ⟨rfl, rfl⟩ := List.append_eq_nil_iff.mp hnone
        simpa using herase file' hfile'
      · rw [hset file' _ hfile', Structure.nodes, hrest]
        simp
  · obtain ⟨e, he, hident, htexts⟩ := Snapshot.index?_block_eq_some hkind hsite.placed
    obtain ⟨-, -, hcount⟩ := hsite.header h hkind he
    obtain ⟨left, right, hnodes, -, herase⟩ := nodes_around hsite.stored he
    refine ⟨left, .block s.kind e, right, ?_, ?_, fun file' hfile' => herase file' ?_⟩
    · simp [tagOf, TreeNode.kind, TreeNode.labels, Snapshot.tag, htexts]
    · rw [hnodes, Structure.nodes, Block.nodes_of_kind hident hkind hcount]
      simp
    · rw [hfile', withoutBlock_of_kind hkind]

theorem follows_removed {m : Module} {address : String} {s : Snapshot} {file file' : SourceFile} {i : Nat}
    (h : m.Registered) (hsite : Site m address s file i)
    (hfile' : file'.body.structures = withoutBlock s file.body.structures i) :
    Follows m { m.setFile s.fileName file' with registry := eraseEntry address m.registry } := by
  obtain ⟨left, n, right, htag, hnodes, hwithout⟩ := nodes_withoutBlock h hsite
  obtain ⟨before, after, hregistry, -, herase⟩ := registry_around hsite.found
  have hnodes' := hwithout file' hfile'
  have hentries := h.entries
  rw [hregistry, hnodes] at hentries
  have hsub : ∀ p ∈ left ++ right, p ∈ m.nodes := by
    intro p hp
    rw [hnodes]
    simp only [List.mem_append, List.mem_cons] at hp ⊢
    tauto
  refine .of_upToDate ⟨?_, ?_⟩ (fun hu => ?_) (not_masked_of_viewsKept ?_)
  · have hnames := fileNames_setFile hsite.stored file'
    exact hnames ▸ h.files
  · have hmatches := hentries.erase htag
    rw [← herase, ← hnodes'] at hmatches
    exact hmatches
  · intro e he p hp haddress
    have hp : p ∈ left ++ right := hnodes' ▸ hp
    have he : e ∈ before ++ after := herase ▸ he
    refine hu e ?_ p (hsub p hp) haddress
    rw [hregistry]
    simp only [List.mem_append, List.mem_cons] at he ⊢
    tauto
  · refine h.entries.viewsKept_of_subset fun p hp => ⟨p, hsub p (hnodes' ▸ hp), rfl⟩

theorem fileNames_nodup_setFile {m : Module} (h : m.fileNames.Nodup) (name : String) (file : SourceFile) :
    (m.setFile name file).fileNames.Nodup := by
  cases hfile : m.file? name with
  | some old => rwa [fileNames_setFile hfile]
  | none =>
    have hnew : name ∉ m.fileNames := by
      intro hmem
      obtain ⟨⟨other, f⟩, hf, rfl⟩ := List.mem_map.mp hmem
      rw [file?_of_mem h hf] at hfile
      cases hfile
    unfold file? at hfile
    simpa [fileNames, setFile, insertEntry_of_lookup_eq_none hfile, List.nodup_append_comm, fileNames] using
      And.intro hnew h

/-- A file that can be appended to without reading it: it is loaded, or there is none. -/
def Loaded (m : Module) (name : String) : Prop := name ∈ m.fileNames ∨ m.disk name = none

theorem fileOrDisk_nodes {m : Module} {name : String} (h : Loaded m name) (hfile : m.file? name = none) :
    (m.fileOrDisk name).body = {} := by
  have hdisk : m.disk name = none := by
    rcases h with h | h
    · obtain ⟨⟨other, f⟩, hf, rfl⟩ := List.mem_map.mp h
      rw [file?, List.lookup_eq_none_iff] at hfile
      simpa using hfile _ hf
    · exact h
  simp [fileOrDisk, hfile, hdisk]

/-- Appending a block adds its nodes, whatever stands before it. -/
theorem nodes_appendStructure {m : Module} {name : String} (h : Loaded m name) (b : Block) :
    ∃ lead, (m.appendStructure name (.block b)).nodes.Perm
      ((Block.nodes { b with lead }).map (name, ·) ++ m.nodes) := by
  let file := m.fileOrDisk name
  let lead := if file.body.structures.isEmpty then Body.dropMargin b.lead else "\n" ++ Body.dropMargin b.lead
  have hpush : (file.body.pushRoot (.block b)).nodes = file.body.nodes ++ Block.nodes { b with lead } := by
    simp [Body.pushRoot, Body.push, Structure.withLead, Body.nodes, Structure.nodes, lead, Structure.lead]
  refine ⟨lead, ?_⟩
  have happend : (m.appendStructure name (.block b)) =
      m.setFile name { file with body := file.body.pushRoot (.block b), changed := true } := rfl
  rw [happend]
  cases hfile : m.file? name with
  | some old =>
    obtain ⟨left, right, hnodes, hset⟩ := nodes_setFile hfile
    have hold : file = old := by simp [file, fileOrDisk, hfile]
    rw [hset, hnodes, hpush, hold, List.map_append]
    simp only [List.append_assoc]
    exact ((List.perm_append_comm_assoc ..).append_left left).trans (List.perm_append_comm_assoc ..)
  | none =>
    rw [nodes_setFile_new hfile, hpush, fileOrDisk_nodes h hfile]
    simpa [Body.nodes] using List.perm_append_comm

theorem Replaces.viewsKept {m m' : Module} {address : String} {s s' : Snapshot} {p p' : String × TreeNode}
    (r : Replaces m m' address s s' p p') (h : Matches m.registry m.nodes) (hview : p'.2.view = p.2.view) :
    ViewsKept m.nodes m'.nodes := by
  obtain ⟨left, right, hnodes, hnodes'⟩ := r.nodes
  have hp : p ∈ m.nodes := hnodes.mem_iff.mpr (by simp)
  have haddress : p'.2.address = p.2.address := by
    rw [address_eq_of_tag r.tag', address_eq_of_tag r.tag, r.address_eq]
  intro q hq q' hq' hqq'
  have hmem := hnodes'.mem_iff.mp hq'
  simp only [List.mem_append, List.mem_cons] at hmem
  by_cases hnew : q' = p'
  · subst hnew
    rw [h.node_unique hq hp (hqq'.trans haddress), hview]
  · have hq'' : q' ∈ m.nodes := hnodes.mem_iff.mpr (by simp only [List.mem_append, List.mem_cons]; tauto)
    rw [h.node_unique hq hq'' hqq']

theorem follows_moved {m : Module} {address fileName : String} {s : Snapshot} {file : SourceFile} {i : Nat}
    {x : Structure} (h : m.Registered) (hsite : Site m address s file i) (hkind : s.kind ≠ .local)
    (hx : file.body.structures[i]? = some x) (hloaded : Loaded m fileName) (file' : SourceFile)
    (hfile' : file'.body.structures = file.body.structures.eraseIdx i) :
    Follows m (((m.setFile s.fileName file').appendStructure fileName x).setBlock address (s.movedTo fileName)) := by
  obtain ⟨e, he, hident, htexts⟩ := Snapshot.index?_block_eq_some hkind hsite.placed
  obtain rfl : .block e = x := by simpa [he] using hx
  obtain ⟨-, -, hcount⟩ := hsite.header h hkind he
  obtain ⟨left, right, hnodes, -, herase⟩ := nodes_around hsite.stored he
  rw [Structure.nodes, Block.nodes_of_kind hident hkind hcount] at hnodes
  have hloaded' : Loaded (m.setFile s.fileName file') fileName := by
    unfold Loaded
    rw [fileNames_setFile hsite.stored]
    exact hloaded
  obtain ⟨lead, happend⟩ := nodes_appendStructure hloaded' e
  rw [Block.nodes_of_kind (b := { e with lead }) hident hkind hcount, herase file' hfile'] at happend
  have r : Replaces m (((m.setFile s.fileName file').appendStructure fileName (.block e)).setBlock address
      (s.movedTo fileName)) address s (s.movedTo fileName) (s.fileName, .block s.kind e)
      (fileName, .block s.kind { e with lead }) := by
    refine ⟨hsite.found, rfl, ⟨left, right, .of_eq (hnodes.trans (by simp)), ?_⟩, ?_, ?_, rfl⟩
    · rw [List.map_singleton, List.singleton_append] at happend
      exact happend.trans List.perm_middle.symm
    · simp [tagOf, TreeNode.kind, TreeNode.labels, Snapshot.tag, htexts]
    · simpa [tagOf, TreeNode.kind, TreeNode.labels, Snapshot.tag, Snapshot.movedTo, Block.labelTexts] using htexts
  have hp : (s.fileName, TreeNode.block s.kind e) ∈ m.nodes := by simp [hnodes]
  refine .of_upToDate ⟨?_, r.matches h.entries⟩ (fun hu => r.current h.entries hu ?_)
    (not_masked_of_viewsKept (r.viewsKept h.entries rfl))
  · exact fileNames_nodup_setFile (fileNames_nodup_setFile h.files _ _) _ _
  · have hview : s.view = (TreeNode.block s.kind e).view :=
      hu (address, s) (mem_registry hsite.found) _ hp (address_eq_of_tag r.tag)
    exact hview

/-- A new entry with a new node. -/
theorem follows_inserted {m m' : Module} {key : String} {s : Snapshot} {p : String × TreeNode} (h : m.Registered)
    (hfiles : m'.fileNames.Nodup) (hnew : m.contains key = false)
    (hregistry : m'.registry = insertEntry key s m.registry) (hnodes : m'.nodes.Perm (p :: m.nodes))
    (htag : tagOf p = s.tag) (hkey : key = s.address) (hview : s.view = p.2.view) : Follows m m' := by
  have hnone : m.registry.lookup key = none := by simpa [contains, block?] using hnew
  rw [insertEntry_of_lookup_eq_none hnone] at hregistry
  have hfresh : key ∉ m.registry.map Prod.fst := by
    intro hmem
    obtain ⟨e, he, rfl⟩ := List.mem_map.mp hmem
    rw [List.lookup_eq_none_iff] at hnone
    simpa using hnone e he
  have hmatches : Matches m'.registry m'.nodes := by
    rw [hregistry]
    exact (h.entries.insert htag hkey hfresh).perm hnodes.symm
  have hp : p ∈ m'.nodes := hnodes.mem_iff.mpr (by simp)
  refine .of_upToDate ⟨hfiles, hmatches⟩ (fun hu => ?_) (not_masked_of_viewsKept ?_)
  · refine hu.extend hmatches (e := (key, s)) (by simp [hregistry]) hp (address_eq_of_tag htag) hview ?_ ?_
    · intro d hd
      rw [hregistry] at hd
      simp only [List.mem_append, List.mem_singleton] at hd
      tauto
    · intro q hq
      exact List.mem_cons.mp (hnodes.mem_iff.mp hq)
  · intro q hq q' hq' haddress
    rcases List.mem_cons.mp (hnodes.mem_iff.mp hq') with rfl | hq'
    · have hmem := h.entries.keys_perm.mem_iff.mpr (List.mem_map_of_mem (f := fun p => p.2.address) hq)
      rw [haddress, address_eq_of_tag htag, ← hkey] at hmem
      exact absurd hmem hfresh
    · rw [h.entries.node_unique hq hq' haddress]

theorem follows_addBlock {m : Module} {kind : BlockKind} {b : Block} {fileName : String} (h : m.Registered)
    (hident : b.ident = kind.name) (hkind : kind ≠ .local) (hcount : b.labels.length = kind.labelCount)
    (hnew : m.contains (kind.address b.labelTexts) = false) (hloaded : Loaded m fileName) :
    Follows m ((m.appendStructure fileName (.block b)).setBlock (kind.address b.labelTexts)
      (.ofNewBlock kind b fileName m.origin)) := by
  obtain ⟨lead, happend⟩ := nodes_appendStructure hloaded b
  rw [Block.nodes_of_kind (b := { b with lead }) hident hkind hcount] at happend
  exact follows_inserted h (fileNames_nodup_setFile h.files _ _) hnew rfl
    (p := (fileName, .block kind { b with lead })) happend rfl rfl rfl

theorem follows_addLocal {m : Module} {a : Attribute} {fileName : String} (h : m.Registered)
    (hnew : m.contains (BlockKind.local.address [a.key]) = false) (hloaded : Loaded m fileName) :
    Follows m ((m.appendStructure fileName (.block { ident := "locals", body := Body.setAttribute {} a })).setBlock
      (BlockKind.local.address [a.key]) (.ofNewLocal a fileName m.origin)) := by
  obtain ⟨lead, happend⟩ := nodes_appendStructure hloaded { ident := "locals", body := Body.setAttribute {} a }
  obtain ⟨margin, hset⟩ := Body.exists_setAttribute_empty a
  have hlocal : Block.nodes { ident := "locals", body := Body.setAttribute {} a, lead } =
      [.declaration { a with lead := margin }] := by
    rw [Block.nodes_of_locals rfl, hset]
    rfl
  rw [hlocal] at happend
  exact follows_inserted h (fileNames_nodup_setFile h.files _ _) hnew rfl
    (p := (fileName, .declaration { a with lead := margin })) happend rfl rfl rfl

theorem tag_refresh (s : Snapshot) (n : TreeNode) : (s.refresh n).tag = s.tag := by
  cases n <;> rfl

theorem tag_refreshed (s : Snapshot) (b : Body) : ((refreshed? s b).getD s).tag = s.tag := by
  rw [Snapshot.refreshed?_eq]
  cases s.node? b with
  | none => rfl
  | some n => exact tag_refresh s n

/-- An up-to-date local has no nested blocks. -/
theorem nested_of_upToDate {m : Module} (h : m.Registered) (hu : m.UpToDate) {e : String × Snapshot}
    (he : e ∈ m.registry) (hkind : e.2.kind = .local) : e.2.nested = [] := by
  obtain ⟨⟨name, n⟩, hp, htag⟩ := h.entries.exists_node he
  obtain ⟨f, -, hn⟩ := exists_file_of_mem_nodes h.files hp
  have hview := hu e he _ hp (address_eq_of_tag htag)
  cases n with
  | declaration a => exact nested_eq_nil_of_view hview
  | block kind b =>
    obtain ⟨d, -, hd⟩ := Body.mem_nodes.mp hn
    have hsame : kind = e.2.kind := (Prod.mk.inj (Prod.mk.inj htag).2).1
    exact absurd (hsame.trans hkind) (Block.mem_nodes_block hd).2.2.1

theorem view_refresh {s : Snapshot} {n : TreeNode} (hkind : n.kind = s.kind) (hlabels : n.labels = s.labels)
    (hnested : s.kind = .local → s.nested = []) : (s.refresh n).view = n.view := by
  cases n with
  | block kind b =>
    obtain rfl : kind = s.kind := hkind
    rfl
  | declaration a => exact TreeNode.view_refreshLocal hkind.symm hlabels.symm (hnested hkind.symm)

theorem map_tagOf_setFile {m : Module} {name : String} {file file' : SourceFile} (hfile : m.file? name = some file)
    (htags : file'.body.nodes.map (fun n => (n.kind, n.labels)) = file.body.nodes.map fun n => (n.kind, n.labels)) :
    (m.setFile name file').nodes.map tagOf = m.nodes.map tagOf := by
  obtain ⟨left, right, hnodes, hset⟩ := nodes_setFile hfile
  have hname := congrArg (List.map fun t => (name, t)) htags
  simp only [List.map_map] at hname
  rw [hset, hnodes]
  simp only [List.map_append, List.map_map]
  rw [show (tagOf ∘ fun n => (name, n)) = ((fun t => (name, t)) ∘ fun n : TreeNode => (n.kind, n.labels)) from rfl,
    hname]

/-- Another tree for a file, in which every node keeps its kind and labels. -/
theorem follows_replaceBody {m : Module} {name : String} {file : SourceFile} {b : Body} (h : m.Registered)
    (hfile : m.file? name = some file)
    (htags : b.nodes.map (fun n => (n.kind, n.labels)) = file.body.nodes.map fun n => (n.kind, n.labels)) :
    Follows m (m.replaceBody name file b) := by
  have hnodes : ∀ file' : SourceFile, file'.body = b →
      (m.setFile name file').nodes.map tagOf = m.nodes.map tagOf := by
    intro file' hbody
    exact map_tagOf_setFile hfile (by rw [hbody, htags])
  have hfiles : ∀ file', (m.setFile name file').fileNames.Nodup := by
    intro file'
    rw [fileNames_setFile hfile]
    exact h.files
  unfold replaceBody
  split
  · exact follows_of_same_text h hfile (by simpa using (‹b.render = file.body.render›).symm)
      ⟨hfiles _, h.entries.congr rfl (hnodes _ rfl)⟩
  · let m' := (m.setFile name { file with body := b, changed := true }).refreshFile name b
    have hentries : m'.registry.map (fun e => (e.1, e.2.tag)) = m.registry.map fun e => (e.1, e.2.tag) := by
      simp only [m', refreshFile, setFile, List.map_map]
      refine List.map_congr_left fun e _ => ?_
      simp only [Function.comp_apply, Prod.mk.injEq, true_and]
      split
      · exact tag_refreshed e.2 b
      · rfl
    have hmatches : Matches m'.registry m'.nodes := h.entries.congr hentries (hnodes _ rfl)
    refine .of_upToDate ⟨hfiles _, hmatches⟩ (fun hu => ?_) (not_masked_of_text h hfile ‹_› rfl)
    intro d hd p hp haddress
    obtain ⟨e, he, rfl⟩ := List.mem_map.mp hd
    have htag := hmatches.tag_eq hd hp haddress
    obtain ⟨f, hf, hn⟩ := exists_file_of_mem_nodes (m := m') (hfiles _) hp
    by_cases hname : e.2.fileName = name
    · simp only [hname, if_true, tag_refreshed] at htag ⊢
      obtain ⟨hplace, hkind, hlabels⟩ : p.1 = name ∧ p.2.kind = e.2.kind ∧ p.2.labels = e.2.labels := by
        simpa [tagOf, Snapshot.tag, hname] using htag
      have hself : m'.file? name = some { file with body := b, changed := true } := file?_setFile_self ..
      obtain rfl : { file with body := b, changed := true } = f := by
        rw [hplace, hself] at hf
        exact Option.some.inj hf
      -- The entry is taken again from the node that its locator finds, which is that of its address.
      obtain ⟨found, hfound, hnode, hkind', hlabels'⟩ := Snapshot.exists_node? hn hkind hlabels
      have hsame := hmatches.node_unique hp (mem_nodes_of_file? (m := m') hself hfound)
        (by rw [TreeNode.address, TreeNode.address, hkind, hlabels, hkind', hlabels'])
      rw [Snapshot.refreshed?_eq, hnode, hsame]
      exact view_refresh hkind' hlabels' (nested_of_upToDate h hu he)
    · simp only [hname, if_false] at htag haddress ⊢
      have hother : m'.file? p.1 = m.file? p.1 :=
        lookup_insertEntry_of_ne (by rw [(Prod.mk.inj htag).1]; exact hname) _ m.files
      exact hu e he p (mem_nodes_of_file? (hother ▸ hf) hn) haddress

end Module

end Terrasmith
