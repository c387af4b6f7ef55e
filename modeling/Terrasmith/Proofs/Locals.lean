import Terrasmith.Proofs.Inventory

/-!
The declarations of locals. A local is declared by an attribute of any `locals` block in any file and registered under
its name. In a module that is made from files no local is declared more often than it is registered, and stays so
through all transforms that append only to files that were loaded or are new.
-/
namespace Terrasmith

open Source

/-- Whether a node declares the local of a name. -/
def TreeNode.isLocal (name : String) (n : TreeNode) : Bool := n.kind = .local && n.labels = [name]

/-- Whether a snapshot is that of the local of a name. -/
def Snapshot.isLocal (name : String) (s : Snapshot) : Bool := s.kind = .local && s.labels = [name]

theorem Snapshot.isLocal_congr {s t : Snapshot} (hkind : s.kind = t.kind) (hlabels : s.labels = t.labels)
    (name : String) : s.isLocal name = t.isLocal name := by
  rw [isLocal, isLocal, hkind, hlabels]

@[simp] theorem Snapshot.isLocal_ofNewLocal (a : Attribute) (fileName name : String) (origin : Origin) :
    (ofNewLocal a fileName origin).isLocal name = decide (a.key = name) := by
  simp [isLocal, ofNewLocal]

@[simp] theorem TreeNode.isLocal_declaration (a : Attribute) (name : String) :
    (TreeNode.declaration a).isLocal name = decide (a.key = name) := by
  simp [isLocal, kind, labels]

namespace Source

variable {b d : Body} {e : Block} {name : String}

/-- How many of the nodes declare the local of a name. -/
def declarationCount (nodes : List TreeNode) (name : String) : Nat := nodes.countP (TreeNode.isLocal name)

@[simp] theorem declarationCount_append (first second : List TreeNode) (name : String) :
    declarationCount (first ++ second) name = declarationCount first name + declarationCount second name :=
  List.countP_append

/-- Locals are declared in `locals` blocks only. -/
theorem Block.declarationCount_eq_zero (h : e.ident ≠ "locals") (name : String) :
    declarationCount e.nodes name = 0 := by
  refine List.countP_eq_zero.mpr fun n hn hlocal => ?_
  cases n with
  | declaration a => exact h (Block.mem_nodes_declaration hn).1
  | block kind e' =>
    rw [TreeNode.isLocal, Bool.and_eq_true] at hlocal
    exact (Block.mem_nodes_block hn).2.2.1 (of_decide_eq_true hlocal.1)

/-- A `locals` block with fewer attributes declares no more. -/
theorem Block.declarationCount_le {body : Body} (h : e.ident = "locals")
    (hsub : body.structures.Sublist e.body.structures) (name : String) :
    declarationCount (Block.nodes { e with body }) name ≤ declarationCount e.nodes name := by
  rw [Block.nodes_of_locals h, Block.nodes_of_locals (b := { e with body }) h]
  exact ((hsub.filterMap Structure.attribute?).map TreeNode.declaration).countP_le

/-- The `locals` block of a local that is removed: it goes if nothing else is in it. -/
theorem exists_withoutBlock_local {s : Snapshot} {structures : List Structure} {i : Nat} {label : String}
    {rest : List String} (hkind : s.kind = .local) (hlabels : s.labels = label :: rest)
    (he : structures[i]? = some (.block e)) : ∃ inner : List Structure,
    inner.Sublist e.body.structures ∧
      (∀ j, e.body.attributeIndex? label = some j → inner = e.body.structures.eraseIdx j) ∧
      (inner = [] ∧ Module.withoutBlock s structures i = structures.eraseIdx i ∨
        Module.withoutBlock s structures i =
          structures.set i (.block { e with body := { e.body with structures := inner } })) := by
  simp only [Module.withoutBlock, hkind, hlabels, he]
  cases e.body.attributeIndex? label with
  | none =>
    refine ⟨e.body.structures, List.Sublist.refl _, fun j hj => absurd hj.symm (Option.some_ne_none j), ?_⟩
    dsimp only
    split
    · exact .inl ⟨List.isEmpty_iff.mp ‹_›, rfl⟩
    · exact .inr rfl
  | some j =>
    refine ⟨e.body.structures.eraseIdx j, List.eraseIdx_sublist .., fun k hk => by rw [Option.some.inj hk], ?_⟩
    dsimp only
    split
    · exact .inl ⟨List.isEmpty_iff.mp ‹_›, rfl⟩
    · exact .inr rfl

/-- A `locals` block without the attribute that declares a local. -/
theorem Block.declarationCount_erase {body : Body} (hident : e.ident = "locals")
    (hdeclares : (e.body.attribute? name).isSome = true)
    (hbody : ∀ j, e.body.attributeIndex? name = some j → body.structures = e.body.structures.eraseIdx j) :
    declarationCount (Block.nodes { e with body }) name + 1 = declarationCount e.nodes name := by
  obtain ⟨a, ha⟩ := Option.isSome_iff_exists.mp hdeclares
  obtain ⟨j, old, hj, hold⟩ := Module.exists_attributeIndex? ha
  obtain ⟨left, right, hnodes, -, herase⟩ := Module.nodes_around_attribute hident hold
  have hlocal : declarationCount [.declaration old] name = 1 := by
    simp [declarationCount, Module.key_of_attributeIndex? hj hold]
  rw [hnodes, herase { e with body } hident (hbody j hj), ← List.singleton_append, declarationCount_append,
    declarationCount_append, declarationCount_append, hlocal]
  omega

/-- A local that is taken out of its file leaves the declarations of the others there. -/
theorem Body.declarationCount_withoutBlock {s : Snapshot} {i : Nat} (hi : s.index? b = some i)
    (hd : d.structures = Module.withoutBlock s b.structures i) (name : String) :
    declarationCount d.nodes name + (if s.isLocal name then 1 else 0) ≤ declarationCount b.nodes name := by
  by_cases hkind : s.kind = .local
  · obtain ⟨e, he, hident, hdeclares⟩ := Snapshot.isLocals_of_index? hkind hi
    obtain ⟨label, rest, hlabels⟩ : ∃ label rest, s.labels = label :: rest := by
      refine List.exists_cons_of_ne_nil fun hnil => ?_
      rw [hnil] at hdeclares
      cases hdeclares
    obtain ⟨inner, hsub, herased, hcases⟩ := exists_withoutBlock_local hkind hlabels he
    obtain ⟨left, right, hnodes, hset, herase⟩ := Body.nodes_around he
    let e' : Block := { e with body := { e.body with structures := inner } }
    have hdnodes : d.nodes = left ++ e'.nodes ++ right := by
      rcases hcases with ⟨hnil, hgone⟩ | hkept
      · have hnone : e'.nodes = [] := by
          rw [Block.nodes_of_locals (b := e') hident, Body.attributes, show e'.body.structures = [] from hnil]
          rfl
        rw [herase d (hd.trans hgone), hnone, List.append_nil]
      · exact hset d _ (hd.trans hkept)
    have hinner : declarationCount e'.nodes name + (if s.isLocal name then 1 else 0) ≤
        declarationCount (Structure.block e).nodes name := by
      split
      · rename_i hlocal
        simp only [Snapshot.isLocal, hkind, hlabels, decide_true, Bool.true_and, decide_eq_true_eq, List.cons.injEq]
          at hlocal
        obtain ⟨rfl, rfl⟩ := hlocal
        rw [hlabels, List.any_cons, List.any_nil, Bool.or_false] at hdeclares
        exact (Block.declarationCount_erase hident hdeclares herased).le
      · exact Block.declarationCount_le hident hsub name
    rw [hnodes, hdnodes]
    simp only [declarationCount_append]
    omega
  · have hlocal : s.isLocal name = false := by simp [Snapshot.isLocal, hkind]
    obtain ⟨e, he, hident, -⟩ := Snapshot.index?_block_eq_some hkind hi
    obtain ⟨left, right, hnodes, -, herase⟩ := Body.nodes_around he
    rw [hlocal, herase d (hd.trans (Module.withoutBlock_of_kind hkind ..)), hnodes]
    simp only [declarationCount_append]
    simp

theorem Body.declarationCount_set {i : Nat} {x y : Structure} (hx : b.structures[i]? = some x)
    (hd : d.structures = b.structures.set i y) (h : declarationCount y.nodes name = declarationCount x.nodes name) :
    declarationCount d.nodes name = declarationCount b.nodes name := by
  obtain ⟨left, right, hnodes, hset, -⟩ := Body.nodes_around hx
  rw [hnodes, hset d y hd]
  simp only [declarationCount_append, h]

theorem Body.declarationCount_eraseIdx {i : Nat} {x : Structure} (hx : b.structures[i]? = some x)
    (hd : d.structures = b.structures.eraseIdx i) (h : declarationCount x.nodes name = 0) :
    declarationCount d.nodes name = declarationCount b.nodes name := by
  obtain ⟨left, right, hnodes, -, herase⟩ := Body.nodes_around hx
  rw [hnodes, herase d hd]
  simp only [declarationCount_append, h, Nat.add_zero]

theorem declarationCount_map_tag {nodes nodes' : List TreeNode}
    (h : nodes'.map (fun n => (n.kind, n.labels)) = nodes.map fun n => (n.kind, n.labels)) (name : String) :
    declarationCount nodes' name = declarationCount nodes name := by
  have htags (nodes : List TreeNode) : declarationCount nodes name =
      (nodes.map fun n => (n.kind, n.labels)).countP fun t => t.1 = .local && t.2 = [name] := by
    rw [List.countP_map]
    rfl
  rw [htags, htags, h]

theorem Block.declarationCount_withLead (e : Block) (lead name : String) :
    declarationCount (Block.nodes { e with lead }) name = declarationCount e.nodes name := by
  refine declarationCount_map_tag ?_ name
  unfold Block.nodes
  dsimp only
  split
  · rfl
  · split
    · rfl
    · split <;> rfl

/-- Another value changes no declaration. -/
theorem Block.declarationCount_setValue {j : Nat} {old : Attribute} (hident : e.ident = "locals")
    (hold : e.body.structures[j]? = some (.attribute old)) (v : Expression) (name : String) :
    declarationCount (Block.nodes { e with
      body := { e.body with structures := e.body.structures.set j (.attribute (old.withValue v)) } }) name =
      declarationCount e.nodes name := by
  obtain ⟨left, right, hnodes, hset, -⟩ := Module.nodes_around_attribute hident hold
  rw [hnodes, hset { e with
    body := { e.body with structures := e.body.structures.set j (.attribute (old.withValue v)) } } _ hident rfl]
  simp only [declarationCount, List.countP_append, List.countP_cons, TreeNode.isLocal_declaration]
  rfl

theorem Block.declarationCount_setAttribute (a : Attribute) (name : String) :
    declarationCount (Block.nodes { ident := "locals", body := Body.setAttribute {} a }) name =
      if a.key = name then 1 else 0 := by
  obtain ⟨margin, hset⟩ := Body.exists_setAttribute_empty a
  rw [Block.nodes_of_locals rfl, hset]
  simp [Body.attributes, Structure.attribute?, declarationCount, List.countP_singleton]

end Source

namespace Module

variable {m m' : Module} {name address : String} {s s' : Snapshot}

/-- The declarations of a local in all files, each with the name of its file. -/
def declarations (m : Module) (name : String) : List (String × TreeNode) := m.nodes.filter fun p => p.2.isLocal name

/-- How often a local is registered. -/
def localEntries (m : Module) (name : String) : Nat := m.registry.countP fun e => e.2.isLocal name

/-- No local is declared more often than it is registered. -/
def Covered (m : Module) : Prop := ∀ name, (m.declarations name).length ≤ m.localEntries name

theorem length_declarations (m : Module) (name : String) :
    (m.declarations name).length = declarationCount (m.nodes.map Prod.snd) name := by
  rw [declarations, declarationCount, List.countP_map, List.countP_eq_length_filter]
  rfl

theorem length_declarations_setFile {fileName : String} {file : SourceFile} (hfile : m.file? fileName = some file)
    (file' : SourceFile) (name : String) :
    ((m.setFile fileName file').declarations name).length + declarationCount file.body.nodes name =
      (m.declarations name).length + declarationCount file'.body.nodes name := by
  obtain ⟨left, right, hnodes, hset⟩ := nodes_setFile hfile
  have hsnd (nodes : List TreeNode) : (nodes.map fun n => (fileName, n)).map Prod.snd = nodes := by
    rw [List.map_map]
    exact List.map_id nodes
  rw [length_declarations, length_declarations, hnodes, hset]
  simp only [List.map_append, declarationCount_append, hsnd]
  omega

theorem length_declarations_appendStructure {fileName : String} (h : m.Loaded fileName) (b : Block) (name : String) :
    ((m.appendStructure fileName (.block b)).declarations name).length =
      (m.declarations name).length + declarationCount b.nodes name := by
  obtain ⟨lead, hperm⟩ := nodes_appendStructure h b
  rw [length_declarations, length_declarations, declarationCount, (hperm.map Prod.snd).countP_eq, List.map_append,
    List.countP_append, List.map_map, Nat.add_comm]
  exact congrArg _ ((congrArg (List.countP _) (List.map_id _)).trans (Block.declarationCount_withLead b lead name))

/-- Another structure with as many declarations. -/
theorem length_declarations_set {fileName : String} {file file' : SourceFile} {i : Nat} {x y : Structure}
    (hfile : m.file? fileName = some file) (hx : file.body.structures[i]? = some x)
    (hstructures : file'.body.structures = file.body.structures.set i y)
    (hcount : declarationCount y.nodes name = declarationCount x.nodes name) :
    ((m.setFile fileName file').declarations name).length = (m.declarations name).length := by
  have hfiles := length_declarations_setFile hfile file' name
  rw [Body.declarationCount_set hx hstructures hcount] at hfiles
  exact Nat.add_right_cancel hfiles

theorem length_declarations_updateLocal {f : Expression → Expression}
    (hok : m.updateLocal address (fun a => a.withValue (f a.expression)) = .ok m') (name : String) :
    (m'.declarations name).length = (m.declarations name).length := by
  obtain ⟨s, file, i, label, e, j, old, hsite, hkind, hlabels, he, hj, hold, rfl⟩ := updateLocal_eq_ok hok
  obtain ⟨hident, -⟩ := hsite.locals hkind hlabels he
  rw [revalued_eq hsite]
  exact length_declarations_set hsite.stored he rfl (Block.declarationCount_setValue hident hold _ name)

theorem length_declarations_addLocal {a : Attribute} {fileName : String} (hloaded : m.Loaded fileName)
    (hok : m.addLocal a fileName = .ok (m', address)) (name : String) :
    (m'.declarations name).length = (m.declarations name).length + if a.key = name then 1 else 0 := by
  obtain ⟨-, -, rfl⟩ := addLocal_eq_ok hok
  rw [← Block.declarationCount_setAttribute]
  exact length_declarations_appendStructure hloaded _ name

theorem localEntries_setBlock (h : m.block? address = some s) (hs' : s'.isLocal name = s.isLocal name) :
    (m.setBlock address s').localEntries name = m.localEntries name := by
  obtain ⟨before, after, hsplit, hinsert, -⟩ := registry_around h
  rw [localEntries, localEntries, setBlock, hinsert, hsplit]
  simp only [List.countP_append, List.countP_cons, hs']

theorem localEntries_setBlock_new (h : m.contains address = false) (s : Snapshot) (name : String) :
    (m.setBlock address s).localEntries name = m.localEntries name + if s.isLocal name then 1 else 0 := by
  rw [localEntries, localEntries, setBlock, insertEntry_of_lookup_eq_none (block?_eq_none_of_contains h)]
  simp only [List.countP_append, List.countP_cons, List.countP_nil, Nat.zero_add]

theorem localEntries_addLocal {a : Attribute} {fileName : String} (hok : m.addLocal a fileName = .ok (m', address))
    (name : String) : m'.localEntries name = m.localEntries name + if a.key = name then 1 else 0 := by
  obtain ⟨-, hnew, rfl⟩ := addLocal_eq_ok hok
  let added := m.appendStructure fileName (.block { ident := "locals", body := Body.setAttribute {} a })
  have hentries : (added.setBlock address (.ofNewLocal a fileName m.origin)).localEntries name =
      m.localEntries name + _ := localEntries_setBlock_new (m := added) hnew _ name
  simpa only [Snapshot.isLocal_ofNewLocal, decide_eq_true_eq] using hentries

theorem localEntries_eraseEntry (h : m.block? address = some s) (name : String) :
    m.localEntries name =
      localEntries { m with registry := eraseEntry address m.registry } name + if s.isLocal name then 1 else 0 := by
  obtain ⟨before, after, hsplit, -, herase⟩ := registry_around h
  rw [localEntries, localEntries, herase, hsplit]
  simp only [List.countP_append, List.countP_cons]
  omega

namespace Covered

theorem updateBlock (h : m.Covered) {f : Block → Block} (hf : ∀ b, (f b).ident = b.ident ∧ (f b).labels = b.labels)
    (hok : m.updateBlock address f = .ok m') : m'.Covered := by
  obtain ⟨s, file, i, old, hsite, hkind, hold, rfl⟩ := updateBlock_eq_ok hok
  obtain ⟨changed, s', heq, -, hkind', hlabels'⟩ := rewritten_eq_setBlock hsite old (f old)
  obtain ⟨e, he, hident, -⟩ := Snapshot.index?_block_eq_some hkind hsite.placed
  obtain rfl : e = old := by simpa [he] using hold
  have hne : e.ident ≠ "locals" := hident ▸ s.kind.name_ne_locals
  rw [heq]
  intro name
  have hcount : declarationCount (Structure.block (f e)).nodes name = declarationCount (Structure.block e).nodes name :=
    (Block.declarationCount_eq_zero ((hf e).1.symm ▸ hne) name).trans (Block.declarationCount_eq_zero hne name).symm
  let file' : SourceFile := { file with
    body := { file.body with structures := file.body.structures.set i (.block (f e)) }, changed }
  have hentries : ((m.setFile s.fileName file').setBlock address s').localEntries name = m.localEntries name :=
    localEntries_setBlock (m := m.setFile s.fileName file') hsite.found (Snapshot.isLocal_congr hkind' hlabels' name)
  exact (length_declarations_set hsite.stored hold rfl hcount).trans_le ((h name).trans_eq hentries.symm)

theorem updateLocal (h : m.Covered) {f : Expression → Expression}
    (hok : m.updateLocal address (fun a => a.withValue (f a.expression)) = .ok m') : m'.Covered := by
  intro name
  refine (length_declarations_updateLocal hok name).trans_le ((h name).trans_eq ?_)
  obtain ⟨s, file, i, label, e, j, old, hsite, -, -, -, -, -, rfl⟩ := updateLocal_eq_ok hok
  rw [revalued_eq hsite]
  refine (localEntries_setBlock hsite.found ?_).symm
  split <;> rfl

theorem removeBlock (h : m.Covered) {removed : Snapshot} (hok : m.removeBlock address = .ok (m', removed)) :
    m'.Covered := by
  obtain ⟨file, i, hsite, rfl⟩ := removeBlock_eq_ok hok
  intro name
  let file' : SourceFile := { file with
    body := { file.body with structures := withoutBlock removed file.body.structures i }, changed := true }
  have hfiles := length_declarations_setFile hsite.stored file' name
  have hbody := Body.declarationCount_withoutBlock hsite.placed (d := file'.body) rfl name
  have hentries := localEntries_eraseEntry hsite.found name
  have hbefore := h name
  show ((m.setFile removed.fileName file').declarations name).length ≤
    localEntries { m with registry := eraseEntry address m.registry } name
  omega

theorem moveBlock (h : m.Covered) {fileName : String} {moved : Bool} (hloaded : m.Loaded fileName)
    (hok : m.moveBlock address fileName = .ok (m', moved)) : m'.Covered := by
  rcases moveBlock_eq_ok hok with ⟨rfl, -⟩ | ⟨s, file, i, x, hsite, hkind, -, hx, rfl⟩
  · exact h
  · obtain ⟨b, hb, hident, -⟩ := Snapshot.index?_block_eq_some hkind hsite.placed
    obtain rfl : .block b = x := Option.some.inj (hb.symm.trans hx)
    intro name
    have hzero : declarationCount b.nodes name = 0 :=
      Block.declarationCount_eq_zero (hident ▸ s.kind.name_ne_locals) name
    let file' : SourceFile := { file with
      body := { file.body with structures := file.body.structures.eraseIdx i }, changed := true }
    let added := (m.setFile s.fileName file').appendStructure fileName (.block b)
    have hfiles := length_declarations_setFile hsite.stored file' name
    rw [Body.declarationCount_eraseIdx (d := file'.body) hx rfl hzero] at hfiles
    have happend : (added.declarations name).length = _ :=
      length_declarations_appendStructure (hloaded.setFile s.fileName file') b name
    have hentries : (added.setBlock address (s.movedTo fileName)).localEntries name = m.localEntries name :=
      localEntries_setBlock (m := added) hsite.found rfl
    have hbefore := h name
    show (added.declarations name).length ≤ (added.setBlock address (s.movedTo fileName)).localEntries name
    omega

theorem addBlock (h : m.Covered) {kind : BlockKind} {b : Block} {fileName : String} (hloaded : m.Loaded fileName)
    (hident : b.ident = kind.name) (hok : m.addBlock kind b fileName = .ok (m', address)) : m'.Covered := by
  obtain ⟨rfl, hnew, rfl⟩ := addBlock_eq_ok hok
  intro name
  let added := m.appendStructure fileName (.block b)
  let s := Snapshot.ofNewBlock kind b fileName m.origin
  have hfiles : (added.declarations name).length = _ := length_declarations_appendStructure hloaded b name
  rw [Block.declarationCount_eq_zero (hident ▸ kind.name_ne_locals) name] at hfiles
  have hentries : (added.setBlock (kind.address b.labelTexts) s).localEntries name = m.localEntries name + _ :=
    localEntries_setBlock_new (m := added) hnew s name
  have hbefore := h name
  show (added.declarations name).length ≤ (added.setBlock (kind.address b.labelTexts) s).localEntries name
  omega

theorem addLocal (h : m.Covered) {a : Attribute} {fileName : String} (hloaded : m.Loaded fileName)
    (hok : m.addLocal a fileName = .ok (m', address)) : m'.Covered := by
  intro name
  rw [length_declarations_addLocal hloaded hok, localEntries_addLocal hok]
  exact Nat.add_le_add_right (h name) _

theorem replaceIn (h : m.Covered) (f : Attribute → Except InvalidExpression (Option Expression)) (fileName : String) :
    (m.replaceIn f fileName).Covered := by
  unfold Module.replaceIn
  cases hfile : m.file? fileName with
  | none => exact h
  | some file =>
    have hfiles : ∀ file' : SourceFile, file'.body = (replaceInBlocks f file.body).result → ∀ name,
        ((m.setFile fileName file').declarations name).length = (m.declarations name).length := by
      intro file' hbody name
      have hcount := length_declarations_setFile hfile file' name
      rw [hbody, declarationCount_map_tag (nodes_replaceInBlocks f file.body) name] at hcount
      exact Nat.add_right_cancel hcount
    dsimp only
    unfold replaceBody
    split
    · exact fun name => (hfiles _ rfl name).trans_le (h name)
    · -- The snapshots of the file are taken again; kind and labels of each stay.
      intro name
      refine (hfiles _ rfl name).trans_le ((h name).trans_eq ?_)
      dsimp only [localEntries, refreshFile, Module.setFile]
      rw [List.countP_map]
      refine List.countP_congr fun e _ => ?_
      dsimp only [Function.comp_apply]
      split
      · obtain ⟨-, hkind, hlabels⟩ := Snapshot.tag_eq_iff.mp (tag_refreshed e.2 (replaceInBlocks f file.body).result)
        rw [Snapshot.isLocal_congr hkind hlabels]
      · rfl

/-- Appends go to files of which nothing unread is in the way. -/
theorem invariant (q : String → Prop) :
    Invariant q (fun _ _ => True) fun m => m.Covered ∧ ∀ name, q name → m.Loaded name := by
  have hloaded : Invariant q (fun _ _ => True) fun m => ∀ name, q name → m.Loaded name :=
    .of_edits fun h hedits _ hname => hedits.loaded (h _ hname)
  exact {
    updateBlock := fun h hf hok => ⟨h.1.updateBlock hf hok, hloaded.updateBlock h.2 hf hok⟩
    updateLocal := fun h hok => ⟨h.1.updateLocal hok, hloaded.updateLocal h.2 hok⟩
    removeBlock := fun h hok => ⟨h.1.removeBlock hok, hloaded.removeBlock h.2 hok⟩
    moveBlock := fun h hq hok => ⟨h.1.moveBlock (h.2 _ hq) hok, hloaded.moveBlock h.2 hq hok⟩
    addBlock := fun h hq hident hr hok => ⟨h.1.addBlock (h.2 _ hq) hident hok, hloaded.addBlock h.2 hq hident hr hok⟩
    addLocal := fun h hq hok => ⟨h.1.addLocal (h.2 _ hq) hok, hloaded.addLocal h.2 hq hok⟩
    replaceIn := fun f name h => ⟨h.1.replaceIn f name, hloaded.replaceIn f name h.2⟩ }

theorem applyAll (ts : List Transform) (h : m.Covered)
    (hloaded : ∀ t ∈ ts, ∀ name ∈ t.fileNames, m.Loaded name) : (Transform.applyAll ts m).Covered :=
  ((invariant fun name => ∃ t ∈ ts, name ∈ t.fileNames).applyAll ts (fun t ht _ hname => ⟨t, ht, hname⟩)
    (fun _ _ _ _ _ => trivial) ⟨h, fun _ ⟨t, ht, hname⟩ => hloaded t ht _ hname⟩).1

end Covered

theorem localEntries_foldlM_register {snapshots : List Snapshot} (hok : snapshots.foldlM register m = .ok m')
    (name : String) : m'.localEntries name = m.localEntries name + snapshots.countP (Snapshot.isLocal name) := by
  induction snapshots generalizing m with
  | nil =>
    cases hok
    rfl
  | cons s rest ih =>
    rw [List.foldlM_cons] at hok
    obtain ⟨m₁, hfirst, hrest⟩ := bind_eq_ok hok
    have hs : m₁.localEntries name = m.localEntries name + if s.isLocal name then 1 else 0 := by
      unfold register at hfirst
      split at hfirst
      · cases hfirst
        simp only [localEntries, List.countP_append, List.countP_cons, List.countP_nil, Nat.zero_add]
      · split at hfirst
        · -- A further `terraform` block is passed over.
          rename_i hkind
          cases hfirst
          simp [Snapshot.isLocal, hkind]
        · cases hfirst
    rw [ih hrest, hs, List.countP_cons]
    omega

theorem countP_isLocal_snapshotsOf (origin : Origin) (fileName : String) (lines : Text.LineIndex) (b : Body)
    (name : String) :
    (snapshotsOf origin fileName lines b).countP (Snapshot.isLocal name) = declarationCount b.nodes name := by
  rw [snapshotsOf_eq, List.countP_map, declarationCount]
  refine List.countP_congr fun n _ => ?_
  cases n <;> rfl

theorem Covered.addFile (h : m.Covered) {fileName content : String} (hok : m.addFile fileName content = .ok m')
    (hnew : fileName ∉ m.fileNames) : m'.Covered := by
  obtain ⟨body, m₁, -, hfold, rfl⟩ := addFile_eq_ok hok
  obtain ⟨hfiles, -, -⟩ := foldlM_register_frame hfold
  intro name
  have hnone : m₁.file? fileName = none := by
    rw [file?, hfiles]
    exact lookup_eq_none_iff_notMem.mpr hnew
  have hsame : m₁.nodes = m.nodes := by rw [nodes, nodes, hfiles]
  have hentries := localEntries_foldlM_register hfold name
  rw [countP_isLocal_snapshotsOf] at hentries
  have hfiles' : ((m₁.setFile fileName { stored? := some content, body }).declarations name).length =
      (m.declarations name).length + declarationCount body.nodes name := by
    rw [length_declarations, nodes_setFile_new hnone, hsame, length_declarations, List.map_append, List.map_map,
      declarationCount_append]
    exact congrArg (_ + declarationCount · name) (List.map_id _)
  have hbefore := h name
  show ((m₁.setFile fileName { stored? := some content, body }).declarations name).length ≤ m₁.localEntries name
  omega

theorem covered_ofSources {origin : Origin} {disk : String → Option String} {sources : List (String × String)}
    (hok : ofSources origin disk sources = .ok m) (hnames : (sources.map Prod.fst).Nodup) : m.Covered :=
  ofSources_keeps (fun h hok hnew => h.addFile hok hnew) (fun _ => Nat.zero_le _) hok hnames

end Module

end Terrasmith
