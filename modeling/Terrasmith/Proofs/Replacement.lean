import Terrasmith.Proofs.Consistency
import Terrasmith.Proofs.Dependencies
import Terrasmith.Proofs.Filling
import Terrasmith.Proofs.Retention

/-!
Replacing values. The values of all attributes in blocks are rewritten where they stand, those that cannot be read are
reported and stay, and the snapshots of a file are taken again if its text changed.
-/
namespace Terrasmith

open Source

/-! All attributes of a tree -/

namespace Source

/-- A block after a change of the attributes in it, at any depth. -/
def Block.mapAttributes (g : Attribute → Attribute) (e : Block) : Block :=
  { e with body := { e.body with structures := mapAllAttributes g e.body.structures } }

def Block.allAttributes (e : Block) : List Attribute := allAttributesOf e.body.structures

theorem Structure.mapAttributes_block (g : Attribute → Attribute) (e : Block) :
    (Structure.block e).mapAttributes g = .block (e.mapAttributes g) := by
  rcases e with ⟨lead, ident, identTrail, labels, ⟨structures, head, tail, oneLine, openEnd⟩, trail, span?⟩
  rw [mapAttributes]
  rfl

theorem Structure.allAttributes_block (e : Block) : (Structure.block e).allAttributes = e.allAttributes := by
  rcases e with ⟨lead, ident, identTrail, labels, ⟨structures, head, tail, oneLine, openEnd⟩, trail, span?⟩
  rw [allAttributes]
  rfl

/-- A body after a change of the attributes in its blocks. Those outside of blocks stay. -/
def Body.mapBlocks (g : Attribute → Attribute) (b : Body) : Body :=
  { b with structures := b.structures.map fun
      | .attribute a => .attribute a
      | .block e => .block (e.mapAttributes g) }

/-- An attribute after its source was rewritten, if the outcome is another one that can be read as an expression. -/
def Attribute.rewritten (r : String → String) (a : Attribute) : Attribute :=
  if r a.source = a.source then a
  else match parseExpression (r a.source) with
    | .ok e => a.withValue { e with lead := " " }
    | .error _ => a

/-- Why the rewritten source of an attribute cannot be read, if it is another one. -/
def Attribute.failure? (r : String → String) (a : Attribute) : Option InvalidExpression :=
  if r a.source = a.source then none
  else match parseExpression (r a.source) with
    | .ok _ => none
    | .error e => some e

/-- The failures in the blocks of a body. -/
def Body.failures (r : String → String) (b : Body) : List InvalidExpression :=
  (b.blocks.flatMap Block.allAttributes).filterMap (Attribute.failure? r)

end Source

/-- The new value of an attribute whose source is rewritten. -/
def rewrittenValue (r : String → String) (a : Attribute) : Except InvalidExpression (Option Expression) :=
  if r a.source = a.source then .ok none
  else do
    let e ← parseExpression (r a.source)
    return some { e with lead := " " }

theorem replacedValue_eq (regex : Regex) (replacement : String) :
    replacedValue regex replacement = rewrittenValue fun s => regex.replaceAll s replacement := rfl

section Rewriting

variable (r : String → String)

/-- A value is kept, replaced or cannot be read. -/
theorem rewrittenValue_cases (a : Attribute) :
    (rewrittenValue r a = .ok none ∧ a.rewritten r = a ∧ a.failure? r = none) ∨
      (∃ e, rewrittenValue r a = .ok (some e) ∧ a.rewritten r = a.withValue e ∧ a.failure? r = none) ∨
      ∃ e, rewrittenValue r a = .error e ∧ a.rewritten r = a ∧ a.failure? r = some e := by
  unfold rewrittenValue Attribute.rewritten Attribute.failure?
  by_cases hsame : r a.source = a.source
  · exact .inl ⟨if_pos hsame, if_pos hsame, if_pos hsame⟩
  · rw [if_neg hsame, if_neg hsame, if_neg hsame]
    generalize parseExpression (r a.source) = read
    cases read with
    | ok e => exact .inr (.inl ⟨{ e with lead := " " }, rfl, rfl, rfl⟩)
    | error e => exact .inr (.inr ⟨e, rfl, rfl, rfl⟩)

mutual

/-- The walk over a structure rewrites all attributes in it and collects the failures in the same order. -/
theorem Source.Structure.replaceValues_eq : ∀ s : Structure,
    (s.replaceValues (rewrittenValue r)).result = s.mapAttributes (Attribute.rewritten r) ∧
      (s.replaceValues (rewrittenValue r)).errors = s.allAttributes.filterMap (Attribute.failure? r)
  | .attribute a => by
    rw [Structure.replaceValues, Structure.mapAttributes, Structure.allAttributes]
    obtain ⟨hvalue, hkept, hnone⟩ | ⟨e, hvalue, hnew, hnone⟩ | ⟨e, hvalue, hkept, hsome⟩ := rewrittenValue_cases r a
    · rw [hvalue, hkept, List.filterMap_cons_none hnone]
      exact ⟨rfl, rfl⟩
    · rw [hvalue, hnew, List.filterMap_cons_none hnone]
      exact ⟨rfl, rfl⟩
    · rw [hvalue, hkept, List.filterMap_cons_some hsome]
      exact ⟨rfl, rfl⟩
  | .block ⟨lead, ident, identTrail, labels, ⟨structures, head, tail, oneLine, openEnd⟩, trail, span?⟩ => by
    obtain ⟨hresult, herrors⟩ := replaceAllValues_eq structures
    rw [Structure.replaceValues, Structure.mapAttributes, Structure.allAttributes, ← hresult, ← herrors]
    exact ⟨rfl, rfl⟩

theorem Source.replaceAllValues_eq : ∀ structures : List Structure,
    (replaceAllValues (rewrittenValue r) structures).result = mapAllAttributes (Attribute.rewritten r) structures ∧
      (replaceAllValues (rewrittenValue r) structures).errors =
        (allAttributesOf structures).filterMap (Attribute.failure? r)
  | [] => by
    rw [replaceAllValues, mapAllAttributes, allAttributesOf]
    exact ⟨rfl, rfl⟩
  | s :: rest => by
    obtain ⟨hfirst, hfirst'⟩ := s.replaceValues_eq
    obtain ⟨hrest, hrest'⟩ := replaceAllValues_eq rest
    rw [replaceAllValues, mapAllAttributes, allAttributesOf, List.filterMap_append, ← hfirst, ← hfirst', ← hrest,
      ← hrest']
    exact ⟨rfl, rfl⟩

end

theorem replaceInBlocks_eq (b : Body) :
    (replaceInBlocks (rewrittenValue r) b).result = b.mapBlocks (Attribute.rewritten r) ∧
      (replaceInBlocks (rewrittenValue r) b).errors = b.failures r := by
  constructor
  · unfold replaceInBlocks Body.mapBlocks
    dsimp only
    rw [List.map_map]
    refine congrArg (fun structures => { b with structures }) (List.map_congr_left fun x _ => ?_)
    rcases x with a | e
    · rfl
    · exact (Structure.replaceValues_eq r (.block e)).1.trans (Structure.mapAttributes_block _ e)
  · unfold replaceInBlocks Body.failures Body.blocks
    dsimp only
    rw [List.flatMap_map]
    induction b.structures with
    | nil => rfl
    | cons x rest ih =>
      rcases x with a | e
      · exact ih
      · rw [List.flatMap_cons, ih, List.filterMap_cons_some (Structure.block?_block e), List.flatMap_cons,
          List.filterMap_append]
        have hfirst := (Structure.replaceValues_eq r (.block e)).2
        rw [Structure.allAttributes_block] at hfirst
        exact congrArg (· ++ _) hfirst

end Rewriting

/-! Files and snapshots -/

/-- A file with rewritten values. It counts as changed if its text does. -/
def SourceFile.rewritten (r : String → String) (f : SourceFile) : SourceFile :=
  let body := f.body.mapBlocks (Attribute.rewritten r)
  { f with body, changed := f.changed || body.render ≠ f.body.render }

/-- A snapshot after the values of its file were rewritten: it is taken again if the text of the file changed. -/
def Snapshot.renewed (r : String → String) (p : String × SourceFile) (s : Snapshot) : Snapshot :=
  if s.fileName = p.1 ∧ (p.2.rewritten r).body.render ≠ p.2.body.render then
    (Module.refreshed? s (p.2.rewritten r).body).getD s
  else s

namespace Module

variable {r : String → String} {m : Module}

/-- One file: its tree gets the rewritten values, and the snapshots of its blocks are taken again. -/
theorem replaceBody_rewritten {before rest : List (String × SourceFile)} {name : String} {file : SourceFile}
    (hfiles : m.files = before ++ (name, file) :: rest) (hnew : name ∉ before.map Prod.fst) :
    m.replaceBody name file (file.body.mapBlocks (Attribute.rewritten r)) =
      { m with
        files := before ++ (name, file.rewritten r) :: rest
        registry := m.registry.map fun e => (e.1, e.2.renewed r (name, file)) } := by
  have hset (file' : SourceFile) : m.setFile name file' = { m with files := before ++ (name, file') :: rest } := by
    rw [setFile, hfiles, insertEntry_split hnew]
  unfold replaceBody
  split
  · rename_i hsame
    have hfile : file.rewritten r = { file with body := file.body.mapBlocks (Attribute.rewritten r) } := by
      simp [SourceFile.rewritten, hsame]
    have hkept : m.registry.map (fun e => (e.1, e.2.renewed r (name, file))) = m.registry := by
      refine (List.map_congr_left fun e _ => ?_).trans (List.map_id _)
      rw [Snapshot.renewed, if_neg fun h => h.2 hsame]
      rfl
    rw [hkept, hfile, hset]
  · rename_i hother
    have hfile : file.rewritten r =
        { file with body := file.body.mapBlocks (Attribute.rewritten r), changed := true } := by
      simp [SourceFile.rewritten, hother]
    have hrenewed : m.registry.map (fun e => (e.1, if e.2.fileName = name then
        (refreshed? e.2 (file.body.mapBlocks (Attribute.rewritten r))).getD e.2 else e.2)) =
        m.registry.map fun e => (e.1, e.2.renewed r (name, file)) := by
      refine List.map_congr_left fun e _ => ?_
      have hcondition : (e.2.fileName = name ∧ (file.rewritten r).body.render ≠ file.body.render) ↔
          e.2.fileName = name := and_iff_left hother
      simp only [Snapshot.renewed, hcondition]
      rfl
    rw [← hrenewed, hfile, hset]
    rfl

/-- All files, one after the other. -/
theorem foldl_replaceBody (before : List (String × SourceFile)) {rest : List (String × SourceFile)}
    (errors : List InvalidExpression) (hfiles : m.files = before ++ rest)
    (hnodup : ((before ++ rest).map Prod.fst).Nodup) :
    (rest.map Prod.fst).foldl (fun (state : Module × List InvalidExpression) name =>
        match state.1.file? name with
        | none => (state.1, state.2)
        | some file =>
          let done := replaceInBlocks (rewrittenValue r) file.body
          (state.1.replaceBody name file done.result, state.2 ++ done.errors)) (m, errors) =
      ({ m with
          files := before ++ rest.map fun p => (p.1, p.2.rewritten r)
          registry := m.registry.map fun e => (e.1, rest.foldl (fun s p => s.renewed r p) e.2) },
        errors ++ rest.flatMap fun p => p.2.body.failures r) := by
  induction rest generalizing m before errors with
  | nil => simp [← hfiles]
  | cons p rest ih =>
    obtain ⟨name, file⟩ := p
    have hnew : name ∉ before.map Prod.fst := by
      rw [List.map_append, List.map_cons, List.nodup_append] at hnodup
      exact fun hmem => hnodup.2.2 name hmem name List.mem_cons_self rfl
    have hfound : m.file? name = some file :=
      file?_of_mem (by rwa [fileNames, hfiles]) (by rw [hfiles]; exact List.mem_append_right _ List.mem_cons_self)
    obtain ⟨hresult, herrors⟩ := replaceInBlocks_eq r file.body
    rw [List.map_cons, List.foldl_cons]
    dsimp only
    rw [hfound]
    dsimp only
    rw [hresult, herrors, replaceBody_rewritten hfiles hnew]
    have hrest := ih (m := { m with
        files := before ++ (name, file.rewritten r) :: rest
        registry := m.registry.map fun e => (e.1, e.2.renewed r (name, file)) })
      (before ++ [(name, file.rewritten r)]) (errors ++ file.body.failures r) (by simp) (by simpa using hnodup)
    rw [hrest]
    simp [Function.comp_def]

theorem replaceValues_rewritten (h : m.fileNames.Nodup) : m.replaceValues (rewrittenValue r) =
    ({ m with
        files := m.files.map fun p => (p.1, p.2.rewritten r)
        registry := m.registry.map fun e => (e.1, m.files.foldl (fun s p => s.renewed r p) e.2) },
      m.files.flatMap fun p => p.2.body.failures r) :=
  foldl_replaceBody [] [] rfl h

end Module

namespace Snapshot

variable {r : String → String} {s : Snapshot}

theorem tag_renewed (r : String → String) (p : String × SourceFile) (s : Snapshot) : (s.renewed r p).tag = s.tag := by
  unfold renewed
  split
  · exact Module.tag_refreshed s _
  · rfl

theorem tag_foldl_renewed (files : List (String × SourceFile)) (s : Snapshot) :
    (files.foldl (fun s p => s.renewed r p) s).tag = s.tag := by
  induction files generalizing s with
  | nil => rfl
  | cons p rest ih => exact (ih _).trans (tag_renewed r p s)

theorem foldl_renewed_of_absent {files : List (String × SourceFile)} (h : s.fileName ∉ files.map Prod.fst) :
    files.foldl (fun s p => s.renewed r p) s = s := by
  induction files with
  | nil => rfl
  | cons p rest ih =>
    rw [List.map_cons, List.mem_cons, not_or] at h
    rw [List.foldl_cons, renewed, if_neg fun hcondition => h.1 hcondition.1]
    exact ih h.2

/-- Only its own file has to do with a snapshot. -/
theorem foldl_renewed {files : List (String × SourceFile)} (hnodup : (files.map Prod.fst).Nodup) {f : SourceFile}
    (hf : (s.fileName, f) ∈ files) :
    files.foldl (fun s p => s.renewed r p) s = s.renewed r (s.fileName, f) := by
  induction files with
  | nil => cases hf
  | cons p rest ih =>
    rw [List.map_cons, List.nodup_cons] at hnodup
    rcases List.mem_cons.mp hf with rfl | hf
    · have hname : (s.renewed r (s.fileName, f)).fileName = s.fileName := congrArg Prod.fst (tag_renewed r _ s)
      exact foldl_renewed_of_absent (hname ▸ hnodup.1)
    · have hother : s.fileName ≠ p.1 := fun heq => hnodup.1 (heq ▸ List.mem_map_of_mem hf)
      rw [List.foldl_cons, renewed, if_neg fun hcondition => hother hcondition.1]
      exact ih hnodup.2 hf

end Snapshot

/-! What locators find -/

/-- A node after a change of the attributes in it. -/
def TreeNode.mapAttributes (g : Attribute → Attribute) : TreeNode → TreeNode
  | .block kind b => .block kind (b.mapAttributes g)
  | .declaration a => .declaration (g a)

theorem Attribute.key_rewritten (r : String → String) (a : Attribute) : (a.rewritten r).key = a.key := by
  obtain ⟨-, h, -⟩ | ⟨e, -, h, -⟩ | ⟨e, -, h, -⟩ := rewrittenValue_cases r a
  · rw [h]
  · rw [h]
    rfl
  · rw [h]

section Located

variable {g : Attribute → Attribute} (hg : ∀ a, (g a).key = a.key)

theorem attributes_mapAllAttributes (structures : List Structure) :
    (mapAllAttributes g structures).filterMap Structure.attribute? =
      (structures.filterMap Structure.attribute?).map g := by
  induction structures with
  | nil => rw [mapAllAttributes]; rfl
  | cons x rest ih =>
    rw [mapAllAttributes]
    rcases x with a | e
    · rw [Structure.mapAttributes, List.filterMap_cons_some (Structure.attribute?_attribute _), ih]
      rfl
    · rw [Structure.mapAttributes_block, List.filterMap_cons_none (Structure.attribute?_block _), ih]
      rfl

include hg in
theorem attribute?_mapAttributes (e : Block) (name : String) :
    (e.mapAttributes g).body.attribute? name = (e.body.attribute? name).map g := by
  have hkey : (fun a : Attribute => decide (a.key = name)) ∘ g = fun a => decide (a.key = name) := by
    funext a
    rw [Function.comp_apply, hg]
  unfold Body.attribute? Body.attributes Block.mapAttributes
  dsimp only
  rw [attributes_mapAllAttributes, List.find?_map, hkey]

include hg in
theorem index?_mapBlocks (s : Snapshot) (b : Body) : s.index? (b.mapBlocks g) = s.index? b := by
  have hhas (e : Block) : (e.mapAttributes g).body.hasAttribute = e.body.hasAttribute := by
    funext name
    rw [Body.hasAttribute, attribute?_mapAttributes hg, Option.isSome_map]
    rfl
  unfold Snapshot.index? Body.mapBlocks
  dsimp only
  rw [List.findIdx?_map]
  congr 1
  funext x
  rcases x with a | e
  · split <;> rfl
  · split
    · simp only [Function.comp_apply, Snapshot.isLocals, hhas]
      rfl
    · rfl

include hg in
/-- A locator finds in the changed body what it found before, changed. -/
theorem node?_mapBlocks (s : Snapshot) (b : Body) :
    s.node? (b.mapBlocks g) = (s.node? b).map (TreeNode.mapAttributes g) := by
  unfold Snapshot.node?
  rw [index?_mapBlocks hg]
  cases s.index? b with
  | none => rfl
  | some i =>
    have hget : (b.mapBlocks g).structures[i]? = b.structures[i]?.map fun
        | .attribute a => .attribute a
        | .block e => .block (e.mapAttributes g) := List.getElem?_map
    simp only [Option.bind_eq_bind, Option.bind_some, hget]
    cases b.structures[i]? with
    | none => rfl
    | some x =>
      rcases x with a | e
      · rfl
      · simp only [Option.map_some, Option.bind_some, Structure.block?_block]
        cases s.kind with
        | «local» =>
          simp only [attribute?_mapAttributes hg]
          cases s.labels.head? with
          | none => rfl
          | some name =>
            simp only [Option.bind_some]
            cases e.body.attribute? name <;> rfl
        | _ => rfl

end Located

namespace Snapshot

variable {s t : Snapshot} {b : Body} {n : TreeNode}

theorem node?_congr (hkind : s.kind = t.kind) (hlabels : s.labels = t.labels) (b : Body) : s.node? b = t.node? b := by
  simp only [node?, Module.index?_congr hkind hlabels, hkind, hlabels]

/-- What is found for a local is a declaration, and a block of its kind for any other snapshot. -/
theorem node?_cases (h : s.node? b = some n) :
    (s.kind = .local ∧ ∃ a, n = .declaration a) ∨ (s.kind ≠ .local ∧ ∃ e, n = .block s.kind e) := by
  unfold node? at h
  obtain ⟨i, -, h⟩ := Option.bind_eq_some_iff.mp h
  obtain ⟨e, -, h⟩ := Option.bind_eq_some_iff.mp h
  cases hkind : s.kind with
  | «local» =>
    rw [hkind] at h
    obtain ⟨name, -, h⟩ := Option.bind_eq_some_iff.mp h
    obtain ⟨a, -, h⟩ := Option.bind_eq_some_iff.mp h
    cases h
    exact .inl ⟨rfl, a, rfl⟩
  | _ =>
    rw [hkind] at h
    cases h
    exact .inr ⟨nofun, e, rfl⟩

/-- A snapshot shows a node of its labels, which its locator finds in a body. -/
structure Shows (s : Snapshot) (b : Body) (n : TreeNode) : Prop where
  found : s.node? b = some n
  labels : n.labels = s.labels
  view : s.view = n.view

/-- Taken again from a node like the one that it showed, a snapshot shows that one. -/
theorem Shows.view_refresh (h : s.Shows b n) {n' : TreeNode} (hkind : n'.kind = n.kind)
    (hlabels : n'.labels = n.labels) : (s.refresh n').view = n'.view := by
  obtain ⟨hlocal, a, rfl⟩ | ⟨hother, e, rfl⟩ := node?_cases h.found
  · exact Module.view_refresh (hkind.trans hlocal.symm) (hlabels.trans h.labels)
      fun _ => Module.nested_eq_nil_of_view h.view
  · exact Module.view_refresh hkind (hlabels.trans h.labels) fun hlocal => absurd hlocal hother

end Snapshot

theorem TreeNode.kind_mapAttributes (g : Attribute → Attribute) (n : TreeNode) : (n.mapAttributes g).kind = n.kind := by
  cases n <;> rfl

theorem TreeNode.labels_mapAttributes {g : Attribute → Attribute} (hg : ∀ a, (g a).key = a.key) (n : TreeNode) :
    (n.mapAttributes g).labels = n.labels := by
  cases n with
  | block kind e => rfl
  | declaration a => exact congrArg (fun key => [key]) (hg a)

/-- After a rewriting the locator finds the rewritten node, and the snapshot shows it exactly if the text of the file
changed or the node still shows the same. -/
theorem Snapshot.Shows.renewed {r : String → String} {s : Snapshot} {f : SourceFile} {n : TreeNode}
    (h : s.Shows f.body n) :
    (s.renewed r (s.fileName, f)).node? (f.rewritten r).body = some (n.mapAttributes (Attribute.rewritten r)) ∧
      ((s.renewed r (s.fileName, f)).Shows (f.rewritten r).body (n.mapAttributes (Attribute.rewritten r)) ↔
        (f.rewritten r).body.render ≠ f.body.render ∨ (n.mapAttributes (Attribute.rewritten r)).view = n.view) := by
  have hg := Attribute.key_rewritten r
  obtain ⟨-, hkind, hlabels⟩ : (s.renewed r (s.fileName, f)).fileName = s.fileName ∧
      (s.renewed r (s.fileName, f)).kind = s.kind ∧ (s.renewed r (s.fileName, f)).labels = s.labels := by
    simpa only [Snapshot.tag, Prod.mk.injEq] using Snapshot.tag_renewed r (s.fileName, f) s
  have hfound : s.node? (f.rewritten r).body = some (n.mapAttributes (Attribute.rewritten r)) :=
    (node?_mapBlocks hg s f.body).trans (congrArg (Option.map _) h.found)
  have hfound' := (Snapshot.node?_congr hkind hlabels _).trans hfound
  refine ⟨hfound', fun hshows => ?_, fun hor => ⟨hfound', ?_, ?_⟩⟩
  · by_cases htext : (f.rewritten r).body.render = f.body.render
    · have hview := hshows.view
      rw [Snapshot.renewed, if_neg fun hcondition => hcondition.2 htext] at hview
      exact .inr (hview.symm.trans h.view)
    · exact .inl htext
  · rw [hlabels, TreeNode.labels_mapAttributes hg, h.labels]
  · by_cases htext : (f.rewritten r).body.render = f.body.render
    · rw [Snapshot.renewed, if_neg fun hcondition => hcondition.2 htext, h.view]
      exact (hor.resolve_left fun hne => hne htext).symm
    · rw [Snapshot.renewed, if_pos ⟨rfl, htext⟩, Snapshot.refreshed?_eq, hfound]
      exact h.view_refresh (n.kind_mapAttributes _) (n.labels_mapAttributes hg)

/-- In a registry that is up to date every snapshot shows the node that its locator finds. -/
theorem Module.Registered.exists_shows {m : Module} (h : m.Registered) (hu : m.UpToDate) {address : String}
    {s : Snapshot} (hfound : m.block? address = some s) :
    ∃ f n, m.file? s.fileName = some f ∧ s.Shows f.body n := by
  have hmem := mem_registry hfound
  obtain ⟨f, n, hfile, hnode, hn, -, hlabels, haddress⟩ := h.indexed.located _ hmem
  have hview := hu _ hmem _ (mem_nodes_of_file? hfile hn) (haddress.trans (h.entries.keys _ hmem))
  exact ⟨f, n, hfile, hnode, hlabels, hview⟩

theorem ofExpressions?_eq_none {errors : List InvalidExpression} :
    TransformError.ofExpressions? errors = none ↔ errors = [] := by
  unfold TransformError.ofExpressions?
  split <;> simp_all

/-- For every function on texts the values in the blocks of all files are rewritten where they stand, and nothing else
of the files changes. The failures are those of the rewritten sources that cannot be read, file by file and in the order
of the source. The registry keeps its entries; the locator of each finds the rewritten node, and a snapshot that showed
its node shows the rewritten one exactly if the text of its file changed or the node shows the same as before. The
transform does this with the replacement of a regular expression, and succeeds exactly if nothing fails. -/
theorem replacement_maps_values (r : String → String) {m : Module} (hnames : m.fileNames.Nodup) :
    let after := m.replaceValues (rewrittenValue r)
    after.1.files = m.files.map (fun p => (p.1, p.2.rewritten r)) ∧
    after.2 = m.files.flatMap (fun p => p.2.body.failures r) ∧
    after.1.registry.map (fun e => (e.1, e.2.tag)) = m.registry.map (fun e => (e.1, e.2.tag)) ∧
    (∀ address s f n, m.block? address = some s → m.file? s.fileName = some f → s.Shows f.body n →
      ∃ s', after.1.block? address = some s' ∧
        s'.node? (f.rewritten r).body = some (n.mapAttributes (Attribute.rewritten r)) ∧
        (s'.Shows (f.rewritten r).body (n.mapAttributes (Attribute.rewritten r)) ↔
          (f.rewritten r).body.render ≠ f.body.render ∨ (n.mapAttributes (Attribute.rewritten r)).view = n.view)) ∧
    ∀ regex replacement, (r = fun s => Regex.replaceAll regex s replacement) →
      let done := (Transform.replaceText regex replacement).apply m
      done = ⟨after.1, TransformError.ofExpressions? after.2⟩ ∧ (done.error? = none ↔ after.2 = []) := by
  intro after
  have hafter : after = _ := Module.replaceValues_rewritten hnames
  refine ⟨by rw [hafter], by rw [hafter], ?_, fun address s f n hfound hfile hshows => ?_, ?_⟩
  · rw [hafter, List.map_map]
    exact List.map_congr_left fun e _ => congrArg (Prod.mk e.1) (Snapshot.tag_foldl_renewed m.files e.2)
  · have hblock : after.1.block? address = some (m.files.foldl (fun s p => s.renewed r p) s) := by
      rw [hafter]
      exact (lookup_map_snd (fun _ s => m.files.foldl (fun s p => s.renewed r p) s) address m.registry).trans
        (congrArg (Option.map _) hfound)
    rw [Snapshot.foldl_renewed hnames (mem_of_lookup hfile)] at hblock
    exact ⟨_, hblock, hshows.renewed⟩
  · rintro regex replacement rfl
    have hdone : (Transform.replaceText regex replacement).apply m =
        ⟨after.1, TransformError.ofExpressions? after.2⟩ := by
      rw [Transform.apply, replacedValue_eq]
    exact ⟨hdone, hdone ▸ ofExpressions?_eq_none⟩

/-- A resource with a nested block, and a block that no address names. -/
def digitsText : String :=
  "resource \"a\" \"b\" \x7b\n  x = 12\n  n \x7b\n    y = 1\n    z = 2\n  \x7d\n\x7d\nt \x7b\n  v = 13\n\x7d\n"

def digitsRule : String :=
  "regex = \"^1\"\nreplacement = \"-\"\n"

def digitsReplaced : String :=
  "resource \"a\" \"b\" \x7b\n  x = -2\n  n \x7b\n    y = 1\n    z = 2\n  \x7d\n\x7d\nt \x7b\n  v = -3\n\x7d\n"

def Transform.replacement? : Transform → Option (Regex × String)
  | .replaceText regex replacement => some (regex, replacement)
  | _ => none

theorem Transform.eq_of_replacement? {t : Transform} {regex : Regex} {replacement : String}
    (h : t.replacement? = some (regex, replacement)) : t = .replaceText regex replacement := by
  cases t with
  | replaceText regex replacement =>
    cases h
    rfl
  | _ => cases h

/-- One value becomes a sign without a number. The other ones are replaced, and the snapshot shows it. -/
theorem replacement_of_leading_digits :
    ∃ m regex replacement s f n s', Module.ofSources default (fun _ => none) [("main.tf", digitsText)] = .ok m ∧
      (∃ body, Transform.decode "regex_replace_expression" body [] m = .ok (.replaceText regex replacement)) ∧
      m.fileNames.Nodup ∧ m.block? "resource.a.b" = some s ∧ m.file? s.fileName = some f ∧ s.Shows f.body n ∧
      let r := fun text => Regex.replaceAll regex text replacement
      let done := (Transform.replaceText regex replacement).apply m
      done.error? ≠ none ∧ done.module.files = m.files.map (fun p => (p.1, p.2.rewritten r)) ∧
      done.module.files.map (fun p => p.2.body.render) = [digitsReplaced] ∧
      done.module.block? "resource.a.b" = some s' ∧
      s'.Shows (f.rewritten r).body (n.mapAttributes (Attribute.rewritten r)) := by
  have hread : (readPair digitsText "regex_replace_expression" digitsRule).any (fun p =>
      Module.countOf .terraform p.1.nodes ≤ 1 &&
        p.2.replacement?.any (fun q => (p.1.block? "resource.a.b").any fun s => (p.1.file? s.fileName).any fun f =>
          (f.rewritten fun text => Regex.replaceAll q.1 text q.2).body.render ≠ f.body.render) &&
        (p.2.apply p.1).error?.isSome &&
        (p.2.apply p.1).module.files.map (fun e => e.2.body.render) = [digitsReplaced]) = true := by
    decide +kernel
  obtain ⟨m, t, hload, hdecode, htest⟩ := exists_of_readPair hread
  simp only [Bool.and_eq_true, decide_eq_true_eq, Option.any_eq_true, Option.isSome_iff_ne_none] at htest
  obtain ⟨⟨⟨hcount, ⟨regex, replacement⟩, hreplacement, s, hfound, f, hfile, htext⟩, herror⟩, hprinted⟩ := htest
  obtain rfl := Transform.eq_of_replacement? hreplacement
  obtain ⟨h, hu, -⟩ := Module.registered_ofSources hload (by simp) hcount
  obtain ⟨f', n, hfile', hshows⟩ := h.exists_shows hu hfound
  cases hfile.symm.trans hfile'
  obtain ⟨hfiles, -, -, hblocks, happly⟩ := replacement_maps_values
    (fun text => Regex.replaceAll regex text replacement) h.files
  obtain ⟨s', hfound', -, hiff⟩ := hblocks _ s f n hfound hfile hshows
  have hdone := (happly regex replacement rfl).1
  refine ⟨m, regex, replacement, s, f, n, s', hload, hdecode, h.files, hfound, hfile, hshows, herror, ?_, hprinted, ?_,
    hiff.mpr (.inl htext)⟩
  · rw [hdone, hfiles]
  · rw [hdone, hfound']

/-- Two strings with interpolations, the second of which has quotes and line ends. -/
def maskedText : String :=
  "resource \"a\" \"b\" \x7b\n  x = \"$\x7b\"$\x7ba\x7d\"\x7dZ\"\n  y = \"$\x7b\"$\x7ba\x7d\"\x7dx\\\"\\n  y = " ++
    "\\\"$\x7b\"$\x7ba\x7d\"\x7dZ\\\"\\n  y = \\\"$\x7b\"$\x7ba\x7d\"\x7dx\"\n\x7d\n"

/-- Every value is replaced by a third string, which ends like the first and begins like the second. -/
def maskedRule : String :=
  "regex = \"(?s)^.*$\"\nreplacement = \"\\\"$$$\x7b\\\"$$$\x7ba\x7d\\\"\x7dZ\\\\\\\"\\\\n  y = " ++
    "\\\\\\\"$$$\x7b\\\"$$$\x7ba\x7d\\\"\x7dx\\\"\"\n"

/-- Behind a string in an interpolation, quotes and line ends are printed as they are. So the text with the new values
may be the old one, and then the snapshot still has the old values though no replacement failed. -/
theorem snapshot_behind_masked_replacement :
    ∃ m t, Module.ofSources default (fun _ => none) [("main.tf", maskedText)] = .ok m ∧
      (∃ body, Transform.decode "regex_replace_expression" body [] m = .ok t) ∧ m.UpToDate ∧
      (t.apply m).error? = none ∧ ¬ (t.apply m).module.UpToDate := by
  have hread : (readPair maskedText "regex_replace_expression" maskedRule).any (fun p =>
      Module.countOf .terraform p.1.nodes ≤ 1 && (p.2.apply p.1).error?.isNone &&
        staleAt (p.2.apply p.1).module "resource.a.b") = true := by
    -- the characters are given: to read them off the bytes of a text takes longer than to parse them
    have hchars : maskedText.toList = _ :=
      String.toList_append.trans (congrArg₂ (· ++ ·) String.toList_ofList String.toList_ofList)
    have hrule : maskedRule.toList = _ :=
      String.toList_append.trans (congrArg₂ (· ++ ·) String.toList_ofList String.toList_ofList)
    simp only [readPair, Module.ofSources, List.foldlM_cons, Module.addFile, parse?, hchars, hrule]
    decide +kernel
  obtain ⟨m, t, hload, hdecode, htest⟩ := exists_of_readPair hread
  simp only [Bool.and_eq_true, decide_eq_true_eq, Option.isNone_iff_eq_none] at htest
  obtain ⟨⟨hcount, hdone⟩, hstale⟩ := htest
  obtain ⟨-, hu, -⟩ := Module.registered_ofSources hload (by simp) hcount
  exact ⟨m, t, hload, hdecode, hu, hdone, not_upToDate_of_staleAt hstale⟩

end Terrasmith
