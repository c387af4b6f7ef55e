import Terrasmith.Proofs.Variables
import Terrasmith.Transform.Element

/-!
Renaming in one body. An attribute of the old name and all nested blocks of it get the new one where they stand, each
kind of element under a condition of its own; a dynamic block keeps the name under which its content refers to it.
-/
namespace Terrasmith

open Source Text

namespace Source

/-- No attribute and no nested block of a body has a name. -/
def Body.Lacks (name : String) (b : Body) : Prop :=
  ∀ x ∈ b.structures, x.isAttribute name = false ∧ x.isBlockOf name = false

/-- Whether a body has a nested block of a type. -/
def Body.hasBlock (b : Body) (type : String) : Bool := b.structures.any (Structure.isBlockOf type)

theorem Body.isEmpty_blockIndices (b : Body) (type : String) : (b.blockIndices type).isEmpty = !b.hasBlock type := by
  have hzip : ∀ (structures : List Structure) (n : Nat),
      (((structures.zipIdx n).filter fun p => p.1.isBlockOf type).map (·.2)).isEmpty =
        !structures.any (Structure.isBlockOf type) := by
    intro structures
    induction structures with
    | nil => exact fun n => rfl
    | cons s rest ih =>
      intro n
      cases hs : s.isBlockOf type with
      | false => simpa [hs] using ih (n + 1)
      | true => simp [hs]
  exact hzip b.structures 0

namespace Block

variable {e : Block}

/-- The name under which the content of a dynamic block refers to the element that it is made for. -/
def iteratorName (e : Block) : String := ((e.body.attribute? "iterator").map Attribute.source).getD e.logicalType

end Block

/-- A body that names an iterator: the one that it named before or else the given one. -/
inductive Body.Binds (name : String) : Body → Body → Prop where
  | bound {b : Body} (h : b.hasAttribute "iterator" = true) : Binds name b b
  | added {b : Body} {a : Attribute} {before after : List Structure} (h : b.hasAttribute "iterator" = false)
    (hkey : a.key = "iterator") (hsource : a.source = name) (hsplit : b.structures = before ++ after) :
    Binds name b { b with structures := before ++ .attribute a :: after, oneLine := false }

/-- Content that referred to the given name goes on referring to what it did. -/
theorem Body.Binds.iteratorName {e : Block} {body : Body} (h : e.body.Binds e.logicalType body) (labels : List Label) :
    Block.iteratorName { e with labels, body } = e.iteratorName := by
  unfold Block.iteratorName
  generalize e.logicalType = name at h ⊢
  cases h with
  | bound h =>
    obtain ⟨a, ha⟩ := Option.isSome_iff_exists.mp h
    rw [ha]
    rfl
  | @added a before after h hkey hsource hsplit =>
    have hnone : e.body.attribute? "iterator" = none := Option.not_isSome_iff_eq_none.mp (Bool.eq_false_iff.mp h)
    have hfront : (before.filterMap Structure.attribute?).find? (fun a => a.key = "iterator") = none := by
      rw [Body.attribute?, Body.attributes, hsplit, List.filterMap_append, List.find?_append, Option.or_eq_none_iff]
        at hnone
      exact hnone.1
    have hfound : Body.attribute? { e.body with
        structures := before ++ .attribute a :: after, oneLine := false } "iterator" = some a := by
      simp [Body.attribute?, Body.attributes, hfront, hkey]
    rw [hnone, hfound, Option.map_some, hsource]
    rfl

/-- A structure after a renaming. All but the name stays, and a dynamic block has the iterator that it had. -/
inductive Structure.Renamed (old new : String) : Structure → Structure → Prop where
  | key {a : Attribute} (h : a.key = old) : Renamed old new (.attribute a) (.attribute { a with key := new })
  | type {e : Block} (h : e.logicalType = old) (hstatic : e.isDynamic = false) :
    Renamed old new (.block e) (.block { e with ident := new })
  | label {e e' : Block} {label : Label} {body : Body} (h : e.logicalType = old) (hdynamic : e.isDynamic = true)
    (hlabels : e.labels = [label]) (hbinds : e.body.Binds old body)
    (hblock : e' = { e with labels := [{ label with text := new, quoted := true }], body })
    (hname : e'.iteratorName = e.iteratorName) : Renamed old new (.block e) (.block e')
  | other {x : Structure} (hkey : x.isAttribute old = false) (htype : x.isBlockOf old = false) : Renamed old new x x

/-- A body after a renaming: nothing of the old name is left, and all structures stay where they are, but for an
attribute of the new name whose place in the body an attribute of the old name takes. -/
structure Body.Renamed (old new : String) (b d : Body) : Prop where
  lacks : d.Lacks old
  structures : ∃ structures, d = { b with structures } ∧ List.Forall₂ (Structure.Renamed old new)
    (if b.hasAttribute old then b.structures.eraseP (Structure.isAttribute new) else b.structures) structures

end Source

/-- A structure under its new name, if it has the old one and elements of its sort are to be renamed. -/
def renamed (old new : String) (attributes blocks : Bool) : Structure → Structure
  | .attribute a => .attribute (if attributes && a.key = old then { a with key := new } else a)
  | .block e => .block (if blocks && e.logicalType = old then renameBlock old new e else e)

variable {old new : String}

theorem map_renamed_eq_self {attributes blocks : Bool} {structures : List Structure}
    (hkeys : attributes = false ∨ structures.any (Structure.isAttribute old) = false)
    (htypes : blocks = false ∨ structures.any (Structure.isBlockOf old) = false) :
    structures.map (renamed old new attributes blocks) = structures := by
  refine (List.map_congr_left fun x hx => ?_).trans (List.map_id _)
  rcases x with a | e
  · rcases hkeys with rfl | hkeys
    · rfl
    · have hkey := List.any_eq_false.mp hkeys _ hx
      simp only [Structure.isAttribute, decide_eq_true_eq] at hkey
      simp [renamed, hkey]
  · rcases htypes with rfl | htypes
    · rfl
    · have htype := List.any_eq_false.mp htypes _ hx
      simp only [Structure.isBlockOf, decide_eq_true_eq] at htype
      simp [renamed, htype]

/-- Attributes and blocks are renamed one after the other. -/
theorem map_renamed_renamed (attributes blocks : Bool) (structures : List Structure) :
    (structures.map (renamed old new attributes false)).map (renamed old new false blocks) =
      structures.map (renamed old new attributes blocks) := by
  rw [List.map_map]
  refine List.map_congr_left fun x _ => ?_
  rcases x with a | e <;> simp [renamed]

theorem any_isBlockOf_renamed (attributes : Bool) (structures : List Structure) :
    (structures.map (renamed old new attributes false)).any (Structure.isBlockOf new) =
      structures.any (Structure.isBlockOf new) := by
  rw [List.any_map]
  congr 1
  funext x
  rcases x with a | e <;> simp [renamed, Structure.isBlockOf]

theorem eraseP_eq_self {p : Structure → Bool} {structures : List Structure} (h : structures.any p = false) :
    structures.eraseP p = structures :=
  List.eraseP_of_forall_not fun x hx => List.any_eq_false.mp h x hx

theorem eraseP_attribute_eq (b : Body) (key : String) : b.structures.eraseP (Structure.isAttribute key) =
    match b.attributeIndex? key with
    | some index => b.structures.eraseIdx index
    | none => b.structures := by
  rw [List.eraseP_eq_eraseIdx, Body.attributeIndex?]
  split <;> simp [*]

/-- Functions that agree on all structures make the same body. -/
theorem mk_map_congr {f g : Structure → Structure} (h : ∀ x, f x = g x) (b : Body) (structures : List Structure) :
    Body.mk (structures.map f) b.head b.tail b.oneLine b.openEnd =
      Body.mk (structures.map g) b.head b.tail b.oneLine b.openEnd := by
  rw [funext h]

theorem renameAttribute_eq (skip : Bool) (b : Body) :
    renameAttribute old new skip b = { b with
      structures := (if skip then b.structures else b.structures.eraseP (Structure.isAttribute new)).map
        (renamed old new (!(skip && b.hasAttribute new)) false) } := by
  unfold renameAttribute
  cases htaken : skip && b.hasAttribute new with
  | true =>
    obtain ⟨rfl, -⟩ := Bool.and_eq_true_iff.mp htaken
    rw [if_pos rfl, if_pos rfl, Bool.not_true, map_renamed_eq_self (.inl rfl) (.inl rfl), Body.mk_self]
  | false =>
    have hkept : (if skip then b.structures else b.structures.eraseP (Structure.isAttribute new)) =
        b.structures.eraseP (Structure.isAttribute new) := by
      cases skip with
      | false => rfl
      | true => exact (eraseP_eq_self ((Body.hasAttribute_eq_any b new).symm.trans htaken)).symm
    rw [if_neg Bool.false_ne_true, hkept, eraseP_attribute_eq, Bool.not_false]
    exact mk_map_congr (fun x => by rcases x with a | e <;> simp [renamed]) b _

/-- With `skip` elements are renamed unless there is one of the same sort under the new name. -/
theorem renameElement_eq (h : old ≠ new) (skip : Bool) (b : Body) :
    renameElement new skip old b = { b with
      structures := (if b.hasAttribute old && !skip then b.structures.eraseP (Structure.isAttribute new)
        else b.structures).map (renamed old new (!(skip && b.hasAttribute new)) (!(skip && b.hasBlock new))) } := by
  have hfirst : (if b.hasAttribute old then renameAttribute old new skip b else b) = { b with
      structures := (if b.hasAttribute old && !skip then b.structures.eraseP (Structure.isAttribute new)
        else b.structures).map (renamed old new (!(skip && b.hasAttribute new)) false) } := by
    cases hold : b.hasAttribute old with
    | true =>
      rw [if_pos rfl, renameAttribute_eq]
      cases skip <;> rfl
    | false =>
      have hnone := (Body.hasAttribute_eq_any b old).symm.trans hold
      rw [if_neg Bool.false_ne_true, Bool.false_and, if_neg Bool.false_ne_true,
        map_renamed_eq_self (.inr hnone) (.inl rfl), Body.mk_self]
  unfold renameElement
  rw [if_neg h, hfirst]
  dsimp only
  rw [Body.isEmpty_blockIndices, Bool.not_not]
  cases skip with
  | false =>
    simp only [Bool.false_and, Bool.not_false, Bool.and_true, if_neg Bool.false_ne_true]
    rw [← map_renamed_renamed true true]
    exact mk_map_congr (fun x => by rcases x with a | e <;> simp [renamed]) b _
  | true =>
    simp only [Bool.true_and, Bool.not_true, Bool.and_false, if_neg Bool.false_ne_true]
    have hkept : Body.hasBlock { b with
        structures := b.structures.map (renamed old new (!b.hasAttribute new) false) } new = b.hasBlock new :=
      any_isBlockOf_renamed _ _
    rw [hkept]
    cases b.hasBlock new with
    | true => rw [if_pos rfl, Bool.not_true]
    | false =>
      rw [if_neg Bool.false_ne_true, Bool.not_false, ← map_renamed_renamed _ true]
      exact mk_map_congr (fun x => by rcases x with a | e <;> simp [renamed]) b _

theorem exists_insertIdx {α : Type} {xs : List α} {i : Nat} (h : i ≤ xs.length) (x : α) :
    ∃ before after, xs = before ++ after ∧ xs.insertIdx i x = before ++ x :: after := by
  induction xs generalizing i with
  | nil =>
    obtain rfl : i = 0 := Nat.le_zero.mp h
    exact ⟨[], [], rfl, rfl⟩
  | cons y rest ih =>
    cases i with
    | zero => exact ⟨[], y :: rest, rfl, rfl⟩
    | succ i =>
      obtain ⟨before, after, hsplit, hinsert⟩ := ih (Nat.le_of_succ_le_succ h)
      exact ⟨y :: before, after, by rw [hsplit, List.cons_append], by rw [List.insertIdx_succ_cons, hinsert]; rfl⟩

theorem renameBlock_static {e : Block} (h : e.isDynamic = false) : renameBlock old new e = { e with ident := new } := by
  unfold renameBlock
  split
  · rw [h]
    rfl
  · rfl

/-- A dynamic block names an iterator afterwards, if the old name can be read as a variable. -/
theorem renameBlock_dynamic (old new : String) {e : Block} {label : Label} (h : e.isDynamic = true)
    (hlabels : e.labels = [label]) :
    ∃ body, renameBlock old new e = { e with labels := [{ label with text := new, quoted := true }], body } ∧
      (isIdentifier old = true → old ∉ literalWords → e.body.Binds old body) := by
  have hiterator : isIdentifier "iterator" = true := by decide
  unfold renameBlock
  rw [hlabels]
  dsimp only
  rw [if_pos h]
  split
  · exact ⟨e.body, rfl, fun _ _ => .bound ‹_›⟩
  · have hfree : e.body.hasAttribute "iterator" = false := Bool.eq_false_iff.mpr ‹_›
    split
    · rename_i hfailed
      refine ⟨e.body, rfl, fun hold hvariable => ?_⟩
      obtain ⟨a, hread, -⟩ := parseAttribute_variable hiterator hold hvariable
      rw [hread] at hfailed
      cases hfailed
    · rename_i a hread
      have hposition : ((e.body.attributeIndex? "for_each").map (· + 1)).getD 0 ≤ e.body.structures.length := by
        cases hfor : e.body.attributeIndex? "for_each" with
        | none => exact Nat.zero_le _
        | some i => exact (List.findIdx?_eq_some_iff_getElem.mp hfor).1
      obtain ⟨before, after, hsplit, hinsert⟩ := exists_insertIdx hposition (.attribute a)
      rw [hinsert]
      refine ⟨_, rfl, fun hold hvariable => ?_⟩
      obtain ⟨a', hread', hkey, -, hsource⟩ := parseAttribute_variable hiterator hold hvariable
      obtain rfl : a' = a := by rw [hread] at hread'; exact (Except.ok.inj hread').symm
      exact .added hfree hkey hsource hsplit

theorem logicalType_renameBlock (hnew : new ≠ "dynamic") (e : Block) : (renameBlock old new e).logicalType = new := by
  cases hdynamic : e.isDynamic with
  | true =>
    obtain ⟨label, hident, hlabels, -⟩ := Block.exists_label_of_isDynamic hdynamic
    obtain ⟨body, heq, -⟩ := renameBlock_dynamic old new hdynamic hlabels
    rw [heq]
    simp [Block.logicalType, hident]
  | false =>
    have hstatic : Block.isDynamic { e with ident := new } = false := by simp [Block.isDynamic, hnew]
    rw [renameBlock_static hdynamic, Block.logicalType_of_static hstatic]

theorem structure_renamed (hold : isIdentifier old = true) (hvariable : old ∉ literalWords) (x : Structure) :
    x.Renamed old new (renamed old new true true x) := by
  rcases x with a | e
  · by_cases hkey : a.key = old
    · simp only [renamed, hkey, Bool.true_and, decide_true, if_true]
      exact .key hkey
    · simp only [renamed, hkey, Bool.true_and, decide_false, Bool.false_eq_true, if_false]
      exact .other (decide_eq_false hkey) rfl
  · by_cases htype : e.logicalType = old
    · simp only [renamed, htype, Bool.true_and, decide_true, if_true]
      cases hdynamic : e.isDynamic with
      | true =>
        obtain ⟨label, -, hlabels, -⟩ := Block.exists_label_of_isDynamic hdynamic
        obtain ⟨body, heq, hbinds⟩ := renameBlock_dynamic old new hdynamic hlabels
        have hbinds := hbinds hold hvariable
        rw [heq]
        refine .label htype hdynamic hlabels hbinds rfl ?_
        rw [← htype] at hbinds
        exact hbinds.iteratorName _
      | false =>
        rw [renameBlock_static hdynamic]
        exact .type htype hdynamic
    · simp only [renamed, htype, Bool.true_and, decide_false, Bool.false_eq_true, if_false]
      exact .other rfl (decide_eq_false htype)

theorem renamed_lacks (h : old ≠ new) (hdynamic : new ≠ "dynamic") (x : Structure) :
    (renamed old new true true x).isAttribute old = false ∧ (renamed old new true true x).isBlockOf old = false := by
  rcases x with a | e
  · refine ⟨?_, rfl⟩
    by_cases hkey : a.key = old
    · simp [renamed, hkey, Structure.isAttribute, Ne.symm h]
    · simp [renamed, hkey, Structure.isAttribute]
  · refine ⟨rfl, ?_⟩
    by_cases htype : e.logicalType = old
    · simp [renamed, htype, Structure.isBlockOf, logicalType_renameBlock hdynamic, Ne.symm h]
    · simp [renamed, htype, Structure.isBlockOf]

/-- Without `skip` all that has the old name is renamed. -/
theorem renameElement_renamed (h : old ≠ new) (hdynamic : new ≠ "dynamic") (hold : isIdentifier old = true)
    (hvariable : old ∉ literalWords) (b : Body) : b.Renamed old new (renameElement new false old b) := by
  have heq := renameElement_eq h false b
  simp only [Bool.false_and, Bool.not_false, Bool.and_true] at heq
  rw [heq]
  refine ⟨fun x hx => ?_, _, rfl, ?_⟩
  · obtain ⟨y, -, rfl⟩ := List.mem_map.mp hx
    exact renamed_lacks h hdynamic y
  · rw [List.forall₂_map_right_iff, List.forall₂_same]
    exact fun x _ => structure_renamed hold hvariable x

theorem renameElement_of_lacks (h : old ≠ new) (skip : Bool) {b : Body} (hlacks : b.Lacks old) :
    renameElement new skip old b = b := by
  have hkeys : b.structures.any (Structure.isAttribute old) = false :=
    List.any_eq_false.mpr fun x hx => by simp [(hlacks x hx).1]
  have htypes : b.structures.any (Structure.isBlockOf old) = false :=
    List.any_eq_false.mpr fun x hx => by simp [(hlacks x hx).2]
  rw [renameElement_eq h, Body.hasAttribute_eq_any b old, hkeys, Bool.false_and, if_neg Bool.false_ne_true,
    map_renamed_eq_self (.inr hkeys) (.inr htypes), Body.mk_self]

namespace Source

/-- A structure after a change of the content of all blocks of a type. A dynamic block may have none. -/
inductive Structure.Through (type : String) (p : Body → Body → Prop) : Structure → Structure → Prop where
  | entered {e : Block} {c d : Body} (htype : e.logicalType = type) (hcontent : e.content? = some c) (h : p c d) :
    Through type p (.block e) (.block (e.putContent d))
  | passed {x : Structure} (h : ∀ e, x = .block e → e.logicalType = type → e.content? = none) : Through type p x x

/-- A body after a change of all bodies that the types of a path lead to. -/
def Body.Along (p : Body → Body → Prop) : (path : List String) → Body → Body → Prop
  | [], b, d => p b d
  | type :: rest, b, d =>
    ∃ structures, d = { b with structures } ∧
      List.Forall₂ (Structure.Through type (Along p rest)) b.structures structures

end Source

/-- A structure with another content, if it is a block of a type that has one. -/
def through (type : String) (f : Body → Body) : Structure → Structure
  | .attribute a => .attribute a
  | .block e => .block (if e.logicalType = type then (e.modifyContent? f).getD e else e)

theorem atAllPaths_cons (f : String → Body → Body) (type : String) {rest : List String} (h : rest ≠ []) (b : Body) :
    atAllPaths f (type :: rest) b = { b with structures := b.structures.map (through type (atAllPaths f rest)) } := by
  cases rest with
  | nil => exact absurd rfl h
  | cons next rest => exact mk_map_congr (fun x => by rcases x with a | e <;> rfl) b b.structures

theorem through_cases (type : String) (f : Body → Body) (x : Structure) :
    (∃ e c, x = .block e ∧ e.logicalType = type ∧ e.content? = some c ∧
      through type f x = .block (e.putContent (f c))) ∨
    ((∀ e, x = .block e → e.logicalType = type → e.content? = none) ∧ through type f x = x) := by
  rcases x with a | e
  · exact .inr ⟨nofun, rfl⟩
  · rw [through]
    split
    · cases hcontent : e.content? with
      | some c => exact .inl ⟨e, c, rfl, ‹_›, hcontent, by rw [Block.modifyContent?_eq, hcontent]; rfl⟩
      | none =>
        refine .inr ⟨?_, by rw [Block.modifyContent?_eq, hcontent]; rfl⟩
        rintro _ ⟨⟩ -
        exact hcontent
    · refine .inr ⟨?_, rfl⟩
      rintro _ ⟨⟩ htype
      exact absurd htype ‹_›

theorem atAllPaths_along {f : String → Body → Body} {element : String} {p : Body → Body → Prop}
    (h : ∀ c, p c (f element c)) (path : List String) (b : Body) :
    b.Along p path (atAllPaths f (path ++ [element]) b) := by
  induction path generalizing b with
  | nil => exact h b
  | cons type rest ih =>
    rw [List.cons_append, atAllPaths_cons f type (by simp)]
    refine ⟨_, rfl, ?_⟩
    rw [List.forall₂_map_right_iff, List.forall₂_same]
    intro x _
    obtain ⟨e, c, rfl, htype, hcontent, heq⟩ | ⟨hpassed, heq⟩ :=
      through_cases type (atAllPaths f (rest ++ [element])) x
    · rw [heq]
      exact .entered htype hcontent (ih c)
    · rw [heq]
      exact .passed hpassed

/-- What changes nothing the second time at the end of a path does not do so from its start. -/
theorem atAllPaths_atAllPaths {f : String → Body → Body} {element : String}
    (h : ∀ c, f element (f element c) = f element c) (path : List String) (b : Body) :
    atAllPaths f (path ++ [element]) (atAllPaths f (path ++ [element]) b) = atAllPaths f (path ++ [element]) b := by
  induction path generalizing b with
  | nil => exact h b
  | cons type rest ih =>
    rw [List.cons_append, atAllPaths_cons f type (by simp), atAllPaths_cons f type (by simp)]
    dsimp only
    rw [List.map_map]
    congr 1
    refine List.map_congr_left fun x _ => ?_
    obtain ⟨e, c, rfl, htype, hcontent, heq⟩ | ⟨-, heq⟩ := through_cases type (atAllPaths f (rest ++ [element])) x
    · rw [Function.comp_apply, heq, through, Block.putContent_logicalType, if_pos htype, Block.modifyContent?_eq,
        Block.content?_putContent hcontent, Option.map_some, Option.getD_some, ih,
        Block.putContent_putContent hcontent]
    · rw [Function.comp_apply, heq, heq]

end Terrasmith
