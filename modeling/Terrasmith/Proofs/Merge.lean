import Mathlib.Data.List.Basic
import Mathlib.Data.List.Forall2
import Terrasmith.Source.Merge

/-!
One step of a merge. A structure of a patch either goes to a slot of the body, the first place that takes it, or
is appended. What it does in a slot leaves the header there alone, so the slots of all other structures stay where
they are.
-/
namespace Terrasmith.Source

@[simp] theorem Body.mk_self (b : Body) : Body.mk b.structures b.head b.tail b.oneLine b.openEnd = b := by
  cases b; rfl

@[simp] theorem Block.mk_self (b : Block) :
    Block.mk b.lead b.ident b.identTrail b.labels b.body b.trail b.span? = b := by
  cases b; rfl

/-- Replacing an element by itself. -/
theorem set_of_getElem? {α : Type} {xs : List α} {i : Nat} {x : α} (h : xs[i]? = some x) : xs.set i x = xs := by
  obtain ⟨hlt, hget⟩ := List.getElem?_eq_some_iff.mp h
  rw [← hget, List.set_getElem_self]

/-- Replacing an element by one that a test does not tell from it changes nothing for the test. -/
theorem findIdx?_set {α : Type} {p : α → Bool} {xs : List α} {i : Nat} {x y : α} (hx : xs[i]? = some x)
    (h : p y = p x) : (xs.set i y).findIdx? p = xs.findIdx? p := by
  induction xs generalizing i with
  | nil => simp at hx
  | cons z zs ih =>
    cases i with
    | zero =>
      obtain rfl : z = x := by simpa using hx
      simp only [List.set_cons_zero, List.findIdx?_cons, h]
    | succ i =>
      have hi := ih (i := i) (by simpa using hx)
      simp only [List.set_cons_succ, List.findIdx?_cons, hi]

/-- The place of the first element that matches tells what stands before and after it. -/
theorem findIdx?_eq_some_iff_append {α : Type} {p : α → Bool} {items : List α} {i : Nat} :
    items.findIdx? p = some i ↔ ∃ before a after,
      items = before ++ a :: after ∧ before.length = i ∧ (∀ x ∈ before, p x = false) ∧ p a = true := by
  constructor
  · intro h
    obtain ⟨hlt, ha, hbefore⟩ := List.findIdx?_eq_some_iff_getElem.mp h
    refine ⟨items.take i, items[i], items.drop (i + 1), by simp, by simp; omega, fun x hx => ?_, ha⟩
    obtain ⟨j, hj, rfl⟩ := List.mem_take_iff_getElem.mp hx
    simpa using hbefore j (by omega)
  · rintro ⟨before, a, after, rfl, rfl, hbefore, ha⟩
    rw [List.findIdx?_append, List.findIdx?_eq_none_iff.mpr hbefore, List.findIdx?_cons, if_pos ha]
    simp

namespace Block

/-- A block with another content. -/
def putContent (e : Block) (c : Body) : Block := (e.modifyContent? fun _ => c).getD e

theorem putContent_static {e : Block} (hd : e.isDynamic = false) (c : Body) :
    e.putContent c = { e with body := c } := by
  simp [putContent, modifyContent?, hd]

theorem putContent_dynamic {e child : Block} {i : Nat} (hd : e.isDynamic = true)
    (hi : e.contentIndex? = some i) (hc : e.body.structures[i]? = some (.block child)) (c : Body) :
    e.putContent c = { e with body := { e.body with
      structures := e.body.structures.set i (.block { child with body := c }) } } := by
  simp [putContent, modifyContent?, Body.modifyBlockAt?, hd, hi, hc, Structure.block?]

/-- Where the content of a block is: in its own body or, in a dynamic block, in that of a child. -/
theorem exists_label_of_isDynamic {e : Block} (h : e.isDynamic = true) :
    ∃ label, e.ident = "dynamic" ∧ e.labels = [label] ∧ e.logicalType = label.text := by
  simp only [isDynamic, Bool.and_eq_true, decide_eq_true_eq] at h
  obtain ⟨hident, hlength⟩ := h
  obtain ⟨label, hlabels⟩ := List.length_eq_one_iff.mp hlength
  exact ⟨label, hident, hlabels, by simp [logicalType, hident, hlabels]⟩

theorem logicalType_of_static {e : Block} (h : e.isDynamic = false) : e.logicalType = e.ident := by
  unfold logicalType
  split
  · simp_all [isDynamic]
  · rfl

theorem content?_cases {e : Block} {c : Body} (h : e.content? = some c) :
    (e.isDynamic = false ∧ e.body = c) ∨
    (e.isDynamic = true ∧ ∃ i child, e.contentIndex? = some i ∧
      e.body.structures[i]? = some (.block child) ∧ child.body = c) := by
  unfold content? at h
  cases hd : e.isDynamic with
  | false => exact .inl ⟨rfl, by simpa [hd] using h⟩
  | true =>
    refine .inr ⟨rfl, ?_⟩
    simp only [hd, if_true, Option.bind_eq_bind, Option.bind_eq_some_iff, Option.some.injEq] at h
    obtain ⟨i, hi, child, ⟨s, hs, hb⟩, rfl⟩ := h
    rcases s with a | b
    · simp [Structure.block?] at hb
    · obtain rfl : b = child := by simpa [Structure.block?] using hb
      exact ⟨i, b, hi, hs, rfl⟩

/-- Only a block with a content can be changed there. -/
theorem modifyContent?_eq (e : Block) (f : Body → Body) :
    e.modifyContent? f = e.content?.map fun c => e.putContent (f c) := by
  cases hd : e.isDynamic with
  | false => simp [modifyContent?, content?, putContent_static hd, hd]
  | true =>
    cases hi : e.contentIndex? with
    | none => simp [modifyContent?, content?, hd, hi]
    | some i =>
      cases hs : e.body.structures[i]? with
      | none => simp [modifyContent?, content?, Body.modifyBlockAt?, hd, hi, hs]
      | some s =>
        rcases s with a | child
        · simp [modifyContent?, content?, Body.modifyBlockAt?, hd, hi, hs, Structure.block?]
        · simp [modifyContent?, content?, Body.modifyBlockAt?, hd, hi, hs, Structure.block?,
            putContent_dynamic hd hi hs]

@[simp] theorem putContent_ident (e : Block) (c : Body) : (e.putContent c).ident = e.ident := by
  unfold putContent
  rw [modifyContent?]
  split
  · cases hi : e.contentIndex? with
    | none => simp
    | some i => cases h : e.body.modifyBlockAt? i fun child => some { child with body := c } <;> simp [h]
  · rfl

@[simp] theorem putContent_labels (e : Block) (c : Body) : (e.putContent c).labels = e.labels := by
  unfold putContent
  rw [modifyContent?]
  split
  · cases hi : e.contentIndex? with
    | none => simp
    | some i => cases h : e.body.modifyBlockAt? i fun child => some { child with body := c } <;> simp [h]
  · rfl

@[simp] theorem putContent_isDynamic (e : Block) (c : Body) : (e.putContent c).isDynamic = e.isDynamic := by
  simp [isDynamic]

@[simp] theorem putContent_labelTexts (e : Block) (c : Body) : (e.putContent c).labelTexts = e.labelTexts := by
  simp [labelTexts]

@[simp] theorem putContent_logicalType (e : Block) (c : Body) : (e.putContent c).logicalType = e.logicalType := by
  simp [logicalType]

theorem ident_of_contentIndex? {e child : Block} {i : Nat} (hi : e.contentIndex? = some i)
    (hc : e.body.structures[i]? = some (.block child)) : child.ident = "content" := by
  obtain ⟨hlt, ht, -⟩ := List.findIdx?_eq_some_iff_getElem.mp hi
  obtain ⟨_, hget⟩ := List.getElem?_eq_some_iff.mp hc
  simpa [hget] using ht

/-- The child that holds the content of a dynamic block is found again after a change of its body. -/
theorem contentIndex?_set {e child : Block} {i : Nat} (hi : e.contentIndex? = some i)
    (hc : e.body.structures[i]? = some (.block child)) (c : Body) :
    Block.contentIndex? { e with body := { e.body with
      structures := e.body.structures.set i (.block { child with body := c }) } } = some i := by
  unfold contentIndex? at hi ⊢
  rw [← hi]
  exact findIdx?_set hc rfl

/-- What is put is what is there. -/
theorem content?_putContent {e : Block} {c : Body} (h : e.content? = some c) (d : Body) :
    (e.putContent d).content? = some d := by
  have hd' := putContent_isDynamic e d
  obtain ⟨hd, -⟩ | ⟨hd, i, child, hi, hc, -⟩ := content?_cases h
  · rw [content?, hd', hd, putContent_static hd]
    rfl
  · have hlt : i < e.body.structures.length := (List.getElem?_eq_some_iff.mp hc).1
    have hi' := contentIndex?_set hi hc d
    rw [content?, hd', hd, putContent_dynamic hd hi hc, hi']
    simp [hlt, Structure.block?]

theorem putContent_putContent {e : Block} {c : Body} (h : e.content? = some c) (d₁ d₂ : Body) :
    (e.putContent d₁).putContent d₂ = e.putContent d₂ := by
  have hd' := putContent_isDynamic e d₁
  obtain ⟨hd, -⟩ | ⟨hd, i, child, hi, hc, -⟩ := content?_cases h
  · rw [putContent_static (hd'.trans hd), putContent_static hd, putContent_static hd]
  · have hlt : i < e.body.structures.length := (List.getElem?_eq_some_iff.mp hc).1
    have hi' := contentIndex?_set hi hc d₁
    have hc' : (e.body.structures.set i (.block { child with body := d₁ }))[i]? =
        some (.block { child with body := d₁ }) := by simp [hlt]
    rw [putContent_dynamic hd hi hc] at hd' ⊢
    rw [putContent_dynamic (hd'.trans hd) hi' hc', putContent_dynamic hd hi hc]
    simp

theorem putContent_self {e : Block} {c : Body} (h : e.content? = some c) : e.putContent c = e := by
  obtain ⟨hd, rfl⟩ | ⟨hd, i, child, hi, hc, rfl⟩ := content?_cases h
  · rw [putContent_static hd, mk_self]
  · rw [putContent_dynamic hd hi hc]
    simp only [mk_self, set_of_getElem? hc, Body.mk_self]

/-- What stands before a block has nothing to do with its content. -/
theorem putContent_withLead {e : Block} {c : Body} (h : e.content? = some c) (d : Body) (lead : String) :
    Block.putContent { e with lead } d = { e.putContent d with lead } := by
  obtain ⟨hd, -⟩ | ⟨hd, i, child, hi, hc, -⟩ := content?_cases h
  · rw [putContent_static hd, putContent_static (e := { e with lead }) hd]
  · rw [putContent_dynamic hd hi hc, putContent_dynamic (e := { e with lead }) hd hi hc]

end Block

namespace Structure

@[simp] theorem attribute?_attribute (a : Attribute) : (Structure.attribute a).attribute? = some a := rfl

@[simp] theorem attribute?_block (b : Block) : (Structure.block b).attribute? = none := rfl

@[simp] theorem block?_block (b : Block) : (Structure.block b).block? = some b := rfl

@[simp] theorem block?_attribute (a : Attribute) : (Structure.attribute a).block? = none := rfl

/-- Whether a structure of a patch goes to the place of an existing one: an attribute of the same key, or a block
that it is merged into. -/
def takes : (existing patch : Structure) → Bool
  | .attribute old, .attribute a => old.key = a.key
  | .block e, .block q => e.accepts q
  | _, _ => false

@[simp] theorem takes_attribute (old a : Attribute) :
    (Structure.attribute old).takes (.attribute a) = decide (old.key = a.key) := rfl

@[simp] theorem takes_block (e q : Block) : (Structure.block e).takes (.block q) = e.accepts q := rfl

@[simp] theorem takes_attribute_block (old : Attribute) (q : Block) :
    (Structure.attribute old).takes (.block q) = false := rfl

@[simp] theorem takes_block_attribute (e : Block) (a : Attribute) :
    (Structure.block e).takes (.attribute a) = false := rfl

/-- Whether anything can be merged into a structure: dynamic blocks need a content. -/
def isOpen : Structure → Bool
  | .attribute _ => true
  | .block e => e.content?.isSome

/-- A structure after one of a patch has been merged into it. -/
def absorb : (existing patch : Structure) → Structure
  | .attribute old, .attribute a => .attribute (old.withValue a.expression)
  | .block e, .block q =>
    .block ((e.modifyContent? fun c => c.mergeStructures q.body.structures).getD e)
  | s, _ => s

end Structure

/-- The place that a structure of a patch is merged into. -/
def Body.slot? (b : Body) (s : Structure) : Option Nat :=
  (b.structures.findIdx? (·.takes s)).filter fun i => b.structures[i]?.any Structure.isOpen

namespace Body

theorem mem_blocks {b : Body} {q : Block} : q ∈ b.blocks ↔ Structure.block q ∈ b.structures := by
  rw [blocks, List.mem_filterMap]
  constructor
  · rintro ⟨s, hs, hq⟩
    rcases s with a | q'
    · cases hq
    · cases hq
      exact hs
  · exact fun h => ⟨_, h, rfl⟩

theorem slot?_of_findIdx? {b : Body} {s x : Structure} {i : Nat} (hi : b.structures.findIdx? (·.takes s) = some i)
    (hx : b.structures[i]? = some x) : b.slot? s = if x.isOpen then some i else none := by
  unfold slot?
  rw [hi, Option.filter_some, hx, Option.any_some]

theorem slot?_of_findIdx?_none {b : Body} {s : Structure} (hi : b.structures.findIdx? (·.takes s) = none) :
    b.slot? s = none := by
  unfold slot?
  rw [hi, Option.filter_none]

/-- The first structure that takes one of a patch. -/
theorem exists_of_findIdx? {b : Body} {s : Structure} {i : Nat} (hi : b.structures.findIdx? (·.takes s) = some i) :
    ∃ x, b.structures[i]? = some x ∧ x.takes s = true := by
  obtain ⟨hlt, ht, -⟩ := List.findIdx?_eq_some_iff_getElem.mp hi
  exact ⟨_, List.getElem?_eq_getElem hlt, ht⟩

/-- A slot is the first place that takes a structure, and it is open. -/
theorem slot?_eq_some {b : Body} {s : Structure} {i : Nat} (h : b.slot? s = some i) :
    b.structures.findIdx? (·.takes s) = some i ∧
      ∃ x, b.structures[i]? = some x ∧ x.takes s = true ∧ x.isOpen = true := by
  cases hi : b.structures.findIdx? (·.takes s) with
  | none => rw [slot?_of_findIdx?_none hi] at h; cases h
  | some j =>
    obtain ⟨x, hx, ht⟩ := exists_of_findIdx? hi
    rw [slot?_of_findIdx? hi hx] at h
    by_cases ho : x.isOpen = true
    · rw [if_pos ho] at h
      cases h
      exact ⟨rfl, x, hx, ht, ho⟩
    · rw [if_neg ho] at h
      cases h

theorem isAttribute_eq_takes (a : Attribute) : Structure.isAttribute a.key = (·.takes (.attribute a)) := by
  funext s
  rcases s with old | e <;> rfl

theorem acceptingIndex?_eq (b : Body) (q : Block) :
    b.acceptingIndex? q = b.structures.findIdx? (·.takes (.block q)) := by
  unfold acceptingIndex?
  congr 1
  funext s
  rcases s with old | e <;> rfl

/-- A key is taken exactly if some structure is the attribute of that key. -/
theorem hasAttribute_eq_any (b : Body) (key : String) :
    b.hasAttribute key = b.structures.any (Structure.isAttribute key) := by
  unfold hasAttribute attribute? attributes
  induction b.structures with
  | nil => rfl
  | cons s rest ih =>
    rcases s with a | e
    · by_cases h : a.key = key
      · simp [Structure.attribute?, Structure.isAttribute, h]
      · simpa [Structure.attribute?, Structure.isAttribute, h] using ih
    · simpa [Structure.attribute?, Structure.isAttribute] using ih

theorem set_eq_modify {α : Type} {xs : List α} {i : Nat} {x : α} (h : xs[i]? = some x) (f : α → α) :
    xs.set i (f x) = xs.modify i f := by
  simp [List.modify_eq_set_getElem?, h]

theorem push_unindent_attribute {b : Body} {a : Attribute} (h : b.hasAttribute a.key = false) :
    b.push (Structure.attribute a).unindent =
      { b with structures := b.structures ++ [(Structure.attribute a).unindent] } := by
  unfold Structure.unindent
  split <;> simp [push, Structure.withLead, h]

theorem push_unindent_block (b : Body) (q : Block) :
    b.push (Structure.block q).unindent =
      { b with structures := b.structures ++ [(Structure.block q).unindent] } := by
  unfold Structure.unindent
  split <;> simp [push, Structure.withLead]

theorem setAttribute_eq (b : Body) (a : Attribute) :
    b.setAttribute a = match b.slot? (.attribute a) with
      | some i => { b with structures := b.structures.modify i (·.absorb (.attribute a)) }
      | none => { b with structures := b.structures ++ [(Structure.attribute a).unindent], oneLine := false } := by
  unfold setAttribute attributeIndex?
  rw [isAttribute_eq_takes]
  cases hi : b.structures.findIdx? (·.takes (.attribute a)) with
  | none =>
    have hk : b.hasAttribute a.key = false := by
      rw [hasAttribute_eq_any, isAttribute_eq_takes]
      simpa [List.findIdx?_eq_none_iff] using hi
    rw [slot?_of_findIdx?_none hi]
    exact push_unindent_attribute (b := { b with oneLine := false }) hk
  | some i =>
    obtain ⟨x, hx, ht⟩ := exists_of_findIdx? hi
    rcases x with old | e
    · have hset := set_eq_modify hx (·.absorb (.attribute a))
      rw [slot?_of_findIdx? hi hx, show (Structure.attribute old).isOpen = true from rfl, if_pos rfl]
      dsimp only
      rw [← hset]
      simp [modifyAttributeAt?, hx, Structure.attribute?, Structure.absorb]
    · simp at ht

theorem mergeStructure_block_eq (b : Body) (q : Block) :
    b.mergeStructure (.block q) =
      ((b.acceptingIndex? q).bind fun i => b.modifyBlockAt? i fun e =>
        e.modifyContent? fun c => c.mergeStructures q.body.structures).getD (b.pushBlock q) := by
  rcases q with ⟨lead, ident, identTrail, labels, ⟨structures, head, tail, oneLine, openEnd⟩, trail, span?⟩
  rw [mergeStructure]
  rfl

/-- What one structure of a patch does: it is merged into its slot or appended without its margin. -/
theorem mergeStructure_eq (b : Body) (s : Structure) :
    b.mergeStructure s = match b.slot? s with
      | some i => { b with structures := b.structures.modify i (·.absorb s) }
      | none => { b with structures := b.structures ++ [s.unindent], oneLine := false } := by
  rcases s with a | q
  · rw [mergeStructure, setAttribute_eq]
  · rw [mergeStructure_block_eq, acceptingIndex?_eq]
    have hpush : b.pushBlock q = { b with structures := b.structures ++ [(Structure.block q).unindent],
                                          oneLine := false } :=
      push_unindent_block { b with oneLine := false } q
    cases hi : b.structures.findIdx? (·.takes (.block q)) with
    | none =>
      rw [slot?_of_findIdx?_none hi]
      exact hpush
    | some i =>
      obtain ⟨x, hx, ht⟩ := exists_of_findIdx? hi
      rcases x with old | e
      · simp at ht
      · rw [slot?_of_findIdx? hi hx]
        cases hc : e.content? with
        | none =>
          simp [modifyBlockAt?, hx, Structure.block?, Block.modifyContent?_eq, Structure.isOpen, hc, hpush]
        | some c =>
          have hset := set_eq_modify hx (·.absorb (.block q))
          have ho : (Structure.block e).isOpen = true := by simp [Structure.isOpen, hc]
          rw [if_pos ho]
          dsimp only
          rw [← hset]
          simp [modifyBlockAt?, hx, Structure.block?, Structure.absorb, Block.modifyContent?_eq, hc]

@[simp] theorem mergeStructures_nil (b : Body) : b.mergeStructures [] = b := by
  rw [mergeStructures]

@[simp] theorem mergeStructures_cons (b : Body) (s : Structure) (rest : List Structure) :
    b.mergeStructures (s :: rest) = (b.mergeStructure s).mergeStructures rest := by
  rw [mergeStructures]

theorem mergeStructures_append (b : Body) (first second : List Structure) :
    b.mergeStructures (first ++ second) = (b.mergeStructures first).mergeStructures second := by
  induction first generalizing b with
  | nil => simp
  | cons s rest ih => simpa using ih (b.mergeStructure s)

theorem mergeStructure_of_slot {b : Body} {s : Structure} {i : Nat} (h : b.slot? s = some i) :
    b.mergeStructure s = { b with structures := b.structures.modify i (·.absorb s) } := by
  rw [mergeStructure_eq, h]

theorem mergeStructure_of_no_slot {b : Body} {s : Structure} (h : b.slot? s = none) :
    b.mergeStructure s = { b with structures := b.structures ++ [s.unindent], oneLine := false } := by
  rw [mergeStructure_eq, h]

end Body

namespace Structure

@[simp] theorem takes_unindent (x s : Structure) : x.unindent.takes s = x.takes s := by
  unfold unindent
  split
  · rcases x with a | e <;> rcases s with a' | q <;> rfl
  · rfl

@[simp] theorem isOpen_unindent (x : Structure) : x.unindent.isOpen = x.isOpen := by
  unfold unindent
  split
  · rcases x with a | e <;> rfl
  · rfl

/-- A structure is taken by itself. -/
theorem takes_self (s : Structure) : s.takes s = true := by
  rcases s with a | q
  · simp [takes]
  · simp only [takes, Block.accepts, Bool.and_not_self, Bool.false_eq_true, if_false]
    simp

theorem takes_absorb (x s t : Structure) : (x.absorb s).takes t = x.takes t := by
  rcases x with old | e
  · rcases s with a | q <;> rcases t with a' | q' <;> rfl
  · rcases s with a | q
    · rfl
    · rcases t with a' | q'
      · rfl
      · simp only [absorb, takes, Block.accepts, Block.modifyContent?_eq]
        cases e.content? <;> simp

theorem isOpen_absorb (x s : Structure) : (x.absorb s).isOpen = x.isOpen := by
  rcases x with old | e
  · rcases s with a | q <;> rfl
  · rcases s with a | q
    · rfl
    · simp only [absorb, isOpen, Block.modifyContent?_eq]
      cases hc : e.content? with
      | none => simp [hc]
      | some c => simp [Block.content?_putContent hc]

end Structure

/-- Whether two structures take the same structures of patches. -/
def SameHeader (x y : Structure) : Prop :=
  (∀ s, x.takes s = y.takes s) ∧ x.isOpen = y.isOpen

theorem sameHeader_absorb (x s : Structure) : SameHeader (x.absorb s) x :=
  ⟨fun t => x.takes_absorb s t, x.isOpen_absorb s⟩

theorem sameHeader_unindent (x : Structure) : SameHeader x.unindent x :=
  ⟨fun s => x.takes_unindent s, x.isOpen_unindent⟩

theorem forall₂_sameHeader_refl (xs : List Structure) : List.Forall₂ SameHeader xs xs :=
  List.forall₂_same.mpr fun _ _ => ⟨fun _ => rfl, rfl⟩

theorem findIdx?_sameHeader {xs ys : List Structure} (h : List.Forall₂ SameHeader xs ys) (s : Structure) :
    xs.findIdx? (·.takes s) = ys.findIdx? (·.takes s) := by
  induction h with
  | nil => rfl
  | cons hxy _ ih => simp only [List.findIdx?_cons, hxy.1 s, ih]

theorem any_isOpen_sameHeader {xs ys : List Structure} (h : List.Forall₂ SameHeader xs ys) (i : Nat) :
    xs[i]?.any Structure.isOpen = ys[i]?.any Structure.isOpen := by
  induction h generalizing i with
  | nil => rfl
  | cons hxy _ ih =>
    cases i with
    | zero => simpa using hxy.2
    | succ i => simpa using ih i

namespace Body

/-- Bodies whose structures have the same headers have the same slots. -/
theorem slot?_sameHeader {b d : Body} (h : List.Forall₂ SameHeader b.structures d.structures) (s : Structure) :
    b.slot? s = d.slot? s := by
  unfold slot?
  rw [findIdx?_sameHeader h s]
  congr 1
  funext i
  exact any_isOpen_sameHeader h i

theorem forall₂_modify_absorb {xs ys : List Structure} (h : List.Forall₂ SameHeader xs ys) (i : Nat) (s : Structure) :
    List.Forall₂ SameHeader (xs.modify i (·.absorb s)) ys := by
  induction h generalizing i with
  | nil => simp
  | @cons x y _ _ hxy hrest ih =>
    cases i with
    | zero =>
      obtain ⟨htakes, hopen⟩ := sameHeader_absorb x s
      exact .cons ⟨fun t => (htakes t).trans (hxy.1 t), hopen.trans hxy.2⟩ hrest
    | succ i => exact .cons hxy (ih i)

/-- What is merged into a slot moves no slot. -/
theorem slot?_modify_absorb (b : Body) (i : Nat) (s t : Structure) :
    Body.slot? { b with structures := b.structures.modify i (·.absorb s) } t = b.slot? t :=
  slot?_sameHeader (forall₂_modify_absorb (forall₂_sameHeader_refl b.structures) i s) t

/-- A slot stays where it is when structures are appended. -/
theorem slot?_append {b d : Body} (more : List Structure) {s : Structure} {i : Nat}
    (hd : d.structures = b.structures ++ more) (h : b.slot? s = some i) : d.slot? s = some i := by
  obtain ⟨hi, x, hx, -, ho⟩ := slot?_eq_some h
  have hlt : i < b.structures.length := (List.getElem?_eq_some_iff.mp hx).1
  have hi' : d.structures.findIdx? (·.takes s) = some i := by
    rw [hd, List.findIdx?_append, hi]
    rfl
  have hx' : d.structures[i]? = some x := by
    rw [hd, List.getElem?_append_left hlt, hx]
  rw [slot?_of_findIdx? hi' hx', if_pos ho]

theorem length_mergeStructure_of_slot {b : Body} {s : Structure} {i : Nat} (h : b.slot? s = some i) :
    (b.mergeStructure s).structures.length = b.structures.length := by
  simp [mergeStructure_of_slot h]

theorem length_mergeStructure_of_no_slot {b : Body} {s : Structure} (h : b.slot? s = none) :
    (b.mergeStructure s).structures.length = b.structures.length + 1 := by
  simp [mergeStructure_of_no_slot h]

theorem length_le_mergeStructure (b : Body) (s : Structure) :
    b.structures.length ≤ (b.mergeStructure s).structures.length := by
  cases h : b.slot? s with
  | none => rw [length_mergeStructure_of_no_slot h]; omega
  | some i => exact Nat.le_of_eq (length_mergeStructure_of_slot h).symm

theorem length_le_mergeStructures (b : Body) (patch : List Structure) :
    b.structures.length ≤ (b.mergeStructures patch).structures.length := by
  induction patch generalizing b with
  | nil => simp
  | cons s rest ih =>
    rw [mergeStructures_cons]
    exact Nat.le_trans (length_le_mergeStructure b s) (ih _)

/-- A merge appends at most one structure for each one of the patch. -/
theorem length_mergeStructures_le (b : Body) (patch : List Structure) :
    (b.mergeStructures patch).structures.length ≤ b.structures.length + patch.length := by
  induction patch generalizing b with
  | nil => simp
  | cons s rest ih =>
    have hs : (b.mergeStructure s).structures.length ≤ b.structures.length + 1 := by
      cases h : b.slot? s with
      | none => exact Nat.le_of_eq (length_mergeStructure_of_no_slot h)
      | some i => rw [length_mergeStructure_of_slot h]; omega
    have := ih (b.mergeStructure s)
    simp only [mergeStructures_cons, List.length_cons]
    omega

end Body

end Terrasmith.Source
