import Mathlib.Data.List.Forall2
import Terrasmith.Proofs.Merge

/-!
Trees that differ at most in their attributes. An edit of such trees goes to the same place in both, whatever their
attributes hold, so it leaves them alike.
-/
namespace Terrasmith.Source

mutual

/-- Structures that are the same but for attributes, which are related by `R`. -/
inductive Structure.Alike (R : Attribute → Attribute → Prop) : Structure → Structure → Prop
  | attribute {a a' : Attribute} (h : R a a') : Structure.Alike R (.attribute a) (.attribute a')
  | block {b b' : Block} (h : Block.Alike R b b') : Structure.Alike R (.block b) (.block b')

inductive Block.Alike (R : Attribute → Attribute → Prop) : Block → Block → Prop
  | mk {b : Block} {body : Body} (h : Body.Alike R b.body body) : Block.Alike R b { b with body }

inductive Body.Alike (R : Attribute → Attribute → Prop) : Body → Body → Prop
  | mk {b : Body} {structures : List Structure} (h : List.Forall₂ (Structure.Alike R) b.structures structures) :
    Body.Alike R b { b with structures }

end

mutual

/-- The attributes of a structure, at any depth. -/
def Structure.allAttributes : Structure → List Attribute
  | .attribute a => [a]
  | .block ⟨_, _, _, _, ⟨structures, _, _, _, _⟩, _, _⟩ => allAttributesOf structures

def allAttributesOf : List Structure → List Attribute
  | [] => []
  | s :: rest => s.allAttributes ++ allAttributesOf rest

end

mutual

/-- A structure after a change of the attributes in it, at any depth. -/
def Structure.mapAttributes (g : Attribute → Attribute) : Structure → Structure
  | .attribute a => .attribute (g a)
  | .block ⟨lead, ident, identTrail, labels, ⟨structures, head, tail, oneLine, openEnd⟩, trail, span?⟩ =>
    .block ⟨lead, ident, identTrail, labels, ⟨mapAllAttributes g structures, head, tail, oneLine, openEnd⟩, trail,
      span?⟩

def mapAllAttributes (g : Attribute → Attribute) : List Structure → List Structure
  | [] => []
  | s :: rest => s.mapAttributes g :: mapAllAttributes g rest

end

/-- A relation of attributes with the same key that still holds when both are changed in the same way. -/
structure Tallies (R : Attribute → Attribute → Prop) : Prop where
  lead {a a' : Attribute} (h : R a a') : a.lead = a'.lead
  key {a a' : Attribute} (h : R a a') : a.key = a'.key
  withLead {a a' : Attribute} (h : R a a') (lead : String) : R { a with lead } { a' with lead }
  withValue {old old' a a' : Attribute} (hold : R old old') (h : R a a') (hkey : old.key = a.key) :
    R (old.withValue a.expression) (old'.withValue a'.expression)

theorem rel_bind {α α' β β' : Type} {r : α → α' → Prop} {t : β → β' → Prop} {x : Option α} {x' : Option α'}
    {f : α → Option β} {f' : α' → Option β'} (h : Option.Rel r x x')
    (hf : ∀ a a', x = some a → r a a' → Option.Rel t (f a) (f' a')) : Option.Rel t (x.bind f) (x'.bind f') := by
  cases h with
  | none => exact .none
  | some h => exact hf _ _ rfl h

theorem rel_getD {α β : Type} {r : α → β → Prop} {x : Option α} {y : Option β} {a : α} {b : β}
    (h : Option.Rel r x y) (hab : r a b) : r (x.getD a) (y.getD b) := by
  cases h with
  | none => exact hab
  | some h => exact h

variable {R : Attribute → Attribute → Prop}

mutual

/-- Two changes of attributes that are related leave a structure alike. -/
theorem Structure.mapAttributes_alike {g g' : Attribute → Attribute} (h : ∀ a, R (g a) (g' a)) :
    (s : Structure) → (s.mapAttributes g).Alike R (s.mapAttributes g')
  | .attribute a => .attribute (h a)
  | .block ⟨_, _, _, _, ⟨structures, _, _, _, _⟩, _, _⟩ => .block (.mk (.mk (mapAllAttributes_alike h structures)))

theorem mapAllAttributes_alike {g g' : Attribute → Attribute} (h : ∀ a, R (g a) (g' a)) :
    (structures : List Structure) →
      List.Forall₂ (Structure.Alike R) (mapAllAttributes g structures) (mapAllAttributes g' structures)
  | [] => .nil
  | s :: rest => .cons (s.mapAttributes_alike h) (mapAllAttributes_alike h rest)

end

mutual

theorem Structure.mapAttributes_id : (s : Structure) → s.mapAttributes id = s
  | .attribute _ => rfl
  | .block ⟨_, _, _, _, ⟨structures, _, _, _, _⟩, _, _⟩ => by
    rw [Structure.mapAttributes, mapAllAttributes_id structures]

theorem mapAllAttributes_id : (structures : List Structure) → mapAllAttributes id structures = structures
  | [] => rfl
  | s :: rest => by rw [mapAllAttributes, s.mapAttributes_id, mapAllAttributes_id rest]

end

/-! ## Lists of structures -/

section Lists

variable {xs xs' : List Structure}

theorem findIdx?_alike {p p' : Structure → Bool} (hp : ∀ {x x'}, x.Alike R x' → p x = p' x')
    (h : List.Forall₂ (Structure.Alike R) xs xs') : xs.findIdx? p = xs'.findIdx? p' := by
  induction h with
  | nil => rfl
  | cons hx _ ih => simp only [List.findIdx?_cons, hp hx, ih]

theorem getElem?_alike (h : List.Forall₂ (Structure.Alike R) xs xs') (i : Nat) :
    Option.Rel (Structure.Alike R) xs[i]? xs'[i]? := by
  induction h generalizing i with
  | nil => exact .none
  | cons hx _ ih =>
    cases i with
    | zero => exact .some hx
    | succ i => simpa using ih i

theorem set_alike (h : List.Forall₂ (Structure.Alike R) xs xs') (i : Nat) {x x' : Structure} (hx : x.Alike R x') :
    List.Forall₂ (Structure.Alike R) (xs.set i x) (xs'.set i x') := by
  induction h generalizing i with
  | nil => exact .nil
  | cons hy hrest ih =>
    cases i with
    | zero => exact .cons hx hrest
    | succ i => exact .cons hy (ih i)

end Lists

namespace Structure.Alike

variable {s s' : Structure}

theorem block? (h : s.Alike R s') : Option.Rel (Block.Alike R) s.block? s'.block? := by
  cases h with
  | «attribute» _ => exact .none
  | block h => exact .some h

theorem attribute? (h : s.Alike R s') : Option.Rel R s.attribute? s'.attribute? := by
  cases h with
  | «attribute» h => exact .some h
  | block _ => exact .none

theorem isAttribute (hR : Tallies R) (h : s.Alike R s') (key : String) : s.isAttribute key = s'.isAttribute key := by
  cases h with
  | «attribute» h => simp only [Structure.isAttribute, hR.key h]
  | block _ => rfl

theorem lead (hR : Tallies R) (h : s.Alike R s') : s.lead = s'.lead := by
  rcases h with ha | ⟨⟨-⟩⟩
  · exact hR.lead ha
  · rfl

theorem withLead (hR : Tallies R) (h : s.Alike R s') (lead : String) :
    (s.withLead lead).Alike R (s'.withLead lead) := by
  rcases h with ha | @⟨b, _, ⟨hb⟩⟩
  · exact .attribute (hR.withLead ha lead)
  · exact .block (.mk (b := { b with lead }) hb)

/-- The margins are the same, so they are dropped from both or from none. -/
theorem unindent (hR : Tallies R) (h : s.Alike R s') : s.unindent.Alike R s'.unindent := by
  simp only [Structure.unindent, h.lead hR]
  split
  · exact h.withLead hR ""
  · exact h

end Structure.Alike

namespace Body.Alike

variable {b b' : Body}

theorem structures (h : b.Alike R b') : List.Forall₂ (Structure.Alike R) b.structures b'.structures := by
  obtain ⟨h⟩ := h
  exact h

/-- Alike bodies stay so with other structures that are alike. -/
theorem withStructures (h : b.Alike R b') {xs xs' : List Structure} (hxs : List.Forall₂ (Structure.Alike R) xs xs') :
    Body.Alike R { b with structures := xs } { b' with structures := xs' } := by
  obtain ⟨-⟩ := h
  exact .mk (b := { b with structures := xs }) hxs

theorem withOneLine (h : b.Alike R b') (oneLine : Bool) : Body.Alike R { b with oneLine } { b' with oneLine } := by
  obtain ⟨h⟩ := h
  exact .mk (b := { b with oneLine }) h

theorem modifyBlockAt? (h : b.Alike R b') (i : Nat) {f f' : Block → Option Block}
    (hf : ∀ e e', e.Alike R e' → Option.Rel (Block.Alike R) (f e) (f' e')) :
    Option.Rel (Body.Alike R) (b.modifyBlockAt? i f) (b'.modifyBlockAt? i f') :=
  rel_bind (rel_bind (getElem?_alike h.structures i) fun _ _ _ hs => hs.block?) fun e e' _ he =>
    rel_bind (hf e e' he) fun _ _ _ hd => .some (h.withStructures (set_alike h.structures i (.block hd)))

theorem modifyAttributeAt? (h : b.Alike R b') (i : Nat) {f f' : Attribute → Attribute}
    (hf : ∀ a a', b.structures[i]? = some (.attribute a) → R a a' → R (f a) (f' a')) :
    Option.Rel (Body.Alike R) (b.modifyAttributeAt? i f) (b'.modifyAttributeAt? i f') := by
  refine rel_bind (rel_bind (getElem?_alike h.structures i) fun _ _ _ hs => hs.attribute?) fun a a' hfound ha => ?_
  obtain ⟨s, hs, hsa⟩ := Option.bind_eq_some_iff.mp hfound
  rcases s with old | e
  · cases hsa
    exact .some (h.withStructures (set_alike h.structures i (.attribute (hf _ a' hs ha))))
  · cases hsa

theorem attributeIndex? (hR : Tallies R) (h : b.Alike R b') (key : String) :
    b.attributeIndex? key = b'.attributeIndex? key :=
  findIdx?_alike (fun hs => hs.isAttribute hR key) h.structures

theorem hasAttribute (hR : Tallies R) (h : b.Alike R b') (key : String) :
    b.hasAttribute key = b'.hasAttribute key := by
  rw [Body.hasAttribute_eq_any, Body.hasAttribute_eq_any, ← List.findIdx?_isSome, ← List.findIdx?_isSome]
  exact congrArg Option.isSome (h.attributeIndex? hR key)

theorem push (hR : Tallies R) (h : b.Alike R b') {s s' : Structure} (hs : s.Alike R s') :
    (b.push s).Alike R (b'.push s') := by
  have happend : List.Forall₂ (Structure.Alike R) (b.structures ++ [s]) (b'.structures ++ [s']) :=
    List.rel_append h.structures (.cons hs .nil)
  cases hs with
  | «attribute» ha =>
    simp only [Body.push, hR.key ha, h.hasAttribute hR]
    split
    · exact h
    · exact h.withStructures happend
  | block _ => exact h.withStructures happend

theorem pushBlock (hR : Tallies R) (h : b.Alike R b') {e e' : Block} (he : e.Alike R e') :
    (b.pushBlock e).Alike R (b'.pushBlock e') :=
  (h.withOneLine false).push hR ((Structure.Alike.block he).unindent hR)

theorem setAttribute (hR : Tallies R) (h : b.Alike R b') {a a' : Attribute} (ha : R a a') :
    (b.setAttribute a).Alike R (b'.setAttribute a') := by
  rw [Body.setAttribute, Body.setAttribute, ← hR.key ha, ← h.attributeIndex? hR]
  split
  · next i hi =>
    refine rel_getD (h.modifyAttributeAt? i fun old old' hold hR' => hR.withValue hR' ha ?_) h
    obtain ⟨hlt, hkey, -⟩ := List.findIdx?_eq_some_iff_getElem.mp hi
    simpa [Structure.isAttribute, (List.getElem?_eq_some_iff.mp hold).2] using hkey
  · exact (h.withOneLine false).push hR ((Structure.Alike.attribute ha).unindent hR)

end Body.Alike

namespace Block.Alike

variable {e e' : Block}

theorem body (h : e.Alike R e') : e.body.Alike R e'.body := by
  obtain ⟨h⟩ := h
  exact h

theorem withBody (h : e.Alike R e') {d d' : Body} (hd : d.Alike R d') :
    Block.Alike R { e with body := d } { e' with body := d' } := by
  obtain ⟨-⟩ := h
  exact .mk (b := { e with body := d }) hd

theorem isDynamic (h : e.Alike R e') : e.isDynamic = e'.isDynamic := by
  obtain ⟨-⟩ := h
  rfl

/-- Alike blocks accept alike blocks. -/
theorem accepts {q q' : Block} (h : e.Alike R e') (hq : q.Alike R q') : e.accepts q = e'.accepts q' := by
  obtain ⟨-⟩ := h
  obtain ⟨-⟩ := hq
  rfl

theorem contentIndex? (h : e.Alike R e') : e.contentIndex? = e'.contentIndex? := by
  refine findIdx?_alike ?_ h.body.structures
  rintro - - (⟨-⟩ | ⟨⟨-⟩⟩) <;> rfl

/-- What is changed alike in the content of alike blocks keeps them alike. -/
theorem modifyContent? (h : e.Alike R e') {f f' : Body → Body} (hf : ∀ d d', d.Alike R d' → (f d).Alike R (f' d')) :
    Option.Rel (Block.Alike R) (e.modifyContent? f) (e'.modifyContent? f') := by
  simp only [Block.modifyContent?, h.isDynamic, h.contentIndex?]
  split
  · cases e'.contentIndex? with
    | none => exact .none
    | some i =>
      simp only [Option.bind_eq_bind, Option.bind_some]
      refine rel_bind (h.body.modifyBlockAt? i fun c c' hc => ?_) fun d d' _ hd => .some (h.withBody hd)
      exact .some (hc.withBody (hf _ _ hc.body))
  · exact .some (h.withBody (hf _ _ h.body))

end Block.Alike

/-! ## Merging -/

theorem Body.Alike.acceptingIndex? {b b' : Body} (h : b.Alike R b') {q q' : Block} (hq : q.Alike R q') :
    b.acceptingIndex? q = b'.acceptingIndex? q' := by
  refine findIdx?_alike ?_ h.structures
  rintro - - (⟨-⟩ | he)
  · rfl
  · exact he.accepts hq

mutual

theorem Body.Alike.mergeStructure (hR : Tallies R) : (s : Structure) → ∀ {s' : Structure} {b b' : Body},
    s.Alike R s' → b.Alike R b' → (b.mergeStructure s).Alike R (b'.mergeStructure s')
  | .attribute a, _, b, b', .attribute ha, hb => by
    simpa only [Body.mergeStructure] using hb.setAttribute hR ha
  | .block ⟨lead, ident, identTrail, labels, ⟨structures, head, tail, oneLine, openEnd⟩, trail, span?⟩, _, b, b',
      .block hq, hb => by
    simp only [Body.mergeStructure_block_eq, hb.acceptingIndex? hq]
    refine rel_getD ?_ (hb.pushBlock hR hq)
    cases b'.acceptingIndex? _ with
    | none => exact .none
    | some i =>
      refine hb.modifyBlockAt? i fun e e' he => he.modifyContent? fun d d' hd => ?_
      exact Body.Alike.mergeStructures hR structures hq.body.structures hd
termination_by structural s => s

theorem Body.Alike.mergeStructures (hR : Tallies R) : (patch : List Structure) →
    ∀ {patch' : List Structure} {b b' : Body}, List.Forall₂ (Structure.Alike R) patch patch' → b.Alike R b' →
      (b.mergeStructures patch).Alike R (b'.mergeStructures patch')
  | [], _, b, b', .nil, hb => by simpa using hb
  | s :: rest, _, b, b', .cons hs hrest, hb => by
    simp only [Body.mergeStructures_cons]
    exact Body.Alike.mergeStructures hR rest hrest (Body.Alike.mergeStructure hR s hs hb)
termination_by structural patch => patch

end

end Terrasmith.Source
