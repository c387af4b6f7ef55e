import Terrasmith.Proofs.Merge

/-!
Merging a patch twice. A second merge finds for every structure of the patch the slot that it had, or the place where
it was appended. So it changes nothing, except where an appended block is changed by its own body: by siblings in it
that have one slot, or because it is dynamic and its body goes into its content.
-/
namespace Terrasmith.Source

/-- A block that its own body changes nothing in when it is merged into it. -/
def Block.Steady (q : Block) : Prop :=
  q.modifyContent? (fun c => c.mergeStructures q.body.structures) = some q

mutual

/-- Whether a body takes up a structure of a patch for good: a block is merged into one that has a content, which
takes up its structures for good, or is appended and steady. -/
def Body.Receives (b : Body) : Structure → Prop
  | .attribute _ => True
  | .block ⟨lead, ident, identTrail, labels, ⟨structures, head, tail, oneLine, openEnd⟩, trail, span?⟩ =>
    let q : Block := ⟨lead, ident, identTrail, labels, ⟨structures, head, tail, oneLine, openEnd⟩, trail, span?⟩
    match b.blocks.find? (·.accepts q) with
    | some e => ∃ c, e.content? = some c ∧ c.ReceivesAll structures
    | none => q.Steady
termination_by structural x => x

def Body.ReceivesAll (b : Body) : List Structure → Prop
  | [] => True
  | s :: rest => b.Receives s ∧ (b.mergeStructure s).ReceivesAll rest
termination_by structural x => x

end

/-- What the structures with the slot `i` do to the structure there. -/
def absorbAll (slots : Structure → Option Nat) (i : Nat) (patch : List Structure) (x : Structure) : Structure :=
  patch.foldl (fun x s => if slots s = some i then x.absorb s else x) x

/-- The structures of the blocks with the slot `i`. -/
def routed (slots : Structure → Option Nat) (i : Nat) (patch : List Structure) : List Structure :=
  patch.flatMap fun
    | .block q => if slots (.block q) = some i then q.body.structures else []
    | .attribute _ => []

section AbsorbAll

variable {slots : Structure → Option Nat} {i : Nat}

theorem absorbAll_append (first second : List Structure) (x : Structure) :
    absorbAll slots i (first ++ second) x = absorbAll slots i second (absorbAll slots i first x) :=
  List.foldl_append

theorem absorbAll_singleton (s x : Structure) :
    absorbAll slots i [s] x = if slots s = some i then x.absorb s else x := rfl

theorem absorbAll_congr {slots' : Structure → Option Nat} {patch : List Structure}
    (h : ∀ s ∈ patch, slots s = some i ↔ slots' s = some i) (x : Structure) :
    absorbAll slots i patch x = absorbAll slots' i patch x := by
  induction patch generalizing x with
  | nil => rfl
  | cons s rest ih =>
    have hs := h s (by simp)
    simp only [absorbAll, List.foldl_cons, hs]
    exact ih (fun t ht => h t (by simp [ht])) _

theorem absorbAll_of_ne {patch : List Structure} (h : ∀ s ∈ patch, slots s ≠ some i) (x : Structure) :
    absorbAll slots i patch x = x := by
  induction patch with
  | nil => rfl
  | cons s rest ih =>
    simp only [absorbAll, List.foldl_cons, if_neg (h s (by simp))]
    exact ih fun t ht => h t (by simp [ht])

/-- Attributes only get other values. -/
theorem absorbAll_attribute (patch : List Structure) (old : Attribute) :
    ∃ e, absorbAll slots i patch (.attribute old) = .attribute (old.withValue e) := by
  induction patch generalizing old with
  | nil => exact ⟨old.expression, rfl⟩
  | cons s rest ih =>
    rcases s with a | q
    · by_cases hs : slots (.attribute a) = some i
      · obtain ⟨e, he⟩ := ih (old.withValue a.expression)
        refine ⟨e, ?_⟩
        simp only [absorbAll, List.foldl_cons, if_pos hs, Structure.absorb]
        exact he
      · obtain ⟨e, he⟩ := ih old
        refine ⟨e, ?_⟩
        simp only [absorbAll, List.foldl_cons, if_neg hs]
        exact he
    · obtain ⟨e, he⟩ := ih old
      refine ⟨e, ?_⟩
      simp only [absorbAll, List.foldl_cons, Structure.absorb, ite_self]
      exact he

theorem absorb_block {e : Block} {c : Body} (h : e.content? = some c) (q : Block) :
    (Structure.block e).absorb (.block q) = .block (e.putContent (c.mergeStructures q.body.structures)) := by
  simp [Structure.absorb, Block.modifyContent?_eq, h]

/-- The blocks with one slot are merged, one after the other, into the content of the block there. -/
theorem absorbAll_block (patch : List Structure) {e : Block} {c : Body} (h : e.content? = some c) :
    absorbAll slots i patch (.block e) = .block (e.putContent (c.mergeStructures (routed slots i patch))) := by
  induction patch generalizing e c with
  | nil => simp [absorbAll, routed, Block.putContent_self h]
  | cons s rest ih =>
    rcases s with a | q
    · have hskip := ih h
      simp only [absorbAll, routed, List.foldl_cons, List.flatMap_cons, Structure.absorb, ite_self,
        List.nil_append] at hskip ⊢
      exact hskip
    · by_cases hs : slots (.block q) = some i
      · have hrest := ih (Block.content?_putContent h (c.mergeStructures q.body.structures))
        simp only [absorbAll, routed, List.foldl_cons, List.flatMap_cons, if_pos hs, absorb_block h] at hrest ⊢
        rw [hrest, Block.putContent_putContent h, Body.mergeStructures_append]
      · have hskip := ih h
        simp only [absorbAll, routed, List.foldl_cons, List.flatMap_cons, if_neg hs, List.nil_append] at hskip ⊢
        exact hskip

/-- What changes nothing in a block changes nothing in its content. -/
theorem mergeStructures_routed_eq_self {patch : List Structure} {e : Block} {c : Body} (h : e.content? = some c)
    (hfix : absorbAll slots i patch (.block e) = .block e) : c.mergeStructures (routed slots i patch) = c := by
  rw [absorbAll_block patch h, Structure.block.injEq] at hfix
  have hput := Block.content?_putContent h (c.mergeStructures (routed slots i patch))
  rw [hfix, h, Option.some.injEq] at hput
  exact hput.symm

end AbsorbAll

namespace Body

/-- A merge that appends nothing acts on each structure by itself. -/
theorem mergeStructures_eq_mapIdx (b : Body) {patch : List Structure} (slots : Structure → Option Nat)
    (h : ∀ s ∈ patch, b.slot? s = slots s ∧ (slots s).isSome) :
    b.mergeStructures patch =
      { b with structures := b.structures.mapIdx fun i x => absorbAll slots i patch x } := by
  induction patch generalizing b with
  | nil =>
    have hid : b.structures.mapIdx (fun i x => absorbAll slots i [] x) = b.structures := by
      apply List.ext_getElem?
      intro j
      simp [absorbAll]
    rw [hid, mergeStructures_nil, mk_self]
  | cons s rest ih =>
    obtain ⟨hs, hsome⟩ := h s (by simp)
    obtain ⟨i, hi⟩ := Option.isSome_iff_exists.mp hsome
    have hmove : (b.structures.modify i (·.absorb s)).mapIdx (fun j x => absorbAll slots j rest x) =
        b.structures.mapIdx fun j x => absorbAll slots j (s :: rest) x := by
      apply List.ext_getElem?
      intro j
      simp only [List.getElem?_mapIdx, List.getElem?_modify]
      by_cases hij : i = j
      · subst hij
        cases b.structures[i]? <;> simp [absorbAll, hi]
      · cases b.structures[j]? <;> simp [absorbAll, hi, hij]
    rw [mergeStructures_cons, mergeStructure_of_slot (hs.trans hi), ih, ← hmove]
    intro t ht
    rw [slot?_modify_absorb]
    exact h t (by simp [ht])

/-- A merge that changes nothing finds a slot for every structure. -/
theorem slot?_of_length_eq (b : Body) (patch : List Structure)
    (h : (b.mergeStructures patch).structures.length = b.structures.length) :
    ∀ s ∈ patch, (b.slot? s).isSome := by
  induction patch generalizing b with
  | nil => simp
  | cons s rest ih =>
    rw [mergeStructures_cons] at h
    have hle := length_le_mergeStructures (b.mergeStructure s) rest
    cases hs : b.slot? s with
    | none =>
      rw [length_mergeStructure_of_no_slot hs] at hle
      omega
    | some i =>
      rw [← length_mergeStructure_of_slot hs] at h
      intro t ht
      rcases List.mem_cons.mp ht with rfl | ht
      · simp [hs]
      · have := ih _ h t ht
        rwa [mergeStructure_of_slot hs, slot?_modify_absorb] at this

/-- A merge that changes nothing changes no structure by itself. -/
theorem absorbAll_eq_self {b : Body} {patch : List Structure} (h : b.mergeStructures patch = b) {i : Nat}
    {x : Structure} (hx : b.structures[i]? = some x) : absorbAll b.slot? i patch x = x := by
  have hslots := slot?_of_length_eq b patch (by rw [h])
  have hmap := mergeStructures_eq_mapIdx b b.slot? fun s hs => ⟨rfl, hslots s hs⟩
  rw [h] at hmap
  have hi := congrArg (·.structures[i]?) hmap
  simpa [hx] using hi.symm

theorem mergeStructures_eq_self {b : Body} {patch : List Structure} (hslots : ∀ s ∈ patch, (b.slot? s).isSome)
    (h : ∀ i x, b.structures[i]? = some x → absorbAll b.slot? i patch x = x) : b.mergeStructures patch = b := by
  rw [mergeStructures_eq_mapIdx b b.slot? fun s hs => ⟨rfl, hslots s hs⟩]
  have hid : b.structures.mapIdx (fun i x => absorbAll b.slot? i patch x) = b.structures := by
    apply List.ext_getElem?
    intro i
    rw [List.getElem?_mapIdx]
    cases hx : b.structures[i]? with
    | none => rfl
    | some x => simp [h i x hx]
  rw [hid, mk_self]

/-- What a structure does in its slot, it does once. -/
theorem settled_of_slot {b : Body} {done : List Structure} {s x : Structure} {i : Nat}
    (hdone : b.mergeStructures done = b) (hs : b.slot? s = some i) (hx : b.structures[i]? = some x)
    (hfix : (absorbAll b.slot? i done (x.absorb s)).absorb s = x.absorb s) :
    (b.mergeStructure s).mergeStructures (done ++ [s]) = b.mergeStructure s := by
  have hslots := slot?_of_length_eq b done (by rw [hdone])
  have hsame : (b.mergeStructure s).slot? = b.slot? := by
    funext t
    rw [mergeStructure_of_slot hs, slot?_modify_absorb]
  apply mergeStructures_eq_self
  · intro t ht
    rw [hsame]
    rcases List.mem_append.mp ht with ht | ht
    · exact hslots t ht
    · simp [List.mem_singleton.mp ht, hs]
  · intro j y hy
    rw [hsame, absorbAll_append, absorbAll_singleton, hs]
    rw [mergeStructure_of_slot hs, List.getElem?_modify] at hy
    by_cases hij : i = j
    · subst hij
      obtain rfl : x.absorb s = y := by simpa [hx] using hy
      rw [if_pos rfl, hfix]
    · have hy' : b.structures[j]? = some y := by simpa [hij] using hy
      rw [if_neg (by simpa using hij), absorbAll_eq_self hdone hy']

/-- A structure that was appended is found where it was appended. -/
theorem slot?_of_appended {b : Body} {s : Structure} (hfree : b.structures.findIdx? (·.takes s) = none)
    (hopen : s.isOpen = true) : (b.mergeStructure s).slot? s = some b.structures.length := by
  rw [mergeStructure_of_no_slot (slot?_of_findIdx?_none hfree)]
  have hidx : (b.structures ++ [s.unindent]).findIdx? (·.takes s) = some b.structures.length := by
    simp [List.findIdx?_append, hfree, Structure.takes_self]
  rw [slot?_of_findIdx? (x := s.unindent) hidx (by simp), Structure.isOpen_unindent, if_pos hopen]

/-- What is appended and changes nothing in itself is merged for good. -/
theorem settled_of_appended {b : Body} {done : List Structure} {s : Structure} (hdone : b.mergeStructures done = b)
    (hfree : b.structures.findIdx? (·.takes s) = none) (hopen : s.isOpen = true)
    (hfix : s.unindent.absorb s = s.unindent) :
    (b.mergeStructure s).mergeStructures (done ++ [s]) = b.mergeStructure s := by
  have hslots := slot?_of_length_eq b done (by rw [hdone])
  have hnew := slot?_of_appended hfree hopen
  have hmerge := mergeStructure_of_no_slot (slot?_of_findIdx?_none hfree)
  have hold : ∀ t ∈ done, (b.mergeStructure s).slot? t = b.slot? t := by
    intro t ht
    obtain ⟨j, hj⟩ := Option.isSome_iff_exists.mp (hslots t ht)
    rw [hj]
    exact slot?_append [s.unindent] (by rw [hmerge]) hj
  apply mergeStructures_eq_self
  · intro t ht
    rcases List.mem_append.mp ht with ht | ht
    · rw [hold t ht]
      exact hslots t ht
    · simp [List.mem_singleton.mp ht, hnew]
  · intro j y hy
    rw [absorbAll_append, absorbAll_singleton, hnew,
      absorbAll_congr fun t ht => by rw [hold t ht]]
    rw [hmerge] at hy
    by_cases hj : j < b.structures.length
    · have hy' : b.structures[j]? = some y := by simpa [List.getElem?_append_left hj] using hy
      rw [if_neg (by simp; omega), absorbAll_eq_self hdone hy']
    · -- The place of the new structure, which nothing merged before has for a slot.
      have hjlen : j = b.structures.length := by
        have := (List.getElem?_eq_some_iff.mp hy).1
        simp at this
        omega
      subst hjlen
      obtain rfl : s.unindent = y := by simpa using hy
      have hnone : ∀ t ∈ done, b.slot? t ≠ some b.structures.length := by
        intro t ht hslot
        obtain ⟨-, z, hz, -⟩ := slot?_eq_some hslot
        simp at hz
      rw [if_pos rfl, absorbAll_of_ne hnone, hfix]

/-- The block that accepts one of a patch, and its place. -/
theorem findIdx?_of_find?_accepts {b : Body} {q e : Block} (h : b.blocks.find? (·.accepts q) = some e) :
    ∃ i, b.structures.findIdx? (·.takes (.block q)) = some i ∧ b.structures[i]? = some (.block e) := by
  unfold blocks at h
  generalize b.structures = structures at h ⊢
  induction structures with
  | nil => simp at h
  | cons s rest ih =>
    rcases s with a | e'
    · obtain ⟨i, hi, he⟩ := ih (by simpa [Structure.block?] using h)
      exact ⟨i + 1, by simp [List.findIdx?_cons, hi], by simpa using he⟩
    · by_cases hacc : e'.accepts q = true
      · obtain rfl : e' = e := by simpa [Structure.block?, hacc] using h
        exact ⟨0, by simp [List.findIdx?_cons, hacc], by simp⟩
      · obtain ⟨i, hi, he⟩ := ih (by simpa [Structure.block?, hacc] using h)
        exact ⟨i + 1, by simp [List.findIdx?_cons, hacc, hi], by simpa using he⟩

theorem findIdx?_of_find?_accepts_none {b : Body} {q : Block} (h : b.blocks.find? (·.accepts q) = none) :
    b.structures.findIdx? (·.takes (.block q)) = none := by
  rw [List.findIdx?_eq_none_iff]
  intro s hs
  rcases s with a | e
  · rfl
  · have := List.find?_eq_none.mp h e (List.mem_filterMap.mpr ⟨.block e, hs, rfl⟩)
    simpa using this

theorem receives_block (b : Body) (q : Block) :
    b.Receives (.block q) ↔ match b.blocks.find? (·.accepts q) with
      | some e => ∃ c, e.content? = some c ∧ c.ReceivesAll q.body.structures
      | none => q.Steady := by
  rcases q with ⟨lead, ident, identTrail, labels, ⟨structures, head, tail, oneLine, openEnd⟩, trail, span?⟩
  rw [Receives]

theorem receivesAll_cons (b : Body) (s : Structure) (rest : List Structure) :
    b.ReceivesAll (s :: rest) ↔ b.Receives s ∧ (b.mergeStructure s).ReceivesAll rest := by
  rw [ReceivesAll]

theorem settled_attribute {b : Body} {done : List Structure} (hdone : b.mergeStructures done = b) (a : Attribute) :
    (b.mergeStructure (.attribute a)).mergeStructures (done ++ [.attribute a]) = b.mergeStructure (.attribute a) := by
  cases hi : b.structures.findIdx? (·.takes (.attribute a)) with
  | none =>
    apply settled_of_appended hdone hi rfl
    unfold Structure.unindent
    split <;> rfl
  | some i =>
    obtain ⟨x, hx, ht⟩ := exists_of_findIdx? hi
    rcases x with old | e
    · apply settled_of_slot hdone (i := i) _ hx
      · obtain ⟨v, hv⟩ : ∃ v, absorbAll b.slot? i done (.attribute (old.withValue a.expression)) =
            .attribute ((old.withValue a.expression).withValue v) := absorbAll_attribute done _
        rw [Structure.absorb, hv]
        rfl
      · rw [slot?_of_findIdx? hi hx]
        rfl
    · simp at ht

theorem settled_steady {b : Body} {done : List Structure} (hdone : b.mergeStructures done = b) {q : Block}
    (hnone : b.blocks.find? (·.accepts q) = none) (hq : q.Steady) :
    (b.mergeStructure (.block q)).mergeStructures (done ++ [.block q]) = b.mergeStructure (.block q) := by
  unfold Block.Steady at hq
  rw [Block.modifyContent?_eq, Option.map_eq_some_iff] at hq
  obtain ⟨c, hc, hput⟩ := hq
  apply settled_of_appended hdone (findIdx?_of_find?_accepts_none hnone)
  · simp [Structure.isOpen, hc]
  · unfold Structure.unindent
    split
    · have hlead := Block.putContent_withLead hc (c.mergeStructures q.body.structures) ""
      rw [hput] at hlead
      simp only [Structure.withLead]
      rw [absorb_block (e := { q with lead := "" }) hc, hlead]
    · rw [absorb_block hc, hput]

mutual

theorem settled (b : Body) (done : List Structure) (hdone : b.mergeStructures done = b) :
    (s : Structure) → b.Receives s →
      (b.mergeStructure s).mergeStructures (done ++ [s]) = b.mergeStructure s
  | .attribute a, _ => settled_attribute hdone a
  | .block ⟨lead, ident, identTrail, labels, ⟨structures, head, tail, oneLine, openEnd⟩, trail, span?⟩, hr => by
    rw [receives_block] at hr
    cases hfind : b.blocks.find? (·.accepts
        ⟨lead, ident, identTrail, labels, ⟨structures, head, tail, oneLine, openEnd⟩, trail, span?⟩) with
    | none =>
      rw [hfind] at hr
      exact settled_steady hdone hfind hr
    | some e =>
      rw [hfind] at hr
      obtain ⟨c, hc, hall⟩ := hr
      obtain ⟨i, hi, hx⟩ := findIdx?_of_find?_accepts hfind
      have hopen : (Structure.block e).isOpen = true := by simp [Structure.isOpen, hc]
      have hroute := mergeStructures_routed_eq_self hc (absorbAll_eq_self hdone hx)
      apply settled_of_slot hdone (i := i) _ hx
      · -- Both merges into the block are merges into its content, where the induction hypothesis applies.
        have hcontent := settledAll c (routed b.slot? i done) hroute structures hall
        have hc' := Block.content?_putContent hc (c.mergeStructures structures)
        rw [mergeStructures_append] at hcontent
        rw [absorb_block hc, absorbAll_block done hc', absorb_block (Block.content?_putContent hc' _),
          hcontent, Block.putContent_putContent hc', Block.putContent_putContent hc]
      · rw [slot?_of_findIdx? hi hx, if_pos hopen]

theorem settledAll (b : Body) (done : List Structure) (hdone : b.mergeStructures done = b) :
    (patch : List Structure) → b.ReceivesAll patch →
      (b.mergeStructures patch).mergeStructures (done ++ patch) = b.mergeStructures patch
  | [], _ => by simpa using hdone
  | s :: rest, hr => by
    rw [receivesAll_cons] at hr
    have hs := settled b done hdone s hr.1
    have hrest := settledAll (b.mergeStructure s) (done ++ [s]) hs rest hr.2
    rwa [List.append_assoc, List.singleton_append] at hrest

end

/-- A patch that is taken up for good changes nothing the second time. -/
theorem merge_merge {b patch : Body} (h : b.ReceivesAll patch.structures) :
    (b.merge patch).merge patch = b.merge patch :=
  settledAll b [] (mergeStructures_nil b) patch.structures h

end Body

/-- Attributes with one set: in its place or, if its key is new, at the end. -/
def setIn (a : Attribute) : List Attribute → List Attribute
  | [] => (Structure.attribute a).unindent.attribute?.toList
  | old :: rest => if old.key = a.key then old.withValue a.expression :: rest else old :: setIn a rest

theorem attributes_modify_or_append (a : Attribute) (structures : List Structure) :
    (match structures.findIdx? (Structure.takes · (.attribute a)) with
      | some i => structures.modify i (·.absorb (.attribute a))
      | none => structures ++ [(Structure.attribute a).unindent]).filterMap Structure.attribute? =
      setIn a (structures.filterMap Structure.attribute?) := by
  induction structures with
  | nil =>
    cases h : (Structure.attribute a).unindent.attribute? <;> simp [setIn, h]
  | cons s rest ih =>
    rcases s with old | e
    · by_cases hkey : old.key = a.key
      · simp [List.findIdx?_cons, hkey, Structure.absorb, setIn]
      · cases hi : rest.findIdx? (·.takes (.attribute a)) with
        | none =>
          rw [hi] at ih
          simpa [List.findIdx?_cons, hkey, hi, setIn] using ih
        | some i =>
          rw [hi] at ih
          simpa [List.findIdx?_cons, hkey, hi, setIn] using ih
    · cases hi : rest.findIdx? (·.takes (.attribute a)) with
      | none =>
        rw [hi] at ih
        simpa [List.findIdx?_cons, List.filterMap_cons, hi] using ih
      | some i =>
        rw [hi] at ih
        simpa [List.findIdx?_cons, List.filterMap_cons, hi] using ih

/-- Another block in place of a block has nothing to do with the attributes. -/
theorem filterMap_attribute?_set {structures : List Structure} {i : Nat} {e e' : Block}
    (h : structures[i]? = some (.block e)) :
    (structures.set i (.block e')).filterMap Structure.attribute? = structures.filterMap Structure.attribute? := by
  obtain ⟨hlt, hget⟩ := List.getElem?_eq_some_iff.mp h
  have hsplit : structures = structures.take i ++ .block e :: structures.drop (i + 1) := by
    rw [← hget, List.getElem_cons_drop, List.take_append_drop]
  rw [List.set_eq_take_append_cons_drop, if_pos hlt]
  nth_rewrite 3 [hsplit]
  simp [List.filterMap_cons]

namespace Body

theorem attributes_mergeStructure_attribute (b : Body) (a : Attribute) :
    (b.mergeStructure (.attribute a)).attributes = setIn a b.attributes := by
  have h := attributes_modify_or_append a b.structures
  cases hi : b.structures.findIdx? (·.takes (.attribute a)) with
  | none =>
    rw [hi] at h
    rw [mergeStructure_of_no_slot (slot?_of_findIdx?_none hi)]
    exact h
  | some i =>
    obtain ⟨x, hx, ht⟩ := exists_of_findIdx? hi
    rw [hi] at h
    rcases x with old | e
    · have hslot := slot?_of_findIdx? hi hx
      rw [mergeStructure_of_slot (i := i) (by rw [hslot]; rfl)]
      exact h
    · simp at ht

theorem attributes_mergeStructure_block (b : Body) (q : Block) :
    (b.mergeStructure (.block q)).attributes = b.attributes := by
  cases hslot : b.slot? (.block q) with
  | none =>
    rw [mergeStructure_of_no_slot hslot]
    unfold Structure.unindent
    split <;> simp [attributes, Structure.withLead]
  | some i =>
    obtain ⟨-, x, hx, ht, -⟩ := slot?_eq_some hslot
    rcases x with old | e
    · simp at ht
    · rw [mergeStructure_of_slot hslot, ← set_eq_modify hx]
      exact filterMap_attribute?_set hx

/-- What a merge does to the attributes is done by the attributes of the patch. -/
theorem attributes_mergeStructures (b : Body) (patch : List Structure) :
    (b.mergeStructures patch).attributes =
      (patch.filterMap Structure.attribute?).foldl (fun done a => setIn a done) b.attributes := by
  induction patch generalizing b with
  | nil => rfl
  | cons s rest ih =>
    rw [mergeStructures_cons, ih]
    rcases s with a | q
    · rw [attributes_mergeStructure_attribute]
      rfl
    · rw [attributes_mergeStructure_block]
      rfl

theorem receivesAll_attributes (b : Body) (attributes : List Attribute) :
    b.ReceivesAll (attributes.map Structure.attribute) := by
  induction attributes generalizing b with
  | nil => simp [ReceivesAll]
  | cons a rest ih =>
    rw [List.map_cons, receivesAll_cons]
    exact ⟨by rw [Receives]; trivial, ih _⟩

/-- Whatever a patch holds, it sets attributes once. -/
theorem attributes_merge_merge (b patch : Body) :
    ((b.merge patch).merge patch).attributes = (b.merge patch).attributes := by
  let alone : Body := { structures := patch.attributes.map Structure.attribute }
  have hfold : ∀ d : Body, (d.merge patch).attributes = (d.merge alone).attributes := by
    intro d
    have hsame : alone.structures.filterMap Structure.attribute? = patch.attributes := by
      simp [alone, List.filterMap_map, Function.comp_def]
    rw [merge, merge, attributes_mergeStructures, attributes_mergeStructures, hsame]
    rfl
  have honce : (b.merge alone).merge alone = b.merge alone := merge_merge (receivesAll_attributes b patch.attributes)
  calc ((b.merge patch).merge patch).attributes
      = patch.attributes.foldl (fun done a => setIn a done) (b.merge patch).attributes :=
        attributes_mergeStructures ..
    _ = patch.attributes.foldl (fun done a => setIn a done) (b.merge alone).attributes := by rw [hfold]
    _ = ((b.merge alone).merge patch).attributes := (attributes_mergeStructures ..).symm
    _ = (b.merge patch).attributes := by rw [hfold, honce, hfold]

end Body

end Terrasmith.Source
