import Terrasmith.Proofs.Update

/-!
What a merge leaves alone and what it adds. The structures of a body stay in their places. An attribute only gets the
value that the patch has for its key, and a block only changes in its content, where the bodies of the blocks of the
patch that it is the first match of are merged under the same law. All other structures of the patch are appended as
they are and in their order, and later ones are merged into them in the same way.
-/
namespace Terrasmith.Source

mutual

/-- Structures in which no two attributes of one body have one key, at any depth. -/
def Structure.KeysApart : Structure → Prop
  | .attribute _ => True
  | .block ⟨_, _, _, _, body, _, _⟩ => body.KeysApart

def Body.KeysApart : Body → Prop
  | ⟨structures, _, _, _, _⟩ =>
    ((structures.filterMap Structure.attribute?).map (·.key)).Nodup ∧ AllKeysApart structures

def AllKeysApart : List Structure → Prop
  | [] => True
  | s :: rest => s.KeysApart ∧ AllKeysApart rest

end

/-- A body with one more structure at its end, which stands there without its margin. -/
def Body.followedBy (b : Body) (s : Structure) : Body :=
  { b with structures := b.structures ++ [s.unindent], oneLine := false }

/-- What a patch makes of a body at one level. `Inside i` says what becomes of the content of the block at the place
`i`, and `Behind` what follows the structures of the body. -/
structure Body.Level (d p d' : Body) (Inside : Nat → Body → Body → Prop) (Behind : List Structure → Prop) : Prop where
  /-- An attribute stays in its place, with the value that the patch has for its key. -/
  keeps_attribute : ∀ {i : Nat} {a : Attribute}, d.structures[i]? = some (.attribute a) →
    d'.structures[i]? = some (.attribute ((p.attribute? a.key).elim a fun new => a.withValue new.expression))
  /-- A block stays as it is where it is not the first match of any block of the patch or has no content. -/
  keeps_block : ∀ {i : Nat} {e : Block}, d.structures[i]? = some (.block e) →
    (∀ q ∈ p.blocks, d.acceptingIndex? q ≠ some i) ∨ e.content? = none → d'.structures[i]? = some (.block e)
  /-- In any case it stays in its place with its type and labels, and only its content changes. -/
  content : ∀ {i : Nat} {e : Block} {c : Body}, d.structures[i]? = some (.block e) → e.content? = some c →
    ∃ e' c', d'.structures[i]? = some (.block e') ∧ e'.ident = e.ident ∧ e'.labels = e.labels ∧
      e' = e.putContent c' ∧ Inside i c c'
  /-- What follows is what the patch has no place for in the body. -/
  appended : Behind (d'.structures.drop d.structures.length)
  /-- Every attribute of the patch has its value afterwards. -/
  values : ∀ {a : Attribute}, a ∈ p.attributes → (d'.attribute? a.key).map Attribute.expression = some a.expression

mutual

/-- The law of a merge: what a patch makes of a body at every level. -/
def Body.Merges (d : Body) : (p d' : Body) → Prop
  | ⟨patch, head, tail, oneLine, openEnd⟩, d' =>
    d.Level ⟨patch, head, tail, oneLine, openEnd⟩ d' (fun i c c' => d.Fills i patch c c') fun more =>
      d.Appends patch more

/-- What a patch makes of the content of the block at the place `i`: the bodies of the blocks that have their first
match there are merged, one after the other. -/
def Body.Fills (d : Body) (i : Nat) : (patch : List Structure) → (c c' : Body) → Prop
  | [], c, c' => c' = c
  | .attribute _ :: rest, c, c' => d.Fills i rest c c'
  | .block ⟨lead, ident, identTrail, labels, body, trail, span?⟩ :: rest, c, c' =>
    let q : Block := ⟨lead, ident, identTrail, labels, body, trail, span?⟩
    if d.acceptingIndex? q = some i then ∃ between, c.Merges body between ∧ d.Fills i rest between c'
    else d.Fills i rest c c'

/-- What a patch puts behind a body: each of its structures that has no slot there, nor in what has been appended before
it, without its margin. An attribute is appended as it is, and so is a block, except for its content, where the bodies
of the blocks behind it in the patch that have their first match there are merged. -/
def Body.Appends (d : Body) : (patch more : List Structure) → Prop
  | [], more => more = []
  | .attribute a :: rest, more =>
    if d.slot? (.attribute a) = none then
      ∃ later, more = (Structure.attribute a).unindent :: later ∧ (d.followedBy (.attribute a)).Appends rest later
    else d.Appends rest more
  | .block q :: rest, more =>
    if d.slot? (.block q) = none then
      ∃ e later, more = (Structure.block e).unindent :: later ∧ (q.content? = none → e = q) ∧
        (∀ c, q.content? = some c →
          ∃ c', e = q.putContent c' ∧ (d.followedBy (.block q)).Fills d.structures.length rest c c') ∧
        (d.followedBy (.block q)).Appends rest later
    else d.Appends rest more

end

section KeysApart

variable {b c d : Body} {e q : Block} {s : Structure}

@[simp] theorem keysApart_attribute (a : Attribute) : (Structure.attribute a).KeysApart := by
  rw [Structure.KeysApart]
  trivial

theorem keysApart_block : (Structure.block q).KeysApart ↔ q.body.KeysApart := by
  cases q
  rw [Structure.KeysApart]

theorem allKeysApart_iff {structures : List Structure} :
    AllKeysApart structures ↔ ∀ s ∈ structures, s.KeysApart := by
  induction structures with
  | nil => simp [AllKeysApart]
  | cons s rest ih => simp [AllKeysApart, ih]

namespace Body

theorem keysApart_iff : b.KeysApart ↔ (b.attributes.map (·.key)).Nodup ∧ ∀ s ∈ b.structures, s.KeysApart := by
  cases b
  rw [KeysApart, allKeysApart_iff]
  rfl

end Body

theorem keysApart_unindent (h : s.KeysApart) : s.unindent.KeysApart := by
  unfold Structure.unindent
  split
  · rcases s with a | q
    · exact keysApart_attribute _
    · exact keysApart_block.mpr (keysApart_block (q := q).mp h)
  · exact h

theorem keysApart_content (he : (Structure.block e).KeysApart) (hc : e.content? = some c) : c.KeysApart := by
  have hbody := keysApart_block.mp he
  obtain ⟨-, rfl⟩ | ⟨-, i, child, -, hchild, rfl⟩ := Block.content?_cases hc
  · exact hbody
  · exact keysApart_block.mp ((Body.keysApart_iff.mp hbody).2 _ (List.mem_of_getElem? hchild))

theorem keysApart_putContent (he : (Structure.block e).KeysApart) (hc : e.content? = some c) (hd : d.KeysApart) :
    (Structure.block (e.putContent d)).KeysApart := by
  obtain ⟨hstatic, -⟩ | ⟨hdynamic, i, child, hi, hchild, -⟩ := Block.content?_cases hc
  · rw [Block.putContent_static hstatic]
    exact keysApart_block.mpr hd
  · obtain ⟨hkeys, hall⟩ := Body.keysApart_iff.mp (keysApart_block.mp he)
    rw [Block.putContent_dynamic hdynamic hi hchild, keysApart_block, Body.keysApart_iff]
    refine ⟨?_, fun s hs => ?_⟩
    · rw [Body.attributes, filterMap_attribute?_set hchild]
      exact hkeys
    · rcases List.mem_or_eq_of_mem_set hs with hs | rfl
      · exact hall s hs
      · exact keysApart_block.mpr hd

theorem keys_setIn (a : Attribute) (attributes : List Attribute) :
    (setIn a attributes).map (·.key) =
      if a.key ∈ attributes.map (·.key) then attributes.map (·.key) else attributes.map (·.key) ++ [a.key] := by
  induction attributes with
  | nil =>
    unfold setIn Structure.unindent
    split <;> rfl
  | cons old rest ih =>
    unfold setIn
    by_cases hkey : old.key = a.key
    · simp [hkey, Attribute.withValue]
    · rw [if_neg hkey, List.map_cons, ih]
      simp only [List.map_cons, List.mem_cons, Ne.symm hkey, false_or, List.cons_append]
      split <;> rfl

theorem nodup_keys_setIn {attributes : List Attribute} (h : (attributes.map (·.key)).Nodup) (a : Attribute) :
    ((setIn a attributes).map (·.key)).Nodup := by
  rw [keys_setIn]
  split
  · exact h
  · rename_i hnew
    exact List.nodup_append.mpr ⟨h, List.pairwise_singleton .., fun k hk k' hk' heq =>
      hnew (List.mem_singleton.mp hk' ▸ heq ▸ hk)⟩

theorem mem_mergeStructure {x : Structure} (h : x ∈ (b.mergeStructure s).structures) :
    x ∈ b.structures ∨ (∃ y ∈ b.structures, x = y.absorb s) ∨ x = s.unindent := by
  cases hslot : b.slot? s with
  | none =>
    rw [Body.mergeStructure_of_no_slot hslot] at h
    rcases List.mem_append.mp h with h | h
    · exact .inl h
    · exact .inr (.inr (List.mem_singleton.mp h))
  | some i =>
    obtain ⟨-, y, hy, -⟩ := Body.slot?_eq_some hslot
    rw [Body.mergeStructure_of_slot hslot, ← Body.set_eq_modify hy] at h
    rcases List.mem_or_eq_of_mem_set h with h | rfl
    · exact .inl h
    · exact .inr (.inl ⟨y, List.mem_of_getElem? hy, rfl⟩)

mutual

/-- Keys stay apart in every body that something is merged into. -/
theorem keysApart_mergeStructure : (s : Structure) → s.KeysApart → ∀ {b : Body}, b.KeysApart →
    (b.mergeStructure s).KeysApart
  | .attribute a, hs, b, hb => by
    obtain ⟨hkeys, hall⟩ := Body.keysApart_iff.mp hb
    refine Body.keysApart_iff.mpr ⟨?_, fun x hx => ?_⟩
    · rw [Body.attributes_mergeStructure_attribute]
      exact nodup_keys_setIn hkeys a
    · rcases mem_mergeStructure hx with hx | ⟨y, hy, rfl⟩ | rfl
      · exact hall x hx
      · rcases y with old | e
        · exact keysApart_attribute _
        · exact hall _ hy
      · exact keysApart_unindent hs
  | .block ⟨lead, ident, identTrail, labels, ⟨structures, head, tail, oneLine, openEnd⟩, trail, span?⟩, hs, b, hb => by
    obtain ⟨hkeys, hall⟩ := Body.keysApart_iff.mp hb
    have hstructures := (Body.keysApart_iff.mp (keysApart_block.mp hs)).2
    refine Body.keysApart_iff.mpr ⟨?_, fun x hx => ?_⟩
    · rw [Body.attributes_mergeStructure_block]
      exact hkeys
    · rcases mem_mergeStructure hx with hx | ⟨y, hy, rfl⟩ | rfl
      · exact hall x hx
      · rcases y with old | e
        · exact keysApart_attribute _
        · cases hc : e.content? with
          | none =>
            rw [Structure.absorb, Block.modifyContent?_eq, hc]
            exact hall _ hy
          | some c =>
            rw [absorb_block hc]
            have hcontent := keysApart_content (hall _ hy) hc
            exact keysApart_putContent (hall _ hy) hc (keysApart_mergeStructures structures hstructures hcontent)
      · exact keysApart_unindent hs

theorem keysApart_mergeStructures : (patch : List Structure) → (∀ s ∈ patch, s.KeysApart) → ∀ {b : Body},
    b.KeysApart → (b.mergeStructures patch).KeysApart
  | [], _, b, hb => by simpa using hb
  | s :: rest, hpatch, b, hb => by
    rw [Body.mergeStructures_cons]
    have hs := keysApart_mergeStructure s (hpatch s List.mem_cons_self) hb
    exact keysApart_mergeStructures rest (fun t ht => hpatch t (List.mem_cons_of_mem s ht)) hs

end

end KeysApart

section Places

variable {b d : Body} {i : Nat} {x s : Structure} {patch : List Structure}

/-- What is appended moves no slot of what was there. -/
theorem Body.slot?_append_iff {more : List Structure} (hd : d.structures = b.structures ++ more)
    (hi : i < b.structures.length) (s : Structure) : d.slot? s = some i ↔ b.slot? s = some i := by
  refine ⟨fun h => ?_, slot?_append more hd⟩
  obtain ⟨hfirst, x, hx, -, hopen⟩ := slot?_eq_some h
  rw [hd, List.getElem?_append_left hi] at hx
  have hfirst' : b.structures.findIdx? (·.takes s) = some i := by
    rw [hd, List.findIdx?_append] at hfirst
    cases hb : b.structures.findIdx? (·.takes s) with
    | some j => simpa [hb] using hfirst
    | none =>
      rw [hb, Option.none_or, Option.map_eq_some_iff] at hfirst
      obtain ⟨j, -, hj⟩ := hfirst
      omega
  rw [slot?_of_findIdx? hfirst' hx, if_pos hopen]

/-- A structure stays in its place and takes up what has its slot there. -/
theorem getElem?_mergeStructures (hx : b.structures[i]? = some x) :
    (b.mergeStructures patch).structures[i]? = some (absorbAll b.slot? i patch x) := by
  have hi : i < b.structures.length := (List.getElem?_eq_some_iff.mp hx).1
  induction patch generalizing b x with
  | nil => simpa [absorbAll] using hx
  | cons s rest ih =>
    rw [Body.mergeStructures_cons, absorbAll, List.foldl_cons]
    cases hslot : b.slot? s with
    | none =>
      rw [Body.mergeStructure_of_no_slot hslot, if_neg (by simp)]
      have hsame := ih (b := { b with structures := b.structures ++ [s.unindent], oneLine := false }) (x := x)
        (by rw [List.getElem?_append_left hi, hx]) (by rw [List.length_append]; omega)
      rw [hsame, absorbAll_congr fun t _ => Body.slot?_append_iff rfl hi t]
      rfl
    | some j =>
      have hsame : Body.slot? { b with structures := b.structures.modify j (·.absorb s) } = b.slot? :=
        funext (Body.slot?_modify_absorb b j s)
      have hx' : (b.structures.modify j (·.absorb s))[i]? = some (if some j = some i then x.absorb s else x) := by
        rw [List.getElem?_modify, hx]
        by_cases hij : j = i <;> simp [hij]
      have hrest := ih (b := { b with structures := b.structures.modify j (·.absorb s) }) hx' (by simpa using hi)
      rw [Body.mergeStructure_of_slot hslot, hrest, hsame]
      rfl

/-- What stands from a structure on after a merge. -/
theorem drop_mergeStructures (hx : b.structures[i]? = some x) :
    (b.mergeStructures patch).structures.drop i =
      absorbAll b.slot? i patch x :: (b.mergeStructures patch).structures.drop (i + 1) := by
  have hplace : (b.mergeStructures patch).structures[i]? = some (absorbAll b.slot? i patch x) :=
    getElem?_mergeStructures hx
  obtain ⟨hi, hget⟩ := List.getElem?_eq_some_iff.mp hplace
  rw [List.drop_eq_getElem_cons hi, hget]

theorem putContent_lead (e : Block) (c : Body) : (e.putContent c).lead = e.lead := by
  unfold Block.putContent Block.modifyContent?
  split
  · cases e.contentIndex? with
    | none => rfl
    | some i => cases h : e.body.modifyBlockAt? i fun child => some { child with body := c } <;> simp [h]
  · rfl

/-- The content of a block is the same behind its margin and without it. -/
theorem exists_unindent_block (q : Block) : ∃ q₀ : Block, (Structure.block q).unindent = .block q₀ ∧
    q₀.content? = q.content? ∧ ∀ {c : Body}, q.content? = some c → ∀ c',
      Structure.block (q₀.putContent c') = (Structure.block (q.putContent c')).unindent := by
  by_cases hblank : Text.allBlank q.lead = true
  · refine ⟨{ q with lead := "" }, if_pos hblank, rfl, fun hc c' => ?_⟩
    have hlead := putContent_lead q c'
    rw [Block.putContent_withLead hc, Structure.unindent, if_pos (by rwa [Structure.lead, hlead])]
    rfl
  · refine ⟨q, if_neg hblank, rfl, fun _ c' => ?_⟩
    have hlead := putContent_lead q c'
    rw [Structure.unindent, if_neg (by rwa [Structure.lead, hlead])]

/-- What is appended to two bodies with the same headers leaves them with the same headers. -/
theorem sameHeader_followedBy (h : List.Forall₂ SameHeader b.structures d.structures) (s : Structure) :
    List.Forall₂ SameHeader (b.followedBy s).structures (d.followedBy s).structures :=
  List.rel_append h (forall₂_sameHeader_refl [s.unindent])

end Places

section Attributes

variable {b : Body} {i : Nat} {a old : Attribute} {key : String}

/-- Where keys are apart, an attribute takes all values for its key. -/
theorem slot?_attribute_iff (hkeys : (b.attributes.map (·.key)).Nodup)
    (hold : b.structures[i]? = some (.attribute old)) :
    b.slot? (.attribute a) = some i ↔ a.key = old.key := by
  obtain ⟨hi, hget⟩ := List.getElem?_eq_some_iff.mp hold
  constructor
  · intro h
    obtain ⟨-, x, hx, ht, -⟩ := Body.slot?_eq_some h
    obtain rfl := Option.some.inj (hold.symm.trans hx)
    simpa using Eq.symm (of_decide_eq_true ht)
  · intro hkey
    have hfirst : b.structures.findIdx? (·.takes (.attribute a)) = some i := by
      rw [List.findIdx?_eq_some_iff_getElem]
      refine ⟨hi, by simp [hget, hkey], fun j hj htakes => ?_⟩
      have hapart := hkeys
      rw [Body.attributes, List.Nodup, List.pairwise_map, List.pairwise_filterMap] at hapart
      have hne := List.pairwise_iff_getElem.mp hapart j i (by omega) hi hj
      rcases hj' : b.structures[j] with other | e
      · have hother : other.key = a.key := by simpa [hj'] using htakes
        exact hne other (by rw [hj']; rfl) old (by rw [hget]; rfl) (hother.trans hkey)
      · simp [hj'] at htakes
    rw [Body.slot?_of_findIdx? hfirst hold]
    rfl

/-- An attribute ends with the value that a patch has for its key. -/
theorem absorbAll_attribute_eq {slots : Structure → Option Nat} {patch : List Structure} (hold : old.key = key)
    (hslots : ∀ a, slots (.attribute a) = some i ↔ a.key = key)
    (hkeys : ((patch.filterMap Structure.attribute?).map (·.key)).Nodup) :
    absorbAll slots i patch (.attribute old) = .attribute
      (((patch.filterMap Structure.attribute?).find? fun a => a.key = key).elim old
        fun new => old.withValue new.expression) := by
  induction patch generalizing old with
  | nil => rfl
  | cons s rest ih =>
    rw [absorbAll, List.foldl_cons]
    rcases s with a | q
    · have hcons : (Structure.attribute a :: rest).filterMap Structure.attribute? =
          a :: rest.filterMap Structure.attribute? := List.filterMap_cons_some rfl
      rw [hcons] at hkeys ⊢
      rw [List.map_cons, List.nodup_cons] at hkeys
      by_cases hkey : a.key = key
      · have hnone : ((rest.filterMap Structure.attribute?).find? fun a => a.key = key) = none := by
          rw [List.find?_eq_none]
          intro other hother hsame
          refine hkeys.1 (List.mem_map.mpr ⟨other, hother, ?_⟩)
          rw [of_decide_eq_true hsame, hkey]
        have hrest := ih (show (old.withValue a.expression).key = key from hold) hkeys.2
        rw [hnone] at hrest
        rw [if_pos ((hslots a).mpr hkey), List.find?_cons_of_pos (by simp [hkey])]
        exact hrest
      · rw [if_neg fun h => hkey ((hslots a).mp h), List.find?_cons_of_neg (by simp [hkey])]
        exact ih hold hkeys.2
    · have hsame : (if slots (.block q) = some i then (Structure.attribute old).absorb (.block q)
          else .attribute old) = .attribute old := by split <;> rfl
      rw [hsame]
      exact ih hold hkeys

theorem find?_setIn_self (a : Attribute) (attributes : List Attribute) :
    ((setIn a attributes).find? fun x => x.key = a.key).map Attribute.expression = some a.expression := by
  induction attributes with
  | nil =>
    unfold setIn Structure.unindent
    split <;> simp [Structure.withLead, Structure.attribute?, Attribute.expression]
  | cons first rest ih =>
    unfold setIn
    by_cases hkey : first.key = a.key
    · simp [hkey, Attribute.withValue, Attribute.expression]
    · rw [if_neg hkey, List.find?_cons_of_neg (by simp [hkey])]
      exact ih

theorem find?_setIn_of_ne (h : a.key ≠ key) (attributes : List Attribute) :
    ((setIn a attributes).find? fun x => x.key = key) = attributes.find? fun x => x.key = key := by
  induction attributes with
  | nil =>
    unfold setIn Structure.unindent
    split <;> simp [Structure.withLead, Structure.attribute?, h]
  | cons first rest ih =>
    unfold setIn
    by_cases hkey : first.key = a.key
    · have hne : first.key ≠ key := hkey ▸ h
      simp [hkey, Attribute.withValue, h]
    · rw [if_neg hkey, List.find?_cons, List.find?_cons, ih]

/-- Attributes that are set one after the other have their values in the end if their keys are apart. -/
theorem find?_foldl_setIn {news olds : List Attribute} (hkeys : (news.map (·.key)).Nodup) (ha : a ∈ news) :
    ((news.foldl (fun done new => setIn new done) olds).find? fun x => x.key = a.key).map Attribute.expression =
      some a.expression := by
  have hkept {news olds : List Attribute} (hfree : a.key ∉ news.map (·.key)) :
      ((news.foldl (fun done new => setIn new done) olds).find? fun x => x.key = a.key) =
        olds.find? fun x => x.key = a.key := by
    induction news generalizing olds with
    | nil => rfl
    | cons new rest ih =>
      obtain ⟨hne, hrest⟩ : a.key ≠ new.key ∧ a.key ∉ rest.map (·.key) := by simpa using hfree
      rw [List.foldl_cons, ih hrest, find?_setIn_of_ne (Ne.symm hne)]
  induction news generalizing olds with
  | nil => cases ha
  | cons new rest ih =>
    rw [List.map_cons, List.nodup_cons] at hkeys
    rw [List.foldl_cons]
    rcases List.mem_cons.mp ha with rfl | ha
    · rw [hkept hkeys.1, find?_setIn_self]
    · exact ih hkeys.2 ha

end Attributes

section Law

variable {d : Body} {i : Nat}

theorem Body.merges_iff (p d' : Body) :
    d.Merges p d' ↔
      d.Level p d' (fun i c c' => d.Fills i p.structures c c') fun more => d.Appends p.structures more := by
  cases p
  rw [Merges]

/-- One level of the law, for the contents that a merge puts into the blocks. -/
theorem level_merge {p : Body} (hd : d.KeysApart) (hp : p.KeysApart) {Inside : Nat → Body → Body → Prop}
    {Behind : List Structure → Prop}
    (hinside : ∀ {i : Nat} {e : Block} {c : Body}, d.structures[i]? = some (.block e) → e.content? = some c →
      Inside i c (c.mergeStructures (routed d.slot? i p.structures)))
    (hbehind : Behind ((d.merge p).structures.drop d.structures.length)) :
    d.Level p (d.merge p) Inside Behind where
  keeps_attribute := by
    intro i a ha
    rw [Body.merge, getElem?_mergeStructures ha, absorbAll_attribute_eq rfl
      (fun _ => slot?_attribute_iff (Body.keysApart_iff.mp hd).1 ha) (Body.keysApart_iff.mp hp).1]
    rfl
  keeps_block := by
    intro i e he hkeep
    have hne : ∀ s ∈ p.structures, d.slot? s ≠ some i := by
      intro s hs hslot
      obtain ⟨hfirst, x, hx, htakes, hopen⟩ := Body.slot?_eq_some hslot
      obtain rfl := Option.some.inj (he.symm.trans hx)
      rcases s with a | q
      · cases htakes
      · rcases hkeep with hkeep | hkeep
        · exact hkeep q (List.mem_filterMap.mpr ⟨_, hs, rfl⟩) (Body.acceptingIndex?_eq d q ▸ hfirst)
        · simp [Structure.isOpen, hkeep] at hopen
    rw [Body.merge, getElem?_mergeStructures he, absorbAll_of_ne hne]
  content := by
    intro i e c he hc
    refine ⟨_, _, ?_, Block.putContent_ident .., Block.putContent_labels .., rfl, hinside he hc⟩
    rw [Body.merge, getElem?_mergeStructures he, absorbAll_block _ hc]
  appended := hbehind
  values := by
    intro a ha
    rw [Body.attribute?, Body.merge, Body.attributes_mergeStructures]
    exact find?_foldl_setIn (Body.keysApart_iff.mp hp).1 ha

/-- A block with a content is the slot of what it is the first match of. -/
theorem slot?_block_iff {e : Block} {c : Body} (he : d.structures[i]? = some (.block e)) (hc : e.content? = some c)
    (q : Block) : d.slot? (.block q) = some i ↔ d.acceptingIndex? q = some i := by
  rw [Body.acceptingIndex?_eq]
  refine ⟨fun h => (Body.slot?_eq_some h).1, fun h => ?_⟩
  rw [Body.slot?_of_findIdx? h he, if_pos (by simp [Structure.isOpen, hc])]

theorem routed_block (slots : Structure → Option Nat) (i : Nat) (q : Block) (rest : List Structure) :
    routed slots i (.block q :: rest) =
      if slots (.block q) = some i then q.body.structures ++ routed slots i rest else routed slots i rest := by
  by_cases h : slots (.block q) = some i <;> simp [routed, h]

theorem length_followedBy (d : Body) (s : Structure) :
    (d.followedBy s).structures.length = d.structures.length + 1 := by
  simp [Body.followedBy]

theorem getElem?_followedBy (d : Body) (s : Structure) :
    (d.followedBy s).structures[d.structures.length]? = some s.unindent := by
  simp [Body.followedBy]

/-- What is merged into a structure leaves all headers as they are. -/
theorem sameHeader_mergeStructure {b : Body} {s : Structure} {j : Nat} (hslot : b.slot? s = some j)
    (h : List.Forall₂ SameHeader b.structures d.structures) :
    List.Forall₂ SameHeader (b.mergeStructure s).structures d.structures := by
  rw [Body.mergeStructure_of_slot hslot]
  exact Body.forall₂_modify_absorb h j s

/-- An appended attribute stays as it is where keys are apart. -/
theorem absorbAll_appended_attribute {a : Attribute} {rest : List Structure}
    (hb : (d.followedBy (.attribute a)).KeysApart)
    (hkeys : (((Structure.attribute a :: rest).filterMap Structure.attribute?).map (·.key)).Nodup) :
    absorbAll (d.followedBy (.attribute a)).slot? d.structures.length rest (Structure.attribute a).unindent =
      (Structure.attribute a).unindent := by
  obtain ⟨a₀, ha₀, hkey⟩ : ∃ a₀ : Attribute, (Structure.attribute a).unindent = .attribute a₀ ∧ a₀.key = a.key := by
    unfold Structure.unindent
    split
    · exact ⟨_, rfl, rfl⟩
    · exact ⟨a, rfl, rfl⟩
  have hplace : (d.followedBy (.attribute a)).structures[d.structures.length]? = some (.attribute a₀) := by
    rw [getElem?_followedBy, ha₀]
  have hcons : (Structure.attribute a :: rest).filterMap Structure.attribute? =
      a :: rest.filterMap Structure.attribute? := List.filterMap_cons_some rfl
  rw [hcons, List.map_cons, List.nodup_cons] at hkeys
  have hnone : ((rest.filterMap Structure.attribute?).find? fun x => x.key = a₀.key) = none := by
    rw [List.find?_eq_none]
    intro other hother hsame
    exact hkeys.1 (List.mem_map.mpr ⟨other, hother, (of_decide_eq_true hsame).trans hkey⟩)
  rw [ha₀, absorbAll_attribute_eq rfl (fun _ => slot?_attribute_iff (Body.keysApart_iff.mp hb).1 hplace) hkeys.2, hnone]
  rfl

/-- An appended block takes up what is behind it in the patch and has its slot there. -/
theorem absorbAll_appended_block {q : Block} (rest : List Structure) : ∃ e : Block,
    absorbAll (d.followedBy (.block q)).slot? d.structures.length rest (Structure.block q).unindent =
        (Structure.block e).unindent ∧
      (q.content? = none → e = q) ∧
      ∀ c, q.content? = some c →
        e = q.putContent (c.mergeStructures (routed (d.followedBy (.block q)).slot? d.structures.length rest)) := by
  obtain ⟨q₀, hq₀, hcontent, hput⟩ := exists_unindent_block q
  have hplace : (d.followedBy (.block q)).structures[d.structures.length]? = some (.block q₀) := by
    rw [getElem?_followedBy, hq₀]
  cases hc : q.content? with
  | none =>
    have hne : ∀ s ∈ rest, (d.followedBy (.block q)).slot? s ≠ some d.structures.length := by
      intro s _ hslot
      obtain ⟨-, x, hx, -, hopen⟩ := Body.slot?_eq_some hslot
      obtain rfl := Option.some.inj (hplace.symm.trans hx)
      simp [Structure.isOpen, hcontent, hc] at hopen
    exact ⟨q, absorbAll_of_ne hne _, fun _ => rfl, fun _ h => by cases h⟩
  | some c =>
    refine ⟨q.putContent (c.mergeStructures (routed (d.followedBy (.block q)).slot? d.structures.length rest)),
      ?_, (fun h => by cases h), fun c' hc' => by rw [Option.some.inj hc']⟩
    rw [hq₀, absorbAll_block _ (hcontent.trans hc), hput hc]

mutual

theorem merges_merge : (p : Body) → p.KeysApart → ∀ {d : Body}, d.KeysApart → d.Merges p (d.merge p)
  | ⟨patch, head, tail, oneLine, openEnd⟩, hp, d, hd => by
    obtain ⟨hkeys, hpatch⟩ := Body.keysApart_iff.mp hp
    rw [Body.merges_iff]
    refine level_merge hd hp (fun he hc => ?_) ?_
    · have hcontent := keysApart_content ((Body.keysApart_iff.mp hd).2 _ (List.mem_of_getElem? he)) hc
      exact fills_merge patch hpatch (slot?_block_iff he hc) hcontent
    · exact appends_merge patch hpatch hkeys hd (forall₂_sameHeader_refl d.structures)

theorem fills_merge : (patch : List Structure) → (∀ s ∈ patch, s.KeysApart) → ∀ {d c : Body}
    {slots : Structure → Option Nat} {i : Nat},
    (∀ q, slots (.block q) = some i ↔ d.acceptingIndex? q = some i) → c.KeysApart →
    d.Fills i patch c (c.mergeStructures (routed slots i patch))
  | [], _, d, c, slots, i, _, _ => by
    rw [Body.Fills]
    exact Body.mergeStructures_nil c
  | .attribute a :: rest, hpatch, d, c, slots, i, hslots, hc => by
    rw [Body.Fills]
    exact fills_merge rest (fun t ht => hpatch t (List.mem_cons_of_mem _ ht)) hslots hc
  | .block ⟨lead, ident, identTrail, labels, body, trail, span?⟩ :: rest, hpatch, d, c, slots, i, hslots, hc => by
    have hrest := fun t ht => hpatch t (List.mem_cons_of_mem _ ht)
    have hbody : body.KeysApart := keysApart_block.mp (hpatch _ List.mem_cons_self)
    have hroute := routed_block slots i ⟨lead, ident, identTrail, labels, body, trail, span?⟩ rest
    rw [Body.Fills, hroute]
    by_cases hfirst : d.acceptingIndex? ⟨lead, ident, identTrail, labels, body, trail, span?⟩ = some i
    · have hmerge := keysApart_mergeStructures body.structures (Body.keysApart_iff.mp hbody).2 hc
      rw [if_pos hfirst, if_pos ((hslots _).mpr hfirst), Body.mergeStructures_append]
      exact ⟨c.merge body, merges_merge body hbody hc, fills_merge rest hrest hslots hmerge⟩
    · rw [if_neg hfirst, if_neg fun h => hfirst ((hslots _).mp h)]
      exact fills_merge rest hrest hslots hc

/-- The law for what is appended looks at the headers of a body alone, so it is told by any body `d` that has those of
the body `b` that is merged into. -/
theorem appends_merge : (patch : List Structure) → (∀ s ∈ patch, s.KeysApart) →
    ((patch.filterMap Structure.attribute?).map (·.key)).Nodup → ∀ {d b : Body}, b.KeysApart →
    List.Forall₂ SameHeader b.structures d.structures →
    d.Appends patch ((b.mergeStructures patch).structures.drop b.structures.length)
  | [], _, _, d, b, _, _ => by
    rw [Body.Appends, Body.mergeStructures_nil, List.drop_length]
  | .attribute a :: rest, hpatch, hkeys, d, b, hb, hsame => by
    have hrest := fun t ht => hpatch t (List.mem_cons_of_mem _ ht)
    have hkeysRest : ((rest.filterMap Structure.attribute?).map (·.key)).Nodup := (List.nodup_cons.mp hkeys).2
    have hmerge := keysApart_mergeStructure (.attribute a) (hpatch _ List.mem_cons_self) hb
    rw [Body.Appends, Body.mergeStructures_cons, ← Body.slot?_sameHeader hsame]
    cases hslot : b.slot? (.attribute a) with
    | some j =>
      rw [if_neg (by simp), ← Body.length_mergeStructure_of_slot hslot]
      exact appends_merge rest hrest hkeysRest hmerge (sameHeader_mergeStructure hslot hsame)
    | none =>
      have hfollow : b.mergeStructure (.attribute a) = b.followedBy (.attribute a) :=
        Body.mergeStructure_of_no_slot hslot
      rw [hfollow] at hmerge ⊢
      rw [if_pos rfl, drop_mergeStructures (getElem?_followedBy b (.attribute a)),
        absorbAll_appended_attribute hmerge hkeys, ← length_followedBy b (.attribute a)]
      exact ⟨_, rfl, appends_merge rest hrest hkeysRest hmerge (sameHeader_followedBy hsame _)⟩
  | .block q :: rest, hpatch, hkeys, d, b, hb, hsame => by
    have hrest := fun t ht => hpatch t (List.mem_cons_of_mem _ ht)
    have hkeysRest : ((rest.filterMap Structure.attribute?).map (·.key)).Nodup := hkeys
    have hmerge := keysApart_mergeStructure (.block q) (hpatch _ List.mem_cons_self) hb
    rw [Body.Appends, Body.mergeStructures_cons, ← Body.slot?_sameHeader hsame]
    cases hslot : b.slot? (.block q) with
    | some j =>
      rw [if_neg (by simp), ← Body.length_mergeStructure_of_slot hslot]
      exact appends_merge rest hrest hkeysRest hmerge (sameHeader_mergeStructure hslot hsame)
    | none =>
      have hfollow : b.mergeStructure (.block q) = b.followedBy (.block q) := Body.mergeStructure_of_no_slot hslot
      rw [hfollow] at hmerge ⊢
      obtain ⟨e, habsorb, hclosed, hopen⟩ := absorbAll_appended_block (d := b) (q := q) rest
      have hfollowed := sameHeader_followedBy hsame (.block q)
      rw [if_pos rfl, drop_mergeStructures (getElem?_followedBy b (.block q)), habsorb,
        ← length_followedBy b (.block q)]
      refine ⟨e, _, rfl, hclosed, fun c hc => ⟨_, hopen c hc, ?_⟩, appends_merge rest hrest hkeysRest hmerge hfollowed⟩
      have hcontent := keysApart_content (hpatch _ List.mem_cons_self) hc
      rw [← hsame.length_eq]
      refine fills_merge rest hrest (fun t => ?_) hcontent
      obtain ⟨q₀, hq₀, hcontent₀, -⟩ := exists_unindent_block q
      have hplace : (b.followedBy (.block q)).structures[b.structures.length]? = some (.block q₀) := by
        rw [getElem?_followedBy, hq₀]
      rw [slot?_block_iff hplace (hcontent₀.trans hc), Body.acceptingIndex?_eq, Body.acceptingIndex?_eq,
        findIdx?_sameHeader hfollowed]

end

/-- A merge loses and reorders nothing: the law holds at every level, and keys stay apart in every body. -/
theorem merge_keeps {d p : Body} (hd : d.KeysApart) (hp : p.KeysApart) :
    d.Merges p (d.merge p) ∧ (d.merge p).KeysApart :=
  ⟨merges_merge p hp hd, keysApart_mergeStructures p.structures (Body.keysApart_iff.mp hp).2 hd⟩

/-- Two blocks of one patch whose first match is a dynamic block, and one that is appended. -/
theorem merge_keeps_dynamic :
    dynamicTarget.KeysApart ∧ contentPatch.KeysApart ∧
      dynamicTarget.Merges contentPatch (dynamicTarget.merge contentPatch) ∧
      (dynamicTarget.merge contentPatch).KeysApart := by
  have htarget : dynamicTarget.KeysApart := by
    simp [dynamicTarget, setting, plainBlock, dynamicBlock, Body.KeysApart, AllKeysApart, Structure.KeysApart,
      Structure.attribute?, List.filterMap_cons]
  have hpatch : contentPatch.KeysApart := by
    simp [contentPatch, setting, plainBlock, Body.KeysApart, AllKeysApart, Structure.KeysApart,
      Structure.attribute?, List.filterMap_cons]
  exact ⟨htarget, hpatch, merge_keeps htarget hpatch⟩

end Law

end Terrasmith.Source
