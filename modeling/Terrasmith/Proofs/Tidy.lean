import Terrasmith.Proofs.Idempotence

/-!
Patches that every body takes up for good. No block of such a patch is dynamic, and in no block of it two structures
have one key or header, so a block that is appended changes nothing in itself.
-/
namespace Terrasmith.Source

mutual

/-- Structures without dynamic blocks, in which no block holds two structures of one key or header. -/
def Structure.Tidy : Structure → Prop
  | .attribute _ => True
  | .block ⟨_, ident, _, labels, ⟨structures, _, _, _, _⟩, _, _⟩ =>
    ¬ (ident = "dynamic" ∧ labels.length = 1) ∧ structures.Pairwise (fun x y => x.takes y = false) ∧
      AllTidy structures

def AllTidy : List Structure → Prop
  | [] => True
  | s :: rest => s.Tidy ∧ AllTidy rest

end

mutual

/-- Structures in which every dynamic block has a content. -/
def Structure.Filled : Structure → Prop
  | .attribute _ => True
  | .block ⟨lead, ident, identTrail, labels, ⟨structures, head, tail, oneLine, openEnd⟩, trail, span?⟩ =>
    let q : Block := ⟨lead, ident, identTrail, labels, ⟨structures, head, tail, oneLine, openEnd⟩, trail, span?⟩
    q.content?.isSome ∧ AllFilled structures

def AllFilled : List Structure → Prop
  | [] => True
  | s :: rest => s.Filled ∧ AllFilled rest

end

theorem tidy_block (q : Block) : (Structure.block q).Tidy ↔ q.isDynamic = false ∧
    q.body.structures.Pairwise (fun x y => x.takes y = false) ∧ AllTidy q.body.structures := by
  rcases q with ⟨lead, ident, identTrail, labels, ⟨structures, head, tail, oneLine, openEnd⟩, trail, span?⟩
  simp [Structure.Tidy, Block.isDynamic]

theorem filled_block (q : Block) :
    (Structure.block q).Filled ↔ q.content?.isSome ∧ AllFilled q.body.structures := by
  rcases q with ⟨lead, ident, identTrail, labels, ⟨structures, head, tail, oneLine, openEnd⟩, trail, span?⟩
  rw [Structure.Filled]

theorem allTidy_iff (structures : List Structure) : AllTidy structures ↔ ∀ s ∈ structures, s.Tidy := by
  induction structures with
  | nil => simp [AllTidy]
  | cons s rest ih => simp [AllTidy, ih]

theorem allFilled_iff (structures : List Structure) : AllFilled structures ↔ ∀ s ∈ structures, s.Filled := by
  induction structures with
  | nil => simp [AllFilled]
  | cons s rest ih => simp [AllFilled, ih]

theorem content?_of_not_dynamic {q : Block} (h : q.isDynamic = false) : q.content? = some q.body := by
  simp [Block.content?, h]

theorem isOpen_of_tidy {s : Structure} (h : s.Tidy) : s.isOpen = true := by
  rcases s with a | q
  · rfl
  · simp [Structure.isOpen, content?_of_not_dynamic ((tidy_block q).mp h).1]

/-- Structures that do not take each other are their own slots. -/
theorem slot?_of_pairwise {b : Body} (hp : b.structures.Pairwise fun x y => x.takes y = false) {i : Nat}
    {s : Structure} (hs : b.structures[i]? = some s) (hopen : s.isOpen = true) : b.slot? s = some i := by
  obtain ⟨hlt, hget⟩ := List.getElem?_eq_some_iff.mp hs
  have hidx : b.structures.findIdx? (·.takes s) = some i := by
    rw [List.findIdx?_eq_some_iff_getElem]
    refine ⟨hlt, by rw [hget]; exact s.takes_self, ?_⟩
    intro j hj
    have := List.pairwise_iff_getElem.mp hp j i (by omega) hlt hj
    simpa [hget] using this
  rw [Body.slot?_of_findIdx? hidx hs, if_pos hopen]

/-- A body whose structures do not take each other, and absorb themselves, absorbs itself. -/
theorem mergeStructures_self {b : Body} (hp : b.structures.Pairwise fun x y => x.takes y = false)
    (h : ∀ s ∈ b.structures, s.isOpen = true ∧ s.absorb s = s) : b.mergeStructures b.structures = b := by
  have hslot : ∀ {i : Nat} {s : Structure}, b.structures[i]? = some s → b.slot? s = some i := fun hs =>
    slot?_of_pairwise hp hs (h _ (List.mem_of_getElem? hs)).1
  apply Body.mergeStructures_eq_self
  · intro s hs
    obtain ⟨i, hi⟩ := List.mem_iff_getElem?.mp hs
    simp [hslot hi]
  · intro i x hx
    obtain ⟨hlt, hget⟩ := List.getElem?_eq_some_iff.mp hx
    -- Of the whole patch only `x` itself has the slot `i`.
    have hsplit : b.structures = b.structures.take i ++ ([x] ++ b.structures.drop (i + 1)) := by
      rw [← hget, List.singleton_append, List.getElem_cons_drop, List.take_append_drop]
    have hbefore : ∀ s ∈ b.structures.take i, b.slot? s ≠ some i := by
      intro s hs
      obtain ⟨j, hj⟩ := List.mem_iff_getElem?.mp hs
      rw [List.getElem?_take] at hj
      split at hj
      · rw [hslot hj]
        simp; omega
      · cases hj
    have hafter : ∀ s ∈ b.structures.drop (i + 1), b.slot? s ≠ some i := by
      intro s hs
      obtain ⟨j, hj⟩ := List.mem_iff_getElem?.mp hs
      rw [List.getElem?_drop] at hj
      rw [hslot hj]
      simp; omega
    rw [hsplit, absorbAll_append, absorbAll_append, absorbAll_of_ne hbefore, absorbAll_singleton, hslot hx,
      if_pos rfl, (h x (List.mem_of_getElem? hx)).2, absorbAll_of_ne hafter]

mutual

theorem absorb_self_of_tidy : (s : Structure) → s.Tidy → s.absorb s = s
  | .attribute a, _ => rfl
  | .block ⟨lead, ident, identTrail, labels, ⟨structures, head, tail, oneLine, openEnd⟩, trail, span?⟩, h => by
    obtain ⟨hd, hp, hall⟩ := (tidy_block _).mp h
    have hself := mergeStructures_self (b := ⟨structures, head, tail, oneLine, openEnd⟩) hp
      (all_absorb_self_of_tidy structures hall)
    have hc := content?_of_not_dynamic hd
    rw [absorb_block hc, hself, Block.putContent_self hc]

theorem all_absorb_self_of_tidy : (structures : List Structure) → AllTidy structures →
    ∀ s ∈ structures, s.isOpen = true ∧ s.absorb s = s
  | [], _ => by simp
  | s :: rest, h => by
    have hs := absorb_self_of_tidy s h.1
    have hrest := all_absorb_self_of_tidy rest h.2
    intro t ht
    rcases List.mem_cons.mp ht with rfl | ht
    · exact ⟨isOpen_of_tidy h.1, hs⟩
    · exact hrest t ht

end

theorem filled_of_tidy : (s : Structure) → s.Tidy → s.Filled
  | .attribute _, _ => by simp [Structure.Filled]
  | .block ⟨lead, ident, identTrail, labels, ⟨structures, head, tail, oneLine, openEnd⟩, trail, span?⟩, h => by
    obtain ⟨hd, -, hall⟩ := (tidy_block _).mp h
    rw [filled_block, content?_of_not_dynamic hd, allFilled_iff]
    refine ⟨rfl, fun s hs => filled_of_tidy s ((allTidy_iff _).mp hall s hs)⟩

/-- The content of a block is filled if the block is. -/
theorem allFilled_content {e : Block} {c : Body} (he : (Structure.block e).Filled) (hc : e.content? = some c) :
    AllFilled c.structures := by
  have hall := (filled_block e).mp he |>.2
  obtain ⟨-, rfl⟩ | ⟨-, i, child, -, hchild, rfl⟩ := Block.content?_cases hc
  · exact hall
  · have hfilled := (allFilled_iff _).mp hall _ (List.mem_of_getElem? hchild)
    exact ((filled_block child).mp hfilled).2

theorem allFilled_set {structures : List Structure} (h : AllFilled structures) {s : Structure} (hs : s.Filled)
    (i : Nat) : AllFilled (structures.set i s) := by
  rw [allFilled_iff] at h ⊢
  intro t ht
  rcases List.mem_or_eq_of_mem_set ht with ht | rfl
  · exact h t ht
  · exact hs

theorem filled_putContent {e : Block} {c d : Body} (he : (Structure.block e).Filled) (hc : e.content? = some c)
    (hd : AllFilled d.structures) : (Structure.block (e.putContent d)).Filled := by
  have hall := (filled_block e).mp he |>.2
  rw [filled_block, Block.content?_putContent hc d]
  refine ⟨rfl, ?_⟩
  obtain ⟨hdyn, -⟩ | ⟨hdyn, i, child, hi, hchild, -⟩ := Block.content?_cases hc
  · rw [Block.putContent_static hdyn]
    exact hd
  · have hstatic : child.isDynamic = false := by simp [Block.isDynamic, Block.ident_of_contentIndex? hi hchild]
    rw [Block.putContent_dynamic hdyn hi hchild]
    apply allFilled_set hall
    rw [filled_block, content?_of_not_dynamic (q := { child with body := d }) hstatic]
    exact ⟨rfl, hd⟩

theorem filled_unindent {s : Structure} (h : s.Filled) : s.unindent.Filled := by
  unfold Structure.unindent
  split
  · rcases s with a | q
    · exact h
    · rw [filled_block] at h
      exact (filled_block _).mpr h
  · exact h

theorem allFilled_mergeStructure_of_no_slot {b : Body} {s : Structure} (hb : AllFilled b.structures)
    (hs : s.Filled) (h : b.slot? s = none) : AllFilled (b.mergeStructure s).structures := by
  rw [Body.mergeStructure_of_no_slot h, allFilled_iff]
  intro t ht
  rcases List.mem_append.mp ht with ht | ht
  · exact (allFilled_iff _).mp hb t ht
  · obtain rfl := List.mem_singleton.mp ht
    exact filled_unindent hs

theorem steady_of_tidy {q : Block} (h : (Structure.block q).Tidy) : q.Steady := by
  have hc := content?_of_not_dynamic ((tidy_block q).mp h).1
  have hself := absorb_self_of_tidy _ h
  rw [absorb_block hc, Structure.block.injEq] at hself
  unfold Block.Steady
  rw [Block.modifyContent?_eq, hc, Option.map_some, hself]

mutual

/-- A filled body takes up a tidy structure for good and stays filled. -/
theorem receives_of_tidy (b : Body) (hb : AllFilled b.structures) : (s : Structure) → s.Tidy →
    b.Receives s ∧ AllFilled (b.mergeStructure s).structures
  | .attribute a, _ => by
    refine ⟨by rw [Body.Receives]; trivial, ?_⟩
    cases hslot : b.slot? (.attribute a) with
    | none => exact allFilled_mergeStructure_of_no_slot hb (by simp [Structure.Filled]) hslot
    | some i =>
      obtain ⟨-, x, hx, ht, -⟩ := Body.slot?_eq_some hslot
      rw [Body.mergeStructure_of_slot hslot, ← Body.set_eq_modify hx]
      rcases x with old | e
      · exact allFilled_set hb (by simp [Structure.absorb, Structure.Filled]) i
      · simp at ht
  | .block ⟨lead, ident, identTrail, labels, ⟨structures, head, tail, oneLine, openEnd⟩, trail, span?⟩, h => by
    rw [Body.receives_block]
    cases hfind : b.blocks.find? (·.accepts
        ⟨lead, ident, identTrail, labels, ⟨structures, head, tail, oneLine, openEnd⟩, trail, span?⟩) with
    | none =>
      have hfree := Body.slot?_of_findIdx?_none (Body.findIdx?_of_find?_accepts_none hfind)
      exact ⟨steady_of_tidy h, allFilled_mergeStructure_of_no_slot hb (filled_of_tidy _ h) hfree⟩
    | some e =>
      obtain ⟨i, hi, hx⟩ := Body.findIdx?_of_find?_accepts hfind
      have he := (allFilled_iff _).mp hb _ (List.mem_of_getElem? hx)
      obtain ⟨c, hc⟩ := Option.isSome_iff_exists.mp ((filled_block e).mp he).1
      have hopen : (Structure.block e).isOpen = true := by simp [Structure.isOpen, hc]
      have hslot := Body.slot?_of_findIdx? hi hx
      rw [if_pos hopen] at hslot
      obtain ⟨-, -, hall⟩ := (tidy_block _).mp h
      obtain ⟨hreceives, hfilled⟩ := receivesAll_of_tidy c (allFilled_content he hc) structures hall
      refine ⟨⟨c, hc, hreceives⟩, ?_⟩
      rw [Body.mergeStructure_of_slot hslot, ← Body.set_eq_modify hx, absorb_block hc]
      exact allFilled_set hb (filled_putContent he hc hfilled) i

theorem receivesAll_of_tidy (b : Body) (hb : AllFilled b.structures) : (patch : List Structure) → AllTidy patch →
    b.ReceivesAll patch ∧ AllFilled (b.mergeStructures patch).structures
  | [], _ => by simpa [Body.ReceivesAll] using hb
  | s :: rest, h => by
    obtain ⟨hs, hfilled⟩ := receives_of_tidy b hb s h.1
    obtain ⟨hrest, hfilled⟩ := receivesAll_of_tidy (b.mergeStructure s) hfilled rest h.2
    rw [Body.receivesAll_cons, Body.mergeStructures_cons]
    exact ⟨⟨hs, hrest⟩, hfilled⟩

end

end Terrasmith.Source
