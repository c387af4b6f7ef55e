import Mathlib.Data.Fintype.Card
import Mathlib.Data.List.Lex
import Mathlib.Data.Set.Finite.Basic
import Mathlib.Logic.Relation
import Mathlib.Order.WellFounded
import Terrasmith.Proofs.Dependencies

/-!
Ordering takes the first item that is ready each time. So it comes to the first of all schedules, where a schedule has
each item behind all that it needs and schedules are compared by load positions; and where it comes to a halt, what is
left are the items that lead to a cycle of needs.
-/
namespace Terrasmith

open Source
open Relation (TransGen ReflTransGen)

/-! The first of all schedules -/

section Greedy

variable {α : Type} {needs : α → α → Prop} {items ordered stuck : List α}

/-- An order of all items with each one behind those that it needs. -/
structure Schedule (needs : α → α → Prop) (items order : List α) : Prop where
  perm : order.Perm items
  behind : ∀ before a after, order = before ++ a :: after → ∀ b ∈ items, needs a b → b ∈ before

/-- How items are ordered: the first one that needs none of those that are left goes next, until there is no such item.
The last list holds what is left then. -/
inductive Greedy (needs : α → α → Prop) : List α → List α → List α → Prop
  | stuck {items : List α} (waits : ∀ a ∈ items, ∃ b ∈ items, needs a b) : Greedy needs items [] items
  | next {before after ordered stuck : List α} {a : α} (waits : ∀ b ∈ before, ∃ b' ∈ before ++ a :: after, needs b b')
      (ready : ∀ b ∈ before ++ a :: after, ¬needs a b) (rest : Greedy needs (before ++ after) ordered stuck) :
      Greedy needs (before ++ a :: after) (a :: ordered) stuck

namespace Schedule

variable {before after order : List α} {a : α}

/-- What comes first needs nothing. -/
theorem ready_head (h : Schedule needs items (a :: order)) : ∀ b ∈ items, ¬needs a b := fun b hb hneeds =>
  List.not_mem_nil (h.behind [] a order rfl b hb hneeds)

/-- Without the first item, a schedule is one of the other items. -/
theorem tail (h : Schedule needs (before ++ a :: after) (a :: order)) (hother : a ∉ before ++ after) :
    Schedule needs (before ++ after) order := by
  refine ⟨(h.perm.trans List.perm_middle).cons_inv, fun before' b after' hsplit b' hb' hneeds => ?_⟩
  have hmem : b' ∈ a :: before' := h.behind (a :: before') b after' (congrArg (a :: ·) hsplit) b'
    (List.perm_middle.mem_iff.mpr (List.mem_cons_of_mem _ hb')) hneeds
  exact (List.mem_cons.mp hmem).resolve_left fun heq => hother (heq ▸ hb')

end Schedule

namespace Greedy

theorem perm (h : Greedy needs items ordered stuck) : (ordered ++ stuck).Perm items := by
  induction h with
  | stuck => exact .refl _
  | next _ _ _ ih => exact (ih.cons _).trans List.perm_middle.symm

/-- What is left is in load order. -/
theorem sublist (h : Greedy needs items ordered stuck) : stuck.Sublist items := by
  induction h with
  | stuck => exact .refl _
  | next _ _ _ ih => exact ih.trans ((List.Sublist.refl _).append (List.sublist_cons_self _ _))

/-- An item that is left needs another one that is left. -/
theorem waits (h : Greedy needs items ordered stuck) : ∀ a ∈ stuck, ∃ b ∈ stuck, needs a b := by
  induction h with
  | stuck waits => exact waits
  | next _ _ _ ih => exact ih

/-- An item is ordered behind all that it needs. -/
theorem behind (h : Greedy needs items ordered stuck) {before after : List α} {a : α}
    (hsplit : ordered = before ++ a :: after) {b : α} (hb : b ∈ items) (hneeds : needs a b) : b ∈ before := by
  induction h generalizing before with
  | stuck => simp at hsplit
  | next _ ready _ ih =>
    cases before with
    | nil =>
      obtain ⟨rfl, -⟩ := List.cons.inj hsplit
      exact absurd hneeds (ready b hb)
    | cons first before =>
      obtain ⟨rfl, hrest⟩ := List.cons.inj hsplit
      rcases List.mem_cons.mp (List.perm_middle.mem_iff.mp hb) with rfl | hb
      · exact List.mem_cons_self
      · exact List.mem_cons_of_mem _ (ih hrest hb)

/-- No chain of needs from an ordered item goes on for ever, if this holds for what was ordered before. -/
theorem acc (h : Greedy needs items ordered stuck)
    (hbefore : ∀ a ∈ items, ∀ b, needs a b → b ∈ items ∨ Acc (fun b a => needs a b) b) :
    ∀ a ∈ ordered, Acc (fun b a => needs a b) a := by
  induction h with
  | stuck => simp
  | @next before after _ _ a _ ready _ ih =>
    have hfirst : Acc (fun b a => needs a b) a := by
      refine ⟨a, fun b hneeds => ?_⟩
      exact (hbefore a (List.mem_append_right _ List.mem_cons_self) b hneeds).resolve_left fun hb => ready b hb hneeds
    refine List.forall_mem_cons.mpr ⟨hfirst, ih fun b hb b' hneeds => ?_⟩
    rcases hbefore b (List.perm_middle.mem_iff.mpr (List.mem_cons_of_mem _ hb)) b' hneeds with hb' | hb'
    · rcases List.mem_cons.mp (List.perm_middle.mem_iff.mp hb') with rfl | hb'
      · exact .inr hfirst
      · exact .inl hb'
    · exact .inr hb'

/-- If nothing is left, no schedule comes before the one that was found. -/
theorem least (h : Greedy needs items ordered []) {position : α → Nat}
    (hpositions : items.Pairwise fun a b => position a < position b) {order : List α}
    (hschedule : Schedule needs items order) : ordered.map position ≤ order.map position := by
  generalize hstuck : ([] : List α) = stuck at h
  induction h generalizing order with
  | stuck =>
    subst hstuck
    rw [List.perm_nil.mp hschedule.perm]
  | @next before after ordered _ a waits _ _ ih =>
    obtain ⟨hbefore, hafter, hacross⟩ := List.pairwise_append.mp hpositions
    rw [List.pairwise_cons] at hafter
    cases order with
    | nil => simpa using hschedule.perm.length_eq
    | cons first order =>
      have hfirst : first ∈ before ++ a :: after := hschedule.perm.mem_iff.mp List.mem_cons_self
      have hready : first ∉ before := fun hmem =>
        let ⟨b, hb, hneeds⟩ := waits first hmem
        hschedule.ready_head b hb hneeds
      rcases List.mem_cons.mp ((List.mem_append.mp hfirst).resolve_left hready) with rfl | hlater
      · have hother : first ∉ before ++ after := fun hmem => by
          rcases List.mem_append.mp hmem with hmem | hmem
          · exact hready hmem
          · exact absurd (hafter.1 first hmem) (Nat.lt_irrefl _)
        have hsublist : (before ++ after).Sublist (before ++ first :: after) :=
          (List.Sublist.refl _).append (List.sublist_cons_self _ _)
        exact List.cons_le_cons _ (ih (hpositions.sublist hsublist) (hschedule.tail hother) hstuck)
      · exact le_of_lt (List.Lex.rel (hafter.1 first hlater))

end Greedy

/-- From an item a cycle of needs can be reached. -/
def LeadsToCycle (needs : α → α → Prop) (a : α) : Prop :=
  ∃ b, ReflTransGen needs a b ∧ TransGen needs b b

/-- Where each of some items needs one of them, each leads to a cycle. -/
theorem leadsToCycle_of_waits {a : α} (hwaits : ∀ a ∈ items, ∃ b ∈ items, needs a b) (ha : a ∈ items) :
    LeadsToCycle needs a := by
  by_contra hnone
  rw [LeadsToCycle, not_exists] at hnone
  -- Otherwise one of the finitely many items that `a` leads to would have none behind it.
  let reached := { b // b ∈ items ∧ ReflTransGen needs a b }
  have : Finite reached := ((List.finite_toSet items).subset fun b hb => hb.1).to_subtype
  let leads (b b' : reached) : Prop := TransGen needs b'.1 b.1
  have : IsTrans reached leads := ⟨fun _ _ _ h h' => h'.trans h⟩
  have : Std.Irrefl leads := ⟨fun b h => hnone b.1 ⟨b.2.2, h⟩⟩
  obtain ⟨last, -, hlast⟩ := (Finite.wellFounded_of_trans_of_irrefl leads).has_min Set.univ ⟨⟨a, ha, .refl⟩, trivial⟩
  obtain ⟨b, hb, hneeds⟩ := hwaits last.1 last.2.1
  exact hlast ⟨b, hb, last.2.2.tail hneeds⟩ trivial (.single hneeds)

/-- Where all chains of needs end, none of them comes to a cycle. -/
theorem not_leadsToCycle_of_acc {a : α} (h : Acc (fun b a => needs a b) a) : ¬LeadsToCycle needs a := by
  induction h with
  | intro a _ ih =>
    rintro ⟨b, hreach, hcycle⟩
    rcases ReflTransGen.cases_head hreach with rfl | ⟨next, hnext, hreach⟩
    · obtain ⟨next, hnext, hback⟩ := TransGen.head'_iff.mp hcycle
      exact ih next hnext ⟨a, hback, hcycle⟩
    · exact ih next hnext ⟨b, hreach, hcycle⟩

/-- What is left are the items that lead to a cycle. -/
theorem Greedy.mem_stuck_iff (h : Greedy needs items ordered stuck) (hclosed : ∀ a b, needs a b → b ∈ items) {a : α}
    (ha : a ∈ items) : a ∈ stuck ↔ LeadsToCycle needs a := by
  refine ⟨leadsToCycle_of_waits h.waits, fun hcycle => ?_⟩
  refine (List.mem_append.mp (h.perm.mem_iff.mpr ha)).resolve_left fun hordered => ?_
  exact not_leadsToCycle_of_acc (h.acc (fun a _ b hneeds => .inl (hclosed a b hneeds)) a hordered) hcycle

/-- Nothing is left exactly if there is no cycle. -/
theorem Greedy.stuck_eq_nil_iff (h : Greedy needs items ordered stuck) (hclosed : ∀ a b, needs a b → b ∈ items) :
    stuck = [] ↔ ∀ a, ¬TransGen needs a a := by
  rw [List.eq_nil_iff_forall_not_mem]
  constructor
  · intro hnone a hcycle
    obtain ⟨b, -, hneeds⟩ := TransGen.tail'_iff.mp hcycle
    exact hnone a ((h.mem_stuck_iff hclosed (hclosed b a hneeds)).mpr ⟨a, .refl, hcycle⟩)
  · intro hnone a ha
    obtain ⟨b, -, hcycle⟩ := leadsToCycle_of_waits h.waits ha
    exact hnone b hcycle

end Greedy

/-! What declarations need -/

/-- An entry of `depends_on` names the declaration of an address by a reference to it or by a string. -/
inductive Names : Expr → String → Prop
  | reference {root : Expr} {path : List Access} {address : String}
      (leads : addressOfPath? (Expr.referencePath root path) = some address) : Names (.traversal root path) address
  | string {text address : String} (leads : addressOfPath? (Text.splitOn text ".") = some address) :
      Names (.string text) address

namespace Config

variable {c : Config} {d e : Declaration} {address : String} {addresses : List String}

/-- A declaration needs another one that it refers to, and any one, even itself, that it names in `depends_on`. -/
inductive Needs (c : Config) (d e : Declaration) : Prop
  | refers {path : List String} (declared : e ∈ c.declarations) (other : e.address ≠ d.address)
      (written : path ∈ structuresReferences d.body.structures) (leads : addressOfPath? path = some e.address)
  | names {a : Attribute} {entries : List Expr} {entry : Expr} (declared : e ∈ c.declarations)
      (given : d.body.attribute? "depends_on" = some a) (list : a.value.expr = .array entries)
      (listed : entry ∈ entries) (named : Names entry e.address)

/-- Where `depends_on` is given, each entry of it names a declaration. -/
def NamesDeclared (c : Config) (d : Declaration) : Prop :=
  ∀ a, d.body.attribute? "depends_on" = some a → ∃ entries, a.value.expr = .array entries ∧
    ∀ entry ∈ entries, ∃ e ∈ c.declarations, Names entry e.address

/-- The place of a declaration in load order. -/
def position (c : Config) (d : Declaration) : Nat :=
  (c.declarations.map Declaration.address).idxOf d.address

theorem Needs.declared (h : c.Needs d e) : e ∈ c.declarations := by
  cases h <;> assumption

theorem isSome_get?_iff : (c.get? address).isSome = true ↔ ∃ e ∈ c.declarations, e.address = address := by
  rw [get?, List.find?_isSome]
  simp only [decide_eq_true_eq]

theorem names_iff (own : String) {entry : Expr} :
    Names entry address ↔ ∃ path, entryPath own entry = .ok path ∧ addressOfPath? path = some address := by
  constructor
  · rintro (hleads | hleads)
    · exact ⟨_, rfl, hleads⟩
    · exact ⟨_, rfl, hleads⟩
  · rintro ⟨path, hpath, hleads⟩
    unfold entryPath at hpath
    split at hpath
    · cases hpath
      exact .reference hleads
    · cases hpath
      exact .string hleads
    · cases hpath

theorem dependsOnTarget_eq_ok_iff {own : String} {entry : Expr} :
    c.dependsOnTarget own entry = .ok address ↔ Names entry address ∧ (c.get? address).isSome = true := by
  rw [names_iff own]
  constructor
  · intro h
    obtain ⟨path, hpath, h⟩ := bind_eq_ok h
    split at h
    · rename_i found hleads
      split at h
      · rename_i hdeclared
        cases h
        exact ⟨⟨path, hpath, hleads⟩, hdeclared⟩
      · cases h
    · cases h
  · rintro ⟨⟨path, hpath, hleads⟩, hdeclared⟩
    simp [dependsOnTarget, bind, Except.bind, hpath, hleads, hdeclared]

/-- The entries of `depends_on` are read exactly if each of them names a declaration. -/
theorem namesDeclared_iff : c.NamesDeclared d ↔ ∃ addresses, c.dependsOn d = .ok addresses := by
  unfold NamesDeclared dependsOn
  cases hgiven : d.body.attribute? "depends_on" with
  | none => simp
  | some a =>
    simp only [Option.some.injEq, forall_eq']
    split
    · rename_i entries hlist
      rw [exists_mapM_ok_iff]
      simp only [dependsOnTarget_eq_ok_iff, isSome_get?_iff, hlist, Expr.array.injEq, exists_eq_left']
      exact forall₂_congr fun entry _ => ⟨fun ⟨e, he, hnames⟩ => ⟨_, hnames, e, he, rfl⟩,
        fun ⟨_, hnames, e, he, haddress⟩ => ⟨e, he, haddress ▸ hnames⟩⟩
    · rename_i hlist
      exact iff_of_false (fun ⟨entries, hentries, _⟩ => hlist entries hentries) (by simp)

theorem mem_referenced_iff : address ∈ c.referenced d ↔ ∃ path ∈ structuresReferences d.body.structures,
    addressOfPath? path = some address ∧ address ≠ d.address ∧ (c.get? address).isSome = true := by
  rw [referenced, List.mem_filterMap]
  refine exists_congr fun path => and_congr_right fun _ => ?_
  cases addressOfPath? path with
  | none => simp
  | some found =>
    simp only [Option.bind_eq_bind, Option.bind_some, ne_eq, Bool.and_eq_true, decide_eq_true_eq,
      Option.ite_none_right_eq_some, Option.some.injEq]
    constructor
    · rintro ⟨hfound, rfl⟩
      exact ⟨rfl, hfound⟩
    · rintro ⟨rfl, hfound⟩
      exact ⟨hfound, rfl⟩

theorem mem_dependsOn_iff (h : c.dependsOn d = .ok addresses) : address ∈ addresses ↔
    ∃ a entries, d.body.attribute? "depends_on" = some a ∧ a.value.expr = .array entries ∧
      ∃ entry ∈ entries, Names entry address ∧ (c.get? address).isSome = true := by
  unfold dependsOn at h
  split at h
  · rename_i hgiven
    cases h
    simp [hgiven]
  · rename_i a hgiven
    split at h
    · rename_i entries hlist
      simp only [mem_mapM_ok h, dependsOnTarget_eq_ok_iff, hgiven, Option.some.injEq, exists_and_left,
        exists_eq_left', hlist, Expr.array.injEq]
    · cases h

/-- The dependencies of a declaration are what it needs. -/
theorem mem_dependencies_iff (h : c.dependencies d = .ok addresses) :
    address ∈ addresses ↔ ∃ e, c.Needs d e ∧ e.address = address := by
  obtain ⟨named, hnamed, rfl⟩ := return_eq_ok h
  rw [List.mem_append, mem_referenced_iff, mem_dependsOn_iff hnamed]
  constructor
  · rintro (⟨path, hpath, hleads, hother, hdeclared⟩ | ⟨a, entries, hgiven, hlist, entry, hentry, hnames, hdeclared⟩)
    · obtain ⟨e, he, rfl⟩ := isSome_get?_iff.mp hdeclared
      exact ⟨e, .refers he hother hpath hleads, rfl⟩
    · obtain ⟨e, he, rfl⟩ := isSome_get?_iff.mp hdeclared
      exact ⟨e, .names he hgiven hlist hentry hnames, rfl⟩
  · rintro ⟨e, hneeds, rfl⟩
    have hdeclared : (c.get? e.address).isSome = true := isSome_get?_iff.mpr ⟨e, hneeds.declared, rfl⟩
    rcases hneeds with ⟨_, hother, hpath, hleads⟩ | ⟨_, hgiven, hlist, hentry, hnames⟩
    · exact .inl ⟨_, hpath, hleads, hother, hdeclared⟩
    · exact .inr ⟨_, _, hgiven, hlist, _, hentry, hnames, hdeclared⟩

/-- Pending declarations with what they depend on, and the addresses of those that are done. -/
structure Awaits (c : Config) (pending : List (Declaration × List String)) (done : List String) : Prop where
  part : (pending.map Prod.fst).Sublist c.declarations
  needs : ∀ p ∈ pending, ∀ address, address ∈ p.2 ↔ ∃ e, c.Needs p.1 e ∧ e.address = address
  done : ∀ d ∈ c.declarations, d.address ∈ done ↔ d ∉ pending.map Prod.fst

/-- What ordering comes to. -/
def outcome (ordered stuck : List Declaration) : Except OrderError (List Declaration) :=
  if stuck = [] then .ok ordered else .error (.cycle (stuck.map Declaration.address))

/-- Whether all that a pending declaration depends on is done. -/
def isReady (done : List String) (p : Declaration × List String) : Bool :=
  p.2.all done.contains

section Steps

variable {fuel : Nat} {before after pending : List (Declaration × List String)} {p : Declaration × List String}
  {done : List String}

theorem orderFrom_stuck (hwaits : ∀ q ∈ pending, isReady done q = false) :
    orderFrom fuel pending done = outcome [] (pending.map Prod.fst) := by
  cases pending with
  | nil => cases fuel <;> rfl
  | cons q rest =>
    have hcycle : outcome [] ((q :: rest).map Prod.fst) =
        .error (.cycle (((q :: rest).map Prod.fst).map Declaration.address)) := if_neg (by simp)
    rw [hcycle, List.map_map]
    cases fuel with
    | zero => rfl
    | succ fuel =>
      have hnone : (q :: rest).findIdx? (isReady done) = none := List.findIdx?_eq_none_iff.mpr hwaits
      simp only [orderFrom]
      split
      · rfl
      · rename_i index hfound
        cases hnone.symm.trans hfound

theorem orderFrom_next (hwaits : ∀ q ∈ before, isReady done q = false) (hready : isReady done p = true) :
    orderFrom (fuel + 1) (before ++ p :: after) done =
      do return p.1 :: (← orderFrom fuel (before ++ after) (p.1.address :: done)) := by
  have hfirst : (before ++ p :: after).findIdx? (isReady done) = some before.length :=
    findIdx?_eq_some_iff_append.mpr ⟨before, p, after, rfl, rfl, hwaits, hready⟩
  have hget : (before ++ p :: after)[before.length]? = some p := by simp
  have herase : (before ++ p :: after).eraseIdx before.length = before ++ after := by
    rw [List.eraseIdx_append_of_length_le (Nat.le_refl _), Nat.sub_self, List.eraseIdx_cons_zero]
  rw [orderFrom]
  · split
    · rename_i hfound
      cases hfirst.symm.trans hfound
    · rename_i index hfound
      obtain rfl : before.length = index := Option.some.inj (hfirst.symm.trans hfound)
      rw [hget, herase]
  · simp

/-- A pending declaration is ready exactly if it needs none that is pending. -/
theorem Awaits.isReady_iff (h : c.Awaits pending done) (hp : p ∈ pending) :
    isReady done p = true ↔ ∀ e ∈ pending.map Prod.fst, ¬c.Needs p.1 e := by
  rw [isReady, List.all_eq_true]
  simp only [List.contains_iff_mem]
  constructor
  · intro hdone e he hneeds
    exact (h.done e hneeds.declared).mp (hdone _ ((h.needs p hp _).mpr ⟨e, hneeds, rfl⟩)) he
  · intro hnone address haddress
    obtain ⟨e, hneeds, rfl⟩ := (h.needs p hp address).mp haddress
    exact (h.done e hneeds.declared).mpr fun he => hnone e he hneeds

/-- One step of ordering: a pending declaration is done. -/
theorem Awaits.next (h : c.Awaits (before ++ p :: after) done)
    (hapart : (c.declarations.map Declaration.address).Nodup) :
    c.Awaits (before ++ after) (p.1.address :: done) := by
  have hmap : (before ++ p :: after).map Prod.fst = before.map Prod.fst ++ p.1 :: after.map Prod.fst := by simp
  have hpart := h.part
  rw [hmap] at hpart
  have hother : p.1 ∉ (before ++ after).map Prod.fst := by
    have hnodup := hpart.nodup (List.Nodup.of_map _ hapart)
    rw [List.map_append]
    exact (List.nodup_cons.mp (List.nodup_middle.mp hnodup)).1
  refine ⟨?_, fun q hq => h.needs q ?_, fun d hd => ?_⟩
  · rw [List.map_append]
    exact ((List.Sublist.refl _).append (List.sublist_cons_self _ _)).trans hpart
  · exact List.perm_middle.mem_iff.mpr (List.mem_cons_of_mem _ hq)
  · have hdone := h.done d hd
    rw [hmap, List.perm_middle.mem_iff, List.mem_cons, ← List.map_append] at hdone
    rw [List.mem_cons, hdone]
    have heq : d.address = p.1.address ↔ d = p.1 :=
      ⟨fun haddress => List.inj_on_of_nodup_map hapart hd (hpart.subset (by simp)) haddress, congrArg _⟩
    rw [heq]
    constructor
    · rintro (rfl | hnot)
      · exact hother
      · exact fun hmem => hnot (.inr hmem)
    · intro hmem
      by_cases hd : d = p.1
      · exact .inl hd
      · exact .inr fun hor => hor.elim hd hmem

/-- Ordering takes the first pending declaration that needs no pending one each time. -/
theorem orderFrom_greedy (hapart : (c.declarations.map Declaration.address).Nodup) (hfuel : pending.length ≤ fuel)
    (h : c.Awaits pending done) :
    ∃ ordered stuck, Greedy c.Needs (pending.map Prod.fst) ordered stuck ∧
      orderFrom fuel pending done = outcome ordered stuck := by
  induction fuel generalizing pending done with
  | zero =>
    rw [List.length_eq_zero_iff.mp (Nat.le_zero.mp hfuel)]
    exact ⟨[], [], .stuck (by simp), rfl⟩
  | succ fuel ih =>
    have hwaits (q : Declaration × List String) (hq : q ∈ pending) (hnot : isReady done q = false) :
        ∃ e ∈ pending.map Prod.fst, c.Needs q.1 e := by
      by_contra hnone
      have hready := (h.isReady_iff hq).mpr fun e he hneeds => hnone ⟨e, he, hneeds⟩
      exact Bool.false_ne_true (hnot.symm.trans hready)
    cases hfirst : pending.find? (isReady done) with
    | none =>
      have hnone : ∀ q ∈ pending, isReady done q = false := fun q hq => by simpa using List.find?_eq_none.mp hfirst q hq
      refine ⟨[], _, .stuck ?_, orderFrom_stuck hnone⟩
      intro d hd
      obtain ⟨q, hq, rfl⟩ := List.mem_map.mp hd
      exact hwaits q hq (hnone q hq)
    | some p =>
      obtain ⟨hready, before, after, rfl, hbefore⟩ := List.find?_eq_some_iff_append.mp hfirst
      have hbefore : ∀ q ∈ before, isReady done q = false := fun q hq => by simpa using hbefore q hq
      have hlength : (before ++ after).length ≤ fuel := by simp at hfuel ⊢; omega
      obtain ⟨ordered, stuck, hgreedy, hrest⟩ := ih hlength (h.next hapart)
      refine ⟨p.1 :: ordered, stuck, ?_, ?_⟩
      · rw [List.map_append, List.map_cons]
        rw [List.map_append] at hgreedy
        refine .next ?_ ?_ hgreedy
        · intro d hd
          obtain ⟨q, hq, rfl⟩ := List.mem_map.mp hd
          simpa using hwaits q (List.mem_append_left _ hq) (hbefore q hq)
        · simpa using (h.isReady_iff (by simp)).mp hready
      · rw [orderFrom_next hbefore hready, hrest]
        unfold outcome
        split <;> rfl

end Steps

theorem position_lt (hapart : (c.declarations.map Declaration.address).Nodup) :
    c.declarations.Pairwise fun d e => c.position d < c.position e := by
  rw [List.pairwise_iff_getElem]
  intro i j hi hj hlt
  have hposition (k : Nat) (hk : k < c.declarations.length) : c.position c.declarations[k] = k := by
    have hget := hapart.idxOf_getElem k (by rwa [List.length_map])
    rwa [List.getElem_map] at hget
  rwa [hposition i hi, hposition j hj]

/-- Where all entries of `depends_on` name declarations, ordering is greedy. -/
theorem order_greedy (hapart : (c.declarations.map Declaration.address).Nodup)
    (hnamed : ∀ d ∈ c.declarations, c.NamesDeclared d) :
    ∃ ordered stuck, Greedy c.Needs c.declarations ordered stuck ∧ c.order = outcome ordered stuck := by
  have hread : ∃ pending, (c.declarations.mapM fun d => do return (d, ← c.dependencies d)) = .ok pending := by
    refine exists_mapM_ok_iff.mpr fun d hd => ?_
    obtain ⟨addresses, haddresses⟩ := namesDeclared_iff.mp (hnamed d hd)
    exact ⟨(d, c.referenced d ++ addresses), by rw [dependencies, haddresses]; rfl⟩
  obtain ⟨pending, hpending⟩ := hread
  obtain ⟨hfirst, hdependencies⟩ := pending_of_mapM hpending
  have hfirst : pending.map Prod.fst = c.declarations := hfirst
  have hawaits : c.Awaits pending [] :=
    { part := by rw [hfirst]
      needs := fun p hp address => mem_dependencies_iff (hdependencies p hp)
      done := fun d hd => by simpa [hfirst] using hd }
  obtain ⟨ordered, stuck, hgreedy, horder⟩ := orderFrom_greedy hapart (Nat.le_refl _) hawaits
  refine ⟨ordered, stuck, hfirst ▸ hgreedy, ?_⟩
  rw [order, hpending]
  exact horder

end Config

/-- Ordering succeeds exactly if no declaration needs itself in the end. It then gives the first of all schedules, by
the places of the declarations in load order. Otherwise it reports in load order the declarations that lead to a
cycle. -/
theorem order_first_schedule {documents : List Config.Document} {c : Config}
    (h : Config.ofDocuments documents = .ok c) (hnamed : ∀ d ∈ c.declarations, c.NamesDeclared d) :
    ((∃ order, c.order = .ok order) ↔ ∀ d, ¬TransGen c.Needs d d) ∧
      (∀ order, c.order = .ok order → Schedule c.Needs c.declarations order ∧
        ∀ order', Schedule c.Needs c.declarations order' → order.map c.position ≤ order'.map c.position) ∧
      ∀ e, c.order = .error e → ∃ stuck : List Declaration, e = .cycle (stuck.map Declaration.address) ∧
        stuck.Sublist c.declarations ∧ ∀ d ∈ c.declarations, d ∈ stuck ↔ LeadsToCycle c.Needs d := by
  have hapart := Config.nodup_ofDocuments h
  have hclosed (d e : Declaration) (hneeds : c.Needs d e) : e ∈ c.declarations := hneeds.declared
  obtain ⟨ordered, stuck, hgreedy, horder⟩ := Config.order_greedy hapart hnamed
  rw [horder, ← hgreedy.stuck_eq_nil_iff hclosed]
  by_cases hstuck : stuck = []
  · subst hstuck
    rw [Config.outcome, if_pos rfl]
    refine ⟨iff_of_true ⟨ordered, rfl⟩ rfl, fun order hok => ?_, fun e herror => (nomatch herror)⟩
    cases hok
    have hperm := hgreedy.perm
    rw [List.append_nil] at hperm
    exact ⟨⟨hperm, fun before d after hsplit e he hneeds => hgreedy.behind hsplit he hneeds⟩,
      fun order' hschedule => hgreedy.least (Config.position_lt hapart) hschedule⟩
  · rw [Config.outcome, if_neg hstuck]
    refine ⟨iff_of_false (fun ⟨_, hok⟩ => (nomatch hok)) hstuck, fun order hok => (nomatch hok), fun e herror => ?_⟩
    cases herror
    exact ⟨stuck, rfl, hgreedy.sublist, fun d hd => hgreedy.mem_stuck_iff hclosed hd⟩

/-- The configuration of a single file in which all entries of `depends_on` are read, with what ordering comes to: the
addresses in order, or those that are reported. -/
def readOrder (text : String) : Option (Config × (List String ⊕ List String)) := do
  let c ← (Config.ofDocuments [⟨"main.mptf.hcl", parse? text⟩]).toOption
  guard (c.declarations.all fun d => (c.dependsOn d).isOk)
  match c.order with
  | .ok order => return (c, .inl (order.map Declaration.address))
  | .error (.cycle addresses) => return (c, .inr addresses)
  | .error _ => none

theorem exists_of_readOrder {text : String} {result : List String ⊕ List String}
    (h : (readOrder text).map Prod.snd = some result) :
    ∃ c, Config.ofDocuments [⟨"main.mptf.hcl", parse? text⟩] = .ok c ∧ (∀ d ∈ c.declarations, c.NamesDeclared d) ∧
      match result with
      | .inl addresses => ∃ order, c.order = .ok order ∧ order.map Declaration.address = addresses
      | .inr addresses => c.order = .error (.cycle addresses) := by
  obtain ⟨⟨_, result⟩, hread, rfl⟩ := Option.map_eq_some_iff.mp h
  obtain ⟨c, hload, hread⟩ := Option.bind_eq_some_iff.mp hread
  obtain ⟨_, hguard, hread⟩ := Option.bind_eq_some_iff.mp hread
  have hnamed : ∀ d ∈ c.declarations, c.NamesDeclared d := fun d hd =>
    Config.namesDeclared_iff.mpr (exists_of_isOk (List.all_eq_true.mp (by simpa using hguard) d hd))
  cases horder : c.order with
  | ok order =>
    rw [horder] at hread
    cases hread
    exact ⟨_, ok_of_toOption hload, hnamed, order, horder, rfl⟩
  | error e =>
    rw [horder] at hread
    cases e with
    | cycle addresses =>
      cases hread
      exact ⟨_, ok_of_toOption hload, hnamed, horder⟩
    | _ => cases hread

/-- A transform before the queries that it needs, which come in the order of `depends_on`. -/
def swappedText : String :=
  "transform \"remove_block\" \"t\" \x7b\n  target_block_address = data.resource.a.x\n\x7d\n" ++
    "data \"resource\" \"a\" \x7b\n  depends_on = [\"data.resource.b\"]\n\x7d\n" ++
    "data \"resource\" \"b\" \x7b\n\x7d\n"

/-- A query on its own, two that need each other and one that needs the first of them. -/
def cyclicText : String :=
  "data \"resource\" \"c\" \x7b\n  x = data.resource.a.x\n\x7d\n" ++
    "data \"resource\" \"free\" \x7b\n\x7d\n" ++
    "data \"resource\" \"a\" \x7b\n  x = data.resource.b.x\n\x7d\n" ++
    "data \"resource\" \"b\" \x7b\n  depends_on = [data.resource.a]\n\x7d\n"

/-- One configuration is ordered, the other one has a cycle. -/
theorem order_of_swapped_and_cyclic :
    (∃ (c : Config) (order : List Declaration), Config.ofDocuments [⟨"main.mptf.hcl", parse? swappedText⟩] = .ok c ∧
      (∀ d ∈ c.declarations, c.NamesDeclared d) ∧ c.order = .ok order ∧
      order.map Declaration.address = ["data.resource.b", "data.resource.a", "transform.remove_block.t"] ∧
      (∀ d, ¬TransGen c.Needs d d) ∧ Schedule c.Needs c.declarations order) ∧
    ∃ (c : Config) (stuck : List Declaration), Config.ofDocuments [⟨"main.mptf.hcl", parse? cyclicText⟩] = .ok c ∧
      (∀ d ∈ c.declarations, c.NamesDeclared d) ∧
      c.order = .error (.cycle (stuck.map Declaration.address)) ∧
      stuck.map Declaration.address = ["data.resource.c", "data.resource.a", "data.resource.b"] ∧
      ∀ d ∈ c.declarations, d ∈ stuck ↔ LeadsToCycle c.Needs d := by
  constructor
  · have hread : (readOrder swappedText).map Prod.snd =
        some (.inl ["data.resource.b", "data.resource.a", "transform.remove_block.t"]) := by
      -- the characters are given: to read them off the bytes of the text takes longer than to parse them
      have hchars : swappedText.toList = _ :=
        String.toList_append.trans (congrArg₂ (· ++ ·) (String.toList_append.trans (congrArg₂ (· ++ ·)
          String.toList_ofList String.toList_ofList)) String.toList_ofList)
      rw [readOrder, parse?, hchars]
      decide +kernel
    obtain ⟨c, hload, hnamed, order, horder, haddresses⟩ := exists_of_readOrder hread
    have h := order_first_schedule hload hnamed
    exact ⟨c, order, hload, hnamed, horder, haddresses, h.1.mp ⟨order, horder⟩, (h.2.1 order horder).1⟩
  · have hread : (readOrder cyclicText).map Prod.snd =
        some (.inr ["data.resource.c", "data.resource.a", "data.resource.b"]) := by
      have hchars : cyclicText.toList = _ := String.toList_append.trans (congrArg₂ (· ++ ·)
        (String.toList_append.trans (congrArg₂ (· ++ ·) (String.toList_append.trans (congrArg₂ (· ++ ·)
          String.toList_ofList String.toList_ofList)) String.toList_ofList)) String.toList_ofList)
      rw [readOrder, parse?, hchars]
      decide +kernel
    obtain ⟨c, hload, hnamed, horder⟩ := exists_of_readOrder hread
    obtain ⟨stuck, hcycle, -, hstuck⟩ := (order_first_schedule hload hnamed).2.2 _ horder
    have haddresses := OrderError.cycle.inj hcycle
    exact ⟨c, stuck, hload, hnamed, haddresses ▸ horder, haddresses.symm, hstuck⟩

end Terrasmith
