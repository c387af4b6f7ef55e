import Terrasmith.Proofs.Fields
import Terrasmith.Proofs.Filling
import Terrasmith.Proofs.Reading

/-!
Where references stand. An expression is made of parts, and the numbers of the parts that lead to it are its place. The
references of a body report on every variable at any place in it exactly once, in the order in which the variables are
written, with the attributes accessed directly on it; nothing else is reported but, without a path, the traversals that
start with no variable.
-/
namespace Terrasmith

namespace Expr

/-! ## Parts and places -/

/-- The expressions in a key of an object: none if it is a name. -/
def keyParts : Key → List Expr
  | .ident _ => []
  | .expr e => [e]

def entryParts : Entry → List Expr
  | .mk key value => keyParts key ++ [value]

/-- The expressions in one access: an index. -/
def accessParts : Access → List Expr
  | .index e => [e]
  | _ => []

mutual

/-- The expressions in an element of a template, also those in the branches and bodies of directives. -/
def elementParts : Element → List Expr
  | .literal _ => []
  | .interpolation e _ => [e]
  | .ifDirective c t f? _ _ _ => c :: (elementsParts t ++ branchParts f?)
  | .forDirective _ _ collection body _ _ => collection :: elementsParts body

def elementsParts : List Element → List Expr
  | [] => []
  | element :: rest => elementParts element ++ elementsParts rest

def branchParts : Option (List Element) → List Expr
  | none => []
  | some elements => elementsParts elements

end

/-- The expressions that an expression is made of, in the order in which they are written. A template whose text reads
as nothing has none. -/
def parts : Expr → List Expr
  | .null | .bool _ | .number _ | .string _ | .variable _ => []
  | .template _ _ elements? => branchParts elements?
  | .array items => items
  | .object entries => entries.flatMap entryParts
  | .traversal root path => root :: path.flatMap accessParts
  | .call _ args _ => args
  | .parens inner => [inner]
  | .conditional c t f => [c, t, f]
  | .unary _ e => [e]
  | .binary l _ r => [l, r]
  | .listFor (.mk _ _ collection condition?) value => collection :: value :: condition?.toList
  | .objectFor (.mk _ _ collection condition?) key value _ => collection :: key :: value :: condition?.toList

/-- The expression at a place of another one. A place is given by the numbers of the parts that lead to it. -/
def part? (e : Expr) : List Nat → Option Expr
  | [] => some e
  | i :: place => e.parts[i]?.bind (part? · place)

/-- What is reported for a place of an expression. -/
inductive Report (e : Expr) : List Nat → List String → Prop where
  /-- A variable that no traversal starts with: its name. -/
  | variable {place : List Nat} {name : String} (h : e.part? place = some (.variable name))
      (hroot : ∀ outer root path, place = outer ++ [0] → e.part? outer ≠ some (.traversal root path)) :
    Report e place [name]
  /-- A variable that a traversal starts with: its name and the attributes up to the first other access. -/
  | root (outer : List Nat) {name : String} {attributes : List String} {rest : List Access}
      (h : e.part? outer = some (.traversal (.variable name) (attributes.map .attribute ++ rest)))
      (hrest : ∀ a, rest.head? ≠ some (.attribute a)) :
    Report e (outer ++ [0]) (name :: attributes)
  /-- A traversal that starts with anything else: nothing. -/
  | traversal {place : List Nat} {root : Expr} {path : List Access} (h : e.part? place = some (.traversal root path))
      (hroot : root.isVariable = false) :
    Report e place []

/-- Whether an expression is reported where it stands. -/
def isReported : Expr → Bool
  | .variable _ => true
  | .traversal root _ => !root.isVariable
  | _ => false

/-- Places with what is reported for them: all variables in an expression, each once and in the order in which they are
written, and nothing else but the traversals that start with no variable. -/
structure ReportsOn (e : Expr) (sites : List (List Nat × List String)) : Prop where
  inOrder : (sites.map Prod.fst).Pairwise (· < ·)
  reports : ∀ site ∈ sites, Report e site.1 site.2
  complete : ∀ place x, e.part? place = some x → x.isReported = true → place ∈ sites.map Prod.fst

/-! ## References are those of the parts -/

theorem allReferences_eq (items : List Expr) : allReferences items = items.flatMap references := by
  induction items with
  | nil => rfl
  | cons e rest ih => rw [allReferences, ih, List.flatMap_cons]

theorem optionReferences_eq (e? : Option Expr) : optionReferences e? = e?.toList.flatMap references := by
  cases e? <;> simp [optionReferences]

theorem entriesReferences_eq (entries : List Entry) :
    entriesReferences entries = (entries.flatMap entryParts).flatMap references := by
  induction entries with
  | nil => rfl
  | cons entry rest ih =>
    obtain ⟨key, value⟩ := entry
    rw [entriesReferences, ih, List.flatMap_cons, List.flatMap_append]
    cases key <;> simp [entryReferences, keyReferences, entryParts, keyParts]

theorem pathReferences_eq (path : List Access) :
    pathReferences path = (path.flatMap accessParts).flatMap references := by
  induction path with
  | nil => rfl
  | cons access rest ih =>
    rw [pathReferences, ih, List.flatMap_cons, List.flatMap_append]
    cases access <;> simp [accessReferences, accessParts]

mutual

theorem elementReferences_eq : (element : Element) →
    elementReferences element = (elementParts element).flatMap references
  | .literal _ => by simp [elementReferences, elementParts]
  | .interpolation e _ => by simp [elementReferences, elementParts]
  | .ifDirective c t f? _ _ _ => by
    simp [elementReferences, elementParts, elementsReferences_eq t, branchReferences_eq f?]
  | .forDirective _ _ collection body _ _ => by
    simp [elementReferences, elementParts, elementsReferences_eq body]

theorem elementsReferences_eq : (elements : List Element) →
    elementsReferences elements = (elementsParts elements).flatMap references
  | [] => by simp [elementsReferences, elementsParts]
  | element :: rest => by
    simp [elementsReferences, elementsParts, elementReferences_eq element, elementsReferences_eq rest]

theorem branchReferences_eq : (elements? : Option (List Element)) →
    branchReferences elements? = (branchParts elements?).flatMap references
  | none => by simp [branchReferences, branchParts]
  | some elements => by simp [branchReferences, branchParts, elementsReferences_eq elements]

end

/-- What an expression that is no variable and no traversal refers to, its parts do. -/
theorem references_eq_parts {e : Expr} (hvariable : e.isVariable = false)
    (htraversal : ∀ root path, e ≠ .traversal root path) : references e = e.parts.flatMap references := by
  cases e with
  | «variable» name => cases hvariable
  | traversal root path => exact absurd rfl (htraversal root path)
  | listFor loop value =>
    obtain ⟨key?, name, collection, condition?⟩ := loop
    simp [references, parts, optionReferences_eq]
  | objectFor loop key value grouping =>
    obtain ⟨key?, name, collection, condition?⟩ := loop
    simp [references, parts, optionReferences_eq]
  | _ => simp [references, parts, branchReferences_eq, allReferences_eq, entriesReferences_eq]

/-! ## Induction on the parts -/

section Induction

variable {p : Expr → Prop} (step : ∀ e, (∀ part ∈ e.parts, p part) → p e)

include step

-- Each theorem of the block uses `step` through the others.
set_option linter.unusedSectionVars false

mutual

/-- What holds of an expression whenever it holds of its parts holds of all expressions. -/
theorem holds_of_parts : (e : Expr) → p e
  | .null => step _ (List.forall_mem_nil _)
  | .bool _ => step _ (List.forall_mem_nil _)
  | .number _ => step _ (List.forall_mem_nil _)
  | .string _ => step _ (List.forall_mem_nil _)
  | .variable _ => step _ (List.forall_mem_nil _)
  | .template _ _ elements? => step _ (forall_branchParts elements?)
  | .array items => step _ (forall_items items)
  | .object entries => step _ (forall_entryParts entries)
  | .traversal root path => step _ (List.forall_mem_cons.mpr ⟨holds_of_parts root, forall_accessParts path⟩)
  | .call _ args _ => step _ (forall_items args)
  | .parens inner => step _ (List.forall_mem_singleton.mpr (holds_of_parts inner))
  | .conditional c t f => step _ (by simp [parts, holds_of_parts c, holds_of_parts t, holds_of_parts f])
  | .unary _ e => step _ (List.forall_mem_singleton.mpr (holds_of_parts e))
  | .binary l _ r => step _ (by simp [parts, holds_of_parts l, holds_of_parts r])
  | .listFor (.mk _ _ collection condition?) value =>
    step _ (List.forall_mem_cons.mpr ⟨holds_of_parts collection,
      List.forall_mem_cons.mpr ⟨holds_of_parts value, forall_option condition?⟩⟩)
  | .objectFor (.mk _ _ collection condition?) key value _ =>
    step _ (List.forall_mem_cons.mpr ⟨holds_of_parts collection, List.forall_mem_cons.mpr ⟨holds_of_parts key,
      List.forall_mem_cons.mpr ⟨holds_of_parts value, forall_option condition?⟩⟩⟩)
termination_by structural e => e

theorem forall_items : (items : List Expr) → ∀ part ∈ items, p part
  | [] => List.forall_mem_nil _
  | e :: rest => List.forall_mem_cons.mpr ⟨holds_of_parts e, forall_items rest⟩
termination_by structural items => items

theorem forall_option : (e? : Option Expr) → ∀ part ∈ e?.toList, p part
  | none => List.forall_mem_nil _
  | some e => List.forall_mem_singleton.mpr (holds_of_parts e)
termination_by structural e? => e?

theorem forall_keyParts : (key : Key) → ∀ part ∈ keyParts key, p part
  | .ident _ => List.forall_mem_nil _
  | .expr e => List.forall_mem_singleton.mpr (holds_of_parts e)
termination_by structural key => key

theorem forall_entry : (entry : Entry) → ∀ part ∈ entryParts entry, p part
  | .mk key value =>
    List.forall_mem_append.mpr ⟨forall_keyParts key, List.forall_mem_singleton.mpr (holds_of_parts value)⟩
termination_by structural entry => entry

theorem forall_entryParts : (entries : List Entry) → ∀ part ∈ entries.flatMap entryParts, p part
  | [] => List.forall_mem_nil _
  | entry :: rest => List.forall_mem_append.mpr ⟨forall_entry entry, forall_entryParts rest⟩
termination_by structural entries => entries

theorem forall_access : (access : Access) → ∀ part ∈ accessParts access, p part
  | .attribute _ => List.forall_mem_nil _
  | .index e => List.forall_mem_singleton.mpr (holds_of_parts e)
  | .legacyIndex _ => List.forall_mem_nil _
  | .attributeSplat => List.forall_mem_nil _
  | .fullSplat => List.forall_mem_nil _
termination_by structural access => access

theorem forall_accessParts : (path : List Access) → ∀ part ∈ path.flatMap accessParts, p part
  | [] => List.forall_mem_nil _
  | access :: rest => List.forall_mem_append.mpr ⟨forall_access access, forall_accessParts rest⟩
termination_by structural path => path

theorem forall_elementParts : (element : Element) → ∀ part ∈ elementParts element, p part
  | .literal _ => List.forall_mem_nil _
  | .interpolation e _ => List.forall_mem_singleton.mpr (holds_of_parts e)
  | .ifDirective c t f? _ _ _ => List.forall_mem_cons.mpr
      ⟨holds_of_parts c, List.forall_mem_append.mpr ⟨forall_elementsParts t, forall_branchParts f?⟩⟩
  | .forDirective _ _ collection body _ _ =>
    List.forall_mem_cons.mpr ⟨holds_of_parts collection, forall_elementsParts body⟩
termination_by structural element => element

theorem forall_elementsParts : (elements : List Element) → ∀ part ∈ elementsParts elements, p part
  | [] => List.forall_mem_nil _
  | element :: rest => List.forall_mem_append.mpr ⟨forall_elementParts element, forall_elementsParts rest⟩
termination_by structural elements => elements

theorem forall_branchParts : (elements? : Option (List Element)) → ∀ part ∈ branchParts elements?, p part
  | none => List.forall_mem_nil _
  | some elements => forall_elementsParts elements
termination_by structural elements? => elements?

end

end Induction

/-! ## Places -/

variable {e part : Expr} {i : Nat} {place : List Nat} {path : List String}

/-- What is reported for a place of a part is reported for the whole, unless the part is a variable that the whole, a
traversal, starts with. -/
theorem Report.within (hpart : e.parts[i]? = some part) (h : Report part place path)
    (hroot : ∀ root accesses, e = .traversal root accesses → root.isVariable = true → i ≠ 0) :
    Report e (i :: place) path := by
  have hinside : ∀ place, e.part? (i :: place) = part.part? place := fun place => by
    rw [part?, hpart, Option.bind_some]
  cases h with
  | «variable» h hstart =>
    refine .variable ((hinside place).trans h) fun outer root accesses heq hsome => ?_
    cases outer with
    | nil =>
      -- The variable would be the root of the whole.
      obtain ⟨rfl, rfl⟩ := List.cons.inj heq
      obtain rfl := Option.some.inj hsome
      obtain rfl := Option.some.inj hpart
      obtain rfl := Option.some.inj h
      exact hroot _ accesses rfl rfl rfl
    | cons j outer =>
      obtain ⟨rfl, rfl⟩ := List.cons.inj heq
      exact hstart outer root accesses rfl ((hinside outer).symm.trans hsome)
  | root outer h hrest => exact .root (i :: outer) ((hinside outer).trans h) hrest
  | traversal h hplain => exact .traversal ((hinside place).trans h) hplain

theorem exists_leadingAttributes (path : List Access) : ∃ rest,
    path = (leadingAttributes path).map .attribute ++ rest ∧ ∀ a, rest.head? ≠ some (.attribute a) := by
  induction path with
  | nil => exact ⟨[], rfl, fun _ h => by cases h⟩
  | cons access rest ih =>
    cases access with
    | «attribute» name =>
      obtain ⟨more, hrest, hmore⟩ := ih
      exact ⟨more, by rw [leadingAttributes, List.map_cons, List.cons_append, ← hrest], hmore⟩
    | _ => exact ⟨_, rfl, fun _ h => by cases h⟩

theorem exists_of_isVariable (h : e.isVariable = true) : ∃ name, e = .variable name := by
  cases e <;> simp_all [isVariable]

/-- Reports on parts of an expression, the first of which has the number `first`. -/
structure PartReports (first : Nat) (parts : List Expr) (sites : List (List Nat × List String)) : Prop where
  inOrder : (sites.map Prod.fst).Pairwise (· < ·)
  reports : ∀ site ∈ sites, ∃ i part place, parts[i]? = some part ∧ site.1 = (first + i) :: place ∧
    Report part place site.2
  complete : ∀ i part place x, parts[i]? = some part → part.part? place = some x → x.isReported = true →
    (first + i) :: place ∈ sites.map Prod.fst

theorem PartReports.exists_of_mem {first : Nat} {parts : List Expr} {sites : List (List Nat × List String)}
    (h : PartReports first parts sites) (hplace : place ∈ sites.map Prod.fst) :
    ∃ i inner, place = (first + i) :: inner := by
  obtain ⟨site, hsite, rfl⟩ := List.mem_map.mp hplace
  obtain ⟨i, _, inner, -, heq, -⟩ := h.reports site hsite
  exact ⟨i, inner, heq⟩

/-- The reports on a part stand in front of those on the parts behind it. -/
theorem ReportsOn.cons {first : Nat} {parts : List Expr} {own later : List (List Nat × List String)}
    (hown : ReportsOn e own) (hlater : PartReports (first + 1) parts later) :
    PartReports first (e :: parts) (own.map (fun site => (first :: site.1, site.2)) ++ later) where
  inOrder := by
    rw [List.map_append, List.map_map, List.pairwise_append]
    refine ⟨?_, hlater.inOrder, ?_⟩
    · have h := hown.inOrder
      rw [List.pairwise_map] at h ⊢
      exact h.imp fun hlt => List.cons_lt_cons_iff.mpr (.inr ⟨rfl, hlt⟩)
    · intro place hplace place' hplace'
      obtain ⟨site, -, rfl⟩ := List.mem_map.mp hplace
      obtain ⟨i, inner, rfl⟩ := hlater.exists_of_mem hplace'
      exact List.cons_lt_cons_iff.mpr (.inl (by omega))
  reports := by
    intro site hsite
    rcases List.mem_append.mp hsite with h | h
    · obtain ⟨inner, hinner, rfl⟩ := List.mem_map.mp h
      exact ⟨0, e, inner.1, rfl, rfl, hown.reports inner hinner⟩
    · obtain ⟨i, part, place, hpart, heq, hreport⟩ := hlater.reports site h
      exact ⟨i + 1, part, place, hpart, by rw [heq, Nat.add_right_comm, Nat.add_assoc], hreport⟩
  complete := by
    intro i part place x hpart hx hreported
    rw [List.map_append, List.mem_append]
    cases i with
    | zero =>
      cases hpart
      obtain ⟨site, hsite, rfl⟩ := List.mem_map.mp (hown.complete place x hx hreported)
      exact .inl (List.mem_map.mpr ⟨_, List.mem_map_of_mem hsite, rfl⟩)
    | succ i =>
      have hplace := hlater.complete i part place x hpart hx hreported
      rw [Nat.add_assoc, Nat.add_comm 1] at hplace
      exact .inr hplace

/-- Reports on all parts, one after the other. -/
theorem exists_partReports {parts : List Expr}
    (h : ∀ part ∈ parts, ∃ sites, ReportsOn part sites ∧ references part = sites.map Prod.snd) (first : Nat) :
    ∃ sites, PartReports first parts sites ∧ parts.flatMap references = sites.map Prod.snd := by
  induction parts generalizing first with
  | nil => exact ⟨[], ⟨.nil, by simp, by simp⟩, rfl⟩
  | cons e rest ih =>
    rw [List.forall_mem_cons] at h
    obtain ⟨own, hown, hreferences⟩ := h.1
    obtain ⟨later, hlater, hmore⟩ := ih h.2 (first + 1)
    refine ⟨_, hown.cons hlater, ?_⟩
    rw [List.flatMap_cons, hreferences, hmore, List.map_append, List.map_map]
    rfl

/-- Reports on the parts from number `first` on as reports on the whole. -/
theorem PartReports.within {first : Nat} {parts : List Expr} {sites : List (List Nat × List String)}
    (h : PartReports first parts sites) (hparts : ∀ i, e.parts[first + i]? = parts[i]?)
    (hroot : ∀ root accesses, e = .traversal root accesses → root.isVariable = true → 0 < first) :
    ∀ site ∈ sites, Report e site.1 site.2 := by
  intro site hsite
  obtain ⟨i, part, place, hpart, heq, hreport⟩ := h.reports site hsite
  rw [heq]
  refine hreport.within ((hparts i).trans hpart) fun root accesses htraversal hvariable => ?_
  have := hroot root accesses htraversal hvariable
  omega

/-- A report is due at the place itself, or within a part. -/
theorem PartReports.mem {sites : List (List Nat × List String)} (h : PartReports 0 e.parts sites)
    {x : Expr} (hplace : place ≠ []) (hx : e.part? place = some x) (hreported : x.isReported = true) :
    place ∈ sites.map Prod.fst := by
  cases place with
  | nil => exact absurd rfl hplace
  | cons i place =>
    obtain ⟨part, hpart, hx⟩ := Option.bind_eq_some_iff.mp hx
    simpa using h.complete i part place x hpart hx hreported

theorem reportsOn_variable (name : String) : ReportsOn (.variable name) [([], [name])] where
  inOrder := List.pairwise_singleton _ _
  reports := List.forall_mem_singleton.mpr (.variable rfl fun outer _ _ heq => by simp at heq)
  complete := by
    intro place x hx _
    cases place with
    | nil => exact List.mem_singleton_self _
    | cons i place => cases hx

/-- A variable that a traversal starts with is reported with its attributes, and all further parts follow. -/
theorem PartReports.traversal {name : String} {accesses : List Access} {sites : List (List Nat × List String)}
    (h : PartReports 1 (accesses.flatMap accessParts) sites) :
    ReportsOn (.traversal (.variable name) accesses) (([0], name :: leadingAttributes accesses) :: sites) where
  inOrder := by
    rw [List.map_cons, List.pairwise_cons]
    refine ⟨fun place hplace => ?_, h.inOrder⟩
    obtain ⟨i, inner, rfl⟩ := h.exists_of_mem hplace
    exact List.cons_lt_cons_iff.mpr (.inl (by omega))
  reports := by
    refine List.forall_mem_cons.mpr ⟨?_, h.within (fun i => ?_) fun _ _ _ _ => Nat.one_pos⟩
    · obtain ⟨rest, hrest, hhead⟩ := exists_leadingAttributes accesses
      exact .root [] (by rw [part?, ← hrest]) hhead
    · rw [Nat.add_comm]
      rfl
  complete := by
    intro place x hx hreported
    cases place with
    | nil =>
      obtain rfl := Option.some.inj hx
      cases hreported
    | cons i place =>
      obtain ⟨part, hpart, hinner⟩ := Option.bind_eq_some_iff.mp hx
      cases i with
      | zero =>
        obtain rfl := Option.some.inj hpart
        cases place with
        | nil => exact List.mem_cons_self
        | cons j place => cases hinner
      | succ i =>
        have hplace := h.complete i part place x hpart hinner hreported
        rw [Nat.add_comm] at hplace
        exact List.mem_cons_of_mem _ hplace

/-- A traversal that starts with no variable is reported in front of its parts. -/
theorem PartReports.other {root : Expr} {accesses : List Access} {sites : List (List Nat × List String)}
    (h : PartReports 0 (parts (.traversal root accesses)) sites) (hroot : root.isVariable = false) :
    ReportsOn (.traversal root accesses) (([], []) :: sites) where
  inOrder := by
    rw [List.map_cons, List.pairwise_cons]
    refine ⟨fun place hplace => ?_, h.inOrder⟩
    obtain ⟨i, inner, rfl⟩ := h.exists_of_mem hplace
    exact List.nil_lt_cons _ _
  reports := by
    refine List.forall_mem_cons.mpr ⟨.traversal rfl hroot, h.within (fun i => by rw [Nat.zero_add]) ?_⟩
    intro _ _ heq hvariable
    cases heq
    rw [hroot] at hvariable
    cases hvariable
  complete := by
    intro place x hx hreported
    by_cases hplace : place = []
    · exact hplace ▸ List.mem_cons_self
    · exact List.mem_cons_of_mem _ (h.mem hplace hx hreported)

/-- Any other expression is reported by its parts alone. -/
theorem PartReports.plain {sites : List (List Nat × List String)} (h : PartReports 0 e.parts sites)
    (hvariable : e.isVariable = false) (htraversal : ∀ root accesses, e ≠ .traversal root accesses) :
    ReportsOn e sites where
  inOrder := h.inOrder
  reports := h.within (fun i => by rw [Nat.zero_add]) fun root accesses heq => absurd heq (htraversal root accesses)
  complete := by
    intro place x hx hreported
    by_cases hplace : place = []
    · subst hplace
      obtain rfl := Option.some.inj hx
      cases e <;> simp_all [isReported, isVariable]
    · exact h.mem hplace hx hreported

/-- The references of an expression report on it. -/
theorem exists_reportsOn (e : Expr) : ∃ sites, ReportsOn e sites ∧ references e = sites.map Prod.snd := by
  refine holds_of_parts (p := fun e => ∃ sites, ReportsOn e sites ∧ references e = sites.map Prod.snd)
    (fun e ih => ?_) e
  by_cases htraversal : ∃ root accesses, e = .traversal root accesses
  · obtain ⟨root, accesses, rfl⟩ := htraversal
    cases hroot : root.isVariable with
    | true =>
      obtain ⟨name, rfl⟩ := exists_of_isVariable hroot
      obtain ⟨sites, hsites, hreferences⟩ := exists_partReports (List.forall_mem_cons.mp ih).2 1
      refine ⟨_, hsites.traversal, ?_⟩
      rw [references, pathReferences_eq, hreferences]
      rfl
    | false =>
      obtain ⟨sites, hsites, hreferences⟩ := exists_partReports ih 0
      refine ⟨_, hsites.other hroot, ?_⟩
      rw [references, referencePath_of_not_isVariable hroot, if_neg (by simp [hroot]), pathReferences_eq,
        List.map_cons, ← hreferences, parts, List.flatMap_cons]
      rfl
  push Not at htraversal
  cases hvariable : e.isVariable with
  | true =>
    obtain ⟨name, rfl⟩ := exists_of_isVariable hvariable
    exact ⟨_, reportsOn_variable name, rfl⟩
  | false =>
    obtain ⟨sites, hsites, hreferences⟩ := exists_partReports ih 0
    exact ⟨sites, hsites.plain hvariable htraversal, (references_eq_parts hvariable htraversal).trans hreferences⟩

end Expr

/-! ## Bodies -/

open Source

/-- The values of all attributes of some structures, at any depth, as one list. -/
def Source.valueList (structures : List Structure) : Expr :=
  .array ((allAttributesOf structures).map fun a => a.value.expr)

mutual

theorem Source.Structure.paths_eq : (s : Structure) →
    s.paths = s.allAttributes.flatMap fun a => a.value.expr.references
  | .attribute _ => (List.append_nil _).symm
  | .block ⟨_, _, _, _, ⟨structures, _, _, _, _⟩, _, _⟩ => structuresPaths_eq structures

theorem Source.structuresPaths_eq : (structures : List Structure) →
    structuresPaths structures = (allAttributesOf structures).flatMap fun a => a.value.expr.references
  | [] => rfl
  | s :: rest => by
    rw [structuresPaths, allAttributesOf, List.flatMap_append, s.paths_eq, structuresPaths_eq rest]

end

/-- The paths that are found in structures report on all variables in the values of their attributes, at any depth. -/
theorem paths_report_variables (structures : List Structure) :
    ∃ sites, (valueList structures).ReportsOn sites ∧ structuresPaths structures = sites.map Prod.snd := by
  obtain ⟨sites, hsites, hreferences⟩ := (valueList structures).exists_reportsOn
  refine ⟨sites, hsites, ?_⟩
  rw [← hreferences, valueList, Expr.references, Expr.allReferences_eq, List.flatMap_map, structuresPaths_eq]

end Terrasmith
