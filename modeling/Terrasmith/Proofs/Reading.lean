import Terrasmith.Expr.References
import Terrasmith.Proofs.Resolution

/-!
What expressions read. The value of an expression, or its failure, depends on nothing but what its references lead to.
-/
namespace Terrasmith

namespace Expr

/-- Whether a reference leads to the same in two scopes. -/
def Alike (s₁ s₂ : Scope) : List String → Prop
  | [] => True
  | name :: attributes => ∀ within,
    (s₁.lookup name).map (entryAt within · attributes) = (s₂.lookup name).map (entryAt within · attributes)

/-- Whether some references lead to the same in two scopes. -/
def AllAlike (s₁ s₂ : Scope) (paths : List (List String)) : Prop := ∀ path ∈ paths, Alike s₁ s₂ path

variable {s₁ s₂ : Scope}

@[simp] theorem allAlike_cons {path : List String} {paths : List (List String)} :
    AllAlike s₁ s₂ (path :: paths) ↔ Alike s₁ s₂ path ∧ AllAlike s₁ s₂ paths :=
  List.forall_mem_cons

@[simp] theorem allAlike_append {paths paths' : List (List String)} :
    AllAlike s₁ s₂ (paths ++ paths') ↔ AllAlike s₁ s₂ paths ∧ AllAlike s₁ s₂ paths' :=
  List.forall_mem_append

theorem AllAlike.mono {paths paths' : List (List String)} (h : AllAlike s₁ s₂ paths) (hsub : paths' ⊆ paths) :
    AllAlike s₁ s₂ paths' := fun path hpath => h path (hsub hpath)

theorem Alike.bind {path : List String} (h : Alike s₁ s₂ path) (name : String) (v : Value) :
    Alike ((name, v) :: s₁) ((name, v) :: s₂) path := by
  cases path with
  | nil => trivial
  | cons first attributes =>
    intro within
    rw [List.lookup_cons, List.lookup_cons]
    split
    · rfl
    · exact h within

/-- References that lead to the same do so in the rounds of loops. -/
theorem AllAlike.bindLoop {paths : List (List String)} (h : AllAlike s₁ s₂ paths) (key? : Option String)
    (value : String) (k v : Value) :
    AllAlike (bindLoop s₁ key? value k v) (bindLoop s₂ key? value k v) paths := by
  intro path hpath
  cases key? with
  | none => exact (h path hpath).bind value v
  | some key => exact ((h path hpath).bind key k).bind value v

/-- A computation over the rounds of a loop that is the same for the scopes of both sides. -/
theorem loopScopes_alike {α : Type} (within : Expr) (key? : Option String) (value : String) (v : Value)
    {f₁ f₂ : List Scope → Except Fault α}
    (h : ∀ rounds : List (Value × Value), f₁ (rounds.map fun r => bindLoop s₁ key? value r.1 r.2) =
      f₂ (rounds.map fun r => bindLoop s₂ key? value r.1 r.2)) :
    (loopScopes within s₁ key? value v >>= f₁) = loopScopes within s₂ key? value v >>= f₂ := by
  cases v with
  | array items =>
    have hrounds := h (items.zipIdx.map fun p => (.ofNat p.2, p.1))
    rw [List.map_map, List.map_map] at hrounds
    exact hrounds
  | object entries =>
    have hrounds := h (entries.map fun p => (.string p.1, p.2))
    rw [List.map_map, List.map_map] at hrounds
    exact hrounds
  | _ => rfl

/-- A traversal starts with its attributes. -/
theorem evalPath_leading (scope : Scope) (within this : Expr) : (path : List Access) → ∀ v,
    evalPath scope within this (.one v) path = (entryAt within v (leadingAttributes path) >>= fun v =>
      evalPath scope within this (.one v) (path.drop (leadingAttributes path).length))
  | [], _ => rfl
  | .attribute name :: rest, v => by
    rw [evalPath, Focus.attribute, leadingAttributes, entryAt, List.foldlM_cons]
    cases entryOf within v name with
    | error e => rfl
    | ok w => exact evalPath_leading scope within this rest w
  | .index _ :: _, _ => rfl
  | .legacyIndex _ :: _, _ => rfl
  | .attributeSplat :: _, _ => rfl
  | .fullSplat :: _, _ => rfl

/-- What a variable stands for, in scopes where it does so with the attributes accessed on it. -/
theorem Alike.lookup {name : String} {attributes : List String} (h : Alike s₁ s₂ (name :: attributes)) :
    s₁.lookup name = none ∧ s₂.lookup name = none ∨ ∃ v₁ v₂, s₁.lookup name = some v₁ ∧ s₂.lookup name = some v₂ ∧
      ∀ within, entryAt within v₁ attributes = entryAt within v₂ attributes := by
  have hnull := h .null
  cases h₁ : s₁.lookup name with
  | none =>
    rw [h₁] at hnull
    exact .inl ⟨rfl, by simpa using hnull.symm⟩
  | some v₁ =>
    cases h₂ : s₂.lookup name with
    | none =>
      rw [h₁, h₂] at hnull
      cases hnull
    | some v₂ =>
      refine .inr ⟨v₁, v₂, rfl, rfl, fun within => ?_⟩
      simpa [h₁, h₂] using h within

mutual

theorem eval_alike : (e : Expr) → ∀ {s₁ s₂ : Scope}, AllAlike s₁ s₂ e.references →
    ∀ within, eval s₁ within e = eval s₂ within e
  | .null, _, _, _, _ => rfl
  | .bool _, _, _, _, _ => rfl
  | .number _, _, _, _, _ => rfl
  | .string _, _, _, _, _ => rfl
  | .template _ _ none, _, _, _, _ => rfl
  | .template form source (some [.interpolation e strip]), _, _, h, _ => by
    simp only [references, branchReferences, elementsReferences, elementReferences, allAlike_append] at h
    rw [eval, eval, eval_alike e h.1]
  | .template form source (some []), _, _, _, _ => rfl
  | .template form source (some (.literal text :: rest)), _, _, h, within => by
    simp only [eval, evalElements_alike (.literal text :: rest) h]
  | .template form source (some (.ifDirective c t f? ifStrip elseStrip endStrip :: rest)), _, _, h, within => by
    simp only [eval, evalElements_alike (.ifDirective c t f? ifStrip elseStrip endStrip :: rest) h]
  | .template form source (some (.forDirective key? value collection body forStrip endStrip :: rest)), _, _, h, within => by
    simp only [eval, evalElements_alike (.forDirective key? value collection body forStrip endStrip :: rest) h]
  | .template form source (some (.interpolation e strip :: second :: rest)), _, _, h, within => by
    simp only [eval, evalElements_alike (.interpolation e strip :: second :: rest) h]
  | .array items, _, _, h, _ => by
    rw [eval, eval, evalAll_alike items h]
  | .object entries, _, _, h, _ => by
    rw [eval, eval, evalEntries_alike entries h]
  | .variable name, s₁, s₂, h, within => by
    have hname : Alike s₁ s₂ [name] := h [name] (by simp [references])
    rw [eval, eval]
    obtain ⟨h₁, h₂⟩ | ⟨v₁, v₂, h₁, h₂, hv⟩ := hname.lookup
    · rw [h₁, h₂]
    · rw [h₁, h₂]
      exact hv within
  | .traversal root path, s₁, s₂, h, within => by
    simp only [references, allAlike_cons, allAlike_append, List.cons_append] at h
    obtain ⟨hreference, hroot, hpath⟩ := h
    have hrest := fun within this focus => evalPath_alike path hpath within this focus
    cases hvariable : root.isVariable with
    | false =>
      rw [hvariable] at hroot
      simp only [eval, eval_alike root hroot, hrest]
    | true =>
      obtain ⟨name, rfl⟩ : ∃ name, root = .variable name := by
        cases root <;> first | exact ⟨_, rfl⟩ | cases hvariable
      rw [eval, eval, eval, eval]
      obtain ⟨h₁, h₂⟩ | ⟨v₁, v₂, h₁, h₂, hv⟩ := Alike.lookup hreference
      · rw [h₁, h₂]
        rfl
      · -- The attributes lead from both values to the same one.
        have hswap : ∀ this, evalPath s₁ within this (.one v₁) path = evalPath s₁ within this (.one v₂) path :=
          fun this => by rw [evalPath_leading, hv, ← evalPath_leading]
        rw [h₁, h₂]
        exact (hswap _).trans (hrest _ _ _)
  | .call name args expand, _, _, h, _ => by
    rw [eval, eval, evalAll_alike args h]
  | .parens inner, _, _, h, _ => by
    rw [eval, eval, eval_alike inner h]
  | .conditional c t f, _, _, h, _ => by
    simp only [references, allAlike_append] at h
    rw [eval, eval, eval_alike c h.1.1, eval_alike t h.1.2, eval_alike f h.2]
  | .unary op e, _, _, h, _ => by
    rw [eval, eval, eval_alike e h]
  | .binary l op r, _, _, h, _ => by
    simp only [references, allAlike_append] at h
    rw [eval, eval, eval_alike l h.1, eval_alike r h.2]
  | .listFor (.mk key? value collection condition?) e, _, _, h, _ => by
    simp only [references, allAlike_append] at h
    obtain ⟨⟨hcollection, he⟩, hcondition⟩ := h
    rw [eval, eval]
    simp only [eval_alike collection hcollection]
    congr 1
    funext v
    refine loopScopes_alike _ _ _ _ fun rounds => ?_
    simp only [List.mapM_map, Function.comp_def, evalCondition_alike condition? (hcondition.bindLoop key? value _ _),
      eval_alike e (he.bindLoop key? value _ _)]
  | .objectFor (.mk key? value collection condition?) k e grouping, _, _, h, _ => by
    simp only [references, allAlike_append] at h
    obtain ⟨⟨⟨hcollection, hk⟩, he⟩, hcondition⟩ := h
    rw [eval, eval]
    simp only [eval_alike collection hcollection]
    congr 1
    funext v
    refine loopScopes_alike _ _ _ _ fun rounds => ?_
    simp only [List.foldlM_map, evalCondition_alike condition? (hcondition.bindLoop key? value _ _),
      eval_alike k (hk.bindLoop key? value _ _), eval_alike e (he.bindLoop key? value _ _)]
termination_by structural x => x

theorem evalAll_alike : (items : List Expr) → ∀ {s₁ s₂ : Scope}, AllAlike s₁ s₂ (allReferences items) →
    ∀ within, evalAll s₁ within items = evalAll s₂ within items
  | [], _, _, _, _ => rfl
  | e :: rest, _, _, h, _ => by
    simp only [allReferences, allAlike_append] at h
    rw [evalAll, evalAll, eval_alike e h.1, evalAll_alike rest h.2]
termination_by structural x => x

theorem evalCondition_alike : (condition? : Option Expr) → ∀ {s₁ s₂ : Scope},
    AllAlike s₁ s₂ (optionReferences condition?) →
    ∀ loop, evalCondition s₁ loop condition? = evalCondition s₂ loop condition?
  | none, _, _, _, _ => rfl
  | some c, _, _, h, _ => by
    rw [evalCondition, evalCondition, eval_alike c h]
termination_by structural x => x

theorem evalKey_alike : (key : Key) → ∀ {s₁ s₂ : Scope}, AllAlike s₁ s₂ (keyReferences key) →
    ∀ within this, evalKey s₁ within this key = evalKey s₂ within this key
  | .ident _, _, _, _, _, _ => rfl
  | .expr e, _, _, h, _, _ => by
    rw [evalKey, evalKey, eval_alike e h]
termination_by structural x => x

theorem evalEntry_alike : (entry : Entry) → ∀ {s₁ s₂ : Scope}, AllAlike s₁ s₂ (entryReferences entry) →
    ∀ within this, evalEntry s₁ within this entry = evalEntry s₂ within this entry
  | .mk key e, _, _, h, _, _ => by
    simp only [entryReferences, allAlike_append] at h
    rw [evalEntry, evalEntry, evalKey_alike key h.1, eval_alike e h.2]
termination_by structural x => x

theorem evalEntries_alike : (entries : List Entry) → ∀ {s₁ s₂ : Scope},
    AllAlike s₁ s₂ (entriesReferences entries) →
    ∀ within this done, evalEntries s₁ within this done entries = evalEntries s₂ within this done entries
  | [], _, _, _, _, _, _ => rfl
  | entry :: rest, _, _, h, _, _, _ => by
    simp only [entriesReferences, allAlike_append] at h
    simp only [evalEntries, evalEntry_alike entry h.1, evalEntries_alike rest h.2]
termination_by structural x => x

theorem evalPath_alike : (path : List Access) → ∀ {s₁ s₂ : Scope}, AllAlike s₁ s₂ (pathReferences path) →
    ∀ within this focus, evalPath s₁ within this focus path = evalPath s₂ within this focus path
  | [], _, _, _, _, _, _ => rfl
  | .attribute name :: rest, _, _, h, _, _, _ => by
    simp only [evalPath, evalPath_alike rest h]
  | .index e :: rest, _, _, h, _, _, _ => by
    simp only [pathReferences, accessReferences, allAlike_append] at h
    simp only [evalPath, eval_alike e h.1, evalPath_alike rest h.2]
  | .legacyIndex n :: rest, _, _, h, _, _, _ => by
    simp only [evalPath, evalPath_alike rest h]
  | .attributeSplat :: rest, _, _, h, _, _, _ => by
    simp only [evalPath, evalPath_alike rest h]
  | .fullSplat :: rest, _, _, h, _, _, _ => by
    simp only [evalPath, evalPath_alike rest h]
termination_by structural x => x

theorem evalElements_alike : (elements : List Element) → ∀ {s₁ s₂ : Scope},
    AllAlike s₁ s₂ (elementsReferences elements) → ∀ within this last stop,
      evalElements s₁ within this last stop elements = evalElements s₂ within this last stop elements
  | [], _, _, _, _, _, _, _ => rfl
  | element :: rest, _, _, h, _, _, _, _ => by
    simp only [elementsReferences, allAlike_append] at h
    simp only [evalElements, evalElement_alike element h.1, evalElements_alike rest h.2]
termination_by structural x => x

theorem evalElement_alike : (element : Element) → ∀ {s₁ s₂ : Scope},
    AllAlike s₁ s₂ (elementReferences element) → ∀ within this strips,
      evalElement s₁ within this strips element = evalElement s₂ within this strips element
  | .literal _, _, _, _, _, _, _ => rfl
  | .interpolation e _, _, _, h, _, _, _ => by
    rw [evalElement, evalElement, eval_alike e h]
  | .ifDirective c t f? _ _ _, _, _, h, _, _, _ => by
    simp only [elementReferences, allAlike_append] at h
    simp only [evalElement, eval_alike c h.1.1, evalElements_alike t h.1.2, evalBranch_alike f? h.2]
  | .forDirective key? value collection body _ _, _, _, h, _, _, _ => by
    simp only [elementReferences, allAlike_append] at h
    obtain ⟨hcollection, hbody⟩ := h
    rw [evalElement, evalElement, eval_alike collection hcollection]
    congr 1
    funext v
    refine loopScopes_alike _ _ _ _ fun rounds => ?_
    simp only [List.mapM_map, Function.comp_def, evalElements_alike body (hbody.bindLoop key? value _ _)]
termination_by structural x => x

theorem evalBranch_alike : (elements? : Option (List Element)) → ∀ {s₁ s₂ : Scope},
    AllAlike s₁ s₂ (branchReferences elements?) → ∀ within this last stop,
      evalBranch s₁ within this last stop elements? = evalBranch s₂ within this last stop elements?
  | none, _, _, _, _, _, _, _ => rfl
  | some elements, _, _, h, _, _, _, _ => evalElements_alike elements h _ _ _ _
termination_by structural x => x

end

/-! Grouping keeps references -/

theorem append_subset_append {α : Type} {a a' b b' : List α} (ha : a ⊆ a') (hb : b ⊆ b') : a ++ b ⊆ a' ++ b' :=
  List.append_subset.mpr ⟨List.subset_append_of_subset_left b' ha, List.subset_append_of_subset_right a' hb⟩

theorem references_attach (left : Expr) (op : BinaryOp) (right : Expr) :
    (attach left op right).references ⊆ left.references ++ right.references := by
  fun_induction attach left op right with
  | case1 l o r h ih =>
    rw [references, references, ← List.append_assoc]
    exact append_subset_append ih (List.Subset.refl _)
  | case2 l o r h => exact List.Subset.refl _
  | case3 right h => exact List.Subset.refl _

theorem leadingAttributes_groupPath (path : List Access) : leadingAttributes (groupPath path) = leadingAttributes path := by
  induction path with
  | nil => rfl
  | cons access rest ih => cases access <;> first | rfl | exact congrArg (List.cons _) ih

theorem isVariable_attach (left : Expr) (op : BinaryOp) (right : Expr) : (attach left op right).isVariable = false := by
  fun_cases attach left op right <;> rfl

/-- Grouping leaves variables alone and turns nothing into one. -/
theorem group_isVariable (e : Expr) : e.isVariable = false ∧ (group e).isVariable = false ∨ group e = e := by
  cases e <;> first
    | exact .inl ⟨rfl, rfl⟩
    | exact .inl ⟨rfl, isVariable_attach _ _ _⟩
    | exact .inr rfl

theorem referencePath_of_not_isVariable {e : Expr} (h : e.isVariable = false) (path : List Access) :
    referencePath e path = [] := by
  cases e <;> first | rfl | cases h

/-- The references of a traversal from another one that starts at the same variable or at none. -/
theorem references_traversal {root root' : Expr} {path path' : List Access}
    (hvariable : root.isVariable = false ∧ root'.isVariable = false ∨ root' = root)
    (hleading : leadingAttributes path' = leadingAttributes path) (hroot : root'.references ⊆ root.references)
    (hpath : pathReferences path' ⊆ pathReferences path) :
    (Expr.traversal root' path').references ⊆ (Expr.traversal root path).references := by
  rw [references, references]
  rcases hvariable with ⟨h, h'⟩ | rfl
  · rw [referencePath_of_not_isVariable h, referencePath_of_not_isVariable h', h, h']
    exact List.cons_subset_cons _ (append_subset_append hroot hpath)
  · have hreference : referencePath root' path' = referencePath root' path := by
      cases root' <;> first | rfl | exact congrArg (List.cons _) hleading
    rw [hreference]
    exact List.cons_subset_cons _ (append_subset_append (List.Subset.refl _) hpath)

mutual

theorem references_group : (e : Expr) → (group e).references ⊆ e.references
  | .template _ _ elements? => branchReferences_group elements?
  | .array items => allReferences_group items
  | .object entries => entriesReferences_group entries
  | .traversal root path => references_traversal (group_isVariable root) (leadingAttributes_groupPath path)
      (references_group root) (pathReferences_group path)
  | .call _ args _ => allReferences_group args
  | .parens inner => references_group inner
  | .conditional c t f =>
    append_subset_append (append_subset_append (references_group c) (references_group t)) (references_group f)
  | .unary _ e => references_group e
  | .binary l op r => fun _ h =>
    append_subset_append (references_group l) (references_group r) (references_attach _ op _ h)
  | .listFor (.mk _ _ collection condition?) e =>
    append_subset_append (append_subset_append (references_group collection) (references_group e))
      (optionReferences_group condition?)
  | .objectFor (.mk _ _ collection condition?) k e _ =>
    append_subset_append (append_subset_append (append_subset_append (references_group collection)
      (references_group k)) (references_group e)) (optionReferences_group condition?)
  | .null => List.Subset.refl _
  | .bool _ => List.Subset.refl _
  | .number _ => List.Subset.refl _
  | .string _ => List.Subset.refl _
  | .variable _ => List.Subset.refl _
termination_by structural x => x

theorem allReferences_group : (items : List Expr) → allReferences (groupAll items) ⊆ allReferences items
  | [] => List.Subset.refl _
  | e :: rest => append_subset_append (references_group e) (allReferences_group rest)
termination_by structural x => x

theorem optionReferences_group : (e? : Option Expr) → optionReferences (groupOption e?) ⊆ optionReferences e?
  | none => List.Subset.refl _
  | some e => references_group e
termination_by structural x => x

theorem keyReferences_group : (key : Key) → keyReferences (groupKey key) ⊆ keyReferences key
  | .ident _ => List.Subset.refl _
  | .expr e => references_group e
termination_by structural x => x

theorem entriesReferences_group : (entries : List Entry) →
    entriesReferences (groupEntries entries) ⊆ entriesReferences entries
  | [] => List.Subset.refl _
  | .mk key e :: rest =>
    append_subset_append (append_subset_append (keyReferences_group key) (references_group e))
      (entriesReferences_group rest)
termination_by structural x => x

theorem pathReferences_group : (path : List Access) → pathReferences (groupPath path) ⊆ pathReferences path
  | [] => List.Subset.refl _
  | .attribute _ :: rest => pathReferences_group rest
  | .index e :: rest => append_subset_append (references_group e) (pathReferences_group rest)
  | .legacyIndex _ :: rest => pathReferences_group rest
  | .attributeSplat :: rest => pathReferences_group rest
  | .fullSplat :: rest => pathReferences_group rest
termination_by structural x => x

theorem elementReferences_group : (element : Element) →
    elementReferences (groupElement element) ⊆ elementReferences element
  | .literal _ => List.Subset.refl _
  | .interpolation e _ => references_group e
  | .ifDirective c t f? _ _ _ =>
    append_subset_append (append_subset_append (references_group c) (elementsReferences_group t))
      (branchReferences_group f?)
  | .forDirective _ _ collection body _ _ =>
    append_subset_append (references_group collection) (elementsReferences_group body)
termination_by structural x => x

theorem elementsReferences_group : (elements : List Element) →
    elementsReferences (groupElements elements) ⊆ elementsReferences elements
  | [] => List.Subset.refl _
  | element :: rest => append_subset_append (elementReferences_group element) (elementsReferences_group rest)
termination_by structural x => x

theorem branchReferences_group : (elements? : Option (List Element)) →
    branchReferences (groupBranch elements?) ⊆ branchReferences elements?
  | none => List.Subset.refl _
  | some elements => elementsReferences_group elements
termination_by structural x => x

end

theorem value_alike {e : Expr} (h : AllAlike s₁ s₂ e.references) : value s₁ e = value s₂ e := by
  rw [value, value, eval_alike e.group (h.mono (references_group e))]

/-! Carrying out lazy calls adds no references -/

/-- What the text of a template with lazy calls reads as refers to nothing but what its elements refer to. -/
def IsQuiet (scope : Scope) : Expr → Prop
  | .template _ _ (some elements) => hasLazyElements elements = true → ∀ resolved,
    resolveElements scope elements = .ok resolved →
      branchReferences (Source.readTemplate (Display.elementsText resolved)) ⊆ elementsReferences resolved
  | _ => True

/-- No text of a template in an expression reads as a reference. -/
def Quiet (scope : Scope) (e : Expr) : Prop := e.Everywhere (IsQuiet scope) fun _ => True

mutual

theorem references_ofValue : (v : Value) → (ofValue v).references = []
  | .null => rfl
  | .bool _ => rfl
  | .number _ => rfl
  | .string _ => rfl
  | .array items => allReferences_ofValues items
  | .object entries => entriesReferences_ofEntries entries
termination_by structural x => x

theorem allReferences_ofValues : (items : List Value) → allReferences (ofValues items) = []
  | [] => rfl
  | v :: rest => by rw [ofValues, allReferences, references_ofValue v, allReferences_ofValues rest, List.append_nil]
termination_by structural x => x

theorem entriesReferences_ofEntries : (entries : List (String × Value)) → entriesReferences (ofEntries entries) = []
  | [] => rfl
  | (key, v) :: rest => by
    rw [ofEntries, entriesReferences, entryReferences, references_ofValue v, entriesReferences_ofEntries rest]
    rfl
termination_by structural x => x

end

theorem entriesReferences_insertKey (key : Key) (e : Expr) (done : List Entry) :
    entriesReferences (insertKey key e done) ⊆ entriesReferences done ++ (keyReferences key ++ e.references) := by
  induction done with
  | nil => simp [insertKey, entriesReferences, entryReferences]
  | cons entry rest ih =>
    obtain ⟨k, v⟩ := entry
    rw [insertKey]
    split
    · simp only [entriesReferences, entryReferences]
      intro path
      simp only [List.mem_append]
      tauto
    · simp only [entriesReferences]
      rw [List.append_assoc]
      exact append_subset_append (List.Subset.refl _) ih

/-- A call resolves to its value if it is lazy, and otherwise to the call with its arguments resolved. -/
theorem resolve_call_cases {scope : Scope} {name : List String} {args : List Expr} {expand : Bool} {e' : Expr}
    (h : resolve scope (.call name args expand) = .ok e') :
    (∃ v, ofValue v = e') ∨ ∃ args', resolveAll scope args = .ok args' ∧ Expr.call name args' expand = e' := by
  cases hlazy : isLazyCall name with
  | false =>
    rw [resolve_call hlazy] at h
    exact .inr (return_eq_ok h)
  | true =>
    match name, hlazy with
    | [name], hlazy =>
      rw [resolve_lazyCall hlazy] at h
      obtain ⟨v, -, hv⟩ := return_eq_ok h
      exact .inl ⟨v, hv⟩

/-- A template stays as it is unless it has lazy calls, and otherwise is read from its resolved elements. -/
theorem resolve_template_cases {scope : Scope} {form : TemplateForm} {source : String} {elements : List Element}
    {e' : Expr} (h : resolve scope (.template form source (some elements)) = .ok e') :
    .template form source (some elements) = e' ∨ hasLazyElements elements = true ∧ ∃ resolved,
      resolveElements scope elements = .ok resolved ∧ quotedTemplate (Display.elementsText resolved) = e' := by
  rw [resolve, hasLazyBranch] at h
  split at h
  · rename_i hlazy
    obtain ⟨resolved?, hbranch, rfl⟩ := return_eq_ok h
    obtain ⟨resolved, hresolved, rfl⟩ := return_eq_ok hbranch
    exact .inr ⟨hlazy, resolved, hresolved, rfl⟩
  · exact .inl (Except.ok.inj h)

theorem isVariable_ofValue (v : Value) : (ofValue v).isVariable = false := by
  cases v <;> rfl

/-- Resolving leaves variables alone and turns nothing into one. -/
theorem resolve_isVariable {scope : Scope} : (e : Expr) → ∀ {e'}, resolve scope e = .ok e' →
    e.isVariable = false ∧ e'.isVariable = false ∨ e' = e
  | .template _ _ none, _, h => .inr (Except.ok.inj h).symm
  | .template _ _ (some _), _, h => by
    obtain rfl | ⟨-, _, -, rfl⟩ := resolve_template_cases h
    · exact .inr rfl
    · exact .inl ⟨rfl, rfl⟩
  | .call _ _ _, _, h => by
    obtain ⟨v, rfl⟩ | ⟨_, -, rfl⟩ := resolve_call_cases h
    · exact .inl ⟨rfl, isVariable_ofValue v⟩
    · exact .inl ⟨rfl, rfl⟩
  | .array _, _, h => by
    obtain ⟨_, -, rfl⟩ := return_eq_ok h
    exact .inl ⟨rfl, rfl⟩
  | .object _, _, h => by
    obtain ⟨_, -, rfl⟩ := return_eq_ok h
    exact .inl ⟨rfl, rfl⟩
  | .traversal _ _, _, h => by
    obtain ⟨_, -, h⟩ := bind_eq_ok h
    obtain ⟨_, -, rfl⟩ := return_eq_ok h
    exact .inl ⟨rfl, rfl⟩
  | .parens _, _, h => by
    obtain ⟨_, -, rfl⟩ := return_eq_ok h
    exact .inl ⟨rfl, rfl⟩
  | .conditional _ _ _, _, h => by
    obtain ⟨_, -, h⟩ := bind_eq_ok h
    obtain ⟨_, -, h⟩ := bind_eq_ok h
    obtain ⟨_, -, rfl⟩ := return_eq_ok h
    exact .inl ⟨rfl, rfl⟩
  | .unary _ _, _, h => by
    obtain ⟨_, -, rfl⟩ := return_eq_ok h
    exact .inl ⟨rfl, rfl⟩
  | .binary _ _ _, _, h => by
    obtain ⟨_, -, h⟩ := bind_eq_ok h
    obtain ⟨_, -, rfl⟩ := return_eq_ok h
    exact .inl ⟨rfl, rfl⟩
  | .listFor _ _, _, h => .inr (Except.ok.inj h).symm
  | .objectFor _ _ _ _, _, h => .inr (Except.ok.inj h).symm
  | .null, _, h => .inr (Except.ok.inj h).symm
  | .bool _, _, h => .inr (Except.ok.inj h).symm
  | .number _, _, h => .inr (Except.ok.inj h).symm
  | .string _, _, h => .inr (Except.ok.inj h).symm
  | .variable _, _, h => .inr (Except.ok.inj h).symm

theorem leadingAttributes_resolvePath {scope : Scope} : (path : List Access) → ∀ {path'},
    resolvePath scope path = .ok path' → leadingAttributes path' = leadingAttributes path
  | [], _, h => by
    cases h
    rfl
  | access :: rest, _, h => by
    obtain ⟨access', haccess, h⟩ := bind_eq_ok h
    obtain ⟨rest', hrest, rfl⟩ := return_eq_ok h
    cases access with
    | index e =>
      obtain ⟨e', -, rfl⟩ := return_eq_ok haccess
      rfl
    | legacyIndex _ | attributeSplat | fullSplat =>
      cases haccess
      rfl
    | _ =>
      cases haccess
      exact congrArg (List.cons _) (leadingAttributes_resolvePath rest hrest)

mutual

theorem references_resolve {scope : Scope} : (e : Expr) → e.Quiet scope → ∀ {e'}, resolve scope e = .ok e' →
    e'.references ⊆ e.references
  | .template form source none, _, _, h => by
    cases h
    exact List.Subset.refl _
  | .template form source (some elements), hquiet, _, h => by
    obtain rfl | ⟨hlazy, resolved, hresolved, rfl⟩ := resolve_template_cases h
    · exact List.Subset.refl _
    · have hsub := elementsReferences_resolve elements hquiet.2 hresolved
      exact List.Subset.trans (hquiet.1 hlazy resolved hresolved) hsub
  | .array items, hquiet, _, h => by
    obtain ⟨items', hitems, rfl⟩ := return_eq_ok h
    exact allReferences_resolve items hquiet.2 hitems
  | .object entries, hquiet, _, h => by
    obtain ⟨entries', hentries, rfl⟩ := return_eq_ok h
    exact entriesReferences_resolve entries hquiet.2 [] hentries
  | .traversal root path, hquiet, _, h => by
    obtain ⟨root', hroot, h⟩ := bind_eq_ok h
    obtain ⟨path', hpath, rfl⟩ := return_eq_ok h
    exact references_traversal (resolve_isVariable root hroot) (leadingAttributes_resolvePath path hpath)
      (references_resolve root hquiet.2.1 hroot) (pathReferences_resolve path hquiet.2.2 hpath)
  | .call name args expand, hquiet, _, h => by
    obtain ⟨v, rfl⟩ | ⟨args', hargs, rfl⟩ := resolve_call_cases h
    · rw [references_ofValue]
      exact List.nil_subset _
    · exact allReferences_resolve args hquiet.2 hargs
  | .parens inner, hquiet, _, h => by
    obtain ⟨inner', hinner, rfl⟩ := return_eq_ok h
    have hsub := references_resolve inner hquiet.2 hinner
    exact hsub
  | .conditional c t f, hquiet, _, h => by
    obtain ⟨c', hc, h⟩ := bind_eq_ok h
    obtain ⟨t', ht, h⟩ := bind_eq_ok h
    obtain ⟨f', hf, rfl⟩ := return_eq_ok h
    exact append_subset_append (append_subset_append (references_resolve c hquiet.2.1 hc)
      (references_resolve t hquiet.2.2.1 ht)) (references_resolve f hquiet.2.2.2 hf)
  | .unary op e, hquiet, _, h => by
    obtain ⟨e', he, rfl⟩ := return_eq_ok h
    have hsub := references_resolve e hquiet.2 he
    exact hsub
  | .binary l op r, hquiet, _, h => by
    obtain ⟨l', hl, h⟩ := bind_eq_ok h
    obtain ⟨r', hr, rfl⟩ := return_eq_ok h
    exact append_subset_append (references_resolve l hquiet.2.1 hl) (references_resolve r hquiet.2.2 hr)
  | .listFor _ _, _, _, h => by
    cases h
    exact List.Subset.refl _
  | .objectFor _ _ _ _, _, _, h => by
    cases h
    exact List.Subset.refl _
  | .null, _, _, h => by
    cases h
    exact List.Subset.refl _
  | .bool _, _, _, h => by
    cases h
    exact List.Subset.refl _
  | .number _, _, _, h => by
    cases h
    exact List.Subset.refl _
  | .string _, _, _, h => by
    cases h
    exact List.Subset.refl _
  | .variable _, _, _, h => by
    cases h
    exact List.Subset.refl _
termination_by structural x => x

theorem allReferences_resolve {scope : Scope} : (items : List Expr) →
    EverywhereAll (IsQuiet scope) (fun _ => True) items → ∀ {items'}, resolveAll scope items = .ok items' →
      allReferences items' ⊆ allReferences items
  | [], _, _, h => by
    cases h
    exact List.Subset.refl _
  | e :: rest, hquiet, _, h => by
    obtain ⟨e', he, h⟩ := bind_eq_ok h
    obtain ⟨rest', hrest, rfl⟩ := return_eq_ok h
    exact append_subset_append (references_resolve e hquiet.1 he) (allReferences_resolve rest hquiet.2 hrest)
termination_by structural x => x

theorem keyReferences_resolve {scope : Scope} : (key : Key) → EverywhereKey (IsQuiet scope) (fun _ => True) key →
    ∀ {key'}, resolveKey scope key = .ok key' → keyReferences key' ⊆ keyReferences key
  | .ident _, _, _, h => by
    cases h
    exact List.Subset.refl _
  | .expr e, hquiet, _, h => by
    obtain ⟨e', he, rfl⟩ := return_eq_ok h
    exact references_resolve e hquiet he
termination_by structural x => x

theorem entriesReferences_resolve {scope : Scope} : (entries : List Entry) →
    EverywhereEntries (IsQuiet scope) (fun _ => True) entries → ∀ done {entries'},
      resolveEntries scope done entries = .ok entries' →
        entriesReferences entries' ⊆ entriesReferences done ++ entriesReferences entries
  | [], _, done, _, h => by
    cases h
    exact List.subset_append_left _ _
  | .mk key e :: rest, hquiet, done, _, h => by
    obtain ⟨entry', hentry, h⟩ := bind_eq_ok h
    obtain ⟨key', hkey, hentry⟩ := bind_eq_ok hentry
    obtain ⟨e', he, rfl⟩ := return_eq_ok hentry
    have hinsert := entriesReferences_insertKey key' e' done
    have hsub := append_subset_append (keyReferences_resolve key hquiet.1.1 hkey)
      (references_resolve e hquiet.1.2 he)
    have hrest := entriesReferences_resolve rest hquiet.2 _ h
    rw [entriesReferences, entryReferences, ← List.append_assoc]
    have hdone := List.Subset.trans hinsert (append_subset_append (List.Subset.refl _) hsub)
    exact List.Subset.trans hrest (append_subset_append hdone (List.Subset.refl _))
termination_by structural x => x

theorem pathReferences_resolve {scope : Scope} : (path : List Access) →
    EverywherePath (IsQuiet scope) (fun _ => True) path → ∀ {path'}, resolvePath scope path = .ok path' →
      pathReferences path' ⊆ pathReferences path
  | [], _, _, h => by
    cases h
    exact List.Subset.refl _
  | access :: rest, hquiet, _, h => by
    obtain ⟨access', haccess, h⟩ := bind_eq_ok h
    obtain ⟨rest', hrest, rfl⟩ := return_eq_ok h
    exact append_subset_append (accessReferences_resolve access hquiet.1 haccess)
      (pathReferences_resolve rest hquiet.2 hrest)
termination_by structural x => x

theorem accessReferences_resolve {scope : Scope} : (access : Access) →
    EverywhereAccess (IsQuiet scope) (fun _ => True) access → ∀ {access'}, resolveAccess scope access = .ok access' →
      accessReferences access' ⊆ accessReferences access
  | .index e, hquiet, _, h => by
    obtain ⟨e', he, rfl⟩ := return_eq_ok h
    exact references_resolve e hquiet he
  | .attribute _, _, _, h => by
    cases h
    exact List.Subset.refl _
  | .legacyIndex _, _, _, h => by
    cases h
    exact List.Subset.refl _
  | .attributeSplat, _, _, h => by
    cases h
    exact List.Subset.refl _
  | .fullSplat, _, _, h => by
    cases h
    exact List.Subset.refl _
termination_by structural x => x

theorem elementReferences_resolve {scope : Scope} : (element : Element) →
    EverywhereElement (IsQuiet scope) (fun _ => True) element → ∀ {element'},
      resolveElement scope element = .ok element' → elementReferences element' ⊆ elementReferences element
  | .literal _, _, _, h => by
    cases h
    exact List.Subset.refl _
  | .interpolation e _, hquiet, _, h => by
    obtain ⟨e', he, rfl⟩ := return_eq_ok h
    exact references_resolve e hquiet.2 he
  | .ifDirective c t f? _ _ _, hquiet, _, h => by
    obtain ⟨c', hc, h⟩ := bind_eq_ok h
    obtain ⟨t', ht, h⟩ := bind_eq_ok h
    obtain ⟨f', hf, rfl⟩ := return_eq_ok h
    exact append_subset_append (append_subset_append (references_resolve c hquiet.2.1 hc)
      (elementsReferences_resolve t hquiet.2.2.1 ht)) (branchReferences_resolve f? hquiet.2.2.2 hf)
  | .forDirective _ _ _ _ _ _, _, _, h => by
    cases h
    exact List.Subset.refl _
termination_by structural x => x

theorem elementsReferences_resolve {scope : Scope} : (elements : List Element) →
    EverywhereElements (IsQuiet scope) (fun _ => True) elements → ∀ {elements'},
      resolveElements scope elements = .ok elements' → elementsReferences elements' ⊆ elementsReferences elements
  | [], _, _, h => by
    cases h
    exact List.Subset.refl _
  | element :: rest, hquiet, _, h => by
    obtain ⟨element', helement, h⟩ := bind_eq_ok h
    obtain ⟨rest', hrest, rfl⟩ := return_eq_ok h
    exact append_subset_append (elementReferences_resolve element hquiet.1 helement)
      (elementsReferences_resolve rest hquiet.2 hrest)
termination_by structural x => x

theorem branchReferences_resolve {scope : Scope} : (elements? : Option (List Element)) →
    EverywhereBranch (IsQuiet scope) (fun _ => True) elements? → ∀ {elements'},
      resolveBranch scope elements? = .ok elements' → branchReferences elements' ⊆ branchReferences elements?
  | none, _, _, h => by
    cases h
    exact List.Subset.refl _
  | some elements, hquiet, _, h => by
    obtain ⟨elements', helements, rfl⟩ := return_eq_ok h
    exact elementsReferences_resolve elements hquiet helements
termination_by structural x => x

end

mutual

theorem resolve_alike : (e : Expr) → e.Quiet s₁ → AllAlike s₁ s₂ e.references → resolve s₁ e = resolve s₂ e
  | .template form source none, _, _ => rfl
  | .template form source (some elements), hquiet, h => by
    rw [resolve, resolve, resolveBranch, resolveBranch, resolveElements_alike elements hquiet.2 h]
  | .array items, hquiet, h => by
    rw [resolve, resolve, resolveAll_alike items hquiet.2 h]
  | .object entries, hquiet, h => by
    rw [resolve, resolve, resolveEntries_alike entries hquiet.2 h]
  | .traversal root path, hquiet, h => by
    simp only [references, allAlike_cons, allAlike_append, List.cons_append] at h
    have hroot : resolve s₁ root = resolve s₂ root := by
      cases hvariable : root.isVariable with
      | false =>
        rw [hvariable] at h
        exact resolve_alike root hquiet.2.1 h.2.1
      | true => cases root <;> first | rfl | cases hvariable
    rw [resolve, resolve, hroot, resolvePath_alike path hquiet.2.2 h.2.2]
  | .call name args expand, hquiet, h => by
    cases hlazy : isLazyCall name with
    | false => rw [resolve_call hlazy, resolve_call hlazy, resolveAll_alike args hquiet.2 h]
    | true =>
      match name, hlazy with
      | [name], hlazy => rw [resolve_lazyCall hlazy, resolve_lazyCall hlazy, argumentValues_alike args hquiet.2 h]
  | .parens inner, hquiet, h => by
    rw [resolve, resolve, resolve_alike inner hquiet.2 h]
  | .conditional c t f, hquiet, h => by
    simp only [references, allAlike_append] at h
    rw [resolve, resolve, resolve_alike c hquiet.2.1 h.1.1, resolve_alike t hquiet.2.2.1 h.1.2,
      resolve_alike f hquiet.2.2.2 h.2]
  | .unary op e, hquiet, h => by
    rw [resolve, resolve, resolve_alike e hquiet.2 h]
  | .binary l op r, hquiet, h => by
    simp only [references, allAlike_append] at h
    rw [resolve, resolve, resolve_alike l hquiet.2.1 h.1, resolve_alike r hquiet.2.2 h.2]
  | .listFor _ _, _, _ => rfl
  | .objectFor _ _ _ _, _, _ => rfl
  | .null, _, _ => rfl
  | .bool _, _, _ => rfl
  | .number _, _, _ => rfl
  | .string _, _, _ => rfl
  | .variable _, _, _ => rfl
termination_by structural x => x

/-- The arguments of a lazy call are evaluated with their own lazy calls carried out, whose results refer to nothing. -/
theorem argumentValues_alike : (args : List Expr) → EverywhereAll (IsQuiet s₁) (fun _ => True) args →
    AllAlike s₁ s₂ (allReferences args) → argumentValues s₁ args = argumentValues s₂ args
  | [], _, _ => rfl
  | e :: rest, hquiet, h => by
    simp only [allReferences, allAlike_append] at h
    have hvalue : (resolve s₁ e >>= value s₁) = resolve s₂ e >>= value s₂ := by
      rw [← resolve_alike e hquiet.1 h.1]
      cases hresolve : resolve s₁ e with
      | error _ => rfl
      | ok e' => exact value_alike (h.1.mono (references_resolve e hquiet.1 hresolve))
    rw [argumentValues, argumentValues, hvalue, argumentValues_alike rest hquiet.2 h.2]
termination_by structural x => x

theorem resolveAll_alike : (items : List Expr) → EverywhereAll (IsQuiet s₁) (fun _ => True) items →
    AllAlike s₁ s₂ (allReferences items) → resolveAll s₁ items = resolveAll s₂ items
  | [], _, _ => rfl
  | e :: rest, hquiet, h => by
    simp only [allReferences, allAlike_append] at h
    rw [resolveAll, resolveAll, resolve_alike e hquiet.1 h.1, resolveAll_alike rest hquiet.2 h.2]
termination_by structural x => x

theorem resolveKey_alike : (key : Key) → EverywhereKey (IsQuiet s₁) (fun _ => True) key →
    AllAlike s₁ s₂ (keyReferences key) → resolveKey s₁ key = resolveKey s₂ key
  | .ident _, _, _ => rfl
  | .expr e, hquiet, h => by
    rw [resolveKey, resolveKey, resolve_alike e hquiet h]
termination_by structural x => x

theorem resolveEntry_alike : (entry : Entry) → EverywhereEntry (IsQuiet s₁) (fun _ => True) entry →
    AllAlike s₁ s₂ (entryReferences entry) → resolveEntry s₁ entry = resolveEntry s₂ entry
  | .mk key e, hquiet, h => by
    simp only [entryReferences, allAlike_append] at h
    rw [resolveEntry, resolveEntry, resolveKey_alike key hquiet.1 h.1, resolve_alike e hquiet.2 h.2]
termination_by structural x => x

theorem resolveEntries_alike : (entries : List Entry) → EverywhereEntries (IsQuiet s₁) (fun _ => True) entries →
    AllAlike s₁ s₂ (entriesReferences entries) → ∀ done, resolveEntries s₁ done entries = resolveEntries s₂ done entries
  | [], _, _, _ => rfl
  | entry :: rest, hquiet, h, _ => by
    simp only [entriesReferences, allAlike_append] at h
    simp only [resolveEntries, resolveEntry_alike entry hquiet.1 h.1, resolveEntries_alike rest hquiet.2 h.2]
termination_by structural x => x

theorem resolveAccess_alike : (access : Access) → EverywhereAccess (IsQuiet s₁) (fun _ => True) access →
    AllAlike s₁ s₂ (accessReferences access) → resolveAccess s₁ access = resolveAccess s₂ access
  | .index e, hquiet, h => by
    rw [resolveAccess, resolveAccess, resolve_alike e hquiet h]
  | .attribute _, _, _ => rfl
  | .legacyIndex _, _, _ => rfl
  | .attributeSplat, _, _ => rfl
  | .fullSplat, _, _ => rfl
termination_by structural x => x

theorem resolvePath_alike : (path : List Access) → EverywherePath (IsQuiet s₁) (fun _ => True) path →
    AllAlike s₁ s₂ (pathReferences path) → resolvePath s₁ path = resolvePath s₂ path
  | [], _, _ => rfl
  | access :: rest, hquiet, h => by
    simp only [pathReferences, allAlike_append] at h
    rw [resolvePath, resolvePath, resolveAccess_alike access hquiet.1 h.1, resolvePath_alike rest hquiet.2 h.2]
termination_by structural x => x

theorem resolveElement_alike : (element : Element) → EverywhereElement (IsQuiet s₁) (fun _ => True) element →
    AllAlike s₁ s₂ (elementReferences element) → resolveElement s₁ element = resolveElement s₂ element
  | .literal _, _, _ => rfl
  | .interpolation e _, hquiet, h => by
    rw [resolveElement, resolveElement, resolve_alike e hquiet.2 h]
  | .ifDirective c t f? _ _ _, hquiet, h => by
    simp only [elementReferences, allAlike_append] at h
    rw [resolveElement, resolveElement, resolve_alike c hquiet.2.1 h.1.1, resolveElements_alike t hquiet.2.2.1 h.1.2,
      resolveBranch_alike f? hquiet.2.2.2 h.2]
  | .forDirective _ _ _ _ _ _, _, _ => rfl
termination_by structural x => x

theorem resolveElements_alike : (elements : List Element) →
    EverywhereElements (IsQuiet s₁) (fun _ => True) elements → AllAlike s₁ s₂ (elementsReferences elements) →
      resolveElements s₁ elements = resolveElements s₂ elements
  | [], _, _ => rfl
  | element :: rest, hquiet, h => by
    simp only [elementsReferences, allAlike_append] at h
    rw [resolveElements, resolveElements, resolveElement_alike element hquiet.1 h.1,
      resolveElements_alike rest hquiet.2 h.2]
termination_by structural x => x

theorem resolveBranch_alike : (elements? : Option (List Element)) →
    EverywhereBranch (IsQuiet s₁) (fun _ => True) elements? → AllAlike s₁ s₂ (branchReferences elements?) →
      resolveBranch s₁ elements? = resolveBranch s₂ elements?
  | none, _, _ => rfl
  | some elements, hquiet, h => by
    rw [resolveBranch, resolveBranch, resolveElements_alike elements hquiet h]
termination_by structural x => x

end

/-- An expression has the same value, or the same failure, in scopes in which its references lead to the same. -/
theorem evaluate_alike {e : Expr} (hquiet : e.Quiet s₁) (h : AllAlike s₁ s₂ e.references) :
    e.evaluate s₁ = e.evaluate s₂ := by
  rw [evaluate, evaluate, ← resolve_alike e hquiet h]
  cases hresolve : resolve s₁ e with
  | error _ => rfl
  | ok e' => exact value_alike (h.mono (references_resolve e hquiet hresolve))

end Expr

end Terrasmith
