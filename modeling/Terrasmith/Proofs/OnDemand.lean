import Terrasmith.Expr.Lazy
import Terrasmith.Proofs.Keys

/-!
Values on demand. Here `try` and `can` are forms of their own: the arguments of a call are looked at when the call is,
and a call that is not reached does not count. All else has the value that evaluation gives it. Why there is no value
is left open, so that nothing is blamed.
-/
namespace Terrasmith

namespace Expr

/-- A result without the word on whom to blame. -/
def unblamed {α : Type} (f : Expr → Except Fault α) : Option α := (f .null).toOption

mutual

/-- The value of a grouped expression without loops. -/
def demand (scope : Scope) : Expr → Option Value
  | .null => some .null
  | .bool b => some (.bool b)
  | .number n => some (.number n)
  | .string s => some (.string s)
  | .template _ _ none => none
  | .template _ _ (some [.interpolation e _]) => demand scope e
  | .template _ _ (some elements) => do return .string (← demandElements scope {} false elements)
  | .array items => do return .array (← demandAll scope items)
  | .object entries => do return .object (← demandEntries scope [] entries)
  | .variable name => scope.lookup name
  | .traversal root path => do demandPath scope (.one (← demand scope root)) path
  | .call name args expand =>
    if name = ["try"] then demandFirst scope args
    else if name = ["can"] then demandOnly scope args
    else do
      let b ← function? name
      let values ← demandAll scope args
      let values ← unblamed (expandLast · expand values)
      unblamed (callFunction · name b values)
  | .parens inner => demand scope inner
  | .conditional c t f => do
    let v ← demand scope c
    if ← unblamed (asBool · v) then demand scope t else demand scope f
  | .unary op e => do
    let v ← demand scope e
    unblamed (applyUnary · op v)
  | .binary l op r => do
    let a ← demand scope l
    let b ← demand scope r
    unblamed (applyBinary · op a b)
  | .listFor _ _ => none
  | .objectFor _ _ _ _ => none

def demandAll (scope : Scope) : List Expr → Option (List Value)
  | [] => some []
  | e :: rest => do
    let v ← demand scope e
    return v :: (← demandAll scope rest)

/-- The value of `try`: that of the first argument that has one. -/
def demandFirst (scope : Scope) : List Expr → Option Value
  | [] => none
  | e :: rest => (demand scope e).or (demandFirst scope rest)

/-- The value of `can`: whether its only argument has one. -/
def demandOnly (scope : Scope) : List Expr → Option Value
  | [] => none
  | [e] => some (.bool (demand scope e).isSome)
  | _ :: _ => none

def demandKey (scope : Scope) : Key → Option String
  | .ident name => some name
  | .expr e => do
    let v ← demand scope e
    unblamed (asKey · v)

def demandEntry (scope : Scope) : Entry → Option (String × Value)
  | .mk key e => do
    let key ← demandKey scope key
    return (key, ← demand scope e)

/-- Entries written over those in `done`. -/
def demandEntries (scope : Scope) (done : List (String × Value)) : List Entry → Option (List (String × Value))
  | [] => some done
  | entry :: rest => do
    let (key, v) ← demandEntry scope entry
    demandEntries scope (insertEntry key v done) rest

/-- Follows a path. -/
def demandPath (scope : Scope) (focus : Focus) : List Access → Option Value
  | [] => unblamed focus.value
  | .attribute name :: rest => do
    let focus ← unblamed (Focus.attribute · name focus)
    demandPath scope focus rest
  | .index e :: rest => do
    let v ← unblamed focus.value
    let index ← demand scope e
    let item ← unblamed (elementOf · v index)
    demandPath scope (.one item) rest
  | .legacyIndex n :: rest => do
    let v ← unblamed focus.value
    let item ← unblamed (itemOf · v n)
    demandPath scope (.one item) rest
  | .attributeSplat :: rest => do
    let v ← unblamed focus.value
    demandPath scope (.each (splatItems v) []) rest
  | .fullSplat :: rest => do
    let v ← unblamed focus.value
    return .array (← (splatItems v).mapM fun v => demandPath scope (.one v) rest)

/-- The text of the elements of a template. -/
def demandElements (scope : Scope) (last : Strip) (stop : Bool) : List Element → Option String
  | [] => some ""
  | e :: rest => do
    let text ← demandElement scope (last.after, stripsBefore stop rest) e
    return text ++ (← demandElements scope e.outer stop rest)

def demandElement (scope : Scope) (strips : Bool × Bool) : Element → Option String
  | .literal text => some (stripLiteral strips.1 strips.2 text)
  | .interpolation e _ => do return inserted (← demand scope e)
  | .ifDirective c t f? ifStrip elseStrip endStrip => do
    let v ← demand scope c
    if ← unblamed (asBool · v) then
      demandElements scope ⟨false, ifStrip.after⟩ (if f?.isSome then elseStrip.before else endStrip.before) t
    else demandBranch scope ⟨false, elseStrip.after⟩ endStrip.before f?
  | .forDirective _ _ _ _ _ _ => none

def demandBranch (scope : Scope) (last : Strip) (stop : Bool) : Option (List Element) → Option String
  | none => some ""
  | some elements => demandElements scope last stop elements

end

/-- The value on demand of an expression as it is read. -/
def onDemand (scope : Scope) (e : Expr) : Option Value := demand scope e.group

theorem demandFirst_eq (scope : Scope) (args : List Expr) : demandFirst scope args = args.findSome? (demand scope) := by
  induction args with
  | nil => rfl
  | cons e rest ih =>
    rw [demandFirst, ih, List.findSome?_cons]
    cases demand scope e <;> rfl

/-! Who is to blame makes no difference to a result -/

theorem toOption_asBool (within : Expr) (v : Value) : (asBool within v).toOption = unblamed (asBool · v) := by
  cases v <;> rfl

theorem toOption_asKey (within : Expr) (v : Value) : (asKey within v).toOption = unblamed (asKey · v) := by
  unfold unblamed asKey
  cases v.primitiveText? <;> rfl

theorem toOption_entryOf (within : Expr) (v : Value) (key : String) :
    (entryOf within v key).toOption = unblamed (entryOf · v key) := by
  cases v with
  | object entries =>
    simp only [unblamed, entryOf]
    cases entries.lookup key <;> rfl
  | _ => rfl

theorem toOption_itemOf (within : Expr) (v : Value) (n : Nat) :
    (itemOf within v n).toOption = unblamed (itemOf · v n) := by
  cases v with
  | array items =>
    simp only [unblamed, itemOf]
    cases items[n]? <;> rfl
  | _ => rfl

theorem toOption_elementOf (within : Expr) (v index : Value) :
    (elementOf within v index).toOption = unblamed (elementOf · v index) := by
  cases index with
  | string key => exact toOption_entryOf within v key
  | number n =>
    simp only [unblamed, elementOf]
    cases n.toNat? with
    | none => rfl
    | some i => exact toOption_itemOf within v i
  | _ => rfl

theorem toOption_applyUnary (within : Expr) (op : UnaryOp) (v : Value) :
    (applyUnary within op v).toOption = unblamed (applyUnary · op v) := by
  cases op <;> cases v <;> rfl

theorem toOption_applyBinary (within : Expr) (op : BinaryOp) (a b : Value) :
    (applyBinary within op a b).toOption = unblamed (applyBinary · op a b) := by
  cases op <;> cases a <;> cases b <;> rfl

theorem toOption_expandLast (within : Expr) (expand : Bool) (args : List Value) :
    (expandLast within expand args).toOption = unblamed (expandLast · expand args) := by
  unfold unblamed expandLast
  cases expand with
  | false => rfl
  | true =>
    cases args.getLast? with
    | none => rfl
    | some v => cases v <;> rfl

theorem toOption_callFunction (within : Expr) (name : List String) (b : Function.Builtin) (args : List Value) :
    (callFunction within name b args).toOption = unblamed (callFunction · name b args) := by
  unfold unblamed callFunction
  cases b.call args <;> rfl

theorem toOption_entryAt (within : Expr) (v : Value) (names : List String) :
    (entryAt within v names).toOption = unblamed (entryAt · v names) := by
  rw [unblamed]
  simp only [entryAt, toOption_foldlM, toOption_entryOf]

theorem toOption_focus (within : Expr) (focus : Focus) : (focus.value within).toOption = unblamed focus.value := by
  cases focus with
  | one v => rfl
  | each items names =>
    rw [unblamed]
    simp only [Focus.value, toOption_bind, toOption_mapM, toOption_entryAt]

theorem toOption_attribute (within : Expr) (name : String) (focus : Focus) :
    (focus.attribute within name).toOption = unblamed (Focus.attribute · name focus) := by
  cases focus with
  | one v =>
    rw [unblamed]
    simp only [Focus.attribute, toOption_bind, toOption_entryOf]
  | each items names => rfl

/-! Values on demand have distinct keys -/

theorem unblamed_eq_some {α : Type} {f : Expr → Except Fault α} {a : α} (h : unblamed f = some a) : f .null = .ok a := by
  unfold unblamed at h
  cases hf : f .null with
  | error fault => simp [hf, Except.toOption] at h
  | ok b => simpa [hf, Except.toOption] using h

section Keyed

open Value

variable {within : Expr} {u v : Value}

theorem keyed_entryOf {key : String} (hv : v.Keyed) (h : entryOf within v key = .ok u) : u.Keyed := by
  cases v with
  | object entries =>
    simp only [entryOf] at h
    cases hlookup : entries.lookup key with
    | none => simp [hlookup, fail] at h
    | some found =>
      simp only [hlookup, Except.ok.injEq] at h
      exact h ▸ keyed_of_lookup hv hlookup
  | _ => cases h

theorem keyed_itemOf {n : Nat} (hv : v.Keyed) (h : itemOf within v n = .ok u) : u.Keyed := by
  cases v with
  | array items =>
    simp only [itemOf] at h
    cases hitem : items[n]? with
    | none => simp [hitem, fail] at h
    | some found =>
      simp only [hitem, Except.ok.injEq] at h
      exact h ▸ keyed_array.mp hv found (List.mem_of_getElem? hitem)
  | _ => cases h

theorem keyed_elementOf {index : Value} (hv : v.Keyed) (h : elementOf within v index = .ok u) : u.Keyed := by
  cases index with
  | string key => exact keyed_entryOf hv h
  | number n =>
    simp only [elementOf] at h
    cases hn : n.toNat? with
    | none => simp [hn, unexpected, fail] at h
    | some i =>
      simp only [hn] at h
      exact keyed_itemOf hv h
  | _ => cases h

theorem keyed_applyUnary {op : UnaryOp} (h : applyUnary within op v = .ok u) : u.Keyed := by
  cases op <;> cases v <;> cases h <;> simp

theorem keyed_applyBinary {op : BinaryOp} {a b : Value} (h : applyBinary within op a b = .ok u) : u.Keyed := by
  unfold applyBinary at h
  split at h <;> cases h <;> simp

theorem keyed_splatItems (hv : v.Keyed) : ∀ item ∈ splatItems v, item.Keyed := by
  cases v with
  | array items => exact keyed_array.mp hv
  | object entries => simpa [splatItems] using hv
  | _ => simp [splatItems]

theorem keyed_expandLast {expand : Bool} {args values : List Value} (hargs : ∀ a ∈ args, a.Keyed)
    (h : expandLast within expand args = .ok values) : ∀ a ∈ values, a.Keyed := by
  unfold expandLast at h
  split at h
  · rename_i items hlast
    cases h
    intro a ha
    rcases List.mem_append.mp ha with ha | ha
    · exact hargs a (List.dropLast_subset _ ha)
    · exact keyed_array.mp (hargs _ (List.mem_of_getLast? hlast)) a ha
  · cases h
  · cases h
    exact hargs

theorem keyed_callFunction {name : List String} {b : Function.Builtin} {args : List Value} (hb : function? name = some b)
    (hargs : ∀ a ∈ args, a.Keyed) (h : callFunction within name b args = .ok u) : u.Keyed := by
  unfold callFunction at h
  split at h
  · cases h
    match name, hb with
    | [name], hb => exact Function.keyed_call hb hargs ‹_›
  · cases h

/-- All values at a place have distinct keys. -/
def Focus.Keyed : Focus → Prop
  | .one v => v.Keyed
  | .each items _ => ∀ v ∈ items, v.Keyed

theorem keyed_entryAt {names : List String} (hv : v.Keyed) (h : entryAt within v names = .ok u) : u.Keyed := by
  induction names generalizing v with
  | nil =>
    cases h
    exact hv
  | cons name rest ih =>
    unfold entryAt at h
    rw [List.foldlM_cons] at h
    obtain ⟨next, hnext, hrest⟩ := bind_eq_ok h
    exact ih (keyed_entryOf hv hnext) hrest

theorem keyed_mapM {α : Type} {f : α → Option Value} {items : List α} {values : List Value}
    (hf : ∀ a ∈ items, ∀ v, f a = some v → v.Keyed) (h : items.mapM f = some values) : ∀ v ∈ values, v.Keyed := by
  intro v hv
  obtain ⟨a, ha, hfa⟩ := exists_of_mem_mapM h hv
  exact hf a ha v hfa

theorem Focus.keyed_value {focus : Focus} (hfocus : focus.Keyed) (h : unblamed focus.value = some v) : v.Keyed := by
  cases focus with
  | one u =>
    cases h
    exact hfocus
  | each items names =>
    have h := unblamed_eq_some h
    simp only [Focus.value] at h
    obtain ⟨values, hvalues, hv⟩ := bind_eq_ok h
    cases hv
    rw [keyed_array]
    have hmap : items.mapM (fun item => (entryAt .null item names).toOption) = some values := by
      rw [← toOption_mapM, hvalues]
      rfl
    refine keyed_mapM (fun item hitem v hv => ?_) hmap
    exact keyed_entryAt (hfocus item hitem) (unblamed_eq_some (f := (entryAt · item names)) hv)

theorem Focus.keyed_attribute {focus next : Focus} {name : String} (hfocus : focus.Keyed)
    (h : unblamed (Focus.attribute · name focus) = some next) : next.Keyed := by
  have h := unblamed_eq_some h
  cases focus with
  | one u =>
    simp only [Focus.attribute] at h
    obtain ⟨v, hv, hnext⟩ := bind_eq_ok h
    cases hnext
    exact keyed_entryOf hfocus hv
  | each items names =>
    cases h
    exact hfocus

theorem keyed_of_scope {scope : Scope} (hscope : ∀ p ∈ scope, p.2.Keyed) {name : String}
    (h : scope.lookup name = some v) : v.Keyed := by
  induction scope with
  | nil => cases h
  | cons p rest ih =>
    rw [List.forall_mem_cons] at hscope
    rw [List.lookup_cons] at h
    split at h
    · cases h
      exact hscope.1
    · exact ih hscope.2 h

theorem keyed_of_text {text? : Option String} (h : (do return Value.string (← text?)) = some v) : v.Keyed := by
  simp only [Option.bind_eq_bind, Option.bind_eq_some_iff, Option.pure_def, Option.some.injEq] at h
  obtain ⟨text, -, rfl⟩ := h
  exact keyed_string text

mutual

theorem keyed_demand {scope : Scope} (hscope : ∀ p ∈ scope, p.2.Keyed) :
    (e : Expr) → ∀ v, demand scope e = some v → v.Keyed
  | .null => by simp [demand]
  | .bool b => by simp [demand]
  | .number n => by simp [demand]
  | .string s => by simp [demand]
  | .template _ _ none => by simp [demand]
  | .template _ _ (some [.interpolation e _]) => fun v h => keyed_demand hscope e v (by simpa only [demand] using h)
  | .template _ _ (some []) => fun v h => keyed_of_text (by simpa only [demand] using h)
  | .template _ _ (some (.literal _ :: _)) => fun v h => keyed_of_text (by simpa only [demand] using h)
  | .template _ _ (some (.ifDirective _ _ _ _ _ _ :: _)) => fun v h => keyed_of_text (by simpa only [demand] using h)
  | .template _ _ (some (.forDirective _ _ _ _ _ _ :: _)) => fun v h => keyed_of_text (by simpa only [demand] using h)
  | .template _ _ (some (.interpolation _ _ :: _ :: _)) => fun v h => keyed_of_text (by simpa only [demand] using h)
  | .array items => by
    intro v h
    simp only [demand, Option.bind_eq_bind, Option.bind_eq_some_iff, Option.pure_def, Option.some.injEq] at h
    obtain ⟨values, hvalues, rfl⟩ := h
    exact keyed_array.mpr (keyed_demandAll hscope items values hvalues)
  | .object entries => by
    intro v h
    simp only [demand, Option.bind_eq_bind, Option.bind_eq_some_iff, Option.pure_def, Option.some.injEq] at h
    obtain ⟨done, hdone, rfl⟩ := h
    exact keyed_demandEntries hscope entries [] (by simp) done hdone
  | .variable name => fun v h => keyed_of_scope hscope (by simpa [demand] using h)
  | .traversal root path => by
    intro v h
    simp only [demand, Option.bind_eq_bind, Option.bind_eq_some_iff] at h
    obtain ⟨u, hu, hpath⟩ := h
    exact keyed_demandPath hscope path (.one u) (keyed_demand hscope root u hu) v hpath
  | .call name args expand => by
    intro v h
    rw [demand] at h
    split at h
    · exact keyed_demandFirst hscope args v h
    · split at h
      · unfold demandOnly at h
        split at h <;> cases h
        simp
      · simp only [Option.bind_eq_bind, Option.bind_eq_some_iff] at h
        obtain ⟨b, hb, values, hvalues, more, hmore, hcall⟩ := h
        exact keyed_callFunction hb (keyed_expandLast (keyed_demandAll hscope args values hvalues)
          (unblamed_eq_some hmore)) (unblamed_eq_some hcall)
  | .parens inner => fun v h => keyed_demand hscope inner v (by simpa [demand] using h)
  | .conditional c t f => by
    intro v h
    simp only [demand, Option.bind_eq_bind, Option.bind_eq_some_iff] at h
    obtain ⟨u, -, b, -, h⟩ := h
    split at h
    · exact keyed_demand hscope t v h
    · exact keyed_demand hscope f v h
  | .unary op e => by
    intro v h
    simp only [demand, Option.bind_eq_bind, Option.bind_eq_some_iff] at h
    obtain ⟨u, -, h⟩ := h
    exact keyed_applyUnary (unblamed_eq_some h)
  | .binary l op r => by
    intro v h
    simp only [demand, Option.bind_eq_bind, Option.bind_eq_some_iff] at h
    obtain ⟨a, -, b, -, h⟩ := h
    exact keyed_applyBinary (unblamed_eq_some h)
  | .listFor _ _ => by simp [demand]
  | .objectFor _ _ _ _ => by simp [demand]

theorem keyed_demandAll {scope : Scope} (hscope : ∀ p ∈ scope, p.2.Keyed) :
    (es : List Expr) → ∀ values, demandAll scope es = some values → ∀ v ∈ values, v.Keyed
  | [] => by simp [demandAll]
  | e :: rest => by
    intro values h
    simp only [demandAll, Option.bind_eq_bind, Option.bind_eq_some_iff, Option.pure_def, Option.some.injEq] at h
    obtain ⟨v, hv, others, hothers, rfl⟩ := h
    rw [List.forall_mem_cons]
    exact ⟨keyed_demand hscope e v hv, keyed_demandAll hscope rest others hothers⟩

theorem keyed_demandFirst {scope : Scope} (hscope : ∀ p ∈ scope, p.2.Keyed) :
    (es : List Expr) → ∀ v, demandFirst scope es = some v → v.Keyed
  | [] => by simp [demandFirst]
  | e :: rest => by
    intro v h
    rw [demandFirst, Option.or_eq_some_iff] at h
    rcases h with h | ⟨-, h⟩
    · exact keyed_demand hscope e v h
    · exact keyed_demandFirst hscope rest v h

theorem keyed_demandEntries {scope : Scope} (hscope : ∀ p ∈ scope, p.2.Keyed) :
    (entries : List Entry) → ∀ done, (Value.object done).Keyed → ∀ all, demandEntries scope done entries = some all →
      (Value.object all).Keyed
  | [] => by simp [demandEntries]
  | .mk key e :: rest => by
    intro done hdone all h
    simp only [demandEntries, demandEntry, Option.bind_eq_bind, Option.bind_eq_some_iff, Option.pure_def,
      Option.some.injEq] at h
    obtain ⟨⟨k, v⟩, ⟨k', -, v', hv, hpair⟩, h⟩ := h
    cases hpair
    exact keyed_demandEntries hscope rest _ (keyed_insertEntry hdone k (keyed_demand hscope e v hv)) all h

theorem keyed_demandPath {scope : Scope} (hscope : ∀ p ∈ scope, p.2.Keyed) :
    (path : List Access) → ∀ focus : Focus, focus.Keyed → ∀ v, demandPath scope focus path = some v → v.Keyed
  | [] => fun focus hfocus v h => Focus.keyed_value hfocus (by simpa [demandPath] using h)
  | .attribute name :: rest => by
    intro focus hfocus v h
    simp only [demandPath, Option.bind_eq_bind, Option.bind_eq_some_iff] at h
    obtain ⟨next, hnext, h⟩ := h
    exact keyed_demandPath hscope rest next (Focus.keyed_attribute hfocus hnext) v h
  | .index e :: rest => by
    intro focus hfocus v h
    simp only [demandPath, Option.bind_eq_bind, Option.bind_eq_some_iff] at h
    obtain ⟨u, hu, index, -, item, hitem, h⟩ := h
    have hkeyed := keyed_elementOf (Focus.keyed_value hfocus hu) (unblamed_eq_some hitem)
    exact keyed_demandPath hscope rest (.one item) hkeyed v h
  | .legacyIndex n :: rest => by
    intro focus hfocus v h
    simp only [demandPath, Option.bind_eq_bind, Option.bind_eq_some_iff] at h
    obtain ⟨u, hu, item, hitem, h⟩ := h
    have hkeyed := keyed_itemOf (Focus.keyed_value hfocus hu) (unblamed_eq_some hitem)
    exact keyed_demandPath hscope rest (.one item) hkeyed v h
  | .attributeSplat :: rest => by
    intro focus hfocus v h
    simp only [demandPath, Option.bind_eq_bind, Option.bind_eq_some_iff] at h
    obtain ⟨u, hu, h⟩ := h
    have hkeyed := keyed_splatItems (Focus.keyed_value hfocus hu)
    exact keyed_demandPath hscope rest (.each (splatItems u) []) hkeyed v h
  | .fullSplat :: rest => by
    intro focus hfocus v h
    simp only [demandPath, Option.bind_eq_bind, Option.bind_eq_some_iff, Option.pure_def, Option.some.injEq] at h
    obtain ⟨u, hu, values, hvalues, rfl⟩ := h
    have hkeyed := keyed_splatItems (Focus.keyed_value hfocus hu)
    exact keyed_array.mpr (keyed_mapM (fun item hitem v h =>
      keyed_demandPath hscope rest (.one item) (hkeyed item hitem) v h) hvalues)

end

end Keyed

end Expr

end Terrasmith
