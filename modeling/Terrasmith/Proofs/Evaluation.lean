import Terrasmith.Proofs.LazyCalls

/-!
Evaluation. Which expression a failure is blamed on makes no difference to a value, and the values of expressions have
distinct keys, as those of the scope have.
-/
namespace Terrasmith

namespace Expr

/-! ### Who is to blame makes no difference to a value -/

theorem toOption_loopScopes (within : Expr) (scope : Scope) (key? : Option String) (value : String) (v : Value) :
    (loopScopes within scope key? value v).toOption = unblamed (loopScopes · scope key? value v) := by
  cases v <;> rfl

theorem toOption_evalPath (scope : Scope) (this : Expr) : (path : List Access) → ∀ within focus,
    (evalPath scope within this focus path).toOption = unblamed (evalPath scope · this focus path)
  | [], within, focus => toOption_focus within focus
  | .attribute name :: rest, within, focus => by
    rw [unblamed]
    simp only [evalPath, toOption_bind, toOption_attribute, toOption_evalPath scope this rest within]
    rfl
  | .index e :: rest, within, focus => by
    rw [unblamed]
    simp only [evalPath, toOption_bind, toOption_focus, toOption_elementOf, toOption_evalPath scope this rest within]
    rfl
  | .legacyIndex n :: rest, within, focus => by
    rw [unblamed]
    simp only [evalPath, toOption_bind, toOption_focus, toOption_itemOf, toOption_evalPath scope this rest within]
    rfl
  | .attributeSplat :: rest, within, focus => by
    rw [unblamed]
    simp only [evalPath, toOption_bind, toOption_focus, toOption_evalPath scope this rest within]
    rfl
  | .fullSplat :: rest, within, focus => by
    rw [unblamed]
    simp only [evalPath, toOption_bind, toOption_focus, toOption_mapM, toOption_evalPath scope this rest within]
    rfl

mutual

theorem toOption_evalElements (scope : Scope) (this : Expr) : (elements : List Element) → ∀ within last stop,
    (evalElements scope within this last stop elements).toOption =
      unblamed (evalElements scope · this last stop elements)
  | [], _, _, _ => rfl
  | element :: rest, within, last, stop => by
    rw [unblamed]
    simp only [evalElements, toOption_bind, toOption_evalElement scope this element within,
      toOption_evalElements scope this rest within]
    rfl
termination_by structural x => x

theorem toOption_evalElement (scope : Scope) (this : Expr) : (element : Element) → ∀ within strips,
    (evalElement scope within this strips element).toOption = unblamed (evalElement scope · this strips element)
  | .literal _, _, _ => rfl
  | .interpolation _ _, _, _ => rfl
  | .ifDirective c t f? _ _ _, within, _ => by
    rw [unblamed]
    simp only [evalElement, toOption_bind, toOption_asBool, apply_ite Except.toOption,
      toOption_evalElements scope this t within, toOption_evalBranch scope this f? within]
    rfl
  | .forDirective _ _ _ _ _ _, within, _ => by
    rw [unblamed]
    simp only [evalElement, toOption_bind, toOption_loopScopes]
termination_by structural x => x

theorem toOption_evalBranch (scope : Scope) (this : Expr) : (elements? : Option (List Element)) → ∀ within last stop,
    (evalBranch scope within this last stop elements?).toOption =
      unblamed (evalBranch scope · this last stop elements?)
  | none, _, _, _ => rfl
  | some elements, within, last, stop => toOption_evalElements scope this elements within last stop
termination_by structural x => x

end

theorem toOption_entry (scope : Scope) (within this : Expr) (entry : Entry) :
    (evalEntry scope within this entry).toOption = unblamed (evalEntry scope · this entry) := by
  obtain ⟨key, e⟩ := entry
  rw [unblamed]
  cases key with
  | ident name => rfl
  | expr k => simp only [evalEntry, evalKey, toOption_bind, toOption_asKey]

theorem toOption_entries (scope : Scope) (this : Expr) (entries : List Entry) : ∀ within done,
    (evalEntries scope within this done entries).toOption = unblamed (evalEntries scope · this done entries) := by
  induction entries with
  | nil => exact fun _ _ => rfl
  | cons entry rest ih =>
    intro within done
    rw [unblamed]
    simp only [evalEntries, toOption_bind, toOption_entry scope within, ih within]
    rfl

/-- An expression has the same value whatever expression its failures are blamed on. -/
theorem toOption_eval (scope : Scope) : (e : Expr) → ∀ within,
    (eval scope within e).toOption = unblamed (eval scope · e)
  | .null, _ => rfl
  | .bool _, _ => rfl
  | .number _, _ => rfl
  | .string _, _ => rfl
  | .array _, _ => rfl
  | .object entries, within => by
    rw [unblamed]
    simp only [eval, toOption_bind, toOption_entries]
  | .parens _, _ => rfl
  | .variable name, _ => by
    rw [unblamed]
    simp only [eval]
    cases scope.lookup name <;> rfl
  | .template _ _ none, _ => rfl
  | .template form source (some elements), within => by
    by_cases hsingle : NotSingle elements
    · rw [unblamed]
      simp only [eval_template hsingle, toOption_bind, toOption_evalElements]
    · simp only [NotSingle, not_forall, not_not] at hsingle
      obtain ⟨e, strip, rfl⟩ := hsingle
      rfl
  | .traversal root path, _ => by
    rw [unblamed]
    simp only [eval, toOption_bind, toOption_evalPath]
  | .call name args expand, _ => by
    rw [unblamed]
    simp only [eval]
    cases function? name with
    | none => rfl
    | some b => simp only [toOption_bind, toOption_expandLast, toOption_callFunction]
  | .conditional c t f, _ => by
    rw [unblamed]
    simp only [eval, toOption_bind, toOption_asBool, apply_ite Except.toOption]
  | .unary op e, _ => by
    rw [unblamed]
    simp only [eval, toOption_bind, toOption_applyUnary]
  | .binary l op r, _ => by
    rw [unblamed]
    simp only [eval, toOption_bind, toOption_applyBinary]
  | .listFor (.mk _ _ _ _) e, _ => by
    rw [unblamed]
    simp only [eval, toOption_bind, toOption_loopScopes]
  | .objectFor (.mk _ _ _ _) k e _, _ => by
    rw [unblamed]
    simp only [eval, toOption_bind, toOption_loopScopes]

/-! ### Values have distinct keys, as those of the scope -/

section Keyed

open Value

variable {within : Expr} {scope : Scope} {u v : Value}

/-- The variables of a round are an item and its key or number. -/
theorem keyed_loopScopes {scopes : List Scope} {key? : Option String} {name : String}
    (hscope : ∀ p ∈ scope, p.2.Keyed) (hv : v.Keyed) (h : loopScopes within scope key? name v = .ok scopes) :
    ∀ round ∈ scopes, ∀ p ∈ round, p.2.Keyed := by
  have hbind : ∀ k u, k.Keyed → u.Keyed → ∀ p ∈ bindLoop scope key? name k u, p.2.Keyed := by
    intro k u hk hu p hp
    rw [bindLoop, List.mem_cons, List.mem_append] at hp
    rcases hp with rfl | hp | hp
    · exact hu
    · cases key? with
      | none => cases hp
      | some key =>
        rw [Option.map_some, Option.toList_some, List.mem_singleton] at hp
        exact hp ▸ hk
    · exact hscope p hp
  cases v with
  | array items =>
    cases h
    intro round hround
    obtain ⟨⟨item, i⟩, hitem, rfl⟩ := List.mem_map.mp hround
    exact hbind _ _ (keyed_ofNat i) (keyed_array.mp hv item (List.fst_mem_of_mem_zipIdx hitem))
  | object entries =>
    cases h
    intro round hround
    obtain ⟨⟨key, item⟩, hitem, rfl⟩ := List.mem_map.mp hround
    exact hbind _ _ (keyed_string key) ((keyed_object.mp hv).2 (key, item) hitem)
  | _ => cases h

theorem keyed_addLoopEntry {grouping : Bool} {entries new : List (String × Value)} {key : String}
    (hentries : (Value.object entries).Keyed) (hv : v.Keyed)
    (h : addLoopEntry within grouping entries key v = .ok new) : (Value.object new).Keyed := by
  unfold addLoopEntry at h
  split at h
  · rename_i items hlookup
    cases h
    have hitems := keyed_array.mp (keyed_of_lookup hentries hlookup)
    refine keyed_insertEntry hentries key (keyed_array.mpr fun item hitem => ?_)
    rcases List.mem_append.mp hitem with hitem | hitem
    · exact hitems item hitem
    · exact List.mem_singleton.mp hitem ▸ hv
  · cases h
    exact keyed_insertEntry hentries key (keyed_array.mpr (by simpa using hv))
  · cases h
  · rename_i hlookup
    cases h
    rw [← insertEntry_of_lookup_eq_none hlookup]
    exact keyed_insertEntry hentries key hv

theorem Focus.Keyed.value {focus : Focus} (hfocus : focus.Keyed) (h : focus.value within = .ok v) : v.Keyed :=
  Focus.keyed_value hfocus (toOption_focus within focus ▸ ok_iff_toOption.mp h)

theorem Focus.Keyed.attribute {focus next : Focus} {name : String} (hfocus : focus.Keyed)
    (h : focus.attribute within name = .ok next) : next.Keyed :=
  Focus.keyed_attribute hfocus (toOption_attribute within name focus ▸ ok_iff_toOption.mp h)

theorem keyed_template {form : TemplateForm} {source : String} {elements : List Element} (hsingle : NotSingle elements)
    (h : eval scope within (.template form source (some elements)) = .ok v) : v.Keyed := by
  rw [eval_template hsingle] at h
  obtain ⟨text, -, rfl⟩ := return_eq_ok h
  exact keyed_string text

mutual

/-- Loops add variables to the scope, so the induction goes over all scopes. -/
theorem keyed_eval : (e : Expr) → ∀ {scope : Scope} {within : Expr} {v : Value}, (∀ p ∈ scope, p.2.Keyed) →
    eval scope within e = .ok v → v.Keyed
  | .null, _, _, _, _, h => by cases h; simp
  | .bool _, _, _, _, _, h => by cases h; simp
  | .number _, _, _, _, _, h => by cases h; simp
  | .string _, _, _, _, _, h => by cases h; simp
  | .template _ _ none, _, _, _, _, h => by cases h
  | .template _ _ (some [.interpolation e _]), _, _, _, hscope, h => keyed_eval e hscope h
  | .template _ _ (some []), _, _, _, _, h => keyed_template (by simp [NotSingle]) h
  | .template _ _ (some (.literal _ :: _)), _, _, _, _, h => keyed_template (by simp [NotSingle]) h
  | .template _ _ (some (.ifDirective _ _ _ _ _ _ :: _)), _, _, _, _, h => keyed_template (by simp [NotSingle]) h
  | .template _ _ (some (.forDirective _ _ _ _ _ _ :: _)), _, _, _, _, h => keyed_template (by simp [NotSingle]) h
  | .template _ _ (some (.interpolation _ _ :: _ :: _)), _, _, _, _, h => keyed_template (by simp [NotSingle]) h
  | .array items, scope, within, v, hscope, h => by
    rw [eval] at h
    obtain ⟨values, hvalues, rfl⟩ := return_eq_ok h
    exact keyed_array.mpr (keyed_evalAll items hscope hvalues)
  | .object entries, scope, within, v, hscope, h => by
    rw [eval] at h
    obtain ⟨all, hall, rfl⟩ := return_eq_ok h
    exact keyed_evalEntries entries hscope (by simp) hall
  | .variable name, scope, within, v, hscope, h => by
    rw [eval] at h
    split at h
    · cases h
      exact keyed_of_scope hscope ‹_›
    · cases h
  | .traversal root path, scope, within, v, hscope, h => by
    rw [eval] at h
    obtain ⟨u, hu, hpath⟩ := bind_eq_ok h
    exact keyed_evalPath path (.one u) (keyed_eval root hscope hu) hscope hpath
  | .call name args expand, scope, within, v, hscope, h => by
    rw [eval] at h
    split at h
    · cases h
    · rename_i b hb
      obtain ⟨values, hvalues, h⟩ := bind_eq_ok h
      obtain ⟨more, hmore, hcall⟩ := bind_eq_ok h
      exact keyed_callFunction hb (keyed_expandLast (keyed_evalAll args hscope hvalues) hmore) hcall
  | .parens inner, scope, within, v, hscope, h => keyed_eval inner hscope h
  | .conditional c t f, scope, within, v, hscope, h => by
    rw [eval] at h
    obtain ⟨u, -, h⟩ := bind_eq_ok h
    obtain ⟨b, -, h⟩ := bind_eq_ok h
    split at h
    · exact keyed_eval t hscope h
    · exact keyed_eval f hscope h
  | .unary op e, scope, within, v, hscope, h => by
    rw [eval] at h
    obtain ⟨u, -, h⟩ := bind_eq_ok h
    exact keyed_applyUnary h
  | .binary l op r, scope, within, v, hscope, h => by
    rw [eval] at h
    obtain ⟨a, -, h⟩ := bind_eq_ok h
    obtain ⟨b, -, h⟩ := bind_eq_ok h
    exact keyed_applyBinary h
  | .listFor (.mk key? value collection condition?) e, scope, within, v, hscope, h => by
    rw [eval] at h
    obtain ⟨c, hc, h⟩ := bind_eq_ok h
    obtain ⟨scopes, hscopes, h⟩ := bind_eq_ok h
    obtain ⟨results, hresults, rfl⟩ := return_eq_ok h
    refine keyed_array.mpr fun u hu => ?_
    obtain ⟨result, hresult, hu⟩ := List.mem_flatten.mp hu
    obtain ⟨round, hround, hresult⟩ := (mem_mapM_ok hresults).mp hresult
    obtain ⟨b, -, hresult⟩ := bind_eq_ok hresult
    split at hresult
    · obtain ⟨u', hu', rfl⟩ := return_eq_ok hresult
      have hkeyed := keyed_loopScopes hscope (keyed_eval collection hscope hc) hscopes round hround
      exact List.mem_singleton.mp hu ▸ keyed_eval e hkeyed hu'
    · cases hresult
      cases hu
  | .objectFor (.mk key? value collection condition?) k e grouping, scope, within, v, hscope, h => by
    rw [eval] at h
    obtain ⟨c, hc, h⟩ := bind_eq_ok h
    obtain ⟨scopes, hscopes, h⟩ := bind_eq_ok h
    obtain ⟨all, hall, rfl⟩ := return_eq_ok h
    refine foldlM_keeps (p := fun entries => (Value.object entries).Keyed)
      (fun entries round new hround hentries hnew => ?_) (by simp) hall
    obtain ⟨b, -, hnew⟩ := bind_eq_ok hnew
    split at hnew
    · obtain ⟨kv, -, hnew⟩ := bind_eq_ok hnew
      obtain ⟨key, -, hnew⟩ := bind_eq_ok hnew
      obtain ⟨u, hu, hnew⟩ := bind_eq_ok hnew
      have hkeyed := keyed_loopScopes hscope (keyed_eval collection hscope hc) hscopes round hround
      exact keyed_addLoopEntry hentries (keyed_eval e hkeyed hu) hnew
    · cases hnew
      exact hentries
termination_by structural x => x

theorem keyed_evalAll : (es : List Expr) → ∀ {scope : Scope} {within : Expr} {values : List Value},
    (∀ p ∈ scope, p.2.Keyed) → evalAll scope within es = .ok values → ∀ v ∈ values, v.Keyed
  | [], _, _, _, _, h => by cases h; simp
  | e :: rest, scope, within, values, hscope, h => by
    rw [evalAll] at h
    obtain ⟨v, hv, h⟩ := bind_eq_ok h
    obtain ⟨others, hothers, rfl⟩ := return_eq_ok h
    rw [List.forall_mem_cons]
    exact ⟨keyed_eval e hscope hv, keyed_evalAll rest hscope hothers⟩
termination_by structural x => x

theorem keyed_evalEntries : (entries : List Entry) → ∀ {scope : Scope} {within this : Expr}
    {done all : List (String × Value)}, (∀ p ∈ scope, p.2.Keyed) → (Value.object done).Keyed →
      evalEntries scope within this done entries = .ok all → (Value.object all).Keyed
  | [], _, _, _, _, _, _, hdone, h => by cases h; exact hdone
  | .mk key e :: rest, scope, within, this, done, all, hscope, hdone, h => by
    rw [evalEntries, evalEntry] at h
    obtain ⟨⟨k, v⟩, hentry, h⟩ := bind_eq_ok h
    obtain ⟨k', -, hentry⟩ := bind_eq_ok hentry
    obtain ⟨v', hv, hpair⟩ := return_eq_ok hentry
    cases hpair
    exact keyed_evalEntries rest hscope (keyed_insertEntry hdone k (keyed_eval e hscope hv)) h
termination_by structural x => x

theorem keyed_evalPath : (path : List Access) → ∀ (focus : Focus) {scope : Scope} {within this : Expr} {v : Value},
    focus.Keyed → (∀ p ∈ scope, p.2.Keyed) → evalPath scope within this focus path = .ok v → v.Keyed
  | [], focus, _, within, _, _, hfocus, _, h => hfocus.value h
  | .attribute name :: rest, focus, scope, within, this, v, hfocus, hscope, h => by
    rw [evalPath] at h
    obtain ⟨next, hnext, h⟩ := bind_eq_ok h
    exact keyed_evalPath rest next (hfocus.attribute hnext) hscope h
  | .index e :: rest, focus, scope, within, this, v, hfocus, hscope, h => by
    rw [evalPath] at h
    obtain ⟨u, hu, h⟩ := bind_eq_ok h
    obtain ⟨index, -, h⟩ := bind_eq_ok h
    obtain ⟨item, hitem, h⟩ := bind_eq_ok h
    exact keyed_evalPath rest (.one item) (keyed_elementOf (hfocus.value hu) hitem) hscope h
  | .legacyIndex n :: rest, focus, scope, within, this, v, hfocus, hscope, h => by
    rw [evalPath] at h
    obtain ⟨u, hu, h⟩ := bind_eq_ok h
    obtain ⟨item, hitem, h⟩ := bind_eq_ok h
    exact keyed_evalPath rest (.one item) (keyed_itemOf (hfocus.value hu) hitem) hscope h
  | .attributeSplat :: rest, focus, scope, within, this, v, hfocus, hscope, h => by
    rw [evalPath] at h
    obtain ⟨u, hu, h⟩ := bind_eq_ok h
    exact keyed_evalPath rest (.each (splatItems u) []) (keyed_splatItems (hfocus.value hu)) hscope h
  | .fullSplat :: rest, focus, scope, within, this, v, hfocus, hscope, h => by
    rw [evalPath] at h
    obtain ⟨u, hu, h⟩ := bind_eq_ok h
    obtain ⟨values, hvalues, rfl⟩ := return_eq_ok h
    refine keyed_array.mpr fun result hresult => ?_
    obtain ⟨item, hitem, hresult⟩ := (mem_mapM_ok hvalues).mp hresult
    exact keyed_evalPath rest (.one item) (keyed_splatItems (hfocus.value hu) item hitem) hscope hresult
termination_by structural x => x

end

end Keyed

variable {scope : Scope} {v : Value}

/-- What an expression is evaluated within makes no difference to its value. -/
theorem value_eq_ok (e within : Expr) : value scope e = .ok v ↔ eval scope within e.group = .ok v := by
  rw [ok_iff_toOption, ok_iff_toOption, toOption_value, toOption_eval, toOption_eval]

theorem keyed_value (hscope : ∀ p ∈ scope, p.2.Keyed) {e : Expr} (h : value scope e = .ok v) : v.Keyed :=
  keyed_eval e.group hscope ((value_eq_ok e .null).mp h)

theorem keyed_evaluate (hscope : ∀ p ∈ scope, p.2.Keyed) {e : Expr} (h : evaluate scope e = .ok v) : v.Keyed := by
  obtain ⟨e', -, hv⟩ := bind_eq_ok h
  exact keyed_value hscope hv

end Expr

end Terrasmith
