import Terrasmith.Proofs.Insertion

/-!
Lazy calls are complete where all of them have values. What makes an expression fail beforehand is an outermost call
without a value on demand, wherever it stands: by induction on an expression, resolving succeeds exactly if there is
none. So an expression that has a value on demand keeps it exactly if its outermost calls have values too, also those
that evaluation would not come to.
-/
namespace Terrasmith

namespace Expr

mutual

/-- The outermost lazy calls of an expression outside of loops, in order. -/
def lazyCalls : Expr → List Expr
  | .call name args expand => if isLazyCall name then [.call name args expand] else lazyCallsAll args
  | .array items => lazyCallsAll items
  | .object entries => lazyCallsEntries entries
  | .traversal root path => lazyCalls root ++ lazyCallsPath path
  | .parens inner => lazyCalls inner
  | .conditional c t f => lazyCalls c ++ lazyCalls t ++ lazyCalls f
  | .binary l _ r => lazyCalls l ++ lazyCalls r
  | .unary _ e => lazyCalls e
  | .template _ _ elements? => lazyCallsBranch elements?
  | _ => []
termination_by structural x => x

def lazyCallsAll : List Expr → List Expr
  | [] => []
  | e :: rest => lazyCalls e ++ lazyCallsAll rest
termination_by structural x => x

def lazyCallsKey : Key → List Expr
  | .ident _ => []
  | .expr e => lazyCalls e
termination_by structural x => x

def lazyCallsEntry : Entry → List Expr
  | .mk key e => lazyCallsKey key ++ lazyCalls e
termination_by structural x => x

def lazyCallsEntries : List Entry → List Expr
  | [] => []
  | entry :: rest => lazyCallsEntry entry ++ lazyCallsEntries rest
termination_by structural x => x

def lazyCallsAccess : Access → List Expr
  | .index e => lazyCalls e
  | _ => []
termination_by structural x => x

def lazyCallsPath : List Access → List Expr
  | [] => []
  | access :: rest => lazyCallsAccess access ++ lazyCallsPath rest
termination_by structural x => x

def lazyCallsElement : Element → List Expr
  | .interpolation e _ => lazyCalls e
  | .ifDirective c t f? _ _ _ => lazyCalls c ++ lazyCallsElements t ++ lazyCallsBranch f?
  | _ => []
termination_by structural x => x

def lazyCallsElements : List Element → List Expr
  | [] => []
  | element :: rest => lazyCallsElement element ++ lazyCallsElements rest
termination_by structural x => x

def lazyCallsBranch : Option (List Element) → List Expr
  | none => []
  | some elements => lazyCallsElements elements
termination_by structural x => x

end

/-- All calls of a list have values on demand. -/
def Supplied (scope : Scope) (calls : List Expr) : Prop := ∀ call ∈ calls, (call.onDemand scope).isSome = true

instance (scope : Scope) (calls : List Expr) : Decidable (Supplied scope calls) :=
  inferInstanceAs (Decidable (∀ call ∈ calls, (call.onDemand scope).isSome = true))

theorem supplied_nil (scope : Scope) : Supplied scope [] := by simp [Supplied]

theorem supplied_append {scope : Scope} {first second : List Expr} :
    Supplied scope (first ++ second) ↔ Supplied scope first ∧ Supplied scope second := by
  simp [Supplied, or_imp, forall_and]

theorem supplied_singleton {scope : Scope} {call : Expr} :
    Supplied scope [call] ↔ (call.onDemand scope).isSome = true := by
  simp [Supplied]

/-- Resolving a part of an expression succeeds exactly if the calls in it have values. -/
def Settles {α : Type} (scope : Scope) (resolved : Except EvalError α) (calls : List Expr) : Prop :=
  resolved.isOk = true ↔ Supplied scope calls

namespace Settles

variable {α β γ : Type} {scope : Scope} {r : Except EvalError α} {r' : Except EvalError β} {calls calls' : List Expr}

theorem ok (a : α) : Settles scope (.ok a) [] := ⟨fun _ => supplied_nil scope, fun _ => rfl⟩

theorem map (h : Settles scope r calls) (f : α → γ) : Settles scope (do return f (← r)) calls := by
  refine Iff.trans ?_ h
  cases r <;> rfl

theorem bind {f : α → Except EvalError β} (h : Settles scope r calls) (hf : ∀ a, Settles scope (f a) calls') :
    Settles scope (r >>= f) (calls ++ calls') := by
  unfold Settles at h hf ⊢
  rw [supplied_append, ← h]
  cases r with
  | error e => simp [Bind.bind, Except.bind, Except.isOk, Except.toBool]
  | ok a => simpa [Bind.bind, Except.bind, Except.isOk, Except.toBool] using hf a

theorem map₂ (h : Settles scope r calls) (h' : Settles scope r' calls') (f : α → β → γ) :
    Settles scope (do let a ← r; return f a (← r')) (calls ++ calls') :=
  h.bind fun a => h'.map (f a)

end Settles

section

variable {scope : Scope}

/-- A lazy call is carried out exactly if it has a value on demand. -/
theorem settles_lazyCall {name : String} (hname : isLazyName name = true) {args : List Expr} {expand : Bool}
    (h : (argumentValues scope args).map Except.toOption = (groupAll args).map (demand scope)) :
    Settles scope (resolve scope (.call [name] args expand)) [.call [name] args expand] := by
  have hresult : (lazyResult (.call [name] args expand) name (argumentValues scope args)).toOption =
      onDemand scope (.call [name] args expand) := toOption_lazyResult hname h expand
  unfold Settles
  rw [supplied_singleton, ← hresult, resolve_lazyCall hname]
  cases lazyResult (.call [name] args expand) name (argumentValues scope args) <;> simp [bind, Except.bind,
    Except.isOk, Except.toBool, Except.toOption, pure, Except.pure]

theorem settles_template {form : TemplateForm} {source : String} {elements : List Element}
    (hfaithful : (Expr.template form source (some elements)).Faithful scope)
    (h : Settles scope (resolveElements scope elements) (lazyCallsElements elements)) :
    Settles scope (resolve scope (.template form source (some elements))) (lazyCallsElements elements) := by
  refine Iff.trans ?_ h
  obtain ⟨_, _, elements', helements, hresolve⟩ | ⟨e, helements, hresolve⟩ := resolve_template hfaithful <;>
    rw [helements, hresolve] <;> rfl

mutual

/-- Resolving an expression succeeds exactly if its outermost calls have values. -/
theorem settles (hscope : ∀ p ∈ scope, p.2.Keyed) : (e : Expr) → e.Direct → e.Faithful scope →
    Settles scope (resolve scope e) (lazyCalls e)
  | .null, _, _ => .ok _
  | .bool _, _, _ => .ok _
  | .number _, _, _ => .ok _
  | .string _, _, _ => .ok _
  | .variable _, _, _ => .ok _
  | .template _ _ none, _, _ => .ok _
  | .template _ _ (some elements), hd, hf => settles_template hf (settles_elements hscope elements hd.2 hf.2)
  | .array items, hd, hf => (settles_all hscope items hd.2 hf.2).map _
  | .object entries, hd, hf => (settles_entries hscope entries hd.2 hf.2 []).map _
  | .traversal root path, hd, hf =>
    (settles hscope root hd.2.1 hf.2.1).map₂ (settles_path hscope path hd.2.2 hf.2.2) _
  | .call name args expand, hd, hf => by
    rw [lazyCalls]
    cases hlazy : isLazyCall name with
    | false =>
      rw [resolve_call hlazy]
      exact (settles_all hscope args hd.2 hf.2).map _
    | true =>
      match name, hlazy with
      | [name], hlazy => exact settles_lazyCall hlazy (follows_arguments hscope args hd.2 hf.2 (hf.1 hlazy))
  | .parens inner, hd, hf => (settles hscope inner hd.2 hf.2).map _
  | .conditional c t f, hd, hf => by
    rw [lazyCalls, List.append_assoc]
    exact (settles hscope c hd.2.1 hf.2.1).bind fun c' =>
      (settles hscope t hd.2.2.1 hf.2.2.1).map₂ (settles hscope f hd.2.2.2 hf.2.2.2) (Expr.conditional c')
  | .unary op e, hd, hf => (settles hscope e hd.2 hf.2).map _
  | .binary l op r, hd, hf =>
    (settles hscope l hd.2.1 hf.2.1).map₂ (settles hscope r hd.2.2 hf.2.2) (Expr.binary · op ·)
  | .listFor _ _, hd, _ => hd.elim
  | .objectFor _ _ _ _, hd, _ => hd.elim

theorem settles_all (hscope : ∀ p ∈ scope, p.2.Keyed) : (es : List Expr) →
    EverywhereAll IsDirect IsDirectElement es → EverywhereAll (IsFaithful scope) (fun _ => True) es →
      Settles scope (resolveAll scope es) (lazyCallsAll es)
  | [], _, _ => .ok _
  | e :: rest, hd, hf => (settles hscope e hd.1 hf.1).map₂ (settles_all hscope rest hd.2 hf.2) _

theorem settles_key (hscope : ∀ p ∈ scope, p.2.Keyed) : (key : Key) → EverywhereKey IsDirect IsDirectElement key →
    EverywhereKey (IsFaithful scope) (fun _ => True) key → Settles scope (resolveKey scope key) (lazyCallsKey key)
  | .ident _, _, _ => .ok _
  | .expr e, hd, hf => (settles hscope e hd hf).map _

/-- The entries before do not count. -/
theorem settles_entries (hscope : ∀ p ∈ scope, p.2.Keyed) : (entries : List Entry) →
    EverywhereEntries IsDirect IsDirectElement entries → EverywhereEntries (IsFaithful scope) (fun _ => True) entries →
      ∀ before, Settles scope (resolveEntries scope before entries) (lazyCallsEntries entries)
  | [], _, _ => fun before => .ok before
  | .mk key e :: rest, hd, hf => fun before =>
    ((settles_key hscope key hd.1.1 hf.1.1).map₂ (settles hscope e hd.1.2 hf.1.2) _).bind fun entry =>
      settles_entries hscope rest hd.2 hf.2 (insertKey entry.1 entry.2 before)

theorem settles_access (hscope : ∀ p ∈ scope, p.2.Keyed) : (access : Access) →
    EverywhereAccess IsDirect IsDirectElement access → EverywhereAccess (IsFaithful scope) (fun _ => True) access →
      Settles scope (resolveAccess scope access) (lazyCallsAccess access)
  | .index e, hd, hf => (settles hscope e hd hf).map _
  | .attribute _, _, _ => .ok _
  | .legacyIndex _, _, _ => .ok _
  | .attributeSplat, _, _ => .ok _
  | .fullSplat, _, _ => .ok _

theorem settles_path (hscope : ∀ p ∈ scope, p.2.Keyed) : (path : List Access) →
    EverywherePath IsDirect IsDirectElement path → EverywherePath (IsFaithful scope) (fun _ => True) path →
      Settles scope (resolvePath scope path) (lazyCallsPath path)
  | [], _, _ => .ok _
  | access :: rest, hd, hf =>
    (settles_access hscope access hd.1 hf.1).map₂ (settles_path hscope rest hd.2 hf.2) _

theorem settles_element (hscope : ∀ p ∈ scope, p.2.Keyed) : (element : Element) →
    EverywhereElement IsDirect IsDirectElement element → EverywhereElement (IsFaithful scope) (fun _ => True) element →
      Settles scope (resolveElement scope element) (lazyCallsElement element)
  | .literal _, _, _ => .ok _
  | .interpolation e strip, hd, hf => (settles hscope e hd.2 hf.2).map _
  | .ifDirective c t f? ifStrip elseStrip endStrip, hd, hf => by
    rw [lazyCallsElement, List.append_assoc]
    exact (settles hscope c hd.2.1 hf.2.1).bind fun c' =>
      (settles_elements hscope t hd.2.2.1 hf.2.2.1).map₂ (settles_branch hscope f? hd.2.2.2 hf.2.2.2)
        (Element.ifDirective c' · · ifStrip elseStrip endStrip)
  | .forDirective _ _ _ _ _ _, hd, _ => hd.elim

theorem settles_elements (hscope : ∀ p ∈ scope, p.2.Keyed) : (elements : List Element) →
    EverywhereElements IsDirect IsDirectElement elements →
    EverywhereElements (IsFaithful scope) (fun _ => True) elements →
      Settles scope (resolveElements scope elements) (lazyCallsElements elements)
  | [], _, _ => .ok _
  | element :: rest, hd, hf =>
    (settles_element hscope element hd.1 hf.1).map₂ (settles_elements hscope rest hd.2 hf.2) _

theorem settles_branch (hscope : ∀ p ∈ scope, p.2.Keyed) : (elements? : Option (List Element)) →
    EverywhereBranch IsDirect IsDirectElement elements? →
    EverywhereBranch (IsFaithful scope) (fun _ => True) elements? →
      Settles scope (resolveBranch scope elements?) (lazyCallsBranch elements?)
  | none, _, _ => .ok _
  | some elements, hd, hf => (settles_elements hscope elements hd hf).map _

end

/-- What an expression evaluates to, if it resolves. -/
theorem toOption_evaluate {e e' : Expr} (hscope : ∀ p ∈ scope, p.2.Keyed) (hdirect : e.Direct)
    (hfaithful : e.Faithful scope) (h : resolve scope e = .ok e') : (e.evaluate scope).toOption = e.onDemand scope := by
  have hagrees := (follows hscope e hdirect hfaithful).value e' h
  rw [evaluate, h]
  exact (toOption_value scope e').trans (hagrees.value _)

end

end Expr

/-- Carrying out lazy calls beforehand is complete where it is faithful, but for calls that have no value themselves. An
expression with a value on demand is evaluated to it exactly if all its outermost calls have values; and it always is
if those can be carried out that evaluation may not come to: in branches, and behind full splats. -/
theorem lazy_calls_are_complete {scope : Scope} (hscope : ∀ p ∈ scope, p.2.Keyed) {e : Expr} (hdirect : e.Direct)
    (hfaithful : e.Faithful scope) {v : Value} (hvalue : e.onDemand scope = some v) :
    (e.evaluate scope = .ok v ↔ Expr.Supplied scope e.lazyCalls) ∧
      (e.Prompt scope → e.evaluate scope = .ok v) := by
  have hsettles := Expr.settles hscope e hdirect hfaithful
  have hresolved : ∀ e', e.resolve scope = .ok e' → e.evaluate scope = .ok v := fun e' he =>
    ok_of_toOption ((Expr.toOption_evaluate hscope hdirect hfaithful he).trans hvalue)
  refine ⟨⟨fun h => ?_, fun hsupplied => ?_⟩, fun hprompt => ?_⟩
  · obtain ⟨e', he, -⟩ := bind_eq_ok h
    exact hsettles.mp (by rw [he]; rfl)
  · cases he : e.resolve scope with
    | ok e' => exact hresolved e' he
    | error x => exact absurd (hsettles.mpr hsupplied) (Expr.not_isOk_error he)
  · cases he : e.resolve scope with
    | ok e' => exact hresolved e' he
    | error x =>
      -- What fails beforehand would be missing on demand too.
      have hfails := (Expr.follows hscope e hdirect hfaithful).failure hprompt x he
      exact absurd (hvalue.symm.trans hfails.demand) (by simp)

/-- Calls in the condition and in both branches, one of them within a template. -/
def branchingCalls : Expr :=
  .conditional (.call ["can"] [.variable "missing"] false) (.call ["try"] [.variable "missing", .null] false)
    (.template .quoted "" (some [.interpolation (.call ["try"] [.variable "missing", .variable "s"] false) {},
      .literal "-b"]))

theorem lazy_calls_are_complete_branching :
    Expr.Supplied [("s", .string "a")] branchingCalls.lazyCalls ∧
      branchingCalls.evaluate [("s", .string "a")] = .ok (.string "a-b") := by
  have hscope : ∀ p ∈ [("s", Value.string "a")], p.2.Keyed := by
    simp [Value.Keyed]
  have hsupplied : Expr.Supplied [("s", .string "a")] branchingCalls.lazyCalls := by decide +kernel
  have hdirect : branchingCalls.Direct := by
    simp [Expr.Direct, Expr.Everywhere, Expr.EverywhereBranch, Expr.EverywhereElements, Expr.EverywhereElement,
      Expr.EverywhereAll, Expr.IsDirect, Expr.IsDirectElement, branchingCalls]
  have hfaithful : branchingCalls.Faithful [("s", .string "a")] := by
    have hcalls : ∀ resolved, Expr.resolveElements [("s", .string "a")]
        [.interpolation (.call ["try"] [.variable "missing", .variable "s"] false) {}, .literal "-b"] = .ok resolved →
          Source.readTemplate (Display.elementsText resolved) = some resolved := by
      intro resolved h
      cases h
      exact Source.readTemplate_plain (by decide)
    simpa [Expr.Faithful, Expr.Everywhere, Expr.EverywhereElements, Expr.EverywhereElement, Expr.EverywhereBranch,
      Expr.EverywhereAll, Expr.IsFaithful, Expr.IsPrompt, branchingCalls] using fun _ => hcalls
  exact ⟨hsupplied, ((lazy_calls_are_complete hscope hdirect hfaithful rfl).1).mpr hsupplied⟩

/-- A call without a value in a branch that is not taken fails the expression, though it has a value on demand. -/
theorem untaken_try_fails :
    (Expr.conditional (.bool false) (.call ["try"] [.variable "missing"] false) (.number (.int 1))).onDemand [] =
        some (.number (.int 1)) ∧
      (Expr.conditional (.bool false) (.call ["try"] [.variable "missing"] false)
        (.number (.int 1))).evaluate [] =
          .error (.exhausted (.call ["try"] [.variable "missing"] false)
            (.failed (.variable "missing") (.caused (.undefinedVariable "missing") (.variable "missing")))) :=
  ⟨rfl, rfl⟩

end Terrasmith
