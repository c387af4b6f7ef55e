import Terrasmith.Proofs.Resolution

/-!
Lazy calls are sound. By induction on an expression, what it resolves to has by evaluation the value that the expression
has on demand; and where resolving fails, prompt expressions have no value on demand.
-/
namespace Terrasmith

namespace Expr

/-- What resolving a part of an expression comes to: something that agrees with the part, or an error only where the
part has no value on demand. The latter holds of prompt parts. -/
structure Follows {α : Type} (resolved : Except EvalError α) (prompt : Prop) (agrees : α → Prop) (missing : Prop) :
    Prop where
  value : ∀ a, resolved = .ok a → agrees a
  failure : prompt → ∀ error, resolved = .error error → missing

namespace Follows

variable {α β γ : Type} {r : Except EvalError α} {r' : Except EvalError β} {p p' q : Prop} {A : α → Prop}
  {B : β → Prop} {C : γ → Prop} {m m' n : Prop}

theorem ok {a : α} (h : A a) : Follows (.ok a) p A m :=
  ⟨fun _ hb => Except.ok.inj hb ▸ h, nofun⟩

theorem error {e : EvalError} (h : p → m) : Follows (.error e : Except EvalError α) p A m := ⟨nofun, fun hp _ _ => h hp⟩

theorem map {f : α → γ} (h : Follows r p A m) (hp : q → p) (hvalue : ∀ a, A a → C (f a)) (hfailure : m → n) :
    Follows (do return f (← r)) q C n := by
  cases hr : r with
  | ok a => exact ok (hvalue a (h.value a hr))
  | error e => exact error fun hq => hfailure (h.failure (hp hq) e hr)

theorem map₂ {f : α → β → γ} (h : Follows r p A m) (h' : Follows r' p' B m') (hp : q → p ∧ p')
    (hvalue : ∀ a b, A a → B b → C (f a b)) (hfailure : m ∨ m' → n) :
    Follows (do let a ← r; return f a (← r')) q C n := by
  cases hr : r with
  | error e => exact error fun hq => hfailure (.inl (h.failure (hp hq).1 e hr))
  | ok a =>
    cases hr' : r' with
    | error e => exact error fun hq => hfailure (.inr (h'.failure (hp hq).2 e hr'))
    | ok b => exact ok (hvalue a b (h.value a hr) (h'.value b hr'))

/-- What agrees comes of resolving. -/
theorem withResult (h : Follows r p A m) : Follows r p (fun a => r = .ok a ∧ A a) m :=
  ⟨fun a ha => ⟨ha, h.value a ha⟩, h.failure⟩

end Follows

section

variable (scope : Scope)

def FollowsExpr (e : Expr) : Prop :=
  Follows (resolve scope e) (e.Prompt scope) (fun e' => Agrees scope e'.group e.group) (Fails scope e.group)

def FollowsAll (es : List Expr) : Prop :=
  Follows (resolveAll scope es) (EverywhereAll (IsPrompt scope) (IsPromptElement scope) es)
    (fun es' => ∀ within, (evalAll scope within (groupAll es')).toOption = demandAll scope (groupAll es))
    (demandAll scope (groupAll es) = none)

def FollowsKey (key : Key) : Prop :=
  Follows (resolveKey scope key) (EverywhereKey (IsPrompt scope) (IsPromptElement scope) key)
    (fun key' => ∀ within this,
      (evalKey scope within this (groupKey key')).toOption = demandKey scope (groupKey key))
    (demandKey scope (groupKey key) = none)

/-- Entries are resolved over those before them, but evaluated one by one. -/
def FollowsEntries (entries : List Entry) : Prop :=
  (∀ new, List.Forall₂ (EntryResolves scope) entries new → ∀ within this done,
    (evalEntries scope within this done (groupEntries new)).toOption =
      demandEntries scope done (groupEntries entries)) ∧
  (EverywhereEntries (IsPrompt scope) (IsPromptElement scope) entries → ∀ before error,
    resolveEntries scope before entries = .error error →
      ∀ done, demandEntries scope done (groupEntries entries) = none)

def FollowsPath (path : List Access) : Prop :=
  Follows (resolvePath scope path)
    (PromptPath scope path ∧ EverywherePath (IsPrompt scope) (IsPromptElement scope) path)
    (fun path' => ∀ within this focus,
      (evalPath scope within this focus (groupPath path')).toOption = demandPath scope focus (groupPath path))
    (∀ focus, demandPath scope focus (groupPath path) = none)

def FollowsElement (element : Element) : Prop :=
  Follows (resolveElement scope element) (EverywhereElement (IsPrompt scope) (IsPromptElement scope) element)
    (fun element' => ∀ within this strips,
      (evalElement scope within this strips (groupElement element')).toOption =
        demandElement scope strips (groupElement element))
    (∀ strips, demandElement scope strips (groupElement element) = none)

def FollowsElements (elements : List Element) : Prop :=
  Follows (resolveElements scope elements) (EverywhereElements (IsPrompt scope) (IsPromptElement scope) elements)
    (fun elements' => ∀ within this last stop,
      (evalElements scope within this last stop (groupElements elements')).toOption =
        demandElements scope last stop (groupElements elements))
    (∀ last stop, demandElements scope last stop (groupElements elements) = none)

def FollowsBranch (elements? : Option (List Element)) : Prop :=
  Follows (resolveBranch scope elements?) (EverywhereBranch (IsPrompt scope) (IsPromptElement scope) elements?)
    (fun elements?' => elements?'.isSome = elements?.isSome ∧ ∀ within this last stop,
      (evalBranch scope within this last stop (groupBranch elements?')).toOption =
        demandBranch scope last stop (groupBranch elements?))
    (∀ last stop, demandBranch scope last stop (groupBranch elements?) = none)

end

/-! Templates -/

/-- More or less than one interpolation. A single one has the value itself, not its text. -/
def NotSingle (elements : List Element) : Prop := ∀ e strip, elements ≠ [.interpolation e strip]

theorem eval_template {elements : List Element} (h : NotSingle elements) (scope : Scope) (within : Expr)
    (form : TemplateForm) (source : String) :
    eval scope within (.template form source (some elements)) = do
      return .string (← evalElements scope within (.template form source (some elements)) {} false elements) := by
  match elements, h with
  | [], _ => rfl
  | .literal _ :: _, _ => rfl
  | .ifDirective _ _ _ _ _ _ :: _, _ => rfl
  | .forDirective _ _ _ _ _ _ :: _, _ => rfl
  | [.interpolation e strip], h => exact absurd rfl (h e strip)
  | .interpolation _ _ :: _ :: _, _ => rfl

theorem demand_template {elements : List Element} (h : NotSingle elements) (scope : Scope) (form : TemplateForm)
    (source : String) :
    demand scope (.template form source (some elements)) = do
      return .string (← demandElements scope {} false elements) := by
  match elements, h with
  | [], _ => rfl
  | .literal _ :: _, _ => rfl
  | .ifDirective _ _ _ _ _ _ :: _, _ => rfl
  | .forDirective _ _ _ _ _ _ :: _, _ => rfl
  | [.interpolation e strip], h => exact absurd rfl (h e strip)
  | .interpolation _ _ :: _ :: _, _ => rfl

theorem outer_groupElement (element : Element) : (groupElement element).outer = element.outer := by
  cases element <;> rfl

theorem outer_of_resolveElement {scope : Scope} {element element' : Element}
    (h : resolveElement scope element = .ok element') : element'.outer = element.outer := by
  cases element with
  | interpolation e strip =>
    rw [resolveElement] at h
    obtain ⟨e', -, h⟩ := bind_eq_ok h
    cases h
    rfl
  | ifDirective c t f? ifStrip elseStrip endStrip =>
    rw [resolveElement] at h
    obtain ⟨c', -, h⟩ := bind_eq_ok h
    obtain ⟨t', -, h⟩ := bind_eq_ok h
    obtain ⟨f', -, h⟩ := bind_eq_ok h
    cases h
    rfl
  | literal text =>
    cases h
    rfl
  | forDirective key? value collection body forStrip endStrip =>
    cases h
    rfl

theorem stripsBefore_of_resolveElements {scope : Scope} {elements elements' : List Element}
    (h : resolveElements scope elements = .ok elements') (stop : Bool) :
    stripsBefore stop (groupElements elements') = stripsBefore stop (groupElements elements) := by
  cases elements with
  | nil =>
    cases h
    rfl
  | cons element rest =>
    rw [resolveElements] at h
    obtain ⟨element', helement, h⟩ := bind_eq_ok h
    obtain ⟨rest', -, h⟩ := bind_eq_ok h
    cases h
    simp only [groupElements, stripsBefore, outer_groupElement, outer_of_resolveElement helement]

theorem notSingle_groupElements {elements : List Element} (h : NotSingle elements) :
    NotSingle (groupElements elements) := by
  match elements, h with
  | [], _ => simp [NotSingle, groupElements]
  | [.literal _], _ => simp [NotSingle, groupElements, groupElement]
  | [.ifDirective _ _ _ _ _ _], _ => simp [NotSingle, groupElements, groupElement]
  | [.forDirective _ _ _ _ _ _], _ => simp [NotSingle, groupElements, groupElement]
  | [.interpolation e strip], h => exact absurd rfl (h e strip)
  | _ :: _ :: _, _ => simp [NotSingle, groupElements]

theorem notSingle_of_resolveElements {scope : Scope} {elements elements' : List Element} (h : NotSingle elements)
    (hresolve : resolveElements scope elements = .ok elements') : NotSingle elements' := by
  match elements, h with
  | [], _ =>
    cases hresolve
    simp [NotSingle]
  | element :: second :: rest, _ =>
    rw [resolveElements] at hresolve
    obtain ⟨element', -, hresolve⟩ := bind_eq_ok hresolve
    obtain ⟨rest', hrest, hresolve⟩ := bind_eq_ok hresolve
    cases hresolve
    rw [resolveElements] at hrest
    obtain ⟨second', -, hrest⟩ := bind_eq_ok hrest
    obtain ⟨rest'', -, hrest⟩ := bind_eq_ok hrest
    cases hrest
    simp [NotSingle]
  | [.literal _], _ =>
    cases hresolve
    simp [NotSingle]
  | [.forDirective _ _ _ _ _ _], _ =>
    cases hresolve
    simp [NotSingle]
  | [.ifDirective c t f? _ _ _], _ =>
    rw [resolveElements, resolveElement] at hresolve
    obtain ⟨element', helement, hresolve⟩ := bind_eq_ok hresolve
    obtain ⟨c', -, helement⟩ := bind_eq_ok helement
    obtain ⟨t', -, helement⟩ := bind_eq_ok helement
    obtain ⟨f', -, helement⟩ := bind_eq_ok helement
    cases helement
    cases hresolve
    simp [NotSingle]
  | [.interpolation e strip], h => exact absurd rfl (h e strip)

/-- What a template resolves to: the template that its resolved elements are, or an error if they are one. Its form and
its text make no difference to its value. -/
theorem resolve_template {scope : Scope} {form : TemplateForm} {source : String} {elements : List Element}
    (hfaithful : (Expr.template form source (some elements)).Faithful scope) :
    (∃ form' source' elements', resolveElements scope elements = .ok elements' ∧
      resolve scope (.template form source (some elements)) = .ok (.template form' source' (some elements'))) ∨
    ∃ error, resolveElements scope elements = .error error ∧
      resolve scope (.template form source (some elements)) = .error error := by
  rw [resolve, hasLazyBranch, resolveBranch]
  cases hlazy : hasLazyElements elements with
  | false => exact .inl ⟨form, source, elements, resolveElements_of_not_lazy scope elements hlazy hfaithful.2, rfl⟩
  | true =>
    cases hresolve : resolveElements scope elements with
    | error e => exact .inr ⟨e, rfl, rfl⟩
    | ok elements' =>
      refine .inl ⟨.quoted, Display.elementsText elements', elements', rfl, ?_⟩
      have hread := hfaithful.1 hlazy elements' hresolve
      simp [bind, Except.bind, pure, Except.pure, quotedTemplate, hread]

theorem follows_template {scope : Scope} {form : TemplateForm} {source : String} {elements : List Element}
    (hsingle : NotSingle elements) (hfaithful : (Expr.template form source (some elements)).Faithful scope)
    (h : FollowsElements scope elements) : FollowsExpr scope (.template form source (some elements)) := by
  unfold FollowsExpr
  obtain ⟨form', source', elements', helements, hresolve⟩ | ⟨e, helements, hresolve⟩ := resolve_template hfaithful
  · rw [hresolve]
    refine .ok (.operand rfl rfl fun within => ?_)
    have hsingle' := notSingle_groupElements (notSingle_of_resolveElements hsingle helements)
    simp only [group, groupBranch, eval_template hsingle', demand_template (notSingle_groupElements hsingle),
      toOption_bind, h.value elements' helements]
    rfl
  · rw [hresolve]
    refine .error fun hprompt => .operand rfl ?_
    simp only [group, groupBranch, demand_template (notSingle_groupElements hsingle),
      h.failure hprompt.2 e helements]
    rfl

theorem follows_interpolation {scope : Scope} {form : TemplateForm} {source : String} {e : Expr} {strip : Strip}
    (hfaithful : (Expr.template form source (some [.interpolation e strip])).Faithful scope)
    (h : FollowsExpr scope e) : FollowsExpr scope (.template form source (some [.interpolation e strip])) := by
  unfold FollowsExpr
  obtain ⟨form', source', elements', helements, hresolve⟩ | ⟨x, helements, hresolve⟩ := resolve_template hfaithful
  · rw [resolveElements, resolveElement] at helements
    obtain ⟨element', helement, helements⟩ := bind_eq_ok helements
    obtain ⟨e', he, helement⟩ := bind_eq_ok helement
    cases helement
    cases helements
    rw [hresolve]
    refine .ok (.operand rfl rfl fun within => ?_)
    simp only [group, groupBranch, groupElements, groupElement, eval, demand, (h.value e' he).value]
  · rw [hresolve]
    refine .error fun hprompt => .operand rfl ?_
    cases he : resolve scope e with
    | ok e' =>
      rw [resolveElements, resolveElement, he] at helements
      cases helements
    | error x' =>
      have hfails := h.failure hprompt.2.1.2 x' he
      simpa only [group, groupBranch, groupElements, groupElement, demand] using hfails.demand

/-! The induction -/

section

variable {scope : Scope}

theorem toOption_value (scope : Scope) (e : Expr) : (value scope e).toOption = (eval scope e.group e.group).toOption := by
  simp only [value]
  cases eval scope e.group e.group <;> rfl

/-- What an argument of a lazy call comes to. -/
theorem FollowsExpr.argument {e : Expr} (h : FollowsExpr scope e) (hprompt : e.Prompt scope) :
    (resolve scope e >>= value scope).toOption = demand scope e.group := by
  rw [toOption_bind]
  cases he : resolve scope e with
  | ok e' => exact (toOption_value scope e').trans ((h.value e' he).value _)
  | error x => exact (h.failure hprompt x he).demand.symm

theorem not_isOk_error {ε α : Type} {r : Except ε α} {x : ε} (h : r = .error x) : ¬ r.isOk = true := by
  rw [h]
  exact Bool.false_ne_true

theorem follows_conditional {c t f : Expr} (hc : FollowsExpr scope c) (ht : FollowsExpr scope t)
    (hf : FollowsExpr scope f) : FollowsExpr scope (.conditional c t f) := by
  unfold FollowsExpr
  rw [resolve]
  cases hrc : resolve scope c with
  | error x =>
    refine .error fun hprompt => .operand rfl ?_
    simp only [group, demand, (hc.failure hprompt.2.1 x hrc).demand]
    rfl
  | ok c' =>
    cases hrt : resolve scope t with
    | error x => exact .error fun hprompt => absurd hprompt.1.1 (not_isOk_error hrt)
    | ok t' =>
      cases hrf : resolve scope f with
      | error x => exact .error fun hprompt => absurd hprompt.1.2 (not_isOk_error hrf)
      | ok f' =>
        refine .ok (.operand rfl rfl fun within => ?_)
        simp only [group, eval, demand, toOption_bind, (hc.value c' hrc).value, toOption_asBool,
          apply_ite Except.toOption, (ht.value t' hrt).value, (hf.value f' hrf).value]

theorem follows_lazyCall (hscope : ∀ p ∈ scope, p.2.Keyed) {name : String} (hname : isLazyName name = true)
    {args : List Expr} {expand : Bool}
    (h : (argumentValues scope args).map Except.toOption = (groupAll args).map (demand scope)) :
    FollowsExpr scope (.call [name] args expand) := by
  have hresult : (lazyResult (.call [name] args expand) name (argumentValues scope args)).toOption =
      demand scope (.call [name] (groupAll args) expand) := toOption_lazyResult hname h expand
  unfold FollowsExpr
  rw [resolve_lazyCall hname]
  cases hlazy : lazyResult (.call [name] args expand) name (argumentValues scope args) with
  | error x =>
    rw [hlazy] at hresult
    exact .error fun _ => .operand rfl hresult.symm
  | ok v =>
    rw [hlazy] at hresult
    have hkeyed := keyed_demand hscope _ v hresult.symm
    refine .ok (.operand ?_ rfl fun within => ?_)
    · rw [group_ofValue]
      cases v <;> rfl
    · rw [group_ofValue, eval_ofValue scope v hkeyed]
      exact hresult

theorem follows_call {name : List String} (hname : isLazyCall name = false) {args : List Expr} (expand : Bool)
    (h : FollowsAll scope args) : FollowsExpr scope (.call name args expand) := by
  unfold FollowsExpr
  rw [resolve_call hname]
  have htry : name ≠ ["try"] := by
    rintro rfl
    cases hname
  have hcan : name ≠ ["can"] := by
    rintro rfl
    cases hname
  refine h.map (·.2) (fun args' hargs => .operand rfl rfl fun within => ?_) fun hmissing => .operand rfl ?_
  · simp only [group, eval, demand, if_neg htry, if_neg hcan]
    cases function? name with
    | none => rfl
    | some b => simp only [toOption_bind, hargs, toOption_expandLast, toOption_callFunction]; rfl
  · simp only [group, demand, if_neg htry, if_neg hcan, hmissing]
    cases function? name <;> rfl

theorem follows_object {entries : List Entry} (hf : (Expr.object entries).Faithful scope)
    (h : FollowsEntries scope entries) : FollowsExpr scope (.object entries) := by
  unfold FollowsExpr
  rw [resolve]
  cases hr : resolveEntries scope [] entries with
  | error x =>
    refine .error fun hprompt => .operand rfl ?_
    simp only [group, demand, h.2 hprompt.2 [] x hr]
    rfl
  | ok all =>
    obtain ⟨new, hnew, hentries⟩ := resolveEntries_apart hr (by simpa using hf.1 all hr)
    obtain rfl : all = new := hnew
    refine .ok (.operand rfl rfl fun within => ?_)
    simp only [group, eval, demand, toOption_bind, h.1 all hentries]
    rfl

theorem toOption_evalEntries (within this : Expr) (done : List (String × Value)) (entry : Entry) (rest : List Entry) :
    (evalEntries scope within this done (entry :: rest)).toOption = (evalEntry scope within this entry).toOption >>=
      fun p => (evalEntries scope within this (insertEntry p.1 p.2 done) rest).toOption := by
  rw [evalEntries, toOption_bind]

/-- An entry is followed if its key and its value are. -/
theorem follows_entry {key : Key} {e : Expr} (hkey : FollowsKey scope key) (he : FollowsExpr scope e) :
    Follows (resolveEntry scope (.mk key e)) (EverywhereEntry (IsPrompt scope) (IsPromptElement scope) (.mk key e))
      (fun new => ∀ within this, (evalEntry scope within this (groupEntry (.mk new.1 new.2))).toOption =
        demandEntry scope (groupEntry (.mk key e)))
      (demandEntry scope (groupEntry (.mk key e)) = none) := by
  refine hkey.map₂ he id (fun key' e' hkey' he' within this => ?_) fun hmissing => ?_
  · simp only [groupEntry, evalEntry, demandEntry, toOption_bind, hkey', he'.value]
    rfl
  · simp only [groupEntry, demandEntry]
    rcases hmissing with hkey | he
    · rw [hkey]
      rfl
    · rw [he.demand]
      cases demandKey scope (groupKey key) <;> rfl

theorem follows_ifDirective {c : Expr} {t : List Element} {f? : Option (List Element)} {s₁ s₂ s₃ : Strip}
    (hc : FollowsExpr scope c) (ht : FollowsElements scope t) (hf : FollowsBranch scope f?) :
    FollowsElement scope (.ifDirective c t f? s₁ s₂ s₃) := by
  unfold FollowsElement
  rw [resolveElement]
  cases hrc : resolve scope c with
  | error x =>
    refine .error fun hprompt strips => ?_
    simp only [groupElement, demandElement, (hc.failure hprompt.2.1 x hrc).demand]
    rfl
  | ok c' =>
    cases hrt : resolveElements scope t with
    | error x => exact .error fun hprompt => absurd hprompt.1.1 (not_isOk_error hrt)
    | ok t' =>
      cases hrf : resolveBranch scope f? with
      | error x => exact .error fun hprompt => absurd hprompt.1.2 (not_isOk_error hrf)
      | ok f?' =>
        obtain ⟨hsome, hbranch⟩ := hf.value f?' hrf
        have hsome' : (groupBranch f?').isSome = (groupBranch f?).isSome := by
          cases f? <;> cases f?' <;> simp_all [groupBranch]
        refine .ok fun within this strips => ?_
        simp only [groupElement, evalElement, demandElement, toOption_bind, (hc.value c' hrc).value, toOption_asBool,
          apply_ite Except.toOption, ht.value t' hrt, hbranch, hsome']

mutual

/-- What an expression resolves to has its value on demand. -/
theorem follows (hscope : ∀ p ∈ scope, p.2.Keyed) : (e : Expr) → e.Direct → e.Faithful scope → FollowsExpr scope e
  | .null, _, _ => .ok (.operand rfl rfl fun _ => rfl)
  | .bool _, _, _ => .ok (.operand rfl rfl fun _ => rfl)
  | .number _, _, _ => .ok (.operand rfl rfl fun _ => rfl)
  | .string _, _, _ => .ok (.operand rfl rfl fun _ => rfl)
  | .variable name, _, _ => by
    refine .ok (.operand rfl rfl fun within => ?_)
    simp only [group, eval, demand]
    cases scope.lookup name <;> rfl
  | .template form source none, _, _ => .ok (.operand rfl rfl fun _ => rfl)
  | .template form source (some [.interpolation e strip]), hd, hf =>
    follows_interpolation hf (follows hscope e hd.2.1.2 hf.2.1.2)
  | .template form source (some []), hd, hf =>
    follows_template (by simp [NotSingle]) hf (follows_elements hscope [] hd.2 hf.2)
  | .template form source (some (.literal text :: rest)), hd, hf =>
    follows_template (by simp [NotSingle]) hf (follows_elements hscope (.literal text :: rest) hd.2 hf.2)
  | .template form source (some (.ifDirective c t f? s₁ s₂ s₃ :: rest)), hd, hf =>
    follows_template (by simp [NotSingle]) hf (follows_elements hscope (.ifDirective c t f? s₁ s₂ s₃ :: rest) hd.2 hf.2)
  | .template form source (some (.forDirective _ _ _ _ _ _ :: rest)), hd, hf => hd.2.1.elim
  | .template form source (some (.interpolation e strip :: second :: rest)), hd, hf =>
    follows_template (by simp [NotSingle]) hf
      (follows_elements hscope (.interpolation e strip :: second :: rest) hd.2 hf.2)
  | .array items, hd, hf => by
    refine (follows_all hscope items hd.2 hf.2).map (·.2) (fun items' hitems => .operand rfl rfl fun within => ?_)
      fun hmissing => .operand rfl ?_
    · simp only [group, eval, demand, toOption_bind, hitems]
      rfl
    · simp only [group, demand, hmissing]
      rfl
  | .object entries, hd, hf => follows_object hf (follows_entries hscope entries hd.2 hf.2)
  | .traversal root path, hd, hf => by
    refine (follows hscope root hd.2.1 hf.2.1).map₂ (follows_path hscope path hd.2.2 hf.2.2)
      (fun hprompt => ⟨hprompt.2.1, hprompt.1, hprompt.2.2⟩)
      (fun root' path' hroot hpath => .operand rfl rfl fun within => ?_) fun hmissing => .operand rfl ?_
    · simp only [group, eval, demand, toOption_bind, hroot.value, hpath]
    · simp only [group, demand]
      rcases hmissing with hroot | hpath
      · rw [hroot.demand]
        rfl
      · simp only [hpath]
        cases demand scope root.group <;> rfl
  | .call name args expand, hd, hf => by
    cases hlazy : isLazyCall name with
    | false => exact follows_call hlazy expand (follows_all hscope args hd.2 hf.2)
    | true =>
      match name, hlazy with
      | [name], hlazy => exact follows_lazyCall hscope hlazy (follows_arguments hscope args hd.2 hf.2 (hf.1 hlazy))
  | .parens inner, hd, hf => by
    refine (follows hscope inner hd.2 hf.2).map (·.2) (fun inner' hinner => .operand rfl rfl fun within => ?_)
      fun hmissing => .operand rfl ?_
    · simp only [group, eval, demand, hinner.value]
    · simp only [group, demand, hmissing.demand]
  | .conditional c t f, hd, hf =>
    follows_conditional (follows hscope c hd.2.1 hf.2.1) (follows hscope t hd.2.2.1 hf.2.2.1)
      (follows hscope f hd.2.2.2 hf.2.2.2)
  | .unary op e, hd, hf => by
    refine (follows hscope e hd.2 hf.2).map (·.2) (fun e' he => .operand rfl rfl fun within => ?_)
      fun hmissing => .operand rfl ?_
    · simp only [group, eval, demand, toOption_bind, he.value, toOption_applyUnary]
    · simp only [group, demand, hmissing.demand]
      rfl
  | .binary l op r, hd, hf =>
    (follows hscope l hd.2.1 hf.2.1).map₂ (follows hscope r hd.2.2 hf.2.2) (·.2)
      (fun _ _ hl hr => hl.attach hr op) fun hmissing => .attach op hmissing
  | .listFor _ _, hd, _ => hd.elim
  | .objectFor _ _ _ _, hd, _ => hd.elim

theorem follows_all (hscope : ∀ p ∈ scope, p.2.Keyed) : (es : List Expr) →
    EverywhereAll IsDirect IsDirectElement es → EverywhereAll (IsFaithful scope) (fun _ => True) es →
      FollowsAll scope es
  | [], _, _ => .ok fun _ => rfl
  | e :: rest, hd, hf => by
    refine (follows hscope e hd.1 hf.1).map₂ (follows_all hscope rest hd.2 hf.2) id
      (fun e' rest' he hrest within => ?_) fun hmissing => ?_
    · simp only [groupAll, evalAll, demandAll, toOption_bind, he.value, hrest]
      rfl
    · simp only [groupAll, demandAll]
      rcases hmissing with he | hrest
      · rw [he.demand]
        rfl
      · rw [hrest]
        cases demand scope e.group <;> rfl

theorem follows_arguments (hscope : ∀ p ∈ scope, p.2.Keyed) : (es : List Expr) →
    EverywhereAll IsDirect IsDirectElement es → EverywhereAll (IsFaithful scope) (fun _ => True) es →
    EverywhereAll (IsPrompt scope) (IsPromptElement scope) es →
      (argumentValues scope es).map Except.toOption = (groupAll es).map (demand scope)
  | [], _, _, _ => rfl
  | e :: rest, hd, hf, hp => by
    rw [argumentValues, groupAll, List.map_cons, List.map_cons, (follows hscope e hd.1 hf.1).argument hp.1,
      follows_arguments hscope rest hd.2 hf.2 hp.2]

theorem follows_key (hscope : ∀ p ∈ scope, p.2.Keyed) : (key : Key) → EverywhereKey IsDirect IsDirectElement key →
    EverywhereKey (IsFaithful scope) (fun _ => True) key → FollowsKey scope key
  | .ident _, _, _ => .ok fun _ _ => rfl
  | .expr e, hd, hf => by
    refine (follows hscope e hd hf).map id (fun e' he within this => ?_) fun hmissing => ?_
    · simp only [groupKey, evalKey, demandKey, toOption_bind, he.value, toOption_asKey]
    · simp only [groupKey, demandKey, hmissing.demand]
      rfl

theorem follows_entries (hscope : ∀ p ∈ scope, p.2.Keyed) : (entries : List Entry) →
    EverywhereEntries IsDirect IsDirectElement entries → EverywhereEntries (IsFaithful scope) (fun _ => True) entries →
      FollowsEntries scope entries
  | [], _, _ => ⟨fun new hnew within this done => by cases hnew; rfl, fun _ before x hx => by cases hx⟩
  | .mk key e :: rest, hd, hf => by
    have hentry := follows_entry (follows_key hscope key hd.1.1 hf.1.1) (follows hscope e hd.1.2 hf.1.2)
    have hrest := follows_entries hscope rest hd.2 hf.2
    refine ⟨fun new hnew within this done => ?_, fun hprompt before x hx done => ?_⟩
    · obtain ⟨entry', rest', ⟨key', e', rfl, hresolve⟩, hrest', rfl⟩ := List.forall₂_cons_left_iff.mp hnew
      rw [groupEntries, toOption_evalEntries, hentry.value (key', e') hresolve]
      simp only [hrest.1 rest' hrest', groupEntries, demandEntries]
    · simp only [groupEntries, demandEntries]
      rw [resolveEntries] at hx
      cases hresolve : resolveEntry scope (.mk key e) with
      | error y =>
        rw [hentry.failure hprompt.1 y hresolve]
        rfl
      | ok p =>
        rw [hresolve] at hx
        simp only [hrest.2 hprompt.2 _ x hx]
        cases demandEntry scope (groupEntry (.mk key e)) <;> rfl

theorem follows_path (hscope : ∀ p ∈ scope, p.2.Keyed) : (path : List Access) →
    EverywherePath IsDirect IsDirectElement path → EverywherePath (IsFaithful scope) (fun _ => True) path →
      FollowsPath scope path
  | [], _, _ => by
    refine .ok fun within this focus => ?_
    simp only [groupPath, evalPath, demandPath, toOption_focus]
  | .attribute name :: rest, hd, hf => by
    refine (follows_path hscope rest hd.2 hf.2).map (fun hprompt => ⟨hprompt.1, hprompt.2.2⟩)
      (fun rest' hrest within this focus => ?_) fun hmissing focus => ?_
    · simp only [groupPath, groupAccess, evalPath, demandPath, toOption_bind, toOption_attribute, hrest]
    · simp only [groupPath, groupAccess, demandPath, hmissing]
      cases unblamed (Focus.attribute · name focus) <;> rfl
  | .index e :: rest, hd, hf => by
    have haccess : Follows (resolveAccess scope (.index e)) (e.Prompt scope)
        (fun access => ∃ e', access = .index e' ∧ Agrees scope e'.group e.group) (Fails scope e.group) :=
      (follows hscope e hd.1 hf.1).map id (fun e' he => ⟨e', rfl, he⟩) id
    refine haccess.map₂ (follows_path hscope rest hd.2 hf.2) (fun hprompt => ⟨hprompt.2.1, hprompt.1, hprompt.2.2⟩)
      (fun access rest' haccess hrest within this focus => ?_) fun hmissing focus => ?_
    · obtain ⟨e', rfl, he⟩ := haccess
      simp only [groupPath, groupAccess, evalPath, demandPath, toOption_bind, toOption_focus, he.value,
        toOption_elementOf, hrest]
    · simp only [groupPath, groupAccess, demandPath]
      rcases hmissing with he | hrest
      · simp [he.demand]
      · simp [hrest]
  | .legacyIndex n :: rest, hd, hf => by
    refine (follows_path hscope rest hd.2 hf.2).map (fun hprompt => ⟨hprompt.1, hprompt.2.2⟩)
      (fun rest' hrest within this focus => ?_) fun hmissing focus => ?_
    · simp only [groupPath, groupAccess, evalPath, demandPath, toOption_bind, toOption_focus, toOption_itemOf, hrest]
    · simp [groupPath, groupAccess, demandPath, hmissing]
  | .attributeSplat :: rest, hd, hf => by
    refine (follows_path hscope rest hd.2 hf.2).map (fun hprompt => ⟨hprompt.1, hprompt.2.2⟩)
      (fun rest' hrest within this focus => ?_) fun hmissing focus => ?_
    · simp only [groupPath, groupAccess, evalPath, demandPath, toOption_bind, toOption_focus, hrest]
    · simp only [groupPath, groupAccess, demandPath, hmissing]
      cases unblamed focus.value <;> rfl
  | .fullSplat :: rest, hd, hf => by
    have h := follows_path hscope rest hd.2 hf.2
    unfold FollowsPath
    rw [resolvePath, show resolveAccess scope .fullSplat = .ok .fullSplat from rfl]
    cases hr : resolvePath scope rest with
    | error x => exact .error fun hprompt => absurd hprompt.1 (not_isOk_error hr)
    | ok rest' =>
      refine .ok fun within this focus => ?_
      simp only [groupPath, groupAccess, evalPath, demandPath, toOption_bind, toOption_focus, toOption_mapM,
        h.value rest' hr]
      rfl

theorem follows_element (hscope : ∀ p ∈ scope, p.2.Keyed) : (element : Element) →
    EverywhereElement IsDirect IsDirectElement element → EverywhereElement (IsFaithful scope) (fun _ => True) element →
      FollowsElement scope element
  | .literal _, _, _ => .ok fun _ _ _ => rfl
  | .interpolation e strip, hd, hf => by
    refine (follows hscope e hd.2 hf.2).map (·.2) (fun e' he within this strips => ?_) fun hmissing strips => ?_
    · simp only [groupElement, evalElement, demandElement, toOption_bind, he.value]
      rfl
    · simp only [groupElement, demandElement, hmissing.demand]
      rfl
  | .ifDirective c t f? _ _ _, hd, hf =>
    follows_ifDirective (follows hscope c hd.2.1 hf.2.1) (follows_elements hscope t hd.2.2.1 hf.2.2.1)
      (follows_branch hscope f? hd.2.2.2 hf.2.2.2)
  | .forDirective _ _ _ _ _ _, hd, _ => hd.elim

theorem follows_elements (hscope : ∀ p ∈ scope, p.2.Keyed) : (elements : List Element) →
    EverywhereElements IsDirect IsDirectElement elements →
    EverywhereElements (IsFaithful scope) (fun _ => True) elements → FollowsElements scope elements
  | [], _, _ => .ok fun _ _ _ _ => rfl
  | element :: rest, hd, hf => by
    have helement := (follows_element hscope element hd.1 hf.1).withResult
    have hrest := (follows_elements hscope rest hd.2 hf.2).withResult
    refine helement.map₂ hrest id (fun element' rest' he hr within this last stop => ?_) fun hmissing last stop => ?_
    · simp only [groupElements, evalElements, demandElements, toOption_bind, he.2, hr.2, outer_groupElement,
        outer_of_resolveElement he.1, stripsBefore_of_resolveElements hr.1]
      rfl
    · simp only [groupElements, demandElements]
      rcases hmissing with h | h
      · rw [h]
        rfl
      · simp only [h]
        cases demandElement scope (last.after, stripsBefore stop (groupElements rest)) (groupElement element) <;> rfl

theorem follows_branch (hscope : ∀ p ∈ scope, p.2.Keyed) : (elements? : Option (List Element)) →
    EverywhereBranch IsDirect IsDirectElement elements? →
    EverywhereBranch (IsFaithful scope) (fun _ => True) elements? → FollowsBranch scope elements?
  | none, _, _ => .ok ⟨rfl, fun _ _ _ _ => rfl⟩
  | some elements, hd, hf =>
    (follows_elements hscope elements hd hf).map id (fun _ h => ⟨rfl, h⟩) fun hmissing => hmissing

end

end

/-- An expression that has a value has it on demand. -/
theorem onDemand_of_evaluate {scope : Scope} (hscope : ∀ p ∈ scope, p.2.Keyed) {e : Expr} (hdirect : e.Direct)
    (hfaithful : e.Faithful scope) {v : Value} (h : e.evaluate scope = .ok v) : e.onDemand scope = some v := by
  obtain ⟨e', he, hv⟩ := bind_eq_ok h
  have hagrees := (follows hscope e hdirect hfaithful).value e' he
  have hvalue := toOption_value scope e'
  rw [hv, hagrees.value] at hvalue
  exact hvalue.symm

end Expr

end Terrasmith
