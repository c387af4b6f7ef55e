import Terrasmith.Proofs.Entries
import Terrasmith.Proofs.OnDemand

/-!
Carrying out lazy calls beforehand. The resolved expression has the value that the expression has on demand, if
resolving changes nothing but the calls (`Faithful`): templates read back as they are printed, keys of objects stay
apart, and the arguments of calls hold no call that can fail where evaluation does not come.
-/
namespace Terrasmith

namespace Expr

mutual

/-- Conditions on expressions and on elements of templates that hold of an expression and all parts of it outside of
loops. -/
def Everywhere (p : Expr → Prop) (q : Element → Prop) : Expr → Prop
  | .template form source elements? => p (.template form source elements?) ∧ EverywhereBranch p q elements?
  | .array items => p (.array items) ∧ EverywhereAll p q items
  | .object entries => p (.object entries) ∧ EverywhereEntries p q entries
  | .traversal root path => p (.traversal root path) ∧ Everywhere p q root ∧ EverywherePath p q path
  | .call name args expand => p (.call name args expand) ∧ EverywhereAll p q args
  | .parens inner => p (.parens inner) ∧ Everywhere p q inner
  | .conditional c t f => p (.conditional c t f) ∧ Everywhere p q c ∧ Everywhere p q t ∧ Everywhere p q f
  | .unary op e => p (.unary op e) ∧ Everywhere p q e
  | .binary l op r => p (.binary l op r) ∧ Everywhere p q l ∧ Everywhere p q r
  | e => p e
termination_by structural x => x

def EverywhereAll (p : Expr → Prop) (q : Element → Prop) : List Expr → Prop
  | [] => True
  | e :: rest => Everywhere p q e ∧ EverywhereAll p q rest
termination_by structural x => x

def EverywhereKey (p : Expr → Prop) (q : Element → Prop) : Key → Prop
  | .ident _ => True
  | .expr e => Everywhere p q e
termination_by structural x => x

def EverywhereEntry (p : Expr → Prop) (q : Element → Prop) : Entry → Prop
  | .mk key e => EverywhereKey p q key ∧ Everywhere p q e
termination_by structural x => x

def EverywhereEntries (p : Expr → Prop) (q : Element → Prop) : List Entry → Prop
  | [] => True
  | entry :: rest => EverywhereEntry p q entry ∧ EverywhereEntries p q rest
termination_by structural x => x

def EverywhereAccess (p : Expr → Prop) (q : Element → Prop) : Access → Prop
  | .index e => Everywhere p q e
  | _ => True
termination_by structural x => x

def EverywherePath (p : Expr → Prop) (q : Element → Prop) : List Access → Prop
  | [] => True
  | access :: rest => EverywhereAccess p q access ∧ EverywherePath p q rest
termination_by structural x => x

def EverywhereElement (p : Expr → Prop) (q : Element → Prop) : Element → Prop
  | .interpolation e strip => q (.interpolation e strip) ∧ Everywhere p q e
  | .ifDirective c t f? ifStrip elseStrip endStrip =>
    q (.ifDirective c t f? ifStrip elseStrip endStrip) ∧ Everywhere p q c ∧ EverywhereElements p q t
      ∧ EverywhereBranch p q f?
  | element => q element
termination_by structural x => x

def EverywhereElements (p : Expr → Prop) (q : Element → Prop) : List Element → Prop
  | [] => True
  | element :: rest => EverywhereElement p q element ∧ EverywhereElements p q rest
termination_by structural x => x

def EverywhereBranch (p : Expr → Prop) (q : Element → Prop) : Option (List Element) → Prop
  | none => True
  | some elements => EverywhereElements p q elements
termination_by structural x => x

end

/-- Whether a call of this name is lazy. Functions in a namespace are not. -/
def isLazyCall : List String → Bool
  | [name] => isLazyName name
  | _ => false

theorem hasLazy_call (name : List String) (args : List Expr) (expand : Bool) :
    hasLazy (.call name args expand) = (isLazyCall name || hasLazyAny args) := by
  match name with
  | [] => rfl
  | [name] => rfl
  | _ :: _ :: _ => rfl

theorem resolve_call {name : List String} (h : isLazyCall name = false) (scope : Scope) (args : List Expr)
    (expand : Bool) :
    resolve scope (.call name args expand) = do return .call name (← resolveAll scope args) expand := by
  match name, h with
  | [], _ => rfl
  | [name], h =>
    rw [isLazyCall] at h
    simp [resolve, h]
  | _ :: _ :: _, _ => rfl

theorem resolve_lazyCall {name : String} (h : isLazyName name = true) (scope : Scope) (args : List Expr)
    (expand : Bool) :
    resolve scope (.call [name] args expand) = do
      return .ofValue (← lazyResult (.call [name] args expand) name (argumentValues scope args)) := by
  simp [resolve, h]

def IsDirect : Expr → Prop
  | .listFor _ _ => False
  | .objectFor _ _ _ _ => False
  | _ => True

def IsDirectElement : Element → Prop
  | .forDirective _ _ _ _ _ _ => False
  | _ => True

/-- Lazy calls behind a full splat, which may have no values, can all be carried out. -/
def PromptPath (scope : Scope) : List Access → Prop
  | [] => True
  | .fullSplat :: rest => (resolvePath scope rest).isOk = true
  | _ :: rest => PromptPath scope rest

/-- Lazy calls where evaluation may not come can all be carried out. -/
def IsPrompt (scope : Scope) : Expr → Prop
  | .conditional _ t f => (resolve scope t).isOk = true ∧ (resolve scope f).isOk = true
  | .traversal _ path => PromptPath scope path
  | _ => True

def IsPromptElement (scope : Scope) : Element → Prop
  | .ifDirective _ t f? _ _ _ => (resolveElements scope t).isOk = true ∧ (resolveBranch scope f?).isOk = true
  | _ => True

/-- Resolving keeps all of an expression but its lazy calls. -/
def IsFaithful (scope : Scope) : Expr → Prop
  | .call name args _ => isLazyCall name = true → EverywhereAll (IsPrompt scope) (IsPromptElement scope) args
  | .object entries => ∀ resolved, resolveEntries scope [] entries = .ok resolved → resolved.length = entries.length
  | .template _ _ (some elements) => hasLazyElements elements = true → ∀ resolved,
    resolveElements scope elements = .ok resolved →
      Source.readTemplate (Display.elementsText resolved) = some resolved
  | _ => True

/-- An expression without loops. -/
def Direct (e : Expr) : Prop := e.Everywhere IsDirect IsDirectElement

/-- Lazy calls that fail fail the expression. -/
def Prompt (scope : Scope) (e : Expr) : Prop := e.Everywhere (IsPrompt scope) (IsPromptElement scope)

/-- Resolving keeps all but the lazy calls, everywhere. -/
def Faithful (scope : Scope) (e : Expr) : Prop := e.Everywhere (IsFaithful scope) fun _ => True

/-! Values in the places of calls -/

mutual

theorem group_ofValue : (v : Value) → (ofValue v).group = ofValue v
  | .null => rfl
  | .bool _ => rfl
  | .number _ => rfl
  | .string _ => rfl
  | .array items => by rw [ofValue, group, groupAll_ofValues items]
  | .object entries => by rw [ofValue, group, groupEntries_ofEntries entries]

theorem groupAll_ofValues : (items : List Value) → groupAll (ofValues items) = ofValues items
  | [] => rfl
  | v :: rest => by rw [ofValues, groupAll, group_ofValue v, groupAll_ofValues rest]

theorem groupEntries_ofEntries : (entries : List (String × Value)) → groupEntries (ofEntries entries) = ofEntries entries
  | [] => rfl
  | (key, v) :: rest => by
    simp [ofEntries, groupEntries, groupEntry, groupKey, group, group_ofValue v, groupEntries_ofEntries rest]

end

mutual

theorem eval_ofValue (scope : Scope) : (v : Value) → v.Keyed → ∀ within, eval scope within (ofValue v) = .ok v
  | .null, _ => fun _ => rfl
  | .bool _, _ => fun _ => rfl
  | .number _, _ => fun _ => rfl
  | .string _, _ => fun _ => rfl
  | .array items, h => by
    intro within
    rw [ofValue, eval, evalAll_ofValues scope items (Value.keyed_array.mp h)]
    rfl
  | .object entries, h => by
    intro within
    rw [Value.keyed_object] at h
    rw [ofValue, eval, evalEntries_ofEntries scope entries h.2 [] (by simpa using h.1)]
    rfl

theorem evalAll_ofValues (scope : Scope) : (items : List Value) → (∀ v ∈ items, v.Keyed) → ∀ within,
    evalAll scope within (ofValues items) = .ok items
  | [], _ => fun _ => rfl
  | v :: rest, h => by
    intro within
    rw [List.forall_mem_cons] at h
    rw [ofValues, evalAll, eval_ofValue scope v h.1, evalAll_ofValues scope rest h.2]
    rfl

theorem evalEntries_ofEntries (scope : Scope) : (entries : List (String × Value)) → (∀ e ∈ entries, e.2.Keyed) →
    ∀ done, ((done ++ entries).map (·.1)).Nodup → ∀ within this,
      evalEntries scope within this done (ofEntries entries) = .ok (done ++ entries)
  | [], _ => fun done _ within this => by rw [ofEntries, evalEntries, List.append_nil]
  | (key, v) :: rest, h => by
    intro done hnodup within this
    rw [List.forall_mem_cons] at h
    have hnew : key ∉ done.map (·.1) := by
      rw [List.map_append, List.map_cons, List.nodup_middle, List.nodup_cons, List.mem_append, not_or] at hnodup
      exact hnodup.1.1
    have hentry : evalEntry scope within this (.mk (.expr (.string key)) (ofValue v)) = .ok (key, v) := by
      rw [evalEntry, evalKey, eval, eval_ofValue scope v h.1]
      rfl
    have hrest := evalEntries_ofEntries scope rest h.2 (done ++ [(key, v)]) (by simpa using hnodup) within this
    rw [ofEntries, evalEntries, hentry]
    simpa [bind, Except.bind, insertEntry_of_notMem hnew] using hrest

end

/-! Chains of operators -/

def isBinary : Expr → Bool
  | .binary _ _ _ => true
  | _ => false

/-- Grouped expressions with the same operators, whose operands have the same values: those of the first by evaluation,
those of the second on demand. -/
inductive Agrees (scope : Scope) : Expr → Expr → Prop where
  | operand {a b : Expr} (left : a.isBinary = false) (right : b.isBinary = false)
      (same : ∀ within, (eval scope within a).toOption = demand scope b) : Agrees scope a b
  | binary {l l' r r' : Expr} (op : BinaryOp) (left : Agrees scope l l') (right : Agrees scope r r') :
      Agrees scope (.binary l op r) (.binary l' op r')

theorem Agrees.value {scope : Scope} {a b : Expr} (h : Agrees scope a b) (within : Expr) :
    (eval scope within a).toOption = demand scope b := by
  induction h generalizing within with
  | operand _ _ same => exact same within
  | binary op _ _ ihl ihr => simp only [eval, demand, toOption_bind, ihl, ihr, toOption_applyBinary]

theorem attach_of_not_binary {right : Expr} (h : right.isBinary = false) (left : Expr) (op : BinaryOp) :
    attach left op right = .binary left op right := by
  cases right with
  | binary l o r => cases h
  | _ => rfl

/-- Grouping takes both expressions the same way. -/
theorem Agrees.attach {scope : Scope} {l l' r r' : Expr} (hl : Agrees scope l l') (hr : Agrees scope r r')
    (op : BinaryOp) : Agrees scope (attach l op r) (attach l' op r') := by
  induction hr with
  | operand left right same =>
    rw [attach_of_not_binary left, attach_of_not_binary right]
    exact .binary op hl (.operand left right same)
  | binary o left right ihl _ =>
    simp only [Expr.attach]
    split
    · exact .binary o ihl right
    · exact .binary op hl (.binary o left right)

/-- Grouped expressions one of whose operands has no value on demand. -/
inductive Fails (scope : Scope) : Expr → Prop where
  | operand {e : Expr} (single : e.isBinary = false) (missing : demand scope e = none) : Fails scope e
  | left {l r : Expr} (op : BinaryOp) (h : Fails scope l) : Fails scope (.binary l op r)
  | right {l r : Expr} (op : BinaryOp) (h : Fails scope r) : Fails scope (.binary l op r)

theorem Fails.demand {scope : Scope} {e : Expr} (h : Fails scope e) : demand scope e = none := by
  induction h with
  | operand _ missing => exact missing
  | left op _ ih =>
    rw [Expr.demand, ih]
    rfl
  | @right l r op _ ih =>
    rw [Expr.demand, ih]
    cases Expr.demand scope l <;> rfl

/-- Grouping loses no operand. -/
theorem Fails.attach {scope : Scope} {left right : Expr} (op : BinaryOp) (h : Fails scope left ∨ Fails scope right) :
    Fails scope (attach left op right) := by
  fun_induction Expr.attach left op right with
  | case1 l o r _ ih =>
    rcases h with h | h
    · exact .left o (ih (.inl h))
    · cases h with
      | operand single => cases single
      | left _ h => exact .left o (ih (.inr h))
      | right _ h => exact .right o h
  | case2 l o r _ => exact h.elim (.left op) (.right op)
  | case3 right _ => exact h.elim (.left op) (.right op)

/-! Entries of objects -/

theorem length_insertKey_le (key : Key) (e : Expr) (done : List Entry) :
    (insertKey key e done).length ≤ done.length + 1 := by
  induction done with
  | nil => simp [insertKey]
  | cons first rest ih =>
    obtain ⟨k, v⟩ := first
    rw [insertKey]
    split
    · simp
    · simpa using ih

/-- An entry that is not written over another goes to the end. -/
theorem insertKey_of_length {key : Key} {e : Expr} {done : List Entry}
    (h : (insertKey key e done).length = done.length + 1) : insertKey key e done = done ++ [.mk key e] := by
  induction done with
  | nil => rfl
  | cons first rest ih =>
    obtain ⟨k, v⟩ := first
    rw [insertKey] at h ⊢
    split
    · rename_i hsame
      simp [hsame] at h
    · rename_i hother
      rw [if_neg hother] at h
      rw [ih (by simpa using h), List.cons_append]

/-- What an entry resolves to. -/
def EntryResolves (scope : Scope) (entry new : Entry) : Prop :=
  ∃ key e, new = .mk key e ∧ resolveEntry scope entry = .ok (key, e)

theorem length_resolveEntries_le {scope : Scope} {entries done all : List Entry}
    (h : resolveEntries scope done entries = .ok all) : all.length ≤ done.length + entries.length := by
  induction entries generalizing done with
  | nil =>
    rw [resolveEntries] at h
    cases h
    simp
  | cons entry rest ih =>
    rw [resolveEntries] at h
    obtain ⟨⟨key, e⟩, -, hrest⟩ := bind_eq_ok h
    have hfirst := length_insertKey_le key e done
    have hall := ih hrest
    rw [List.length_cons]
    omega

/-- Entries whose keys stay apart are resolved one by one. -/
theorem resolveEntries_apart {scope : Scope} {entries done all : List Entry}
    (h : resolveEntries scope done entries = .ok all) (hlength : all.length = done.length + entries.length) :
    ∃ new, all = done ++ new ∧ List.Forall₂ (EntryResolves scope) entries new := by
  induction entries generalizing done with
  | nil =>
    rw [resolveEntries] at h
    cases h
    exact ⟨[], by simp, .nil⟩
  | cons entry rest ih =>
    rw [resolveEntries] at h
    obtain ⟨⟨key, e⟩, hentry, hrest⟩ := bind_eq_ok h
    have hfirst := length_insertKey_le key e done
    have hall := length_resolveEntries_le hrest
    rw [List.length_cons] at hlength
    have hinsert : insertKey key e done = done ++ [.mk key e] := insertKey_of_length (by omega)
    obtain ⟨new, rfl, hnew⟩ := ih hrest (by rw [hinsert]; simp; omega)
    refine ⟨.mk key e :: new, ?_, .cons ⟨key, e, rfl, hentry⟩ hnew⟩
    rw [hinsert, List.append_assoc, List.singleton_append]

/-! Without lazy calls resolving changes nothing -/

theorem ok_of_not_lazy {scope : Scope} {entries : List Entry} (h : ∀ entry ∈ entries, ∃ key e, entry = .mk key e ∧
    resolveEntry scope entry = .ok (key, e)) (done : List Entry) :
    ∃ all, resolveEntries scope done entries = .ok all := by
  induction entries generalizing done with
  | nil => exact ⟨done, by rw [resolveEntries]⟩
  | cons entry rest ih =>
    obtain ⟨key, e, rfl, hentry⟩ := h entry List.mem_cons_self
    rw [resolveEntries, hentry]
    exact ih (fun entry hentry => h entry (List.mem_cons_of_mem _ hentry)) _

section NoLazyCalls

variable (scope : Scope)

mutual

theorem resolve_of_not_lazy : (e : Expr) → e.hasLazy = false → e.Faithful scope → resolve scope e = .ok e
  | .null, _, _ => rfl
  | .bool _, _, _ => rfl
  | .number _, _, _ => rfl
  | .string _, _, _ => rfl
  | .variable _, _, _ => rfl
  | .listFor _ _, _, _ => rfl
  | .objectFor _ _ _ _, _, _ => rfl
  | .template form source elements?, hlazy, _ => by
    rw [hasLazy] at hlazy
    rw [resolve, hlazy]
    rfl
  | .array items, hlazy, h => by
    rw [hasLazy] at hlazy
    rw [resolve, resolveAll_of_not_lazy items hlazy h.2]
    rfl
  | .object entries, hlazy, h => by
    rw [hasLazy] at hlazy
    have hentries := resolveEntry_of_not_lazy entries hlazy h.2
    obtain ⟨all, hall⟩ := ok_of_not_lazy hentries []
    obtain ⟨new, hnew', hnew⟩ := resolveEntries_apart hall (by simpa using h.1 all hall)
    have hsame : List.Forall₂ (· = ·) entries new := by
      refine ((List.forall₂_and_left entries new).mpr ⟨hentries, hnew⟩).imp ?_
      rintro entry new' ⟨⟨key, e, rfl, hentry⟩, key', e', rfl, hentry'⟩
      obtain ⟨rfl, rfl⟩ : key = key' ∧ e = e' := by simpa using hentry.symm.trans hentry'
      rfl
    rw [List.forall₂_eq_eq_eq] at hsame
    rw [resolve, hall, hnew', ← hsame]
    rfl
  | .traversal root path, hlazy, h => by
    simp only [hasLazy, Bool.or_eq_false_iff] at hlazy
    rw [resolve, resolve_of_not_lazy root hlazy.1 h.2.1, resolvePath_of_not_lazy path hlazy.2 h.2.2]
    rfl
  | .call name args expand, hlazy, h => by
    rw [hasLazy_call, Bool.or_eq_false_iff] at hlazy
    rw [resolve_call hlazy.1, resolveAll_of_not_lazy args hlazy.2 h.2]
    rfl
  | .parens inner, hlazy, h => by
    rw [hasLazy] at hlazy
    rw [resolve, resolve_of_not_lazy inner hlazy h.2]
    rfl
  | .conditional c t f, hlazy, h => by
    simp only [hasLazy, Bool.or_eq_false_iff] at hlazy
    rw [resolve, resolve_of_not_lazy c hlazy.1.1 h.2.1, resolve_of_not_lazy t hlazy.1.2 h.2.2.1,
      resolve_of_not_lazy f hlazy.2 h.2.2.2]
    rfl
  | .unary op e, hlazy, h => by
    rw [hasLazy] at hlazy
    rw [resolve, resolve_of_not_lazy e hlazy h.2]
    rfl
  | .binary l op r, hlazy, h => by
    simp only [hasLazy, Bool.or_eq_false_iff] at hlazy
    rw [resolve, resolve_of_not_lazy l hlazy.1 h.2.1, resolve_of_not_lazy r hlazy.2 h.2.2]
    rfl

theorem resolveAll_of_not_lazy : (es : List Expr) → hasLazyAny es = false →
    EverywhereAll (IsFaithful scope) (fun _ => True) es → resolveAll scope es = .ok es
  | [], _, _ => rfl
  | e :: rest, hlazy, h => by
    simp only [hasLazyAny, Bool.or_eq_false_iff] at hlazy
    rw [resolveAll, resolve_of_not_lazy e hlazy.1 h.1, resolveAll_of_not_lazy rest hlazy.2 h.2]
    rfl

theorem resolveEntry_of_not_lazy : (entries : List Entry) → hasLazyEntries entries = false →
    EverywhereEntries (IsFaithful scope) (fun _ => True) entries →
      ∀ entry ∈ entries, ∃ key e, entry = .mk key e ∧ resolveEntry scope entry = .ok (key, e)
  | [], _, _ => by simp
  | .mk key e :: rest, hlazy, h => by
    simp only [hasLazyEntries, hasLazyEntry, Bool.or_eq_false_iff] at hlazy
    rw [List.forall_mem_cons]
    refine ⟨⟨key, e, rfl, ?_⟩, resolveEntry_of_not_lazy rest hlazy.2 h.2⟩
    have he := resolve_of_not_lazy e hlazy.1.2 h.1.2
    match key, hlazy.1.1, h.1.1 with
    | .ident name, _, _ =>
      rw [resolveEntry, resolveKey, he]
      rfl
    | .expr k, hk, hkey =>
      rw [hasLazyKey] at hk
      rw [resolveEntry, resolveKey, resolve_of_not_lazy k hk hkey, he]
      rfl

theorem resolvePath_of_not_lazy : (path : List Access) → hasLazyPath path = false →
    EverywherePath (IsFaithful scope) (fun _ => True) path → resolvePath scope path = .ok path
  | [], _, _ => rfl
  | .index e :: rest, hlazy, h => by
    simp only [hasLazyPath, hasLazyAccess, Bool.or_eq_false_iff] at hlazy
    rw [resolvePath, resolveAccess, resolve_of_not_lazy e hlazy.1 h.1, resolvePath_of_not_lazy rest hlazy.2 h.2]
    rfl
  | .attribute _ :: rest, hlazy, h => by
    simp only [hasLazyPath, Bool.or_eq_false_iff] at hlazy
    rw [resolvePath, resolvePath_of_not_lazy rest hlazy.2 h.2]
    rfl
  | .legacyIndex _ :: rest, hlazy, h => by
    simp only [hasLazyPath, Bool.or_eq_false_iff] at hlazy
    rw [resolvePath, resolvePath_of_not_lazy rest hlazy.2 h.2]
    rfl
  | .attributeSplat :: rest, hlazy, h => by
    simp only [hasLazyPath, Bool.or_eq_false_iff] at hlazy
    rw [resolvePath, resolvePath_of_not_lazy rest hlazy.2 h.2]
    rfl
  | .fullSplat :: rest, hlazy, h => by
    simp only [hasLazyPath, Bool.or_eq_false_iff] at hlazy
    rw [resolvePath, resolvePath_of_not_lazy rest hlazy.2 h.2]
    rfl

end

mutual

theorem resolveElement_of_not_lazy : (element : Element) → hasLazyElement element = false →
    EverywhereElement (IsFaithful scope) (fun _ => True) element → resolveElement scope element = .ok element
  | .literal _, _, _ => rfl
  | .forDirective _ _ _ _ _ _, _, _ => rfl
  | .interpolation e strip, hlazy, h => by
    rw [hasLazyElement] at hlazy
    rw [resolveElement, resolve_of_not_lazy scope e hlazy h.2]
    rfl
  | .ifDirective c t f? _ _ _, hlazy, h => by
    simp only [hasLazyElement, Bool.or_eq_false_iff] at hlazy
    rw [resolveElement, resolve_of_not_lazy scope c hlazy.1.1 h.2.1,
      resolveElements_of_not_lazy t hlazy.1.2 h.2.2.1, resolveBranch_of_not_lazy f? hlazy.2 h.2.2.2]
    rfl

theorem resolveElements_of_not_lazy : (elements : List Element) → hasLazyElements elements = false →
    EverywhereElements (IsFaithful scope) (fun _ => True) elements → resolveElements scope elements = .ok elements
  | [], _, _ => rfl
  | element :: rest, hlazy, h => by
    simp only [hasLazyElements, Bool.or_eq_false_iff] at hlazy
    rw [resolveElements, resolveElement_of_not_lazy element hlazy.1 h.1, resolveElements_of_not_lazy rest hlazy.2 h.2]
    rfl

theorem resolveBranch_of_not_lazy : (elements? : Option (List Element)) → hasLazyBranch elements? = false →
    EverywhereBranch (IsFaithful scope) (fun _ => True) elements? → resolveBranch scope elements? = .ok elements?
  | none, _, _ => rfl
  | some elements, hlazy, h => by
    rw [hasLazyBranch] at hlazy
    rw [resolveBranch, resolveElements_of_not_lazy elements hlazy h]
    rfl

end

end NoLazyCalls

/-! Results of lazy calls -/

theorem toOption_firstValue (call : Expr) (last? : Option EvalError) (args : List (Except EvalError Value)) :
    (firstValue call last? args).toOption = args.findSome? Except.toOption := by
  induction args generalizing last? with
  | nil => cases last? <;> rfl
  | cons arg rest ih =>
    cases arg with
    | ok v => cases last? <;> rfl
    | error e => cases last? <;> exact ih (some e)

/-- A lazy call comes to its value on demand, if its arguments do. -/
theorem toOption_lazyResult {scope : Scope} {call : Expr} {name : String} (hname : isLazyName name = true)
    {args : List (Except EvalError Value)} {es : List Expr}
    (h : args.map Except.toOption = es.map (demand scope)) (expand : Bool) :
    (lazyResult call name args).toOption = demand scope (.call [name] es expand) := by
  unfold lazyResult
  by_cases hcan : name = "can"
  · subst hcan
    rw [if_pos rfl, demand, if_neg (by decide), if_pos rfl]
    match args, es, h with
    | [], [], _ => rfl
    | [arg], [e], h =>
      rw [demandOnly, ← (List.cons.inj h).1]
      cases arg <;> rfl
    | [_], _ :: _ :: _, h => simp at h
    | _ :: _ :: _, [_], h => simp at h
    | _ :: _ :: _, _ :: _ :: _, _ =>
      simp only [demandOnly]
      rfl
  · have htry : name = "try" := by simpa [isLazyName, hcan] using hname
    subst htry
    rw [if_neg hcan, demand, if_pos rfl, toOption_firstValue, demandFirst_eq]
    have hfirst := congrArg (List.findSome? id) h
    simpa [List.findSome?_map, Function.comp_def] using hfirst

end Expr

end Terrasmith
