import Terrasmith.Proofs.Evaluation
import Terrasmith.Proofs.Reading

/-!
Calls of `try` in loops. Such a call is not carried out beforehand; a function of the same name stands in for it when
the loop is evaluated. The function is given all values at once, so it can no longer tell which argument has one, and
takes the first that is not null.
-/
namespace Terrasmith

namespace Expr

/-! ### The value of a call that is not carried out -/

variable {scope : Scope} {x : String} {args : List Expr} {values : List Value} {u v : Value} {expand : Bool}

/-- Arguments of a call that is evaluated have their values without any lazy call in them carried out. -/
theorem evalAll_eq_ok (within : Expr) :
    evalAll scope within (groupAll args) = .ok values ↔
      List.Forall₂ (fun e v => value scope e = .ok v) args values := by
  induction args generalizing values with
  | nil =>
    rw [groupAll, evalAll, List.forall₂_nil_left_iff, Except.ok.injEq, eq_comm]
  | cons e rest ih =>
    rw [groupAll, evalAll, List.forall₂_cons_left_iff]
    constructor
    · intro h
      obtain ⟨v, hv, h⟩ := bind_eq_ok h
      obtain ⟨vs, hvs, h⟩ := bind_eq_ok h
      cases h
      exact ⟨v, vs, (value_eq_ok e within).mpr hv, ih.mp hvs, rfl⟩
    · rintro ⟨v, vs, hv, hvs, rfl⟩
      rw [(value_eq_ok e within).mp hv, ih.mpr hvs]
      rfl

/-- What the function that stands in for `try` makes of the values of its arguments. -/
def standIn (expand : Bool) (values : List Value) : Option Value :=
  (unblamed (expandLast · expand values)).bind fun values => values.find? fun v => !v.isNull

/-- A loop with one round. -/
def once (x : String) (e : Expr) : Expr :=
  .listFor (.mk none x (.array [.number (.int 0)]) none) e

/-- The arguments of a call do not mention a variable. -/
def Omit (x : String) (args : List Expr) : Prop := ∀ path ∈ allReferences args, path.head? ≠ some x

theorem Omit.alike (h : Omit x args) (v : Value) :
    AllAlike ((x, v) :: scope) scope (allReferences (groupAll args)) := by
  intro path hpath
  match path, h path (allReferences_group args hpath) with
  | [], _ => trivial
  | name :: attributes, hname =>
    intro within
    have hne : (name == x) = false := by simpa using hname
    rw [List.lookup_cons, hne]

/-- The first value that is not null. -/
def firstKept (values : List Value) : Function.Result :=
  match values.find? fun v => !v.isNull with
  | some v => .ok v
  | none => .error .noneEvaluated

theorem toOption_firstKept (values : List Value) : (firstKept values).toOption = values.find? fun v => !v.isNull := by
  unfold firstKept
  cases values.find? fun v => !v.isNull <;> rfl

theorem function?_try : function? ["try"] = some (Function.variadic 0 firstKept) := rfl

theorem toOption_try (within : Expr) :
    (eval scope within (.call ["try"] args expand)).toOption =
      (evalAll scope (.call ["try"] args expand) args).toOption.bind (standIn expand) := by
  have hcall : ∀ values, (callFunction within ["try"] (Function.variadic 0 firstKept) values).toOption =
      values.find? fun v => !v.isNull := by
    intro values
    rw [← toOption_firstKept]
    unfold callFunction
    have hfirst : (Function.variadic 0 firstKept).call values = firstKept values := rfl
    rw [hfirst]
    cases firstKept values <;> rfl
  rw [eval, function?_try]
  simp only [toOption_bind, toOption_expandLast, hcall]
  rfl

/-- The only round of a loop gives the only item. -/
theorem eval_once (within : Expr) (e : Expr) :
    (eval scope within (once x e)).toOption =
      ((eval ((x, .number (.int 0)) :: scope) (once x e) e).toOption).map fun v => .array [v] := by
  have hitems : eval scope (once x e) (.array [.number (.int 0)]) = .ok (.array [.number (.int 0)]) := rfl
  have hscopes : loopScopes within scope none x (.array [.number (.int 0)]) =
      .ok [(x, .number (.int 0)) :: scope] := rfl
  rw [once] at hitems ⊢
  rw [eval, hitems]
  simp only [bind, Except.bind, hscopes, List.mapM_cons, List.mapM_nil]
  cases eval ((x, .number (.int 0)) :: scope) (.listFor (.mk none x (.array [.number (.int 0)]) none) e) e <;> rfl

/-- In the loop, a call has the value that the function gives it. -/
theorem evaluate_once (h : Omit x args) (expand : Bool) (v : Value) :
    evaluate scope (once x (.call ["try"] args expand)) = .ok (.array [v]) ↔
      ∃ values, List.Forall₂ (fun e v => value scope e = .ok v) args values ∧ standIn expand values = some v := by
  have hloop : evaluate scope (once x (.call ["try"] args expand)) =
      value scope (once x (.call ["try"] args expand)) := rfl
  have hgroup : (once x (.call ["try"] args expand)).group = once x (.call ["try"] (groupAll args) expand) := rfl
  rw [hloop, ok_iff_toOption, toOption_value, hgroup, eval_once, toOption_try, evalAll_alike _ (h.alike _)]
  simp only [Option.map_eq_some_iff, Option.bind_eq_some_iff, ← ok_iff_toOption, evalAll_eq_ok]
  constructor
  · rintro ⟨u, ⟨values, hvalues, hu⟩, ⟨⟩⟩
    exact ⟨values, hvalues, hu⟩
  · rintro ⟨values, hvalues, hv⟩
    exact ⟨v, ⟨values, hvalues, hv⟩, rfl⟩

/-! ### The two values of a call -/

theorem value_ofValue (hv : v.Keyed) : value scope (ofValue v) = .ok v := by
  rw [value_eq_ok _ .null, group_ofValue, eval_ofValue scope v hv]

/-- Carried out beforehand, a call has the value of its first argument if that has one. -/
theorem evaluate_try (hscope : ∀ p ∈ scope, p.2.Keyed) {e : Expr} (he : evaluate scope e = .ok v) (rest : List Expr)
    (expand : Bool) : evaluate scope (.call ["try"] (e :: rest) expand) = .ok v := by
  have hfirst : lazyResult (.call ["try"] (e :: rest) expand) "try" (argumentValues scope (e :: rest)) = .ok v := by
    rw [argumentValues, show resolve scope e >>= value scope = .ok v from he]
    rfl
  have hresolve : resolve scope (.call ["try"] (e :: rest) expand) = .ok (ofValue v) := by
    rw [resolve_lazyCall rfl, hfirst]
    rfl
  rw [evaluate, hresolve]
  exact value_ofValue (keyed_evaluate hscope he)

/-- An array is none of its items. -/
theorem notMem_array {items : List Value} : Value.array items ∉ items := by
  intro h
  have hlt := List.sizeOf_lt_of_mem h
  rw [Value.array.sizeOf_spec] at hlt
  omega

theorem find?_kept {first : Value} {rest : List Value} :
    (first :: rest).find? (fun v => !v.isNull) = some first ↔ first ≠ .null := by
  cases first with
  | null =>
    refine iff_of_false (fun h => ?_) (not_not_intro rfl)
    cases List.find?_some h
  | _ => exact iff_of_true rfl nofun

theorem standIn_expanded {front : List Value} {last : Value} :
    standIn true (front ++ [last]) = some v ↔
      ∃ items, last = .array items ∧ (front ++ items).find? (fun v => !v.isNull) = some v := by
  rw [standIn, unblamed]
  cases last with
  | array items => simp [expandLast, Except.toOption]
  | _ => simp [expandLast, unexpected, fail, Except.toOption]

/-- The function takes the first value if that is not null and stays where it is when the last value is expanded. -/
theorem standIn_first {first : Value} {rest : List Value} :
    standIn expand (first :: rest) = some first ↔
      first ≠ .null ∧ (expand = true → ∃ items, rest.getLast? = some (.array items)) := by
  cases expand with
  | false =>
    simp only [Bool.false_eq_true, false_implies, and_true]
    exact find?_kept
  | true =>
    rcases List.eq_nil_or_concat rest with rfl | ⟨front, last, rfl⟩
    · -- The items of the only argument take its place.
      have honly := @standIn_expanded first [] first
      rw [List.nil_append] at honly
      simp only [honly, List.getLast?_nil, reduceCtorEq, exists_false, imp_false, not_true_eq_false, and_false,
        iff_false]
      rintro ⟨items, rfl, hfound⟩
      exact notMem_array (List.mem_of_find?_eq_some hfound)
    · rw [List.concat_eq_append, ← List.cons_append, standIn_expanded]
      simp only [List.cons_append, find?_kept, List.getLast?_concat, Option.some.injEq, forall_const]
      tauto

/-- Outside of loops a call of `try` has the value of its first argument, if all arguments have one. In a loop it has
the value that the function gives for all of them, with none of the lazy calls in them carried out beforehand. If these
make no difference, both are the same exactly if the first value is not null and, where the last value is expanded, that
is another one and a list. -/
theorem try_in_loop_iff {first : Value} {rest : List Value} (hscope : ∀ p ∈ scope, p.2.Keyed) (homit : Omit x args)
    (hvalues : List.Forall₂ (fun e v => evaluate scope e = .ok v) args (first :: rest)) (expand : Bool) :
    evaluate scope (.call ["try"] args expand) = .ok first ∧
    (∀ v, evaluate scope (once x (.call ["try"] args expand)) = .ok (.array [v]) ↔
      ∃ values, List.Forall₂ (fun e v => value scope e = .ok v) args values ∧ standIn expand values = some v) ∧
    ((∀ e ∈ args, value scope e = evaluate scope e) →
      (evaluate scope (once x (.call ["try"] args expand)) = .ok (.array [first]) ↔
        first ≠ .null ∧ (expand = true → ∃ items, rest.getLast? = some (.array items)))) := by
  refine ⟨?_, evaluate_once homit expand, fun hsame => ?_⟩
  · obtain ⟨e, es, he, -, rfl⟩ := List.forall₂_cons_right_iff.mp hvalues
    exact evaluate_try hscope he es expand
  · -- The arguments have one list of values only.
    have hbare : List.Forall₂ (fun e v => value scope e = .ok v) args (first :: rest) :=
      ((List.forall₂_and_left args (first :: rest)).mpr ⟨hsame, hvalues⟩).imp fun _ _ h => h.1.trans h.2
    have hunique : Relator.RightUnique fun e v => value scope e = .ok v := fun _ _ _ hu hv =>
      Except.ok.inj (hu.symm.trans hv)
    rw [evaluate_once homit, ← standIn_first]
    constructor
    · rintro ⟨values, hother, hv⟩
      exact hunique.forall₂ hother hbare ▸ hv
    · exact fun hv => ⟨first :: rest, hbare, hv⟩

/-- A list of which the last value is expanded, after a variable. -/
theorem try_in_loop_iff_expanded :
    (∀ p ∈ [("v", Value.string "a")], p.2.Keyed) ∧ Omit "x" [.variable "v", .array [.number (.int 1)]] ∧
    (evaluate [("v", .string "a")] (once "x" (.call ["try"] [.variable "v", .array [.number (.int 1)]] true)) =
      .ok (.array [.string "a"])) := by
  have hscope : ∀ p ∈ [("v", Value.string "a")], p.2.Keyed := by simp
  have homit : Omit "x" [.variable "v", .array [.number (.int 1)]] := by
    unfold Omit
    decide
  have hsame : ∀ e ∈ [.variable "v", .array [.number (.int 1)]],
      value [("v", .string "a")] e = evaluate [("v", .string "a")] e :=
    List.forall_mem_cons.mpr ⟨rfl, List.forall_mem_singleton.mpr rfl⟩
  have h := try_in_loop_iff hscope homit (.cons rfl (.cons rfl .nil)) true
  exact ⟨hscope, homit, (h.2.2 hsame).mpr ⟨nofun, fun _ => ⟨_, rfl⟩⟩⟩

/-- A null in front has no part in the loop, and of a list that is expanded only the first item is left. -/
theorem try_in_loop_differs :
    evaluate [] (.call ["try"] [.null, .number (.int 1)] false) = .ok .null ∧
    evaluate [] (once "x" (.call ["try"] [.null, .number (.int 1)] false)) = .ok (.array [.number (.int 1)]) ∧
    evaluate [] (.call ["try"] [.array [.string "a", .string "b"]] true) =
      .ok (.array [.string "a", .string "b"]) ∧
    evaluate [] (once "x" (.call ["try"] [.array [.string "a", .string "b"]] true)) = .ok (.array [.string "a"]) :=
  ⟨rfl, rfl, rfl, rfl⟩

end Expr

end Terrasmith
