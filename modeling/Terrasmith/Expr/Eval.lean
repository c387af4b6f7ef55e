import Terrasmith.Expr.Fault
import Terrasmith.Expr.Grouping
import Terrasmith.Expr.Strip
import Terrasmith.Function.Basic

/-!
The value of a grouped expression. A failure names the expression that directly encloses the failing one.
-/
namespace Terrasmith

/-- The variables in scope, the nearest first. -/
abbrev Scope := List (String × Value)

abbrev Outcome := Except Fault Value

namespace Expr

def fail {α : Type} (within : Expr) (cause : Cause) : Except Fault α := .error (.caused cause within)

def unexpected {α : Type} (within : Expr) (found : Value) (wanted : Wanted) : Except Fault α :=
  fail within (.unexpected found wanted)

def asBool (within : Expr) : Value → Except Fault Bool
  | .bool b => .ok b
  | v => unexpected within v .boolean

/-- The text of a value in the place of a key. -/
def asKey (within : Expr) (v : Value) : Except Fault String :=
  match v.primitiveText? with
  | some text => .ok text
  | none => unexpected within v .keyText

/-- The entry of an object. -/
def entryOf (within : Expr) (v : Value) (key : String) : Outcome :=
  match v with
  | .object entries =>
    match entries.lookup key with
    | some v => .ok v
    | none => fail within (.noSuchKey key)
  | _ => unexpected within v .object

/-- The item of an array. -/
def itemOf (within : Expr) (v : Value) (index : Nat) : Outcome :=
  match v with
  | .array items =>
    match items[index]? with
    | some v => .ok v
    | none => fail within (.outOfBounds index)
  | _ => unexpected within v .array

/-- What `v[index]` denotes. -/
def elementOf (within : Expr) (v index : Value) : Outcome :=
  match index with
  | .string key => entryOf within v key
  | .number n =>
    match n.toNat? with
    | some i => itemOf within v i
    | none => unexpected within index .index
  | _ => unexpected within index .indexOrKey

/-- The values that a splat goes over. -/
def splatItems : Value → List Value
  | .null => []
  | .array items => items
  | v => [v]

def applyUnary (within : Expr) : UnaryOp → Value → Outcome
  | .neg, .number n => .ok (.number n.neg)
  | .not, .bool b => .ok (.bool !b)
  | op, v => fail within (.unaryOp op v)

def applyBinary (within : Expr) : BinaryOp → Value → Value → Outcome
  | .eq, a, b => .ok (.bool (a.same b))
  | .ne, a, b => .ok (.bool !(a.same b))
  | .and, .bool a, .bool b => .ok (.bool (a && b))
  | .or, .bool a, .bool b => .ok (.bool (a || b))
  | .lt, .number a, .number b => .ok (.bool (a.lt b))
  | .le, .number a, .number b => .ok (.bool (a.le b))
  | .gt, .number a, .number b => .ok (.bool (b.lt a))
  | .ge, .number a, .number b => .ok (.bool (b.le a))
  | .add, .number a, .number b => .ok (.number (a.add b))
  | .sub, .number a, .number b => .ok (.number (a.sub b))
  | .mul, .number a, .number b => .ok (.number (a.mul b))
  | .div, .number a, .number b => .ok (.number (a.div b))
  | .mod, .number a, .number b => .ok (.number (a.mod b))
  | op, a, b => fail within (.binaryOp op a b)

/-- A scope with the variables of one round of a loop. -/
def bindLoop (scope : Scope) (key? : Option String) (value : String) (k v : Value) : Scope :=
  (value, v) :: ((key?.map fun key => (key, k)).toList ++ scope)

/-- The scopes of the rounds of a loop over a collection. -/
def loopScopes (within : Expr) (scope : Scope) (key? : Option String) (value : String) :
    Value → Except Fault (List Scope)
  | .array items => .ok (items.zipIdx.map fun (v, i) => bindLoop scope key? value (.ofNat i) v)
  | .object entries => .ok (entries.map fun (k, v) => bindLoop scope key? value (.string k) v)
  | v => unexpected within v .collection

/-- Adds an entry computed by a loop. Grouping collects the values of a key in a list; without it a key may
occur only once. -/
def addLoopEntry (within : Expr) (grouping : Bool) (entries : List (String × Value)) (key : String) (v : Value) :
    Except Fault (List (String × Value)) :=
  match grouping, entries.lookup key with
  | true, some (.array items) => .ok (insertEntry key (.array (items ++ [v])) entries)
  | true, _ => .ok (insertEntry key (.array [v]) entries)
  | false, some _ => fail within (.keyExists key)
  | false, none => .ok (entries ++ [(key, v)])

def callFunction (within : Expr) (name : List String) (b : Function.Builtin) (args : List Value) : Outcome :=
  match b.call args with
  | .ok v => .ok v
  | .error fault => fail within (.call name fault)

/-- Functions are found by names without a namespace. -/
def function? : List String → Option Function.Builtin
  | [name] => Function.builtin? name
  | _ => none

/-- Arguments with the last one replaced by its items, if it is expanded. -/
def expandLast (within : Expr) (expand : Bool) (args : List Value) : Except Fault (List Value) :=
  match expand, args.getLast? with
  | true, some (.array items) => .ok (args.dropLast ++ items)
  | true, some v => unexpected within v .array
  | _, _ => .ok args

/-- How a value is inserted into a template. -/
def inserted : Value → String
  | .string s => s
  | v => v.display

/-- The entry that a path of attributes leads to. -/
def entryAt (within : Expr) (v : Value) (names : List String) : Outcome :=
  names.foldlM (entryOf within) v

/-- The place in a traversal: at one value, or at a path of attributes below each of the values of a splat. -/
inductive Focus where
  | one (v : Value)
  | each (items : List Value) (names : List String)

/-- The value at a place. The values of a splat are looked at one after the other. -/
def Focus.value (within : Expr) : Focus → Outcome
  | .one v => .ok v
  | .each items names => do return .array (← items.mapM (entryAt within · names))

/-- The place at an attribute. -/
def Focus.attribute (within : Expr) (name : String) : Focus → Except Fault Focus
  | .one v => do return .one (← entryOf within v name)
  | .each items names => .ok (.each items (names ++ [name]))

mutual

/-- The value of an expression; failures of the expression itself are blamed on `within`. -/
def eval (scope : Scope) (within : Expr) : Expr → Outcome
  | .null => .ok .null
  | .bool b => .ok (.bool b)
  | .number n => .ok (.number n)
  | .string s => .ok (.string s)
  | .template _ _ none => .error .unreadable
  | .template form source (some [.interpolation e strip]) =>
    eval scope (.template form source (some [.interpolation e strip])) e
  | .template form source (some elements) => do
    return .string (← evalElements scope within (.template form source (some elements)) {} false elements)
  | .array items => do return .array (← evalAll scope (.array items) items)
  | .object entries => do return .object (← evalEntries scope within (.object entries) [] entries)
  | .variable name =>
    match scope.lookup name with
    | some v => .ok v
    | none => fail within (.undefinedVariable name)
  | .traversal root path => do
    let v ← eval scope (.traversal root path) root
    evalPath scope within (.traversal root path) (.one v) path
  | .call name args expand =>
    match function? name with
    | none => fail within (.undefinedFunction name)
    | some b => do
      let values ← evalAll scope (.call name args expand) args
      callFunction within name b (← expandLast within expand values)
  | .parens inner => eval scope (.parens inner) inner
  | .conditional c t f => do
    let v ← eval scope (.conditional c t f) c
    if ← asBool within v then eval scope (.conditional c t f) t
    else eval scope (.conditional c t f) f
  | .unary op e => do applyUnary within op (← eval scope (.unary op e) e)
  | .binary l op r => do
    let a ← eval scope (.binary l op r) l
    let b ← eval scope (.binary l op r) r
    applyBinary within op a b
  | .listFor (.mk key? value collection condition?) e => do
    let this := Expr.listFor (.mk key? value collection condition?) e
    let scopes ← loopScopes within scope key? value (← eval scope this collection)
    let results ← scopes.mapM fun scope => do
      if ← evalCondition scope this condition? then return [← eval scope this e] else return []
    return .array results.flatten
  | .objectFor (.mk key? value collection condition?) k e grouping => do
    let this := Expr.objectFor (.mk key? value collection condition?) k e grouping
    let scopes ← loopScopes within scope key? value (← eval scope this collection)
    let entries ← scopes.foldlM (fun entries scope => do
      if ← evalCondition scope this condition? then
        let key ← asKey this (← eval scope this k)
        let v ← eval scope this e
        addLoopEntry this grouping entries key v
      else return entries) []
    return .object entries
termination_by structural x => x

def evalAll (scope : Scope) (within : Expr) : List Expr → Except Fault (List Value)
  | [] => .ok []
  | e :: rest => do
    let v ← eval scope within e
    return v :: (← evalAll scope within rest)
termination_by structural x => x

/-- Whether the condition of a loop holds in a round. -/
def evalCondition (scope : Scope) (loop : Expr) : Option Expr → Except Fault Bool
  | none => .ok true
  | some c => do asBool loop (← eval scope loop c)
termination_by structural x => x

def evalKey (scope : Scope) (within this : Expr) : Key → Except Fault String
  | .ident name => .ok name
  | .expr e => do asKey within (← eval scope this e)
termination_by structural x => x

def evalEntry (scope : Scope) (within this : Expr) : Entry → Except Fault (String × Value)
  | .mk key e => do
    let key ← evalKey scope within this key
    return (key, ← eval scope this e)
termination_by structural x => x

/-- Entries written over those in `done`. -/
def evalEntries (scope : Scope) (within this : Expr) (done : List (String × Value)) :
    List Entry → Except Fault (List (String × Value))
  | [] => .ok done
  | entry :: rest => do
    let (key, v) ← evalEntry scope within this entry
    evalEntries scope within this (insertEntry key v done) rest
termination_by structural x => x

/-- Follows a path. A splat over attributes goes on with the attributes that follow it, a full splat with all
the rest. -/
def evalPath (scope : Scope) (within this : Expr) (focus : Focus) : List Access → Outcome
  | [] => focus.value within
  | .attribute name :: rest => do evalPath scope within this (← focus.attribute within name) rest
  | .index e :: rest => do
    let v ← focus.value within
    let index ← eval scope this e
    evalPath scope within this (.one (← elementOf within v index)) rest
  | .legacyIndex n :: rest => do
    let v ← focus.value within
    evalPath scope within this (.one (← itemOf within v n)) rest
  | .attributeSplat :: rest => do
    let v ← focus.value within
    evalPath scope within this (.each (splatItems v) []) rest
  | .fullSplat :: rest => do
    let v ← focus.value within
    return .array (← (splatItems v).mapM fun v => evalPath scope within this (.one v) rest)
termination_by structural x => x

/-- The text of the elements of a template. `last` is the strip of the element before, `stop` tells whether the
end of the last literal is stripped. -/
def evalElements (scope : Scope) (within this : Expr) (last : Strip) (stop : Bool) :
    List Element → Except Fault String
  | [] => .ok ""
  | e :: rest => do
    let text ← evalElement scope within this (last.after, stripsBefore stop rest) e
    return text ++ (← evalElements scope within this e.outer stop rest)
termination_by structural x => x

/-- The text of one element; `strips` tells how its neighbours strip a literal. Failures in the rounds of a loop
are blamed on the template. -/
def evalElement (scope : Scope) (within this : Expr) (strips : Bool × Bool) : Element → Except Fault String
  | .literal text => .ok (stripLiteral strips.1 strips.2 text)
  | .interpolation e _ => do return inserted (← eval scope this e)
  | .ifDirective c t f? ifStrip elseStrip endStrip => do
    if ← asBool within (← eval scope this c) then
      evalElements scope within this ⟨false, ifStrip.after⟩
        (if f?.isSome then elseStrip.before else endStrip.before) t
    else evalBranch scope within this ⟨false, elseStrip.after⟩ endStrip.before f?
  | .forDirective key? value collection body forStrip endStrip => do
    let scopes ← loopScopes within scope key? value (← eval scope this collection)
    let rounds ← scopes.mapM fun scope =>
      evalElements scope this this ⟨false, forStrip.after⟩ endStrip.before body
    return String.join rounds
termination_by structural x => x

def evalBranch (scope : Scope) (within this : Expr) (last : Strip) (stop : Bool) :
    Option (List Element) → Except Fault String
  | none => .ok ""
  | some elements => evalElements scope within this last stop elements
termination_by structural x => x

end

end Expr

end Terrasmith
