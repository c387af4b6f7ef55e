import Terrasmith.Config.Order
import Terrasmith.Query.Basic
import Terrasmith.Transform.Decode

/-!
Running a configuration on a module. Declarations are carried out in their order, each seeing the values of
those before it. With `for_each` a declaration is carried out once for every entry of a map or item of a list.
-/
namespace Terrasmith

open Source

/-- Why the instances of a declaration cannot be told. -/
inductive ForEachError where
  | eval (e : EvalError)
  | notCollection (found : Value)

def ForEachError.message : ForEachError → String
  | .eval e => e.message
  | .notCollection found => "`for_each` must be a map or a list, found `" ++ found.sourceText ++ "`"

/-- Why a run fails. -/
inductive RunError where
  | order (e : OrderError)
  | forEach (address : String) (e : ForEachError)
  | query (address : String) (e : QueryError)
  | decode (address : String) (e : DecodeError)
  | apply (address : String) (key? : Option String) (e : TransformError)

/-- The message and those of its causes. -/
def RunError.chain : RunError → List String
  | .order e => [e.message]
  | .forEach address e => [address ++ ": failed to evaluate `for_each`", e.message]
  | .query address e => (address ++ ": query failed") :: e.chain
  | .decode address e => (address ++ ": failed to decode") :: e.chain
  | .apply address none e => [address ++ ": failed to apply", e.message]
  | .apply address (some key) e => [address ++ "[" ++ key ++ "]: failed to apply", e.message]

/-- One carrying out of a declaration: `each.key` and `each.value`. -/
structure Instance where
  key : Value
  value : Value

def Instance.text (i : Instance) : String := i.key.sourceText

/-- The values of the declarations carried out so far, by type and name. -/
structure Results where
  data : List (String × Value) := []
  transform : List (String × Value) := []

namespace Results

/-- The variables that a declaration sees. -/
def scope (r : Results) (each? : Option Instance) : Scope :=
  [("data", .object r.data), ("transform", .object r.transform)]
    ++ (each?.map fun i => ("each", Value.object [("key", i.key), ("value", i.value)])).toList

def insert (r : Results) (d : Declaration) (v : Value) : Results :=
  match d.kind with
  | .data => { r with data := Query.insertByType r.data d.type d.name v }
  | .transform => { r with transform := Query.insertByType r.transform d.type d.name v }

end Results

/-- Entries in the order of their keys. -/
def sortByKey (entries : List (String × Value)) : List (String × Value) :=
  entries.mergeSort fun a b => !(b.1 < a.1)

/-- The instances of a declaration; none without `for_each`. -/
def instances (d : Declaration) (scope : Scope) : Except ForEachError (Option (List Instance)) :=
  match d.body.attribute? "for_each" with
  | none => .ok none
  | some a =>
    match a.value.expr.evaluate scope with
    | .error e => .error (.eval e)
    | .ok (.object entries) => .ok (some ((sortByKey entries).map fun (key, v) => ⟨.string key, v⟩))
    | .ok (.array items) => .ok (some (items.map fun v => ⟨v, v⟩))
    | .ok v => .error (.notCollection v)

/-- How many declarations were carried out. -/
structure Summary where
  queries : Nat := 0
  transforms : Nat := 0
  deriving Repr, DecidableEq, Inhabited

/-- What a run changes: the module, and the calls of Terraform that were made. -/
structure Session where
  module : Module
  calls : List Provider.Call := []

/-- Steps of a run. When one fails, what was done before stays. -/
abbrev RunM := ExceptT RunError (StateM Session)

/-- The value of a query in one instance. -/
def runQuery (tool? : Option Provider.Tool) (d : Declaration) (scope : Scope) : RunM Value := do
  let session ← get
  let (calls, result) := Query.evaluate session.module tool? d.type d.body scope
  set { session with calls := session.calls ++ calls }
  match result with
  | .ok v => return v
  | .error e => throw (.query d.address e)

/-- The value of a query: that of its only instance, or those of its instances by key. -/
def runQueries (tool? : Option Provider.Tool) (d : Declaration) (results : Results) :
    Option (List Instance) → RunM Value
  | none => runQuery tool? d (results.scope none)
  | some instances => do
    let entries ← instances.mapM fun i => do
      return (i.text, ← runQuery tool? d (results.scope (some i)))
    return .object (insertEntries [] entries)

/-- The transform that a declaration asks for in one instance. -/
def decodeInstance (d : Declaration) (results : Results) (each? : Option Instance) : RunM Transform := do
  match Transform.decode d.type d.body (results.scope each?) (← get).module with
  | .ok t => return t
  | .error e => throw (.decode d.address e)

/-- Applies a transform. -/
def applyInstance (d : Declaration) (key? : Option String) (t : Transform) : RunM Unit := do
  let applied := t.apply (← get).module
  modify fun session => { session with module := applied.module }
  match applied.error? with
  | some e => throw (.apply d.address key? e)
  | none => return

/-- Reads the transforms of all instances and then applies them one after the other. -/
def runTransforms (d : Declaration) (results : Results) (instances? : Option (List Instance)) : RunM Nat := do
  let each := match instances? with
    | none => [none]
    | some instances => instances.map some
  let transforms ← each.mapM fun i? => do
    return (i?.map Instance.text, ← decodeInstance d results i?)
  transforms.forM fun (key?, t) => applyInstance d key? t
  return transforms.length

/-- The value of a transform: its address, or the addresses of its instances by key. -/
def transformValue (address : String) : Option (List Instance) → Value
  | none => .object [("id", .string address)]
  | some instances => .object (insertEntries [] (instances.map fun i =>
      (i.text, .object [("id", .string (address ++ "[" ++ i.text ++ "]"))])))

/-- Carries out one declaration. -/
def runDeclaration (tool? : Option Provider.Tool) (d : Declaration) (done : Results × Summary) :
    RunM (Results × Summary) := do
  let (results, summary) := done
  match instances d (results.scope none) with
  | .error e => throw (.forEach d.address e)
  | .ok instances? =>
    match d.kind with
    | .data =>
      let v ← runQueries tool? d results instances?
      return (results.insert d v, { summary with queries := summary.queries + 1 })
    | .transform =>
      let count ← runTransforms d results instances?
      return (results.insert d (transformValue d.address instances?),
        { summary with transforms := summary.transforms + count })

/-- Carries out all declarations of a configuration. -/
def Config.run (c : Config) (tool? : Option Provider.Tool) : RunM Summary := do
  match c.order with
  | .error e => throw (.order e)
  | .ok declarations =>
    let (_, summary) ← declarations.foldlM (fun done d => runDeclaration tool? d done) ({}, {})
    return summary

end Terrasmith
