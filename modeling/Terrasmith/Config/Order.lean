import Terrasmith.Config.Basic
import Terrasmith.Expr.References

/-!
The order in which declarations are carried out. A declaration comes after all declarations that it refers to
or names in `depends_on`; among those that are ready the first in load order goes first.
-/
namespace Terrasmith

open Source

mutual

/-- The references of the attributes of a structure, at any depth. -/
def Source.Structure.paths : Structure → List (List String)
  | .attribute a => a.value.expr.references
  | .block ⟨_, _, _, _, ⟨structures, _, _, _, _⟩, _, _⟩ => structuresPaths structures

def Source.structuresPaths : List Structure → List (List String)
  | [] => []
  | s :: rest => s.paths ++ structuresPaths rest

end

mutual

/-- A structure without the `asraw` blocks in it, none if it is one. -/
def Source.Structure.withoutRaw? : Structure → Option Structure
  | .attribute a => some (.attribute a)
  | .block ⟨lead, ident, identTrail, labels, ⟨structures, head, tail, oneLine, openEnd⟩, trail, span?⟩ =>
    if ident = "asraw" then none
    else some (.block ⟨lead, ident, identTrail, labels, ⟨withoutRaw structures, head, tail, oneLine, openEnd⟩, trail,
      span?⟩)

def Source.withoutRaw : List Structure → List Structure
  | [] => []
  | s :: rest => s.withoutRaw?.toList ++ withoutRaw rest

end

/-- The references of structures of a declaration. The content of `asraw` blocks is code for other files and refers to
no declaration. -/
def Source.structuresReferences (structures : List Structure) : List (List String) :=
  structuresPaths (withoutRaw structures)

/-- Why declarations cannot be ordered. -/
inductive OrderError where
  | dependsOnNotList (address : String)
  | dependsOnNotAddress (address : String) (entry : Expr)
  | unknownTarget (address : String) (path : List String)
  | cycle (addresses : List String)

def OrderError.message : OrderError → String
  | .dependsOnNotList address => address ++ ": `depends_on` must be a list"
  | .dependsOnNotAddress address entry =>
    address ++ ": `" ++ entry.display ++ "` in `depends_on` is not an address"
  | .unknownTarget address path => address ++ ": unknown `depends_on` target `" ++ Text.join "." path ++ "`"
  | .cycle addresses => "dependency cycle between " ++ Text.join ", " addresses

/-- The address of the declaration that a path leads to. -/
def addressOfPath? : List String → Option String
  | kind :: type :: name :: _ =>
    if kind = "data" || kind = "transform" then some (Declaration.addressOf kind type name) else none
  | _ => none

namespace Config

/-- The path that an entry of `depends_on` writes. -/
def entryPath (own : String) : Expr → Except OrderError (List String)
  | .traversal root path => .ok (Expr.referencePath root path)
  | .string address => .ok (Text.splitOn address ".")
  | e => .error (.dependsOnNotAddress own e)

/-- The declaration that an entry of `depends_on` names. -/
def dependsOnTarget (c : Config) (own : String) (entry : Expr) : Except OrderError String := do
  let path ← entryPath own entry
  match addressOfPath? path with
  | some address => if (c.get? address).isSome then .ok address else .error (.unknownTarget own path)
  | none => .error (.unknownTarget own path)

/-- The declarations named in `depends_on`. -/
def dependsOn (c : Config) (d : Declaration) : Except OrderError (List String) :=
  match d.body.attribute? "depends_on" with
  | none => .ok []
  | some a =>
    match a.value.expr with
    | .array entries => entries.mapM (c.dependsOnTarget d.address)
    | _ => .error (.dependsOnNotList d.address)

/-- The other declarations that a declaration refers to. -/
def referenced (c : Config) (d : Declaration) : List String :=
  (structuresReferences d.body.structures).filterMap fun path => do
    let address ← addressOfPath? path
    if address ≠ d.address && (c.get? address).isSome then some address else none

/-- The addresses of the declarations that have to be carried out before `d`. -/
def dependencies (c : Config) (d : Declaration) : Except OrderError (List String) := do
  return c.referenced d ++ (← c.dependsOn d)

/-- Orders the pending declarations behind those in `done`, taking the first one that is ready each time. -/
def orderFrom : (fuel : Nat) → (pending : List (Declaration × List String)) → (done : List String) →
    Except OrderError (List Declaration)
  | _, [], _ => .ok []
  | 0, pending, _ => .error (.cycle (pending.map fun (d, _) => d.address))
  | fuel + 1, pending, done =>
    match pending.findIdx? fun (_, dependencies) => dependencies.all done.contains with
    | none => .error (.cycle (pending.map fun (d, _) => d.address))
    | some index =>
      match pending[index]? with
      | none => .ok []
      | some (d, _) => do
        return d :: (← orderFrom fuel (pending.eraseIdx index) (d.address :: done))

/-- The declarations in the order in which they are carried out. -/
def order (c : Config) : Except OrderError (List Declaration) := do
  let pending ← c.declarations.mapM fun d => do return (d, ← c.dependencies d)
  orderFrom pending.length pending []

end Config

end Terrasmith
