import Terrasmith.Expr.Lazy
import Terrasmith.Source.Merge

/-!
Patches: bodies computed from the bodies of declarations. The content of `asraw` blocks is taken as it is
written; the content of `asstring` blocks and every other attribute is evaluated, and its value is read as the
source of an expression.
-/
namespace Terrasmith

open Source

/-- Why a patch cannot be computed. -/
inductive PatchError where
  | eval (e : EvalError)
  | invalid (e : InvalidExpression)

def PatchError.message : PatchError → String
  | .eval e => e.message
  | .invalid e => e.message

/-- Names with a meaning for the declaration itself. -/
def reservedNames : List String := ["target_block_address", "for_each", "depends_on", "asraw", "asstring"]

/-- The attribute whose value is written by the value of the given one. -/
def evaluatedAttribute (scope : Scope) (a : Attribute) : Except PatchError Attribute :=
  match a.value.expr.evaluate scope with
  | .error e => .error (.eval e)
  | .ok v =>
    match parseAttribute a.key v.sourceText with
    | .ok a => .ok a
    | .error e => .error (.invalid e)

mutual

/-- Adds what a structure of a declaration asks for to a patch. Reserved names are passed over at the top. -/
def patchStructure (scope : Scope) (top : Bool) (patch : Body) : Structure → Except PatchError Body
  | .attribute a =>
    if top && reservedNames.contains a.key then .ok patch
    else do return patch.setAttribute (← evaluatedAttribute scope a)
  | .block ⟨_, ident, identTrail, labels, ⟨structures, _, _, _, _⟩, _, _⟩ =>
    if ident = "asraw" then .ok (patch.mergeStructures structures)
    else if ident = "asstring" then patchStructures scope false patch structures
    else if top && reservedNames.contains ident then .ok patch
    else do
      let body ← patchStructures scope false {} structures
      return patch.pushBlock { ident, identTrail, labels, body }
termination_by structural x => x

def patchStructures (scope : Scope) (top : Bool) (patch : Body) : List Structure → Except PatchError Body
  | [] => .ok patch
  | s :: rest => do
    let patch ← patchStructure scope top patch s
    patchStructures scope top patch rest
termination_by structural x => x

end

/-- The patch that the body of a declaration describes. -/
def buildPatch (scope : Scope) (body : Body) : Except PatchError Body :=
  patchStructures scope true {} body.structures

end Terrasmith
