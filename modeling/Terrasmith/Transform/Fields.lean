import Terrasmith.Module.Basic
import Terrasmith.Transform.Patch

/-!
The fields of a declaration, read as values of the kinds that they should have.
-/
namespace Terrasmith

open Source

/-- Fields that do not go together or cannot be used. -/
inductive Conflict where
  | unsupportedBlockType (type : String)
  | labelCount (type : String) (expected found : Nat)
  | notModuleFile (name : String)
  | bothValues
  | noValue
  | emptyPath
  deriving Repr, DecidableEq

def Conflict.message : Conflict → String
  | .unsupportedBlockType type => "`" ++ type ++ "` is not a supported block type"
  | .labelCount type expected found =>
    "`" ++ type ++ "` blocks take " ++ Number.natText expected ++ " labels, found " ++ Number.natText found
  | .notModuleFile name => "`" ++ name ++ "` must be a .tf file name in the module directory"
  | .bothValues => "only one of `value_as_string` and `asraw \x7b value = ... \x7d` can be set"
  | .noValue => "one of `value_as_string` and `asraw \x7b value = ... \x7d` must be set"
  | .emptyPath => "`attribute_path` must not be empty"

/-- Why a declaration cannot be read. -/
inductive DecodeError where
  | unknownType (type : String)
  | missingField (declaration field : String)
  | wrongType (declaration field expected : String) (found : Value)
  | conflict (declaration : String) (c : Conflict)
  | invalidIdentifier (name : String)
  | blockNotFound (address : String)
  | eval (e : EvalError)
  | invalidExpression (e : InvalidExpression)
  | invalidBody (e : InvalidBody)
  | invalidRegex

def DecodeError.message : DecodeError → String
  | .unknownType type => "unknown transform type `" ++ type ++ "`"
  | .missingField declaration field => declaration ++ ": missing field `" ++ field ++ "`"
  | .wrongType declaration field expected found =>
    declaration ++ ": field `" ++ field ++ "` must be " ++ expected ++ ", found " ++ found.sourceText
  | .conflict declaration c => declaration ++ ": " ++ c.message
  | .invalidIdentifier name => "`" ++ name ++ "` is not a valid identifier"
  | .blockNotFound address => "target block `" ++ address ++ "` not found"
  | .eval e => e.message
  | .invalidExpression e => e.message
  | .invalidBody e => e.message
  | .invalidRegex => "invalid regex"

/-- The message and those of its causes. -/
def DecodeError.chain (e : DecodeError) : List String :=
  match e with
  | .invalidRegex => [e.message, "<regex error>"]
  | _ => [e.message]

def DecodeError.ofPatch : PatchError → DecodeError
  | .eval e => .eval e
  | .invalid e => .invalidExpression e

/-- The body of a declaration of a type, with the variables that it is evaluated with. -/
structure Fields where
  type : String
  body : Body
  scope : Scope

namespace Fields

def has (f : Fields) (name : String) : Bool := f.body.hasAttribute name

/-- The value of a field that may be missing. -/
def value? (f : Fields) (name : String) : Except DecodeError (Option Value) :=
  match f.body.attribute? name with
  | none => .ok none
  | some a =>
    match a.value.expr.evaluate f.scope with
    | .ok v => .ok (some v)
    | .error e => .error (.eval e)

/-- A string field; a missing one and null count as none. -/
def string? (f : Fields) (name : String) : Except DecodeError (Option String) := do
  match ← f.value? name with
  | none => return none
  | some .null => return none
  | some (.string s) => return some s
  | some v => throw (.wrongType f.type name "a string" v)

def string (f : Fields) (name : String) : Except DecodeError String := do
  match ← f.string? name with
  | some s => return s
  | none => throw (.missingField f.type name)

/-- A field that is true or false, with what a missing one and null mean. -/
def bool (f : Fields) (name : String) (default : Bool) : Except DecodeError Bool := do
  match ← f.value? name with
  | none => return default
  | some .null => return default
  | some (.bool b) => return b
  | some v => throw (.wrongType f.type name "a bool" v)

def strings (f : Fields) (name : String) : Except DecodeError (List String) := do
  match ← f.value? name with
  | none => throw (.missingField f.type name)
  | some .null => throw (.missingField f.type name)
  | some (.array items) => items.mapM fun
    | .string s => return s
    | v => throw (.wrongType f.type name "a list of strings" v)
  | some v => throw (.wrongType f.type name "a list of strings" v)

/-- The blocks of an identifier. -/
def blocks (f : Fields) (ident : String) : List Block :=
  f.body.blocks.filter fun b => b.ident = ident

def conflict {α : Type} (f : Fields) (c : Conflict) : Except DecodeError α := .error (.conflict f.type c)

/-- The address of a block of the module that a declaration is about. -/
def target (f : Fields) (m : Module) : Except DecodeError String := do
  let address ← f.string "target_block_address"
  if m.contains address then return address else throw (.blockNotFound address)

/-- A field that is an identifier. -/
def identifier (f : Fields) (name : String) : Except DecodeError String := do
  let s ← f.string name
  if Text.isIdentifier s then return s else throw (.invalidIdentifier s)

end Fields

/-- The steps of a dotted path. -/
def splitPath (path : String) : List String :=
  ((Text.splitOn path ".").map Text.trim).filter (!·.isEmpty)

end Terrasmith
