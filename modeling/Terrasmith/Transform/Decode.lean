import Terrasmith.Regex.Parse
import Terrasmith.Transform.Basic
import Terrasmith.Transform.Fields

/-!
Transforms read from declarations.
-/
namespace Terrasmith

open Source

/-- Whether a name is that of a file in the directory of a module. -/
def isModuleFileName (name : String) : Bool :=
  !(name.toList.any fun c => c = '/' || c = '\\') && Text.endsWith name ".tf"

namespace Fields

/-- The paths of elements; empty ones do not count. -/
def paths (f : Fields) : Except DecodeError (List (List String)) := do
  return ((← f.strings "paths").map splitPath).filter (!·.isEmpty)

/-- The path of an element, as a list of steps or a dotted string. -/
def path (f : Fields) (name : String) : Except DecodeError (List String) := do
  match ← f.value? name with
  | some (.string s) => return splitPath s
  | _ => f.strings name

/-- The patch that the fields describe. -/
def patch (f : Fields) (body : Body) : Except DecodeError Body :=
  match buildPatch f.scope body with
  | .ok patch => .ok patch
  | .error e => .error (.ofPatch e)

end Fields

def RenameRule.decode (f : Fields) : Except DecodeError RenameRule := do
  let resourceType ← f.string "resource_type"
  let (kind, blockType) := match Text.stripStart? resourceType "data." with
    | some type => (BlockKind.data, type)
    | none => (.resource, resourceType)
  let path ← f.path "attribute_path"
  if path.isEmpty then f.conflict .emptyPath
  else
    let newName ← f.identifier "new_name"
    let skipIfExists ← f.bool "skip_if_exists" false
    return { kind, blockType, path, newName, skipIfExists }

/-- The value of a local: a text that is an expression, or what stands in `asraw`. -/
def LocalValue.decode (f : Fields) : Except DecodeError LocalValue := do
  let text ← f.string? "value_as_string"
  let raw := (f.blocks "asraw").head?.bind fun b => b.body.attribute? "value"
  match text, raw with
  | some text, none =>
    match parseExpression text with
    | .ok _ => return .text text
    | .error e => throw (.invalidExpression e)
  | none, some a => return .raw a.expression
  | some _, some _ => f.conflict .bothValues
  | none, none => f.conflict .noValue

/-- A body without the attribute of a name. -/
def withoutAttribute (b : Body) (name : String) : Body :=
  match b.attributeIndex? name with
  | some index => { b with structures := b.structures.eraseIdx index }
  | none => b

/-- The kind of a new block, none for locals. -/
def newBlockKind (f : Fields) (type : String) : Except DecodeError (Option BlockKind) :=
  if type = "locals" then .ok none
  else match BlockKind.ofIdent? type with
    | some kind => .ok (some kind)
    | none => f.conflict (.unsupportedBlockType type)

namespace Transform

def decodeNewBlock (f : Fields) : Except DecodeError Transform := do
  let type ← f.string "new_block_type"
  let kind? ← newBlockKind f type
  let labels ← if f.has "labels" then f.strings "labels" else pure []
  let expected := (kind?.map BlockKind.labelCount).getD 0
  if labels.length ≠ expected then f.conflict (.labelCount type expected labels.length)
  else
    let body ← f.patch (["new_block_type", "labels", "filename"].foldl withoutAttribute f.body)
    return .newBlock kind? labels (← f.string "filename") body

/-- The transform that a declaration of a type asks for. -/
def decode (type : String) (body : Body) (scope : Scope) (m : Module) : Except DecodeError Transform := do
  let f : Fields := ⟨type, body, scope⟩
  match type with
  | "update_in_place" =>
    let target ← f.target m
    return .updateInPlace target (← f.patch body)
  | "rename_block_element" =>
    let rules ← (f.blocks "rename").mapM fun b => RenameRule.decode ⟨type, b.body, scope⟩
    if rules.isEmpty then throw (.missingField type "rename") else return .renameElements rules
  | "remove_block" => return .removeBlock (← f.target m)
  | "remove_block_element" =>
    let target ← f.target m
    return .removeElements target (← f.paths)
  | "remove_nested_block" =>
    let target ← f.target m
    return .removeNestedBlocks target (← f.paths)
  | "move_block" =>
    let target ← f.target m
    let fileName ← f.string "file_name"
    if isModuleFileName fileName then return .moveBlock target fileName else f.conflict (.notModuleFile fileName)
  | "append_block_body" | "concat_block_body" =>
    let target ← f.target m
    match parseBody (← f.string "block_body") with
    | .ok b => return .appendBody target b
    | .error e => throw (.invalidBody e)
  | "regex_replace_expression" =>
    match Regex.parse? (← f.string "regex") with
    | some regex => return .replaceText regex (← f.string "replacement")
    | none => throw .invalidRegex
  | "ensure_local" =>
    let name ← f.identifier "local_name"
    let fileName ← f.string "fallback_file_name"
    return .ensureLocal name fileName (← LocalValue.decode f)
  | "new_block" => decodeNewBlock f
  | other => throw (.unknownType other)

end Transform

end Terrasmith
