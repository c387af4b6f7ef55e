import Terrasmith.Module.Edit
import Terrasmith.Regex.Replace
import Terrasmith.Source.Merge
import Terrasmith.Transform.Element

/-!
Transforms: the changes of a module that declarations ask for.
-/
namespace Terrasmith

open Source

/-- Renames an element in all blocks of a type. -/
structure RenameRule where
  kind : BlockKind
  blockType : String
  path : List String
  newName : String
  skipIfExists : Bool
  deriving Repr

/-- The value of a local: written by a text or taken over as it is. -/
inductive LocalValue where
  | text (s : String)
  | raw (e : Expression)

inductive Transform where
  | updateInPlace (target : String) (patch : Body)
  | renameElements (rules : List RenameRule)
  | removeBlock (target : String)
  | removeElements (target : String) (paths : List (List String))
  | removeNestedBlocks (target : String) (paths : List (List String))
  | moveBlock (target fileName : String)
  | appendBody (target : String) (body : Body)
  | replaceText (regex : Regex) (replacement : String)
  | ensureLocal (name fileName : String) (value : LocalValue)
  /-- Without a kind the attributes become locals. -/
  | newBlock (kind? : Option BlockKind) (labels : List String) (fileName : String) (body : Body)

def Transform.name : Transform → String
  | .updateInPlace .. => "update_in_place"
  | .renameElements .. => "rename_block_element"
  | .removeBlock .. => "remove_block"
  | .removeElements .. => "remove_block_element"
  | .removeNestedBlocks .. => "remove_nested_block"
  | .moveBlock .. => "move_block"
  | .appendBody .. => "append_block_body"
  | .replaceText .. => "regex_replace_expression"
  | .ensureLocal .. => "ensure_local"
  | .newBlock .. => "new_block"

/-- Why a transform fails. -/
inductive TransformError where
  | module (e : ModuleError)
  | invalidExpression (e : InvalidExpression)
  | multiple (es : List InvalidExpression)

def TransformError.message : TransformError → String
  | .module e => e.message
  | .invalidExpression e => e.message
  | .multiple es =>
    Number.natText es.length ++ " errors" ++ String.join (es.map fun e => "\n  " ++ e.message)

/-- A module after some changes, and why they came to an end, if they failed. What was done before stays. -/
structure Applied where
  module : Module
  error? : Option TransformError := none

namespace Applied

/-- Goes on unless something failed. -/
def andThen (a : Applied) (f : Module → Applied) : Applied :=
  match a.error? with
  | some _ => a
  | none => f a.module

/-- Goes on over a list until something fails. -/
def forAll {α : Type} (m : Module) (items : List α) (f : α → Module → Applied) : Applied :=
  items.foldl (fun a item => a.andThen (f item)) { module := m }

/-- A single change of a module, which happens as a whole or not at all. -/
def ofResult (m : Module) : Except ModuleError Module → Applied
  | .ok m => { module := m }
  | .error e => { module := m, error? := some (.module e) }

end Applied

/-- The attribute that declares a local. -/
def LocalValue.attribute (name : String) : LocalValue → Except InvalidExpression Attribute
  | .text s => parseAttribute name s
  | .raw e => .ok { key := name, value := e.value }

/-- Sets the attributes of a body and appends its blocks. -/
def appendStructures (b : Body) (structures : List Structure) : Body :=
  structures.foldl (fun b s =>
    match s with
    | .attribute a => b.setAttribute a
    | .block nested => b.pushBlock nested) b

/-- The value of an attribute with the matches in its source replaced, if there are any. -/
def replacedValue (regex : Regex) (replacement : String) (a : Attribute) :
    Except InvalidExpression (Option Expression) :=
  let replaced := regex.replaceAll a.source replacement
  if replaced = a.source then .ok none
  else do
    let e ← parseExpression replaced
    return some { e with lead := " " }

/-- Replaces values in all blocks of a file; attributes outside of blocks stay. -/
def replaceInBlocks {ε : Type} (f : Attribute → Except ε (Option Expression)) (b : Body) : Replaced ε Body :=
  let parts := b.structures.map fun s =>
    match s with
    | .attribute _ => (⟨s, false, []⟩ : Replaced ε Structure)
    | .block _ => s.replaceValues f
  ⟨{ b with structures := parts.map (·.result) }, parts.any (·.changed), parts.flatMap (·.errors)⟩

/-- Replaces values in all files, and gives the errors met. -/
def Module.replaceValues (m : Module) (f : Attribute → Except InvalidExpression (Option Expression)) :
    Module × List InvalidExpression :=
  m.fileNames.foldl (fun (m, errors) name =>
    match m.file? name with
    | none => (m, errors)
    | some file =>
      let done := replaceInBlocks f file.body
      (m.replaceBody name file done.result, errors ++ done.errors)) (m, [])

def TransformError.ofExpressions? : List InvalidExpression → Option TransformError
  | [] => none
  | [e] => some (.invalidExpression e)
  | es => some (.multiple es)

namespace RenameRule

def appliesTo (r : RenameRule) (s : Snapshot) : Bool :=
  s.kind = r.kind && s.blockType? = some r.blockType

def apply (r : RenameRule) (m : Module) : Applied :=
  .forAll m ((m.blocks.filter r.appliesTo).map Snapshot.address) fun address m =>
    .ofResult m (m.updateBlock address fun b =>
      { b with body := atAllPaths (renameElement r.newName r.skipIfExists) r.path b.body })

end RenameRule

namespace Transform

def apply : Transform → Module → Applied
  | .updateInPlace target patch, m =>
    .ofResult m (m.updateBlock target fun b => { b with body := b.body.merge patch })
  | .renameElements rules, m => .forAll m rules RenameRule.apply
  | .removeBlock target, m => .ofResult m ((m.removeBlock target).map (·.1))
  | .removeElements target paths, m =>
    .ofResult m (m.updateBlock target fun b =>
      { b with body := paths.foldl (fun body path => atPath removeElement path body) b.body })
  | .removeNestedBlocks target paths, m =>
    .ofResult m (m.updateBlock target fun b =>
      { b with body := paths.foldl (fun body path => atPath Terrasmith.removeNestedBlocks path body) b.body })
  | .moveBlock target fileName, m => .ofResult m ((m.moveBlock target fileName).map (·.1))
  | .appendBody target body, m =>
    let singleLine := (m.block? target).any (·.singleLine)
    .ofResult m (m.updateBlock target fun b =>
      let inner := if singleLine then { b.body with oneLine := false } else b.body
      { b with body := appendStructures inner body.structures })
  | .replaceText regex replacement, m =>
    let (m, errors) := m.replaceValues (replacedValue regex replacement)
    ⟨m, TransformError.ofExpressions? errors⟩
  | .ensureLocal name fileName value, m =>
    match value.attribute name with
    | .error e => ⟨m, some (.invalidExpression e)⟩
    | .ok a =>
      let address := BlockKind.local.address [name]
      .ofResult m (if m.contains address then m.updateLocal address (·.withValue a.expression)
        else (m.addLocal a fileName).map (·.1))
  | .newBlock none _ fileName body, m =>
    .forAll m body.attributes fun a m => .ofResult m ((m.addLocal a fileName).map (·.1))
  | .newBlock (some kind) labels fileName body, m =>
    let b : Block := { ident := kind.name, labels := labels.map fun text => { text }
                       body := { body with oneLine := false } }
    .ofResult m ((m.addBlock kind b fileName).map (·.1))

end Transform

end Terrasmith
