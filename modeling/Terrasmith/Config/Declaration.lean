import Terrasmith.Source.Edit

/-!
Declarations of queries (`data`) and of transforms, the blocks of a configuration.
-/
namespace Terrasmith

open Source

inductive Declaration.Kind where
  | data
  | transform
  deriving Repr, DecidableEq

namespace Declaration.Kind

def name : Kind → String
  | .data => "data"
  | .transform => "transform"

def ofIdent? : String → Option Kind
  | "data" => some .data
  | "transform" => some .transform
  | _ => none

/-- The types that declarations of a kind may have. -/
def types : Kind → List String
  | .data => ["resource", "data", "module", "terraform", "variable", "output", "local", "provider_schema"]
  | .transform => ["update_in_place", "rename_block_element", "remove_block", "remove_block_element",
      "remove_nested_block", "move_block", "append_block_body", "concat_block_body", "regex_replace_expression",
      "ensure_local", "new_block"]

end Declaration.Kind

/-- A query or a transform as declared in the file `source`. -/
structure Declaration where
  kind : Declaration.Kind
  type : String
  name : String
  body : Body
  source : String

/-- The address of the declaration of a kind, type and name. -/
def Declaration.addressOf (kind type name : String) : String :=
  kind ++ "." ++ type ++ "." ++ name

def Declaration.address (d : Declaration) : String :=
  addressOf d.kind.name d.type d.name

/-- A problem in a configuration. Attributes and blocks are numbered over all files. -/
inductive Issue where
  | unreadable (path : String)
  | rootAttribute (index : Nat)
  | unknownBlockType (index : Nat)
  | labelCount (index found : Nat)
  | unknownType (index : Nat) (type : String)
  | invalidName (index : Nat) (name : String)
  | duplicateAddress (existing new : Nat)
  deriving Repr, DecidableEq

def Issue.message : Issue → String
  | .unreadable path => "unable to parse " ++ path ++ ": " ++ Display.unreadable
  | .rootAttribute index =>
    "root attribute #" ++ Number.natText index ++ " is not allowed, only data and transform blocks are"
  | .unknownBlockType index => "block #" ++ Number.natText index ++ " is neither a data nor a transform block"
  | .labelCount index found =>
    "block #" ++ Number.natText index ++ " must have exactly two labels, found " ++ Number.natText found
  | .unknownType index type => "block #" ++ Number.natText index ++ " has unknown type " ++ type
  | .invalidName index name => "block #" ++ Number.natText index ++ " has invalid name `" ++ name ++ "`"
  | .duplicateAddress existing new =>
    "block #" ++ Number.natText new ++ " has the same address as block #" ++ Number.natText existing

/-- All problems as one message. -/
def Issue.report (issues : List Issue) : String :=
  Number.natText issues.length ++ " issue(s) in configuration"
    ++ String.join (issues.map fun issue => "\n  " ++ issue.message)

/-- What a root block declares, as far as it can be told from the block alone. -/
def Declaration.ofBlock (index : Nat) (source : String) (b : Block) : Except Issue Declaration :=
  match Kind.ofIdent? b.ident with
  | none => .error (.unknownBlockType index)
  | some kind =>
    match b.labelTexts with
    | [type, name] =>
      if !kind.types.contains type then .error (.unknownType index (kind.name ++ "." ++ type))
      else if !Text.isIdentifier name then .error (.invalidName index name)
      else .ok ⟨kind, type, name, b.body, source⟩
    | labels => .error (.labelCount index labels.length)

end Terrasmith
