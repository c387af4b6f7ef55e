import Terrasmith.Json.Record
import Terrasmith.Text.Case
import Terrasmith.Value.Shape

/-!
Provider schemas: the fields of the blocks that a provider knows, read from a description in JSON and given
as values in which every field has the text of its shape.
-/
namespace Terrasmith.Provider

open Json

/-- Fields in order, each with its shape and whether it is optional. -/
abbrev Fields := List (String × Shape × Bool)

/-- The schemas of one provider. -/
structure Schemas where
  provider : Option Fields
  resources : List (String × Fields)
  dataSources : List (String × Fields)

/-- How many blocks or objects of a shape a field holds. -/
def nested (mode : String) (element : Shape) : Shape :=
  match mode with
  | "list" => .list element
  | "set" => .set element
  | "map" => .map element
  | _ => element

/-- An attribute: its shape and whether it is optional. A nested description goes before the plain one. -/
def attribute? : (fuel : Nat) → Document → Option (Shape × Bool)
  | 0, _ => none
  | fuel + 1, d => do
    let r ← record? ["type", "nested_type", "optional", "computed"] d
    let type ← r.nullable? "type" some
    let inner ← r.nullable? "nested_type" fun d => do
      let r ← record? ["attributes", "nesting_mode"] d
      let attributes ← r.withDefault? "attributes" [] (entriesWith? (attribute? fuel))
      let mode ← r.withDefault? "nesting_mode" "single" Document.text?
      some (nested mode (.object (insertEntries [] attributes)))
    let optional ← r.withDefault? "optional" false Document.bool?
    let computed ← r.withDefault? "computed" false Document.bool?
    let shape := inner.getD ((type.bind Shape.ofDescription?).getD .dynamic)
    some (shape, optional || computed)

/-- The fields of a block: its attributes, and over them its nested blocks, which are optional. -/
def block? : (fuel : Nat) → Document → Option Fields
  | 0, _ => none
  | fuel + 1, d => do
    let r ← record? ["attributes", "block_types"] d
    let attributes ← r.withDefault? "attributes" [] (entriesWith? (attribute? fuel))
    let blocks ← r.withDefault? "block_types" [] (entriesWith? fun d => do
      let r ← record? ["nesting_mode", "block"] d
      let mode ← r.withDefault? "nesting_mode" "single" Document.text?
      let fields ← r.withDefault? "block" [] (block? fuel)
      some (nested mode (.object fields), true))
    some (insertEntries [] (attributes ++ blocks))

def schema? (d : Document) : Option Fields := do
  let r ← record? ["block"] d
  r.required? "block" (block? (d.depth + 1))

def provider? (d : Document) : Option Schemas := do
  let r ← record? ["provider", "resource_schemas", "data_source_schemas"] d
  let provider ← r.nullable? "provider" schema?
  let resources ← r.withDefault? "resource_schemas" [] (entriesWith? schema?)
  let dataSources ← r.withDefault? "data_source_schemas" [] (entriesWith? schema?)
  some ⟨provider, sortEntries resources, sortEntries dataSources⟩

/-- The schemas of all providers by their addresses, in the order of the addresses. -/
def parse? (text : String) : Option (List (String × Schemas)) := do
  let r ← record? ["provider_schemas"] (← Json.parse? text)
  let providers ← r.withDefault? "provider_schemas" [] (entriesWith? provider?)
  some (sortEntries providers)

/-- The fields of a block as a value. -/
def fieldsValue (fields : Fields) : Value :=
  .object (fields.map fun (name, shape, _) => (name, .string shape.display))

def Schemas.value (s : Schemas) : Value :=
  .object [
    ("provider", (s.provider.map fieldsValue).getD .null),
    ("resources", .object (s.resources.map fun (name, fields) => (name, fieldsValue fields))),
    ("data_sources", .object (s.dataSources.map fun (name, fields) => (name, fieldsValue fields)))]

/-- Whether an address is `source` or ends in it, without regard to case. `source` is in lower case. -/
def isAddressOf (source address : String) : Bool :=
  let address := Text.toLower address
  address = source || Text.endsWith address ("/" ++ source)

/-- No provider has the address. -/
structure Missing where
  source : String

def Missing.message (m : Missing) : String :=
  "schema output has no provider matching `" ++ m.source ++ "`"

/-- The schemas of the first provider whose address is, or ends in, `source`. -/
def select (providers : List (String × Schemas)) (source : String) : Except Missing Value :=
  let source := Text.toLower source
  match providers.find? fun (address, _) => isAddressOf source address with
  | some (_, s) => .ok s.value
  | none => .error ⟨source⟩

end Terrasmith.Provider
