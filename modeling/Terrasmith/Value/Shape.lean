import Terrasmith.Json.Read

/-!
The types of values. Values carry no types themselves; a shape is inferred where several values have to look
alike, and read from the type descriptions of provider schemas.
-/
namespace Terrasmith

inductive Shape where
  /-- Unknown: the shape of null, compatible with everything. -/
  | dynamic
  | bool
  | number
  | string
  | list (element : Shape)
  | set (element : Shape)
  | map (element : Shape)
  | tuple (elements : List Shape)
  /-- Fields in order, each with its shape and whether it is optional. -/
  | object (fields : List (String × Shape × Bool))
  deriving Inhabited

namespace Shape

mutual

/-- A shape that holds the values of both shapes: a dynamic shape yields to the other, objects take the
union of their fields, collections of one kind unify their elements, and every other conflict keeps the
first shape. -/
def unify : Shape → Shape → Shape
  | .dynamic, other => other
  | .object fields, .object others => .object (unifyFields fields others ++ missingFields fields others)
  | .list a, .list b => .list (unify a b)
  | .set a, .set b => .set (unify a b)
  | .map a, .map b => .map (unify a b)
  | this, _ => this

/-- The fields of the first object, unified with those of the second. -/
def unifyFields : List (String × Shape × Bool) → List (String × Shape × Bool) → List (String × Shape × Bool)
  | [], _ => []
  | (name, shape, optional) :: rest, others =>
    (match others.lookup name with
      | some (other, otherOptional) => (name, unify shape other, optional || otherOptional)
      | none => (name, shape, true)) :: unifyFields rest others

/-- The fields of the second object that the first lacks. -/
def missingFields (fields others : List (String × Shape × Bool)) : List (String × Shape × Bool) :=
  (others.filter fun (name, _) => (fields.lookup name).isNone).map fun (name, shape, _) => (name, shape, true)

end

/-- The unification of shapes from the left, dynamic if there is none. -/
def unifyAll : List Shape → Shape
  | [] => .dynamic
  | first :: rest => rest.foldl unify first

mutual

/-- The shape of a value. -/
def of : Value → Shape
  | .null => .dynamic
  | .bool _ => .bool
  | .number _ => .number
  | .string _ => .string
  | .array items => .list (unifyAll (ofItems items))
  | .object entries => .object (ofEntries entries)

def ofItems : List Value → List Shape
  | [] => []
  | v :: rest => of v :: ofItems rest

def ofEntries : List (String × Value) → List (String × Shape × Bool)
  | [] => []
  | (key, v) :: rest => (key, of v, false) :: ofEntries rest

end

mutual

/-- Converts a value to a shape. Missing fields become null, primitives convert where their text allows it,
and what cannot be converted stays as it is. -/
def convert : Shape → Value → Value
  | _, .null => .null
  | .string, .number n => .string n.display
  | .string, .bool b => .string (if b then "true" else "false")
  | .number, .string text =>
    match Number.ofText? text with
    | some n => .number n
    | none => .string text
  | .bool, .string text =>
    if text = "true" then .bool true else if text = "false" then .bool false else .string text
  | .list element, .array items => .array (items.map (convert element))
  | .set element, .array items => .array (items.map (convert element))
  | .tuple elements, .array items => .array (convertTuple elements items)
  | .map element, .object entries => .object (entries.map fun (key, v) => (key, convert element v))
  | .object fields, .object entries =>
    .object (insertEntries (convertFields fields entries) (unknownEntries fields entries))
  | _, value => value

/-- Items by the shapes of a tuple; items beyond it stay. -/
def convertTuple : List Shape → List Value → List Value
  | shape :: shapes, v :: rest => convert shape v :: convertTuple shapes rest
  | _, rest => rest

/-- The fields of an object shape, taken from the entries of an object. -/
def convertFields : List (String × Shape × Bool) → List (String × Value) → List (String × Value)
  | [], _ => []
  | (name, shape, _) :: rest, entries =>
    (name, convert shape ((entries.lookup name).getD .null)) :: convertFields rest entries

/-- The entries of an object that its shape does not know. -/
def unknownEntries (fields : List (String × Shape × Bool)) (entries : List (String × Value)) :
    List (String × Value) :=
  entries.filter fun (key, _) => (fields.lookup key).isNone

end

mutual

/-- How a shape is written. -/
def display : Shape → String
  | .dynamic => "any"
  | .bool => "bool"
  | .number => "number"
  | .string => "string"
  | .list element => "list(" ++ display element ++ ")"
  | .set element => "set(" ++ display element ++ ")"
  | .map element => "map(" ++ display element ++ ")"
  | .tuple elements => "tuple([" ++ displayElements elements ++ "])"
  | .object fields => "object(\x7b" ++ displayFields fields ++ "\x7d)"

def displayElements : List Shape → String
  | [] => ""
  | [shape] => display shape
  | shape :: rest => display shape ++ ", " ++ displayElements rest

def displayFields : List (String × Shape × Bool) → String
  | [] => ""
  | (name, shape, optional) :: rest =>
    name ++ " = " ++ (if optional then "optional(" ++ display shape ++ ")" else display shape)
      ++ (if rest.isEmpty then "" else ", ") ++ displayFields rest

end

mutual

/-- Reads a shape from the description used by provider schemas: `"string"`, `["list", "string"]`,
`["object", …, …]` with the fields and the names of the optional ones. -/
def ofDescription? : Json.Document → Option Shape
  | .string "string" => some .string
  | .string "number" => some .number
  | .string "bool" => some .bool
  | .string "dynamic" => some .dynamic
  | .array (.string "list" :: argument :: _) => (ofDescription? argument).map .list
  | .array (.string "set" :: argument :: _) => (ofDescription? argument).map .set
  | .array (.string "map" :: argument :: _) => (ofDescription? argument).map .map
  | .array (.string "tuple" :: .array parts :: _) => (ofDescriptions? parts).map .tuple
  | .array (.string "object" :: .object entries :: rest) => do
    let fields ← ofFields? entries
    let optional := match rest with
      | .array names :: _ => names.filterMap Json.Document.text?
      | _ => []
    some (.object ((Json.sortEntries fields).map fun (name, shape) => (name, shape, optional.contains name)))
  | _ => none

def ofDescriptions? : List Json.Document → Option (List Shape)
  | [] => some []
  | d :: rest => do
    let shape ← ofDescription? d
    let shapes ← ofDescriptions? rest
    some (shape :: shapes)

def ofFields? : List (String × Json.Document) → Option (List (String × Shape))
  | [] => some []
  | (name, d) :: rest => do
    let shape ← ofDescription? d
    let fields ← ofFields? rest
    some ((name, shape) :: fields)

end

/-- Sibling objects as one list in which all of them have the same fields. -/
def listOfObjects (values : List Value) : Value :=
  .array (values.map (unifyAll (values.map of)).convert)

end Shape

end Terrasmith
