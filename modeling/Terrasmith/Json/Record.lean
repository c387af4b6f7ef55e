import Terrasmith.Json.Read

/-!
Documents read as records with fields of fixed names. A record is written as an object, in which unknown
entries do not count and no field comes twice, or as an array of its fields in their order.
-/
namespace Terrasmith.Json

structure Record where
  fields : List (String × Document)
  /-- Whether the record was written as an array. -/
  positional : Bool := false

/-- Whether a name occurs at most once among entries. -/
def atMostOnce (entries : List (String × Document)) (name : String) : Bool :=
  (entries.filter fun (key, _) => key = name).length ≤ 1

/-- A document as a record with the given fields. -/
def record? (names : List String) : Document → Option Record
  | .object entries => if names.all (atMostOnce entries) then some { fields := entries } else none
  | .array items =>
    if items.length ≤ names.length then some { fields := names.zip items, positional := true } else none
  | _ => none

namespace Record

def get? (r : Record) (name : String) : Option Document := r.fields.lookup name

/-- A field that must be there. -/
def required? {α : Type} (r : Record) (name : String) (read? : Document → Option α) : Option α :=
  r.get? name >>= read?

/-- A field that may be missing. -/
def withDefault? {α : Type} (r : Record) (name : String) (default : α) (read? : Document → Option α) : Option α :=
  match r.get? name with
  | some d => read? d
  | none => some default

/-- A field that may be null; in an array it must be written. -/
def nullable? {α : Type} (r : Record) (name : String) (read? : Document → Option α) : Option (Option α) :=
  match r.get? name with
  | some .null => some none
  | some d => (read? d).map some
  | none => if r.positional then none else some none

end Record

def Document.bool? : Document → Option Bool
  | .bool b => some b
  | _ => none

/-- The entries of an object, each read by `read?`. -/
def entriesWith? {α : Type} (read? : Document → Option α) : Document → Option (List (String × α))
  | .object entries => entries.mapM fun (key, d) => (read? d).map fun item => (key, item)
  | _ => none

/-- The items of an array, each read by `read?`. -/
def itemsWith? {α : Type} (read? : Document → Option α) : Document → Option (List α)
  | .array items => items.mapM read?
  | _ => none

mutual

/-- The depth of nested brackets. -/
def Document.depth : Document → Nat
  | .array items => depthOfItems items + 1
  | .object entries => depthOfEntries entries + 1
  | _ => 0

def Document.depthOfItems : List Document → Nat
  | [] => 0
  | d :: rest => max d.depth (depthOfItems rest)

def Document.depthOfEntries : List (String × Document) → Nat
  | [] => 0
  | (_, d) :: rest => max d.depth (depthOfEntries rest)

end

end Terrasmith.Json
