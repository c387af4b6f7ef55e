import Terrasmith.Module.Value
import Terrasmith.Provider.Tool
import Terrasmith.Transform.Fields

/-!
Queries: look-ups of the blocks of a module, and of the schemas of providers. A query has its own attributes,
evaluated, and what it found in `result`.
-/
namespace Terrasmith

open Source

/-- Which blocks of a type a query wants. -/
structure BlockFilter where
  blockType? : Option String := none
  useCount : Bool := false
  useForEach : Bool := false
  deriving Repr

inductive Query where
  /-- Resources or data sources. -/
  | blocks (kind : BlockKind) (filter : BlockFilter)
  | modules (source? : Option String)
  | terraform
  /-- Variables, outputs or locals. -/
  | named (kind : BlockKind) (name? : Option String)
  | providerSchema (source version : String)

inductive QueryError where
  | unknownType (type : String)
  | decode (e : DecodeError)
  | providerSchema (source version : String) (e : Provider.Failure)

/-- The message and those of its causes. -/
def QueryError.chain : QueryError → List String
  | .unknownType type => ["unknown data type `" ++ type ++ "`"]
  | .decode e => e.chain
  | .providerSchema source version e =>
    ("failed to read schema of provider " ++ source ++ " " ++ version) :: e.chain

def BlockFilter.decode (f : Fields) (typeField : String) : Except DecodeError BlockFilter := do
  let blockType? ← f.string? typeField
  let useCount ← f.bool "use_count" false
  let useForEach ← f.bool "use_for_each" false
  return { blockType?, useCount, useForEach }

def BlockFilter.accepts (f : BlockFilter) (s : Snapshot) : Bool :=
  (f.blockType?.all fun type => s.blockType? = some type) && (!f.useCount || s.count?.isSome)
    && (!f.useForEach || s.forEach?.isSome)

namespace Query

/-- The query that a declaration of a type asks for. -/
def decode (type : String) (body : Body) (scope : Scope) : Except QueryError Query :=
  let f : Fields := ⟨type, body, scope⟩
  let decoded : Except DecodeError (Option Query) :=
    match type with
    | "resource" => do return some (.blocks .resource (← BlockFilter.decode f "resource_type"))
    | "data" => do return some (.blocks .data (← BlockFilter.decode f "data_source_type"))
    | "module" => do return some (.modules (← f.string? "module_source"))
    | "terraform" => return some .terraform
    | "variable" => do return some (.named .variable (← f.string? "name"))
    | "output" => do return some (.named .output (← f.string? "name"))
    | "local" => do return some (.named .local (← f.string? "name"))
    | "provider_schema" => do
      let source ← f.string "provider_source"
      return some (.providerSchema source (← f.string "provider_version"))
    | _ => return none
  match decoded with
  | .ok (some q) => .ok q
  | .ok none => .error (.unknownType type)
  | .error e => .error (.decode e)

/-- Puts a block under its type and name. -/
def insertByType (found : List (String × Value)) (type name : String) (v : Value) : List (String × Value) :=
  match found.lookup type with
  | some (.object entries) => insertEntry type (.object (insertEntry name v entries)) found
  | _ => insertEntry type (.object [(name, v)]) found

/-- Blocks by type and name. -/
def byType (blocks : List Snapshot) : List (String × Value) :=
  blocks.foldl (fun found s =>
    match s.blockType?, s.name? with
    | some type, some name => insertByType found type name s.value
    | _, _ => found) []

/-- Blocks by name. -/
def byName (blocks : List Snapshot) : List (String × Value) :=
  insertEntries [] (blocks.filterMap fun s => s.name?.map fun name => (name, s.value))

/-- The source of a module call, without quotes if it is a plain string. -/
def moduleSource? (s : Snapshot) : Option String :=
  (s.attributes.lookup "source").map fun e =>
    match e.value.expr with
    | .string source => source
    | _ => e.source

/-- What a query finds in a module, with the calls of Terraform that it took. -/
def execute (m : Module) (tool? : Option Provider.Tool) : Query → List Provider.Call × Except QueryError Value
  | .blocks kind filter => ([], .ok (.object (byType ((m.blocksOfKind kind).filter filter.accepts))))
  | .modules source? =>
    let wanted := fun s => source?.all fun source => moduleSource? s = some source
    ([], .ok (.object (byName ((m.blocksOfKind .module).filter wanted))))
  | .terraform => ([], .ok (((m.blocksOfKind .terraform).head?.map Snapshot.value).getD .null))
  | .named kind name? =>
    let wanted := fun (s : Snapshot) => name?.all fun name => s.name? = some name
    ([], .ok (.object (byName ((m.blocksOfKind kind).filter wanted))))
  | .providerSchema source version =>
    match Provider.ask tool? source version with
    | (calls, .ok v) => (calls, .ok v)
    | (calls, .error e) => (calls, .error (.providerSchema source version e))

/-- The attributes of a query that are part of its value. -/
def inputs (body : Body) (scope : Scope) : Except QueryError (List (String × Value)) :=
  let named := body.attributes.filter fun a => !(a.key = "for_each" || a.key = "depends_on")
  named.mapM fun a =>
    match a.value.expr.evaluate scope with
    | .ok v => .ok (a.key, v)
    | .error e => .error (.decode (.eval e))

/-- The value of a declared query: its attributes and its result. -/
def evaluate (m : Module) (tool? : Option Provider.Tool) (type : String) (body : Body) (scope : Scope) :
    List Provider.Call × Except QueryError Value :=
  match do return (← decode type body scope, ← inputs body scope) with
  | .error e => ([], .error e)
  | .ok (q, entries) =>
    match q.execute m tool? with
    | (calls, .ok v) => (calls, .ok (.object (insertEntry "result" v entries)))
    | (calls, .error e) => (calls, .error e)

end Query

end Terrasmith
