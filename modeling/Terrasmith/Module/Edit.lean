import Terrasmith.Module.Basic

/-!
Changes of a module. The registry follows the trees: after a change the snapshot of the block is taken again,
and a file counts as changed when its text did.
-/
namespace Terrasmith

open Source

inductive ModuleError where
  | notFound (address : String)
  | alreadyExists (address : String)
  | unsupported (address operation : String)
  | detached (address fileName : String)
  deriving Repr, DecidableEq

def ModuleError.message : ModuleError → String
  | .notFound address => "block `" ++ address ++ "` not found"
  | .alreadyExists address => "block `" ++ address ++ "` exists already"
  | .unsupported address operation => "`" ++ address ++ "` does not support " ++ operation
  | .detached address fileName => "block `" ++ address ++ "` is no longer part of " ++ fileName

namespace Module

/-- A block, its file and its place in the tree of the file. -/
structure Located where
  snapshot : Snapshot
  file : SourceFile
  index : Nat

/-- The block of an address and its file. -/
def lookup (m : Module) (address : String) : Except ModuleError (Snapshot × SourceFile) :=
  match m.block? address with
  | none => .error (.notFound address)
  | some s =>
    match m.file? s.fileName with
    | none => .error (.detached s.address s.fileName)
    | some file => .ok (s, file)

/-- The place of a block in its file. -/
def locate (s : Snapshot) (file : SourceFile) : Except ModuleError Located :=
  match s.index? file.body with
  | some index => .ok ⟨s, file, index⟩
  | none => .error (.detached s.address s.fileName)

def setFile (m : Module) (name : String) (file : SourceFile) : Module :=
  { m with files := insertEntry name file m.files }

def setBlock (m : Module) (address : String) (s : Snapshot) : Module :=
  { m with registry := insertEntry address s m.registry }

/-- Changes the tree of a block that is not a local. -/
def updateBlock (m : Module) (address : String) (f : Block → Block) : Except ModuleError Module := do
  let (s, file) ← m.lookup address
  if s.kind = .local then .error (.unsupported address "block updates")
  else
    let place ← locate s file
    match file.body.structures[place.index]?.bind Structure.block? with
    | none => .error (.detached s.address s.fileName)
    | some old =>
      let new := f old
      let body := { file.body with structures := file.body.structures.set place.index (.block new) }
      if new.text = old.text then return m.setFile s.fileName { file with body }
      else return (m.setFile s.fileName { file with body, changed := true }).setBlock address (s.refreshBlock new)

/-- Changes the attribute that declares a local. -/
def updateLocal (m : Module) (address : String) (f : Attribute → Attribute) : Except ModuleError Module := do
  let (s, file) ← m.lookup address
  match s.kind, s.labels with
  | .local, [name] =>
    let place ← locate s file
    let old? := do
      let b ← file.body.structures[place.index]?.bind Structure.block?
      let index ← b.body.attributeIndex? name
      let a ← b.body.structures[index]?.bind Structure.attribute?
      some (b, index, a)
    match old? with
    | none => .error (.detached s.address s.fileName)
    | some (b, index, old) =>
      let new := f old
      let b := { b with body := { b.body with structures := b.body.structures.set index (.attribute new) } }
      let body := { file.body with structures := file.body.structures.set place.index (.block b) }
      if new.valueLead ++ new.value.text = old.valueLead ++ old.value.text then
        return m.setFile s.fileName { file with body }
      else return (m.setFile s.fileName { file with body, changed := true }).setBlock address (s.refreshLocal new)
  | _, _ => .error (.unsupported address "local updates")

/-- The snapshot of a block taken again from its file. -/
def refreshed? (s : Snapshot) (b : Body) : Option Snapshot := do
  let index ← s.index? b
  let block ← b.structures[index]?.bind Structure.block?
  match s.kind with
  | .local => do
    let name ← s.labels.head?
    let a ← block.body.attribute? name
    some (s.refreshLocal a)
  | _ => some (s.refreshBlock block)

/-- Takes the snapshots of all blocks of a file again. -/
def refreshFile (m : Module) (name : String) (b : Body) : Module :=
  { m with registry := m.registry.map fun (address, s) =>
      (address, if s.fileName = name then (refreshed? s b).getD s else s) }

/-- Gives a file another tree; it counts as changed if its text does. -/
def replaceBody (m : Module) (name : String) (file : SourceFile) (b : Body) : Module :=
  if b.render = file.body.render then m.setFile name { file with body := b }
  else (m.setFile name { file with body := b, changed := true }).refreshFile name b

/-- Removes a block. A `locals` block goes with its last local. -/
def removeBlock (m : Module) (address : String) : Except ModuleError (Module × Snapshot) := do
  let (s, file) ← m.lookup address
  let place ← locate s file
  let structures := file.body.structures
  let remaining := match s.kind, s.labels, structures[place.index]? with
    | .local, name :: _, some (.block b) =>
      let inner := match b.body.attributeIndex? name with
        | some index => b.body.structures.eraseIdx index
        | none => b.body.structures
      if inner.isEmpty then structures.eraseIdx place.index
      else structures.set place.index (.block { b with body := { b.body with structures := inner } })
    | _, _, _ => structures.eraseIdx place.index
  let file := { file with body := { file.body with structures := remaining }, changed := true }
  let m := m.setFile s.fileName file
  return ({ m with registry := eraseEntry address m.registry }, s)

/-- A file of the module, or what its directory holds under the name. -/
def fileOrDisk (m : Module) (name : String) : SourceFile :=
  match m.file? name with
  | some file => file
  | none =>
    let stored? := m.disk name
    { stored?, body := (stored?.bind parse?).getD {} }

/-- Appends a structure to a file, which is created if it is not there. -/
def appendStructure (m : Module) (name : String) (s : Structure) : Module :=
  let file := m.fileOrDisk name
  m.setFile name { file with body := file.body.pushRoot s, changed := true }

/-- Moves a block to the end of another file and tells whether it was not there already. -/
def moveBlock (m : Module) (address fileName : String) : Except ModuleError (Module × Bool) := do
  let (s, file) ← m.lookup address
  if s.kind = .local then .error (.unsupported address "moving")
  else if s.fileName = fileName then return (m, false)
  else
    let place ← locate s file
    match file.body.structures[place.index]? with
    | none => .error (.detached s.address s.fileName)
    | some moved =>
      let body := { file.body with structures := file.body.structures.eraseIdx place.index }
      let m := m.setFile s.fileName { file with body, changed := true }
      return ((m.appendStructure fileName moved).setBlock address (s.movedTo fileName), true)

/-- Appends a block and gives its address. -/
def addBlock (m : Module) (kind : BlockKind) (b : Block) (fileName : String) :
    Except ModuleError (Module × String) :=
  let address := kind.address b.labelTexts
  if m.contains address then .error (.alreadyExists address)
  else .ok ((m.appendStructure fileName (.block b)).setBlock address (.ofNewBlock kind b fileName m.origin), address)

/-- Appends a `locals` block with one local and gives the address of the local. -/
def addLocal (m : Module) (a : Attribute) (fileName : String) : Except ModuleError (Module × String) :=
  let address := BlockKind.local.address [a.key]
  if m.contains address then .error (.alreadyExists address)
  else
    let locals : Block := { ident := "locals", body := Body.setAttribute {} a }
    .ok ((m.appendStructure fileName (.block locals)).setBlock address (.ofNewLocal a fileName m.origin), address)

end Module

end Terrasmith
