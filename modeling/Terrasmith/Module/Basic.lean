import Terrasmith.Layout
import Terrasmith.Module.Snapshot

/-!
Modules: the written trees of some files and the registry of their blocks. A file that was not changed is given
back as it was read.
-/
namespace Terrasmith

open Source

/-- A file of a module: what it held before, if it was there, and its tree. -/
structure SourceFile where
  stored? : Option String
  body : Body
  changed : Bool := false

/-- The content of a file as it would be written. -/
def SourceFile.render (f : SourceFile) : String :=
  if f.changed then Layout.format f.body.render else f.stored?.getD ""

/-- A module. `disk` tells what files of its directory hold that have not been loaded. -/
structure Module where
  origin : Origin
  files : List (String × SourceFile) := []
  registry : List (String × Snapshot) := []
  disk : String → Option String := fun _ => none

/-- Why a module cannot be made from files. -/
inductive SourceError where
  | unreadable (fileName : String)
  | duplicateAddress (address first second : String)
  deriving Repr, DecidableEq

/-- The message and those of its causes. -/
def SourceError.chain : SourceError → List String
  | .unreadable fileName => ["failed to parse " ++ fileName, Display.unreadable]
  | .duplicateAddress address first second => ["`" ++ address ++ "` is declared in " ++ first ++ " and " ++ second]

/-- The blocks with an address that a root block declares: one for each local, or the block itself. -/
def snapshotsOfBlock (origin : Origin) (fileName : String) (lines : Text.LineIndex) (b : Block) : List Snapshot :=
  if b.ident = "locals" then b.body.attributes.map fun a => Snapshot.ofLocal a fileName origin lines
  else match BlockKind.ofIdent? b.ident with
    | none => []
    | some kind =>
      if b.labels.length = kind.labelCount then [Snapshot.ofBlock kind b fileName origin lines] else []

/-- The blocks with an address in a file. -/
def snapshotsOf (origin : Origin) (fileName : String) (lines : Text.LineIndex) (b : Body) : List Snapshot :=
  b.blocks.flatMap (snapshotsOfBlock origin fileName lines)

namespace Module

def block? (m : Module) (address : String) : Option Snapshot := m.registry.lookup address

def contains (m : Module) (address : String) : Bool := (m.block? address).isSome

/-- All blocks in the order of the registry. -/
def blocks (m : Module) : List Snapshot := m.registry.map (·.2)

def blocksOfKind (m : Module) (kind : BlockKind) : List Snapshot :=
  m.blocks.filter fun s => s.kind = kind

def file? (m : Module) (name : String) : Option SourceFile := m.files.lookup name

def fileNames (m : Module) : List String := m.files.map (·.1)

def changedFiles (m : Module) : List String :=
  (m.files.filter fun (_, f) => f.changed).map (·.1)

/-- Enters a block read from a file. Further `terraform` blocks are not entered; every other address may be
declared only once. -/
def register (m : Module) (s : Snapshot) : Except SourceError Module :=
  match m.block? s.address with
  | none => .ok { m with registry := m.registry ++ [(s.address, s)] }
  | some existing =>
    if s.kind = .terraform then .ok m
    else .error (.duplicateAddress s.address existing.fileName s.fileName)

/-- Adds a file that was read. -/
def addFile (m : Module) (name content : String) : Except SourceError Module :=
  match parse? content with
  | none => .error (.unreadable name)
  | some body => do
    let m ← (snapshotsOf m.origin name (.ofText content) body).foldlM register m
    return { m with files := insertEntry name { stored? := some content, body } m.files }

/-- The module of some files. -/
def ofSources (origin : Origin) (disk : String → Option String) (sources : List (String × String)) :
    Except SourceError Module :=
  sources.foldlM (fun m (name, content) => m.addFile name content) { origin, disk }

end Module

end Terrasmith
