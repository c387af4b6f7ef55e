import Terrasmith.Json.Record
import Terrasmith.Module.Snapshot
import Terrasmith.Workspace.Basic

/-!
The manifest of modules that an initialised root module has. It lists the modules that are called, with their
directories as seen from the root module.
-/
namespace Terrasmith

/-- Where the manifest is found below the root module. -/
def Manifest.path : String := ".terraform/modules/modules.json"

/-- Whether a module was not downloaded: what is downloaded is kept below `.terraform`. -/
def Origin.isLocal (o : Origin) : Bool := !(Path.components o.dir).contains ".terraform"

/-- Whether the files of a module belong to the project. -/
def Origin.isOwn (o : Origin) : Bool := o.isRoot || o.isLocal

namespace Manifest

open Json

/-- A module as listed; its absolute directory is told by `locate`. -/
def moduleOf? (locate : String → String) (d : Document) : Option Origin := do
  let r ← record? ["Key", "Source", "Version", "Dir"] d
  let key ← r.required? "Key" Document.text?
  let source ← r.withDefault? "Source" "" Document.text?
  let version ← r.withDefault? "Version" "" Document.text?
  let dir ← r.required? "Dir" Document.text?
  some { key, source, version, dir, absDir := locate dir }

/-- The modules that a manifest lists. -/
def parse? (locate : String → String) (text : String) : Option (List Origin) := do
  let r ← record? ["Modules"] (← Json.parse? text)
  r.withDefault? "Modules" [] (itemsWith? (moduleOf? locate))

end Manifest

inductive ManifestError where
  | unreadable (path : String) (cause : DiskError)
  | invalid (path : String)
  deriving Repr, DecidableEq

/-- The message and that of its cause. -/
def ManifestError.chain : ManifestError → List String
  | .unreadable path cause => ["failed to read " ++ path, cause.message]
  | .invalid path => ["failed to parse modules manifest " ++ path, "<json error>"]

namespace Workspace

/-- The root module in a directory. -/
def rootOrigin (w : Workspace) (dir : String) : Origin := { dir, absDir := w.absolute dir }

/-- All modules of the root module in `dir`, itself included. Without a manifest there is no other. -/
def origins (w : Workspace) (dir : String) : Except ManifestError (List Origin) :=
  let path := Path.join dir Manifest.path
  if !w.hasPath path then .ok [w.rootOrigin dir]
  else match w.read path with
    | .error e => .error (.unreadable path e)
    | .ok text =>
      match Manifest.parse? (fun d => w.absolute (Path.join dir d)) text with
      | none => .error (.invalid path)
      | some listed => .ok (if listed.any Origin.isRoot then listed else w.rootOrigin dir :: listed)

end Workspace

end Terrasmith
