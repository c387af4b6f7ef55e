import Terrasmith.Config.Basic
import Terrasmith.Module.Basic
import Terrasmith.Source.Parse
import Terrasmith.Workspace.Manifest

/-!
Modules and configurations read from the files of a directory.
-/
namespace Terrasmith

/-- Why a module cannot be loaded. -/
inductive LoadError where
  | unreadable (path : String) (cause : DiskError)
  | source (e : SourceError)
  deriving Repr, DecidableEq

/-- The message and those of its causes. -/
def LoadError.chain : LoadError → List String
  | .unreadable path cause => ["failed to read " ++ path, cause.message]
  | .source e => e.chain

/-- Why a configuration cannot be loaded. -/
inductive ConfigError where
  | unreadable (cause : DiskError)
  | noFiles (dir : String)
  | issues (found : List Issue)
  deriving Repr, DecidableEq

/-- The message and that of its cause. -/
def ConfigError.chain : ConfigError → List String
  | .unreadable cause => ["IO error", cause.message]
  | .noFiles dir => ["no " ++ Config.fileSuffix ++ " files found in " ++ dir]
  | .issues found => [Issue.report found]

/-- Whether a file is part of a module. Files that override others are not. -/
def isModuleFile (name : String) : Bool :=
  Text.endsWith name ".tf" && name ≠ "override.tf" && !Text.endsWith name "_override.tf"

namespace Workspace

/-- Reads one more file of a module. -/
def loadFile (w : Workspace) (m : Module) (name : String) : Except LoadError Module := do
  let path := Path.join m.origin.absDir name
  let content ← (w.read path).mapError (.unreadable path)
  (m.addFile name content).mapError .source

/-- A module without any file yet. It sees the other files of its directory as the workspace has them. -/
def emptyModule (w : Workspace) (o : Origin) : Module :=
  { origin := o, disk := fun name => (w.read (Path.join o.absDir name)).toOption }

/-- The module in a directory. -/
def loadModule (w : Workspace) (o : Origin) : Except LoadError Module := do
  let names ← (w.fileNames o.absDir).mapError (.unreadable o.absDir)
  (names.filter isModuleFile).foldlM w.loadFile (w.emptyModule o)

/-- A file of a configuration. -/
def loadDocument (w : Workspace) (path : String) : Except ConfigError Config.Document := do
  let text ← (w.read path).mapError .unreadable
  return ⟨path, Source.parse? text⟩

/-- The configuration in a directory. -/
def loadConfig (w : Workspace) (dir : String) : Except ConfigError Config := do
  let names ← (w.fileNames dir).mapError .unreadable
  let own := names.filter fun name => Text.endsWith name Config.fileSuffix
  if own.isEmpty then throw (.noFiles dir)
  let documents ← own.mapM fun name => w.loadDocument (Path.join dir name)
  (Config.ofDocuments documents).mapError .issues

end Workspace

end Terrasmith
