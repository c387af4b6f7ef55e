import Terrasmith.Run.Basic
import Terrasmith.Workspace.Backup
import Terrasmith.Workspace.Load

/-!
Running a configuration on the modules of a workspace. All modules are run before the first file is written, and
each file is backed up before that.
-/
namespace Terrasmith

/-- Why a file cannot be saved. -/
inductive SaveError where
  | backup (e : BackupError)
  | write (path : String) (cause : DiskError)
  deriving Repr, DecidableEq

/-- The message and that of its cause. -/
def SaveError.chain : SaveError → List String
  | .backup e => e.chain
  | .write path cause => ["failed to write " ++ path, cause.message]

/-- Why a configuration cannot be run on a workspace. -/
inductive WorkspaceError where
  | config (dir : String) (e : ConfigError)
  | manifest (e : ManifestError)
  | load (dir : String) (e : LoadError)
  | run (dir : String) (e : RunError)
  | save (e : SaveError)

/-- The message and those of its causes. -/
def WorkspaceError.chain : WorkspaceError → List String
  | .config dir e => ("failed to load configuration from " ++ dir) :: e.chain
  | .manifest e => e.chain
  | .load dir e => ("failed to load terraform module " ++ dir) :: e.chain
  | .run dir e => ("failed to transform " ++ dir) :: e.chain
  | .save e => e.chain

/-- The files of a module that are to be written, with their paths. -/
def Module.unsaved (m : Module) : List (String × SourceFile) :=
  (m.files.filter fun (_, f) => f.changed).map fun (name, f) => (Path.join m.origin.absDir name, f)

/-- A run over modules: the calls of Terraform that were made, and what came of it. -/
structure Attempt (α : Type) where
  calls : List Provider.Call := []
  result : Except WorkspaceError α

namespace Workspace

/-- Loads a module and runs a configuration on it. -/
def runModule (w : Workspace) (tool? : Option Provider.Tool) (c : Config) (o : Origin) : Attempt Module :=
  match w.loadModule o with
  | .error e => { result := .error (.load o.absDir e) }
  | .ok m =>
    let (result, session) := (c.run tool?).run.run { module := m }
    match result with
    | .error e => { calls := session.calls, result := .error (.run o.absDir e) }
    | .ok _ => { calls := session.calls, result := .ok session.module }

/-- Runs a configuration on modules up to the first that fails. -/
def runModules (w : Workspace) (tool? : Option Provider.Tool) (c : Config) : List Origin → Attempt (List Module)
  | [] => { result := .ok [] }
  | o :: rest =>
    let first := w.runModule tool? c o
    match first.result with
    | .error e => { calls := first.calls, result := .error e }
    | .ok m =>
      let others := w.runModules tool? c rest
      { calls := first.calls ++ others.calls, result := others.result.map (m :: ·) }

/-- The modules that a run is about: the one in `dir`, or all of the project. -/
def targets (w : Workspace) (dir : String) (recursive : Bool) : Except ManifestError (List Origin) :=
  if recursive then (w.origins dir).map (·.filter Origin.isOwn) else .ok [w.rootOrigin dir]

/-- The modules as the configuration in `configDir` changes them. -/
def changedModules (w : Workspace) (tool? : Option Provider.Tool) (dir configDir : String) (recursive : Bool) :
    Attempt (List Module) :=
  match w.loadConfig configDir with
  | .error e => { result := .error (.config configDir e) }
  | .ok c =>
    match w.targets dir recursive with
    | .error e => { result := .error (.manifest e) }
    | .ok origins => w.runModules tool? c origins

/-- Backs up a file and writes it. The backup stays also when the file cannot be written. -/
def saveFile (w : Workspace) (path : String) (f : SourceFile) : Workspace × Except SaveError Unit :=
  match w.writeBackup path f.stored? with
  | .error e => (w, .error (.backup e))
  | .ok (w, _) =>
    match w.write path f.render with
    | .error e => (w, .error (.write path e))
    | .ok w => (w, .ok ())

/-- Saves files one after the other up to the first that fails, and tells which. -/
def saveFiles : List (String × SourceFile) → Workspace → Workspace × Except SaveError (List String)
  | [], w => (w, .ok [])
  | (path, f) :: rest, w =>
    match w.saveFile path f with
    | (w, .error e) => (w, .error e)
    | (w, .ok ()) =>
      let (w, saved) := saveFiles rest w
      (w, saved.map (path :: ·))

/-- Changes the modules in `dir` as the configuration in `configDir` says, and gives the paths of the files that
were written. -/
def transform (w : Workspace) (tool? : Option Provider.Tool) (dir configDir : String) (recursive : Bool) :
    Workspace × Attempt (List String) :=
  let attempt := w.changedModules tool? dir configDir recursive
  match attempt.result with
  | .error e => (w, { calls := attempt.calls, result := .error e })
  | .ok modules =>
    let (w, saved) := saveFiles (modules.flatMap Module.unsaved) w
    (w, { calls := attempt.calls, result := saved.mapError .save })

end Workspace

end Terrasmith
