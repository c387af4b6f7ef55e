import Terrasmith.Cli.Command
import Terrasmith.Config.Order
import Terrasmith.Json.Write
import Terrasmith.Module.Value
import Terrasmith.Workspace.Transform
import Terrasmith.Yaml.Write

/-!
The program on a workspace: what its commands print and what they do to the files.
-/
namespace Terrasmith.Cli

/-- What a run of the program shows. -/
structure Outcome where
  code : Nat := 0
  stdout : String := ""
  stderr : String := ""
  deriving Repr, DecidableEq

/-- A text for each line, with its newline. -/
def printed (lines : List String) : String := String.join (lines.map (· ++ "\n"))

/-- A failed run, with the message and those of its causes. -/
def Outcome.failed (chain : List String) : Outcome := { code := 1, stderr := printed chain }

def usageText : String := printed [
  "Usage: mapotf [-C DIRECTORY]... COMMAND",
  "",
  "  transform --mptf-dir DIR [--tf-dir DIR] [-r]   change terraform files as a configuration says",
  "  reset [--tf-dir DIR] [-r]                      put back what the files were",
  "  dev blocks [--tf-dir DIR] [-F json|yaml]       show the values of all blocks",
  "  dev order --mptf-dir DIR                       show the declarations in their order"]

def Stop.outcome : Stop → Outcome
  | .usage => { code := 2, stderr := usageText }
  | .help => { stdout := usageText }
  | .version => { stdout := "mapotf 0.1.0\n" }

/-- Why the program does not get to the directory it should work in. -/
inductive DirectoryError where
  | unresolved (dir : String) (cause : DiskError)
  | refused (dir : String) (cause : DiskError)
  deriving Repr, DecidableEq

/-- The message and that of its cause. -/
def DirectoryError.chain : DirectoryError → List String
  | .unresolved dir cause => ["Failed to resolve path for -C/--directory " ++ dir, cause.message]
  | .refused dir cause => ["Failed to set work directory to " ++ dir, cause.message]

/-- Enters directories one after the other. -/
def enterAll : List String → Workspace → Except DirectoryError Workspace
  | [], w => .ok w
  | dir :: rest, w => do
    let target ← (w.canonical dir).mapError (.unresolved dir)
    let w ← (w.enter target).mapError (.refused target)
    enterAll rest w

/-- What a run leaves behind: the files, the calls of Terraform and what is shown. -/
structure Finished where
  workspace : Workspace
  calls : List Provider.Call := []
  outcome : Outcome

/-- Resets directories one after the other up to the first that fails. -/
def resetAll : List String → Workspace → Workspace × Outcome
  | [], w => (w, {})
  | dir :: rest, w =>
    match w.reset dir with
    | (w, .error e) => (w, .failed (("Failed to reset " ++ dir) :: e.chain))
    | (w, .ok restored) =>
      let (w, outcome) := resetAll rest w
      (w, { outcome with stdout := printed restored ++ outcome.stdout })

/-- The directories that a reset is about. -/
def resetDirs (w : Workspace) (dir : String) (recursive : Bool) : Except ManifestError (List String) :=
  if recursive then (w.targets dir true).map (·.map Origin.absDir) else .ok [dir]

/-- The values of all blocks by their addresses. -/
def blockValues (m : Module) : Value :=
  .object (m.blocks.map fun s => (s.address, s.value))

def OutputFormat.write : OutputFormat → Value → String
  | .json, v => Json.pretty 0 v
  | .yaml, v => Yaml.document v

def showBlocks (w : Workspace) (dir : String) (format : OutputFormat) : Outcome :=
  match w.loadModule (w.rootOrigin dir) with
  | .error e => .failed (("Failed to load terraform module " ++ dir) :: e.chain)
  | .ok m => { stdout := format.write (blockValues m) }

def showOrder (w : Workspace) (dir : String) : Outcome :=
  match w.loadConfig dir with
  | .error e => .failed e.chain
  | .ok c =>
    match c.order with
    | .error e => .failed [e.message]
    | .ok declarations => { stdout := printed (declarations.map Declaration.address) }

/-- Carries out a command. -/
def Command.run (tool? : Option Provider.Tool) (w : Workspace) : Command → Finished
  | .transform dir configDir recursive =>
    let (w, attempt) := w.transform tool? dir configDir recursive
    let outcome := match attempt.result with
      | .ok written => { stdout := printed written }
      | .error e => .failed e.chain
    { workspace := w, calls := attempt.calls, outcome }
  | .reset dir recursive =>
    match resetDirs w dir recursive with
    | .error e => { workspace := w, outcome := .failed e.chain }
    | .ok dirs =>
      let (w, outcome) := resetAll dirs w
      { workspace := w, outcome }
  | .blocks dir format => { workspace := w, outcome := showBlocks w dir format }
  | .order configDir => { workspace := w, outcome := showOrder w configDir }

/-- Carries out a command line. The directories it enters are left again at the end. -/
def run (tool? : Option Provider.Tool) (configDir? : Option String) (args : List String) (w : Workspace) : Finished :=
  match parse configDir? args with
  | .error stop => { workspace := w, outcome := stop.outcome }
  | .ok invocation =>
    match enterAll invocation.directories w with
    | .error e => { workspace := w, outcome := .failed e.chain }
    | .ok entered =>
      let finished := invocation.command.run tool? entered
      { finished with workspace := { finished.workspace with cwd := w.cwd } }

end Terrasmith.Cli
