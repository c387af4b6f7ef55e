import Terrasmith.Cli.Basic

/-!
The program. The directories that a command line names are read into a workspace, the command is carried out
there, and files that changed are written back. Terraform itself is never started.
-/
namespace Terrasmith.Cli

/-- The location of an absolute path, with its dots taken out. -/
def locationOf (path : String) : Location :=
  (Path.components path).foldl (fun l part =>
    if part = "" || part = "." then l else if part = ".." then l.dropLast else l ++ [part]) []

/-- The path from which a command line starts, as seen from the current directory. -/
def Invocation.start (i : Invocation) (current : String) : String := i.directories.foldl Path.join current

/-- The directory of the module that a command is about. -/
def Command.moduleDir? : Command → Option String
  | .transform dir _ _ | .reset dir _ | .blocks dir _ => some dir
  | .order _ => none

/-- The directories that a command reads. -/
def Command.directories (c : Command) : List String :=
  c.moduleDir?.toList ++ match c with
    | .transform _ configDir _ | .order configDir => [configDir]
    | _ => []

/-- Whether a directory may hold files that a command needs. -/
def isSource (l : Location) : Bool :=
  l.getLast? ≠ some ".git" && l.reverse.take 2 ≠ ["providers", ".terraform"]

/-- Reads a directory and all below it. What cannot be read is left out. -/
partial def loadTree (w : Workspace) (l : Location) : IO Workspace := do
  let place := (← IO.currentDir) / l.path
  if !(← place.isDir) || !isSource l then return w
  let mut w := w.addDirectory l
  for item in ← place.readDir do
    let inner := l ++ [item.fileName]
    if ← item.path.isDir then
      if (← item.path.symlinkMetadata).type == .dir then w ← loadTree w inner
    else
      try
        w := w.addFile inner (.ofBytes (← IO.FS.readBinFile item.path))
      catch _ => pure ()
  return w

/-- Reads the directories that a command line names and those of the modules called there. -/
def loadFor (i : Invocation) : IO Workspace := do
  let current := (← IO.currentDir).toString
  let start := i.start current
  let mut w := ({ cwd := locationOf current } : Workspace).addDirectory (locationOf current)
  if ← ((← IO.currentDir) / start).isDir then w := w.addDirectory (locationOf start)
  for dir in i.command.directories do
    w ← loadTree w (locationOf (Path.join start dir))
  match enterAll i.directories w, i.command.moduleDir? with
  | .ok entered, some dir =>
    for o in (entered.origins dir).toOption.getD [] do
      if !entered.hasPath o.absDir then
        w ← loadTree w (locationOf (Path.join start o.absDir))
  | _, _ => pure ()
  return w

/-- Writes the files that differ between two workspaces and removes those that are gone. -/
def store (old new : Workspace) : IO Unit := do
  for (l, node) in new.nodes do
    if old.node? l ≠ some node then
      match node with
      | .directory => IO.FS.createDirAll l.path
      | .file (.text s) => IO.FS.writeFile l.path s
      | .file (.bytes b) => IO.FS.writeBinFile l.path ⟨b.toArray⟩
  for (l, node) in old.nodes do
    if node ≠ .directory && (new.node? l).isNone then IO.FS.removeFile l.path

end Terrasmith.Cli

open Terrasmith in
def main (args : List String) : IO UInt32 := do
  let configDir? ← IO.getEnv "MPTF_DIR"
  let w ← match Cli.parse configDir? args with
    | .ok invocation => Cli.loadFor invocation
    | .error _ => pure {}
  let finished := Cli.run none configDir? args w
  Cli.store w finished.workspace
  IO.print finished.outcome.stdout
  IO.eprint finished.outcome.stderr
  return UInt32.ofNat finished.outcome.code
