import Terrasmith.Workspace.Basic

/-!
Backups of files. The backup of a file stands beside it and holds what the file held at first, nothing for a
file that was not there. Resetting a directory puts all that back.
-/
namespace Terrasmith

namespace Backup

/-- What the names of backups end in. -/
def suffix : String := ".mptfbackup"

/-- The path of the backup of a file. -/
def pathOf (path : String) : String := path ++ suffix

/-- The name of the file that a backup belongs to. -/
def target? (name : String) : Option String :=
  match Text.stripEnd? name suffix with
  | some target => if target.isEmpty then none else some target
  | none => none

inductive Action where
  | read
  | write
  | remove
  deriving Repr, DecidableEq

def Action.name : Action → String
  | .read => "read"
  | .write => "write"
  | .remove => "remove"

end Backup

structure BackupError where
  action : Backup.Action
  path : String
  cause : DiskError
  deriving Repr, DecidableEq

/-- The message and that of its cause. -/
def BackupError.chain (e : BackupError) : List String :=
  ["failed to " ++ e.action.name ++ " " ++ e.path, e.cause.message]

namespace Workspace

open Backup

/-- Writes the backup of a file unless there is one, and tells whether it was written. -/
def writeBackup (w : Workspace) (path : String) (content? : Option String) :
    Except BackupError (Workspace × Bool) :=
  let backup := pathOf path
  if w.hasPath backup then .ok (w, false)
  else match w.write backup (content?.getD "") with
    | .ok w => .ok (w, true)
    | .error e => .error ⟨.write, backup, e⟩

/-- Gives a file the content of its backup, or removes the file if there is none. -/
def restoreContent (w : Workspace) (target content : String) : Except BackupError Workspace :=
  if content.isEmpty then
    if w.hasPath target then (w.remove target).mapError (⟨.remove, target, ·⟩) else .ok w
  else (w.write target content).mapError (⟨.write, target, ·⟩)

/-- Restores a file from its backup and removes the backup. -/
def restore (w : Workspace) (target : String) : Except BackupError Workspace := do
  let backup := pathOf target
  let content ← (w.read backup).mapError (⟨.read, backup, ·⟩)
  let w ← w.restoreContent target content
  (w.remove backup).mapError (⟨.remove, backup, ·⟩)

/-- Restores files one after the other up to the first that fails, and tells which. -/
def restoreAll : List String → Workspace → Workspace × Except BackupError (List String)
  | [], w => (w, .ok [])
  | target :: rest, w =>
    match w.restore target with
    | .error e => (w, .error e)
    | .ok w =>
      let (w, restored) := restoreAll rest w
      (w, restored.map (target :: ·))

/-- Restores all files of a directory that have backups. -/
def reset (w : Workspace) (dir : String) : Workspace × Except BackupError (List String) :=
  match w.fileNames dir with
  | .error e => (w, .error ⟨.read, dir, e⟩)
  | .ok names => restoreAll ((names.filterMap target?).map (Path.join dir)) w

end Workspace

end Terrasmith
