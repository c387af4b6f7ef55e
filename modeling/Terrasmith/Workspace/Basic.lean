import Terrasmith.Workspace.Path

/-!
Workspaces: directories and files, and the directory that relative paths start from. A path leads from name to
name through directories that exist; there are no links, so every place has one location.
-/
namespace Terrasmith

/-- What a file holds: a text, or bytes that are no text. -/
inductive Content where
  | text (s : String)
  | bytes (b : List UInt8)
  deriving DecidableEq

/-- Bytes are a text when they are UTF-8. -/
def Content.ofBytes (b : ByteArray) : Content :=
  match String.fromUTF8? b with
  | some s => .text s
  | none => .bytes b.toList

inductive Node where
  | directory
  | file (content : Content)
  deriving DecidableEq

/-- The names that lead from the top to a file or directory. -/
abbrev Location := List String

/-- The absolute path of a location. -/
def Location.path (l : Location) : String := "/" ++ Text.join "/" l

/-- Why an operation on files fails. -/
inductive DiskError where
  | notFound
  | notDirectory
  | isDirectory
  | notText
  | nameTooLong
  | nulInPath
  deriving Repr, DecidableEq

def DiskError.message : DiskError → String
  | .notFound => "No such file or directory (os error 2)"
  | .notDirectory => "Not a directory (os error 20)"
  | .isDirectory => "Is a directory (os error 21)"
  | .notText => "stream did not contain valid UTF-8"
  | .nameTooLong => "File name too long (os error 36)"
  | .nulInPath => "file name contained an unexpected NUL byte"

structure Workspace where
  nodes : List (Location × Node) := []
  /-- Where relative paths start. -/
  cwd : Location := []

namespace Workspace

/-- What stands at a location. The top is always a directory. -/
def node? (w : Workspace) (l : Location) : Option Node :=
  if l = [] then some .directory else (w.nodes.find? (·.1 = l)).map (·.2)

def put (w : Workspace) (l : Location) (n : Node) : Workspace :=
  { w with nodes := (l, n) :: w.nodes.filter (·.1 ≠ l) }

def erase (w : Workspace) (l : Location) : Workspace :=
  { w with nodes := w.nodes.filter (·.1 ≠ l) }

theorem node?_put_self (w : Workspace) {l : Location} (h : l ≠ []) (n : Node) :
    (w.put l n).node? l = some n := by
  simp [node?, put, h]

theorem find?_filter_ne {α : Type} {k l : Location} (h : k ≠ l) (nodes : List (Location × α)) :
    (nodes.filter (·.1 ≠ l)).find? (·.1 = k) = nodes.find? (·.1 = k) := by
  rw [List.find?_filter]
  congr 1
  funext node
  by_cases hk : node.1 = k
  · simp [hk, h]
  · simp [hk]

theorem node?_put_of_ne (w : Workspace) {k l : Location} (h : k ≠ l) (n : Node) :
    (w.put l n).node? k = w.node? k := by
  unfold node? put
  rw [List.find?_cons_of_neg (by simpa using h.symm), find?_filter_ne h]

theorem node?_erase_self (w : Workspace) {l : Location} (h : l ≠ []) : (w.erase l).node? l = none := by
  simp [node?, erase, h]

theorem node?_erase_of_ne (w : Workspace) {k l : Location} (h : k ≠ l) :
    (w.erase l).node? k = w.node? k := by
  unfold node? erase
  rw [find?_filter_ne h]

/-- How many bytes a name may have. -/
def nameLimit : Nat := 255

/-- Follows the parts of a path. Each part must be sought in a directory; what it names may be missing. -/
def walk (w : Workspace) : Location → List String → Except DiskError Location
  | l, [] => .ok l
  | l, name :: rest =>
    match w.node? l with
    | none => .error .notFound
    | some (.file _) => .error .notDirectory
    | some .directory =>
      if name = "" || name = "." then w.walk l rest
      else if name = ".." then w.walk l.dropLast rest
      else if nameLimit < name.utf8ByteSize then .error .nameTooLong
      else w.walk (l ++ [name]) rest

/-- Where a path leads. -/
def locate (w : Workspace) (path : String) : Except DiskError Location :=
  if path.toList.contains (Char.ofNat 0) then .error .nulInPath
  else if path.isEmpty then .error .notFound
  else w.walk (if Path.isAbsolute path then [] else w.cwd) (Path.components path)

/-- What a path leads to. -/
def find (w : Workspace) (path : String) : Except DiskError Node := do
  match w.node? (← w.locate path) with
  | some n => return n
  | none => throw .notFound

def hasPath (w : Workspace) (path : String) : Bool := (w.find path).isOk

/-- The absolute path, without dots, of what a path leads to. -/
def canonical (w : Workspace) (path : String) : Except DiskError String := do
  let l ← w.locate path
  match w.node? l with
  | some _ => return l.path
  | none => throw .notFound

/-- The absolute path of a directory, or the path itself if it leads nowhere. -/
def absolute (w : Workspace) (path : String) : String :=
  match w.canonical path with
  | .ok absolutePath => absolutePath
  | .error _ => path

/-- The text of a file. -/
def read (w : Workspace) (path : String) : Except DiskError String := do
  match ← w.find path with
  | .directory => throw .isDirectory
  | .file (.bytes _) => throw .notText
  | .file (.text s) => return s

/-- Writes a file, which is created if it is not there. A path that ends in a slash names a directory. -/
def write (w : Workspace) (path text : String) : Except DiskError Workspace := do
  if Text.endsWith path "/" then
    let _ ← w.locate (Path.withoutEndSlashes path)
    throw .isDirectory
  let l ← w.locate path
  match w.node? l with
  | some .directory => throw .isDirectory
  | _ => return w.put l (.file (.text text))

/-- Removes a file. -/
def remove (w : Workspace) (path : String) : Except DiskError Workspace := do
  let l ← w.locate path
  match w.node? l with
  | none => throw .notFound
  | some .directory => throw .isDirectory
  | some (.file _) => return w.erase l

/-- The last name of the location of a file that stands directly in `l`. -/
def fileIn? (l : Location) : Location × Node → Option String
  | (k, .file _) => if k.dropLast = l then k.getLast? else none
  | (_, .directory) => none

/-- The names of the files directly in a directory, sorted. -/
def fileNames (w : Workspace) (path : String) : Except DiskError (List String) := do
  let l ← w.locate path
  match w.node? l with
  | none => throw .notFound
  | some (.file _) => throw .notDirectory
  | some .directory => return (w.nodes.filterMap (fileIn? l)).mergeSort fun a b => !(b < a)

/-- Makes a directory the one that relative paths start from. -/
def enter (w : Workspace) (path : String) : Except DiskError Workspace := do
  let l ← w.locate path
  match w.node? l with
  | none => throw .notFound
  | some (.file _) => throw .notDirectory
  | some .directory => return { w with cwd := l }

/-- Puts a node where none stands. -/
def putMissing (w : Workspace) (l : Location) (n : Node) : Workspace :=
  if (w.node? l).isSome then w else w.put l n

/-- Adds a directory and those above it. -/
def addDirectory (w : Workspace) (l : Location) : Workspace :=
  (List.range (l.length + 1)).foldl (fun w n => w.putMissing (l.take n) .directory) w

/-- Adds a file and the directories above it. -/
def addFile (w : Workspace) (l : Location) (content : Content) : Workspace :=
  (w.addDirectory l.dropLast).put l (.file content)

/-- The files at and below a location, with their names from there on. -/
def filesBelow (w : Workspace) (l : Location) : List (Location × Content) :=
  w.nodes.filterMap fun
    | (k, .file content) => if k.take l.length = l then some (k.drop l.length, content) else none
    | (_, .directory) => none

end Workspace

end Terrasmith
