import Terrasmith.Text.Basic

/-!
Paths as written. Joining works on the text alone; where a path leads is told by a workspace.
-/
namespace Terrasmith.Path

def isAbsolute (path : String) : Bool := Text.startsWith path "/"

/-- A path as seen from a directory. An absolute path stays what it is. -/
def join (dir path : String) : String :=
  if isAbsolute path then path
  else if dir.isEmpty || Text.endsWith dir "/" then dir ++ path
  else dir ++ "/" ++ path

/-- The parts between the slashes, empty ones included. -/
def components (path : String) : List String := Text.splitOn path "/"

/-- What precedes the slashes at the end. -/
def withoutEndSlashes (path : String) : String :=
  String.ofList (path.toList.reverse.dropWhile (· = '/')).reverse

end Terrasmith.Path
