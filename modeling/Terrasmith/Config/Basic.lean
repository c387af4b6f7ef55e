import Terrasmith.Config.Declaration

/-!
Configurations. All files of a configuration are checked together, and every problem found is reported.
-/
namespace Terrasmith

open Source

/-- The declarations of a configuration in load order. -/
structure Config where
  declarations : List Declaration

namespace Config

/-- What the names of configuration files end in. -/
def fileSuffix : String := ".mptf.hcl"

/-- A file of a configuration: its name and what it holds, or nothing if it cannot be read as a body. -/
structure Document where
  source : String
  body? : Option Body

/-- Declarations accepted so far, with the numbers of their blocks, and the problems found. -/
structure Checked where
  accepted : List (Nat × Declaration) := []
  issues : List Issue := []

/-- Checks one more root block. -/
def Checked.block (c : Checked) (index : Nat) (source : String) (b : Block) : Checked :=
  match Declaration.ofBlock index source b with
  | .error issue => { c with issues := c.issues ++ [issue] }
  | .ok d =>
    match c.accepted.find? fun (_, existing) => existing.address = d.address with
    | some (existing, _) => { c with issues := c.issues ++ [.duplicateAddress existing index] }
    | none => { c with accepted := c.accepted ++ [(index, d)] }

/-- The root blocks of all files with their files. -/
def rootBlocks (documents : List Document) : List (String × Block) :=
  documents.flatMap fun d => ((d.body?.map Body.blocks).getD []).map fun b => (d.source, b)

/-- The attributes that stand outside of blocks in all files. -/
def rootAttributes (documents : List Document) : List Attribute :=
  documents.flatMap fun d => (d.body?.map Body.attributes).getD []

/-- Problems that do not concern a root block: unreadable files, then attributes outside of blocks. -/
def outerIssues (documents : List Document) : List Issue :=
  ((documents.filter (·.body?.isNone)).map fun d => .unreadable d.source)
    ++ (List.range (rootAttributes documents).length).map .rootAttribute

/-- The configuration of some files, or all problems in them. -/
def ofDocuments (documents : List Document) : Except (List Issue) Config :=
  let start : Checked := { issues := outerIssues documents }
  let checked := (rootBlocks documents).zipIdx.foldl (fun c ((source, b), index) => c.block index source b) start
  if checked.issues.isEmpty then .ok ⟨checked.accepted.map (·.2)⟩ else .error checked.issues

/-- The declaration of an address. -/
def get? (c : Config) (address : String) : Option Declaration :=
  c.declarations.find? (·.address = address)

end Config

end Terrasmith
