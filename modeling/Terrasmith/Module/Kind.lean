/-!
The kinds of blocks that have an address in a module, and how addresses are written.
-/
namespace Terrasmith

inductive BlockKind where
  | resource
  | data
  | module
  | variable
  | output
  | terraform
  | local
  deriving Repr, DecidableEq, Inhabited

namespace BlockKind

/-- The kind declared by a top-level block of this identifier. Locals are declared by attributes. -/
def ofIdent? : String → Option BlockKind
  | "resource" => some .resource
  | "data" => some .data
  | "module" => some .module
  | "variable" => some .variable
  | "output" => some .output
  | "terraform" => some .terraform
  | _ => none

/-- The number of labels a block of this kind has. -/
def labelCount : BlockKind → Nat
  | .resource | .data => 2
  | .module | .variable | .output | .local => 1
  | .terraform => 0

def name : BlockKind → String
  | .resource => "resource"
  | .data => "data"
  | .module => "module"
  | .variable => "variable"
  | .output => "output"
  | .terraform => "terraform"
  | .local => "local"

/-- The address of a block in its module: its kind and its labels. -/
def address (kind : BlockKind) (labels : List String) : String :=
  String.intercalate "." (kind.name :: labels)

/-- The address in Terraform's own expressions: resources go without a kind, variables are short. -/
def terraformAddress (kind : BlockKind) (labels : List String) : String :=
  let lead := match kind with
    | .resource => []
    | .variable => ["var"]
    | other => [other.name]
  String.intercalate "." (lead ++ labels)

end BlockKind

end Terrasmith
