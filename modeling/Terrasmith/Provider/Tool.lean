import Terrasmith.Provider.Schema
import Terrasmith.Source.Quote

/-!
Schemas asked from Terraform. A configuration that requires just the provider is initialised, and then the
schemas are listed. What the program answers is given, so that the outcome and the calls are pure.
-/
namespace Terrasmith.Provider

/-- What a call of a program left behind. -/
structure Output where
  code : Nat
  stdout : String
  stderr : String
  deriving Repr, DecidableEq, Inhabited

/-- How the program answers its two commands. -/
structure Tool where
  init : Output
  schema : Output
  deriving Repr, DecidableEq, Inhabited

/-- A call of the program, with the configuration that it initialised. -/
structure Call where
  args : List String
  configuration? : Option String
  deriving Repr, DecidableEq

/-- The line of a call, and the configuration behind it. -/
def Call.log (c : Call) : String :=
  "terraform " ++ Text.join " " c.args ++ "\n" ++ c.configuration?.getD ""

inductive Failure where
  /-- The program could not be started. -/
  | notStarted
  | failed (args : List String) (stderr : String)
  | badOutput
  | missing (m : Missing)

/-- The message and those of its causes. -/
def Failure.chain : Failure → List String
  | .notStarted => ["failed to prepare the terraform workspace", "No such file or directory (os error 2)"]
  | .failed args stderr => ["`terraform " ++ Text.join " " args ++ "` failed: " ++ stderr]
  | .badOutput => ["unexpected schema output", "<json error>"]
  | .missing m => [m.message]

def initArgs : List String := ["init", "-input=false", "-no-color"]

def schemaArgs : List String := ["providers", "schema", "-json"]

/-- The configuration that requires just one provider. -/
def configuration (source version : String) : String :=
  let name := (Text.splitOn source "/").getLast?.getD source
  "terraform \x7b\n  required_providers \x7b\n    " ++ name ++ " = \x7b\n      source  = " ++ Source.quote source
    ++ "\n      version = " ++ Source.quote version ++ "\n    \x7d\n  \x7d\n\x7d\n"

/-- The calls made for the schemas of a provider, and what came of them. -/
def ask (tool? : Option Tool) (source version : String) : List Call × Except Failure Value :=
  match tool? with
  | none => ([], .error .notStarted)
  | some tool =>
    let init : Call := ⟨initArgs, some (configuration source version)⟩
    if tool.init.code ≠ 0 then ([init], .error (.failed initArgs (Text.trim tool.init.stderr)))
    else
      let calls := [init, ⟨schemaArgs, none⟩]
      if tool.schema.code ≠ 0 then (calls, .error (.failed schemaArgs (Text.trim tool.schema.stderr)))
      else match parse? tool.schema.stdout with
        | none => (calls, .error .badOutput)
        | some providers =>
          match select providers source with
          | .ok v => (calls, .ok v)
          | .error m => (calls, .error (.missing m))

end Terrasmith.Provider
