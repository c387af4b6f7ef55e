import Terrasmith.Text.Basic

/-!
The arguments of a command line. Every command has its options, which may be written long or short, and further
commands. What stands first on the line and is no option must be one of these.
-/
namespace Terrasmith.Cli

/-- What an option is for. -/
inductive OptionKind where
  /-- Takes no value and is given at most once. -/
  | flag
  /-- Takes a path and is given at most once. -/
  | path
  /-- Takes a path each time it is given. -/
  | paths
  /-- Takes one of some texts and is given at most once. -/
  | choice (texts : List String)
  | help
  | version
  deriving Repr, DecidableEq

structure OptionSpec where
  name : String
  short? : Option Char := none
  kind : OptionKind
  deriving Repr, DecidableEq

/-- A command: its options and the commands that may follow. -/
structure Level where
  options : List OptionSpec
  commands : List String := []

/-- Why arguments are not carried out. -/
inductive Stop where
  | usage
  | help
  | version
  deriving Repr, DecidableEq

/-- Options as given, each with its value. Flags have the empty value. -/
abbrev Given := List (String × String)

namespace Given

def has (given : Given) (name : String) : Bool := given.any (·.1 = name)

def values (given : Given) (name : String) : List String :=
  (given.filter (·.1 = name)).map (·.2)

end Given

namespace OptionSpec

def takesValue (o : OptionSpec) : Bool :=
  match o.kind with
  | .path | .paths | .choice _ => true
  | .flag | .help | .version => false

/-- Whether an option may be given after what was given before. -/
def mayFollow (o : OptionSpec) (given : Given) : Bool := o.kind = .paths || !given.has o.name

/-- Whether a text can be the value of an option. -/
def accepts (o : OptionSpec) (value : String) : Bool :=
  match o.kind with
  | .path | .paths => !value.isEmpty
  | .choice texts => texts.contains value
  | .flag | .help | .version => false

/-- Enters an option with its value. -/
def withValue (o : OptionSpec) (given : Given) (value : String) : Except Stop Given :=
  if o.accepts value && o.mayFollow given then .ok (given ++ [(o.name, value)]) else .error .usage

/-- Enters an option without a value. -/
def alone (o : OptionSpec) (given : Given) : Except Stop Given :=
  match o.kind with
  | .help => .error .help
  | .version => .error .version
  | _ => if o.mayFollow given then .ok (given ++ [(o.name, "")]) else .error .usage

end OptionSpec

namespace Level

/-- A long option, `name` or `name=value`. An option that still needs a value is left open. -/
def long (level : Level) (given : Given) (text : List Char) : Except Stop (Given × Option OptionSpec) :=
  let name := String.ofList (text.takeWhile (· ≠ '='))
  match level.options.find? (·.name = name) with
  | none => .error .usage
  | some o =>
    match o.takesValue, text.dropWhile (· ≠ '=') with
    | false, [] => (o.alone given).map (·, none)
    | false, _ => .error .usage
    | true, [] => .ok (given, some o)
    | true, _ :: value => (o.withValue given (String.ofList value)).map (·, none)

/-- Short options behind one dash. One that takes a value takes the rest. -/
def short (level : Level) : Given → List Char → Except Stop (Given × Option OptionSpec)
  | given, [] => .ok (given, none)
  | given, c :: rest =>
    match level.options.find? (·.short? = some c) with
    | none => .error .usage
    | some o =>
      if o.takesValue then
        match rest with
        | [] => .ok (given, some o)
        | '=' :: value => (o.withValue given (String.ofList value)).map (·, none)
        | value => (o.withValue given (String.ofList value)).map (·, none)
      else match o.alone given with
        | .error stop => .error stop
        | .ok given => level.short given rest

/-- Reads arguments up to the next command, which is given with the arguments behind it. `open?` is an option whose
value comes next. -/
def read (level : Level) : (open? : Option OptionSpec) → Given → List String →
    Except Stop (Given × Option (String × List String))
  | some _, _, [] => .error .usage
  | some o, given, value :: rest =>
    if Text.startsWith value "-" && value ≠ "-" then .error .usage
    else match o.withValue given value with
      | .error stop => .error stop
      | .ok given => level.read none given rest
  | none, given, [] => .ok (given, none)
  | none, given, arg :: rest =>
    match arg.toList with
    | ['-', '-'] => if rest.isEmpty then .ok (given, none) else .error .usage
    | '-' :: '-' :: text =>
      match level.long given text with
      | .error stop => .error stop
      | .ok (given, open?) => level.read open? given rest
    | '-' :: c :: text =>
      match level.short given (c :: text) with
      | .error stop => .error stop
      | .ok (given, open?) => level.read open? given rest
    | _ => if level.commands.contains arg then .ok (given, some (arg, rest)) else .error .usage

end Level

end Terrasmith.Cli
