import Terrasmith.Cli.Arguments

/-!
What a command line asks for.
-/
namespace Terrasmith.Cli

inductive OutputFormat where
  | json
  | yaml
  deriving Repr, DecidableEq

inductive Command where
  /-- Changes the module in `dir` as the configuration in `configDir` says. -/
  | transform (dir configDir : String) (recursive : Bool)
  /-- Puts back what the files of the module in `dir` were. -/
  | reset (dir : String) (recursive : Bool)
  /-- Shows the values of the blocks of the module in `dir`. -/
  | blocks (dir : String) (format : OutputFormat)
  /-- Shows the declarations of the configuration in `configDir` in their order. -/
  | order (configDir : String)
  deriving Repr, DecidableEq

structure Invocation where
  /-- Directories to enter one after the other. -/
  directories : List String
  command : Command
  deriving Repr, DecidableEq

def directory : OptionSpec := { name := "directory", short? := some 'C', kind := .paths }

def help : OptionSpec := { name := "help", short? := some 'h', kind := .help }

def version : OptionSpec := { name := "version", short? := some 'V', kind := .version }

def moduleDir : OptionSpec := { name := "tf-dir", kind := .path }

def configDir : OptionSpec := { name := "mptf-dir", kind := .path }

def recursive : OptionSpec := { name := "recursive", short? := some 'r', kind := .flag }

def outputFormat : OptionSpec := { name := "output-format", short? := some 'F', kind := .choice ["json", "yaml"] }

def topLevel : Level where
  options := [directory, help, version]
  commands := ["transform", "reset", "dev", "help"]

def devLevel : Level where
  options := [directory, help]
  commands := ["blocks", "order", "help"]

/-- The commands that may follow a command. -/
def commandsBelow (name : String) : List String :=
  if name = "dev" then devLevel.commands else []

/-- Whether names lead from one command to the next, starting with one of `commands`. -/
def isCommandPath : (commands names : List String) → Bool
  | _, [] => true
  | commands, name :: rest => commands.contains name && isCommandPath (commandsBelow name) rest

/-- What a call for help on a command comes to; the command must be there. -/
def helpOn (commands names : List String) : Stop :=
  if isCommandPath commands names then .help else .usage

/-- A command without further commands. -/
def leaf (options : List OptionSpec) : Level where
  options := [directory, help] ++ options

/-- The directories of the innermost command that names some. -/
def directoriesOf (levels : List Given) : List String :=
  ((levels.map (·.values directory.name)).reverse.find? fun dirs => !dirs.isEmpty).getD []

/-- The directory of the module: the current one unless another is given. -/
def moduleDirOf (given : Given) : String := (given.values moduleDir.name).head?.getD "."

/-- The directory of the configuration, which must be given in one of two ways. -/
def configDirOf (default? : Option String) (given : Given) : Except Stop String :=
  match (given.values configDir.name).head?, default? with
  | some dir, _ => .ok dir
  | none, some dir => if dir.isEmpty then .error .usage else .ok dir
  | none, none => .error .usage

def formatOf (given : Given) : OutputFormat :=
  if given.values outputFormat.name = ["json"] then .json else .yaml

/-- Reads the commands for development. -/
def parseDev (configDir? : Option String) (top : Given) (args : List String) : Except Stop Invocation := do
  let (dev, command?) ← devLevel.read none [] args
  match command? with
  | some ("blocks", rest) =>
    let (given, _) ← (leaf [moduleDir, outputFormat]).read none [] rest
    return ⟨directoriesOf [top, dev, given], .blocks (moduleDirOf given) (formatOf given)⟩
  | some ("order", rest) =>
    let (given, _) ← (leaf [configDir]).read none [] rest
    return ⟨directoriesOf [top, dev, given], .order (← configDirOf configDir? given)⟩
  | some ("help", rest) => throw (helpOn devLevel.commands rest)
  | _ => throw .usage

/-- Reads a command line. `configDir?` is the directory of the configuration where none is given. -/
def parse (configDir? : Option String) (args : List String) : Except Stop Invocation := do
  let (top, command?) ← topLevel.read none [] args
  match command? with
  | some ("transform", rest) =>
    let (given, _) ← (leaf [moduleDir, configDir, recursive]).read none [] rest
    return ⟨directoriesOf [top, given],
      .transform (moduleDirOf given) (← configDirOf configDir? given) (given.has recursive.name)⟩
  | some ("reset", rest) =>
    let (given, _) ← (leaf [moduleDir, recursive]).read none [] rest
    return ⟨directoriesOf [top, given], .reset (moduleDirOf given) (given.has recursive.name)⟩
  | some ("dev", rest) => parseDev configDir? top rest
  | some ("help", rest) => throw (helpOn topLevel.commands rest)
  | _ => throw .usage

end Terrasmith.Cli
