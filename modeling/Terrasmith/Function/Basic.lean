import Terrasmith.Function.Fault
import Terrasmith.Json.Read
import Terrasmith.Json.Write
import Terrasmith.Regex.Parse
import Terrasmith.Regex.Replace

/-!
The builtin functions. A function has a fixed number of parameters, and some take further arguments.
-/
namespace Terrasmith.Function

abbrev Result := Except Fault Value

def stringArg (function : String) : Value → Except Fault String
  | .string s => .ok s
  | v => .error (.wrongType function .string v)

def listArg (function : String) : Value → Except Fault (List Value)
  | .array items => .ok items
  | v => .error (.wrongType function .list v)

def objectArg (function : String) : Value → Except Fault (List (String × Value))
  | .object entries => .ok entries
  | v => .error (.wrongType function .object v)

/-- Neither null nor the empty string. -/
def isPresent : Value → Bool
  | .null => false
  | .string "" => false
  | _ => true

/-- Objects written over one another; null counts as an empty object. -/
def merge : List Value → Except Fault (List (String × Value)) :=
  List.foldlM (fun merged arg =>
    if arg.isNull then .ok merged
    else do return insertEntries merged (← objectArg "merge" arg)) []

def length : Value → Result
  | .string s => .ok (.ofNat s.length)
  | .array items => .ok (.ofNat items.length)
  | .object entries => .ok (.ofNat entries.length)
  | v => .error (.noLength v)

def lookup (object key : Value) (default? : Option Value) : Result := do
  let entries ← objectArg "lookup" object
  let key ← stringArg "lookup" key
  match entries.lookup key, default? with
  | some v, _ => .ok v
  | none, some v => .ok v
  | none, none => .error (.keyNotFound key)

mutual

/-- The items of lists in lists, at any depth. -/
def flatten : Value → List Value
  | .array items => flattenAll items
  | v => [v]

def flattenAll : List Value → List Value
  | [] => []
  | v :: rest => flatten v ++ flattenAll rest

end

/-- The first of every kind of equal values. -/
def distinct (values : List Value) : List Value :=
  values.foldl (fun done v => if done.any v.same then done else done ++ [v]) []

def joinParts (lists : List Value) : Except Fault (List String) := do
  let parts ← lists.mapM fun list => do
    (← listArg "join" list).mapM fun v =>
      match v.primitiveText? with
      | some text => .ok text
      | none => .error Fault.elementNotPrimitive
  return parts.flatten

/-- The regular expression between slashes, if a text is written so. -/
def slashed? (text : String) : Option String :=
  match text.toList with
  | '/' :: rest =>
    match rest.reverse with
    | '/' :: inner => some (String.ofList inner.reverse)
    | _ => none
  | _ => none

def replace (text search replacement : String) : Result :=
  match slashed? search with
  | some pattern =>
    match Regex.parse? pattern with
    | some r => .ok (.string (r.replaceAll text replacement))
    | none => .error (.badPattern "replace")
  | none => .ok (.string (Text.replaceAll text search replacement))

/-- The text of a primitive value, and the JSON of any other. -/
def plainText (v : Value) : String :=
  v.primitiveText?.getD (Json.compact v)

/-- Fills the verbs of a format with the arguments one by one. -/
def format : List Char → List Value → Except Fault String
  | [], _ => .ok ""
  | ['%'], _ => .error .danglingPercent
  | '%' :: verb :: rest, args =>
    if verb = '%' then do return "%" ++ (← format rest args)
    else match args with
      | [] => .error .tooFewArguments
      | v :: args =>
        if verb = 's' || verb = 'v' || verb = 'd' then do return plainText v ++ (← format rest args)
        else if verb = 'q' then do return Json.compact v ++ (← format rest args)
        else .error (.unsupportedVerb verb)
  | c :: rest, args => do return String.singleton c ++ (← format rest args)

def toText : Value → Result
  | .null => .ok .null
  | v =>
    match v.primitiveText? with
    | some text => .ok (.string text)
    | none => .error (.noConversion "tostring" v "string")

def toNumber : Value → Result
  | .null => .ok .null
  | .number n => .ok (.number n)
  | .string text =>
    match Number.ofText? (Text.trim text) with
    | some n => .ok (.number n)
    | none => .error (.notNumber text)
  | v => .error (.noConversion "tonumber" v "number")

def toBool : Value → Result
  | .null => .ok .null
  | .bool b => .ok (.bool b)
  | .string "true" => .ok (.bool true)
  | .string "false" => .ok (.bool false)
  | v => .error (.noConversion "tobool" v "bool")

/-- The value of one match: the whole text, the named groups as an object or the groups as a list. -/
def matchValue (r : Regex) (text : List Char) (m : Regex.Match) : Value :=
  let group := fun index =>
    match m.groupText? text index with
    | some chars => Value.string (String.ofList chars)
    | none => .null
  let indices := (List.range r.groups.length).map (· + 1)
  let named := (r.groups.zip indices).filterMap fun (name?, index) => name?.map fun name => (name, group index)
  if r.groups.isEmpty then group 0
  else if named.isEmpty then .array (indices.map group)
  else .object (insertEntries [] named)

def regexAll (pattern text : String) : Result :=
  match Regex.parse? pattern with
  | some r => .ok (.array ((r.allMatches text.toList).map (matchValue r text.toList)))
  | none => .error (.badPattern "regexall")

def jsonDecode (text : String) : Result :=
  match Json.parse? text with
  | some document => .ok document.toValue
  | none => .error .badJson

/-- A builtin function: how many parameters it has, whether it takes more arguments, and what it computes. -/
structure Builtin where
  params : Nat
  variadic : Bool := false
  run : List Value → Result

/-- A function of one value. -/
def unary (f : Value → Result) : Builtin :=
  ⟨1, false, fun
    | [v] => f v
    | args => .error (.arity 1 args.length)⟩

/-- A function of two values. -/
def binary (f : Value → Value → Result) : Builtin :=
  ⟨2, false, fun
    | [a, b] => f a b
    | args => .error (.arity 2 args.length)⟩

/-- A function of three values. -/
def ternary (f : Value → Value → Value → Result) : Builtin :=
  ⟨3, false, fun
    | [a, b, c] => f a b c
    | args => .error (.arity 3 args.length)⟩

/-- A function of `params` values and any number of others. -/
def variadic (params : Nat) (f : List Value → Result) : Builtin := ⟨params, true, f⟩

/-- A function of one string. -/
def onString (name : String) (f : String → Value) : Builtin :=
  unary fun v => do return f (← stringArg name v)

/-- A function of one list. -/
def onList (name : String) (f : List Value → Value) : Builtin :=
  unary fun v => do return f (← listArg name v)

/-- A function of one object. -/
def onObject (name : String) (f : List (String × Value) → Value) : Builtin :=
  unary fun v => do return f (← objectArg name v)

/-- A function of two strings. -/
def onStrings (name : String) (f : String → String → Result) : Builtin :=
  binary fun a b => do f (← stringArg name a) (← stringArg name b)

/-- The builtin function of a name. -/
def builtin? : String → Option Builtin
  | "keys" => onObject "keys" fun entries => .array (entries.map fun (key, _) => .string key)
  | "values" => onObject "values" fun entries => .array (entries.map (·.2))
  | "length" => unary length
  | "contains" => binary fun list v => do return .bool ((← listArg "contains" list).any v.same)
  | "flatten" => onList "flatten" fun items => .array (flattenAll items)
  | "distinct" => onList "distinct" fun items => .array (distinct items)
  | "compact" => onList "compact" fun items => .array (items.filter isPresent)
  | "split" => onStrings "split" fun separator text =>
    .ok (.array ((Text.splitOn text separator).map .string))
  | "replace" => ternary fun text search replacement => do
    replace (← stringArg "replace" text) (← stringArg "replace" search) (← stringArg "replace" replacement)
  | "lower" => onString "lower" fun s => .string (Text.toLower s)
  | "upper" => onString "upper" fun s => .string (Text.toUpper s)
  | "trimspace" => onString "trimspace" fun s => .string (Text.trim s)
  | "startswith" => onStrings "startswith" fun text start => .ok (.bool (Text.startsWith text start))
  | "endswith" => onStrings "endswith" fun text stop => .ok (.bool (Text.endsWith text stop))
  | "tostring" => unary toText
  | "tonumber" => unary toNumber
  | "tobool" => unary toBool
  | "tolist" => onList "tolist" .array
  | "toset" => onList "toset" fun items => .array (distinct items)
  | "tomap" => onObject "tomap" .object
  | "jsonencode" => unary fun v => .ok (.string (Json.compact v))
  | "jsondecode" => unary fun v => do jsonDecode (← stringArg "jsondecode" v)
  | "regexall" => onStrings "regexall" regexAll
  | "can" => unary fun _ => .ok (.bool true)
  | "merge" => variadic 0 fun args => do return .object (← merge args)
  | "concat" => variadic 0 fun args => do return .array (← args.mapM (listArg "concat")).flatten
  | "coalesce" => variadic 0 fun args =>
    match args.find? isPresent with
    | some v => .ok v
    | none => .error .allNull
  | "join" => variadic 1 fun
    | separator :: lists => do return .string (Text.join (← stringArg "join" separator) (← joinParts lists))
    | [] => .error (.arity 1 0)
  | "format" => variadic 1 fun
    | spec :: args => do return .string (← format (← stringArg "format" spec).toList args)
    | [] => .error (.arity 1 0)
  | "lookup" => variadic 2 fun
    | object :: key :: more => lookup object key more.head?
    | args => .error (.arity 2 args.length)
  | "try" => variadic 0 fun args =>
    match args.find? fun v => !v.isNull with
    | some v => .ok v
    | none => .error .noneEvaluated
  | _ => none

/-- Calls a function after checking the number of its arguments. -/
def Builtin.call (b : Builtin) (args : List Value) : Result :=
  if args.length < b.params || (!b.variadic && b.params < args.length) then
    .error (.arity b.params args.length)
  else b.run args

end Terrasmith.Function
