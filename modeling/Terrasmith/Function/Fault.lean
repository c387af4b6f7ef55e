import Terrasmith.Value.Basic

/-!
Why a call of a builtin function fails.
-/
namespace Terrasmith.Function

/-- The kind of value that a parameter takes. -/
inductive Expected where
  | string
  | list
  | object
  deriving Repr, DecidableEq

def Expected.word : Expected → String
  | .string => "string"
  | .list => "list"
  | .object => "object"

inductive Fault where
  | arity (expected given : Nat)
  | wrongType (function : String) (expected : Expected) (found : Value)
  | noLength (found : Value)
  | keyNotFound (key : String)
  | elementNotPrimitive
  | badPattern (function : String)
  | badJson
  | danglingPercent
  | tooFewArguments
  | unsupportedVerb (verb : Char)
  | noConversion (function : String) (found : Value) (target : String)
  | notNumber (text : String)
  | allNull
  | noneEvaluated

def Fault.message : Fault → String
  | .arity expected given =>
    "expected " ++ Number.natText expected ++ " positional arguments, got " ++ Number.natText given
  | .wrongType function expected found =>
    function ++ ": expected " ++ expected.word ++ ", got " ++ found.typeName
  | .noLength found => "length: cannot take the length of " ++ found.typeName
  | .keyNotFound key => "lookup: key `" ++ key ++ "` not found and no default given"
  | .elementNotPrimitive => "join: elements must be primitive"
  | .badPattern function => function ++ ": <regex error>"
  | .badJson => "jsondecode: <json error>"
  | .danglingPercent => "format: dangling %"
  | .tooFewArguments => "format: not enough arguments"
  | .unsupportedVerb verb => "format: unsupported verb %" ++ String.singleton verb
  | .noConversion function found target =>
    function ++ ": cannot convert " ++ found.typeName ++ " to " ++ target
  | .notNumber text => "tonumber: `" ++ text ++ "` is not a number"
  | .allNull => "coalesce: no non-null arguments"
  | .noneEvaluated => "try: no argument could be evaluated"

end Terrasmith.Function
