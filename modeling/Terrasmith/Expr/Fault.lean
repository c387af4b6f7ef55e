import Terrasmith.Expr.Display
import Terrasmith.Function.Fault

/-!
Why the evaluation of an expression fails.
-/
namespace Terrasmith

/-- What a value should have been. -/
inductive Wanted where
  | boolean
  | keyText
  | array
  | object
  | index
  | indexOrKey
  | collection
  deriving Repr, DecidableEq

def Wanted.text : Wanted → String
  | .boolean => "a boolean"
  | .keyText => "a string, boolean or number"
  | .array => "an array"
  | .object => "an object"
  | .index => "an unsigned integer"
  | .indexOrKey => "an unsigned integer or string"
  | .collection => "an array or object"

inductive Cause where
  | undefinedVariable (name : String)
  | undefinedFunction (name : List String)
  | unexpected (found : Value) (wanted : Wanted)
  | outOfBounds (index : Nat)
  | noSuchKey (key : String)
  | keyExists (key : String)
  | unaryOp (op : UnaryOp) (operand : Value)
  | binaryOp (op : BinaryOp) (left right : Value)
  | call (name : List String) (fault : Function.Fault)

def Cause.message : Cause → String
  | .undefinedVariable name => "undefined variable `" ++ name ++ "`"
  | .undefinedFunction name => "undefined function `" ++ Text.join "::" name ++ "`"
  | .unexpected found wanted => "unexpected value `" ++ found.display ++ "`, expected " ++ wanted.text
  | .outOfBounds index => "index out of bounds: " ++ Number.natText index
  | .noSuchKey key => "no such key: `" ++ key ++ "`"
  | .keyExists key => "key `" ++ key ++ "` already exists"
  | .unaryOp op operand => "unary operator `" ++ op.symbol ++ "` is not applicable to `" ++ operand.display ++ "`"
  | .binaryOp op left right =>
    "binary operator `" ++ op.symbol ++ "` is not applicable to `" ++ left.display ++ "` and `"
      ++ right.display ++ "`"
  | .call name fault => "error calling function `" ++ Text.join "::" name ++ "`: " ++ fault.message

/-- How an evaluation fails: for a cause, named with the expression around the one that failed, or at a template
whose text cannot be read. -/
inductive Fault where
  | caused (cause : Cause) (within : Expr)
  | unreadable

def Fault.message : Fault → String
  | .caused cause within => cause.message ++ " in expression `" ++ within.display ++ "`"
  | .unreadable => Display.unreadable

/-- Why an expression has no value: its evaluation failed, or one of the calls in it that are carried out
beforehand did. -/
inductive EvalError where
  | failed (expr : Expr) (fault : Fault)
  /-- No argument of the call has a value; the last one fails so. -/
  | exhausted (call : Expr) (last : EvalError)
  | noArgument (call : Expr)
  | notOneArgument (call : Expr)

def EvalError.message : EvalError → String
  | .failed expr fault => "failed to evaluate `" ++ expr.display ++ "`: " ++ fault.message
  | .exhausted call last =>
    "failed to evaluate `" ++ call.display ++ "`: no argument could be evaluated, last: " ++ last.message
  | .noArgument call => "failed to evaluate `" ++ call.display ++ "`: try takes at least one argument"
  | .notOneArgument call => "failed to evaluate `" ++ call.display ++ "`: can takes exactly one argument"

end Terrasmith
