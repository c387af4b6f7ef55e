import Terrasmith.Expr.Eval
import Terrasmith.Source.Meaning

/-!
Calls of `try` and `can` see whether their arguments have a value, so they are carried out before the
expression around them is evaluated, and their results take their places. Loops are left alone, since their
insides speak of variables that exist only in their rounds.
-/
namespace Terrasmith

namespace Expr

/-- The value of an expression without calls to carry out beforehand. -/
def value (scope : Scope) (e : Expr) : Except EvalError Value :=
  let grouped := e.group
  match eval scope grouped grouped with
  | .ok v => .ok v
  | .error fault => .error (.failed e fault)

/-- The first value of the arguments of `try`, or the way the last of them fails. -/
def firstValue (call : Expr) : (last? : Option EvalError) → List (Except EvalError Value) → Except EvalError Value
  | _, .ok v :: _ => .ok v
  | _, .error e :: rest => firstValue call (some e) rest
  | some last, [] => .error (.exhausted call last)
  | none, [] => .error (.noArgument call)

/-- What a lazy call comes to, given what its arguments come to. -/
def lazyResult (call : Expr) (name : String) (args : List (Except EvalError Value)) : Except EvalError Value :=
  if name = "can" then
    match args with
    | [.ok _] => .ok (.bool true)
    | [.error _] => .ok (.bool false)
    | _ => .error (.notOneArgument call)
  else firstValue call none args

def isLazyName (name : String) : Bool := name = "try" || name = "can"

mutual

/-- Whether an expression holds a lazy call outside of loops. -/
def hasLazy : Expr → Bool
  | .call [name] args _ => isLazyName name || hasLazyAny args
  | .call _ args _ => hasLazyAny args
  | .array items => hasLazyAny items
  | .object entries => hasLazyEntries entries
  | .traversal root path => hasLazy root || hasLazyPath path
  | .parens inner => hasLazy inner
  | .conditional c t f => hasLazy c || hasLazy t || hasLazy f
  | .binary l _ r => hasLazy l || hasLazy r
  | .unary _ e => hasLazy e
  | .template _ _ elements? => hasLazyBranch elements?
  | _ => false
termination_by structural x => x

def hasLazyAny : List Expr → Bool
  | [] => false
  | e :: rest => hasLazy e || hasLazyAny rest
termination_by structural x => x

def hasLazyKey : Key → Bool
  | .ident _ => false
  | .expr e => hasLazy e
termination_by structural x => x

def hasLazyEntry : Entry → Bool
  | .mk key e => hasLazyKey key || hasLazy e
termination_by structural x => x

def hasLazyEntries : List Entry → Bool
  | [] => false
  | entry :: rest => hasLazyEntry entry || hasLazyEntries rest
termination_by structural x => x

def hasLazyAccess : Access → Bool
  | .index e => hasLazy e
  | _ => false
termination_by structural x => x

def hasLazyPath : List Access → Bool
  | [] => false
  | access :: rest => hasLazyAccess access || hasLazyPath rest
termination_by structural x => x

def hasLazyElement : Element → Bool
  | .interpolation e _ => hasLazy e
  | .ifDirective c t f? _ _ _ => hasLazy c || hasLazyElements t || hasLazyBranch f?
  | _ => false
termination_by structural x => x

def hasLazyElements : List Element → Bool
  | [] => false
  | element :: rest => hasLazyElement element || hasLazyElements rest
termination_by structural x => x

def hasLazyBranch : Option (List Element) → Bool
  | none => false
  | some elements => hasLazyElements elements
termination_by structural x => x

end

mutual

/-- The expression with its lazy calls carried out. -/
def resolve (scope : Scope) : Expr → Except EvalError Expr
  | .call [name] args expand =>
    if isLazyName name then do
      return .ofValue (← lazyResult (.call [name] args expand) name (argumentValues scope args))
    else do return .call [name] (← resolveAll scope args) expand
  | .call name args expand => do return .call name (← resolveAll scope args) expand
  | .array items => do return .array (← resolveAll scope items)
  | .object entries => do return .object (← resolveEntries scope [] entries)
  | .traversal root path => do
    let root ← resolve scope root
    return .traversal root (← resolvePath scope path)
  | .parens inner => do return .parens (← resolve scope inner)
  | .conditional c t f => do
    let c ← resolve scope c
    let t ← resolve scope t
    return .conditional c t (← resolve scope f)
  | .binary l op r => do
    let l ← resolve scope l
    return .binary l op (← resolve scope r)
  | .unary op e => do return .unary op (← resolve scope e)
  | .template form source elements? =>
    if hasLazyBranch elements? then do
      let resolved ← resolveBranch scope elements?
      return .quotedTemplate (Display.elementsText (resolved.getD []))
    else return .template form source elements?
  | e => .ok e
termination_by structural x => x

/-- What the arguments of a lazy call come to, each on its own. -/
def argumentValues (scope : Scope) : List Expr → List (Except EvalError Value)
  | [] => []
  | e :: rest => (resolve scope e >>= value scope) :: argumentValues scope rest
termination_by structural x => x

def resolveAll (scope : Scope) : List Expr → Except EvalError (List Expr)
  | [] => .ok []
  | e :: rest => do
    let e ← resolve scope e
    return e :: (← resolveAll scope rest)
termination_by structural x => x

def resolveKey (scope : Scope) : Key → Except EvalError Key
  | .ident name => .ok (.ident name)
  | .expr e => do return .expr (← resolve scope e)
termination_by structural x => x

def resolveEntry (scope : Scope) : Entry → Except EvalError (Key × Expr)
  | .mk key e => do
    let key ← resolveKey scope key
    return (key, ← resolve scope e)
termination_by structural x => x

/-- Entries written over those in `done`. -/
def resolveEntries (scope : Scope) (done : List Entry) : List Entry → Except EvalError (List Entry)
  | [] => .ok done
  | entry :: rest => do
    let (key, e) ← resolveEntry scope entry
    resolveEntries scope (insertKey key e done) rest
termination_by structural x => x

def resolveAccess (scope : Scope) : Access → Except EvalError Access
  | .index e => do return .index (← resolve scope e)
  | access => .ok access
termination_by structural x => x

def resolvePath (scope : Scope) : List Access → Except EvalError (List Access)
  | [] => .ok []
  | access :: rest => do
    let access ← resolveAccess scope access
    return access :: (← resolvePath scope rest)
termination_by structural x => x

def resolveElement (scope : Scope) : Element → Except EvalError Element
  | .interpolation e strip => do return .interpolation (← resolve scope e) strip
  | .ifDirective c t f? ifStrip elseStrip endStrip => do
    let c ← resolve scope c
    let t ← resolveElements scope t
    return .ifDirective c t (← resolveBranch scope f?) ifStrip elseStrip endStrip
  | element => .ok element
termination_by structural x => x

def resolveElements (scope : Scope) : List Element → Except EvalError (List Element)
  | [] => .ok []
  | element :: rest => do
    let element ← resolveElement scope element
    return element :: (← resolveElements scope rest)
termination_by structural x => x

def resolveBranch (scope : Scope) : Option (List Element) → Except EvalError (Option (List Element))
  | none => .ok none
  | some elements => do return some (← resolveElements scope elements)
termination_by structural x => x

end

/-- The value of an expression. -/
def evaluate (scope : Scope) (e : Expr) : Except EvalError Value := do
  value scope (← resolve scope e)

end Expr

end Terrasmith
