import Terrasmith.Expr.Basic

/-!
The references in an expression. The path of a reference is its variable followed by the attributes accessed
directly on it; a traversal of anything but a variable has the empty path.
-/
namespace Terrasmith

namespace Expr

/-- The attributes accessed at the start of a traversal. -/
def leadingAttributes : List Access → List String
  | .attribute name :: rest => name :: leadingAttributes rest
  | _ => []

/-- The path of a traversal. -/
def referencePath : Expr → List Access → List String
  | .variable name, path => name :: leadingAttributes path
  | _, _ => []

def isVariable : Expr → Bool
  | .variable _ => true
  | _ => false

mutual

/-- The paths of all references, in the order they are written. -/
def references : Expr → List (List String)
  | .variable name => [[name]]
  | .traversal root path =>
    referencePath root path :: (if root.isVariable then [] else references root) ++ pathReferences path
  | .array items => allReferences items
  | .object entries => entriesReferences entries
  | .template _ _ elements? => branchReferences elements?
  | .call _ args _ => allReferences args
  | .parens inner => references inner
  | .conditional c t f => references c ++ references t ++ references f
  | .unary _ e => references e
  | .binary l _ r => references l ++ references r
  | .listFor (.mk _ _ collection condition?) value =>
    references collection ++ references value ++ optionReferences condition?
  | .objectFor (.mk _ _ collection condition?) key value _ =>
    references collection ++ references key ++ references value ++ optionReferences condition?
  | .null => []
  | .bool _ => []
  | .number _ => []
  | .string _ => []

def allReferences : List Expr → List (List String)
  | [] => []
  | e :: rest => references e ++ allReferences rest

def optionReferences : Option Expr → List (List String)
  | none => []
  | some e => references e

def keyReferences : Key → List (List String)
  | .ident _ => []
  | .expr e => references e

def entryReferences : Entry → List (List String)
  | .mk key value => keyReferences key ++ references value

def entriesReferences : List Entry → List (List String)
  | [] => []
  | entry :: rest => entryReferences entry ++ entriesReferences rest

def accessReferences : Access → List (List String)
  | .index e => references e
  | _ => []

def pathReferences : List Access → List (List String)
  | [] => []
  | access :: rest => accessReferences access ++ pathReferences rest

def elementReferences : Element → List (List String)
  | .literal _ => []
  | .interpolation e _ => references e
  | .ifDirective c t f? _ _ _ => references c ++ elementsReferences t ++ branchReferences f?
  | .forDirective _ _ collection body _ _ => references collection ++ elementsReferences body

def elementsReferences : List Element → List (List String)
  | [] => []
  | element :: rest => elementReferences element ++ elementsReferences rest

def branchReferences : Option (List Element) → List (List String)
  | none => []
  | some elements => elementsReferences elements

end

end Expr

end Terrasmith
