import Terrasmith.Expr.Basic

/-!
Operator precedence. Operations are written as chains that nest to the right; grouping turns every chain
into the tree that is evaluated. Operators of equal precedence stay grouped to the right.
-/
namespace Terrasmith

namespace Expr

/-- Puts an operand and its operator in front of a grouped right side: they bind to the leftmost operand
that is only held by operators of lower precedence. -/
def attach (left : Expr) (op : BinaryOp) : Expr → Expr
  | .binary l o r =>
    if o.precedence < op.precedence then .binary (attach left op l) o r
    else .binary left op (.binary l o r)
  | right => .binary left op right

mutual

/-- The expression with all chains of operators grouped by precedence. -/
def group : Expr → Expr
  | .template form source elements? => .template form source (groupBranch elements?)
  | .array items => .array (groupAll items)
  | .object entries => .object (groupEntries entries)
  | .traversal root path => .traversal (group root) (groupPath path)
  | .call name args expand => .call name (groupAll args) expand
  | .parens inner => .parens (group inner)
  | .conditional c t f => .conditional (group c) (group t) (group f)
  | .unary op e => .unary op (group e)
  | .binary l op r => attach (group l) op (group r)
  | .listFor loop value => .listFor (groupLoop loop) (group value)
  | .objectFor loop key value grouping => .objectFor (groupLoop loop) (group key) (group value) grouping
  | e => e

def groupAll : List Expr → List Expr
  | [] => []
  | e :: rest => group e :: groupAll rest

def groupOption : Option Expr → Option Expr
  | none => none
  | some e => some (group e)

def groupLoop : Loop → Loop
  | .mk key value collection condition => .mk key value (group collection) (groupOption condition)

def groupKey : Key → Key
  | .ident name => .ident name
  | .expr e => .expr (group e)

def groupEntry : Entry → Entry
  | .mk key value => .mk (groupKey key) (group value)

def groupEntries : List Entry → List Entry
  | [] => []
  | entry :: rest => groupEntry entry :: groupEntries rest

def groupAccess : Access → Access
  | .index e => .index (group e)
  | access => access

def groupPath : List Access → List Access
  | [] => []
  | access :: rest => groupAccess access :: groupPath rest

def groupElement : Element → Element
  | .literal text => .literal text
  | .interpolation e strip => .interpolation (group e) strip
  | .ifDirective c t f ifStrip elseStrip endStrip =>
    .ifDirective (group c) (groupElements t) (groupBranch f) ifStrip elseStrip endStrip
  | .forDirective key value collection body forStrip endStrip =>
    .forDirective key value (group collection) (groupElements body) forStrip endStrip

def groupBranch : Option (List Element) → Option (List Element)
  | none => none
  | some elements => some (groupElements elements)

def groupElements : List Element → List Element
  | [] => []
  | element :: rest => groupElement element :: groupElements rest

end

end Expr

end Terrasmith
