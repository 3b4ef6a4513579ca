import FunctionCatalog.Numeric.Number
import FunctionCatalog.SemanticType
set_option autoImplicit false

/-!
The expressions that stand as arguments at a call, each with the place in the source where it was
written. Nodes are the same when they are of one kind and agree in every part, places included.
Numbers agree by value, and a NaN agrees with nothing, so a node that holds one somewhere differs
from its own copy.
-/

namespace FunctionCatalog

structure Span where
  startLine : Int
  startColumn : Int
  endLine : Int
  endColumn : Int
  file : Option String
  deriving DecidableEq

def Span.isWritable (s : Span) : Bool :=
  [s.startLine, s.startColumn, s.endLine, s.endColumn].all FunctionCatalog.isWritable

inductive Expression where
  | number (span : Option Span) (value : Number)
  | string (span : Option Span) (value : String)
  | boolean (span : Option Span) (value : Bool)
  | identifier (span : Option Span) (name : String)
  | vector (span : Option Span) (items : List Expression)
  | call (span : Option Span) (function : String) (args : List Expression)

namespace Expression

def span : Expression → Option Span
  | .number s _ | .string s _ | .boolean s _ | .identifier s _ | .vector s _ | .call s _ _ => s

mutual

def isWritable : Expression → Bool
  | .number s v => s.all Span.isWritable && v.isWritable
  | .string s _ | .boolean s _ | .identifier s _ => s.all Span.isWritable
  | .vector s items | .call s _ items => s.all Span.isWritable && itemsWritable items

def itemsWritable : List Expression → Bool
  | [] => true
  | e :: rest => isWritable e && itemsWritable rest

end

mutual

/-- How many nodes stand in one another at most. -/
def depth : Expression → Nat
  | .vector _ items | .call _ _ items => depthOf items + 1
  | _ => 1

def depthOf : List Expression → Nat
  | [] => 0
  | e :: rest => max (depth e) (depthOf rest)

end

mutual

def same : Expression → Expression → Bool
  | .number s a, .number t b => decide (s = t) && a.same b
  | .string s a, .string t b => decide (s = t ∧ a = b)
  | .boolean s a, .boolean t b => decide (s = t ∧ a = b)
  | .identifier s a, .identifier t b => decide (s = t ∧ a = b)
  | .vector s xs, .vector t ys => decide (s = t) && sameItems xs ys
  | .call s f xs, .call t g ys => decide (s = t ∧ f = g) && sameItems xs ys
  | _, _ => false

def sameItems : List Expression → List Expression → Bool
  | [], [] => true
  | x :: xs, y :: ys => same x y && sameItems xs ys
  | _, _ => false

end

end Expression

structure Argument where
  expression : Expression
  staticType : SemanticType := .any

inductive Literal where
  | number (value : Number)
  | string (value : String)
  | boolean (value : Bool)

namespace Argument

def same (a b : Argument) : Bool :=
  a.expression.same b.expression && decide (a.staticType = b.staticType)

def literal? (a : Argument) : Option Literal :=
  match a.expression with
  | .number _ v => some (.number v)
  | .string _ v => some (.string v)
  | .boolean _ v => some (.boolean v)
  | _ => none

/-- The most that is known of an argument's type. A written string is narrowed to itself whatever
was worked out for it; the other literals only fill in a type that is not known. -/
def preciseType (a : Argument) : SemanticType :=
  match a.expression with
  | .string _ v => .literalOf v
  | e =>
    if a.staticType ≠ .any then a.staticType
    else
      match e with
      | .boolean _ _ => .boolean
      | .number _ _ => .scalar
      | .vector _ _ => .vector
      | _ => .any

end Argument

end FunctionCatalog
