import FunctionCatalog.Expression
import FunctionCatalog.Fault
import FunctionCatalog.Flags
import FunctionCatalog.Parameter
set_option autoImplicit false

/-!
Signatures: one way of calling one function. All that can be compared of a signature is its
profile. The rule that gives the result type at a call is a function, so it takes no part in
comparison; the profile's result type is what the rule gives for no arguments at all.
-/

namespace FunctionCatalog

/-- What a function handed in by a caller reports when it declines: a fault of declaring and naming
that it met, or a kind and a text of its own. -/
inductive Refusal where
  | fault (fault : Fault)
  | reason (kind message : String)
  deriving DecidableEq

abbrev ReturnRule := List Argument → Except Refusal SemanticType

def ReturnRule.constant (type : SemanticType) : ReturnRule := fun _ => .ok type

structure Profile where
  name : String
  description : String
  returnType : SemanticType
  fixed : List FixedParameter
  variadic : Option VariadicParameter
  flags : Flags
  deriving DecidableEq

structure Signature extends Profile where
  rule : ReturnRule

namespace Profile

def isWritable (p : Profile) : Bool := p.variadic.all VariadicParameter.isWritable

def required (p : Profile) : List FixedParameter := p.fixed.filter fun q => q.required

def optional (p : Profile) : List FixedParameter := p.fixed.filter fun q => !q.required

def minimumCount (p : Profile) : Int :=
  match p.variadic with
  | none => p.required.length
  | some v => p.required.length + v.minimumCount

def maximumCount? (p : Profile) : Option Nat :=
  match p.variadic with
  | none => some p.fixed.length
  | some _ => none

def bracketed (optional : Bool) (text : String) : String :=
  if optional then "[" ++ text ++ "]" else text

def fixedForm (p : FixedParameter) : String :=
  bracketed (!p.required) (p.name ++ ": " ++ p.type.name)

def variadicForm (v : VariadicParameter) : String :=
  bracketed (v.minimumCount ≤ 0) (v.displayName 0 ++ ": " ++ v.elementType.name ++ ", ...")

def displayForm (p : Profile) : String :=
  let parts := p.fixed.map fixedForm ++ (p.variadic.map variadicForm).toList
  p.name ++ "(" ++ ", ".intercalate parts ++ "): " ++ p.returnType.name

end Profile

namespace Signature

def infer (s : Signature) (args : List Argument) : Except Refusal SemanticType := s.rule args

/-- Equality that leaves the rule out. -/
def same (s t : Signature) : Bool := s.toProfile = t.toProfile

theorem same_iff (s t : Signature) : s.same t ↔ s.toProfile = t.toProfile := by simp [same]

end Signature

end FunctionCatalog
