import FunctionCatalog.Fault
import FunctionCatalog.Parameter
set_option autoImplicit false

/-!
The layout of a parameter list. Fixed names differ, required parameters come before optional ones,
and a variadic parameter follows no optional one and asks for no negative count. A layout that
breaks several of these rules is reported for the first of them, in this order.
-/

namespace FunctionCatalog

structure Layout where
  fixed : List FixedParameter
  variadic : Option VariadicParameter
  deriving DecidableEq

def firstRepeated? (seen : List String) : List String → Option String
  | [] => none
  | n :: rest => if n ∈ seen then some n else firstRepeated? (n :: seen) rest

/-- The first required parameter with an optional one before it, and the last such optional one. -/
def firstMisplaced? (optional : Option FixedParameter) :
    List FixedParameter → Option (FixedParameter × FixedParameter)
  | [] => none
  | p :: rest =>
    if p.required then
      match optional with
      | none => firstMisplaced? none rest
      | some q => some (p, q)
    else firstMisplaced? (some p) rest

namespace Layout

def lastOptional? (l : Layout) : Option FixedParameter :=
  (l.fixed.filter fun p => !p.required).getLast?

def variadicFault? (l : Layout) : Option LayoutFault :=
  match l.variadic with
  | none => none
  | some v =>
    match l.lastOptional? with
    | some q => some (.optionalWithVariable v.stem q.name)
    | none =>
      if v.minimumCount < 0 then some (.negativeMinimumCount v.stem v.minimumCount) else none

def fault? (l : Layout) : Option LayoutFault :=
  match firstRepeated? [] (l.fixed.map FixedParameter.name) with
  | some n => some (.duplicateParameter n)
  | none =>
    match firstMisplaced? none l.fixed with
    | some (p, q) => some (.requiredAfterOptional p.name q.name)
    | none => l.variadicFault?

end Layout

end FunctionCatalog
