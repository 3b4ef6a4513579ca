import FunctionCatalog.Numeric.Limit
import FunctionCatalog.SemanticType
set_option autoImplicit false

namespace FunctionCatalog

structure FixedParameter where
  name : String
  description : String
  type : SemanticType
  required : Bool
  deriving DecidableEq

structure VariadicParameter where
  stem : String
  description : String
  elementType : SemanticType
  minimumCount : Int
  deriving DecidableEq

/-- The name of the argument at an index counted from zero; the names count from one. -/
def VariadicParameter.displayName (p : VariadicParameter) (index : Int) : String :=
  p.stem ++ toString (index + 1)

def VariadicParameter.displayName? (p : VariadicParameter) (index : Int) : Option String :=
  if isWritable (index + 1) then some (p.displayName index) else none

def VariadicParameter.isWritable (p : VariadicParameter) : Bool :=
  FunctionCatalog.isWritable p.minimumCount

end FunctionCatalog
