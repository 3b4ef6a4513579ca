import FunctionCatalog.Builder
import FunctionCatalog.Builtin.Operator
set_option autoImplicit false

namespace FunctionCatalog

/-- Arithmetic spreads scalars over vectors, so one vector makes the result a vector; one operand
that is not known leaves the result unknown. -/
def broadcastType (types : List SemanticType) : SemanticType :=
  if .any ∈ types then .any else if .vector ∈ types then .vector else .scalar

namespace ReturnRule

def broadcast : ReturnRule := fun args => .ok (broadcastType (args.map Argument.preciseType))

def firstArgument : ReturnRule := fun args =>
  .ok (match args with
    | [] => .any
    | a :: _ => a.preciseType)

end ReturnRule

namespace Flags

def pure : Flags := ofFlag .pure
def stochastic : Flags := ofFlag .stochastic
def preTrial : Flags := ofFlag .preTrial
def deprecatedPreTrial : Flags := preTrial.union (ofFlag .deprecated)
def internalPure : Flags := (ofFlag .internal).union pure

end Flags

namespace Draft

def comparison (name : String) (operand : SemanticType) (summary : String) : Draft :=
  named name
    |>.describe (Operator.description name summary)
    |>.require "left" operand "The left-hand operand."
    |>.require "right" operand "The right-hand operand."
    |>.returning .boolean
    |>.tag .internalPure

def unaryScalar (name summary : String) : Draft :=
  named name
    |>.describe summary
    |>.require "value" .scalar "The input value."
    |>.returning .scalar
    |>.tag .pure

def variadicMath (name summary : String) : Draft :=
  named name
    |>.describe (Operator.description name summary)
    |>.takeRest "operand" .any 2
      "A scalar or vector operand. Scalars are broadcast against vectors."
    |>.representedBy .scalar .broadcast
    |>.tag .pure

def binaryMath (name summary : String) : Draft :=
  named name
    |>.describe (Operator.description name summary)
    |>.require "left" .any "A scalar or vector operand."
    |>.require "right" .any "A scalar or vector operand."
    |>.representedBy .scalar .broadcast
    |>.tag .pure

def variadicLogical (name summary : String) : Draft :=
  named name
    |>.describe (Operator.description name summary)
    |>.takeRest "condition" .boolean 2 "A boolean operand."
    |>.returning .boolean
    |>.tag .internalPure

def distribution (name summary : String) (parameters : List (String × String)) : Draft :=
  parameters.foldl (fun d p => d.require p.1 .scalar p.2) (named name |>.describe summary)
    |>.returning .scalar
    |>.tag .stochastic

def readScalar (name : String) (flags : Flags) : Draft :=
  named name
    |>.describe "Reads a single value from a CSV file."
    |>.require "file_path" .string "The path to the CSV file."
    |>.require "column_name" .string "The name of the column to read from."
    |>.require "row_index" .scalar "The zero-based index of the row to read."
    |>.returning .scalar
    |>.tag flags

def readVector (name : String) (flags : Flags) : Draft :=
  named name
    |>.describe "Reads an entire column from a CSV file as a vector."
    |>.require "file_path" .string "The path to the CSV file."
    |>.require "column_name" .string "The name of the column to read."
    |>.returning .vector
    |>.tag flags

end Draft

end FunctionCatalog
