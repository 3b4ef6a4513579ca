import FunctionCatalog.SemanticType
import FunctionCatalog.Template
set_option autoImplicit false

namespace FunctionCatalog

inductive ErrorCode where
  | duplicateParameter
  | requiredAfterOptional
  | optionalWithVariable
  | negativeMinimumCount
  | unknownTypeName
  | unknownFunction
  | registryFrozen
  deriving DecidableEq

namespace ErrorCode

def all : List ErrorCode :=
  [.duplicateParameter, .requiredAfterOptional, .optionalWithVariable, .negativeMinimumCount,
   .unknownTypeName, .unknownFunction, .registryFrozen]

def label : ErrorCode → String
  | .duplicateParameter => "DUPLICATE_PARAMETER"
  | .requiredAfterOptional => "REQUIRED_AFTER_OPTIONAL"
  | .optionalWithVariable => "OPTIONAL_WITH_VARIABLE"
  | .negativeMinimumCount => "NEGATIVE_MINIMUM_COUNT"
  | .unknownTypeName => "UNKNOWN_TYPE_NAME"
  | .unknownFunction => "UNKNOWN_FUNCTION"
  | .registryFrozen => "REGISTRY_FROZEN"

def ofLabel? (label : String) : Option ErrorCode := all.find? fun c => c.label = label

def template : ErrorCode → Template
  | .duplicateParameter =>
    [.text "Function '", .hole "name", .text "' declares parameter '", .hole "parameter",
     .text "' more than once."]
  | .requiredAfterOptional =>
    [.text "Function '", .hole "name", .text "': required parameter '", .hole "parameter",
     .text "' cannot follow optional parameter '", .hole "previous", .text "'."]
  | .optionalWithVariable =>
    [.text "Function '", .hole "name", .text "': variable parameter '", .hole "parameter",
     .text "' cannot follow optional parameter '", .hole "previous", .text "'."]
  | .negativeMinimumCount =>
    [.text "Function '", .hole "name", .text "': variable parameter '", .hole "parameter",
     .text "' has a negative minimum count (", .hole "minimum_count", .text ")."]
  | .unknownTypeName =>
    [.text "Unknown type '", .hole "type_name", .text "'. Expected one of: ", .hole "expected",
     .text "."]
  | .unknownFunction => [.text "Unknown function '", .hole "name", .text "'."]
  | .registryFrozen =>
    [.text "Cannot register '", .hole "name",
     .text "': the signature registry is already initialized."]

/-- The names that an error takes for itself, so that no detail can have one of them. -/
def ownNames : List String := ["self", "code"]

/-- The message of an error that is made from details. Their names are looked at before the template
is. -/
def report (code : ErrorCode) (details : Details) : Except DetailFault String :=
  match details.keys.find? fun name => name ∈ ownNames with
  | some name => .error (.ownName name)
  | none => code.template.fill details

end ErrorCode

/-- A fault in a layout has its parameter among its details, even if there is none. -/
def withParameter (parameter : Json) (details : Details) : Details :=
  ("parameter", parameter) :: details

inductive LayoutFault where
  | duplicateParameter (parameter : String)
  | requiredAfterOptional (parameter previous : String)
  | optionalWithVariable (parameter previous : String)
  | negativeMinimumCount (parameter : String) (count : Int)
  deriving DecidableEq

inductive Fault where
  | layout (function : String) (fault : LayoutFault)
  | unknownType (word : String)
  | unknownFunction (name : String)
  | frozen (name : String)
  deriving DecidableEq

def LayoutFault.code : LayoutFault → ErrorCode
  | .duplicateParameter _ => .duplicateParameter
  | .requiredAfterOptional _ _ => .requiredAfterOptional
  | .optionalWithVariable _ _ => .optionalWithVariable
  | .negativeMinimumCount _ _ => .negativeMinimumCount

def LayoutFault.parameter : LayoutFault → String
  | .duplicateParameter p | .requiredAfterOptional p _ | .optionalWithVariable p _
  | .negativeMinimumCount p _ => p

def LayoutFault.extra : LayoutFault → Details
  | .duplicateParameter _ => []
  | .requiredAfterOptional _ previous | .optionalWithVariable _ previous =>
    [("previous", .text previous)]
  | .negativeMinimumCount _ count => [("minimum_count", .int count)]

def LayoutFault.isWritable : LayoutFault → Bool
  | .negativeMinimumCount _ count => FunctionCatalog.isWritable count
  | _ => true

namespace Fault

def isWritable : Fault → Bool
  | .layout _ fault => fault.isWritable
  | _ => true

def code : Fault → ErrorCode
  | .layout _ fault => fault.code
  | .unknownType _ => .unknownTypeName
  | .unknownFunction _ => .unknownFunction
  | .frozen _ => .registryFrozen

def details : Fault → Details
  | .layout function fault =>
    withParameter (.text fault.parameter) (("name", .text function) :: fault.extra)
  | .unknownType word =>
    [("type_name", .text word),
     ("expected", .text (", ".intercalate (SemanticType.keywords.map SemanticType.name)))]
  | .unknownFunction name | .frozen name => [("name", .text name)]

def report (f : Fault) : Except DetailFault String := f.code.report f.details

def message (f : Fault) : String := f.code.template.render f.details

/-- Only a count can be too long, and nothing else can be wrong with the details of a fault. -/
theorem report_eq (f : Fault) :
    f.report = if f.isWritable then .ok f.message else .error .tooLong := by
  rcases f with ⟨name, _ | _ | _ | ⟨stem, count⟩⟩ | _ | _ | _
  case layout.negativeMinimumCount =>
    have hfree : ((Fault.layout name (.negativeMinimumCount stem count)).details.keys.find?
        fun name => name ∈ ErrorCode.ownNames) = none := rfl
    rw [report, code, LayoutFault.code, ErrorCode.report, hfree, Template.fill, isWritable,
      LayoutFault.isWritable]
    cases h : FunctionCatalog.isWritable count <;>
      simp [Template.fault?, Template.holes, ErrorCode.template, Template.holeFault?, details,
        withParameter, LayoutFault.extra, Keyed.find?, Json.isWritable, h, message, code,
        LayoutFault.code]
  all_goals rfl

end Fault

def SemanticType.named (word : String) : Except Fault SemanticType :=
  match ofName? word with
  | some t => .ok t
  | none => .error (.unknownType word)

end FunctionCatalog
