import FunctionCatalog.Layout
import FunctionCatalog.Signature
set_option autoImplicit false

/-!
Drafts: a signature while it is being declared. A draft starts as a function of no parameters that
gives an unknown type, and every step replaces or adds one part of it. A result rule is tried on no
arguments first, and one that declines leaves the draft as it was.
-/

namespace FunctionCatalog

structure Draft where
  name : String
  description : String := ""
  returnType : SemanticType := .any
  rule : ReturnRule := .constant .any
  fixed : List FixedParameter := []
  variadic : Option VariadicParameter := none
  flags : Flags := .none

namespace Draft

def named (name : String) : Draft := { name }

def describe (d : Draft) (text : String) : Draft := { d with description := text }

def returning (d : Draft) (type : SemanticType) : Draft :=
  { d with returnType := type, rule := .constant type }

def inferring (d : Draft) (rule : ReturnRule) : Except Refusal Draft := do
  return { d with returnType := ← rule [], rule := rule }

/-- As `inferring`, for a rule whose answer on no arguments is known beforehand. -/
def representedBy (d : Draft) (type : SemanticType) (rule : ReturnRule)
    (_answer : rule [] = .ok type := by rfl) : Draft :=
  { d with returnType := type, rule := rule }

def require (d : Draft) (name : String) (type : SemanticType) (description : String) : Draft :=
  { d with fixed := d.fixed ++ [⟨name, description, type, true⟩] }

def allow (d : Draft) (name : String) (type : SemanticType) (description : String) : Draft :=
  { d with fixed := d.fixed ++ [⟨name, description, type, false⟩] }

def takeRest (d : Draft) (stem : String) (type : SemanticType) (minimumCount : Int)
    (description : String) : Draft :=
  { d with variadic := some ⟨stem, description, type, minimumCount⟩ }

def tag (d : Draft) (flags : Flags) : Draft := { d with flags := flags }

def layout (d : Draft) : Layout := ⟨d.fixed, d.variadic⟩

def signature (d : Draft) : Signature :=
  { name := d.name, description := d.description, returnType := d.returnType, fixed := d.fixed
    variadic := d.variadic, flags := d.flags, rule := d.rule }

/-- The signature of a draft whose layout is seen to be sound where it is written down. -/
def sealed (d : Draft) (_sound : d.layout.fault? = none := by rfl) : Signature := d.signature

end Draft

end FunctionCatalog
