import FunctionCatalog.Keyed
import FunctionCatalog.Numeric.Number
set_option autoImplicit false

namespace FunctionCatalog

inductive Json where
  | null
  | bool (b : Bool)
  | int (n : Int)
  | double (d : Double)
  | text (s : String)
  | array (items : List Json)
  | object (fields : List (String × Json))
  deriving Inhabited

namespace Json

def number : Number → Json
  | .whole n => .int n
  | .double d => .double d

def ofOption {α : Type} (f : α → Json) : Option α → Json
  | none => .null
  | some a => f a

def texts (words : List String) : Json := .array (words.map .text)

mutual

def isWritable : Json → Bool
  | .int n => FunctionCatalog.isWritable n
  | .array items => itemsWritable items
  | .object fields => fieldsWritable fields
  | _ => true

def itemsWritable : List Json → Bool
  | [] => true
  | j :: rest => isWritable j && itemsWritable rest

def fieldsWritable : List (String × Json) → Bool
  | [] => true
  | (_, j) :: rest => isWritable j && fieldsWritable rest

end

@[simp] theorem isWritable_int (n : Int) : (int n).isWritable = FunctionCatalog.isWritable n := rfl

@[simp] theorem isWritable_null : null.isWritable = true := rfl

@[simp] theorem isWritable_bool (b : Bool) : (bool b).isWritable = true := rfl

@[simp] theorem isWritable_double (d : Double) : (double d).isWritable = true := rfl

@[simp] theorem isWritable_text (s : String) : (text s).isWritable = true := rfl

@[simp] theorem isWritable_array (items : List Json) :
    (array items).isWritable = items.all isWritable := by
  rw [isWritable]
  induction items with
  | nil => rfl
  | cons j items ih => rw [itemsWritable, ih, List.all_cons]

@[simp] theorem isWritable_object (fields : List (String × Json)) :
    (object fields).isWritable = fields.all fun p => p.2.isWritable := by
  rw [isWritable]
  induction fields with
  | nil => rfl
  | cons p fields ih => rw [fieldsWritable, ih, List.all_cons]

@[simp] theorem isWritable_number (n : Number) : (number n).isWritable = n.isWritable := by
  cases n <;> rfl

def field? : Json → String → Option Json
  | .object fields, key => Keyed.find? fields key
  | _, _ => none

end Json

end FunctionCatalog
