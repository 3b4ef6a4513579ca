set_option autoImplicit false

namespace FunctionCatalog.Text

def commas (parts : List String) : String := ", ".intercalate parts

def fields (name : String) (parts : List (String × String)) : String :=
  name ++ "(" ++ commas (parts.map fun p => p.1 ++ "=" ++ p.2) ++ ")"

/-- One item alone has a comma after it. -/
def tuple : List String → String
  | [item] => "(" ++ item ++ ",)"
  | items => "(" ++ commas items ++ ")"

def list (items : List String) : String := "[" ++ commas items ++ "]"

def bool (b : Bool) : String := if b then "True" else "False"

def option {α : Type} (f : α → String) : Option α → String
  | none => "None"
  | some a => f a

def braced (inner : String) : String := "\x7b" ++ inner ++ "\x7d"

end FunctionCatalog.Text
