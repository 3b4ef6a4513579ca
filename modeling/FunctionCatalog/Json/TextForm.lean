import FunctionCatalog.Json
import FunctionCatalog.Numeric.TextForm
import FunctionCatalog.Text.Compound
import FunctionCatalog.Text.Quoted
set_option autoImplicit false

namespace FunctionCatalog.Json

mutual

def textForm : Json → String
  | .null => "None"
  | .bool b => Text.bool b
  | .int n => toString n
  | .double d => d.textForm
  | .text s => Text.quoted s
  | .array items => Text.list (textForms items)
  | .object fields => Text.braced (Text.commas (fieldForms fields))

def textForms : List Json → List String
  | [] => []
  | j :: rest => textForm j :: textForms rest

def fieldForms : List (String × Json) → List String
  | [] => []
  | (key, j) :: rest => (Text.quoted key ++ ": " ++ textForm j) :: fieldForms rest

end

/-- A text stands in a message as it is, any other value in its text form. -/
def inMessage : Json → String
  | .text s => s
  | j => j.textForm

end FunctionCatalog.Json
