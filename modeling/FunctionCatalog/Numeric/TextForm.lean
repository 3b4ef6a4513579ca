import FunctionCatalog.Numeric.Number
set_option autoImplicit false

namespace FunctionCatalog

def Double.textForm (d : Double) : String := d.write { nan := "nan", infinity := "inf" }

def Number.textForm : Number → String
  | .whole n => toString n
  | .double d => d.textForm

end FunctionCatalog
