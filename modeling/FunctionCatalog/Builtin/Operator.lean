import FunctionCatalog.Keyed
set_option autoImplicit false

namespace FunctionCatalog

inductive OperatorKind where
  | arithmetic
  | comparison
  | logical
  deriving DecidableEq

namespace OperatorKind

def all : List OperatorKind := [.arithmetic, .comparison, .logical]

def table : OperatorKind → Keyed String
  | .arithmetic =>
    [("+", "add"), ("-", "subtract"), ("*", "multiply"), ("/", "divide"), ("^", "power")]
  | .comparison =>
    [("==", "__eq__"), ("!=", "__neq__"), (">", "__gt__"), ("<", "__lt__"), (">=", "__gte__"),
     ("<=", "__lte__")]
  | .logical => [("and", "__and__"), ("or", "__or__"), ("not", "__not__")]

end OperatorKind

namespace Operator

def function? (symbol : String) : Option (OperatorKind × String) :=
  OperatorKind.all.findSome? fun kind => (kind.table.find? symbol).map fun f => (kind, f)

def symbol? (function : String) : Option String :=
  ((OperatorKind.all.flatMap OperatorKind.table).find? fun entry => entry.2 = function).map Prod.fst

def description (function summary : String) : String :=
  match symbol? function with
  | none => summary
  | some symbol => summary ++ " Backs the '" ++ symbol ++ "' operator."

end Operator

end FunctionCatalog
