import FunctionCatalog.Command.Request
set_option autoImplicit false

namespace FunctionCatalog.Command

def program : String := "vsig"

namespace Level

def title : Level → String
  | .top => program
  | level => program ++ " " ++ level.name

def usage : Level → String
  | .top => "usage: " ++ program ++ " [-h] \x7blist,show,dump\x7d ..."
  | .list => "usage: " ++ title .list ++ " [-h]"
  | .show => "usage: " ++ title .show ++ " [-h] name"
  | .dump => "usage: " ++ title .dump ++ " [-h] [-o OUTPUT_FILE]"

def helpLines : Level → List String
  | .top =>
    [ "",
      "Inspect the built-in ValuaScript function signatures.",
      "",
      "positional arguments:",
      "  \x7blist,show,dump\x7d",
      "    list            Print the signature of every built-in overload.",
      "    show            Print the overload set of a single function.",
      "    dump            Write the signature catalog as JSON.",
      "",
      "options:",
      "  -h, --help        show this help message and exit" ]
  | .list =>
    [ "",
      "options:",
      "  -h, --help  show this help message and exit" ]
  | .show =>
    [ "",
      "positional arguments:",
      "  name        The function name, e.g. 'GetElement'.",
      "",
      "options:",
      "  -h, --help  show this help message and exit" ]
  | .dump =>
    [ "",
      "options:",
      "  -h, --help            show this help message and exit",
      "  -o OUTPUT_FILE, --output OUTPUT_FILE",
      "                        The path to the output .json file. Omit to write to",
      "                        stdout." ]

end Level

def lines (texts : List String) : String := String.join (texts.map fun t => t ++ "\n")

def helpPage (level : Level) : String := lines (level.usage :: level.helpLines)

def usageError (level : Level) (message : String) : String :=
  lines [level.usage, level.title ++ ": error: " ++ message]

end FunctionCatalog.Command
