import FunctionCatalog.Command.Help
import FunctionCatalog.Json.Printer
import FunctionCatalog.Record
import FunctionCatalog.Registry
set_option autoImplicit false

namespace FunctionCatalog.Command

inductive Colour where
  | red
  | green
  | cyan
  deriving DecidableEq

def Colour.code : Colour → String
  | .red => "\x1b[91m"
  | .green => "\x1b[92m"
  | .cyan => "\x1b[96m"

def Colour.paint (c : Colour) (text : String) : String := c.code ++ text ++ "\x1b[0m"

def listReport (r : Registry) : String :=
  lines (r.signatures.map fun s => s.displayForm)
    ++ lines
      [ "",
        Colour.cyan.paint
          ("--- " ++ toString r.size ++ " functions, " ++ toString r.signatures.length
            ++ " overloads ---") ]

def fixedLine (p : FixedParameter) : String :=
  "    - " ++ p.name ++ ": " ++ p.type.name ++ (if p.required then "" else " (optional)") ++ "  "
    ++ p.description

/-- Two of the names that a variadic parameter makes up stand for all. -/
def variadicLine (v : VariadicParameter) : String :=
  "    - " ++ v.displayName 0 ++ ", " ++ v.displayName 1 ++ ", ...: " ++ v.elementType.name
    ++ " (at least " ++ toString v.minimumCount ++ ")  " ++ v.description

def signatureLines (place count : Nat) (s : Signature) : List String :=
  [Colour.green.paint
      ("[" ++ toString place ++ "/" ++ toString count ++ "] " ++ s.displayForm)]
    ++ (if s.description.isEmpty then [] else ["    " ++ s.description])
    ++ s.fixed.map fixedLine
    ++ (s.variadic.map variadicLine).toList
    ++ (if s.flags.names.isEmpty then []
        else ["    flags: " ++ ", ".intercalate s.flags.names])

inductive ReportFault where
  | unknown (fault : Fault)
  | tooLong
  deriving DecidableEq

def showReport (r : Registry) (name : String) : Except ReportFault String := do
  let signatures ← (r.overloads name).mapError .unknown
  if signatures.all fun s => s.isWritable then
    return lines ((signatures.zipIdx 1).flatMap fun (s, place) =>
      signatureLines place signatures.length s)
  else throw .tooLong

def catalogText? (r : Registry) : Option String :=
  (Json.array (r.signatures.map fun s => s.record)).write? (some "  ")

def savedNote (place : String) : String :=
  lines [Colour.green.paint ("--- Signature catalog written to " ++ place ++ " ---")]

def faultReport (f : Fault) : String :=
  lines [Colour.red.paint ("--- ERROR ---\n" ++ f.message)]

end FunctionCatalog.Command
