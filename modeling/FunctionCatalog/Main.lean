import FunctionCatalog.Builtin.Catalog
import FunctionCatalog.Command.Session
set_option autoImplicit false

open FunctionCatalog

def FunctionCatalog.saveFile (path content : String) : IO UInt32 := do
  let here := Command.Path.resolve { names := [] } (← IO.currentDir).toString
  let place := here.resolve path
  IO.FS.createDirAll place.parent.text
  IO.FS.writeFile place.text content
  IO.print (Command.savedNote place.text)
  return 0

def main (args : List String) : IO UInt32 := do
  match Command.plan Registry.builtin args with
  | .finish out err code =>
    IO.print out
    IO.eprint err
    return code.toUInt32
  | .giveUp fault =>
    IO.eprintln fault.message
    return 1
  | .save path content => FunctionCatalog.saveFile path content
