import FunctionCatalog.Command.Folder
import FunctionCatalog.Command.Report
set_option autoImplicit false

/-!
A run of the program: the command line and the files before it determine what is printed, the exit
code and the files after it. A run that cannot save its file ends without an exit code.
-/

namespace FunctionCatalog.Command

inductive Plan where
  | finish (out err : String) (code : Nat)
  | save (path content : String)
  | giveUp (fault : SaveFault)
  deriving DecidableEq

-- No built-in function has a count that is too long. What comes out in front of one is left out.
def planRequest (r : Registry) : Request → Plan
  | .list => .finish (listReport r) "" 0
  | .show name =>
    match showReport r name with
    | .ok text => .finish text "" 0
    | .error (.unknown fault) => .finish "" (faultReport fault) 1
    | .error .tooLong => .giveUp .unwritable
  | .dump .pathless => .giveUp .pathless
  | .dump target =>
    match catalogText? r, target with
    | some text, .file path => .save path text
    | some text, _ => .finish (text ++ "\n") "" 0
    | none, _ => .giveUp .unwritable

def plan (r : Registry) (args : List String) : Plan :=
  match read args with
  | .ok request => planRequest r request
  | .error (.help level) => .finish (helpPage level) "" 0
  | .error (.usage level message) => .finish "" (usageError level message) 2

inductive Ending where
  | exited (out err : String) (code : Nat)
  | unsaved (fault : SaveFault)
  deriving DecidableEq

def run (r : Registry) (here : Path) (folder : Folder) (args : List String) : Folder × Ending :=
  match plan r args with
  | .finish out err code => (folder, .exited out err code)
  | .giveUp fault => (folder, .unsaved fault)
  | .save path content =>
    let place := here.resolve path
    match folder.save place content with
    | .ok after => (after, .exited (savedNote place.text) "" 0)
    | .error fault => (folder, .unsaved fault)

end FunctionCatalog.Command
