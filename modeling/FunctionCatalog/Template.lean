import FunctionCatalog.Json.TextForm
set_option autoImplicit false

/-!
Message templates: fixed text with named holes, filled from details under those names. A detail is
put in as it stands and is never read as a template again.
-/

namespace FunctionCatalog

abbrev Details := Keyed Json

inductive Piece where
  | text (s : String)
  | hole (name : String)
  deriving DecidableEq

abbrev Template := List Piece

/-- Why details make no message: one has a name that is taken, one is missing, or a whole number in
one is too long to be written. -/
inductive DetailFault where
  | ownName (name : String)
  | missing (hole : String)
  | tooLong
  deriving DecidableEq

namespace Template

def holes (t : Template) : List String :=
  t.filterMap fun
    | .text _ => none
    | .hole name => some name

def holeFault? (details : Details) (name : String) : Option DetailFault :=
  match details.find? name with
  | none => some (.missing name)
  | some detail => if detail.isWritable then none else some .tooLong

def fault? (details : Details) (t : Template) : Option DetailFault :=
  t.holes.findSome? (holeFault? details)

def render (details : Details) : Template → String
  | [] => ""
  | .text s :: rest => s ++ render details rest
  | .hole h :: rest => ((details.find? h).map Json.inMessage).getD "" ++ render details rest

def fill (template : Template) (details : Details) : Except DetailFault String :=
  match template.fault? details with
  | some fault => .error fault
  | none => .ok (template.render details)

/-- The template as one text, each hole between braces. -/
def source : Template → String
  | [] => ""
  | .text s :: rest => s ++ source rest
  | .hole h :: rest => "\x7b" ++ h ++ "\x7d" ++ source rest

end Template

end FunctionCatalog
