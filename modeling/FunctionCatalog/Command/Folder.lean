import FunctionCatalog.Numeric.Limit
import FunctionCatalog.Text.Quoted
set_option autoImplicit false

namespace FunctionCatalog.Command

/-- A path in full. A root of two slashes is told apart from one of a single slash in what is
printed; both lead to the same files. -/
structure Path where
  root : String := "/"
  names : List String
  deriving DecidableEq

namespace Path

def text (p : Path) : String := p.root ++ "/".intercalate p.names

def parent (p : Path) : Path := { p with names := p.names.dropLast }

def chain (p : Path) : List Path :=
  (List.range p.names.length).map fun i => { p with names := p.names.take (i + 1) }

def start (here : Path) : List Char → Path
  | '/' :: '/' :: '/' :: _ => { names := [] }
  | '/' :: '/' :: _ => { root := "//", names := [] }
  | '/' :: _ => { names := [] }
  | _ => here

/-- The path in full of one that may start at the folder where one is. Empty names and single dots
lead nowhere, and two dots lead back. -/
def resolve (here : Path) (path : String) : Path :=
  let base := start here path.toList
  { base with
    names := (path.splitOn "/").foldl
      (fun names name =>
        if name = "" ∨ name = "." then names
        else if name = ".." then names.dropLast
        else names ++ [name])
      base.names }

end Path

inductive SaveFault where
  | pathless
  | unwritable
  | holdsNul
  | fileExists (path : Path)
  | notAFolder (path : Path)
  | isAFolder (path : Path)
  | tooLong (path : Path)
  deriving DecidableEq

def numbered (number : Nat) (reason : String) (path : Path) : String :=
  "[Errno " ++ toString number ++ "] " ++ reason ++ ": " ++ Text.quoted path.text

def SaveFault.message : SaveFault → String
  | .pathless => "expected str, bytes or os.PathLike object, not list"
  | .unwritable => tooLongMessage
  | .holdsNul => "embedded null byte"
  | .fileExists path => numbered 17 "File exists" path
  | .notAFolder path => numbered 20 "Not a directory" path
  | .isAFolder path => numbered 21 "Is a directory" path
  | .tooLong path => numbered 36 "File name too long" path

structure Folder where
  files : List (List String × String) := []
  folders : List (List String) := []

namespace Folder

def isFile (f : Folder) (p : Path) : Bool := f.files.any fun file => file.1 = p.names

def isFolder (f : Folder) (p : Path) : Bool := p.names = [] ∨ p.names ∈ f.folders

/-- Why nothing new can stand at a path. A name has 255 bytes at most and a path 4095. -/
def obstacle? (f : Folder) (p : Path) : Option SaveFault :=
  if '\x00' ∈ p.text.toList then some .holdsNul
  else if p.text.utf8ByteSize > 4095 then some (.tooLong p)
  else if f.isFile p.parent then some (.notAFolder p)
  else if (p.names.getLastD "").utf8ByteSize > 255 then some (.tooLong p)
  else none

/-- Makes every folder on the way down. A file in the place of the last of them is reported as
such; one above it is in the way of the folder below it. -/
def makeFolders (f : Folder) (p : Path) : Except SaveFault Folder :=
  p.chain.foldlM
    (fun f step =>
      if f.isFolder step then .ok f
      else if f.isFile step then if step = p then .error (.fileExists step) else .ok f
      else
        match f.obstacle? step with
        | some fault => .error fault
        | none => .ok { f with folders := f.folders ++ [step.names] })
    f

def write (f : Folder) (p : Path) (content : String) : Folder :=
  { f with files := (f.files.filter fun file => file.1 ≠ p.names) ++ [(p.names, content)] }

def save (f : Folder) (p : Path) (content : String) : Except SaveFault Folder := do
  let f ← f.makeFolders p.parent
  if f.isFolder p then .error (.isAFolder p)
  else
    match f.obstacle? p with
    | some fault => .error fault
    | none => return f.write p content

end Folder

end FunctionCatalog.Command
