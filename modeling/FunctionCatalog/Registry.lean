import FunctionCatalog.Fault
import FunctionCatalog.Keyed
import FunctionCatalog.Signature
set_option autoImplicit false

/-!
Registries: the signatures of each function under its name, in order of registration. A frozen
registry takes no more signatures and answers as before.
-/

namespace FunctionCatalog

structure Registry where
  groups : Keyed (List Signature) := []
  frozen : Bool := false

namespace Registry

def empty : Registry := {}

def register (r : Registry) (s : Signature) : Except Fault Registry :=
  if r.frozen then .error (.frozen s.name)
  else .ok { r with groups := r.groups.alter s.name fun old => old.getD [] ++ [s] }

def freeze (r : Registry) : Registry := { r with frozen := true }

def contains (r : Registry) (name : String) : Bool := (r.groups.find? name).isSome

def overloads (r : Registry) (name : String) : Except Fault (List Signature) :=
  match r.groups.find? name with
  | some signatures => .ok signatures
  | none => .error (.unknownFunction name)

def size (r : Registry) : Nat := r.groups.length

/-- By code point. -/
def names (r : Registry) : List String := r.groups.keys.mergeSort fun a b => decide (a ≤ b)

/-- Grouped by name, the groups in order of their first registration. -/
def signatures (r : Registry) : List Signature := r.groups.flatMap Prod.snd

def sameSignatures (r s : Registry) : Bool :=
  r.signatures.map Signature.toProfile = s.signatures.map Signature.toProfile

inductive Call where
  | register (signature : Signature)
  | registerAll (signatures : List Signature)
  | overloads (name : String)
  | contains (name : String)
  | names
  | signatures
  | size
  | freeze

inductive Answer where
  | registered (signature : Signature)
  | done
  | listed (signatures : List Signature)
  | found (present : Bool)
  | named (names : List String)
  | counted (n : Nat)
  | failed (fault : Fault)

/-- A batch stops at the first signature that is refused, and keeps what was taken before it. -/
def registerEach (r : Registry) : List Signature → Registry × Option Fault
  | [] => (r, none)
  | s :: rest =>
    match r.register s with
    | .ok next => next.registerEach rest
    | .error fault => (r, some fault)

def step (r : Registry) : Call → Registry × Answer
  | .register s =>
    match r.register s with
    | .ok next => (next, .registered s)
    | .error fault => (r, .failed fault)
  | .registerAll signatures =>
    match r.registerEach signatures with
    | (next, none) => (next, .done)
    | (next, some fault) => (next, .failed fault)
  | .overloads name =>
    match r.overloads name with
    | .ok signatures => (r, .listed signatures)
    | .error fault => (r, .failed fault)
  | .contains name => (r, .found (r.contains name))
  | .names => (r, .named r.names)
  | .signatures => (r, .listed r.signatures)
  | .size => (r, .counted r.size)
  | .freeze => (r.freeze, .done)

def run (r : Registry) : List Call → Registry × List Answer
  | [] => (r, [])
  | c :: rest =>
    let (next, answer) := r.step c
    let (last, answers) := next.run rest
    (last, answer :: answers)

end Registry

end FunctionCatalog
