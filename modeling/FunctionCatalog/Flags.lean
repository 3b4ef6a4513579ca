set_option autoImplicit false

namespace FunctionCatalog

inductive Flag where
  | internal
  | stochastic
  | preTrial
  | deprecated
  | pure
  deriving DecidableEq

namespace Flag

def all : List Flag := [.internal, .stochastic, .preTrial, .deprecated, .pure]

def alphabetical : List Flag := [.deprecated, .internal, .preTrial, .pure, .stochastic]

def label : Flag → String
  | .internal => "INTERNAL"
  | .stochastic => "STOCHASTIC"
  | .preTrial => "PRE_TRIAL"
  | .deprecated => "DEPRECATED"
  | .pure => "PURE"

def mask : Flag → BitVec 5
  | .internal => 1
  | .stochastic => 2
  | .preTrial => 4
  | .deprecated => 8
  | .pure => 16

end Flag

structure Flags where
  bits : BitVec 5
  deriving DecidableEq

namespace Flags

def none : Flags := ⟨0⟩

/-- The lowest five bits of a number in two's complement. -/
def ofInt (n : Int) : Flags := ⟨BitVec.ofInt 5 n⟩

def toNat (s : Flags) : Nat := s.bits.toNat

def ofFlag (f : Flag) : Flags := ⟨f.mask⟩

def union (a b : Flags) : Flags := ⟨a.bits ||| b.bits⟩
def inter (a b : Flags) : Flags := ⟨a.bits &&& b.bits⟩
def symmetricDifference (a b : Flags) : Flags := ⟨a.bits ^^^ b.bits⟩
def complement (a : Flags) : Flags := ⟨~~~a.bits⟩

def ofList (flags : List Flag) : Flags := flags.foldl (fun s f => s.union (ofFlag f)) none

def includes (a b : Flags) : Bool := a.bits &&& b.bits = b.bits

def has (s : Flags) (f : Flag) : Bool := s.includes (ofFlag f)

def names (s : Flags) : List String := (Flag.alphabetical.filter s.has).map Flag.label

def text (s : Flags) : String :=
  if s = none then "NONE" else "|".intercalate ((Flag.all.filter s.has).map Flag.label)

/-- The word for the empty set names no tag. -/
def named? (label : String) : Option Flags :=
  if label = "NONE" then some none
  else (Flag.all.find? fun f => f.label = label).map ofFlag

def ofNames (labels : List String) : Except String Flags :=
  labels.foldlM (fun s label =>
    match named? label with
    | some f => .ok (s.union f)
    | .none => .error label) none

end Flags

end FunctionCatalog
