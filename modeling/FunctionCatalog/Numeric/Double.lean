set_option autoImplicit false

/-!
Floating-point numbers of 64 bits, as bit patterns with an exact value. Every finite one is a whole
number of units of two to the power -1074, so values compare as integers and no arithmetic here
ever rounds but `ofRatio`, which takes the nearest pattern to an exact ratio.
-/

namespace FunctionCatalog

structure Double where
  bits : BitVec 64
  deriving DecidableEq

inductive Extended where
  | nan
  | infinite (negative : Bool)
  | finite (units : Int)
  deriving DecidableEq

namespace Double

def unitsPerOne : Nat := Nat.pow 2 1074

def isNegative (d : Double) : Bool := d.bits.msb

def exponent (d : Double) : Nat := d.bits.toNat / Nat.pow 2 52 % Nat.pow 2 11

def fraction (d : Double) : Nat := d.bits.toNat % Nat.pow 2 52

/-- The distance from zero in units, for a finite pattern. -/
def magnitude (d : Double) : Nat :=
  if d.exponent = 0 then d.fraction else (Nat.pow 2 52 + d.fraction) * Nat.pow 2 (d.exponent - 1)

def value (d : Double) : Extended :=
  if d.exponent = 2047 then
    if d.fraction = 0 then .infinite d.isNegative else .nan
  else .finite (if d.isNegative then -d.magnitude else d.magnitude)

def isNaN (d : Double) : Bool := d.value = .nan

/-- Patterns of one sign are ordered as their codes, so a code is all of a pattern but its sign. -/
def ofCode (negative : Bool) (code : Nat) : Double :=
  ⟨BitVec.ofNat 64 (if negative then Nat.pow 2 63 + code else code)⟩

def infinityCode : Nat := 2047 * Nat.pow 2 52

def infinity (negative : Bool) : Double := ofCode negative infinityCode

def nan : Double := ofCode false (infinityCode + Nat.pow 2 51)

def roundRatio (num den : Nat) : Nat :=
  let low := num / den
  let rest := 2 * (num % den)
  if rest < den ∨ (rest = den ∧ low % 2 = 0) then low else low + 1

/-- The pattern nearest to `num / den`. Above the first two binades the pattern keeps 53 binary
digits, so the unit to round to doubles with each further digit; a value that rounds up to the
next binade carries into the exponent. -/
def ofRatio (negative : Bool) (num den : Nat) : Double :=
  let scaled := num * unitsPerOne
  let shift := (scaled / den).log2 - 52
  let mantissa := roundRatio scaled (den * Nat.pow 2 shift)
  ofCode negative (min (shift * Nat.pow 2 52 + mantissa) infinityCode)

/-- The pattern nearest to `digits` times ten to the `exponent`. Beyond the bounds tested first
every such number is past the largest finite one or under half the smallest. -/
def ofDecimal (negative : Bool) (digits : Nat) (exponent : Int) : Double :=
  let places := (Nat.toDigits 10 digits).length
  if digits = 0 then ofCode negative 0
  else if exponent + places > 320 then infinity negative
  else if exponent + places < -330 then ofCode negative 0
  else if 0 ≤ exponent then ofRatio negative (digits * Nat.pow 10 exponent.toNat) 1
  else ofRatio negative digits (Nat.pow 10 (-exponent).toNat)

def toInt? (d : Double) : Option Int :=
  match d.value with
  | .finite units => if units % unitsPerOne = 0 then some (units / unitsPerOne) else none
  | _ => none

end Double

end FunctionCatalog
