import FunctionCatalog.Numeric.Double
set_option autoImplicit false

/-!
The decimal text of a double: the fewest digits that read back as the same pattern, and among
those the nearest to its value. Numbers from 0.0001 up to ten to the sixteenth are written in
place, the others with an exponent.
-/

namespace FunctionCatalog

structure Decimal where
  digits : List Char
  point : Int
  deriving DecidableEq

namespace Decimal

def places (n : Nat) : Nat := (Nat.toDigits 10 n).length

/-- The power of ten just above a positive number of units. The scale of four hundred places
makes every such number at least one before its digits are counted. -/
def pointOf (units : Nat) : Int :=
  (places (units * Nat.pow 10 400 / Double.unitsPerOne) : Int) - 400

/-- Both neighbours of a number of units among the decimals of `count` digits, the nearer first;
of two equally near the even one is first. -/
def neighbours (units count : Nat) : List Nat :=
  let lift : Int := count - pointOf units
  let num := units * Nat.pow 10 lift.toNat
  let den := Double.unitsPerOne * Nat.pow 10 (-lift).toNat
  let low := num / den
  if Double.roundRatio num den = low then [low, low + 1] else [low + 1, low]

def ofCount? (d : Double) (count : Nat) : Option Decimal :=
  let unit := pointOf d.magnitude - count
  let hit := (neighbours d.magnitude count).find? fun n =>
    decide (Double.ofDecimal d.isNegative n unit = d)
  hit.map fun n =>
    { digits := ((Nat.toDigits 10 n).reverse.dropWhile (· = '0')).reverse
      point := unit + places n }

/-- Seventeen digits tell any two doubles apart, so the search ends with an answer. -/
def shortest (d : Double) : Decimal :=
  ((List.range 17).findSome? fun i => ofCount? d (i + 1)).getD ⟨['0'], 1⟩

def inPlace (d : Decimal) : List Char :=
  if d.point ≤ 0 then '0' :: '.' :: List.replicate (-d.point).toNat '0' ++ d.digits
  else
    let point := d.point.toNat
    if point < d.digits.length then d.digits.take point ++ '.' :: d.digits.drop point
    else d.digits ++ List.replicate (point - d.digits.length) '0' ++ ['.', '0']

def withExponent (d : Decimal) : List Char :=
  let power := d.point - 1
  let shown := Nat.toDigits 10 power.natAbs
  d.digits.take 1 ++ (if d.digits.length ≤ 1 then [] else '.' :: d.digits.drop 1)
    ++ 'e' :: (if power < 0 then '-' else '+')
    :: List.replicate (2 - shown.length) '0' ++ shown

def write (d : Decimal) : List Char :=
  if -3 ≤ d.point ∧ d.point ≤ 16 then d.inPlace else d.withExponent

end Decimal

structure SpecialWords where
  nan : String
  infinity : String

namespace Double

def write (words : SpecialWords) (d : Double) : String :=
  let sign := if d.isNegative then "-" else ""
  match d.value with
  | .nan => words.nan
  | .infinite _ => sign ++ words.infinity
  | .finite _ =>
    if d.magnitude = 0 then sign ++ "0.0" else sign ++ String.ofList (Decimal.shortest d).write

end Double

end FunctionCatalog
