import FunctionCatalog.Numeric.Limit
import FunctionCatalog.Numeric.Number
import FunctionCatalog.Text.Blank
set_option autoImplicit false

namespace FunctionCatalog

structure Numeral where
  negative : Bool
  whole : List Char
  fraction : List Char
  exponent : Int

namespace Numeral

def digitsValue (digits : List Char) : Nat :=
  digits.foldl (fun n c => 10 * n + (c.toNat - 0x30)) 0

def signed (negative : Bool) (n : Nat) : Int := if negative then -n else n

def toInt (n : Numeral) : Int := signed n.negative (digitsValue n.whole)

def toDouble (n : Numeral) : Double :=
  .ofDecimal n.negative (digitsValue (n.whole ++ n.fraction)) (n.exponent - n.fraction.length)

def takeSign : List Char → Bool × List Char
  | '-' :: rest => (true, rest)
  | '+' :: rest => (false, rest)
  | rest => (false, rest)

def takeExponent (text : List Char) : Option (Int × List Char) :=
  match text with
  | 'e' :: rest | 'E' :: rest =>
    let (negative, rest) := takeSign rest
    match rest.span Char.isDigit with
    | ([], _) => none
    | (digits, rest) => some (signed negative (digitsValue digits), rest)
  | _ => some (0, text)

def ofChars? (text : List Char) : Option Numeral := do
  let (negative, rest) := takeSign text
  let (whole, rest) := rest.span Char.isDigit
  let (fraction, rest) :=
    match rest with
    | '.' :: rest => rest.span Char.isDigit
    | _ => ([], rest)
  if whole.isEmpty && fraction.isEmpty then none
  else
    match ← takeExponent rest with
    | (exponent, []) => some { negative, whole, fraction, exponent }
    | _ => none

end Numeral

def withoutUnderscores? (text : List Char) : Option (List Char) :=
  if text.head? = some '_' ∨ text.getLast? = some '_' ∨ ('_', '_') ∈ text.zip text.tail then none
  else some (text.filter fun c => c ≠ '_')

/-- A point followed by zeros, at least one and nothing else, adds nothing to a whole number. -/
def withoutZeroFraction (text : List Char) : List Char :=
  match text.span fun c => c ≠ '.' with
  | (whole, '.' :: fraction) =>
    if !fraction.isEmpty && fraction.all fun c => c = '0' then whole else text
  | _ => text

/-- What stands behind a run of zeros and underscores, of which the last is kept if it ends the
text or stands before a point. -/
def behindZeros? (last : Char) : List Char → Option (List Char)
  | [] => some [last]
  | c :: rest =>
    if c = '0' ∨ c = '_' then behindZeros? c rest
    else if c = '.' then some (last :: c :: rest)
    else if c = '-' ∨ c.isDigit then some (c :: rest)
    else none

/-- Zeros in front of a number say nothing. They may have underscores among them, and even a minus
sign behind them. -/
def withoutLeadingZeros? : List Char → Option (List Char)
  | [] => none
  | c :: rest =>
    if c = '0' then behindZeros? c rest
    else if c = '-' ∨ c.isDigit then some (c :: rest)
    else none

def withoutLeading? : List Char → Option (List Char)
  | '+' :: '-' :: _ => none
  | '+' :: rest => withoutLeadingZeros? rest
  | '-' :: rest => (withoutLeadingZeros? rest).map fun digits => '-' :: digits
  | text => withoutLeadingZeros? text

/-- A whole number in digits, within the limit. The first of several digits is not a zero. -/
def wholeOfDigits? (text : List Char) : Option Int :=
  let (negative, digits) := match text with
    | '-' :: rest => (true, rest)
    | rest => (false, rest)
  if digits.isEmpty || digits.length > digitLimit || !digits.all Char.isDigit then none
  else if digits.head? = some '0' && digits.length > 1 then none
  else some (Numeral.signed negative (Numeral.digitsValue digits))

def readWhole? (text : String) : Option Int := do
  let number ← withoutLeading? (Text.trimBlank text.toList)
  wholeOfDigits? (← withoutUnderscores? (withoutZeroFraction number))

def specialDouble? (text : List Char) : Option Double :=
  let (negative, word) := Numeral.takeSign text
  let word := String.ofList (word.map Char.toLower)
  if word = "inf" ∨ word = "infinity" then some (.infinity negative)
  else if word = "nan" then some .nan
  else none

def readDoubleChars? (text : List Char) : Option Double :=
  (Numeral.ofChars? text).map Numeral.toDouble <|> specialDouble? text

def readDouble? (text : String) : Option Double :=
  readDoubleChars? (Text.trimBlank text.toList)
    <|> (withoutUnderscores? text.toList).bind readDoubleChars?

end FunctionCatalog
