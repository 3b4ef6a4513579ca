import FunctionCatalog.Json
import FunctionCatalog.Numeric.Reading
import FunctionCatalog.Text.Hex
set_option autoImplicit false

/-!
Reading JSON text. A number with a point or an exponent is a double, any other a whole number; of
several fields with one key the last counts.
-/

namespace FunctionCatalog.Json

def skipBlank (input : List Char) : List Char :=
  input.dropWhile fun c => c = ' ' ∨ c = '\n' ∨ c = '\r' ∨ c = '\t'

def takeHex4 : List Char → Option (Nat × List Char)
  | a :: b :: c :: d :: rest => (Text.hexValue? [a, b, c, d]).map fun n => (n, rest)
  | _ => none

/-- The character of an escape, after its backslash. Two units of a pair are one character, and one
without the other is none. -/
def takeEscape : List Char → Option (Char × List Char)
  | 'n' :: rest => some ('\n', rest)
  | 'r' :: rest => some ('\r', rest)
  | 't' :: rest => some ('\t', rest)
  | 'b' :: rest => some ('\x08', rest)
  | 'f' :: rest => some ('\x0c', rest)
  | 'u' :: rest => do
    let (high, rest) ← takeHex4 rest
    if 0xd800 ≤ high ∧ high < 0xdc00 then
      match rest with
      | '\\' :: 'u' :: rest =>
        let (low, rest) ← takeHex4 rest
        if 0xdc00 ≤ low ∧ low < 0xe000 then
          some (Char.ofNat (0x10000 + (high - 0xd800) * 0x400 + (low - 0xdc00)), rest)
        else none
      | _ => none
    else if 0xdc00 ≤ high ∧ high < 0xe000 then none
    else some (Char.ofNat high, rest)
  | c :: rest => if c = '\x22' ∨ c = '\\' ∨ c = '/' then some (c, rest) else none
  | [] => none

/-- The characters up to the closing quote, with the fuel that bounds their number. -/
def takeString : Nat → List Char → List Char → Option (String × List Char)
  | 0, _, _ => none
  | fuel + 1, found, input =>
    match input with
    | '\x22' :: rest => some (String.ofList found.reverse, rest)
    | '\\' :: rest => do
      let (c, rest) ← takeEscape rest
      takeString fuel (c :: found) rest
    | c :: rest => takeString fuel (c :: found) rest
    | [] => none

def takeMinus : List Char → Bool × List Char
  | '-' :: rest => (true, rest)
  | rest => (false, rest)

def takeFraction : List Char → Option (List Char) × List Char
  | '.' :: rest =>
    let (digits, rest) := rest.span Char.isDigit
    (some digits, rest)
  | rest => (none, rest)

def takeUnsigned (negative : Bool) (input : List Char) : Option (Json × List Char) := do
  let (whole, rest) := input.span Char.isDigit
  if whole.isEmpty then none
  else
    let (fraction, rest) := takeFraction rest
    let (exponent, rest') ← Numeral.takeExponent rest
    let numeral : Numeral := { negative, whole, fraction := fraction.getD [], exponent }
    if fraction.isNone && rest'.length = rest.length then
      if whole.length ≤ digitLimit then some (.int numeral.toInt, rest') else none
    else some (.double numeral.toDouble, rest')

def takeNumber (input : List Char) : Option (Json × List Char) :=
  let (negative, rest) := takeMinus input
  takeUnsigned negative rest

mutual

def takeValue : Nat → List Char → Option (Json × List Char)
  | 0, _ => none
  | fuel + 1, input =>
    match skipBlank input with
    | 'n' :: 'u' :: 'l' :: 'l' :: rest => some (.null, rest)
    | 't' :: 'r' :: 'u' :: 'e' :: rest => some (.bool true, rest)
    | 'f' :: 'a' :: 'l' :: 's' :: 'e' :: rest => some (.bool false, rest)
    | 'N' :: 'a' :: 'N' :: rest => some (.double .nan, rest)
    | 'I' :: 'n' :: 'f' :: 'i' :: 'n' :: 'i' :: 't' :: 'y' :: rest =>
      some (.double (.infinity false), rest)
    | '-' :: 'I' :: 'n' :: 'f' :: 'i' :: 'n' :: 'i' :: 't' :: 'y' :: rest =>
      some (.double (.infinity true), rest)
    | '\x22' :: rest => (takeString fuel [] rest).map fun (s, rest) => (.text s, rest)
    | '[' :: rest =>
      match skipBlank rest with
      | ']' :: rest => some (.array [], rest)
      | rest => (takeItems fuel rest).map fun (items, rest) => (.array items, rest)
    | '\x7b' :: rest =>
      match skipBlank rest with
      | '\x7d' :: rest => some (.object [], rest)
      | rest =>
        (takeFields fuel rest).map fun (fields, rest) => (.object (Keyed.ofPairs fields), rest)
    | rest => takeNumber rest

def takeItems : Nat → List Char → Option (List Json × List Char)
  | 0, _ => none
  | fuel + 1, input => do
    let (item, rest) ← takeValue fuel input
    match skipBlank rest with
    | ',' :: rest => do
      let (items, rest) ← takeItems fuel rest
      some (item :: items, rest)
    | ']' :: rest => some ([item], rest)
    | _ => none

def takeFields : Nat → List Char → Option (List (String × Json) × List Char)
  | 0, _ => none
  | fuel + 1, input =>
    match skipBlank input with
    | '\x22' :: rest => do
      let (key, rest) ← takeString fuel [] rest
      match skipBlank rest with
      | ':' :: rest => do
        let (value, rest) ← takeValue fuel rest
        match skipBlank rest with
        | ',' :: rest => do
          let (fields, rest) ← takeFields fuel rest
          some ((key, value) :: fields, rest)
        | '\x7d' :: rest => some ([(key, value)], rest)
        | _ => none
      | _ => none
    | _ => none

end

/-- Every step takes a character at least, so the length of the text bounds their number. -/
def read? (text : String) : Option Json :=
  let chars := text.toList
  match takeValue (chars.length + 1) chars with
  | some (value, rest) => if (skipBlank rest).isEmpty then some value else none
  | none => none

end FunctionCatalog.Json
