import FunctionCatalog.Json
import FunctionCatalog.Text.Hex
set_option autoImplicit false

namespace FunctionCatalog.Json

def unit16 (n : Nat) : List Char := '\\' :: 'u' :: Text.hex 4 n

def escape (c : Char) : List Char :=
  if c = '\x22' ∨ c = '\\' then ['\\', c]
  else if c = '\n' then ['\\', 'n']
  else if c = '\r' then ['\\', 'r']
  else if c = '\t' then ['\\', 't']
  else if c = '\x08' then ['\\', 'b']
  else if c = '\x0c' then ['\\', 'f']
  else if ' ' ≤ c ∧ c ≤ '~' then [c]
  else if c.toNat < 0x10000 then unit16 c.toNat
  else
    let rest := c.toNat - 0x10000
    unit16 (0xd800 + rest / 0x400) ++ unit16 (0xdc00 + rest % 0x400)

def quote (s : String) : String :=
  String.ofList ('\x22' :: s.toList.flatMap escape ++ ['\x22'])

def specialWords : SpecialWords := { nan := "NaN", infinity := "Infinity" }

def lineBreak (indent : Option String) (depth : Nat) : String :=
  match indent with
  | none => ""
  | some level => "\n" ++ String.join (List.replicate depth level)

def separator (indent : Option String) (depth : Nat) : String :=
  match indent with
  | none => ", "
  | some _ => "," ++ lineBreak indent depth

def enclose (indent : Option String) (depth : Nat) (left right : String) (items : List String) :
    String :=
  match items with
  | [] => left ++ right
  | _ :: _ =>
    left ++ lineBreak indent (depth + 1) ++ (separator indent (depth + 1)).intercalate items
      ++ lineBreak indent depth ++ right

mutual

def writeAt (indent : Option String) (depth : Nat) : Json → String
  | .null => "null"
  | .bool true => "true"
  | .bool false => "false"
  | .int n => toString n
  | .double d => d.write specialWords
  | .text s => quote s
  | .array items => enclose indent depth "[" "]" (writeItems indent (depth + 1) items)
  | .object fields => enclose indent depth "\x7b" "\x7d" (writeFields indent (depth + 1) fields)

def writeItems (indent : Option String) (depth : Nat) : List Json → List String
  | [] => []
  | j :: rest => writeAt indent depth j :: writeItems indent depth rest

def writeFields (indent : Option String) (depth : Nat) : List (String × Json) → List String
  | [] => []
  | (key, j) :: rest =>
    (quote key ++ ": " ++ writeAt indent depth j) :: writeFields indent depth rest

end

/-- The text of a value; with `indent`, a line for each item and that text for each level. -/
def write (j : Json) (indent : Option String := none) : String := writeAt indent 0 j

def write? (j : Json) (indent : Option String := none) : Option String :=
  if j.isWritable then some (j.write indent) else none

end FunctionCatalog.Json
