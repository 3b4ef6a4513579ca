import FunctionCatalog.Numeric.Reading
import FunctionCatalog.Record
set_option autoImplicit false

/-!
Reading records back. Reading is lenient: a number may be written as a text, a truth value as a
number or a word, and a field that has a default may be missing; unknown fields are passed over. An
object that stands for an expression takes the class that uses most of its fields; among those the
first that needed no lenience, or else the first.
-/

namespace FunctionCatalog

structure Reading (α : Type) where
  value : α
  exact : Bool := true
  given : Nat := 0

namespace Reading

variable {α β γ : Type}

def map (f : α → β) (r : Reading α) : Reading β := { r with value := f r.value }

def pair (f : α → β → γ) (a : Reading α) (b : Reading β) : Reading γ :=
  { value := f a.value b.value, exact := a.exact && b.exact, given := a.given + b.given }

/-- The better of two readings of one object: the one with more fields, then the exact one, then
the earlier one. -/
def better (a b : Reading α) : Reading α :=
  if a.given < b.given ∨ (a.given = b.given ∧ !a.exact ∧ b.exact) then b else a

def best? : List (Option (Reading α)) → Option (Reading α)
  | [] => none
  | none :: rest => best? rest
  | some a :: rest =>
    match best? rest with
    | none => some a
    | some b => some (a.better b)

end Reading

abbrev Checked (α : Type) := Except (List String) (Reading α)

namespace Checked

variable {α β γ : Type}

def map (f : α → β) (c : Checked α) : Checked β := Except.map (Reading.map f) c

/-- All failures are reported, not only the first. -/
def pair (f : α → β → γ) : Checked α → Checked β → Checked γ
  | .ok a, .ok b => .ok (a.pair f b)
  | .ok _, .error e => .error e
  | .error e, .ok _ => .error e
  | .error e, .error e' => .error (e ++ e')

def ofReading? (name : String) : Option (Reading α) → Checked α
  | some r => .ok { r with given := r.given + 1 }
  | none => .error [name]

end Checked

namespace Schema

def text? : Json → Option (Reading String)
  | .text s => some { value := s }
  | _ => none

/-- A double may stand for a whole number of fewer than 64 bits. -/
def wholeOfDouble? (d : Double) : Option Int :=
  match d.toInt? with
  | some n => if n.natAbs < 0x8000000000000000 then some n else none
  | none => none

def whole? : Json → Option (Reading Int)
  | .int n => some { value := n }
  | .bool b => some { value := if b then 1 else 0, exact := false }
  | .double d => (wholeOfDouble? d).map fun n => { value := n, exact := false }
  | .text s => (readWhole? s).map fun n => { value := n, exact := false }
  | _ => none

def boolOfWhole? (n : Int) : Option Bool :=
  if n = 0 then some false else if n = 1 then some true else none

/-- Words are compared without regard to the case of ASCII letters. -/
def boolOfWord? (s : String) : Option Bool :=
  let word := String.ofList (s.toList.map Char.toLower)
  if word ∈ ["0", "off", "f", "false", "n", "no"] then some false
  else if word ∈ ["1", "on", "t", "true", "y", "yes"] then some true
  else none

def bool? : Json → Option (Reading Bool)
  | .bool b => some { value := b }
  | .int n => (boolOfWhole? n).map fun b => { value := b, exact := false }
  | .double d => (d.toInt?.bind boolOfWhole?).map fun b => { value := b, exact := false }
  | .text s => (boolOfWord? s).map fun b => { value := b, exact := false }
  | _ => none

def number? : Json → Option (Reading Number)
  | .int n => some { value := .whole n }
  | .double d => some { value := .double d }
  | .bool b => some { value := .whole (if b then 1 else 0), exact := false }
  | .text s =>
    ((readWhole? s).map Number.whole <|> (readDouble? s).map Number.double).map fun n =>
      { value := n, exact := false }
  | _ => none

def nullable? {α : Type} (read : Json → Option (Reading α)) : Json → Option (Reading (Option α))
  | .null => some { value := none }
  | j => (read j).map (Reading.map some)

abbrev Fields := List (String × Json)

def required {α : Type} (fields : Fields) (name : String) (read : Json → Option (Reading α)) :
    Checked α :=
  .ofReading? name ((Keyed.find? fields name).bind read)

def optional {α : Type} (fields : Fields) (name : String) (missing : α)
    (read : Json → Option (Reading α)) : Checked α :=
  match Keyed.find? fields name with
  | none => .ok { value := missing }
  | some j => .ofReading? name (read j)

def ofObject {α : Type} (read : Fields → Checked α) : Json → Checked α
  | .object fields => read fields
  | _ => .error []

def span (fields : Fields) : Checked Span :=
  .pair (fun (start : Int × Int) (rest : (Int × Int) × Option String) =>
      { startLine := start.1, startColumn := start.2, endLine := rest.1.1
        endColumn := rest.1.2, file := rest.2 })
    (.pair Prod.mk (required fields "s_line" whole?) (required fields "s_col" whole?))
    (.pair Prod.mk
      (.pair Prod.mk (required fields "e_line" whole?) (required fields "e_col" whole?))
      (optional fields "file_path" none (nullable? text?)))

def span? (j : Json) : Option (Reading Span) := (ofObject span j).toOption

def spanField (fields : Fields) : Checked (Option Span) :=
  optional fields "span" none (nullable? span?)

def symbol (fields : Fields) : Checked SemanticType :=
  (required fields "name" text?).map .symbol

def symbol? (j : Json) : Option (Reading SemanticType) := (ofObject symbol j).toOption

def literalType (fields : Fields) : Checked SemanticType :=
  .pair .literal (required fields "name" text?) (required fields "value" text?)

def symbols? : List Json → Option (Reading (List SemanticType))
  | [] => some { value := [] }
  | j :: rest => do return (← symbol? j).pair List.cons (← symbols? rest)

def members? : Json → Option (Reading (List SemanticType))
  | .array items => symbols? items
  | _ => none

def tupleType (fields : Fields) : Checked SemanticType :=
  .pair .tuple (required fields "name" text?) (required fields "members" members?)

def numberNode (fields : Fields) : Checked Expression :=
  .pair .number (spanField fields) (required fields "value" number?)

def stringNode (fields : Fields) : Checked Expression :=
  .pair .string (spanField fields) (required fields "value" text?)

def booleanNode (fields : Fields) : Checked Expression :=
  .pair .boolean (spanField fields) (required fields "value" bool?)

def identifierNode (fields : Fields) : Checked Expression :=
  .pair .identifier (spanField fields) (required fields "value" text?)

def vectorNode (fields : Fields) (items : Option (Reading (List Expression))) :
    Checked Expression :=
  .pair .vector (spanField fields) (.ofReading? "items" items)

def callNode (fields : Fields) (args : Option (Reading (List Expression))) :
    Checked Expression :=
  .pair (fun head args => .call head.1 head.2 args)
    (.pair Prod.mk (spanField fields) (required fields "function" text?))
    (.ofReading? "args" args)

mutual

def expression? : Json → Option (Reading Expression)
  | .object fields =>
    Reading.best?
      [ (numberNode fields).toOption, (stringNode fields).toOption,
        (booleanNode fields).toOption, (identifierNode fields).toOption,
        (vectorNode fields (itemsUnder? "items" fields)).toOption,
        (callNode fields (itemsUnder? "args" fields)).toOption ]
  | _ => none

def items? : List Json → Option (Reading (List Expression))
  | [] => some { value := [] }
  | j :: rest => do return (← expression? j).pair List.cons (← items? rest)

def itemsUnder? (key : String) : Fields → Option (Reading (List Expression))
  | [] => none
  | (k, .array items) :: rest => if k = key then items? items else itemsUnder? key rest
  | (k, _) :: rest => if k = key then none else itemsUnder? key rest

end

def argument (fields : Fields) : Checked Argument :=
  .pair Argument.mk (required fields "expression" expression?)
    (optional fields "static_type" .any symbol?)

end Schema

inductive Model where
  | span
  | symbol
  | literalType
  | tupleType
  | number
  | string
  | boolean
  | identifier
  | vector
  | call
  | argument
  deriving DecidableEq

inductive Entity where
  | span (s : Span)
  | type (t : SemanticType)
  | expression (e : Expression)
  | argument (a : Argument)

namespace Model

def all : List Model :=
  [.span, .symbol, .literalType, .tupleType, .number, .string, .boolean, .identifier, .vector,
   .call, .argument]

def label : Model → String
  | .span => "Span"
  | .symbol => "TypeSymbol"
  | .literalType => "StringLiteralType"
  | .tupleType => "TupleType"
  | .number => "NumberLiteral"
  | .string => "StringLiteral"
  | .boolean => "BooleanLiteral"
  | .identifier => "Identifier"
  | .vector => "VectorLiteral"
  | .call => "FunctionCall"
  | .argument => "CallArgument"

def ofLabel? (label : String) : Option Model := all.find? fun m => m.label = label

def read : Model → Schema.Fields → Checked Entity
  | .span, fs => (Schema.span fs).map .span
  | .symbol, fs => (Schema.symbol fs).map .type
  | .literalType, fs => (Schema.literalType fs).map .type
  | .tupleType, fs => (Schema.tupleType fs).map .type
  | .number, fs => (Schema.numberNode fs).map .expression
  | .string, fs => (Schema.stringNode fs).map .expression
  | .boolean, fs => (Schema.booleanNode fs).map .expression
  | .identifier, fs => (Schema.identifierNode fs).map .expression
  | .vector, fs => (Schema.vectorNode fs (Schema.itemsUnder? "items" fs)).map .expression
  | .call, fs => (Schema.callNode fs (Schema.itemsUnder? "args" fs)).map .expression
  | .argument, fs => (Schema.argument fs).map .argument

def validate (m : Model) (record : Json) : Except (List String) Entity :=
  Except.map Reading.value (Schema.ofObject m.read record)

end Model

def Entity.record : Entity → Json
  | .span s => s.record
  | .type t => t.record
  | .expression e => e.record
  | .argument a => a.record

end FunctionCatalog
