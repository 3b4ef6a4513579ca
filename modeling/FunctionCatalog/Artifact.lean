import FunctionCatalog.Fault
import FunctionCatalog.Record
set_option autoImplicit false

/-!
Artifacts: the values that can be exchanged as JSON, and some that cannot. Encoding fails for the
first value, from left to right and outside in, that cannot be written.
-/

namespace FunctionCatalog

inductive KindSort where
  | plain
  | model
  | enumeration
  | flagSet
  deriving DecidableEq

/-- A kind of value, with the path under which it is known; a general kind has none. -/
structure Kind where
  path : String
  name : String
  sort : KindSort
  deriving DecidableEq

namespace Kind

def known : List Kind :=
  ["FixedParameter", "VariableParameter"].map (⟨"vsig.signatures.parameters", ·, .plain⟩)
    ++ [⟨"vsig.signatures.signature", "FunctionSignature", .plain⟩]
    ++ ["TypeSymbol", "StringLiteralType", "TupleType"].map (⟨"vsig.types", ·, .model⟩)
    ++ ["Span", "NumberLiteral", "StringLiteral", "BooleanLiteral", "Identifier", "VectorLiteral",
        "FunctionCall", "CallArgument"].map (⟨"vsig.syntax", ·, .model⟩)
    ++ [⟨"vsig.exceptions", "ErrorCode", .enumeration⟩,
        ⟨"vsig.config", "FunctionFlags", .flagSet⟩]

def ofName (name : String) : Kind :=
  (known.find? fun k => k.name = name).getD ⟨"", name, .plain⟩

end Kind

inductive Artifact where
  | null
  | bool (b : Bool)
  | number (n : Number)
  | text (s : String)
  | list (items : List Artifact)
  | tuple (items : List Artifact)
  | set (items : List Artifact)
  | frozenSet (items : List Artifact)
  | mapping (entries : List (String × Artifact))
  | bytes (content : String)
  | thing
  | kind (k : Kind)
  | code (c : ErrorCode)
  | signature (s : Signature)
  | type (t : SemanticType)
  | expression (e : Expression)
  | argument (a : Argument)
  | span (s : Span)
  | fixed (p : FixedParameter)
  | variadic (p : VariadicParameter)
  | flags (s : Flags)

/-- Why a value cannot be encoded: something in it has no JSON form, a whole number in it is too
long to be written, or nodes stand in it deeper than they are followed. -/
inductive EncodingFault where
  | unsupported (typeName : String)
  | tooLong
  | tooDeep
  deriving DecidableEq

def unsupportedMessage (typeName : String) : String :=
  "Object of type " ++ typeName ++ " is not JSON serializable"

def KindSort.typeName : KindSort → String
  | .plain => "type"
  | .model => "ModelMetaclass"
  | .enumeration | .flagSet => "EnumType"

namespace Artifact

mutual

def isWritable : Artifact → Bool
  | .number n => n.isWritable
  | .list items | .tuple items | .set items | .frozenSet items => itemsWritable items
  | .mapping entries => entriesWritable entries
  | .signature s => s.isWritable
  | .expression e => e.isWritable
  | .argument a => a.expression.isWritable
  | .span s => s.isWritable
  | .variadic p => p.isWritable
  | _ => true

def itemsWritable : List Artifact → Bool
  | [] => true
  | a :: rest => isWritable a && itemsWritable rest

def entriesWritable : List (String × Artifact) → Bool
  | [] => true
  | (_, a) :: rest => isWritable a && entriesWritable rest

end

@[simp] theorem itemsWritable_eq_all (items : List Artifact) :
    itemsWritable items = items.all isWritable := by
  induction items with
  | nil => rfl
  | cons a rest ih => rw [itemsWritable, ih, List.all_cons]

@[simp] theorem entriesWritable_eq_all (entries : List (String × Artifact)) :
    entriesWritable entries = entries.all fun e => e.2.isWritable := by
  induction entries with
  | nil => rfl
  | cons e rest ih => rw [entriesWritable, ih, List.all_cons]

def encodeType (t : SemanticType) : Json := .text t.name

def encodeFlags (s : Flags) : Json := .texts s.names

def encodeFixed (p : FixedParameter) : Json :=
  .object
    [ ("name", .text p.name), ("description", .text p.description), ("type", encodeType p.type),
      ("required", .bool p.required) ]

def encodeVariadic (p : VariadicParameter) : Json :=
  .object
    [ ("name_prefix", .text p.stem), ("description", .text p.description),
      ("element_type", encodeType p.elementType), ("minimum_count", .int p.minimumCount) ]

def checked (j : Json) : Except EncodingFault Json :=
  if j.isWritable then .ok j else .error .tooLong

/-- The record of a node is made as a whole before any of it is written. -/
def nodeRecord (nesting : Nat) (e : Expression) (j : Json) : Except EncodingFault Json :=
  if nesting < e.depth then .error .tooDeep else checked j

mutual

/-- Nodes are followed as deep as `nesting` says. -/
def encode (nesting : Nat) : Artifact → Except EncodingFault Json
  | .null => .ok .null
  | .bool b => .ok (.bool b)
  | .number n => checked (.number n)
  | .text s => .ok (.text s)
  | .list items | .tuple items | .set items | .frozenSet items => do
    return .array (← encodeItems nesting items)
  | .mapping entries => do return .object (← encodeEntries nesting entries)
  | .bytes _ => .error (.unsupported "bytes")
  | .thing => .error (.unsupported "object")
  | .kind k => .error (.unsupported k.sort.typeName)
  | .code _ => .error (.unsupported "ErrorCode")
  | .signature s => checked s.record
  | .type t => .ok (encodeType t)
  | .expression e => nodeRecord nesting e e.record
  | .argument a => nodeRecord nesting a.expression a.record
  | .span s => checked s.record
  | .fixed p => .ok (encodeFixed p)
  | .variadic p => checked (encodeVariadic p)
  | .flags s => .ok (encodeFlags s)

def encodeItems (nesting : Nat) : List Artifact → Except EncodingFault (List Json)
  | [] => .ok []
  | a :: rest => do
    let j ← encode nesting a
    return j :: (← encodeItems nesting rest)

def encodeEntries (nesting : Nat) :
    List (String × Artifact) → Except EncodingFault (List (String × Json))
  | [] => .ok []
  | (key, a) :: rest => do
    let j ← encode nesting a
    return (key, j) :: (← encodeEntries nesting rest)

end

end Artifact

end FunctionCatalog
