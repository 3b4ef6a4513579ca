import FunctionCatalog.Standing
import FunctionCatalog.Text.Quoted
set_option autoImplicit false

/-!
Assignments: letting a name of a value stand for something else. Signatures and parameters are
closed to it, types and the parts of a call all but closed; a place in the source takes anything
for its own fields. Everything else goes by the standing of the name in the value.
-/

namespace FunctionCatalog

inductive AssignmentFault where
  | closed (name : String)
  | invalid (name : String)
  | noField (typeName name : String)
  | absent (typeName name : String)
  | constant (typeName name : String)
  | derived (typeName name : String)
  | fixed (owner name : String)
  | kept (owner name : String)
  | locked
  | case (name : String)
  | notKind (given : String)
  | notContents (given : String)
  | notText (owner name given : String)
  | holdsNul
  | notParents (owner name given : String)
  deriving DecidableEq

def AssignmentFault.message : AssignmentFault → String
  | .closed name => "cannot assign to field " ++ Text.quoted name
  | .invalid _ => "Instance is frozen"
  | .noField typeName name => "\"" ++ typeName ++ "\" object has no field \"" ++ name ++ "\""
  | .absent typeName name => "'" ++ typeName ++ "' object has no attribute '" ++ name ++ "'"
  | .constant typeName name =>
    "'" ++ typeName ++ "' object attribute '" ++ name ++ "' is read-only"
  | .derived typeName name =>
    "property " ++ Text.quoted name ++ " of '" ++ typeName ++ "' object has no setter"
  | .fixed owner name => "<enum '" ++ owner ++ "'> cannot set attribute " ++ Text.quoted name
  | .kept owner name => "attribute '" ++ name ++ "' of '" ++ owner ++ "' objects is not writable"
  | .locked => "readonly attribute"
  | .case name => "cannot reassign member " ++ Text.quoted name
  | .notKind given => "__class__ must be set to a class, not '" ++ given ++ "' object"
  | .notContents given => "__dict__ must be set to a dictionary, not a '" ++ given ++ "'"
  | .notText owner name given =>
    "can only assign string to " ++ owner ++ "." ++ name ++ ", not '" ++ given ++ "'"
  | .holdsNul => "type name must not contain null characters"
  | .notParents owner name given =>
    "can only assign tuple to " ++ owner ++ "." ++ name ++ ", not " ++ given

def Json.typeName : Json → String
  | .null => "NoneType"
  | .bool _ => "bool"
  | .int _ => "int"
  | .double _ => "float"
  | .text _ => "str"
  | .array _ => "list"
  | .object _ => "dict"

def SemanticType.typeName : SemanticType → String
  | .symbol _ => "TypeSymbol"
  | .literal _ _ => "StringLiteralType"
  | .tuple _ _ => "TupleType"

def Expression.typeName : Expression → String
  | .number _ _ => "NumberLiteral"
  | .string _ _ => "StringLiteral"
  | .boolean _ _ => "BooleanLiteral"
  | .identifier _ _ => "Identifier"
  | .vector _ _ => "VectorLiteral"
  | .call _ _ _ => "FunctionCall"

def Kind.caseNames (k : Kind) : List String :=
  match k.sort with
  | .plain | .model => []
  | .enumeration => ErrorCode.all.map ErrorCode.label
  | .flagSet => "NONE" :: Flag.all.map Flag.label

/-- What comes of an assignment to a name by its standing alone. A value with room takes new
names. JSON has no kinds and no tuples. -/
def Standing.assign (standing : Standing) (room : Bool) (typeName name : String) (given : Json) :
    Except AssignmentFault Unit :=
  match standing with
  | .nothing => if room then .ok () else .error (.absent typeName name)
  | .constant => if room then .ok () else .error (.constant typeName name)
  | .derived => .error (.derived typeName name)
  | .fixedBy owner => .error (.fixed owner name)
  | .keptBy owner => .error (.kept owner name)
  | .locked => .error .locked
  | .kind => .error (.notKind given.typeName)
  | .contents =>
    match given with
    | .object _ => .ok ()
    | _ => .error (.notContents given.typeName)
  | .title owner =>
    match given with
    | .text text => if '\x00' ∈ text.toList then .error .holdsNul else .ok ()
    | _ => .error (.notText owner name given.typeName)
  | .fullTitle owner =>
    match given with
    | .text _ => .ok ()
    | _ => .error (.notText owner name given.typeName)
  | .parents owner => .error (.notParents owner name given.typeName)

def isPrivate (name : String) : Bool := name.toList.head? = some '_'

def Span.fieldNames : List String := ["s_line", "s_col", "e_line", "e_col", "file_path"]

namespace Artifact

def typeName : Artifact → String
  | .null => "NoneType"
  | .bool _ => "bool"
  | .number (.whole _) => "int"
  | .number (.double _) => "float"
  | .text _ => "str"
  | .list _ => "list"
  | .tuple _ => "tuple"
  | .set _ => "set"
  | .frozenSet _ => "frozenset"
  | .mapping _ => "dict"
  | .bytes _ => "bytes"
  | .thing => "object"
  | .kind k => k.sort.typeName
  | .code _ => "ErrorCode"
  | .signature _ => "FunctionSignature"
  | .type t => t.typeName
  | .expression e => e.typeName
  | .argument _ => "CallArgument"
  | .span _ => "Span"
  | .fixed _ => "FixedParameter"
  | .variadic _ => "VariableParameter"
  | .flags _ => "FunctionFlags"

/-- Whether a record takes another value for a name. Its private names go by their standing; of
the others a closed record takes none, and an open one those of its fields. -/
def assignField (a : Artifact) (fields : Option (List String)) (standing : Standing)
    (name : String) (given : Json) : Except AssignmentFault Unit :=
  if isPrivate name then standing.assign true a.typeName name given
  else
    match fields with
    | none => .error (.invalid name)
    | some own =>
      if standing = .derived then .error (.derived a.typeName name)
      else if name ∈ own then .ok ()
      else .error (.noField a.typeName name)

def assign (a : Artifact) (standing : Standing) (name : String) (given : Json) :
    Except AssignmentFault Unit :=
  match a with
  | .signature _ | .fixed _ | .variadic _ => .error (.closed name)
  | .type _ | .expression _ | .argument _ => a.assignField none standing name given
  | .span _ => a.assignField (some Span.fieldNames) standing name given
  | .kind k =>
    if name ∈ k.caseNames then .error (.case name)
    else standing.assign true a.typeName name given
  | .code _ | .flags _ => standing.assign true a.typeName name given
  | .null | .bool _ | .number _ | .text _ | .list _ | .tuple _ | .set _ | .frozenSet _ | .mapping _
  | .bytes _ | .thing => standing.assign false a.typeName name given

end Artifact

end FunctionCatalog
