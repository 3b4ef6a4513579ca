import FunctionCatalog.Artifact
import FunctionCatalog.Numeric.TextForm
import FunctionCatalog.Text.Compound
import FunctionCatalog.Text.Quoted
set_option autoImplicit false

namespace FunctionCatalog

open Text (quoted)

namespace SemanticType

mutual

def textForm : SemanticType → String
  | .symbol n => Text.fields "TypeSymbol" [("name", quoted n)]
  | .literal n v => Text.fields "StringLiteralType" [("name", quoted n), ("value", quoted v)]
  | .tuple n members =>
    Text.fields "TupleType" [("name", quoted n), ("members", Text.tuple (textForms members))]

def textForms : List SemanticType → List String
  | [] => []
  | t :: rest => textForm t :: textForms rest

end

end SemanticType

def FixedParameter.textForm (p : FixedParameter) : String :=
  Text.fields "FixedParameter"
    [ ("name", quoted p.name), ("description", quoted p.description), ("type", p.type.textForm),
      ("required", Text.bool p.required) ]

def VariadicParameter.textForm (p : VariadicParameter) : String :=
  Text.fields "VariableParameter"
    [ ("name_prefix", quoted p.stem), ("description", quoted p.description),
      ("element_type", p.elementType.textForm), ("minimum_count", toString p.minimumCount) ]

def VariadicParameter.textForm? (p : VariadicParameter) : Option String :=
  if p.isWritable then some p.textForm else none

def Flags.textForm (s : Flags) : String :=
  "<FunctionFlags." ++ s.text ++ ": " ++ toString s.toNat ++ ">"

def Profile.textForm (p : Profile) : String :=
  Text.fields "FunctionSignature"
    [ ("name", quoted p.name), ("description", quoted p.description),
      ("return_type", p.returnType.textForm),
      ("fixed_parameters", Text.tuple (p.fixed.map FixedParameter.textForm)),
      ("variable_parameter", Text.option VariadicParameter.textForm p.variadic),
      ("flags", p.flags.textForm) ]

def Span.textForm (s : Span) : String :=
  Text.fields "Span"
    [ ("s_line", toString s.startLine), ("s_col", toString s.startColumn),
      ("e_line", toString s.endLine), ("e_col", toString s.endColumn),
      ("file_path", Text.option quoted s.file) ]

namespace Expression

def spanField (s : Option Span) : String × String := ("span", Text.option Span.textForm s)

mutual

def textForm : Expression → String
  | .number s v => Text.fields "NumberLiteral" [spanField s, ("value", v.textForm)]
  | .string s v => Text.fields "StringLiteral" [spanField s, ("value", quoted v)]
  | .boolean s v => Text.fields "BooleanLiteral" [spanField s, ("value", Text.bool v)]
  | .identifier s v => Text.fields "Identifier" [spanField s, ("value", quoted v)]
  | .vector s items =>
    Text.fields "VectorLiteral" [spanField s, ("items", Text.list (textForms items))]
  | .call s f args =>
    Text.fields "FunctionCall"
      [spanField s, ("function", quoted f), ("args", Text.list (textForms args))]

def textForms : List Expression → List String
  | [] => []
  | e :: rest => textForm e :: textForms rest

end

end Expression

def Argument.textForm (a : Argument) : String :=
  Text.fields "CallArgument"
    [("expression", a.expression.textForm), ("static_type", a.staticType.textForm)]

def ErrorCode.textForm (c : ErrorCode) : String :=
  "<ErrorCode." ++ c.label ++ ": " ++ quoted c.template.source ++ ">"

def Kind.textForm (k : Kind) : String :=
  match k.sort with
  | .enumeration => "<enum " ++ quoted k.name ++ ">"
  | .flagSet => "<flag " ++ quoted k.name ++ ">"
  | .plain | .model =>
    "<class " ++ quoted ((if k.path.isEmpty then "" else k.path ++ ".") ++ k.name) ++ ">"

namespace Artifact

mutual

def textForm : Artifact → String
  | .null => "None"
  | .bool b => Text.bool b
  | .number n => n.textForm
  | .text s => quoted s
  | .list items => Text.list (textForms items)
  | .tuple items => Text.tuple (textForms items)
  | .set [] => "set()"
  | .set items => Text.braced (Text.commas (textForms items))
  | .frozenSet [] => "frozenset()"
  | .frozenSet items => "frozenset(" ++ Text.braced (Text.commas (textForms items)) ++ ")"
  | .mapping entries => Text.braced (Text.commas (entryForms entries))
  | .bytes content => "b" ++ quoted content
  | .thing => "<object object>"
  | .kind k => k.textForm
  | .code c => c.textForm
  | .signature s => s.toProfile.textForm
  | .type t => t.textForm
  | .expression e => e.textForm
  | .argument a => a.textForm
  | .span s => s.textForm
  | .fixed p => p.textForm
  | .variadic p => p.textForm
  | .flags s => s.textForm

def textForms : List Artifact → List String
  | [] => []
  | a :: rest => textForm a :: textForms rest

def entryForms : List (String × Artifact) → List String
  | [] => []
  | (key, a) :: rest => (quoted key ++ ": " ++ textForm a) :: entryForms rest

end

/-- A whole number that is too long to be written leaves the whole value without a text form. -/
def textForm? (a : Artifact) : Option String := if a.isWritable then some a.textForm else none

end Artifact

end FunctionCatalog
