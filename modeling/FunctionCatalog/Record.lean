import FunctionCatalog.Json
import FunctionCatalog.Signature
set_option autoImplicit false

namespace FunctionCatalog

def FixedParameter.record (p : FixedParameter) : Json :=
  .object
    [ ("name", .text p.name), ("description", .text p.description), ("type", .text p.type.name),
      ("required", .bool p.required) ]

def VariadicParameter.record (p : VariadicParameter) : Json :=
  .object
    [ ("name_prefix", .text p.stem), ("description", .text p.description),
      ("element_type", .text p.elementType.name), ("minimum_count", .int p.minimumCount) ]

def Profile.record (p : Profile) : Json :=
  .object
    [ ("name", .text p.name), ("description", .text p.description),
      ("signature", .text p.displayForm), ("return_type", .text p.returnType.name),
      ("fixed_parameters", .array (p.fixed.map FixedParameter.record)),
      ("variable_parameter", .ofOption VariadicParameter.record p.variadic),
      ("flags", .texts p.flags.names) ]

def Span.record (s : Span) : Json :=
  .object
    [ ("s_line", .int s.startLine), ("s_col", .int s.startColumn), ("e_line", .int s.endLine),
      ("e_col", .int s.endColumn), ("file_path", .ofOption .text s.file) ]

/-- The members of a tuple are known by their names. -/
def SemanticType.record : SemanticType → Json
  | .symbol n => .object [("name", .text n)]
  | .literal n v => .object [("name", .text n), ("value", .text v)]
  | .tuple n members =>
    .object
      [ ("name", .text n),
        ("members", .array (members.map fun m => .object [("name", .text m.name)])) ]

namespace Expression

mutual

def record : Expression → Json
  | .number s v => .object [("span", .ofOption Span.record s), ("value", .number v)]
  | .string s v => .object [("span", .ofOption Span.record s), ("value", .text v)]
  | .boolean s v => .object [("span", .ofOption Span.record s), ("value", .bool v)]
  | .identifier s v => .object [("span", .ofOption Span.record s), ("value", .text v)]
  | .vector s items =>
    .object [("span", .ofOption Span.record s), ("items", .array (records items))]
  | .call s f args =>
    .object
      [ ("span", .ofOption Span.record s), ("function", .text f),
        ("args", .array (records args)) ]

def records : List Expression → List Json
  | [] => []
  | e :: rest => record e :: records rest

end

end Expression

def Argument.record (a : Argument) : Json :=
  .object [("expression", a.expression.record), ("static_type", a.staticType.plain.record)]

-- Of what is recorded only counts, places and the numbers of expressions can be too long.

@[simp] theorem FixedParameter.isWritable_record (p : FixedParameter) :
    p.record.isWritable = true := by
  simp [record]

@[simp] theorem VariadicParameter.isWritable_record (p : VariadicParameter) :
    p.record.isWritable = p.isWritable := by
  simp [record, isWritable]

@[simp] theorem Profile.isWritable_record (p : Profile) : p.record.isWritable = p.isWritable := by
  have hfixed : (p.fixed.map FixedParameter.record).all Json.isWritable := by simp
  have hflags : (p.flags.names.map Json.text).all Json.isWritable := by simp
  rw [record, Json.isWritable_object]
  simp only [List.all_cons, List.all_nil, Json.isWritable_text, Json.isWritable_array, hfixed,
    Json.texts, hflags, Bool.true_and, Bool.and_true, isWritable]
  cases p.variadic <;> simp [Json.ofOption]

@[simp] theorem Span.isWritable_record (s : Span) : s.record.isWritable = s.isWritable := by
  cases h : s.file <;> simp [record, isWritable, Json.ofOption, h]

theorem SemanticType.isWritable_record (t : SemanticType) : t.record.isWritable = true := by
  cases t <;> simp [record]

theorem Span.isWritable_ofOption (s : Option Span) :
    (Json.ofOption Span.record s).isWritable = s.all Span.isWritable := by
  cases s <;> simp [Json.ofOption]

namespace Expression

mutual

theorem isWritable_record (e : Expression) : e.record.isWritable = e.isWritable := by
  cases e with
  | number s v | string s v | boolean s v | identifier s v =>
    simp [record, isWritable, Span.isWritable_ofOption]
  | vector s items | call s f items =>
    simp [record, isWritable, Span.isWritable_ofOption, isWritable_records items]

theorem isWritable_records (items : List Expression) :
    (records items).all Json.isWritable = itemsWritable items := by
  cases items with
  | nil => rfl
  | cons e items =>
    rw [records, List.all_cons, isWritable_record e, isWritable_records items, itemsWritable]

end

end Expression

theorem Argument.isWritable_record (a : Argument) :
    a.record.isWritable = a.expression.isWritable := by
  simp [record, Expression.isWritable_record, SemanticType.isWritable_record]

end FunctionCatalog
