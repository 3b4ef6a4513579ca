import FunctionCatalog.Artifact
set_option autoImplicit false

/-!
Standings: what a name stands for in a value, its fields apart. Every value has the names of its
type, whatever it is used for. What is worked out from the kinds of records is up to the
surroundings, and its names come in as a list.
-/

namespace FunctionCatalog

inductive Standing where
  | nothing
  /-- One thing for all values of the type. A value with room for names of its own may put another
  before it. -/
  | constant
  | derived
  /-- The label or the content of a case of the enumeration `owner`. -/
  | fixedBy (owner : String)
  /-- Something that the type `owner` keeps and lets nobody write. -/
  | keptBy (owner : String)
  | locked
  | kind
  | contents
  | title (owner : String)
  | fullTitle (owner : String)
  | parents (owner : String)
  deriving DecidableEq

namespace Names

def common : List String :=
  ["__delattr__", "__dir__", "__doc__", "__eq__", "__format__", "__ge__", "__getattribute__",
   "__getstate__", "__gt__", "__hash__", "__init__", "__init_subclass__", "__le__", "__lt__",
   "__ne__", "__new__", "__reduce__", "__reduce_ex__", "__repr__", "__setattr__", "__sizeof__",
   "__str__", "__subclasshook__"]

def numeric : List String :=
  ["__abs__", "__add__", "__bool__", "__ceil__", "__divmod__", "__float__", "__floor__",
   "__floordiv__", "__getnewargs__", "__int__", "__mod__", "__mul__", "__neg__", "__pos__",
   "__pow__", "__radd__", "__rdivmod__", "__rfloordiv__", "__rmod__", "__rmul__", "__round__",
   "__rpow__", "__rsub__", "__rtruediv__", "__sub__", "__truediv__", "__trunc__",
   "as_integer_ratio", "conjugate"]

def whole : List String :=
  numeric ++
    ["__and__", "__index__", "__invert__", "__lshift__", "__or__", "__rand__", "__rlshift__",
     "__ror__", "__rrshift__", "__rshift__", "__rxor__", "__xor__", "bit_count", "bit_length",
     "from_bytes", "to_bytes"]

def double : List String :=
  numeric ++ ["__getformat__", "fromhex", "hex", "is_integer"]

def textual : List String :=
  ["__add__", "__contains__", "__getitem__", "__getnewargs__", "__iter__", "__len__", "__mod__",
   "__mul__", "__rmod__", "__rmul__", "capitalize", "center", "count", "endswith", "expandtabs",
   "find", "index", "isalnum", "isalpha", "isascii", "isdigit", "islower", "isspace", "istitle",
   "isupper", "join", "ljust", "lower", "lstrip", "maketrans", "partition", "removeprefix",
   "removesuffix", "replace", "rfind", "rindex", "rjust", "rpartition", "rsplit", "rstrip",
   "split", "splitlines", "startswith", "strip", "swapcase", "title", "translate", "upper",
   "zfill"]

def text : List String :=
  textual ++
    ["casefold", "encode", "format", "format_map", "isdecimal", "isidentifier", "isnumeric",
     "isprintable"]

def bytes : List String :=
  textual ++ ["__bytes__", "decode", "fromhex", "hex"]

def sequence : List String :=
  ["__add__", "__class_getitem__", "__contains__", "__getitem__", "__iter__", "__len__", "__mul__",
   "__rmul__", "count", "index"]

def list : List String :=
  sequence ++
    ["__delitem__", "__iadd__", "__imul__", "__reversed__", "__setitem__", "append", "clear",
     "copy", "extend", "insert", "pop", "remove", "reverse", "sort"]

def tuple : List String := sequence ++ ["__getnewargs__"]

def frozenSet : List String :=
  ["__and__", "__class_getitem__", "__contains__", "__iter__", "__len__", "__or__", "__rand__",
   "__ror__", "__rsub__", "__rxor__", "__sub__", "__xor__", "copy", "difference", "intersection",
   "isdisjoint", "issubset", "issuperset", "symmetric_difference", "union"]

def set : List String :=
  frozenSet ++
    ["__iand__", "__ior__", "__isub__", "__ixor__", "add", "clear", "difference_update", "discard",
     "intersection_update", "pop", "remove", "symmetric_difference_update", "update"]

def mapping : List String :=
  ["__class_getitem__", "__contains__", "__delitem__", "__getitem__", "__ior__", "__iter__",
   "__len__", "__or__", "__reversed__", "__ror__", "__setitem__", "clear", "copy", "fromkeys",
   "get", "items", "keys", "pop", "popitem", "setdefault", "update", "values"]

end Names

namespace Standing

def ofPlain (owner : String) (constants kept : List String) (name : String) : Standing :=
  if name ∈ Names.common ∨ name ∈ constants then .constant
  else if name ∈ kept then .keptBy owner
  else .nothing

def ofRecord (owner name : String) : Standing :=
  if name ∈ ["__fields__", "__fields_set__", "model_extra", "model_fields_set"] then .derived
  else if name = "__dict__" then .contents
  else if name = "__weakref__" then .keptBy owner
  else .nothing

def ofCase (name : String) : Standing :=
  if name ∈ ["name", "value"] then .fixedBy "Enum"
  else if name = "__dict__" then .contents
  else if name = "__weakref__" then .keptBy "Enum"
  else .nothing

def ofKind (title : String) (derived : List String) (name : String) : Standing :=
  if name ∈ derived then .derived
  else if name ∈ ["__base__", "__basicsize__", "__dictoffset__", "__flags__", "__itemsize__",
      "__mro__", "__weakrefoffset__"] then .locked
  else if name ∈ ["__dict__", "__text_signature__"] then .keptBy "type"
  else if name = "__name__" then .title title
  else if name = "__qualname__" then .fullTitle title
  else if name = "__bases__" then .parents title
  else .nothing

end Standing

def KindSort.derivedNames (ofModels : List String) : KindSort → List String
  | .plain => []
  | .model => ofModels
  | .enumeration | .flagSet => ["__members__"]

namespace Artifact

/-- What a name stands for in a value, given the names of what is worked out from the kinds of
records. -/
def standing (ofModels : List String) (name : String) (a : Artifact) : Standing :=
  if name = "__class__" then .kind
  else
    match a with
    | .null => .ofPlain "NoneType" ["__bool__"] [] name
    | .bool _ | .number (.whole _) =>
      .ofPlain "int" Names.whole ["denominator", "imag", "numerator", "real"] name
    | .number (.double _) => .ofPlain "float" Names.double ["imag", "real"] name
    | .text _ => .ofPlain "str" Names.text [] name
    | .list _ => .ofPlain "list" Names.list [] name
    | .tuple _ => .ofPlain "tuple" Names.tuple [] name
    | .set _ => .ofPlain "set" Names.set [] name
    | .frozenSet _ => .ofPlain "frozenset" Names.frozenSet [] name
    | .mapping _ => .ofPlain "dict" Names.mapping [] name
    | .bytes _ => .ofPlain "bytes" Names.bytes [] name
    | .thing => .ofPlain "object" [] [] name
    | .type _ => .ofRecord "TypeSymbol" name
    | .expression _ => .ofRecord "ASTNode" name
    | .argument _ => .ofRecord "CallArgument" name
    | .span _ => .ofRecord "Span" name
    | .code _ | .flags _ => .ofCase name
    | .kind k => .ofKind k.name (k.sort.derivedNames ofModels) name
    | .signature _ | .fixed _ | .variadic _ => .nothing

end Artifact

end FunctionCatalog
