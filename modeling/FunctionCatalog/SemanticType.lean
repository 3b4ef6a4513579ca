set_option autoImplicit false

/-!
The types that a function's parameters and results may have. A type is known by its name; a string
narrowed to one literal and a tuple of results carry their contents beside it. Two types are equal
when they are of one kind and agree in every part, so a symbol that is spelled like a literal is
still another type.
-/

namespace FunctionCatalog

inductive SemanticType where
  | symbol (name : String)
  | literal (name value : String)
  | tuple (name : String) (members : List SemanticType)

namespace SemanticType

mutual

def decEq : (a b : SemanticType) → Decidable (a = b)
  | .symbol m, .symbol n => decidable_of_iff (m = n) (by simp)
  | .literal m v, .literal n w => decidable_of_iff (m = n ∧ v = w) (by simp)
  | .tuple m xs, .tuple n ys =>
    match decEqList xs ys with
    | isTrue h => decidable_of_iff (m = n) (by simp [h])
    | isFalse h => isFalse (by simp [h])
  | .symbol _, .literal _ _ | .symbol _, .tuple _ _ | .literal _ _, .symbol _
  | .literal _ _, .tuple _ _ | .tuple _ _, .symbol _ | .tuple _ _, .literal _ _ =>
    isFalse (by simp)

def decEqList : (xs ys : List SemanticType) → Decidable (xs = ys)
  | [], [] => isTrue rfl
  | [], _ :: _ | _ :: _, [] => isFalse (by simp)
  | x :: xs, y :: ys =>
    match decEq x y, decEqList xs ys with
    | isTrue hx, isTrue hxs => isTrue (by rw [hx, hxs])
    | isFalse hx, _ => isFalse (by simp [hx])
    | _, isFalse hxs => isFalse (by simp [hxs])

end

instance : DecidableEq SemanticType := decEq

def name : SemanticType → String
  | .symbol n | .literal n _ | .tuple n _ => n

def any : SemanticType := .symbol "any"
def scalar : SemanticType := .symbol "scalar"
def vector : SemanticType := .symbol "vector"
def boolean : SemanticType := .symbol "boolean"
def string : SemanticType := .symbol "string"

/-- The type of one string, named by that string between apostrophes. -/
def literalOf (value : String) : SemanticType := .literal ("'" ++ value ++ "'") value

def tupleOf (members : List SemanticType) : SemanticType :=
  .tuple ("(" ++ ", ".intercalate (members.map name) ++ ")") members

def keywords : List SemanticType := [any, scalar, vector, boolean, string]

def ofName? (word : String) : Option SemanticType := keywords.find? fun t => t.name = word

def isLiteral : SemanticType → Bool
  | .literal _ _ => true
  | _ => false

def plain (t : SemanticType) : SemanticType := .symbol t.name

theorem plain_eq_self_iff (t : SemanticType) : t.plain = t ↔ ∃ n, t = .symbol n := by
  cases t <;> simp [plain, name]

/-- What is not known may stand for anything and anything for it, so this is not transitive. -/
def isAssignable (source target : SemanticType) : Bool :=
  target = any ∨ source = any ∨ source = target ∨ (source.isLiteral ∧ target = string)

theorem isAssignable_any (t : SemanticType) : isAssignable t any ∧ isAssignable any t := by
  simp [isAssignable]

theorem isAssignable_self (t : SemanticType) : isAssignable t t := by simp [isAssignable]

end SemanticType

end FunctionCatalog
