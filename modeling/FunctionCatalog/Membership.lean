import FunctionCatalog.Artifact
set_option autoImplicit false

/-!
What can change, and what can be a member of a set. A value that can change cannot, nor can a value
with such a part; the one that is met first is named. Members that are the same count once.
-/

namespace FunctionCatalog

namespace Expression

def changeable? (e : Expression) : Option String :=
  match e.span, e with
  | some _, _ => some "Span"
  | none, .vector _ _ | none, .call _ _ _ => some "list"
  | none, _ => none

end Expression

def Argument.changeable? (a : Argument) : Option String := a.expression.changeable?

namespace Artifact

mutual

def changeable? : Artifact → Option String
  | .list _ => some "list"
  | .mapping _ => some "dict"
  | .set _ => some "set"
  | .span _ => some "Span"
  | .tuple items => anyChangeable? items
  | .expression e => e.changeable?
  | .argument a => a.changeable?
  | _ => none

def anyChangeable? : List Artifact → Option String
  | [] => none
  | a :: rest => changeable? a <|> anyChangeable? rest

end

/-- Truth values count as the numbers one and zero. -/
def number? : Artifact → Option Number
  | .bool b => some (.whole (if b then 1 else 0))
  | .number n => some n
  | _ => none

mutual

/-- Whether two values are one member of a set. Frozen sets are the same when each has the members
of the other; values that can change are no members, and a bare thing is only itself. -/
def same : Artifact → Artifact → Bool
  | .null, .null => true
  | .bool a, b => b.number?.any (Number.whole (if a then 1 else 0)).same
  | .number m, b => b.number?.any m.same
  | .text a, .text b => a = b
  | .tuple xs, .tuple ys => sameItems xs ys
  | .frozenSet xs, .frozenSet ys => xs.length = ys.length && within xs ys
  | .bytes a, .bytes b => a = b
  | .kind a, .kind b => a = b
  | .code a, .code b => a = b
  | .signature a, .signature b => a.same b
  | .type a, .type b => a = b
  | .expression a, .expression b => a.same b
  | .argument a, .argument b => a.same b
  | .fixed a, .fixed b => a = b
  | .variadic a, .variadic b => a = b
  | .flags a, .flags b => a = b
  | _, _ => false

def sameItems : List Artifact → List Artifact → Bool
  | [], [] => true
  | x :: xs, y :: ys => same x y && sameItems xs ys
  | _, _ => false

def within : List Artifact → List Artifact → Bool
  | [], _ => true
  | x :: xs, ys => ys.any (fun y => same x y) && within xs ys

end

/-- Members with one more value beside them, unless it can change. Of members that are the same the
first stays. -/
def join (members : List Artifact) (a : Artifact) : Except String (List Artifact) :=
  match a.changeable? with
  | some part => .error part
  | none => .ok (if members.any fun b => b.same a then members else members ++ [a])

end Artifact

/-- For each value, the index of the first that is the same as it or is it itself. -/
def classes {α : Type} (same : α → α → Bool) (values : List α) : List Nat :=
  values.zipIdx.map fun (v, i) => ((values.take i).findIdx? fun w => same w v).getD i

def distinct {α : Type} (same : α → α → Bool) (changeable? : α → Option String)
    (values : List α) : Except String Nat :=
  match values.findSome? changeable? with
  | some part => .error part
  | none => .ok (classes same values).eraseDups.length

end FunctionCatalog
