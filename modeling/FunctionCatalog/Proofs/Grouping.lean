import FunctionCatalog.Proofs.Broadcasting
set_option autoImplicit false

namespace FunctionCatalog

/-- The result type of operands some of which give `t` and the others `u`: what is not known hides
all else, and a vector hides a scalar. -/
def joinType (t u : SemanticType) : SemanticType :=
  if t = .any ∨ u = .any then .any else if t = .vector ∨ u = .vector then .vector else .scalar

theorem broadcastType_append (ts us : List SemanticType) :
    broadcastType (ts ++ us) = joinType (broadcastType ts) (broadcastType us) := by
  unfold joinType
  simp only [broadcastType_eq_any_iff, broadcastType_eq_vector_iff]
  by_cases hany : .any ∈ ts ∨ .any ∈ us
  · rw [if_pos hany, broadcastType_eq_any_iff, List.mem_append]
    exact hany
  · have hts : .any ∉ ts := fun h => hany (.inl h)
    have hus : .any ∉ us := fun h => hany (.inr h)
    simp [broadcastType, hts, hus]

theorem broadcastType_congr {ts us : List SemanticType} (h : ∀ t, t ∈ ts ↔ t ∈ us) :
    broadcastType ts = broadcastType us := by
  simp only [broadcastType, h]

theorem broadcastType_result (ts : List SemanticType) :
    broadcastType [broadcastType ts] = broadcastType ts := by
  obtain ⟨-, h⟩ | ⟨-, -, h⟩ | ⟨-, -, h⟩ := broadcastType_cases ts <;> rw [h] <;> decide

theorem joinType_scalar_left (ts : List SemanticType) :
    joinType .scalar (broadcastType ts) = broadcastType ts :=
  (broadcastType_append [] ts).symm

theorem joinType_scalar_right (ts : List SemanticType) :
    joinType (broadcastType ts) .scalar = broadcastType ts := by
  have h := broadcastType_append ts []
  rw [List.append_nil] at h
  exact h.symm

def Expression.isReference : Expression → Bool
  | .identifier _ _ | .call _ _ _ => true
  | _ => false

theorem Argument.preciseType_of_isReference {node : Expression} (h : node.isReference)
    (t : SemanticType) : (Argument.mk node t).preciseType = t := by
  cases node with
  | identifier => simp +contextual [preciseType]
  | call => simp +contextual [preciseType]
  | _ => simp [Expression.isReference] at h

/-- Operands put together by calls of two arguments each. The node of a call is what stands for its
result in the call around it. -/
inductive Grouping where
  | operand (argument : Argument)
  | call (node : Expression) (isReference : node.isReference) (left right : Grouping)

namespace Grouping

def operands : Grouping → List Argument
  | .operand a => [a]
  | .call _ _ left right => left.operands ++ right.operands

/-- The argument that a grouping comes to, each call in it with the type inferred for it. -/
def typed (s : Signature) : Grouping → Except Refusal Argument
  | .operand a => .ok a
  | .call node _ left right => do
    let x ← left.typed s
    let y ← right.typed s
    return ⟨node, ← s.infer [x, y]⟩

section Typed

variable {s : Signature} {node : Expression} {left right : Grouping}

theorem typed_call (hrule : s.rule = .broadcast) (h : node.isReference) {x y : Argument}
    (hx : left.typed s = .ok x) (hy : right.typed s = .ok y)
    (hleft :
      broadcastType [x.preciseType] = broadcastType (left.operands.map Argument.preciseType))
    (hright :
      broadcastType [y.preciseType] = broadcastType (right.operands.map Argument.preciseType)) :
    (call node h left right).typed s =
      .ok ⟨node, broadcastType ((call node h left right).operands.map Argument.preciseType)⟩ := by
  have htypes : broadcastType ([x, y].map Argument.preciseType) =
      broadcastType ((call node h left right).operands.map Argument.preciseType) :=
    calc
      _ = joinType (broadcastType [x.preciseType]) (broadcastType [y.preciseType]) :=
        broadcastType_append [x.preciseType] [y.preciseType]
      _ = _ := by rw [hleft, hright, ← broadcastType_append, ← List.map_append, operands]
  rw [typed, hx, hy, ← htypes]
  show (do return Argument.mk node (← s.infer [x, y])) = _
  rw [Signature.infer_broadcast hrule]
  rfl

theorem exists_typed (hrule : s.rule = .broadcast) (g : Grouping) :
    ∃ a, g.typed s = .ok a ∧
      broadcastType [a.preciseType] = broadcastType (g.operands.map Argument.preciseType) := by
  -- The argument need not have the type of its operands: one truth value is a sum that gives a
  -- scalar. What is kept is the type that the rule makes of it.
  induction g with
  | operand a => exact ⟨a, rfl, rfl⟩
  | call node h left right ihl ihr =>
    obtain ⟨x, hx, hleft⟩ := ihl
    obtain ⟨y, hy, hright⟩ := ihr
    refine ⟨_, typed_call hrule h hx hy hleft hright, ?_⟩
    rw [Argument.preciseType_of_isReference h, broadcastType_result]

theorem infer_operands (hrule : s.rule = .broadcast) (h : node.isReference) :
    ∃ t, s.infer (call node h left right).operands = .ok t ∧
      (call node h left right).typed s = .ok ⟨node, t⟩ := by
  obtain ⟨x, hx, hleft⟩ := exists_typed hrule left
  obtain ⟨y, hy, hright⟩ := exists_typed hrule right
  exact ⟨_, Signature.infer_broadcast hrule _, typed_call hrule h hx hy hleft hright⟩

end Typed

end Grouping

namespace Registry

/-- The broadcasting rule takes appended lists to the join of their types, with the scalar of no
operands as the unit. The order and the number of times of an operand do not count; and for every
arithmetic function nested calls of two have the type of one call on all the operands. -/
theorem broadcast_join :
    (∀ xs ys : List Argument, ∃ t u, ReturnRule.broadcast xs = .ok t ∧
      ReturnRule.broadcast ys = .ok u ∧ ReturnRule.broadcast (xs ++ ys) = .ok (joinType t u)) ∧
    ReturnRule.broadcast [] = .ok .scalar ∧
    (∀ xs : List Argument, ∃ t, ReturnRule.broadcast xs = .ok t ∧
      joinType .scalar t = t ∧ joinType t .scalar = t) ∧
    (∀ xs ys : List Argument, xs.Perm ys → ReturnRule.broadcast xs = ReturnRule.broadcast ys) ∧
    (∀ xs : List Argument, ∀ x ∈ xs,
      ReturnRule.broadcast (x :: xs) = ReturnRule.broadcast xs) ∧
    ∀ name ∈ OperatorKind.arithmetic.functions,
      ∃ s, builtin.overloads name = .ok [s] ∧ s.rule = .broadcast ∧
        ∀ (node : Expression) (h : node.isReference) (left right : Grouping),
          ∃ t, s.infer (Grouping.call node h left right).operands = .ok t ∧
            (Grouping.call node h left right).typed s = .ok ⟨node, t⟩ := by
  have hsame {xs ys : List Argument} (h : ∀ x, x ∈ xs ↔ x ∈ ys) :
      ReturnRule.broadcast xs = ReturnRule.broadcast ys := by
    refine congrArg Except.ok (broadcastType_congr fun t => ?_)
    simp only [List.mem_map, h]
  refine ⟨fun xs ys => ⟨_, _, rfl, rfl, ?_⟩, rfl,
    fun xs => ⟨_, rfl, joinType_scalar_left _, joinType_scalar_right _⟩,
    fun xs ys hperm => hsame fun x => hperm.mem_iff, fun xs x hx => hsame fun y => ?_,
    fun name hname => ?_⟩
  · rw [← broadcastType_append, ← List.map_append]
    rfl
  · rw [List.mem_cons, or_iff_right_iff_imp]
    rintro rfl
    exact hx
  · obtain ⟨s, hs, hrule⟩ := overloads_arithmetic name hname
    exact ⟨s, hs, hrule, fun node h left right => Grouping.infer_operands hrule h⟩

/-- The sum of a scalar, a vector and a truth value is a vector whichever two are added first. -/
theorem sum_from_either_side :
    let one : Argument := ⟨.number none (.whole 1), .any⟩
    let items : Argument := ⟨.identifier none "v", .vector⟩
    let truth : Argument := ⟨.boolean none true, .any⟩
    let sum (left right : Grouping) : Grouping := .call (.call none "add" []) rfl left right
    ReturnRule.broadcast [one, items] = ReturnRule.broadcast [items, one] ∧
      ReturnRule.broadcast [one, one, items] = ReturnRule.broadcast [one, items] ∧
      ∃ add, builtin.overloads "add" = .ok [add] ∧ add.infer [one, items, truth] = .ok .vector ∧
        (sum (sum (.operand one) (.operand items)) (.operand truth)).typed add =
          .ok ⟨.call none "add" [], .vector⟩ ∧
        (sum (.operand one) (sum (.operand items) (.operand truth))).typed add =
          .ok ⟨.call none "add" [], .vector⟩ := by
  intro one items truth sum
  obtain ⟨-, -, -, perm, again, arithmetic⟩ := broadcast_join
  obtain ⟨add, hadd, hrule, grouped⟩ := arithmetic "add" (by decide)
  have hinfer : add.infer [one, items, truth] = .ok .vector := Signature.infer_broadcast hrule _
  refine ⟨perm _ _ (.swap items one []), again [one, items] one (by simp), add, hadd, hinfer,
    ?_, ?_⟩
  · obtain ⟨t, ht, htyped⟩ := grouped (.call none "add" []) rfl
      (sum (.operand one) (.operand items)) (.operand truth)
    have hvector : t = .vector := Except.ok.inj (ht.symm.trans hinfer)
    exact hvector ▸ htyped
  · obtain ⟨t, ht, htyped⟩ := grouped (.call none "add" []) rfl
      (.operand one) (sum (.operand items) (.operand truth))
    have hvector : t = .vector := Except.ok.inj (ht.symm.trans hinfer)
    exact hvector ▸ htyped

end Registry

end FunctionCatalog
