import FunctionCatalog.Proofs.ResultTypes
set_option autoImplicit false

namespace FunctionCatalog

@[simp]
theorem SemanticType.any_ne_vector : any ≠ vector := by decide

@[simp]
theorem SemanticType.any_ne_scalar : any ≠ scalar := by decide

@[simp]
theorem SemanticType.vector_ne_scalar : vector ≠ scalar := by decide

section Types

variable (types : List SemanticType)

theorem broadcastType_cases :
    (.any ∈ types ∧ broadcastType types = .any) ∨
      (.any ∉ types ∧ .vector ∈ types ∧ broadcastType types = .vector) ∨
      (.any ∉ types ∧ .vector ∉ types ∧ broadcastType types = .scalar) := by
  unfold broadcastType
  by_cases hany : .any ∈ types
  · simp [hany]
  · by_cases hvector : .vector ∈ types <;> simp [hany, hvector]

theorem broadcastType_eq_any_iff : broadcastType types = .any ↔ .any ∈ types := by
  obtain ⟨hany, h⟩ | ⟨hany, hvector, h⟩ | ⟨hany, hvector, h⟩ := broadcastType_cases types <;>
    simp [h, hany, SemanticType.any_ne_vector.symm, SemanticType.any_ne_scalar.symm]

theorem broadcastType_eq_vector_iff :
    broadcastType types = .vector ↔ .vector ∈ types ∧ .any ∉ types := by
  obtain ⟨hany, h⟩ | ⟨hany, hvector, h⟩ | ⟨hany, hvector, h⟩ := broadcastType_cases types <;>
    simp [*, SemanticType.vector_ne_scalar.symm]

theorem broadcastType_eq_scalar_iff :
    broadcastType types = .scalar ↔ .any ∉ types ∧ .vector ∉ types := by
  obtain ⟨hany, h⟩ | ⟨hany, hvector, h⟩ | ⟨hany, hvector, h⟩ := broadcastType_cases types <;>
    simp [*]

/-- The result type that is announced for arithmetic: one vector makes a vector, scalars alone make
a scalar, and of anything else nothing is known. -/
def announcedType : SemanticType :=
  if .vector ∈ types then .vector else if ∀ t ∈ types, t = .scalar then .scalar else .any

theorem broadcastType_eq_announcedType_iff :
    broadcastType types = announcedType types ↔
      ¬ (.any ∈ types ∧ .vector ∈ types) ∧
        (.any ∈ types ∨ .vector ∈ types ∨ ∀ t ∈ types, t = .scalar) := by
  unfold announcedType
  by_cases hvector : .vector ∈ types
  · rw [if_pos hvector, broadcastType_eq_vector_iff]
    simp [hvector]
  rw [if_neg hvector]
  by_cases hscalar : ∀ t ∈ types, t = .scalar
  · have hany : .any ∉ types := fun h => SemanticType.any_ne_scalar (hscalar _ h)
    rw [if_pos hscalar, broadcastType_eq_scalar_iff]
    exact ⟨fun _ => ⟨fun h => hany h.1, .inr (.inr hscalar)⟩, fun _ => ⟨hany, hvector⟩⟩
  · rw [if_neg hscalar, broadcastType_eq_any_iff]
    simp only [hvector, hscalar, or_false, and_false, not_false_eq_true, true_and]

end Types

def OperatorKind.functions (kind : OperatorKind) : List String := kind.table.map Prod.snd

example : OperatorKind.arithmetic.functions =
    ["add", "subtract", "multiply", "divide", "power"] := rfl

theorem Signature.infer_broadcast {s : Signature} (h : s.rule = .broadcast)
    (args : List Argument) :
    s.infer args = .ok (broadcastType (args.map Argument.preciseType)) := by
  rw [infer, h]
  rfl

namespace Registry

theorem overloads_arithmetic : ∀ name ∈ OperatorKind.arithmetic.functions,
    ∃ s, builtin.overloads name = .ok [s] ∧ s.rule = .broadcast := by
  simp only [OperatorKind.functions, OperatorKind.table, List.map_cons, List.map_nil,
    List.forall_mem_cons, List.not_mem_nil, IsEmpty.forall_iff, implies_true, and_true]
  and_intros <;> exact ⟨_, rfl, rfl⟩

/-- An arithmetic function always has a result type. It is unknown with any unknown operand, else a
vector with any vector, else a scalar; so it is the announced one exactly if there is no unknown
operand beside a vector and, with neither of them, none that is not a scalar. -/
theorem arithmetic_as_announced_iff : ∀ name ∈ OperatorKind.arithmetic.functions,
    ∃ s, builtin.overloads name = .ok [s] ∧ ∀ args : List Argument,
      let types := args.map Argument.preciseType
      ∃ t, s.infer args = .ok t ∧
        (t = .any ↔ .any ∈ types) ∧
        (t = .vector ↔ .vector ∈ types ∧ .any ∉ types) ∧
        (t = .scalar ↔ .any ∉ types ∧ .vector ∉ types) ∧
        (t = announcedType types ↔
          ¬ (.any ∈ types ∧ .vector ∈ types) ∧
            (.any ∈ types ∨ .vector ∈ types ∨ ∀ u ∈ types, u = .scalar)) := by
  intro name hname
  obtain ⟨s, hs, hrule⟩ := overloads_arithmetic name hname
  exact ⟨s, hs, fun args => ⟨_, Signature.infer_broadcast hrule args, broadcastType_eq_any_iff _,
    broadcastType_eq_vector_iff _, broadcastType_eq_scalar_iff _,
    broadcastType_eq_announcedType_iff _⟩⟩

theorem power_as_announced :
    "power" ∈ OperatorKind.arithmetic.functions ∧
      ∃ power, builtin.overloads "power" = .ok [power] ∧
        power.infer [⟨.vector none [], .any⟩, ⟨.number none (.whole 2), .any⟩] =
          .ok (announcedType [.vector, .scalar]) := by
  have hname : "power" ∈ OperatorKind.arithmetic.functions := by decide
  obtain ⟨power, hpower, hinfer⟩ := arithmetic_as_announced_iff "power" hname
  obtain ⟨t, ht, -, -, -, hannounced⟩ :=
    hinfer [⟨.vector none [], .any⟩, ⟨.number none (.whole 2), .any⟩]
  refine ⟨hname, power, hpower, ht.trans (congrArg Except.ok (hannounced.mpr ?_))⟩
  decide

/-- A truth value is added as if it were a scalar, and a name of unknown type hides the vector
beside it; of both sums something else is announced. -/
theorem add_not_as_announced :
    let truth : Argument := ⟨.boolean none true, .any⟩
    let one : Argument := ⟨.number none (.whole 1), .any⟩
    let items : Argument := ⟨.vector none [], .any⟩
    let name : Argument := ⟨.identifier none "x", .any⟩
    ∃ add, builtin.overloads "add" = .ok [add] ∧
      (add.infer [truth, one] = .ok .scalar ∧
        announcedType ([truth, one].map Argument.preciseType) = .any) ∧
      add.infer [items, name] = .ok .any ∧
        announcedType ([items, name].map Argument.preciseType) = .vector :=
  ⟨_, rfl, ⟨rfl, by decide⟩, rfl, by decide⟩

end Registry

end FunctionCatalog
