import FunctionCatalog.Proofs.RegistryOrder
import FunctionCatalog.Builtin.Catalog
set_option autoImplicit false

namespace FunctionCatalog

/-- Nothing is known of `t`, or the same as of `u`. -/
def SemanticType.Vaguer (t u : SemanticType) : Prop := t = .any ∨ t = u

theorem SemanticType.Vaguer.refl (t : SemanticType) : t.Vaguer t := .inr rfl

theorem eq_of_vaguer {ts us : List SemanticType} (h : List.Forall₂ SemanticType.Vaguer ts us)
    (known : .any ∉ ts) : ts = us := by
  induction h with
  | nil => rfl
  | cons htu _ ih =>
    simp only [List.mem_cons, not_or] at known
    rw [htu.resolve_left (Ne.symm known.1), ih known.2]

theorem broadcastType_vaguer {ts us : List SemanticType}
    (h : List.Forall₂ SemanticType.Vaguer ts us) :
    (broadcastType ts).Vaguer (broadcastType us) := by
  by_cases hany : .any ∈ ts
  · exact .inl (if_pos hany)
  · rw [eq_of_vaguer h hany]
    exact .refl _

namespace Expression

/-- What the type of a node may be read off: its kind and, in a string, the text. -/
def outline : Expression → Expression
  | .number _ _ => .number none (.whole 0)
  | .string _ v => .string none v
  | .boolean _ _ => .boolean none false
  | .identifier _ _ => .identifier none ""
  | .vector _ _ => .vector none []
  | .call _ _ _ => .call none "" []

end Expression

namespace Argument

def outline (a : Argument) : Argument := { a with expression := a.expression.outline }

theorem preciseType_outline (a : Argument) : a.outline.preciseType = a.preciseType := by
  obtain ⟨e, t⟩ := a
  cases e <;> rfl

theorem map_preciseType_of_outline {xs ys : List Argument}
    (h : xs.map outline = ys.map outline) : xs.map preciseType = ys.map preciseType := by
  have hread : preciseType ∘ outline = preciseType := funext preciseType_outline
  rw [← hread, ← List.map_map, h, List.map_map]

end Argument

namespace ReturnRule

/-- A rule that always answers, from the precise types of the arguments alone, and whose answers
are vaguer only where the arguments are. -/
def Gradual (rule : ReturnRule) : Prop :=
  ∃ result : List SemanticType → SemanticType,
    (∀ args, rule args = .ok (result (args.map Argument.preciseType))) ∧
      ∀ ts us, List.Forall₂ SemanticType.Vaguer ts us → (result ts).Vaguer (result us)

theorem gradual_constant (t : SemanticType) : (constant t).Gradual :=
  ⟨fun _ => t, fun _ => rfl, fun _ _ _ => .refl t⟩

theorem gradual_broadcast : broadcast.Gradual :=
  ⟨broadcastType, fun _ => rfl, fun _ _ => broadcastType_vaguer⟩

theorem gradual_firstArgument : firstArgument.Gradual := by
  refine ⟨fun ts => ts.headD .any, fun args => by cases args <;> rfl, fun ts us h => ?_⟩
  cases h with
  | nil => exact .refl _
  | cons htu _ => exact htu

end ReturnRule

namespace Section

theorem mem_all (part : Section) : part ∈ all := by cases part <;> decide

theorem gradual_of_mem (part : Section) : ∀ s ∈ part.signatures, s.rule.Gradual := by
  cases part <;>
    simp only [signatures, coreFunctions, vectorFunctions, seriesFunctions, statisticsFunctions,
      financialFunctions, dataFunctions, List.forall_mem_cons, List.not_mem_nil,
      IsEmpty.forall_iff, implies_true, and_true] <;>
    and_intros <;>
    first
      | exact ReturnRule.gradual_constant _
      | exact ReturnRule.gradual_broadcast
      | exact ReturnRule.gradual_firstArgument

end Section

namespace Registry

theorem registerEach_sections {r : Registry} (h : r.frozen = false) (parts : List Section) :
    parts.foldl (fun r part => (r.registerEach part.signatures).1) r =
      { r with groups := (parts.flatMap Section.signatures).foldl filed r.groups } := by
  induction parts generalizing r with
  | nil => rfl
  | cons part parts ih =>
    rw [List.foldl_cons, registerEach_open h, List.flatMap_cons, List.foldl_append]
    exact ih h

theorem groups_builtin : builtin.groups = grouped (Section.all.flatMap Section.signatures) := by
  rw [builtin, registerEach_sections rfl]
  exact foldl_filed [] _

theorem mem_builtin {s : Signature} :
    s ∈ builtin.signatures ↔ ∃ part : Section, s ∈ part.signatures := by
  rw [signatures, groups_builtin, flatMap_grouped, mem_regrouped]
  simp [Section.mem_all]

/-- A built-in function gives a result type for any arguments, of its arity or not. It is read off
their precise types alone, and arguments of which less is known give the same type or none. -/
theorem infer_of_mem_builtin (s : Signature) (h : s ∈ builtin.signatures) :
    (∀ xs ys : List Argument, ∃ t u, s.infer xs = .ok t ∧ s.infer ys = .ok u ∧
      (List.Forall₂ (fun x y => x.preciseType.Vaguer y.preciseType) xs ys → t.Vaguer u)) ∧
    (∃ result : List SemanticType → SemanticType,
      ∀ args, s.infer args = .ok (result (args.map Argument.preciseType))) ∧
    ∀ xs ys : List Argument, xs.map Argument.outline = ys.map Argument.outline →
      s.infer xs = s.infer ys := by
  obtain ⟨part, hs⟩ := mem_builtin.mp h
  obtain ⟨result, answers, vaguer⟩ := part.gradual_of_mem s hs
  refine ⟨fun xs ys => ⟨_, _, answers xs, answers ys, fun hxy => vaguer _ _ ?_⟩,
    ⟨result, answers⟩, fun xs ys hxy => ?_⟩
  · rwa [List.forall₂_map_left_iff, List.forall₂_map_right_iff]
  · have htypes := Argument.map_preciseType_of_outline hxy
    exact (answers xs).trans ((congrArg (Except.ok ∘ result) htypes).trans (answers ys).symm)

/-- Of a sum with an operand that is not known no more is said than of one with a vector there, and
the vector's items do not count. -/
theorem infer_add :
    let add := (Draft.variadicMath "add" "Adds all operands element-wise.").sealed
    let one : Argument := ⟨.number none (.whole 1), .any⟩
    let name : Argument := ⟨.identifier none "x", .any⟩
    let vector (items : List Expression) : Argument := ⟨.vector none items, .any⟩
    add ∈ builtin.signatures ∧
      (∃ t u, add.infer [name, one] = .ok t ∧ add.infer [vector [], one] = .ok u ∧ t.Vaguer u) ∧
      add.infer [vector [], one] = add.infer [vector [.string none "a"], one] := by
  intro add one name vector
  have hadd : add ∈ builtin.signatures :=
    mem_builtin.mpr ⟨.core, by simp [Section.signatures, Section.coreFunctions, add]⟩
  obtain ⟨gradual, -, outline⟩ := infer_of_mem_builtin add hadd
  obtain ⟨t, u, ht, hu, hvaguer⟩ := gradual [name, one] [vector [], one]
  exact ⟨hadd, ⟨t, u, ht, hu, hvaguer (.cons (.inl rfl) (.cons (.refl _) .nil))⟩,
    outline _ _ rfl⟩

end Registry

end FunctionCatalog
