import FunctionCatalog.Proofs.Grouping
import Mathlib.Order.Defs.Unbundled
set_option autoImplicit false

namespace FunctionCatalog

namespace SemanticType

/-- The part of assignability that does not come from a lack of knowledge. -/
def Refines (t u : SemanticType) : Prop := t = u ∨ (t.isLiteral ∧ u = .string)

theorem Refines.refl (t : SemanticType) : t.Refines t := .inl rfl

theorem Refines.trans {t u v : SemanticType} (htu : t.Refines u) (huv : u.Refines v) :
    t.Refines v := by
  obtain rfl | ⟨ht, rfl⟩ := htu
  · exact huv
  · -- A string is no literal, so nothing but itself is above it.
    obtain rfl | ⟨hstring, -⟩ := huv
    · exact .inr ⟨ht, rfl⟩
    · exact absurd hstring (by decide)

theorem Refines.antisymm {t u : SemanticType} (htu : t.Refines u) (hut : u.Refines t) : t = u := by
  obtain rfl | ⟨ht, rfl⟩ := htu
  · rfl
  · obtain rfl | ⟨hstring, -⟩ := hut
    · rfl
    · exact absurd hstring (by decide)

theorem isAssignable_iff (t u : SemanticType) :
    isAssignable t u ↔ t = .any ∨ u = .any ∨ t.Refines u := by
  simp only [isAssignable, Refines, decide_eq_true_eq]
  exact or_left_comm

theorem isAssignable_iff_refines {t u : SemanticType} (ht : t ≠ .any) (hu : u ≠ .any) :
    isAssignable t u ↔ t.Refines u := by
  simp [isAssignable_iff, ht, hu]

theorem isPartialOrder_known :
    IsPartialOrder { t : SemanticType // t ≠ .any } fun t u => isAssignable t.1 u.1 where
  refl t := (isAssignable_iff_refines t.2 t.2).mpr (.refl t.1)
  trans t u v htu huv := by
    rw [isAssignable_iff_refines t.2 u.2] at htu
    rw [isAssignable_iff_refines u.2 v.2] at huv
    exact (isAssignable_iff_refines t.2 v.2).mpr (htu.trans huv)
  antisymm t u htu hut := by
    rw [isAssignable_iff_refines t.2 u.2] at htu
    rw [isAssignable_iff_refines u.2 t.2] at hut
    exact Subtype.ext (htu.antisymm hut)

theorem isAssignable_both_iff (t u : SemanticType) :
    (isAssignable t u ∧ isAssignable u t) ↔ t = u ∨ t = .any ∨ u = .any := by
  constructor
  · rintro ⟨htu, hut⟩
    rw [isAssignable_iff] at htu hut
    obtain ht | hu | htu := htu
    · exact .inr (.inl ht)
    · exact .inr (.inr hu)
    · obtain hu | ht | hut := hut
      · exact .inr (.inr hu)
      · exact .inr (.inl ht)
      · exact .inl (htu.antisymm hut)
  · rintro (rfl | rfl | rfl)
    · exact ⟨isAssignable_self t, isAssignable_self t⟩
    · exact (isAssignable_any u).symm
    · exact isAssignable_any t

theorem isAssignable_of_ne_any {t u v : SemanticType} (hu : u ≠ .any) (htu : isAssignable t u)
    (huv : isAssignable u v) : isAssignable t v := by
  rw [isAssignable_iff] at *
  obtain ht | hu' | htu := htu
  · exact .inl ht
  · exact absurd hu' hu
  · obtain hu' | hv | huv := huv
    · exact absurd hu' hu
    · exact .inr (.inl hv)
    · exact .inr (.inr (htu.trans huv))

/-- Two steps that cannot be made in one go by way of what is not known. -/
theorem isAssignable_gap_iff (t u v : SemanticType) :
    (isAssignable t u ∧ isAssignable u v ∧ ¬ isAssignable t v) ↔
      u = .any ∧ ¬ isAssignable t v := by
  constructor
  · rintro ⟨htu, huv, htv⟩
    exact ⟨by_contra fun hu => htv (isAssignable_of_ne_any hu htu huv), htv⟩
  · rintro ⟨rfl, htv⟩
    exact ⟨(isAssignable_any t).1, (isAssignable_any v).2, htv⟩

/-- Known types are ordered by what may stand for what. With those that are not known all may
change places, and they alone come between types of which one may not stand for the other. -/
theorem isAssignable_orders_known :
    (IsPartialOrder { t : SemanticType // t ≠ .any } fun t u => isAssignable t.1 u.1) ∧
    (∀ t : SemanticType, isAssignable t .any ∧ isAssignable .any t) ∧
    (∀ t u : SemanticType,
      (isAssignable t u ∧ isAssignable u t) ↔ t = u ∨ t = .any ∨ u = .any) ∧
    ∀ t u v : SemanticType,
      (isAssignable t u ∧ isAssignable u v ∧ ¬ isAssignable t v) ↔
        u = .any ∧ ¬ isAssignable t v :=
  ⟨isPartialOrder_known, isAssignable_any, isAssignable_both_iff, isAssignable_gap_iff⟩

example : isAssignable .vector (.literal "any" "x") = false ∧
    isAssignable (.symbol "'x'") .string = false ∧
    isAssignable (.literalOf "x") (.tuple "string" []) = false := by decide

end SemanticType

theorem SemanticType.literalOf_ne_any (v : String) : literalOf v ≠ any := by simp [literalOf, any]

def Expression.ownType : Expression → SemanticType
  | .string _ v => .literalOf v
  | .boolean _ _ => .boolean
  | .number _ _ => .scalar
  | .vector _ _ => .vector
  | .identifier _ _ | .call _ _ _ => .any

theorem Expression.ownType_eq_any_iff (e : Expression) : e.ownType = .any ↔ e.isReference := by
  cases e with
  | string s v => simp [ownType, isReference, SemanticType.literalOf_ne_any]
  | _ => simp [ownType, isReference, SemanticType.boolean, SemanticType.scalar,
      SemanticType.vector, SemanticType.any]

namespace Argument

open SemanticType (isAssignable)

variable (e : Expression) (t : SemanticType)

/-- A written string hides the type worked out for it. Of any other node that type is taken if
there is one, and what the node says itself if there is none. -/
theorem preciseType_cases :
    (∃ s v, e = .string s v ∧ (Argument.mk e t).preciseType = .literalOf v) ∨
      ((¬ ∃ s v, e = .string s v) ∧ t = .any ∧ (Argument.mk e t).preciseType = e.ownType) ∨
      ((¬ ∃ s v, e = .string s v) ∧ t ≠ .any ∧ (Argument.mk e t).preciseType = t) := by
  cases e with
  | string s v => exact .inl ⟨s, v, rfl, rfl⟩
  | _ =>
    refine .inr ?_
    by_cases ht : t = .any <;> simp [preciseType, Expression.ownType, ht]

theorem preciseType_ownType : (Argument.mk e e.ownType).preciseType = e.ownType := by
  obtain ⟨s, v, rfl, -⟩ | ⟨-, -, h⟩ | ⟨-, -, h⟩ := preciseType_cases e e.ownType
  · rfl
  · exact h
  · exact h

theorem preciseType_again (a : Argument) :
    { a with staticType := a.preciseType }.preciseType = a.preciseType := by
  obtain ⟨e, t⟩ := a
  obtain ⟨s, v, rfl, -⟩ | ⟨-, -, h⟩ | ⟨-, -, h⟩ := preciseType_cases e t
  · rfl
  · rw [h, preciseType_ownType]
  · rw [h, h]

theorem literalOf_isAssignable_iff (v : String) :
    isAssignable (.literalOf v) t ↔ t ∈ [.any, .string, .literalOf v] := by
  have hliteral : (SemanticType.literalOf v).isLiteral := rfl
  simp only [SemanticType.isAssignable_iff, SemanticType.Refines, SemanticType.literalOf_ne_any,
    hliteral, false_or, true_and, List.mem_cons, List.not_mem_nil, or_false]
  rw [or_comm (b := t = .string), eq_comm (a := SemanticType.literalOf v)]

theorem preciseType_isAssignable_iff (a : Argument) :
    isAssignable a.preciseType a.staticType ↔
      ¬ ∃ s v, a.expression = .string s v ∧ a.staticType ∉ [.any, .string, .literalOf v] := by
  obtain ⟨e, t⟩ := a
  obtain ⟨s, v, rfl, -⟩ | ⟨hstring, rfl, -⟩ | ⟨hstring, -, h⟩ := preciseType_cases e t
  · simp only [Expression.string.injEq, existsAndEq, and_true, true_and, not_not]
    exact literalOf_isAssignable_iff t v
  · exact iff_of_true (SemanticType.isAssignable_any _).1
      fun ⟨s, v, he, _⟩ => hstring ⟨s, v, he⟩
  · rw [h]
    exact iff_of_true (SemanticType.isAssignable_self t)
      fun ⟨s, v, he, _⟩ => hstring ⟨s, v, he⟩

theorem preciseType_eq_any_iff (a : Argument) :
    a.preciseType = .any ↔ a.staticType = .any ∧ a.expression.isReference := by
  obtain ⟨e, t⟩ := a
  obtain ⟨s, v, rfl, h⟩ | ⟨-, rfl, h⟩ | ⟨-, ht, h⟩ := preciseType_cases e t
  · simp [h, SemanticType.literalOf_ne_any, Expression.isReference]
  · rw [h, Expression.ownType_eq_any_iff, and_iff_right rfl]
  · rw [h]
    exact iff_of_false ht fun hany => ht hany.1

/-- To put the precise type in place of the one worked out tells nothing new. It may stand for that
one, unless a string was written where neither a string nor this string was worked out; and it is
unknown just for a name or a call of which nothing is known. -/
theorem preciseType_narrows (a : Argument) :
    { a with staticType := a.preciseType }.preciseType = a.preciseType ∧
    (isAssignable a.preciseType a.staticType ↔
      ¬ ∃ s v, a.expression = .string s v ∧ a.staticType ∉ [.any, .string, .literalOf v]) ∧
    (a.preciseType = .any ↔ a.staticType = .any ∧ a.expression.isReference) :=
  ⟨a.preciseType_again, a.preciseType_isAssignable_iff, a.preciseType_eq_any_iff⟩

end Argument

end FunctionCatalog
