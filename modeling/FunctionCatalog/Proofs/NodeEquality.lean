import FunctionCatalog.Proofs.ExactValue
import FunctionCatalog.Proofs.NormalForm
import FunctionCatalog.Proofs.ResultTypes
set_option autoImplicit false

namespace FunctionCatalog

section ItemByItem

variable {α : Type} {R : α → α → Prop} {xs ys zs : List α}

theorem forall₂_symm_of_mem (h : ∀ x ∈ xs, ∀ y, R x y → R y x) (hxy : List.Forall₂ R xs ys) :
    List.Forall₂ R ys xs := by
  induction hxy with
  | nil => exact .nil
  | cons hr _ ih => exact .cons (h _ (by simp) _ hr) (ih fun x hx => h x (by simp [hx]))

theorem forall₂_trans_of_mem (h : ∀ x ∈ xs, ∀ y z, R x y → R y z → R x z)
    (hxy : List.Forall₂ R xs ys) (hyz : List.Forall₂ R ys zs) : List.Forall₂ R xs zs := by
  induction hxy generalizing zs with
  | nil => exact hyz
  | cons hr _ ih =>
    cases hyz with
    | cons hr' hyz =>
      exact .cons (h _ (by simp) _ _ hr hr') (ih (fun x hx => h x (by simp [hx])) hyz)

end ItemByItem

namespace Expression

theorem sameItems_iff_forall₂ (xs ys : List Expression) :
    sameItems xs ys ↔ List.Forall₂ (fun x y => x.same y) xs ys := by
  induction xs generalizing ys with
  | nil => cases ys <;> simp [sameItems]
  | cons x xs ih => cases ys <;> simp [sameItems, ih]

/-- Equality as it is seen at the top of two nodes. -/
inductive SameNode : Expression → Expression → Prop where
  | number {s : Option Span} {m n : Number} (h : m.same n) : SameNode (number s m) (number s n)
  | string {s : Option Span} {v : String} : SameNode (string s v) (string s v)
  | boolean {s : Option Span} {v : Bool} : SameNode (boolean s v) (boolean s v)
  | identifier {s : Option Span} {n : String} : SameNode (identifier s n) (identifier s n)
  | vector {s : Option Span} {xs ys : List Expression}
      (h : List.Forall₂ (fun x y => x.same y) xs ys) : SameNode (vector s xs) (vector s ys)
  | call {s : Option Span} {f : String} {xs ys : List Expression}
      (h : List.Forall₂ (fun x y => x.same y) xs ys) : SameNode (call s f xs) (call s f ys)

variable {a b c : Expression}

theorem SameNode.same (h : SameNode a b) : a.same b := by
  cases h with
  | number h => simpa [Expression.same] using h
  | string | boolean | identifier => simp [Expression.same]
  | vector h | call h => simpa [Expression.same, sameItems_iff_forall₂] using h

theorem sameNode_of_same (h : a.same b) : SameNode a b := by
  cases a <;> cases b <;>
    simp only [same, Bool.and_eq_true, decide_eq_true_eq, sameItems_iff_forall₂,
      Bool.false_eq_true] at h
  case number =>
    obtain ⟨rfl, h⟩ := h
    exact .number h
  case string =>
    obtain ⟨rfl, rfl⟩ := h
    exact .string
  case boolean =>
    obtain ⟨rfl, rfl⟩ := h
    exact .boolean
  case identifier =>
    obtain ⟨rfl, rfl⟩ := h
    exact .identifier
  case vector =>
    obtain ⟨rfl, h⟩ := h
    exact .vector h
  case call =>
    obtain ⟨⟨rfl, rfl⟩, h⟩ := h
    exact .call h

theorem same_reversed (h : a.same b) : b.same a := by
  -- On the first node alone: the other has the same shape, so its items need no induction.
  induction a using Expression.induction generalizing b with
  | number s m =>
    cases sameNode_of_same h with
    | number hmn => exact (SameNode.number (by rwa [Number.same_symm])).same
  | string | boolean | identifier =>
    cases sameNode_of_same h
    exact h
  | vector s xs ih =>
    cases sameNode_of_same h with
    | vector hxy => exact (SameNode.vector (forall₂_symm_of_mem (fun x hx _ => ih x hx) hxy)).same
  | call s f xs ih =>
    cases sameNode_of_same h with
    | call hxy => exact (SameNode.call (forall₂_symm_of_mem (fun x hx _ => ih x hx) hxy)).same

theorem same_symm (a b : Expression) : a.same b = b.same a :=
  Bool.eq_iff_iff.mpr ⟨same_reversed, same_reversed⟩

theorem same_trans (hab : a.same b) (hbc : b.same c) : a.same c := by
  induction a using Expression.induction generalizing b c with
  | number s m =>
    cases sameNode_of_same hab with
    | number hmn =>
      cases sameNode_of_same hbc with
      | number hnk => exact (SameNode.number (Number.same_trans hmn hnk)).same
  | string | boolean | identifier =>
    cases sameNode_of_same hab
    exact hbc
  | vector s xs ih =>
    cases sameNode_of_same hab with
    | vector hxy =>
      cases sameNode_of_same hbc with
      | vector hyz =>
        exact (SameNode.vector (forall₂_trans_of_mem (fun x hx _ _ => ih x hx) hxy hyz)).same
  | call s f xs ih =>
    cases sameNode_of_same hab with
    | call hxy =>
      cases sameNode_of_same hbc with
      | call hyz =>
        exact (SameNode.call (forall₂_trans_of_mem (fun x hx _ _ => ih x hx) hxy hyz)).same

theorem same_self_iff_no_nan (e : Expression) :
    e.same e ↔ ¬ ∃ s d, .number s (.double d) ∈ e.nodes ∧ d.isNaN := by
  rw [same_self_iff]
  constructor
  · rintro h ⟨s, d, hd, hnan⟩
    exact (Number.same_self_iff_not_isNaN _).mp (h s _ hd) ⟨d, rfl, hnan⟩
  · intro h s n hn
    rw [Number.same_self_iff_not_isNaN]
    rintro ⟨d, rfl, hnan⟩
    exact h ⟨s, d, hn, hnan⟩

theorem number_same_number_iff (s : Option Span) (m n : Number) :
    (number s m).same (number s n) ↔ ∃ q, m.quantity? = some q ∧ n.quantity? = some q := by
  rw [← Number.same_iff_quantity]
  simp [same]

theorem outline_of_same (h : a.same b) : a.outline = b.outline := by
  cases sameNode_of_same h <;> rfl

end Expression

def Literal.same : Literal → Literal → Bool
  | .number m, .number n => m.same n
  | .string v, .string w => v = w
  | .boolean a, .boolean b => a = b
  | _, _ => false

namespace Argument

theorem same_iff (a b : Argument) :
    a.same b ↔ a.expression.same b.expression ∧ a.staticType = b.staticType := by
  simp [same]

theorem preciseType_of_same {a b : Argument} (h : a.same b) : a.preciseType = b.preciseType := by
  obtain ⟨hnode, htype⟩ := (same_iff a b).mp h
  have houtline : a.outline = b.outline := by
    rw [outline, outline, htype, Expression.outline_of_same hnode]
  rw [← preciseType_outline a, houtline, preciseType_outline]

theorem literal?_of_same {a b : Argument} (h : a.same b) :
    Option.Rel (fun v w => Literal.same v w) a.literal? b.literal? := by
  obtain ⟨a, t⟩ := a
  obtain ⟨b, u⟩ := b
  obtain ⟨hnode, -⟩ := (same_iff _ _).mp h
  cases Expression.sameNode_of_same hnode with
  | number hmn => exact .some hmn
  | string | boolean => exact .some (by simp [Literal.same])
  | identifier | vector | call => exact .none

end Argument

/-- Nodes are compared alike from either side and through any third. A node is equal to its copy
unless a NaN stands in it; numbers at one place are equal just when they stand for one point of the
line; and equal arguments have the same precise type and equal literals or none. -/
theorem equality_of_nodes :
    (∀ a b : Expression, a.same b = b.same a) ∧
    (∀ a b c : Expression, a.same b → b.same c → a.same c) ∧
    (∀ e : Expression, e.same e ↔ ¬ ∃ s d, .number s (.double d) ∈ e.nodes ∧ d.isNaN) ∧
    (∀ (s : Option Span) (m n : Number), (Expression.number s m).same (.number s n) ↔
      ∃ q, m.quantity? = some q ∧ n.quantity? = some q) ∧
    ∀ a b : Argument, a.same b → a.preciseType = b.preciseType ∧
      Option.Rel (fun v w => Literal.same v w) a.literal? b.literal? :=
  ⟨Expression.same_symm, fun _ _ _ => Expression.same_trans, Expression.same_self_iff_no_nan,
    Expression.number_same_number_iff, fun _ _ h =>
      ⟨Argument.preciseType_of_same h, Argument.literal?_of_same h⟩⟩

/-- Zero as a whole number and with either sign as a double, in a call. -/
theorem equality_of_zeros :
    let positive : Double := ⟨0⟩
    let negative : Double := ⟨0x8000000000000000⟩
    let call (zero : Number) : Expression :=
      .call (some ⟨1, 1, 1, 9, none⟩) "f" [.vector none [.number none zero], .string none "a"]
    (call (.double positive)).same (call (.whole 0)) ∧
      (call (.whole 0)).same (call (.double negative)) ∧
      (call (.double positive)).same (call (.double negative)) ∧
      (Argument.mk (.number none (.whole 0)) .any).same ⟨.number none (.double negative), .any⟩ ∧
      Option.Rel (fun v w => Literal.same v w) (some (.number (.whole 0)))
        (some (.number (.double negative))) := by
  intro positive negative call
  obtain ⟨-, trans, -, -, respected⟩ := equality_of_nodes
  have hpositive : (call (.double positive)).same (call (.whole 0)) := by decide +kernel
  have hnegative : (call (.whole 0)).same (call (.double negative)) := by decide +kernel
  have hargument : (Argument.mk (.number none (.whole 0)) .any).same
      ⟨.number none (.double negative), .any⟩ := by decide +kernel
  exact ⟨hpositive, hnegative, trans _ _ _ hpositive hnegative, hargument,
    (respected _ _ hargument).2⟩

/-- The double next below is not the whole number, though this would be rounded to it. -/
example : (Expression.number none (.whole (2 ^ 53 + 1))).same
    (.number none (.double ⟨0x4340000000000000⟩)) = false := by decide +kernel

end FunctionCatalog
