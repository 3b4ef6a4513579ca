import FunctionCatalog.Proofs.BuilderReach
import Mathlib.Data.List.Nodup
import Mathlib.Data.List.Perm.Subperm
set_option autoImplicit false

namespace FunctionCatalog

theorem filter_append_filter_not {α : Type} {b : α → Bool} {xs : List α}
    (h : xs.Pairwise fun x y => b y → b x) : xs.filter b ++ xs.filter (fun x => !b x) = xs := by
  induction h with
  | nil => rfl
  | @cons x xs later _ ih =>
    cases hb : b x with
    | true => simp [hb, ih]
    | false =>
      -- nothing behind the first element that fails passes, so the first filter is empty
      have hnone : xs.filter b = [] := by
        rw [List.filter_eq_nil_iff]
        intro y hy hby
        simp [later y hy hby] at hb
      rw [hnone, List.nil_append] at ih
      simp [hb, hnone, ih]

namespace Profile

variable {p : Profile}

theorem required_append_optional (h : p.layout.WellFormed) : p.required ++ p.optional = p.fixed :=
  filter_append_filter_not h.ordered

theorem required_eq_take (h : p.layout.WellFormed) :
    p.required = p.fixed.take p.required.length :=
  List.prefix_iff_eq_take.mp ⟨p.optional, required_append_optional h⟩

theorem required_nodup (h : p.layout.WellFormed) : p.required.Nodup :=
  (List.Nodup.of_map _ h.distinct).filter _

theorem required_length_le_iff (h : p.layout.WellFormed) (n : Nat) :
    p.required.length ≤ n ↔ ∀ q ∈ p.required, q ∈ p.fixed.take n := by
  constructor
  · intro hle q hq
    rw [required_eq_take h] at hq
    exact (List.take_prefix_take_left hle).subset hq
  · intro hsub
    have hsubperm : p.required.Subperm (p.fixed.take n) := (required_nodup h).subperm hsub
    exact Nat.le_trans hsubperm.length_le (List.length_take_le n p.fixed)

theorem optional_eq_nil {v : VariadicParameter} (h : p.layout.WellFormed)
    (hv : p.variadic = some v) : p.optional = [] := by
  have hall : ∀ q ∈ p.fixed, q.required := (h.variadic v hv).1
  simpa [optional, List.filter_eq_nil_iff] using hall

theorem required_eq_fixed {v : VariadicParameter} (h : p.layout.WellFormed)
    (hv : p.variadic = some v) : p.required = p.fixed := by
  rw [← required_append_optional h, optional_eq_nil h hv, List.append_nil]

theorem minimumCount_nonneg (h : p.layout.WellFormed) : 0 ≤ p.minimumCount := by
  cases hv : p.variadic with
  | none => simp [minimumCount, hv]
  | some v =>
    have hcount : 0 ≤ v.minimumCount := (h.variadic v hv).2
    simp only [minimumCount, hv]
    omega

theorem between_counts_iff (h : p.layout.WellFormed) (hv : p.variadic = none) (n : Nat) :
    (p.minimumCount ≤ n ∧ ∃ m, p.maximumCount? = some m ∧ n ≤ m) ↔
      n ≤ p.fixed.length ∧ ∀ q ∈ p.required, q ∈ p.fixed.take n := by
  rw [← required_length_le_iff h]
  simp [minimumCount, maximumCount?, hv, and_comm]

theorem minimumCount_le_iff {v : VariadicParameter} (h : p.layout.WellFormed)
    (hv : p.variadic = some v) (n : Nat) :
    p.minimumCount ≤ n ↔
      p.fixed.length ≤ n ∧ v.minimumCount ≤ ((n - p.fixed.length : Nat) : Int) := by
  have hcount : 0 ≤ v.minimumCount := (h.variadic v hv).2
  simp only [minimumCount, hv, required_eq_fixed h hv]
  omega

end Profile

namespace Builder

/-- The bounds of a signature that a strict builder gave tell how its parameters can be filled from
the left. -/
theorem arity_of_built (name : String) (review : Draft → Except Refusal Unit) (calls : List Call)
    (s : Signature) (h : .built s ∈ (run ⟨.named name, true, review⟩ calls).2) :
    s.required ++ s.optional = s.fixed ∧ 0 ≤ s.minimumCount ∧
      (s.variadic = none → ∀ n : Nat,
        (s.minimumCount ≤ n ∧ ∃ m, s.maximumCount? = some m ∧ n ≤ m) ↔
          n ≤ s.fixed.length ∧ ∀ p ∈ s.required, p ∈ s.fixed.take n) ∧
      ∀ v, s.variadic = some v →
        s.maximumCount? = none ∧ s.optional = [] ∧
          ∀ n : Nat, s.minimumCount ≤ n ↔
            s.fixed.length ≤ n ∧ v.minimumCount ≤ ((n - s.fixed.length : Nat) : Int) := by
  have hw : s.layout.WellFormed := wellFormed_of_built h
  refine ⟨Profile.required_append_optional hw, Profile.minimumCount_nonneg hw,
    Profile.between_counts_iff hw, fun v hv => ⟨?_, Profile.optional_eq_nil hw hv,
      Profile.minimumCount_le_iff hw hv⟩⟩
  simp [Profile.maximumCount?, hv]

/-- A number and perhaps a number of digits; a text and two texts or more. -/
theorem arity_of_round_and_join :
    (∃ s : Signature, .built s ∈ (run (named "round" true)
        [.require "number" .scalar "", .allow "digits" .scalar "", .build]).2 ∧
      ∀ n : Nat, (s.minimumCount ≤ n ∧ ∃ m, s.maximumCount? = some m ∧ n ≤ m) ↔
        n ≤ s.fixed.length ∧ ∀ p ∈ s.required, p ∈ s.fixed.take n) ∧
    ∃ s : Signature, .built s ∈ (run (named "join" true)
        [.require "glue" .string "", .takeRest "part" .string 2 "", .build]).2 ∧
      ∀ n : Nat, s.minimumCount ≤ n ↔
        s.fixed.length ≤ n ∧ 2 ≤ ((n - s.fixed.length : Nat) : Int) := by
  refine ⟨⟨_, List.mem_of_getElem? (i := 2) rfl, ?_⟩, ⟨_, List.mem_of_getElem? (i := 2) rfl, ?_⟩⟩
  · have h := arity_of_built "round" (fun _ => .ok ())
      [.require "number" .scalar "", .allow "digits" .scalar "", .build] _
      (List.mem_of_getElem? (i := 2) rfl)
    exact h.2.2.1 rfl
  · have h := arity_of_built "join" (fun _ => .ok ())
      [.require "glue" .string "", .takeRest "part" .string 2 "", .build] _
      (List.mem_of_getElem? (i := 2) rfl)
    exact (h.2.2.2 _ rfl).2.2

end Builder

end FunctionCatalog
