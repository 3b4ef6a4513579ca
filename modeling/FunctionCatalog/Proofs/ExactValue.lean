import FunctionCatalog.Numeric.Number
import FunctionCatalog.Proofs.DoubleRounding
import Mathlib.Algebra.Field.Rat
import Mathlib.Algebra.GroupWithZero.Units.Lemmas
import Mathlib.Order.WithBot
import Mathlib.Tactic.Ring
set_option autoImplicit false

namespace FunctionCatalog

namespace Double

/-- The distance from zero of a finite pattern. The fraction follows a leading one, but for the
lowest exponent, which starts from zero in the steps of the exponent above it. -/
def absRat (d : Double) : ℚ :=
  if d.exponent = 0 then 2 ^ (-1022 : ℤ) * (d.fraction / 2 ^ 52)
  else 2 ^ ((d.exponent : ℤ) - 1023) * (1 + d.fraction / 2 ^ 52)

def toRat (d : Double) : ℚ := if d.isNegative then -d.absRat else d.absRat

def unit : ℚ := 2 ^ (-1074 : ℤ)

theorem unit_ne_zero : unit ≠ 0 := zpow_ne_zero _ two_ne_zero

theorem unitsPerOne_mul_unit : (unitsPerOne : ℚ) * unit = 1 := by
  have hunits : unitsPerOne = 2 ^ 1074 := by decide +kernel
  rw [hunits, Nat.cast_pow, Nat.cast_ofNat, unit, ← zpow_natCast, ← zpow_add₀ two_ne_zero]
  exact zpow_zero 2

theorem zpow_units (k : ℕ) : (2 : ℚ) ^ ((k : ℤ) - 1074) = 2 ^ k * unit := by
  rw [sub_eq_add_neg, zpow_add₀ two_ne_zero, zpow_natCast, unit]

theorem absRat_eq (d : Double) : d.absRat = d.magnitude * unit := by
  rw [magnitude_eq]
  unfold absRat significand scale
  by_cases h : d.exponent = 0
  · rw [if_pos h, if_pos h, show (-1022 : ℤ) = (52 : ℕ) - 1074 by omega, zpow_units, h]
    push_cast
    ring
  · have hexp : (d.exponent : ℤ) - 1023 = (52 + (d.exponent - 1) : ℕ) - 1074 := by omega
    rw [if_neg h, if_neg h, hexp, zpow_units, pow_add]
    push_cast
    ring

end Double

/-- The point of the line that a number stands for, if it is a number. -/
def Number.quantity? : Number → Option (WithBot (WithTop ℚ))
  | .whole n => some ((n : ℚ) : WithTop ℚ)
  | .double d =>
    if d.exponent = 2047 then
      if d.fraction = 0 then some (if d.isNegative then ⊥ else ⊤) else none
    else some (d.toRat : WithTop ℚ)

def Extended.quantity? : Extended → Option (WithBot (WithTop ℚ))
  | .nan => none
  | .infinite negative => some (if negative then ⊥ else ⊤)
  | .finite units => some ((units * Double.unit : ℚ) : WithTop ℚ)

theorem Extended.point_ne_infinite (q : ℚ) (negative : Bool) :
    ((q : WithTop ℚ) : WithBot (WithTop ℚ)) ≠ if negative then ⊥ else ⊤ := by
  cases negative with
  | false => exact fun h => WithTop.coe_ne_top (WithBot.coe_injective h)
  | true => exact WithBot.coe_ne_bot

theorem Extended.quantity?_injective : Function.Injective Extended.quantity? := by
  intro x y h
  cases x with
  | nan =>
    cases y with
    | nan => rfl
    | infinite | finite => exact absurd h (Option.some_ne_none _).symm
  | infinite b =>
    cases y with
    | nan => exact absurd h (Option.some_ne_none _)
    | infinite c => cases b <;> cases c <;> simp_all [quantity?]
    | finite v => exact absurd (Option.some.inj h).symm (point_ne_infinite _ b)
  | finite u =>
    cases y with
    | nan => exact absurd h (Option.some_ne_none _)
    | infinite c => exact absurd (Option.some.inj h) (point_ne_infinite _ c)
    | finite v =>
      simp only [quantity?, Option.some.injEq, WithBot.coe_inj, WithTop.coe_inj] at h
      rw [Int.cast_injective (mul_right_cancel₀ Double.unit_ne_zero h)]

namespace Number

theorem quantity?_eq (n : Number) : n.quantity? = n.value.quantity? := by
  cases n with
  | whole n =>
    have hn : ((n * Double.unitsPerOne : ℤ) : ℚ) * Double.unit = n := by
      rw [Int.cast_mul, Int.cast_natCast, mul_assoc, Double.unitsPerOne_mul_unit, mul_one]
    simp only [quantity?, value, Extended.quantity?, hn]
  | double d =>
    have hfinite : ((if d.isNegative then -d.magnitude else d.magnitude : ℤ) : ℚ) * Double.unit =
        d.toRat := by
      rw [Double.toRat, d.absRat_eq]
      split <;> push_cast <;> ring
    by_cases hexp : d.exponent = 2047
    · by_cases hfraction : d.fraction = 0 <;>
        simp [quantity?, value, Double.value, Extended.quantity?, hexp, hfraction]
    · simp only [quantity?, value, Double.value, if_neg hexp, Extended.quantity?, hfinite]

/-- Numbers are the same when they stand for one point. -/
theorem same_iff_quantity (m n : Number) :
    m.same n ↔ ∃ q, m.quantity? = some q ∧ n.quantity? = some q := by
  simp only [same, decide_eq_true_eq, quantity?_eq]
  constructor
  · rintro ⟨hnan, heq⟩
    obtain ⟨q, hq⟩ := Option.ne_none_iff_exists'.mp
      fun h => hnan (Extended.quantity?_injective (h.trans rfl))
    exact ⟨q, hq, heq ▸ hq⟩
  · rintro ⟨q, hm, hn⟩
    refine ⟨fun hnan => ?_, Extended.quantity?_injective (hm.trans hn.symm)⟩
    rw [hnan] at hm
    simp [Extended.quantity?] at hm

theorem same_self_iff_not_isNaN (n : Number) :
    n.same n ↔ ¬ ∃ d, n = .double d ∧ d.isNaN := by
  rw [same_self]
  cases n with
  | whole n => simp only [value, ne_eq, reduceCtorEq, not_false_eq_true, false_and, exists_false]
  | double d => simp [value, Double.isNaN]

end Number

end FunctionCatalog
