import FunctionCatalog.Numeric.Decimal
import FunctionCatalog.Numeric.Reading
import FunctionCatalog.Proofs.DoubleRounding
import Mathlib.Data.List.TakeWhile
set_option autoImplicit false

/-!
The written form of a finite double reads back as that double. Reading depends on the number that
the digits stand for, not on zeros at either end of them, and seventeen digits come nearer to a
double than any other double does, so the search for the fewest digits ends with digits that read
back.
-/

namespace FunctionCatalog

namespace Decimal

theorem places_pos (n : Nat) : 0 < places n := Nat.length_toDigits_pos

theorem places_le_iff {n k : Nat} (h : 0 < k) : places n ≤ k ↔ n < 10 ^ k :=
  Nat.length_toDigits_le_iff (by decide) h

theorem lt_pow_places (n : Nat) : n < 10 ^ places n :=
  (places_le_iff (places_pos n)).mp (Nat.le_refl _)

theorem pow_le_of_lt_places {n k : Nat} (h : k < places n) (hn : 0 < n) : 10 ^ k ≤ n := by
  rcases Nat.eq_zero_or_pos k with rfl | hk
  · simpa using Nat.succ_le_of_lt hn
  · by_contra hlt
    exact absurd ((places_le_iff hk).mpr (Nat.lt_of_not_le hlt)) (by omega)

theorem places_mul_ten {n : Nat} (h : 0 < n) : places (n * 10) = places n + 1 := by
  have := Nat.toDigits_append_toDigits (b := 10) (n := n) (d := 0) (by decide) h (by decide)
  rw [places, Nat.mul_comm, ← Nat.add_zero (10 * n), ← this, List.length_append]
  rfl

end Decimal

namespace Double

open Decimal

theorem ofDecimal_zero (negative : Bool) (exponent : Int) :
    ofDecimal negative 0 exponent = ofCode negative 0 := by simp [ofDecimal]

/-- Between the bounds that are tested first, reading is rounding of a ratio. -/
theorem ofDecimal_eq_ofRatio (negative : Bool) {n : Nat} {exponent : Int} (hn : n ≠ 0)
    (high : exponent + places n ≤ 320) (low : -330 ≤ exponent + places n) :
    ofDecimal negative n exponent =
      ofRatio negative (n * 10 ^ exponent.toNat) (10 ^ (-exponent).toNat) := by
  have hhigh : ¬ exponent + (Nat.toDigits 10 n).length > 320 := by unfold places at high; omega
  have hlow : ¬ exponent + (Nat.toDigits 10 n).length < -330 := by unfold places at low; omega
  simp only [ofDecimal, hn, hhigh, hlow, if_false]
  split
  · have : (-exponent).toNat = 0 := by omega
    rw [this]
    rfl
  · have : exponent.toNat = 0 := by omega
    rw [this, Nat.pow_zero, Nat.mul_one]
    rfl

theorem ofDecimal_mul_ten (negative : Bool) (n : Nat) (exponent : Int) :
    ofDecimal negative (n * 10) exponent = ofDecimal negative n (exponent + 1) := by
  rcases Nat.eq_zero_or_pos n with rfl | hn
  · simp [ofDecimal_zero]
  have hne : n ≠ 0 := by omega
  have hne' : n * 10 ≠ 0 := by omega
  have hp := places_mul_ten hn
  have hsum : exponent + places (n * 10) = exponent + 1 + places n := by omega
  by_cases hhigh : exponent + 1 + places n > 320
  · have hhigh' : exponent + places (n * 10) > 320 := by omega
    unfold places at hhigh hhigh'
    simp only [ofDecimal, hne, hne', hhigh, hhigh', if_true, if_false]
  by_cases hlow : exponent + 1 + places n < -330
  · have hlow' : exponent + places (n * 10) < -330 := by omega
    have hhigh' : ¬ exponent + places (n * 10) > 320 := by omega
    unfold places at hhigh hhigh' hlow hlow'
    simp only [ofDecimal, hne, hne', hhigh, hhigh', hlow, hlow', if_true, if_false]
  rw [ofDecimal_eq_ofRatio negative hne' (by omega) (by omega),
    ofDecimal_eq_ofRatio negative hne (by omega) (by omega)]
  refine ofRatio_congr negative (Nat.pow_pos (by decide)) (Nat.pow_pos (by decide)) ?_
  by_cases he : 0 ≤ exponent
  · have h₁ : (exponent + 1).toNat = exponent.toNat + 1 := by omega
    have h₂ : (-exponent).toNat = 0 := by omega
    have h₃ : (-(exponent + 1)).toNat = 0 := by omega
    rw [h₁, h₂, h₃, Nat.pow_succ]
    ring
  · have h₁ : exponent.toNat = 0 := by omega
    have h₂ : (exponent + 1).toNat = 0 := by omega
    have h₃ : (-exponent).toNat = (-(exponent + 1)).toNat + 1 := by omega
    rw [h₁, h₂, h₃, Nat.pow_succ]
    ring

theorem ofDecimal_mul_pow (negative : Bool) (n k : Nat) (exponent : Int) :
    ofDecimal negative (n * 10 ^ k) exponent = ofDecimal negative n (exponent + k) := by
  induction k generalizing exponent with
  | zero => simp
  | succ k ih =>
    rw [Nat.pow_succ, ← Nat.mul_assoc, ofDecimal_mul_ten, ih]
    congr 1
    omega

theorem roundRatio_eq_or (num den : Nat) :
    roundRatio num den = num / den ∨ roundRatio num den = num / den + 1 := by
  unfold roundRatio
  simp only
  split
  · exact .inl rfl
  · exact .inr rfl

theorem unitsPerOne_pos : 0 < unitsPerOne := by decide +kernel

theorem magnitude_lt (d : Double) : d.magnitude < 2 ^ 53 * 2 ^ d.scale := by
  rw [magnitude_eq]
  exact Nat.mul_lt_mul_of_pos_right d.significand_lt (Nat.two_pow_pos _)

theorem IsFinite.scale_le {d : Double} (h : d.IsFinite) : d.scale ≤ 2045 := by
  have := h.exponent_lt
  unfold scale
  omega

end Double

namespace Decimal

open Double

def digitCount (units : Nat) : Nat := places (units * 10 ^ 400 / unitsPerOne)

theorem pointOf_eq (units : Nat) : pointOf units = (digitCount units : Int) - 400 := by
  have hp (k : Nat) : Nat.pow 10 k = 10 ^ k := rfl
  simp only [pointOf, digitCount, hp]

theorem digitCount_pos (units : Nat) : 0 < digitCount units := places_pos _

theorem lt_pow_digitCount (units : Nat) :
    units * 10 ^ 400 < 10 ^ digitCount units * unitsPerOne :=
  (Nat.div_lt_iff_lt_mul unitsPerOne_pos).mp (lt_pow_places _)

theorem pow_digitCount_le {units k : Nat} (h : 0 < units) (hk : k < digitCount units) :
    10 ^ k * unitsPerOne ≤ units * 10 ^ 400 := by
  have hone : unitsPerOne ≤ 10 ^ 400 := by decide +kernel
  have hle : unitsPerOne ≤ units * 10 ^ 400 := hone.trans (Nat.le_mul_of_pos_left (10 ^ 400) h)
  exact (Nat.le_div_iff_mul_le unitsPerOne_pos).mp
    (pow_le_of_lt_places hk (Nat.div_pos hle unitsPerOne_pos))

/-- No double is so small that its point lies below the bound under which all is zero. -/
theorem seventy_le_digitCount {units : Nat} (h : 0 < units) : 70 ≤ digitCount units := by
  by_contra hlt
  have hlow : 10 ^ 69 * unitsPerOne ≤ 10 ^ 400 := by decide +kernel
  have hpow : 10 ^ digitCount units * unitsPerOne ≤ 10 ^ 69 * unitsPerOne :=
    Nat.mul_le_mul_right _ (Nat.pow_le_pow_right (by decide) (by omega))
  have hmul : 10 ^ 400 ≤ units * 10 ^ 400 := Nat.le_mul_of_pos_left (10 ^ 400) h
  have := lt_pow_digitCount units
  omega

theorem digitCount_le {d : Double} (h : d.IsFinite) (hpos : 0 < d.magnitude) :
    digitCount d.magnitude ≤ 719 := by
  by_contra hlt
  have hhigh : 2 ^ 53 * 2 ^ 2045 * 10 ^ 400 ≤ 10 ^ 719 * unitsPerOne := by decide +kernel
  have hscale (k : Nat) (hk : d.scale ≤ k) : d.magnitude < 2 ^ 53 * 2 ^ k :=
    Nat.lt_of_lt_of_le d.magnitude_lt
      (Nat.mul_le_mul_left _ (Nat.pow_le_pow_right (by decide) hk))
  have hmag := Nat.mul_lt_mul_of_pos_right (hscale 2045 h.scale_le)
    (Nat.pow_pos (n := 400) (by decide : 0 < 10))
  have hdigits := pow_digitCount_le (k := 719) hpos (by omega)
  omega

def ratio (units count : Nat) : Nat × Nat :=
  let lift : Int := count - pointOf units
  (units * 10 ^ lift.toNat, unitsPerOne * 10 ^ (-lift).toNat)

theorem neighbours_eq (units count : Nat) :
    neighbours units count =
      let r := ratio units count
      if roundRatio r.1 r.2 = r.1 / r.2 then [r.1 / r.2, r.1 / r.2 + 1]
      else [r.1 / r.2 + 1, r.1 / r.2] := rfl

theorem roundRatio_mem_neighbours (units count : Nat) :
    roundRatio (ratio units count).1 (ratio units count).2 ∈ neighbours units count := by
  rw [neighbours_eq]
  generalize ratio units count = r
  rcases roundRatio_eq_or r.1 r.2 with h | h <;> simp [h]

theorem bounds_of_shift {units one q c k a b : Nat} (hexp : a + q = k + c + b)
    (low : 10 ^ q * one ≤ units * 10 ^ c) (high : units * 10 ^ c < 10 ^ (q + 1) * one) :
    10 ^ k * (one * 10 ^ b) ≤ units * 10 ^ a ∧ units * 10 ^ a < 10 ^ (k + 1) * (one * 10 ^ b) := by
  have hten (n : Nat) : 0 < 10 ^ n := Nat.pow_pos (by decide)
  have hpow : 10 ^ a * 10 ^ q = 10 ^ k * 10 ^ c * 10 ^ b := by simp only [← Nat.pow_add, hexp]
  have hl : 10 ^ q * one * 10 ^ a = 10 ^ k * (one * 10 ^ b) * 10 ^ c := by
    rw [show 10 ^ q * one * 10 ^ a = one * (10 ^ a * 10 ^ q) by ring, hpow]
    ring
  have hr : 10 ^ (q + 1) * one * 10 ^ a = 10 ^ (k + 1) * (one * 10 ^ b) * 10 ^ c := by
    rw [show 10 ^ (q + 1) * one * 10 ^ a = 10 * (10 ^ q * one * 10 ^ a) by ring, hl]
    ring
  have hm : units * 10 ^ c * 10 ^ a = units * 10 ^ a * 10 ^ c := Nat.mul_right_comm _ _ _
  refine ⟨Nat.le_of_mul_le_mul_right (c := 10 ^ c) ?_ (hten c),
    Nat.lt_of_mul_lt_mul_right (a := 10 ^ c) ?_⟩
  · rw [← hl, ← hm]
    exact Nat.mul_le_mul_right _ low
  · rw [← hr, ← hm]
    exact Nat.mul_lt_mul_of_pos_right high (hten a)

theorem ratio_bounds {units : Nat} (h : 0 < units) :
    10 ^ 16 * (ratio units 17).2 ≤ (ratio units 17).1 ∧
      (ratio units 17).1 < 10 ^ 17 * (ratio units 17).2 := by
  have hpos := digitCount_pos units
  have hlow := pow_digitCount_le (k := digitCount units - 1) h (by omega)
  have hhigh := lt_pow_digitCount units
  have hp := pointOf_eq units
  obtain ⟨q, hq⟩ := Nat.exists_eq_succ_of_ne_zero (Nat.ne_of_gt hpos)
  rw [hq] at hlow hhigh hp
  exact bounds_of_shift (by omega) hlow hhigh

end Decimal

namespace Double

open Decimal

theorem seventeen_digits {num den : Nat} (hden : 0 < den) (low : 10 ^ 16 * den ≤ num)
    (high : num < 10 ^ 17 * den) :
    0 < roundRatio num den ∧ 17 ≤ places (roundRatio num den) ∧
      places (roundRatio num den) ≤ 18 := by
  have hlow := le_roundRatio hden low
  have hhigh := roundRatio_le hden high
  have hmin : ¬ places (roundRatio num den) ≤ 16 := by
    rw [places_le_iff (by decide)]
    exact Nat.not_lt_of_le hlow
  have hmax : places (roundRatio num den) ≤ 18 := by
    rw [places_le_iff (by decide)]
    omega
  exact ⟨by omega, by omega, hmax⟩

/-- Seventeen digits tell any two doubles apart. -/
theorem ofDecimal_seventeen {d : Double} (hf : d.IsFinite) (h : 0 < d.magnitude) :
    ofDecimal d.isNegative (roundRatio (ratio d.magnitude 17).1 (ratio d.magnitude 17).2)
      (pointOf d.magnitude - 17) = d := by
  have hnum : (ratio d.magnitude 17).1 =
      d.magnitude * 10 ^ (-(pointOf d.magnitude - 17)).toNat := by
    rw [Int.neg_sub]
    rfl
  have hden : (ratio d.magnitude 17).2 = unitsPerOne * 10 ^ (pointOf d.magnitude - 17).toNat := by
    rw [← Int.neg_sub]
    rfl
  have hpos : 0 < (ratio d.magnitude 17).2 :=
    Nat.mul_pos unitsPerOne_pos (Nat.pow_pos (by decide))
  obtain ⟨hlow, hhigh⟩ := ratio_bounds h
  have hn := seventeen_digits hpos hlow hhigh
  obtain ⟨hup, hdown⟩ := roundRatio_near (ratio d.magnitude 17).1 hpos
  generalize roundRatio (ratio d.magnitude 17).1 (ratio d.magnitude 17).2 = n at *
  obtain ⟨hpositive, hmin, hmax⟩ := hn
  have hbounds : pointOf d.magnitude - 17 + places n ≤ 320 ∧
      -330 ≤ pointOf d.magnitude - 17 + places n := by
    have hcount₁ := seventy_le_digitCount h
    have hcount₂ := digitCount_le hf h
    rw [pointOf_eq]
    clear hup hdown hlow hhigh hnum hden
    omega
  rw [ofDecimal_eq_ofRatio _ (Nat.ne_of_gt hpositive) hbounds.1 hbounds.2]
  have hread : n * 10 ^ (pointOf d.magnitude - 17).toNat * unitsPerOne =
      n * (ratio d.magnitude 17).2 := by
    rw [hden]
    ring
  -- Half a unit in the seventeenth digit is less than one part in two to the 54th.
  rw [Nat.add_mul] at hup
  rw [Nat.mul_assoc] at hup hdown
  refine ofRatio_of_near hf ⟨Nat.pow_pos (by decide), ?_, ?_⟩ <;> rw [hread, ← hnum] <;> omega

theorem magnitude_ofCode_zero (negative : Bool) : (ofCode negative 0).magnitude = 0 := by
  cases negative <;> decide

end Double

namespace Numeral

theorem digitsValue_eq (digits : List Char) : digitsValue digits = Nat.ofDigitChars 10 digits 0 :=
  rfl

theorem digitsValue_toDigits (n : Nat) : digitsValue (Nat.toDigits 10 n) = n :=
  Nat.ofDigitChars_toDigits (by decide) (by decide)

theorem digitsValue_append_zeros (digits : List Char) (k : Nat) :
    digitsValue (digits ++ List.replicate k '0') = digitsValue digits * 10 ^ k := by
  rw [digitsValue_eq, Nat.ofDigitChars_append, Nat.ofDigitChars_replicate_zero, Nat.mul_comm]
  rfl

theorem digitsValue_zeros_append (digits : List Char) (k : Nat) :
    digitsValue (List.replicate k '0' ++ digits) = digitsValue digits := by
  rw [digitsValue_eq, Nat.ofDigitChars_append, Nat.ofDigitChars_replicate_zero, Nat.mul_zero]
  rfl

end Numeral

namespace Decimal

open Double Numeral

def trimmed (digits : List Char) : List Char :=
  (digits.reverse.dropWhile fun c => decide (c = '0')).reverse

theorem trimmed_append_zeros (digits : List Char) :
    ∃ k, digits = trimmed digits ++ List.replicate k '0' := by
  have hzero : ∀ c ∈ (digits.reverse.takeWhile fun c => decide (c = '0')).reverse, c = '0' := by
    intro c hc
    have hd := List.mem_takeWhile_imp (p := fun c => decide (c = '0')) (List.mem_reverse.mp hc)
    exact of_decide_eq_true hd
  have hsplit := congrArg List.reverse
    (List.takeWhile_append_dropWhile (p := fun c => decide (c = '0')) (l := digits.reverse))
  rw [List.reverse_append, List.eq_replicate_of_mem hzero, List.reverse_reverse] at hsplit
  exact ⟨_, hsplit.symm⟩

theorem eq_of_ofCount? {d : Double} {count : Nat} {x : Decimal} (h : ofCount? d count = some x) :
    ∃ n, ofDecimal d.isNegative n (pointOf d.magnitude - count) = d ∧
      x = ⟨trimmed (Nat.toDigits 10 n), pointOf d.magnitude - count + places n⟩ := by
  simp only [ofCount?, Option.map_eq_some_iff] at h
  obtain ⟨n, hfind, rfl⟩ := h
  have hread := List.find?_some hfind
  rw [decide_eq_true_eq] at hread
  exact ⟨n, hread, rfl⟩

theorem ofCount?_shortest {d : Double} (hf : d.IsFinite) (h : 0 < d.magnitude) :
    ∃ count, ofCount? d count = some (shortest d) := by
  have hit : (ofCount? d 17).isSome := by
    rw [ofCount?, Option.isSome_map, List.find?_isSome]
    exact ⟨_, roundRatio_mem_neighbours _ _, decide_eq_true (ofDecimal_seventeen hf h)⟩
  have hsome : ((List.range 17).findSome? fun i => ofCount? d (i + 1)).isSome :=
    List.findSome?_isSome_iff.mpr ⟨16, by decide, hit⟩
  obtain ⟨x, hx⟩ := Option.isSome_iff_exists.mp hsome
  obtain ⟨i, -, hi⟩ := List.exists_of_findSome?_eq_some hx
  exact ⟨i + 1, by rw [shortest, hx, hi]; rfl⟩

/-- The written digits of a double, at their point, read back as the double. -/
theorem ofDecimal_shortest {d : Double} (hf : d.IsFinite) (h : 0 < d.magnitude) :
    ofDecimal d.isNegative (digitsValue (shortest d).digits)
      ((shortest d).point - (shortest d).digits.length) = d := by
  obtain ⟨count, hcount⟩ := ofCount?_shortest hf h
  obtain ⟨n, hn, hx⟩ := eq_of_ofCount? hcount
  obtain ⟨k, hk⟩ := trimmed_append_zeros (Nat.toDigits 10 n)
  have hvalue : n = digitsValue (trimmed (Nat.toDigits 10 n)) * 10 ^ k := by
    rw [← digitsValue_append_zeros, ← hk, digitsValue_toDigits]
  have hplaces : places n = (trimmed (Nat.toDigits 10 n)).length + k := by
    rw [places, hk, List.length_append, List.length_replicate, ← hk]
  rw [hvalue, ofDecimal_mul_pow] at hn
  have hexp (p : Int) (l : Nat) : p + (l + k : Nat) - l = p + k := by omega
  rw [hx, hplaces, hexp]
  exact hn

theorem digits_shortest_ne_nil {d : Double} (hf : d.IsFinite) (h : 0 < d.magnitude) :
    (shortest d).digits ≠ [] := by
  intro hnil
  have hread := ofDecimal_shortest hf h
  rw [hnil] at hread
  have hzero := congrArg magnitude ((ofDecimal_zero _ _).symm.trans hread)
  rw [magnitude_ofCode_zero] at hzero
  omega

theorem isDigit_of_mem_shortest {d : Double} (hf : d.IsFinite) (h : 0 < d.magnitude) {c : Char}
    (hc : c ∈ (shortest d).digits) : c.isDigit := by
  obtain ⟨count, hcount⟩ := ofCount?_shortest hf h
  obtain ⟨n, -, hx⟩ := eq_of_ofCount? hcount
  obtain ⟨k, hk⟩ := trimmed_append_zeros (Nat.toDigits 10 n)
  rw [hx] at hc
  refine Nat.isDigit_of_mem_toDigits (b := 10) (n := n) (by decide) (by decide) ?_
  rw [hk]
  exact List.mem_append_left _ hc

end Decimal

end FunctionCatalog
