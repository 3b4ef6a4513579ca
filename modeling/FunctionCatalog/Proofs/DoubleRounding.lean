import FunctionCatalog.Numeric.Double
import Mathlib.Tactic.Ring
import Mathlib.Tactic.Positivity
set_option autoImplicit false

namespace FunctionCatalog.Double

theorem roundRatio_near (num : Nat) {den : Nat} (h : 0 < den) :
    2 * num ≤ (2 * roundRatio num den + 1) * den ∧
      2 * roundRatio num den * den ≤ 2 * num + den := by
  have hd := Nat.div_add_mod num den
  have hm := Nat.mod_lt num h
  have hc : 2 * (num / den) * den = 2 * (den * (num / den)) := by ring
  unfold roundRatio
  simp only
  split
  · rw [Nat.add_mul, hc]; omega
  · rw [Nat.add_mul, Nat.mul_add, Nat.add_mul, hc]; omega

theorem le_roundRatio {num den m : Nat} (hden : 0 < den) (h : m * den ≤ num) :
    m ≤ roundRatio num den := by
  obtain ⟨hup, -⟩ := roundRatio_near num hden
  have hle : 2 * m * den ≤ (2 * roundRatio num den + 1) * den := by
    rw [Nat.mul_assoc]
    omega
  have := Nat.le_of_mul_le_mul_right hle hden
  omega

theorem roundRatio_le {num den m : Nat} (hden : 0 < den) (h : num < m * den) :
    roundRatio num den ≤ m := by
  obtain ⟨-, hdown⟩ := roundRatio_near num hden
  have hlt : 2 * roundRatio num den * den < (2 * m + 1) * den := by
    rw [Nat.add_mul, Nat.mul_assoc 2 m]
    omega
  have := Nat.lt_of_mul_lt_mul_right hlt
  omega

theorem roundRatio_eq {num den m : Nat} (low : 2 * m * den < 2 * num + den)
    (high : 2 * num < (2 * m + 1) * den) : roundRatio num den = m := by
  have hden : 0 < den := by
    rcases Nat.eq_zero_or_pos den with rfl | h
    · simp at high
    · exact h
  obtain ⟨h₁, h₂⟩ := roundRatio_near num hden
  have hlt : 2 * m * den < (2 * roundRatio num den + 2) * den := by
    rw [show (2 * roundRatio num den + 2) * den =
      (2 * roundRatio num den + 1) * den + den by ring]
    omega
  have hgt : 2 * roundRatio num den * den < (2 * m + 2) * den := by
    rw [show (2 * m + 2) * den = (2 * m + 1) * den + den by ring]
    omega
  have := Nat.lt_of_mul_lt_mul_right hlt
  have := Nat.lt_of_mul_lt_mul_right hgt
  omega

theorem roundRatio_mul (num den : Nat) {k : Nat} (h : 0 < k) :
    roundRatio (num * k) (den * k) = roundRatio num den := by
  have hlt : 2 * (num * k % (den * k)) < den * k ↔ 2 * (num % den) < den := by
    rw [Nat.mul_mod_mul_right, ← Nat.mul_assoc]
    exact Nat.mul_lt_mul_right h
  have heq : 2 * (num * k % (den * k)) = den * k ↔ 2 * (num % den) = den := by
    rw [Nat.mul_mod_mul_right, ← Nat.mul_assoc]
    exact Nat.mul_left_inj (Nat.ne_of_gt h)
  simp only [roundRatio, hlt, heq, Nat.mul_div_mul_right _ _ h]

theorem ofRatio_mul (negative : Bool) (num den : Nat) {k : Nat} (h : 0 < k) :
    ofRatio negative (num * k) (den * k) = ofRatio negative num den := by
  have hnum : num * k * unitsPerOne = num * unitsPerOne * k := Nat.mul_right_comm _ _ _
  have hden (shift : Nat) : den * k * Nat.pow 2 shift = den * Nat.pow 2 shift * k :=
    Nat.mul_right_comm _ _ _
  simp only [ofRatio, hnum, hden, Nat.mul_div_mul_right _ _ h, roundRatio_mul _ _ h]

theorem ofRatio_congr (negative : Bool) {num den num' den' : Nat} (h : 0 < den) (h' : 0 < den')
    (cross : num * den' = num' * den) : ofRatio negative num den = ofRatio negative num' den' := by
  rw [← ofRatio_mul negative num den h', cross, Nat.mul_comm den, ofRatio_mul negative num' den' h]

def scale (d : Double) : Nat := d.exponent - 1

/-- A finite double as a whole number of last places. -/
def significand (d : Double) : Nat :=
  if d.exponent = 0 then d.fraction else 2 ^ 52 + d.fraction

theorem fraction_lt (d : Double) : d.fraction < 2 ^ 52 := Nat.mod_lt _ (by decide)

theorem magnitude_eq (d : Double) : d.magnitude = d.significand * 2 ^ d.scale := by
  unfold magnitude significand scale
  by_cases h : d.exponent = 0
  · simp [h]
  · simp only [h, if_false]
    rfl

theorem significand_lt (d : Double) : d.significand < 2 ^ 53 := by
  have := d.fraction_lt
  unfold significand
  split <;> omega

theorem scale_eq_zero_or (d : Double) : d.scale = 0 ∨ 2 ^ 52 ≤ d.significand := by
  unfold significand scale
  by_cases h : d.exponent = 0
  · exact .inl (by omega)
  · exact .inr (by simp [h])

def code (d : Double) : Nat := d.scale * 2 ^ 52 + d.significand

theorem code_eq (d : Double) : d.code = d.exponent * 2 ^ 52 + d.fraction := by
  unfold code significand scale
  by_cases h : d.exponent = 0
  · simp [h]
  · simp only [h, if_false]
    omega

theorem ofCode_code (d : Double) : ofCode d.isNegative d.code = d := by
  have hlt := d.bits.isLt
  have hexp : d.exponent = d.bits.toNat / 2 ^ 52 % 2 ^ 11 := rfl
  have hfrac : d.fraction = d.bits.toNat % 2 ^ 52 := rfl
  have hneg : d.isNegative = decide (2 ^ 63 ≤ d.bits.toNat) := by
    simp [isNegative, BitVec.msb_eq_decide]
  have hcode : (if d.isNegative then Nat.pow 2 63 + d.code else d.code) = d.bits.toNat := by
    have hpow : Nat.pow 2 63 = 2 ^ 63 := rfl
    rw [code_eq, hneg, hpow, hexp, hfrac]
    by_cases h : 2 ^ 63 ≤ d.bits.toNat
    · simp only [h, decide_true, if_true]
      omega
    · simp only [h, decide_false, Bool.false_eq_true, if_false]
      omega
  rw [ofCode, hcode, BitVec.ofNat_toNat, BitVec.setWidth_eq]

def IsFinite (d : Double) : Prop := ∃ units, d.value = .finite units

theorem IsFinite.exponent_ne {d : Double} (h : d.IsFinite) : d.exponent ≠ 2047 := by
  obtain ⟨units, h⟩ := h
  intro he
  simp only [value, he, if_true] at h
  split at h <;> simp at h

theorem IsFinite.exponent_lt {d : Double} (h : d.IsFinite) : d.exponent < 2047 := by
  have hlt : d.exponent < 2 ^ 11 := Nat.mod_lt _ (by decide)
  have := h.exponent_ne
  omega

theorem IsFinite.code_lt {d : Double} (h : d.IsFinite) : d.code < infinityCode := by
  have hi : infinityCode = 2047 * 2 ^ 52 := rfl
  have := h.exponent_lt
  have := d.fraction_lt
  rw [code_eq, hi]
  omega

theorem log2_div_eq {num den k : Nat} (h : 0 < den) (low : 2 ^ k * den ≤ num)
    (high : num < 2 ^ (k + 1) * den) : (num / den).log2 = k := by
  have hlow : 2 ^ k ≤ num / den := (Nat.le_div_iff_mul_le h).mpr low
  have hpos : 0 < 2 ^ k := Nat.two_pow_pos k
  rw [Nat.log2_eq_iff (by omega)]
  exact ⟨hlow, (Nat.div_lt_iff_lt_mul h).mpr high⟩

theorem ofRatio_eq {negative : Bool} {num den shift mantissa : Nat}
    (hs : (num * unitsPerOne / den).log2 - 52 = shift)
    (hm : roundRatio (num * unitsPerOne) (den * 2 ^ shift) = mantissa)
    (hc : shift * 2 ^ 52 + mantissa < infinityCode) :
    ofRatio negative num den = ofCode negative (shift * 2 ^ 52 + mantissa) := by
  have hmin : min (shift * Nat.pow 2 52 + mantissa) infinityCode = shift * 2 ^ 52 + mantissa :=
    Nat.min_eq_left (Nat.le_of_lt hc)
  have hm' : roundRatio (num * unitsPerOne) (den * Nat.pow 2 shift) = mantissa := hm
  simp only [ofRatio, hs, hm', hmin]

/-- A ratio that is off a double's distance from zero by less than one part in two to the 54th. -/
structure Near (num den : Nat) (d : Double) : Prop where
  pos : 0 < den
  low : (2 ^ 54 - 1) * (d.magnitude * den) < 2 ^ 54 * (num * unitsPerOne)
  high : 2 ^ 54 * (num * unitsPerOne) < (2 ^ 54 + 1) * (d.magnitude * den)

theorem Near.bounds {num den : Nat} {d : Double} (h : Near num den d) :
    (2 ^ 54 - 1) * (d.significand * (den * 2 ^ d.scale)) < 2 ^ 54 * (num * unitsPerOne) ∧
      2 ^ 54 * (num * unitsPerOne) < (2 ^ 54 + 1) * (d.significand * (den * 2 ^ d.scale)) ∧
      d.significand * (den * 2 ^ d.scale) ≤ (2 ^ 53 - 1) * (den * 2 ^ d.scale) := by
  have hw : d.magnitude * den = d.significand * (den * 2 ^ d.scale) := by
    rw [magnitude_eq]
    ring
  have hlt := d.significand_lt
  have low := h.low
  have high := h.high
  rw [hw] at low high
  exact ⟨low, high, Nat.mul_le_mul_right _ (by omega)⟩

/-- The ratio is counted in the last places of the double itself. -/
theorem shift_eq_scale {num den : Nat} {d : Double} (h : Near num den d)
    (hside : d.scale = 0 ∨ 2 ^ 52 * (den * 2 ^ d.scale) ≤ num * unitsPerOne) :
    (num * unitsPerOne / den).log2 - 52 = d.scale := by
  obtain ⟨low, high, hmax⟩ := h.bounds
  rcases hside with hzero | hside
  · rw [hzero, Nat.pow_zero, Nat.mul_one] at low high hmax
    have hlt : num * unitsPerOne / den < 2 ^ 53 := by
      rw [Nat.div_lt_iff_lt_mul h.pos]
      omega
    have hlog : (num * unitsPerOne / den).log2 ≤ 52 := by
      by_cases hz : num * unitsPerOne / den = 0
      · simp [hz]
      · exact Nat.le_of_lt_succ ((Nat.log2_lt hz).mpr hlt)
    omega
  · have hlow : 2 ^ (52 + d.scale) * den ≤ num * unitsPerOne := by
      rw [show 2 ^ (52 + d.scale) * den = 2 ^ 52 * (den * 2 ^ d.scale) by ring]
      exact hside
    have hhigh : num * unitsPerOne < 2 ^ (52 + d.scale + 1) * den := by
      rw [show 2 ^ (52 + d.scale + 1) * den = 2 ^ 53 * (den * 2 ^ d.scale) by ring]
      omega
    rw [log2_div_eq h.pos hlow hhigh]
    omega

/-- Only a power of two can be approached from below a power of two. -/
theorem significand_eq {num den : Nat} {d : Double} (h : Near num den d) (hscale : d.scale ≠ 0)
    (hbelow : num * unitsPerOne < 2 ^ 52 * (den * 2 ^ d.scale)) : d.significand = 2 ^ 52 := by
  obtain ⟨low, -, -⟩ := h.bounds
  have hle : 2 ^ 52 ≤ d.significand := d.scale_eq_zero_or.resolve_left hscale
  by_contra hne
  have hmore : (2 ^ 52 + 1) * (den * 2 ^ d.scale) ≤ d.significand * (den * 2 ^ d.scale) :=
    Nat.mul_le_mul_right _ (by omega)
  have hpos : 0 < den * 2 ^ d.scale := Nat.mul_pos h.pos (Nat.two_pow_pos _)
  omega

theorem ofRatio_of_near {num den : Nat} {d : Double} (hf : d.IsFinite) (h : Near num den d) :
    ofRatio d.isNegative num den = d := by
  have hc := hf.code_lt
  have hpos : 0 < den * 2 ^ d.scale := Nat.mul_pos h.pos (Nat.two_pow_pos _)
  obtain ⟨low, high, hmax⟩ := h.bounds
  refine Eq.trans ?_ d.ofCode_code
  by_cases hside : d.scale = 0 ∨ 2 ^ 52 * (den * 2 ^ d.scale) ≤ num * unitsPerOne
  · refine ofRatio_eq (shift_eq_scale h hside) (roundRatio_eq ?_ ?_) hc
    · rw [Nat.mul_assoc]
      omega
    · rw [Nat.add_mul, Nat.mul_assoc]
      omega
  · -- Below the power of two the last place is half as large, and the power itself is all of the
    -- last places of that side, which carries into the exponent.
    obtain ⟨hscale, hbelow⟩ := not_or.mp hside
    obtain ⟨t, ht⟩ := Nat.exists_eq_succ_of_ne_zero hscale
    have hsig := significand_eq h hscale (Nat.lt_of_not_le hbelow)
    have hdouble : den * 2 ^ d.scale = 2 * (den * 2 ^ t) := by
      rw [ht, Nat.pow_succ]
      ring
    have hcode : d.code = t * 2 ^ 52 + 2 ^ 53 := by
      rw [code, hsig, ht]
      omega
    rw [hsig, hdouble] at low high
    rw [hdouble] at hbelow
    have hlow : 2 ^ (52 + t) * den ≤ num * unitsPerOne := by
      rw [show 2 ^ (52 + t) * den = 2 ^ 52 * (den * 2 ^ t) by ring]
      omega
    have hhigh : num * unitsPerOne < 2 ^ (52 + t + 1) * den := by
      rw [show 2 ^ (52 + t + 1) * den = 2 ^ 53 * (den * 2 ^ t) by ring]
      omega
    rw [hcode] at hc ⊢
    refine ofRatio_eq ?_ (roundRatio_eq ?_ ?_) hc
    · rw [log2_div_eq h.pos hlow hhigh]
      omega
    · omega
    · omega

end FunctionCatalog.Double
