import FunctionCatalog.Json.Printer
import FunctionCatalog.Json.Reader
import FunctionCatalog.Proofs.DecimalReading
import Mathlib.Tactic.IntervalCases
set_option autoImplicit false

namespace FunctionCatalog.Json

open Numeral

/-- A text that cannot be taken for more of a number that stands before it. -/
def Ends (rest : List Char) : Prop :=
  ∀ c ∈ rest.head?, c.isDigit = false ∧ c ≠ '.' ∧ c ≠ 'e' ∧ c ≠ 'E'

def sign (negative : Bool) : List Char := if negative then ['-'] else []

theorem span_digits {digits rest : List Char} (h : ∀ c ∈ digits, c.isDigit)
    (hr : ∀ c ∈ rest.head?, c.isDigit = false) :
    (digits ++ rest).span Char.isDigit = (digits, rest) := by
  rw [List.span_eq_takeWhile_dropWhile, List.takeWhile_append_of_pos h,
    List.dropWhile_append_of_pos h]
  cases rest with
  | nil => simp
  | cons c rest => simp [hr c rfl]

theorem eq_digitChar {c : Char} (h : c.isDigit) : ∃ n < 10, c = Nat.digitChar n := by
  simp only [Char.isDigit, Bool.and_eq_true, decide_eq_true_eq, ge_iff_le] at h
  have low : 0x30 ≤ c.toNat := h.1
  have high : c.toNat ≤ 0x39 := h.2
  refine ⟨c.toNat - 0x30, by omega, ?_⟩
  rw [← Char.ofNat_toNat c]
  generalize c.toNat = n at *
  interval_cases n <;> rfl

theorem isDigit_of_mem_toDigits {n : Nat} : ∀ c ∈ Nat.toDigits 10 n, c.isDigit :=
  fun _ hc => Nat.isDigit_of_mem_toDigits (by decide) (by decide) hc

theorem takeMinus_sign (negative : Bool) {c : Char} (hc : c.isDigit) (rest : List Char) :
    takeMinus (sign negative ++ c :: rest) = (negative, c :: rest) := by
  cases negative with
  | true => rfl
  | false =>
    obtain ⟨n, hn, rfl⟩ := eq_digitChar hc
    interval_cases n <;> rfl

theorem takeNumber_sign (negative : Bool) {c : Char} (hc : c.isDigit) (rest : List Char) :
    takeNumber (sign negative ++ c :: rest) = takeUnsigned negative (c :: rest) := by
  rw [takeNumber, takeMinus_sign negative hc]

theorem takeExponent_of_ends {rest : List Char} (h : Ends rest) :
    takeExponent rest = some (0, rest) := by
  unfold takeExponent
  split
  · exact absurd rfl (h 'e' rfl).2.2.1
  · exact absurd rfl (h 'E' rfl).2.2.2
  · rfl

theorem takeExponent_sign (negative : Bool) {digits rest : List Char} (hne : digits ≠ [])
    (h : ∀ c ∈ digits, c.isDigit) (hr : Ends rest) :
    takeExponent ('e' :: (if negative then '-' else '+') :: (digits ++ rest)) =
      some (signed negative (digitsValue digits), rest) := by
  have hspan := span_digits h fun c hc => (hr c hc).1
  have hsign : takeSign ((if negative then '-' else '+') :: (digits ++ rest)) =
      (negative, digits ++ rest) := by cases negative <;> rfl
  obtain ⟨c, digits, rfl⟩ := List.exists_cons_of_ne_nil hne
  simp only [takeExponent, hsign, hspan]

theorem takeFraction_of_ends {rest : List Char} (h : Ends rest) :
    takeFraction rest = (none, rest) := by
  unfold takeFraction
  split
  · exact absurd rfl (h '.' rfl).2.1
  · rfl

variable {rest : List Char}

theorem takeUnsigned_whole (negative : Bool) {whole : List Char} (hne : whole ≠ [])
    (h : ∀ c ∈ whole, c.isDigit) (hl : whole.length ≤ digitLimit) (hr : Ends rest) :
    takeUnsigned negative (whole ++ rest) =
      some (.int (signed negative (digitsValue whole)), rest) := by
  have hspan := span_digits h fun c hc => (hr c hc).1
  simp only [takeUnsigned, hspan, takeFraction_of_ends hr, takeExponent_of_ends hr]
  simp [hne, hl, toInt]

theorem takeUnsigned_point (negative : Bool) (whole fraction : List Char) (hne : whole ≠ [])
    (h : ∀ c ∈ whole, c.isDigit) (hf : ∀ c ∈ fraction, c.isDigit) (hr : Ends rest) :
    takeUnsigned negative (whole ++ '.' :: (fraction ++ rest)) =
      some (.double (toDouble ⟨negative, whole, fraction, 0⟩), rest) := by
  have hspan : (whole ++ '.' :: (fraction ++ rest)).span Char.isDigit =
      (whole, '.' :: (fraction ++ rest)) := span_digits h (by simp)
  have htake : takeFraction ('.' :: (fraction ++ rest)) = (some fraction, rest) := by
    rw [takeFraction, span_digits hf fun c hc => (hr c hc).1]
  simp only [takeUnsigned, hspan, htake, takeExponent_of_ends hr]
  simp [hne]

def pointed (fraction : List Char) : List Char := if fraction = [] then [] else '.' :: fraction

theorem takeUnsigned_exponent (negative down : Bool) (whole fraction digits : List Char)
    (hne : whole ≠ []) (h : ∀ c ∈ whole, c.isDigit) (hf : ∀ c ∈ fraction, c.isDigit)
    (hde : digits ≠ []) (hd : ∀ c ∈ digits, c.isDigit) (hr : Ends rest) :
    takeUnsigned negative
        (whole ++ (pointed fraction ++ 'e' :: (if down then '-' else '+') :: (digits ++ rest))) =
      some (.double (toDouble ⟨negative, whole, fraction, signed down (digitsValue digits)⟩),
        rest) := by
  have hexp := takeExponent_sign down hde hd hr
  have hlonger : rest.length ≠ ('e' :: (if down then '-' else '+') :: (digits ++ rest)).length := by
    simp only [List.length_cons, List.length_append]
    omega
  generalize (if down then '-' else '+') :: (digits ++ rest) = tail at hexp hlonger ⊢
  by_cases hempty : fraction = []
  · have hspan : (whole ++ 'e' :: tail).span Char.isDigit = (whole, 'e' :: tail) :=
      span_digits h (by simp)
    have htake : takeFraction ('e' :: tail) = (none, 'e' :: tail) := rfl
    simp only [hempty, pointed, if_true, List.nil_append, takeUnsigned, hspan, htake, hexp]
    simpa [hne] using hlonger
  · have hspan : (whole ++ '.' :: (fraction ++ 'e' :: tail)).span Char.isDigit =
        (whole, '.' :: (fraction ++ 'e' :: tail)) := span_digits h (by simp)
    have htake : takeFraction ('.' :: (fraction ++ 'e' :: tail)) =
        (some fraction, 'e' :: tail) := by
      rw [takeFraction, span_digits hf (by simp)]
    simp only [hempty, pointed, if_false, List.cons_append, takeUnsigned, hspan, htake, hexp]
    simp [hne]

theorem toDouble_eq {n : Numeral} {x : Decimal} (j k : Nat)
    (hdigits : n.whole ++ n.fraction = List.replicate j '0' ++ (x.digits ++ List.replicate k '0'))
    (hpoint : n.exponent - n.fraction.length + k = x.point - x.digits.length) :
    n.toDouble =
      .ofDecimal n.negative (digitsValue x.digits) (x.point - x.digits.length) := by
  rw [toDouble, hdigits, digitsValue_zeros_append, digitsValue_append_zeros,
    Double.ofDecimal_mul_pow, hpoint]

theorem isDigit_of_mem_zeros {k : Nat} : ∀ c ∈ List.replicate k '0', c.isDigit := by
  intro c hc
  rw [List.eq_of_mem_replicate hc]
  decide

theorem isDigit_of_mem_append {as bs : List Char} (ha : ∀ c ∈ as, c.isDigit)
    (hb : ∀ c ∈ bs, c.isDigit) : ∀ c ∈ as ++ bs, c.isDigit :=
  fun c hc => (List.mem_append.mp hc).elim (ha c) (hb c)

theorem takeUnsigned_inPlace (negative : Bool) {x : Decimal} (hne : x.digits ≠ [])
    (hd : ∀ c ∈ x.digits, c.isDigit) (hr : Ends rest) :
    takeUnsigned negative (x.inPlace ++ rest) =
      some (.double (.ofDecimal negative (digitsValue x.digits) (x.point - x.digits.length)),
        rest) := by
  have hlength : 0 < x.digits.length := List.length_pos_of_ne_nil hne
  unfold Decimal.inPlace
  simp only
  split
  · have h := takeUnsigned_point negative ['0'] (List.replicate (-x.point).toNat '0' ++ x.digits)
      (by simp) (by simp) (isDigit_of_mem_append isDigit_of_mem_zeros hd) hr
    rw [toDouble_eq (x := x) (-x.point).toNat.succ 0 (by simp [List.replicate_succ])
      (by simp; omega)] at h
    simpa using h
  split
  · have h := takeUnsigned_point negative (x.digits.take x.point.toNat)
      (x.digits.drop x.point.toNat) (by simp [hne]; omega)
      (fun c hc => hd c (List.mem_of_mem_take hc)) (fun c hc => hd c (List.mem_of_mem_drop hc)) hr
    rw [toDouble_eq (x := x) 0 0 (by simp) (by simp only [List.length_drop]; omega)] at h
    simpa using h
  · have h := takeUnsigned_point negative
      (x.digits ++ List.replicate (x.point.toNat - x.digits.length) '0') ['0'] (by simp [hne])
      (isDigit_of_mem_append hd isDigit_of_mem_zeros) (by simp) hr
    rw [toDouble_eq (x := x) 0 (x.point.toNat - x.digits.length).succ
      (by simp [List.replicate_succ']) (by simp; omega)] at h
    simpa using h

theorem takeUnsigned_withExponent (negative : Bool) {x : Decimal} (hne : x.digits ≠ [])
    (hd : ∀ c ∈ x.digits, c.isDigit) (hr : Ends rest) :
    takeUnsigned negative (x.withExponent ++ rest) =
      some (.double (.ofDecimal negative (digitsValue x.digits) (x.point - x.digits.length)),
        rest) := by
  obtain ⟨c, cs, hx⟩ := List.exists_cons_of_ne_nil hne
  let shown := Nat.toDigits 10 (x.point - 1).natAbs
  let power := List.replicate (2 - shown.length) '0' ++ shown
  have hpower : signed (decide (x.point - 1 < 0)) (digitsValue power) = x.point - 1 := by
    rw [digitsValue_zeros_append, digitsValue_toDigits, signed]
    simp only [decide_eq_true_eq]
    split <;> omega
  have hshown : ∀ c ∈ shown, c.isDigit := isDigit_of_mem_toDigits
  have htext : x.withExponent ++ rest = [c] ++ (pointed cs ++ 'e' ::
      (if decide (x.point - 1 < 0) then '-' else '+') :: (power ++ rest)) := by
    have hpointed : (if x.digits.length ≤ 1 then [] else '.' :: x.digits.drop 1) = pointed cs := by
      rw [hx, pointed]
      cases cs <;> simp
    simp only [Decimal.withExponent, hpointed]
    simp [hx, power, shown]
  have h := takeUnsigned_exponent negative (decide (x.point - 1 < 0)) [c] cs power (by simp)
    (by simp [hd, hx]) (fun c hc => hd c (by simp [hx, hc])) (by simp [power, shown])
    (isDigit_of_mem_append isDigit_of_mem_zeros hshown) hr
  rw [hpower, toDouble_eq (x := x) 0 0 (by simp [hx]) (by simp [hx]; omega)] at h
  rw [htext, h]

/-- The digits of a double are read at their point, in place or with an exponent. -/
theorem takeUnsigned_write (negative : Bool) {x : Decimal} (hne : x.digits ≠ [])
    (hd : ∀ c ∈ x.digits, c.isDigit) (hr : Ends rest) :
    takeUnsigned negative (x.write ++ rest) =
      some (.double (.ofDecimal negative (digitsValue x.digits) (x.point - x.digits.length)),
        rest) := by
  unfold Decimal.write
  split
  · exact takeUnsigned_inPlace negative hne hd hr
  · exact takeUnsigned_withExponent negative hne hd hr

theorem write_eq_cons {x : Decimal} (hne : x.digits ≠ []) (hd : ∀ c ∈ x.digits, c.isDigit) :
    ∃ c tail, x.write = c :: tail ∧ c.isDigit := by
  obtain ⟨c, cs, hx⟩ := List.exists_cons_of_ne_nil hne
  have hc : c.isDigit := hd c (by simp [hx])
  unfold Decimal.write Decimal.inPlace
  simp only
  split
  · split
    · exact ⟨'0', _, rfl, by decide⟩
    split
    · rename_i hp _
      obtain ⟨k, hk⟩ := Nat.exists_eq_succ_of_ne_zero (n := x.point.toNat) (by omega)
      rw [hx, hk]
      exact ⟨c, _, rfl, hc⟩
    · rw [hx]
      exact ⟨c, _, rfl, hc⟩
  · rw [Decimal.withExponent, hx]
    exact ⟨c, _, rfl, hc⟩

/-- A text that starts as a number does and, with what may follow, is read as one. -/
structure NumberText (text : List Char) (j : Json) : Prop where
  starts : ∃ negative c tail, text = sign negative ++ c :: tail ∧ c.isDigit
  reads : ∀ rest, Ends rest → takeNumber (text ++ rest) = some (j, rest)

theorem NumberText.of_unsigned {negative : Bool} {text : List Char} {j : Json}
    (hs : ∃ c tail, text = c :: tail ∧ c.isDigit)
    (h : ∀ rest, Ends rest → takeUnsigned negative (text ++ rest) = some (j, rest)) :
    NumberText (sign negative ++ text) j := by
  obtain ⟨c, tail, rfl, hc⟩ := hs
  refine ⟨⟨negative, c, tail, rfl, hc⟩, fun rest hr => ?_⟩
  rw [List.append_assoc, List.cons_append, takeNumber_sign negative hc]
  exact h rest hr

theorem toList_toString (n : Int) :
    (toString n).toList = sign (decide (n < 0)) ++ Nat.toDigits 10 n.natAbs := by
  rw [Int.toString_eq_repr, Int.repr_eq_if]
  by_cases h : n < 0
  · have hneg : (-n).toNat = n.natAbs := by omega
    have hle : ¬ 0 ≤ n := by omega
    simp [h, hle, hneg, sign, String.toList_append]
  · have hpos : n.toNat = n.natAbs := by omega
    have hle : 0 ≤ n := by omega
    simp [h, hle, hpos, sign]

theorem toDigits_eq_cons (n : Nat) : ∃ c tail, Nat.toDigits 10 n = c :: tail ∧ c.isDigit := by
  have hne : Nat.toDigits 10 n ≠ [] := by simp
  obtain ⟨c, tail, hcons⟩ := List.exists_cons_of_ne_nil hne
  have hc : c ∈ Nat.toDigits 10 n := by simp [hcons]
  exact ⟨c, tail, hcons, isDigit_of_mem_toDigits c hc⟩

theorem signed_toDigits (n : Int) :
    signed (decide (n < 0)) (digitsValue (Nat.toDigits 10 n.natAbs)) = n := by
  rw [digitsValue_toDigits, signed]
  simp only [decide_eq_true_eq]
  split <;> omega

theorem toString_append_inj {m n : Int} {r s : List Char} (hr : Ends r) (hs : Ends s)
    (h : (toString m).toList ++ r = (toString n).toList ++ s) : m = n ∧ r = s := by
  have hminus (n : Int) (r : List Char) : takeMinus ((toString n).toList ++ r) =
      (decide (n < 0), Nat.toDigits 10 n.natAbs ++ r) := by
    obtain ⟨c, tail, hcons, hc⟩ := toDigits_eq_cons n.natAbs
    rw [toList_toString, hcons, List.append_assoc, List.cons_append, takeMinus_sign _ hc]
  have hspan (n : Int) {r : List Char} (hr : Ends r) :
      (Nat.toDigits 10 n.natAbs ++ r).span Char.isDigit = (Nat.toDigits 10 n.natAbs, r) :=
    span_digits isDigit_of_mem_toDigits fun c hc => (hr c hc).1
  obtain ⟨hsign, htext⟩ : decide (m < 0) = decide (n < 0) ∧
      Nat.toDigits 10 m.natAbs ++ r = Nat.toDigits 10 n.natAbs ++ s := by
    simpa only [hminus, Prod.mk.injEq] using congrArg takeMinus h
  obtain ⟨hdigits, hrest⟩ : Nat.toDigits 10 m.natAbs = Nat.toDigits 10 n.natAbs ∧ r = s := by
    simpa only [hspan m hr, hspan n hs, Prod.mk.injEq] using congrArg (List.span Char.isDigit) htext
  refine ⟨?_, hrest⟩
  rw [← signed_toDigits m, hsign, hdigits, signed_toDigits n]

theorem numberText_int {n : Int} (h : FunctionCatalog.isWritable n) :
    NumberText (toString n).toList (.int n) := by
  have hlength := (isWritable_iff n).mp h
  rw [toList_toString]
  refine .of_unsigned (toDigits_eq_cons _) fun rest hr => ?_
  rw [takeUnsigned_whole _ (by simp) isDigit_of_mem_toDigits hlength hr, signed_toDigits]

theorem eq_ofCode_of_magnitude {d : Double} (h : d.magnitude = 0) :
    Double.ofCode d.isNegative 0 = d := by
  have hsig : d.significand = 0 := by
    have hpow : 2 ^ d.scale ≠ 0 := Nat.ne_of_gt (Nat.two_pow_pos _)
    simpa [hpow] using d.magnitude_eq.symm.trans h
  have hscale : d.scale = 0 := d.scale_eq_zero_or.resolve_right (by omega)
  have hcode : d.code = 0 := by rw [Double.code, hsig, hscale, Nat.zero_mul]
  rw [← hcode]
  exact d.ofCode_code

theorem numberText_double {d : Double} (hf : d.IsFinite) :
    NumberText (d.write specialWords).toList (.double d) := by
  obtain ⟨units, hvalue⟩ := id hf
  have hsign : (if d.isNegative then "-" else "" : String).toList = sign d.isNegative := by
    cases d.isNegative <;> rfl
  simp only [Double.write, hvalue]
  split
  · rename_i hzero
    rw [String.toList_append, hsign]
    refine .of_unsigned ⟨'0', _, rfl, by decide⟩ fun rest hr => ?_
    have h := takeUnsigned_point d.isNegative ['0'] ['0'] (by simp) (by simp) (by simp) hr
    rw [toDouble, show digitsValue (['0'] ++ ['0']) = 0 from rfl, Double.ofDecimal_zero,
      eq_ofCode_of_magnitude hzero] at h
    exact h
  · rename_i hzero
    have hpos : 0 < d.magnitude := Nat.pos_of_ne_zero hzero
    have hne := Decimal.digits_shortest_ne_nil hf hpos
    have hd : ∀ c ∈ (Decimal.shortest d).digits, c.isDigit :=
      fun c hc => Decimal.isDigit_of_mem_shortest hf hpos hc
    rw [String.toList_append, hsign, String.toList_ofList]
    refine .of_unsigned (write_eq_cons hne hd) fun rest hr => ?_
    rw [takeUnsigned_write _ hne hd hr, Decimal.ofDecimal_shortest hf hpos]

end FunctionCatalog.Json
