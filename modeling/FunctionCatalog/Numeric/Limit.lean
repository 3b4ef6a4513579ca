set_option autoImplicit false

/-!
How many digits a whole number may have in its written form. Longer ones are neither read nor
written.
-/

namespace FunctionCatalog

def digitLimit : Nat := 4300

def tooLongMessage : String :=
  "Exceeds the limit (" ++ toString digitLimit ++ " digits) for integer string conversion; use "
    ++ "sys.set_int_max_str_digits() to increase the limit"

def isWritable (n : Int) : Bool := n.natAbs < Nat.pow 10 digitLimit

/-- The sign is not counted. -/
theorem isWritable_iff (n : Int) :
    isWritable n ↔ (Nat.toDigits 10 n.natAbs).length ≤ digitLimit := by
  rw [isWritable, decide_eq_true_eq, Nat.pow_eq,
    Nat.length_toDigits_le_iff (by decide) (by decide)]

@[simp] theorem isWritable_neg (n : Int) : isWritable (-n) = isWritable n := by simp [isWritable]

def leastTooLong : Int := Int.ofNat (Nat.pow 10 digitLimit)

theorem isWritable_leastTooLong : isWritable leastTooLong = false := by
  have h : leastTooLong.natAbs = Nat.pow 10 digitLimit := Int.natAbs_natCast _
  rw [isWritable, h, decide_eq_false_iff_not]
  exact Nat.lt_irrefl _

theorem leastTooLong_pos : 0 < leastTooLong := by
  have pow_pos (k : Nat) : 0 < Int.ofNat (Nat.pow 10 k) :=
    Int.natCast_pos.mpr (Nat.pow_pos (by decide))
  exact pow_pos digitLimit

end FunctionCatalog
