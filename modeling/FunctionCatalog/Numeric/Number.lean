import FunctionCatalog.Numeric.Decimal
import FunctionCatalog.Numeric.Limit
set_option autoImplicit false

namespace FunctionCatalog

inductive Number where
  | whole (n : Int)
  | double (d : Double)
  deriving DecidableEq

namespace Number

def value : Number → Extended
  | .whole n => .finite (n * Double.unitsPerOne)
  | .double d => d.value

def isWritable : Number → Bool
  | .whole n => FunctionCatalog.isWritable n
  | .double _ => true

def same (a b : Number) : Bool := a.value ≠ .nan ∧ a.value = b.value

theorem same_symm (a b : Number) : a.same b = b.same a := by
  unfold same
  by_cases h : a.value = b.value
  · simp [h]
  · have h' : ¬ b.value = a.value := fun e => h e.symm
    simp [h, h']

theorem same_trans {a b c : Number} (hab : a.same b) (hbc : b.same c) : a.same c := by
  simp only [same, decide_eq_true_eq] at *
  exact ⟨hab.1, hab.2.trans hbc.2⟩

theorem same_self (a : Number) : a.same a ↔ a.value ≠ .nan := by simp [same]

end Number

end FunctionCatalog
