import FunctionCatalog.Parameter
import FunctionCatalog.Proofs.NumberText
import FunctionCatalog.Proofs.TextForms
set_option autoImplicit false

namespace FunctionCatalog

/-- A text is cut behind its last character that is no digit. -/
theorem append_digits_inj {s t a b : List Char} (hs : ∀ c ∈ s.getLast?, c.isDigit = false)
    (ht : ∀ c ∈ t.getLast?, c.isDigit = false) (ha : ∀ c ∈ a, c.isDigit)
    (hb : ∀ c ∈ b, c.isDigit) (h : s ++ a = t ++ b) : s = t ∧ a = b := by
  have hspan {s a : List Char} (hs : ∀ c ∈ s.getLast?, c.isDigit = false)
      (ha : ∀ c ∈ a, c.isDigit) :
      (s ++ a).reverse.span Char.isDigit = (a.reverse, s.reverse) := by
    rw [List.reverse_append]
    exact Json.span_digits (by simpa using ha) (by simpa using hs)
  have hcut : (a.reverse, s.reverse) = (b.reverse, t.reverse) := by
    rw [← hspan hs ha, h, hspan ht hb]
  simpa [and_comm] using hcut

namespace VariadicParameter

theorem displayName_eq_iff (p : VariadicParameter) (i j : Int) :
    p.displayName i = p.displayName j ↔ i = j := by
  constructor
  · intro h
    have htext := congrArg String.toList ((String.append_right_inj p.stem).mp h)
    have hnumber : i + 1 = j + 1 :=
      (Json.toString_append_inj (r := []) (s := []) nofun nofun (by simpa using htext)).1
    omega
  · intro h
    rw [h]

def Undigited (p : VariadicParameter) : Prop := ∀ c ∈ p.stem.toList.getLast?, c.isDigit = false

theorem toList_displayName (p : VariadicParameter) {i : Int} (h : 0 ≤ i) :
    (p.displayName i).toList = p.stem.toList ++ Nat.toDigits 10 (i + 1).natAbs := by
  have hpos : ¬ i + 1 < 0 := by omega
  rw [displayName, String.toList_append, Json.toList_toString]
  simp [hpos, Json.sign]

theorem displayName_eq_displayName_iff {p q : VariadicParameter} (hp : p.Undigited)
    (hq : q.Undigited) {i j : Int} (hi : 0 ≤ i) (hj : 0 ≤ j) :
    p.displayName i = q.displayName j ↔ p.stem = q.stem ∧ i = j := by
  constructor
  · intro h
    have htext := congrArg String.toList h
    rw [p.toList_displayName hi, q.toList_displayName hj] at htext
    have hdigits (n : Nat) : ∀ c ∈ Nat.toDigits 10 n, c.isDigit :=
      fun c hc => Nat.isDigit_of_mem_toDigits (by decide) (by decide) hc
    have hstem : p.stem = q.stem :=
      String.toList_inj.mp (append_digits_inj hp hq (hdigits _) (hdigits _) htext).1
    refine ⟨hstem, (p.displayName_eq_iff i j).mp ?_⟩
    rw [h, displayName, displayName, hstem]
  · intro ⟨hstem, hindex⟩
    rw [displayName, displayName, hstem, hindex]

/-- A stem that ends in a digit can take one from the number. -/
example : (⟨"item", "", .any, 1⟩ : VariadicParameter).displayName 10 =
    (⟨"item1", "", .any, 1⟩ : VariadicParameter).displayName 0 := by decide

theorem displayName?_eq_some_iff (p : VariadicParameter) (i : Int) (name : String) :
    p.displayName? i = some name ↔
      (Nat.toDigits 10 (i + 1).natAbs).length ≤ digitLimit ∧ p.displayName i = name := by
  rw [← isWritable_iff, displayName?]
  split <;> simp_all

theorem displayName?_limit (p : VariadicParameter) :
    p.displayName? (10 ^ digitLimit - 1) = none := by
  have hlong {k : Nat} (hk : 0 < k) :
      ¬ (Nat.toDigits 10 (10 ^ k - 1 + 1 : Int).natAbs).length ≤ k := by
    rw [Int.sub_add_cancel, Int.natAbs_pow, Nat.length_toDigits_le_iff (by decide) hk]
    exact Nat.lt_irrefl _
  rw [Option.eq_none_iff_forall_ne_some]
  intro name h
  exact hlong (by decide) ((p.displayName?_eq_some_iff _ name).mp h).1

/-- An index has a name exactly if the number that follows it can be written, and the name is the stem
with that number. No two indices make one name. Nor do those of another parameter, unless its stem is
the same, when neither stem ends in a digit and no number has a sign. -/
theorem displayName?_determines_index (p q : VariadicParameter) (i j : Int) :
    (∀ name, p.displayName? i = some name ↔
      (Nat.toDigits 10 (i + 1).natAbs).length ≤ digitLimit ∧ p.displayName i = name) ∧
    (p.displayName i = p.displayName j ↔ i = j) ∧
    (p.Undigited → q.Undigited → 0 ≤ i → 0 ≤ j →
      (p.displayName i = q.displayName j ↔ p.stem = q.stem ∧ i = j)) := by
  refine ⟨p.displayName?_eq_some_iff i, p.displayName_eq_iff i j, ?_⟩
  intro hp hq hi hj
  exact displayName_eq_displayName_iff hp hq hi hj

theorem displayName?_of_two_stems :
    let p : VariadicParameter := ⟨"item", "", .any, 1⟩
    let q : VariadicParameter := ⟨"1item", "", .scalar, 0⟩
    p.Undigited ∧ q.Undigited ∧ p.displayName? 10 = some "item11" ∧
      (p.displayName 10 = p.displayName (-12) ↔ (10 : Int) = -12) ∧
      (p.displayName 10 = q.displayName 10 ↔ p.stem = q.stem ∧ (10 : Int) = 10) := by
  intro p q
  have hp : p.Undigited := by simp [Undigited, p]
  have hq : q.Undigited := by simp [Undigited, q]
  obtain ⟨named, distinct, -⟩ := displayName?_determines_index p p 10 (-12)
  obtain ⟨-, -, apart⟩ := displayName?_determines_index p q 10 10
  exact ⟨hp, hq, (named _).mpr ⟨by decide, rfl⟩, distinct,
    apart hp hq (by decide) (by decide)⟩

/-- An index whose number cannot be written has no name, not even one that it shares with itself. -/
theorem displayName?_past_limit :
    (⟨"item", "", .any, 1⟩ : VariadicParameter).displayName? (10 ^ 4300 - 1) = none ∧
      ¬ ∀ (p : VariadicParameter) (i j : Int),
        (∃ name, p.displayName? i = some name ∧ p.displayName? j = some name) ↔ i = j := by
  have hnone := displayName?_limit ⟨"item", "", .any, 1⟩
  refine ⟨hnone, fun h => ?_⟩
  obtain ⟨name, hname, -⟩ := (h ⟨"item", "", .any, 1⟩ _ _).mpr rfl
  cases hnone.symm.trans hname

end VariadicParameter

end FunctionCatalog
