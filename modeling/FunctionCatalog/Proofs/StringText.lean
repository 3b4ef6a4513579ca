import FunctionCatalog.Json.Printer
import FunctionCatalog.Json.Reader
set_option autoImplicit false

namespace FunctionCatalog

namespace Text

theorem hexDigit?_digitChar {n : Nat} (h : n < 16) : hexDigit? (Nat.digitChar n) = some n := by
  revert n
  decide

theorem hexValue?_append (digits : List Char) (c : Char) :
    hexValue? (digits ++ [c]) =
      (hexValue? digits).bind fun n => (hexDigit? c).map fun d => 16 * n + d := by
  rw [hexValue?, List.foldl_append, ← hexValue?]
  cases hexValue? digits with
  | none => rfl
  | some n => cases h : hexDigit? c <;> simp [h]

theorem hexValue?_hex (width n : Nat) :
    hexValue? (hex width n) = some (n % Nat.pow 16 width) := by
  induction width generalizing n with
  | zero => simp [hex, hexValue?, Nat.mod_one]
  | succ width ih =>
    rw [hex, hexValue?_append, ih, hexDigit?_digitChar (Nat.mod_lt _ (by decide))]
    have hpow : Nat.pow 16 (width + 1) = 16 * Nat.pow 16 width := Nat.mul_comm _ _
    rw [hpow, Nat.mod_mul, Nat.add_comm]
    rfl

end Text

namespace Json

theorem takeHex4_hex {n : Nat} (h : n < 0x10000) (rest : List Char) :
    takeHex4 (Text.hex 4 n ++ rest) = some (n, rest) := by
  have hvalue : Text.hexValue? (Text.hex 4 n) = some n :=
    (Text.hexValue?_hex 4 n).trans (congrArg some (Nat.mod_eq_of_lt h))
  have hlen := Text.length_hex 4 n
  generalize Text.hex 4 n = digits at *
  match digits, hlen with
  | [a, b, c, d], _ => simp [takeHex4, hvalue]

theorem scalar (c : Char) : c.toNat < 0xd800 ∨ 0xdfff < c.toNat ∧ c.toNat < 0x110000 := c.valid

theorem takeEscape_unit {c : Char} (h : c.toNat < 0x10000) (rest : List Char) :
    takeEscape ('u' :: (Text.hex 4 c.toNat ++ rest)) = some (c, rest) := by
  have hscalar := scalar c
  have hhigh : ¬ (0xd800 ≤ c.toNat ∧ c.toNat < 0xdc00) := by omega
  have hlow : ¬ (0xdc00 ≤ c.toNat ∧ c.toNat < 0xe000) := by omega
  simp only [takeEscape, takeHex4_hex h, hhigh, hlow, Option.bind_eq_bind, Option.bind_some,
    if_false, Char.ofNat_toNat]

theorem takeEscape_units {high low : Nat} (hh : 0xd800 ≤ high ∧ high < 0xdc00)
    (hl : 0xdc00 ≤ low ∧ low < 0xe000) (rest : List Char) :
    takeEscape ('u' :: (Text.hex 4 high ++ '\\' :: 'u' :: (Text.hex 4 low ++ rest))) =
      some (Char.ofNat (0x10000 + (high - 0xd800) * 0x400 + (low - 0xdc00)), rest) := by
  have hhigh := takeHex4_hex (n := high) (by omega)
  have hlow := takeHex4_hex (n := low) (by omega)
  simp [takeEscape, hhigh, hlow, hh, hl]

theorem takeEscape_pair {c : Char} (h : 0x10000 ≤ c.toNat) (rest : List Char) :
    takeEscape ('u' :: (Text.hex 4 (0xd800 + (c.toNat - 0x10000) / 0x400) ++
      '\\' :: 'u' :: (Text.hex 4 (0xdc00 + (c.toNat - 0x10000) % 0x400) ++ rest))) =
      some (c, rest) := by
  have hscalar := scalar c
  rw [takeEscape_units (by omega) (by omega), show 0x10000 +
      (0xd800 + (c.toNat - 0x10000) / 0x400 - 0xd800) * 0x400 +
      (0xdc00 + (c.toNat - 0x10000) % 0x400 - 0xdc00) = c.toNat by omega, Char.ofNat_toNat]

theorem takeString_backslash (fuel : Nat) (found rest rest' : List Char) {c : Char}
    (h : takeEscape rest = some (c, rest')) :
    takeString (fuel + 1) found ('\\' :: rest) = takeString fuel (c :: found) rest' := by
  simp [takeString, h]

theorem takeString_escape (fuel : Nat) (found : List Char) (c : Char) (rest : List Char) :
    takeString (fuel + 1) found (escape c ++ rest) = takeString fuel (c :: found) rest := by
  unfold escape
  split
  · rename_i h
    rcases h with rfl | rfl <;> rfl
  rename_i hquote
  split
  · subst c; rfl
  split
  · subst c; rfl
  split
  · subst c; rfl
  split
  · subst c; rfl
  split
  · subst c; rfl
  split
  · obtain ⟨hq, hb⟩ := not_or.mp hquote
    rw [List.singleton_append, takeString]
    · rintro rfl
      exact hq rfl
    · rintro rfl
      exact hb rfl
  split
  · rename_i h
    exact takeString_backslash fuel found _ _ (takeEscape_unit h rest)
  · rename_i h
    simp only [unit16, List.cons_append, List.append_assoc]
    exact takeString_backslash fuel found _ _ (takeEscape_pair (by omega) rest)

theorem takeString_escapes (chars found rest : List Char) {fuel : Nat}
    (h : chars.length < fuel) :
    takeString fuel found (chars.flatMap escape ++ '\x22' :: rest) =
      some (String.ofList (found.reverse ++ chars), rest) := by
  induction chars generalizing found fuel with
  | nil =>
    obtain ⟨fuel, rfl⟩ := Nat.exists_eq_succ_of_ne_zero (Nat.ne_of_gt h)
    simp [takeString]
  | cons c chars ih =>
    obtain ⟨fuel, rfl⟩ := Nat.exists_eq_succ_of_ne_zero (Nat.ne_of_gt (Nat.zero_lt_of_lt h))
    rw [List.flatMap_cons, List.append_assoc, takeString_escape,
      ih _ (by simpa using h)]
    simp

theorem quote_toList (s : String) :
    (quote s).toList = '\x22' :: (s.toList.flatMap escape ++ ['\x22']) := by
  rw [quote, String.toList_ofList]
  rfl

theorem length_le_length_escapes (chars : List Char) :
    chars.length ≤ (chars.flatMap escape).length := by
  have hone (c : Char) : 1 ≤ (escape c).length := by
    unfold escape
    repeat' split
    all_goals simp [unit16]
  induction chars with
  | nil => simp
  | cons c chars ih =>
    have := hone c
    simp only [List.flatMap_cons, List.length_append, List.length_cons]
    omega

/-- After its opening quote, a quoted string is read with fuel for each of its characters. -/
theorem takeString_quote (s : String) (rest : List Char) (fuel : Nat)
    (h : (s.toList.flatMap escape).length < fuel) :
    takeString fuel [] (s.toList.flatMap escape ++ '\x22' :: rest) = some (s, rest) := by
  have := length_le_length_escapes s.toList
  rw [takeString_escapes _ _ _ (by omega)]
  simp

end Json

end FunctionCatalog
