import FunctionCatalog.Text.Quoted
import FunctionCatalog.Proofs.CompoundText
import FunctionCatalog.Proofs.StringText
set_option autoImplicit false

namespace FunctionCatalog.Text

def takeCode (width : Nat) (text : List Char) : Option (Char × List Char) :=
  (hexValue? (text.take width)).map fun n => (Char.ofNat n, text.drop width)

def takeQuotedChar : List Char → Option (Char × List Char)
  | '\\' :: 'n' :: rest => some ('\n', rest)
  | '\\' :: 'r' :: rest => some ('\r', rest)
  | '\\' :: 't' :: rest => some ('\t', rest)
  | '\\' :: 'x' :: rest => takeCode 2 rest
  | '\\' :: 'u' :: rest => takeCode 4 rest
  | '\\' :: 'U' :: rest => takeCode 8 rest
  | '\\' :: c :: rest => some (c, rest)
  | c :: rest => some (c, rest)
  | [] => none

theorem takeCode_hex {width : Nat} {c : Char} (h : c.toNat < Nat.pow 16 width)
    (rest : List Char) : takeCode width (hex width c.toNat ++ rest) = some (c, rest) := by
  have hlength := length_hex width c.toNat
  rw [takeCode, List.take_left' hlength, List.drop_left' hlength, hexValue?_hex,
    Nat.mod_eq_of_lt h, Option.map_some, Char.ofNat_toNat]

theorem takeQuotedChar_spellOut (c : Char) (rest : List Char) :
    takeQuotedChar (spellOut c ++ rest) = some (c, rest) := by
  unfold spellOut
  split
  · have hlt : c.toNat < Nat.pow 16 2 := ‹c.toNat < 0x100›
    exact takeCode_hex hlt rest
  split
  · have hlt : c.toNat < Nat.pow 16 4 := ‹c.toNat < 0x10000›
    exact takeCode_hex hlt rest
  · have hlt : c.toNat < Nat.pow 16 8 := by
      have hscalar := Json.scalar c
      have hpow : Nat.pow 16 8 = 0x100000000 := rfl
      omega
    exact takeCode_hex hlt rest

theorem spellOut_eq_cons (c : Char) : ∃ tail, spellOut c = '\\' :: tail := by
  unfold spellOut
  split
  · exact ⟨_, rfl⟩
  split
  · exact ⟨_, rfl⟩
  · exact ⟨_, rfl⟩

section Quote

variable {quote : Char}

theorem takeQuotedChar_quotedChar (hq : quote = '\x27' ∨ quote = '\x22') (c : Char)
    (rest : List Char) : takeQuotedChar (quotedChar quote c ++ rest) = some (c, rest) := by
  unfold quotedChar
  split
  · rename_i h
    rcases h with rfl | rfl
    · rcases hq with rfl | rfl <;> rfl
    · rfl
  rename_i hspecial
  split
  · subst c; rfl
  split
  · subst c; rfl
  split
  · subst c; rfl
  split
  · have hb : c ≠ '\\' := fun h => hspecial (.inr h)
    simp [takeQuotedChar, hb]
  · exact takeQuotedChar_spellOut c rest

theorem quotedChar_append_inj (hq : quote = '\x27' ∨ quote = '\x22') {c d : Char}
    {r s : List Char} (h : quotedChar quote c ++ r = quotedChar quote d ++ s) :
    c = d ∧ r = s := by
  have hread := congrArg takeQuotedChar h
  rw [takeQuotedChar_quotedChar hq, takeQuotedChar_quotedChar hq] at hread
  simpa using hread

theorem quotedChar_eq_cons (hq : quote ≠ '\\') (c : Char) :
    ∃ d tail, quotedChar quote c = d :: tail ∧ d ≠ quote := by
  unfold quotedChar
  split
  · exact ⟨'\\', _, rfl, hq.symm⟩
  rename_i hspecial
  split
  · exact ⟨'\\', _, rfl, hq.symm⟩
  split
  · exact ⟨'\\', _, rfl, hq.symm⟩
  split
  · exact ⟨'\\', _, rfl, hq.symm⟩
  split
  · exact ⟨c, _, rfl, fun h => hspecial (.inl h)⟩
  · obtain ⟨tail, h⟩ := spellOut_eq_cons c
    exact ⟨'\\', tail, h, hq.symm⟩

/-- The closing quote is the first that is not written for a character of the text. -/
theorem quotedBody_append_inj (hq : quote = '\x27' ∨ quote = '\x22')
    {text other r s : List Char}
    (h : text.flatMap (quotedChar quote) ++ quote :: r =
      other.flatMap (quotedChar quote) ++ quote :: s) : text = other ∧ r = s := by
  have hne : quote ≠ '\\' := by rcases hq with rfl | rfl <;> decide
  induction text generalizing other with
  | nil =>
    cases other with
    | nil => simpa using h
    | cons d other =>
      obtain ⟨e, tail, he, hquote⟩ := quotedChar_eq_cons hne d
      simp only [List.flatMap_nil, List.flatMap_cons, he, List.nil_append, List.cons_append,
        List.cons.injEq] at h
      exact absurd h.1.symm hquote
  | cons c text ih =>
    cases other with
    | nil =>
      obtain ⟨e, tail, he, hquote⟩ := quotedChar_eq_cons hne c
      simp only [List.flatMap_nil, List.flatMap_cons, he, List.nil_append, List.cons_append,
        List.cons.injEq] at h
      exact absurd h.1 hquote
    | cons d other =>
      simp only [List.flatMap_cons, List.append_assoc] at h
      obtain ⟨rfl, htail⟩ := quotedChar_append_inj hq h
      obtain ⟨rfl, rfl⟩ := ih htail
      exact ⟨rfl, rfl⟩

end Quote

theorem quoteFor_eq (text : List Char) : quoteFor text = '\x27' ∨ quoteFor text = '\x22' := by
  unfold quoteFor
  split
  · exact .inr rfl
  · exact .inl rfl

theorem delimits_quoted (t : String) : Delimits quoted t := by
  intro u r s h
  simp only [quoted, quotedChars, String.toList_ofList, List.cons_append, List.append_assoc,
    List.nil_append, List.cons.injEq] at h
  obtain ⟨hquote, h⟩ := h
  rw [← hquote] at h
  obtain ⟨htext, rfl⟩ := quotedBody_append_inj (quoteFor_eq t.toList) h
  exact ⟨String.toList_inj.mp htext, rfl⟩

end FunctionCatalog.Text
