import FunctionCatalog.Draft
import FunctionCatalog.TextForm
import FunctionCatalog.Proofs.NumberText
import FunctionCatalog.Proofs.QuotedText
set_option autoImplicit false

namespace FunctionCatalog

open Text

theorem SemanticType.induction {P : SemanticType → Prop} (symbol : ∀ n, P (.symbol n))
    (literal : ∀ n v, P (.literal n v))
    (tuple : ∀ n members, (∀ t ∈ members, P t) → P (.tuple n members)) : ∀ t, P t
  | .symbol n => symbol n
  | .literal n v => literal n v
  | .tuple n members => tuple n members fun t _ => SemanticType.induction symbol literal tuple t

namespace SemanticType

theorem textForms_eq_map (members : List SemanticType) :
    textForms members = members.map textForm := by
  induction members with
  | nil => rfl
  | cons t members ih => rw [textForms, ih, List.map_cons]

theorem startsWithout_textForm (t : SemanticType) : StartsWithout ')' t.textForm := by
  cases t with
  | symbol n => exact startsWithout_fields (c := 'T') rfl (by decide) _
  | literal n v => exact startsWithout_fields (c := 'S') rfl (by decide) _
  | tuple n members => exact startsWithout_fields (c := 'T') rfl (by decide) _

theorem delimits_textForm (t : SemanticType) : Delimits textForm t := by
  induction t using SemanticType.induction with
  | symbol n =>
    intro u r s h
    cases u with
    | symbol m =>
      simp only [textForm] at h
      obtain ⟨rfl, h₁⟩ := fields_append_inj (delimits_quoted n) h
      exact ⟨rfl, laterFields_nil_inj h₁⟩
    | _ => simp [textForm, fields_append] at h
  | literal n v =>
    intro u r s h
    cases u with
    | literal m w =>
      simp only [textForm] at h
      obtain ⟨rfl, h₁⟩ := fields_append_inj (delimits_quoted n) h
      obtain ⟨rfl, h₂⟩ := laterFields_inj (delimits_quoted v) h₁
      exact ⟨rfl, laterFields_nil_inj h₂⟩
    | _ => simp [textForm, fields_append] at h
  | tuple n members ih =>
    intro u r s h
    cases u with
    | tuple m others =>
      simp only [textForm, textForms_eq_map] at h
      obtain ⟨rfl, h₁⟩ := fields_append_inj (delimits_quoted n) h
      obtain ⟨rfl, h₂⟩ := laterFields_inj (delimits_tuple startsWithout_textForm ih) h₁
      exact ⟨rfl, laterFields_nil_inj h₂⟩
    | _ => simp [textForm, fields_append] at h

end SemanticType

theorem delimits_fixed (p : FixedParameter) : Delimits FixedParameter.textForm p := by
  obtain ⟨name, description, type, required⟩ := p
  intro q r s h
  obtain ⟨name', description', type', required'⟩ := q
  simp only [FixedParameter.textForm] at h
  obtain ⟨rfl, h₁⟩ := fields_append_inj (delimits_quoted name) h
  obtain ⟨rfl, h₂⟩ := laterFields_inj (delimits_quoted description) h₁
  obtain ⟨rfl, h₃⟩ := laterFields_inj type.delimits_textForm h₂
  obtain ⟨rfl, h₄⟩ := laterFields_inj (delimits_bool required) h₃
  exact ⟨rfl, laterFields_nil_inj h₄⟩

theorem ends_of_head {c : Char} (h : c.isDigit = false ∧ c ≠ '.' ∧ c ≠ 'e' ∧ c ≠ 'E')
    (rest : List Char) : Json.Ends (c :: rest) := by
  intro d hd
  cases hd
  exact h

theorem delimits_variadic (v : VariadicParameter) : Delimits VariadicParameter.textForm v := by
  obtain ⟨stem, description, type, count⟩ := v
  intro w r s h
  obtain ⟨stem', description', type', count'⟩ := w
  simp only [VariadicParameter.textForm] at h
  obtain ⟨rfl, h₁⟩ := fields_append_inj (delimits_quoted stem) h
  obtain ⟨rfl, h₂⟩ := laterFields_inj (delimits_quoted description) h₁
  obtain ⟨rfl, h₃⟩ := laterFields_inj type.delimits_textForm h₂
  -- A number alone does not show where it ends; the closing parenthesis does.
  simp only [laterFields_cons, laterFields_nil, List.append_cancel_left_eq, List.cons.injEq,
    true_and] at h₃
  obtain ⟨rfl, h₄⟩ :=
    Json.toString_append_inj (ends_of_head (by decide) r) (ends_of_head (by decide) s) h₃
  exact ⟨rfl, (List.cons.inj h₄).2⟩

namespace Flags

theorem colon_notMem_text (s : Flags) : ':' ∉ s.text.toList := by
  have hlabel (f : Flag) : ':' ∉ f.label.toList := by cases f <;> decide
  unfold text
  split
  · decide
  · rw [String.toList_intercalate]
    refine notMem_intercalate (by decide) fun t ht => ?_
    obtain ⟨label, hlabels, rfl⟩ := List.mem_map.mp ht
    obtain ⟨f, -, rfl⟩ := List.mem_map.mp hlabels
    exact hlabel f

theorem textForm_append (s : Flags) (rest : List Char) :
    s.textForm.toList ++ rest = "<FunctionFlags.".toList ++
      (s.text.toList ++ ':' :: ' ' :: ((toString s.toNat).toList ++ '>' :: rest)) := by
  unfold textForm
  generalize s.text = names
  simp

theorem delimits_textForm (a : Flags) : Delimits textForm a := by
  intro b r s h
  rw [textForm_append, textForm_append] at h
  obtain ⟨-, h⟩ :=
    append_cons_inj a.colon_notMem_text b.colon_notMem_text (List.append_cancel_left h)
  obtain ⟨hnumber, h⟩ := Json.toString_append_inj (m := a.toNat) (n := b.toNat)
    (ends_of_head (by decide) r) (ends_of_head (by decide) s) (List.cons.inj h).2
  have hbits : a.bits = b.bits := BitVec.eq_of_toNat_eq (Int.ofNat.inj hnumber)
  exact ⟨congrArg Flags.mk hbits, (List.cons.inj h).2⟩

end Flags

theorem delimits_profile (p : Profile) : Delimits Profile.textForm p := by
  obtain ⟨name, description, returnType, fixed, variadic, flags⟩ := p
  intro q r s h
  obtain ⟨name', description', returnType', fixed', variadic', flags'⟩ := q
  have hfixed (p : FixedParameter) : StartsWithout ')' p.textForm :=
    startsWithout_fields (c := 'F') rfl (by decide) _
  have hvariadic (v : VariadicParameter) : StartsWithout 'N' v.textForm :=
    startsWithout_fields (c := 'V') rfl (by decide) _
  simp only [Profile.textForm] at h
  obtain ⟨rfl, h₁⟩ := fields_append_inj (delimits_quoted name) h
  obtain ⟨rfl, h₂⟩ := laterFields_inj (delimits_quoted description) h₁
  obtain ⟨rfl, h₃⟩ := laterFields_inj returnType.delimits_textForm h₂
  obtain ⟨rfl, h₄⟩ := laterFields_inj (delimits_tuple hfixed fun p _ => delimits_fixed p) h₃
  obtain ⟨rfl, h₅⟩ := laterFields_inj (delimits_option hvariadic fun v _ => delimits_variadic v) h₄
  obtain ⟨rfl, h₆⟩ := laterFields_inj flags.delimits_textForm h₅
  exact ⟨rfl, laterFields_nil_inj h₆⟩

theorem Signature.textForm_eq_textForm_iff (s t : Signature) :
    s.toProfile.textForm = t.toProfile.textForm ↔ s.same t := by
  rw [s.same_iff t]
  exact eq_iff_of_delimits delimits_profile

theorem VariadicParameter.textForm_eq_textForm_iff (v w : VariadicParameter) :
    v.textForm = w.textForm ↔ v = w :=
  eq_iff_of_delimits delimits_variadic

theorem Artifact.textForm?_signature (s : Signature) :
    (Artifact.signature s).textForm? =
      if s.isWritable then some s.toProfile.textForm else none := by
  cases h : s.isWritable <;> simp [textForm?, isWritable, textForm, h]

/-- Of two values that are the same if they are written alike, both are written or neither is. -/
theorem exists_common_text_iff {α : Type} (writable : α → Bool) {form : α → String}
    {same : α → α → Prop} (alike : ∀ a b, form a = form b ↔ same a b)
    (agree : ∀ a b, same a b → writable a = writable b) (a b : α) :
    (∃ text, (if writable a then some (form a) else none) = some text ∧
      (if writable b then some (form b) else none) = some text) ↔ same a b ∧ writable a := by
  constructor
  · rintro ⟨text, ha, hb⟩
    simp only [Option.ite_none_right_eq_some, Option.some.injEq] at ha hb
    exact ⟨(alike a b).mp (ha.2.trans hb.2.symm), ha.1⟩
  · rintro ⟨hsame, ha⟩
    refine ⟨form a, if_pos ha, ?_⟩
    rw [if_pos ((agree a b hsame).symm.trans ha), (alike a b).mpr hsame]

/-- Signatures are written alike exactly when they are the same but for their rules, and types and
parameters when they are the same. A count has to be short enough to be written. -/
theorem textForm_eq_iff :
    (∀ s t : Signature,
      (∃ text, (Artifact.signature s).textForm? = some text ∧
        (Artifact.signature t).textForm? = some text) ↔ s.same t ∧ s.isWritable) ∧
    (∀ t u : SemanticType, t.textForm = u.textForm ↔ t = u) ∧
    (∀ p q : FixedParameter, p.textForm = q.textForm ↔ p = q) ∧
    (∀ v w : VariadicParameter,
      (∃ text, v.textForm? = some text ∧ w.textForm? = some text) ↔ v = w ∧ v.isWritable) ∧
    (∀ s : Signature, s.isWritable ↔ ∀ v ∈ s.variadic, v.isWritable) ∧
    ∀ v : VariadicParameter,
      v.isWritable ↔ (Nat.toDigits 10 v.minimumCount.natAbs).length ≤ digitLimit := by
  refine ⟨fun s t => ?_, fun t u => ?_, fun p q => ?_, fun v w => ?_, fun s => ?_, fun v => ?_⟩
  · simp only [Artifact.textForm?_signature]
    refine exists_common_text_iff (fun s : Signature => s.isWritable)
      Signature.textForm_eq_textForm_iff (fun s t h => ?_) s t
    rw [(s.same_iff t).mp h]
  · exact eq_iff_of_delimits SemanticType.delimits_textForm
  · exact eq_iff_of_delimits delimits_fixed
  · exact exists_common_text_iff VariadicParameter.isWritable
      VariadicParameter.textForm_eq_textForm_iff (fun v w h => by rw [h]) v w
  · cases h : s.variadic <;> simp [Profile.isWritable, h]
  · exact isWritable_iff v.minimumCount

/-- The signature is the same as itself, but neither it nor its parameter is written. -/
theorem textForm?_of_long_count :
    let v : VariadicParameter := ⟨"item", "", .any, leastTooLong⟩
    let s := ((Draft.named "f").takeRest "item" .any leastTooLong "").signature
    s.same s ∧ s.variadic = some v ∧ (Artifact.signature s).textForm? = none ∧
      v.textForm? = none := by
  intro v s
  have hv : v.isWritable = false := isWritable_leastTooLong
  have hs : (Artifact.signature s).isWritable = false := by
    simpa [s, Artifact.isWritable, Profile.isWritable, Draft.signature, Draft.takeRest] using hv
  refine ⟨by simp [Signature.same], rfl, ?_, ?_⟩
  · simp [Artifact.textForm?, hs]
  · simp [VariadicParameter.textForm?, hv]

end FunctionCatalog
