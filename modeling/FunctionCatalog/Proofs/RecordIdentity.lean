import FunctionCatalog.Draft
import FunctionCatalog.Record
import Mathlib.Data.List.Basic
set_option autoImplicit false

namespace FunctionCatalog

theorem Flag.label_injective : Function.Injective Flag.label := by
  intro f g h
  cases f <;> cases g <;> simp_all [label]

namespace Flags

theorem ofList_filter_has (s : Flags) : ofList (Flag.all.filter s.has) = s := by
  have h : ∀ bits : BitVec 5, ofList (Flag.all.filter (has ⟨bits⟩)) = ⟨bits⟩ := by decide
  exact h s.bits

theorem label_mem_names_iff (s : Flags) (f : Flag) : f.label ∈ s.names ↔ s.has f := by
  have hmem : f ∈ Flag.alphabetical := by cases f <;> decide
  simp [names, List.mem_map_of_injective Flag.label_injective, hmem]

theorem names_inj {a b : Flags} : a.names = b.names ↔ a = b := by
  constructor
  · intro h
    have hhas : a.has = b.has := by
      funext f
      rw [Bool.eq_iff_iff, ← label_mem_names_iff, ← label_mem_names_iff, h]
    rw [← ofList_filter_has a, ← ofList_filter_has b, hhas]
  · rintro rfl
    rfl

end Flags

theorem map_eq_map_iff_of_iff {α β γ : Type} {f : α → β} {g : α → γ}
    (h : ∀ a b, f a = f b ↔ g a = g b) (xs ys : List α) :
    xs.map f = ys.map f ↔ xs.map g = ys.map g := by
  induction xs generalizing ys with
  | nil => cases ys <;> simp
  | cons x xs ih => cases ys <;> simp [h, ih]

def FixedParameter.plain (p : FixedParameter) : FixedParameter := { p with type := p.type.plain }

def VariadicParameter.plain (v : VariadicParameter) : VariadicParameter :=
  { v with elementType := v.elementType.plain }

theorem FixedParameter.record_eq_iff (p q : FixedParameter) :
    p.record = q.record ↔ p.plain = q.plain := by
  simp [record, plain, SemanticType.plain]

theorem VariadicParameter.record_eq_iff (v w : VariadicParameter) :
    v.record = w.record ↔ v.plain = w.plain := by
  simp [record, plain, SemanticType.plain]

theorem VariadicParameter.ofOption_record_eq_iff (v w : Option VariadicParameter) :
    Json.ofOption record v = Json.ofOption record w ↔ v.map plain = w.map plain := by
  cases v with
  | none => cases w <;> simp [Json.ofOption, record]
  | some v =>
    cases w with
    | none => simp [Json.ofOption, record]
    | some w => simp [Json.ofOption, record_eq_iff]

namespace Profile

def plain (p : Profile) : Profile :=
  { p with
    returnType := p.returnType.plain
    fixed := p.fixed.map FixedParameter.plain
    variadic := p.variadic.map VariadicParameter.plain }

def types (p : Profile) : List SemanticType :=
  p.returnType ::
    (p.fixed.map FixedParameter.type ++ p.variadic.toList.map VariadicParameter.elementType)

theorem plain_eq_self {p : Profile} (h : ∀ t ∈ p.types, ∃ n, t = .symbol n) : p.plain = p := by
  simp only [types, List.mem_cons, List.mem_append, List.mem_map, Option.mem_toList,
    ← SemanticType.plain_eq_self_iff] at h
  have hreturn : p.returnType.plain = p.returnType := h _ (.inl rfl)
  have hfixed : p.fixed.map FixedParameter.plain = p.fixed := by
    refine List.map_congr_left (fun q hq => ?_) |>.trans (List.map_id _)
    simp [FixedParameter.plain, h q.type (.inr (.inl ⟨q, hq, rfl⟩))]
  have hvariadic : p.variadic.map VariadicParameter.plain = p.variadic := by
    cases hv : p.variadic with
    | none => rfl
    | some v => simp [VariadicParameter.plain, h v.elementType (.inr (.inr ⟨v, hv, rfl⟩))]
  rw [plain, hreturn, hfixed, hvariadic]

theorem displayForm_plain (p : Profile) : p.plain.displayForm = p.displayForm := by
  have hfixedForm : fixedForm ∘ FixedParameter.plain = fixedForm := rfl
  have hvariadicForm : variadicForm ∘ VariadicParameter.plain = variadicForm := rfl
  simp only [displayForm, plain, List.map_map, Option.map_map, hfixedForm, hvariadicForm]
  rfl

theorem record_plain (p : Profile) : p.plain.record = p.record := by
  have hfixed : FixedParameter.record ∘ FixedParameter.plain = FixedParameter.record := rfl
  have hvariadic : Json.ofOption VariadicParameter.record (p.variadic.map VariadicParameter.plain) =
      Json.ofOption VariadicParameter.record p.variadic := by cases p.variadic <;> rfl
  rw [record, record, displayForm_plain]
  simp only [plain, List.map_map, hfixed, hvariadic]
  rfl

theorem record_eq_of_plain {p q : Profile} (h : p.plain = q.plain) : p.record = q.record := by
  rw [← record_plain p, ← record_plain q, h]

/-- The entries beside the line for display are enough to tell the profile but for its types. -/
theorem plain_eq_of_entries {p q : Profile}
    (h : ∀ key, key ≠ "signature" → p.record.field? key = q.record.field? key) :
    p.plain = q.plain := by
  have hname : some (Json.text p.name) = some (.text q.name) := h "name" (by decide)
  have hdescription : some (Json.text p.description) = some (.text q.description) :=
    h "description" (by decide)
  have hreturn : some (Json.text p.returnType.name) = some (.text q.returnType.name) :=
    h "return_type" (by decide)
  have hfixed : some (Json.array (p.fixed.map FixedParameter.record)) =
      some (.array (q.fixed.map FixedParameter.record)) := h "fixed_parameters" (by decide)
  have hvariadic : some (Json.ofOption VariadicParameter.record p.variadic) =
      some (.ofOption VariadicParameter.record q.variadic) := h "variable_parameter" (by decide)
  have hflags : some (Json.texts p.flags.names) = some (.texts q.flags.names) :=
    h "flags" (by decide)
  simp only [Option.some.injEq, Json.text.injEq, Json.array.injEq, Json.texts,
    List.map_inj_right @Json.text.inj] at hname hdescription hreturn hfixed hvariadic hflags
  rw [map_eq_map_iff_of_iff FixedParameter.record_eq_iff] at hfixed
  rw [VariadicParameter.ofOption_record_eq_iff] at hvariadic
  rw [Flags.names_inj] at hflags
  simp only [plain, hname, hdescription, hfixed, hvariadic, hflags, SemanticType.plain, hreturn]

end Profile

namespace Signature

def plain (s : Signature) : Signature := { s.toProfile.plain with rule := s.rule }

/-- Signatures have one record exactly when they are the same up to the kinds of their types. The
line for display never tells two records apart that agree elsewhere, and the rule has no part. -/
theorem same_record_iff (s t : Signature) :
    (s.record = t.record ↔ s.plain.same t.plain) ∧
      ((∀ u ∈ s.types ++ t.types, ∃ n, u = .symbol n) → (s.record = t.record ↔ s.same t)) ∧
      ((∀ key, key ≠ "signature" → s.record.field? key = t.record.field? key) →
        s.record = t.record) ∧
      ∀ rule, ({ s with rule } : Signature).record = s.record := by
  have hplain : s.record = t.record ↔ s.toProfile.plain = t.toProfile.plain :=
    ⟨fun h => Profile.plain_eq_of_entries fun key _ => by rw [h], Profile.record_eq_of_plain⟩
  refine ⟨hplain.trans (same_iff s.plain t.plain).symm, fun hsymbols => ?_, fun hentries => ?_,
    fun _ => rfl⟩
  · have hs : s.toProfile.plain = s.toProfile :=
      Profile.plain_eq_self fun u hu => hsymbols u (List.mem_append_left _ hu)
    have ht : t.toProfile.plain = t.toProfile :=
      Profile.plain_eq_self fun u hu => hsymbols u (List.mem_append_right _ hu)
    rw [hplain, hs, ht, same_iff]
  · exact Profile.record_eq_of_plain (Profile.plain_eq_of_entries hentries)

/-- A literal and the symbol of its name are not told apart by a record; two symbols are. -/
theorem record_of_literal_and_symbols :
    let taking (type : SemanticType) := ((Draft.named "f").require "a" type "").signature
    let literal := taking (.literal "x" "y")
    let symbol := taking (.symbol "x")
    let other := taking (.symbol "y")
    literal.record = symbol.record ∧ ¬ literal.same symbol ∧ symbol.record ≠ other.record := by
  intro taking literal symbol other
  have hother : symbol.record = other.record ↔ symbol.same other :=
    (same_record_iff symbol other).2.1 (by
      simp [symbol, other, taking, Profile.types, Draft.require, Draft.named, Draft.signature,
        SemanticType.any])
  have hsame : ¬ symbol.same other := by decide
  exact ⟨(same_record_iff literal symbol).2.2.1 fun _ _ => rfl, by decide,
    fun h => hsame (hother.mp h)⟩

end Signature

end FunctionCatalog
