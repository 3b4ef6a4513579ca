import FunctionCatalog.Proofs.CompoundText
import FunctionCatalog.Proofs.RecordIdentity
set_option autoImplicit false

/-!
Names of types. A type that a source text can name, a literal without an apostrophe and a tuple of
such types are all known from their names: a name of this kind shows where it ends, whatever
commas, parentheses and keywords a literal in it may hold. A signature of such types is therefore
told by its record.
-/

namespace FunctionCatalog

open Text

namespace SemanticType

/-- The types whose names are made from what they hold. -/
inductive Canonical : SemanticType → Prop
  | keyword {t : SemanticType} (h : t ∈ keywords) : Canonical t
  | literalOf {value : String} (h : '\x27' ∉ value.toList) : Canonical (literalOf value)
  | tupleOf {members : List SemanticType} (h : ∀ t ∈ members, Canonical t) :
      Canonical (tupleOf members)

theorem name_literalOf_append (value : String) (rest : List Char) :
    (literalOf value).name.toList ++ rest = '\x27' :: (value.toList ++ '\x27' :: rest) := by
  simp [literalOf, name]

theorem name_tupleOf_append (members : List SemanticType) (rest : List Char) :
    (tupleOf members).name.toList ++ rest =
      '(' :: ((commas (members.map name)).toList ++ ')' :: rest) := by
  simp [tupleOf, name, commas]

theorem startsWithout_keyword {t : SemanticType} (h : t ∈ keywords) {d : Char}
    (hd : d.isLower = false) : StartsWithout d t.name := by
  simp only [keywords, List.mem_cons, List.not_mem_nil, or_false] at h
  rcases h with rfl | rfl | rfl | rfl | rfl <;>
    refine ⟨_, _, rfl, ?_⟩ <;>
    rintro rfl <;>
    exact absurd hd (by decide)

theorem keyword_eq_of_start : ∀ t ∈ keywords, ∀ u ∈ keywords,
    t.name.toList <+: u.name.toList → t = u := by decide

theorem keyword_append_inj {t u : SemanticType} (ht : t ∈ keywords) (hu : u ∈ keywords)
    {r s : List Char} (h : t.name.toList ++ r = u.name.toList ++ s) : t = u ∧ r = s := by
  have heq : t = u := by
    rcases List.append_eq_append_iff.mp h with ⟨x, hx, -⟩ | ⟨x, hx, -⟩
    · exact keyword_eq_of_start t ht u hu ⟨x, hx.symm⟩
    · exact (keyword_eq_of_start u hu t ht ⟨x, hx.symm⟩).symm
  subst heq
  exact ⟨rfl, List.append_cancel_left h⟩

theorem keyword_append_ne {t : SemanticType} (ht : t ∈ keywords) {d : Char}
    (hd : d.isLower = false) (r s : List Char) : t.name.toList ++ r ≠ d :: s := by
  obtain ⟨c, tail, hname, hc⟩ := startsWithout_keyword ht hd
  rw [hname]
  exact fun h => hc (List.cons.inj h).1

theorem Canonical.startsWithout {t : SemanticType} (ht : t.Canonical) :
    StartsWithout ')' t.name := by
  cases ht with
  | keyword h => exact startsWithout_keyword h (by decide)
  | literalOf => exact ⟨'\x27', _, by simpa using name_literalOf_append _ [], by decide⟩
  | tupleOf => exact ⟨'(', _, by simpa using name_tupleOf_append _ [], by decide⟩

def canonicalName (t : { t : SemanticType // t.Canonical }) : String := t.1.name

theorem exists_map_val {members : List SemanticType} (h : ∀ t ∈ members, Canonical t) :
    ∃ ts : List { t : SemanticType // t.Canonical }, ts.map Subtype.val = members :=
  ⟨members.attachWith _ h, List.attachWith_map_subtype_val h⟩

/-- The first character tells keywords, literals and tuples apart. A literal ends at the next
apostrophe, and a tuple at the parenthesis behind its last member. -/
theorem delimits_canonicalName (t : { t : SemanticType // t.Canonical }) :
    Delimits canonicalName t := by
  obtain ⟨t, ht⟩ := t
  induction ht with
  | @keyword t ht =>
    rintro ⟨u, hu⟩ r s e
    simp only [canonicalName] at e
    cases hu with
    | keyword hu =>
      obtain ⟨rfl, rfl⟩ := keyword_append_inj ht hu e
      exact ⟨rfl, rfl⟩
    | literalOf => exact absurd (e.trans (name_literalOf_append _ s)) (keyword_append_ne ht rfl r _)
    | tupleOf => exact absurd (e.trans (name_tupleOf_append _ s)) (keyword_append_ne ht rfl r _)
  | @literalOf value hvalue =>
    rintro ⟨u, hu⟩ r s e
    simp only [canonicalName, name_literalOf_append] at e
    cases hu with
    | keyword hu => exact absurd e.symm (keyword_append_ne hu rfl s _)
    | @literalOf other hother =>
      simp only [name_literalOf_append, List.cons.injEq, true_and] at e
      obtain ⟨hvalues, rfl⟩ := append_cons_inj hvalue hother e
      obtain rfl := String.toList_inj.mp hvalues
      exact ⟨rfl, rfl⟩
    | tupleOf => simp [name_tupleOf_append] at e
  | @tupleOf members hmembers ih =>
    rintro ⟨u, hu⟩ r s e
    simp only [canonicalName, name_tupleOf_append] at e
    cases hu with
    | keyword hu => exact absurd e.symm (keyword_append_ne hu rfl s _)
    | literalOf => simp [name_literalOf_append] at e
    | @tupleOf others hothers =>
      -- As lists of canonical types, the members are items whose names show where they end.
      obtain ⟨ts, rfl⟩ := exists_map_val hmembers
      obtain ⟨us, rfl⟩ := exists_map_val hothers
      have hts : ∀ t ∈ ts, Delimits canonicalName t := fun t ht => ih t.1 (List.mem_map_of_mem ht)
      simp only [name_tupleOf_append, List.cons.injEq, true_and, List.map_map] at e
      obtain ⟨rfl, rfl⟩ := commas_append_inj (fun t => t.2.startsWithout) hts e
      exact ⟨rfl, rfl⟩

theorem Canonical.name_inj {t u : SemanticType} (ht : t.Canonical) (hu : u.Canonical) :
    t.name = u.name ↔ t = u :=
  (eq_iff_of_delimits delimits_canonicalName (a := ⟨t, ht⟩) (b := ⟨u, hu⟩)).trans Subtype.mk_eq_mk

end SemanticType

open SemanticType (Canonical)

theorem eq_of_map_eq {α β : Type} {f : α → β} {xs ys : List α}
    (h : ∀ x ∈ xs, ∀ y ∈ ys, f x = f y → x = y) (e : xs.map f = ys.map f) : xs = ys := by
  induction xs generalizing ys with
  | nil => exact (List.map_eq_nil_iff.mp e.symm).symm
  | cons x xs ih =>
    cases ys with
    | nil => simp at e
    | cons y ys =>
      simp only [List.map_cons, List.cons.injEq] at e
      rw [h x (by simp) y (by simp) e.1,
        ih (fun x hx y hy => h x (by simp [hx]) y (by simp [hy])) e.2]

theorem FixedParameter.eq_of_plain_eq {p q : FixedParameter} (hp : p.type.Canonical)
    (hq : q.type.Canonical) (h : p.plain = q.plain) : p = q := by
  obtain ⟨name, description, type, required⟩ := p
  obtain ⟨name', description', type', required'⟩ := q
  simpa [plain, SemanticType.plain, hp.name_inj hq] using h

theorem VariadicParameter.eq_of_plain_eq {v w : VariadicParameter} (hv : v.elementType.Canonical)
    (hw : w.elementType.Canonical) (h : v.plain = w.plain) : v = w := by
  obtain ⟨stem, description, type, count⟩ := v
  obtain ⟨stem', description', type', count'⟩ := w
  simpa [plain, SemanticType.plain, hv.name_inj hw] using h

theorem Profile.eq_of_plain_eq {p q : Profile} (hp : ∀ t ∈ p.types, t.Canonical)
    (hq : ∀ t ∈ q.types, t.Canonical) (h : p.plain = q.plain) : p = q := by
  obtain ⟨name, description, returnType, fixed, variadic, flags⟩ := p
  obtain ⟨name', description', returnType', fixed', variadic', flags'⟩ := q
  simp only [types, List.forall_mem_cons, List.forall_mem_append, List.forall_mem_map,
    Option.mem_toList] at hp hq
  obtain ⟨hreturn, hfixed, hvariadic⟩ := hp
  obtain ⟨hreturn', hfixed', hvariadic'⟩ := hq
  simp only [plain, mk.injEq, SemanticType.plain, SemanticType.symbol.injEq] at h
  obtain ⟨rfl, rfl, htypes, hfixeds, hvariadics, rfl⟩ := h
  obtain rfl := (hreturn.name_inj hreturn').mp htypes
  obtain rfl := eq_of_map_eq
    (fun p hp q hq => FixedParameter.eq_of_plain_eq (hfixed p hp) (hfixed' q hq)) hfixeds
  have hvariadic : variadic = variadic' := by
    cases variadic with
    | none => exact (Option.map_eq_none_iff.mp hvariadics.symm).symm
    | some v =>
      cases variadic' with
      | none => simp at hvariadics
      | some w =>
        exact congrArg some (VariadicParameter.eq_of_plain_eq (hvariadic v rfl) (hvariadic' w rfl)
          (Option.some.inj hvariadics))
  rw [hvariadic]

/-- Among canonical types a type is known from its name. Neither the line for display nor the record
of a signature tells more of a type than that, so the record tells signatures of such types. -/
theorem canonical_name_eq_iff :
    (∀ t u : SemanticType, t.Canonical → u.Canonical → (t.name = u.name ↔ t = u)) ∧
    (∀ p : Profile, p.plain.displayForm = p.displayForm ∧ p.plain.record = p.record) ∧
    ∀ s t : Signature, (∀ u ∈ s.types ++ t.types, u.Canonical) →
      (s.record = t.record ↔ s.same t) := by
  refine ⟨fun t u ht hu => ht.name_inj hu, fun p => ⟨p.displayForm_plain, p.record_plain⟩,
    fun s t hcanonical => ?_⟩
  rw [Signature.same_iff]
  constructor
  · intro h
    exact Profile.eq_of_plain_eq (fun u hu => hcanonical u (List.mem_append_left _ hu))
      (fun u hu => hcanonical u (List.mem_append_right _ hu))
      (Profile.plain_eq_of_entries fun key _ => congrArg (·.field? key) h)
  · intro h
    exact congrArg Profile.record h

/-- A literal that holds parentheses and a comma is not taken for two literals. -/
theorem canonical_name_of_literals :
    let one : SemanticType := .tupleOf [.literalOf "any), (", .tupleOf []]
    let two : SemanticType := .tupleOf [.literalOf "any)", .literalOf "(", .tupleOf []]
    let giving (type : SemanticType) := ((Draft.named "f").returning type).signature
    one.Canonical ∧ two.Canonical ∧ one.name ≠ two.name ∧
      (giving one).record ≠ (giving two).record := by
  intro one two giving
  have hempty : (SemanticType.tupleOf []).Canonical := .tupleOf (by simp)
  have hone : one.Canonical := .tupleOf (by
    simp only [List.forall_mem_cons, List.not_mem_nil, IsEmpty.forall_iff, implies_true, and_true]
    exact ⟨.literalOf (by decide), hempty⟩)
  have htwo : two.Canonical := .tupleOf (by
    simp only [List.forall_mem_cons, List.not_mem_nil, IsEmpty.forall_iff, implies_true, and_true]
    exact ⟨.literalOf (by decide), .literalOf (by decide), hempty⟩)
  have hne : one ≠ two := by decide
  obtain ⟨names, -, records⟩ := canonical_name_eq_iff
  refine ⟨hone, htwo, fun h => hne ((names one two hone htwo).mp h), fun h => ?_⟩
  have hsame : (giving one).same (giving two) := (records _ _ (by
    simp [giving, Profile.types, Draft.signature, Draft.returning, Draft.named, hone, htwo])).mp h
  exact hne (congrArg Profile.returnType ((Signature.same_iff _ _).mp hsame))

end FunctionCatalog
