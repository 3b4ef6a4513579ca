import FunctionCatalog.Layout
set_option autoImplicit false

namespace FunctionCatalog

theorem firstRepeated?_eq_none_iff (seen names : List String) :
    firstRepeated? seen names = none ↔ names.Nodup ∧ ∀ n ∈ names, n ∉ seen := by
  induction names generalizing seen with
  | nil => simp [firstRepeated?]
  | cons n rest ih =>
    by_cases h : n ∈ seen
    · simp [firstRepeated?, h]
    · simp only [firstRepeated?, h, if_false, ih, List.nodup_cons, List.mem_cons]
      grind

theorem firstRepeated?_append {seen xs : List String} {n : String} (ys : List String)
    (h : firstRepeated? seen xs = some n) : firstRepeated? seen (xs ++ ys) = some n := by
  induction xs generalizing seen with
  | nil => simp [firstRepeated?] at h
  | cons x xs ih =>
    by_cases hx : x ∈ seen
    · simpa [firstRepeated?, hx] using h
    · simp only [firstRepeated?, hx, if_false, List.cons_append] at h ⊢
      exact ih h

theorem firstMisplaced?_eq_none_iff (optional : Option FixedParameter) (ps : List FixedParameter) :
    firstMisplaced? optional ps = none ↔
      ps.Pairwise (fun p q => q.required → p.required) ∧
        (optional.isSome → ∀ p ∈ ps, p.required = false) := by
  induction ps generalizing optional with
  | nil => simp [firstMisplaced?]
  | cons p rest ih =>
    cases hp : p.required with
    | true => cases optional <;> simp [firstMisplaced?, hp, ih]
    | false => simp [firstMisplaced?, hp, ih]; grind

theorem firstMisplaced?_append {optional : Option FixedParameter} {ps : List FixedParameter}
    {found : FixedParameter × FixedParameter} (qs : List FixedParameter)
    (h : firstMisplaced? optional ps = some found) :
    firstMisplaced? optional (ps ++ qs) = some found := by
  induction ps generalizing optional with
  | nil => simp [firstMisplaced?] at h
  | cons p ps ih =>
    cases hp : p.required with
    | true =>
      cases optional with
      | none =>
        simp only [firstMisplaced?, hp, if_true, List.cons_append] at h ⊢
        exact ih h
      | some q => simpa [firstMisplaced?, hp] using h
    | false =>
      simp only [firstMisplaced?, hp, Bool.false_eq_true, if_false, List.cons_append] at h ⊢
      exact ih h

def LayoutFault.rank : LayoutFault → Nat
  | .duplicateParameter _ => 0
  | .requiredAfterOptional _ _ => 1
  | .optionalWithVariable _ _ => 2
  | .negativeMinimumCount _ _ => 3

theorem LayoutFault.rank_le_three (f : LayoutFault) : f.rank ≤ 3 := by cases f <;> simp [rank]

theorem LayoutFault.rank_le_two_iff (f : LayoutFault) :
    f.rank ≤ 2 ↔ f.code = .duplicateParameter ∨ f.code = .requiredAfterOptional ∨
      f.code = .optionalWithVariable := by
  cases f <;> simp [rank, code]

theorem LayoutFault.isWritable_of_rank_le_two {f : LayoutFault} (h : f.rank ≤ 2) :
    f.isWritable := by
  cases f with
  | negativeMinimumCount => simp [rank] at h
  | _ => rfl

namespace Layout

/-- The rules as such, without an order among them. -/
structure WellFormed (l : Layout) : Prop where
  distinct : (l.fixed.map FixedParameter.name).Nodup
  ordered : l.fixed.Pairwise fun p q => q.required → p.required
  variadic : ∀ v ∈ l.variadic, (∀ p ∈ l.fixed, p.required) ∧ 0 ≤ v.minimumCount

def repeated? (l : Layout) : Option String :=
  firstRepeated? [] (l.fixed.map FixedParameter.name)

def misplaced? (l : Layout) : Option (FixedParameter × FixedParameter) :=
  firstMisplaced? none l.fixed

theorem repeated?_eq_none_iff (l : Layout) :
    l.repeated? = none ↔ (l.fixed.map FixedParameter.name).Nodup := by
  simp [repeated?, firstRepeated?_eq_none_iff]

theorem misplaced?_eq_none_iff (l : Layout) :
    l.misplaced? = none ↔ l.fixed.Pairwise fun p q => q.required → p.required := by
  simp [misplaced?, firstMisplaced?_eq_none_iff]

theorem lastOptional?_eq_none_iff (l : Layout) :
    l.lastOptional? = none ↔ ∀ p ∈ l.fixed, p.required := by
  simp [lastOptional?]

theorem variadicFault?_eq_none_iff (l : Layout) :
    l.variadicFault? = none ↔
      ∀ v ∈ l.variadic, (∀ p ∈ l.fixed, p.required) ∧ 0 ≤ v.minimumCount := by
  cases hv : l.variadic with
  | none => simp [variadicFault?, hv]
  | some v =>
    rw [← lastOptional?_eq_none_iff]
    cases ho : l.lastOptional? with
    | none => simp [variadicFault?, hv, ho]
    | some q => simp [variadicFault?, hv, ho]

theorem fault?_eq (l : Layout) :
    l.fault? = ((l.repeated?.map .duplicateParameter).or
      (l.misplaced?.map fun found => .requiredAfterOptional found.1.name found.2.name)).or
        l.variadicFault? := by
  unfold fault? repeated? misplaced?
  cases firstRepeated? [] (l.fixed.map FixedParameter.name) with
  | some n => rfl
  | none =>
    cases firstMisplaced? none l.fixed with
    | some found => rfl
    | none => rfl

theorem fault?_eq_none_iff (l : Layout) : l.fault? = none ↔ l.WellFormed := by
  rw [fault?_eq, Option.or_eq_none_iff, Option.or_eq_none_iff, Option.map_eq_none_iff,
    Option.map_eq_none_iff, repeated?_eq_none_iff, misplaced?_eq_none_iff,
    variadicFault?_eq_none_iff]
  exact ⟨fun ⟨⟨hd, ho⟩, hv⟩ => ⟨hd, ho, hv⟩, fun h => ⟨⟨h.distinct, h.ordered⟩, h.variadic⟩⟩

instance (l : Layout) : Decidable l.WellFormed := decidable_of_iff _ l.fault?_eq_none_iff

/-- What is found wrong, with all that was looked for before and not found. -/
inductive Breaks (l : Layout) : LayoutFault → Prop where
  | duplicate {n : String} (found : l.repeated? = some n) : l.Breaks (.duplicateParameter n)
  | misplaced {p q : FixedParameter} (distinct : l.repeated? = none)
      (found : l.misplaced? = some (p, q)) : l.Breaks (.requiredAfterOptional p.name q.name)
  | crossing {v : VariadicParameter} {q : FixedParameter} (distinct : l.repeated? = none)
      (ordered : l.misplaced? = none) (takes : l.variadic = some v)
      (found : l.lastOptional? = some q) : l.Breaks (.optionalWithVariable v.stem q.name)
  | negative {v : VariadicParameter} (distinct : l.repeated? = none)
      (ordered : l.misplaced? = none) (takes : l.variadic = some v)
      (required : l.lastOptional? = none) (below : v.minimumCount < 0) :
      l.Breaks (.negativeMinimumCount v.stem v.minimumCount)

theorem Breaks.of_variadicFault? {l : Layout} {f : LayoutFault} (distinct : l.repeated? = none)
    (ordered : l.misplaced? = none) (h : l.variadicFault? = some f) : l.Breaks f := by
  cases hv : l.variadic with
  | none => simp [variadicFault?, hv] at h
  | some v =>
    cases hq : l.lastOptional? with
    | some q =>
      simp only [variadicFault?, hv, hq, Option.some.injEq] at h
      subst h
      exact .crossing distinct ordered hv hq
    | none =>
      by_cases hlt : v.minimumCount < 0
      · simp only [variadicFault?, hv, hq, hlt, if_true, Option.some.injEq] at h
        subst h
        exact .negative distinct ordered hv hq hlt
      · simp [variadicFault?, hv, hq, hlt] at h

theorem fault?_eq_some_iff {l : Layout} {f : LayoutFault} : l.fault? = some f ↔ l.Breaks f := by
  rw [fault?_eq]
  constructor
  · intro h
    cases hr : l.repeated? with
    | some n =>
      rw [hr] at h
      cases h
      exact .duplicate hr
    | none =>
      cases hm : l.misplaced? with
      | some found =>
        rw [hr, hm] at h
        cases h
        exact .misplaced hr hm
      | none => exact .of_variadicFault? hr hm (by simpa [hr, hm] using h)
  · intro h
    cases h with
    | duplicate found => simp [found]
    | misplaced distinct found => simp [distinct, found]
    | crossing distinct ordered takes found =>
      simp [distinct, ordered, variadicFault?, takes, found]
    | negative distinct ordered takes required below =>
      simp [distinct, ordered, variadicFault?, takes, required, below]

/-- Fixed parameters are only added behind those there are, and a variadic one stays. -/
structure Extends (l later : Layout) : Prop where
  fixed : l.fixed <+: later.fixed
  variadic : l.variadic.isSome → later.variadic.isSome

namespace Extends

variable {l later : Layout}

theorem repeated?_eq_some {n : String} (h : l.Extends later) (found : l.repeated? = some n) :
    later.repeated? = some n := by
  obtain ⟨rest, hrest⟩ := h.fixed
  rw [Layout.repeated?, ← hrest, List.map_append]
  exact firstRepeated?_append _ found

theorem misplaced?_eq_some {found : FixedParameter × FixedParameter} (h : l.Extends later)
    (hf : l.misplaced? = some found) : later.misplaced? = some found := by
  obtain ⟨rest, hrest⟩ := h.fixed
  rw [Layout.misplaced?, ← hrest]
  exact firstMisplaced?_append _ hf

theorem exists_lastOptional? {q : FixedParameter} (h : l.Extends later)
    (hq : l.lastOptional? = some q) : ∃ r, later.lastOptional? = some r := by
  cases hr : later.lastOptional? with
  | some r => exact ⟨r, rfl⟩
  | none =>
    have all := (lastOptional?_eq_none_iff later).mp hr
    have none := (lastOptional?_eq_none_iff l).mpr fun p hp => all p (h.fixed.subset hp)
    simp [none] at hq

theorem exists_variadic {v : VariadicParameter} (h : l.Extends later)
    (hv : l.variadic = some v) : ∃ w, later.variadic = some w :=
  Option.isSome_iff_exists.mp (h.variadic (by simp [hv]))

theorem fault?_duplicate {n : String} (h : l.Extends later)
    (hf : l.fault? = some (.duplicateParameter n)) :
    later.fault? = some (.duplicateParameter n) := by
  rw [fault?_eq_some_iff] at hf ⊢
  cases hf with
  | duplicate found => exact .duplicate (h.repeated?_eq_some found)

theorem fault?_misplaced {p q : String} (h : l.Extends later)
    (hf : l.fault? = some (.requiredAfterOptional p q)) :
    later.fault? = some (.requiredAfterOptional p q) ∨
      ∃ n, later.fault? = some (.duplicateParameter n) := by
  simp only [fault?_eq_some_iff] at hf ⊢
  cases hf with
  | misplaced _ found =>
    cases hr : later.repeated? with
    | some n => exact .inr ⟨n, .duplicate hr⟩
    | none => exact .inl (.misplaced hr (h.misplaced?_eq_some found))

theorem fault?_crossing {p q : String} (h : l.Extends later)
    (hf : l.fault? = some (.optionalWithVariable p q)) :
    ∃ f, later.fault? = some f ∧ f.rank ≤ 2 := by
  simp only [fault?_eq_some_iff] at hf ⊢
  cases hf with
  | crossing _ _ takes found =>
    obtain ⟨w, hw⟩ := h.exists_variadic takes
    obtain ⟨r, hr⟩ := h.exists_lastOptional? found
    cases hd : later.repeated? with
    | some n => exact ⟨_, .duplicate hd, by simp [LayoutFault.rank]⟩
    | none =>
      cases hm : later.misplaced? with
      | some found => exact ⟨_, .misplaced hd hm, by simp [LayoutFault.rank]⟩
      | none => exact ⟨_, .crossing hd hm hw hr, by simp [LayoutFault.rank]⟩

theorem rank_le {f g : LayoutFault} (h : l.Extends later) (hf : l.fault? = some f)
    (hg : later.fault? = some g) : g.rank ≤ f.rank := by
  cases f with
  | duplicateParameter n =>
    rw [h.fault?_duplicate hf] at hg
    cases hg
    exact Nat.le_refl _
  | requiredAfterOptional p q =>
    rcases h.fault?_misplaced hf with he | ⟨n, he⟩
    · rw [he] at hg
      cases hg
      exact Nat.le_refl _
    · rw [he] at hg
      cases hg
      exact Nat.zero_le _
  | optionalWithVariable p q =>
    obtain ⟨k, hk, hle⟩ := h.fault?_crossing hf
    rw [hk] at hg
    cases hg
    exact hle
  | negativeMinimumCount p c => exact g.rank_le_three

theorem code_of_repaired {f : LayoutFault} (h : l.Extends later) (hf : l.fault? = some f)
    (hl : later.fault? = none) : f.code = .negativeMinimumCount := by
  cases f with
  | duplicateParameter n => simp [h.fault?_duplicate hf] at hl
  | requiredAfterOptional p q =>
    rcases h.fault?_misplaced hf with he | ⟨n, he⟩ <;> simp [he] at hl
  | optionalWithVariable p q =>
    obtain ⟨k, hk, -⟩ := h.fault?_crossing hf
    simp [hk] at hl
  | negativeMinimumCount p c => rfl

end Extends

end Layout

end FunctionCatalog
