import FunctionCatalog.Builder
import FunctionCatalog.Proofs.LayoutFaults
import Mathlib.Data.List.Nodup
set_option autoImplicit false

/-!
What the check of a layout reports. Each rule is told by the places of parameters in the list, and
the report names the first place at which the first broken rule fails. What stands before that place
breaks none of the rules looked at so far, so the parameter that is reported as the previous one
always stands right before it or, for a variadic parameter, at the end of the list.
-/

namespace FunctionCatalog

theorem exists_place_cons {α : Type} {x y : α} {rest : List α} {P : List α → Prop} :
    (∃ before after, x :: rest = before ++ y :: after ∧ P before) ↔
      (x = y ∧ P []) ∨ ∃ before after, rest = before ++ y :: after ∧ P (x :: before) := by
  constructor
  · rintro ⟨before, after, h, hp⟩
    cases before with
    | nil => exact .inl ⟨(List.cons.inj h).1, hp⟩
    | cons z before =>
      obtain ⟨rfl, hrest⟩ := List.cons.inj h
      exact .inr ⟨before, after, hrest, hp⟩
  · rintro (⟨rfl, hp⟩ | ⟨before, after, rfl, hp⟩)
    · exact ⟨[], rest, rfl, hp⟩
    · exact ⟨x :: before, after, rfl, hp⟩

theorem firstRepeated?_eq_some_iff {seen : List String} (hs : seen.Nodup) (names : List String)
    (n : String) :
    firstRepeated? seen names = some n ↔
      ∃ before after, names = before ++ n :: after ∧
        n ∈ before.reverse ++ seen ∧ (before.reverse ++ seen).Nodup := by
  induction names generalizing seen with
  | nil => simp [firstRepeated?]
  | cons m rest ih =>
    rw [exists_place_cons]
    by_cases hm : m ∈ seen
    · have hrepeat : ∀ before : List String, ¬ ((m :: before).reverse ++ seen).Nodup := by
        simp [List.nodup_append, hm]
      simp only [firstRepeated?, if_pos hm, Option.some.injEq, hrepeat, and_false, exists_false,
        or_false]
      constructor
      · rintro rfl
        exact ⟨rfl, hm, hs⟩
      · exact And.left
    · have hnext (before : List String) :
          (m :: before).reverse ++ seen = before.reverse ++ m :: seen := by simp
      have hhead : ¬ (m = n ∧ n ∈ [].reverse ++ seen ∧ ([].reverse ++ seen).Nodup) := by
        rintro ⟨rfl, h, -⟩
        exact hm h
      simp only [firstRepeated?, if_neg hm, ih (List.nodup_cons.mpr ⟨hm, hs⟩), hnext, hhead,
        false_or]

def RequiredFirst (ps : List FixedParameter) : Prop :=
  ps.Pairwise fun p q => q.required → p.required

theorem requiredFirst_concat (ps : List FixedParameter) (p : FixedParameter) :
    RequiredFirst (ps ++ [p]) ↔ RequiredFirst ps ∧ (p.required → ∀ q ∈ ps, q.required) := by
  simp only [RequiredFirst, List.pairwise_append, List.pairwise_singleton, List.mem_singleton,
    forall_eq, true_and]
  exact and_congr_right fun _ => ⟨fun h hp q hq => h q hq hp, fun h q hq hp => h hp q hq⟩

theorem lastOptional_concat (ps : List FixedParameter) (p : FixedParameter) :
    ((ps ++ [p]).filter fun q => !q.required).getLast? =
      if p.required then (ps.filter fun q => !q.required).getLast? else some p := by
  cases hp : p.required <;> simp [List.filter_append, hp]

/-- Of an ordered list the last optional parameter is the last parameter. -/
theorem lastOptional_eq_some_iff {ps : List FixedParameter} (h : RequiredFirst ps)
    (q : FixedParameter) :
    (ps.filter fun p => !p.required).getLast? = some q ↔
      (∃ p ∈ ps, p.required = false) ∧ ps.getLast? = some q := by
  rcases List.eq_nil_or_concat' ps with rfl | ⟨front, p, rfl⟩
  · simp
  · obtain ⟨-, hp⟩ := (requiredFirst_concat front p).mp h
    rw [lastOptional_concat]
    cases hr : p.required with
    | false => simp +contextual [hr]
    | true =>
      have hall : ∀ r ∈ front, r.required := hp hr
      have hnone : front.filter (fun r => !r.required) = [] := by simpa using hall
      simp only [if_true, hnone, List.getLast?_nil, reduceCtorEq, false_iff, not_and]
      rintro ⟨r, hmem, hopt⟩
      rcases List.mem_append.mp hmem with hr' | hr'
      · simp [hall r hr'] at hopt
      · simp [List.mem_singleton.mp hr', hr] at hopt

theorem firstMisplaced?_skip {seen : List FixedParameter} {x : FixedParameter}
    (h : x.required → ∀ r ∈ seen, r.required) (rest : List FixedParameter) :
    firstMisplaced? (seen.filter fun r => !r.required).getLast? (x :: rest) =
      firstMisplaced? ((seen ++ [x]).filter fun r => !r.required).getLast? rest := by
  rw [lastOptional_concat]
  cases hx : x.required with
  | false => simp [firstMisplaced?, hx]
  | true =>
    have hnone : seen.filter (fun r => !r.required) = [] := by simpa using h hx
    simp [firstMisplaced?, hx, hnone]

/-- What a walk over a list that follows the parameters `seen` finds first: a required parameter
with an optional one before it. -/
theorem firstMisplaced?_eq_some_iff {seen : List FixedParameter} (hs : RequiredFirst seen)
    (ps : List FixedParameter) (p q : FixedParameter) :
    firstMisplaced? (seen.filter fun r => !r.required).getLast? ps = some (p, q) ↔
      ∃ before after, ps = before ++ p :: after ∧ p.required ∧ RequiredFirst (seen ++ before) ∧
        (∃ r ∈ seen ++ before, r.required = false) ∧ (seen ++ before).getLast? = some q := by
  induction ps generalizing seen with
  | nil => simp [firstMisplaced?]
  | cons x rest ih =>
    rw [exists_place_cons, List.append_nil]
    by_cases hx : x.required → ∀ r ∈ seen, r.required
    · rw [firstMisplaced?_skip hx, ih ((requiredFirst_concat seen x).mpr ⟨hs, hx⟩)]
      simp only [List.append_assoc, List.singleton_append]
      refine ⟨.inr, fun h => h.resolve_left ?_⟩
      rintro ⟨rfl, hp, -, ⟨r, hr, hopt⟩, -⟩
      simp [hx hp r hr] at hopt
    · push Not at hx
      obtain ⟨hreq, r, hr, hopt⟩ := hx
      have hopt : r.required = false := by simpa using hopt
      -- No place behind `x` is the first: what stands before it is out of order at `x`.
      have hbehind (before : List FixedParameter) : ¬ RequiredFirst (seen ++ x :: before) := by
        intro h
        have := (List.pairwise_append.mp h).2.2 r hr x (by simp) hreq
        simp [hopt] at this
      have hlast := List.getLast?_eq_some_getLast (List.ne_nil_of_mem hr)
      have ho := (lastOptional_eq_some_iff hs _).mpr ⟨⟨r, hr, hopt⟩, hlast⟩
      simp only [firstMisplaced?, hreq, if_true, ho, Option.some.injEq, Prod.mk.injEq, hbehind,
        false_and, and_false, exists_false, or_false]
      constructor
      · rintro ⟨rfl, rfl⟩
        exact ⟨rfl, hreq, hs, ⟨r, hr, hopt⟩, hlast⟩
      · rintro ⟨rfl, -, -, -, hq⟩
        exact ⟨rfl, Option.some.inj (hlast.symm.trans hq)⟩

namespace Layout

/-- What there is to report, told by places in the list and in order of the rules. -/
inductive Reports (l : Layout) : LayoutFault → Prop where
  | duplicate {before after : List FixedParameter} {p : FixedParameter}
      (place : l.fixed = before ++ p :: after) (repeats : p.name ∈ before.map FixedParameter.name)
      (first : (before.map FixedParameter.name).Nodup) : l.Reports (.duplicateParameter p.name)
  | misplaced {before after : List FixedParameter} {p q : FixedParameter}
      (distinct : (l.fixed.map FixedParameter.name).Nodup)
      (place : l.fixed = before ++ p :: after) (required : p.required)
      (follows : ∃ r ∈ before, r.required = false) (first : RequiredFirst before)
      (previous : before.getLast? = some q) : l.Reports (.requiredAfterOptional p.name q.name)
  | crossing {v : VariadicParameter} {q : FixedParameter}
      (distinct : (l.fixed.map FixedParameter.name).Nodup) (ordered : RequiredFirst l.fixed)
      (takes : l.variadic = some v) (optional : ∃ r ∈ l.fixed, r.required = false)
      (previous : l.fixed.getLast? = some q) : l.Reports (.optionalWithVariable v.stem q.name)
  | negative {v : VariadicParameter} (distinct : (l.fixed.map FixedParameter.name).Nodup)
      (takes : l.variadic = some v) (required : ∀ r ∈ l.fixed, r.required)
      (below : v.minimumCount < 0) : l.Reports (.negativeMinimumCount v.stem v.minimumCount)

theorem repeated?_eq_some_iff (l : Layout) (n : String) :
    l.repeated? = some n ↔
      ∃ before p after, l.fixed = before ++ p :: after ∧ p.name = n ∧
        n ∈ before.map FixedParameter.name ∧ (before.map FixedParameter.name).Nodup := by
  rw [repeated?, firstRepeated?_eq_some_iff List.nodup_nil]
  simp only [List.append_nil, List.mem_reverse, List.nodup_reverse, List.map_eq_append_iff,
    List.map_eq_cons_iff]
  constructor
  · rintro ⟨_, _, ⟨before, _, hplace, rfl, p, after, rfl, rfl, rfl⟩, hn, hfirst⟩
    exact ⟨before, p, after, hplace, rfl, hn, hfirst⟩
  · rintro ⟨before, p, after, hplace, rfl, hn, hfirst⟩
    exact ⟨_, _, ⟨before, _, hplace, rfl, p, after, rfl, rfl, rfl⟩, hn, hfirst⟩

theorem misplaced?_eq_some_iff (l : Layout) (p q : FixedParameter) :
    l.misplaced? = some (p, q) ↔
      ∃ before after, l.fixed = before ++ p :: after ∧ p.required ∧ RequiredFirst before ∧
        (∃ r ∈ before, r.required = false) ∧ before.getLast? = some q :=
  firstMisplaced?_eq_some_iff (show RequiredFirst [] from .nil) l.fixed p q

theorem fault?_eq_some_iff_reports {l : Layout} {f : LayoutFault} :
    l.fault? = some f ↔ l.Reports f := by
  rw [fault?_eq_some_iff]
  constructor
  · intro h
    cases h with
    | duplicate found =>
      obtain ⟨before, p, after, place, rfl, repeats, first⟩ := (l.repeated?_eq_some_iff _).mp found
      exact .duplicate place repeats first
    | misplaced distinct found =>
      obtain ⟨before, after, place, required, first, follows, previous⟩ :=
        (l.misplaced?_eq_some_iff _ _).mp found
      exact .misplaced (l.repeated?_eq_none_iff.mp distinct) place required follows first previous
    | crossing distinct ordered takes found =>
      have ordered := l.misplaced?_eq_none_iff.mp ordered
      obtain ⟨optional, previous⟩ := (lastOptional_eq_some_iff ordered _).mp found
      exact .crossing (l.repeated?_eq_none_iff.mp distinct) ordered takes optional previous
    | negative distinct ordered takes required below =>
      exact .negative (l.repeated?_eq_none_iff.mp distinct) takes
        (l.lastOptional?_eq_none_iff.mp required) below
  · intro h
    cases h with
    | duplicate place repeats first =>
      exact .duplicate ((l.repeated?_eq_some_iff _).mpr ⟨_, _, _, place, rfl, repeats, first⟩)
    | misplaced distinct place required follows first previous =>
      exact .misplaced (l.repeated?_eq_none_iff.mpr distinct)
        ((l.misplaced?_eq_some_iff _ _).mpr ⟨_, _, place, required, first, follows, previous⟩)
    | crossing distinct ordered takes optional previous =>
      exact .crossing (l.repeated?_eq_none_iff.mpr distinct)
        (l.misplaced?_eq_none_iff.mpr ordered) takes
        ((lastOptional_eq_some_iff ordered _).mpr ⟨optional, previous⟩)
    | negative distinct takes required below =>
      refine .negative (l.repeated?_eq_none_iff.mpr distinct) (l.misplaced?_eq_none_iff.mpr ?_)
        takes (l.lastOptional?_eq_none_iff.mpr required) below
      exact List.pairwise_of_forall_mem_list fun p hp _ _ _ => required p hp

end Layout

theorem LayoutFault.not_isWritable_iff (f : LayoutFault) :
    f.isWritable = false ↔ ∃ stem count, f = .negativeMinimumCount stem count ∧
      digitLimit < (Nat.toDigits 10 count.natAbs).length := by
  cases f with
  | negativeMinimumCount stem count =>
    simp [isWritable, ← Bool.not_eq_true, FunctionCatalog.isWritable_iff]
  | _ => simp [isWritable]

namespace Builder

theorem check_of_draft (d : Draft) (strict : Bool) :
    check { draft := d, strict } =
      match d.layout.fault? with
      | none => .ok ()
      | some fault => .error (.ofLayout d.name fault) := by
  unfold check
  cases d.layout.fault? <;> rfl

theorem check_eq_ok_iff (d : Draft) (strict : Bool) :
    check { draft := d, strict } = .ok () ↔ d.layout.WellFormed := by
  rw [check_of_draft, ← Layout.fault?_eq_none_iff]
  cases d.layout.fault? <;> simp

theorem check_eq_error_iff (d : Draft) (strict : Bool) (fault : BuildFault) :
    check { draft := d, strict } = .error fault ↔
      ∃ f, d.layout.Reports f ∧
        fault = if f.isWritable then .unsound d.name f else .unreported .tooLong := by
  simp only [check_of_draft, ← Layout.fault?_eq_some_iff_reports, ← BuildFault.ofLayout_eq]
  cases d.layout.fault? with
  | none => simp
  | some f => simp [eq_comm]

/-- The check passes exactly the well-formed layouts. Of any other it finds one fault, which is the
one that the places in the list call for, and reports it unless it is about a count that is too long
to be written. -/
theorem check_reports (d : Draft) (strict : Bool) :
    let b : Builder := { draft := d, strict }
    (b.check = .ok () ↔ d.layout.WellFormed) ∧
      (∀ fault, b.check = .error fault ↔
        ∃ f, d.layout.Reports f ∧
          fault = if f.isWritable then .unsound d.name f else .unreported .tooLong) ∧
      (∀ f : LayoutFault, f.isWritable = false ↔
        ∃ stem count, f = .negativeMinimumCount stem count ∧
          digitLimit < (Nat.toDigits 10 count.natAbs).length) ∧
      ((∃! f, d.layout.Reports f) ↔ ¬ d.layout.WellFormed) := by
  refine ⟨check_eq_ok_iff d strict, check_eq_error_iff d strict, LayoutFault.not_isWritable_iff, ?_⟩
  simp only [← Layout.fault?_eq_none_iff, ← Layout.fault?_eq_some_iff_reports]
  cases d.layout.fault? with
  | none => simp
  | some f => simp [ExistsUnique]

/-- There is one fault to report, and no report of it. -/
theorem check_of_long_count :
    let d := (Draft.named "f").takeRest "item" .any (-leastTooLong) ""
    d.layout.Reports (.negativeMinimumCount "item" (-leastTooLong)) ∧
      check { draft := d, strict := true } = .error (.unreported .tooLong) := by
  intro d
  have below : (-leastTooLong : Int) < 0 := Int.neg_neg_of_pos leastTooLong_pos
  have reports : d.layout.Reports (.negativeMinimumCount "item" (-leastTooLong)) :=
    .negative (v := ⟨"item", "", .any, _⟩) .nil rfl (fun _ hp => nomatch hp) below
  refine ⟨reports, (check_eq_error_iff d true _).mpr ⟨_, reports, ?_⟩⟩
  simp [LayoutFault.isWritable, isWritable_leastTooLong]

/-- The repeated name is reported, though the second parameter is misplaced before it. -/
example :
    let d := (Draft.named "f").allow "a" .any "" |>.require "b" .any "" |>.require "a" .any ""
    d.layout.fault? = some (.duplicateParameter "a") := by decide

end Builder

end FunctionCatalog
