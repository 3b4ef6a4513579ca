import FunctionCatalog.Proofs.BuilderReach
set_option autoImplicit false

/-!
What a strict builder says after it has refused to build. Calls only make the layout longer, so the
fault that is reported stays or gives way to one that is looked for earlier, and a negative count
is all that further calls can put right.
-/

namespace FunctionCatalog

open Builder (Call)

theorem Draft.declared_extends (name : String) (done calls : List Call) :
    (Draft.declared name done).layout.Extends (Draft.declared name (done ++ calls)).layout where
  fixed := by
    rw [layout, layout, declared, declared, List.filterMap_append]
    exact List.prefix_append _ _
  variadic := by
    intro h
    simp only [layout, declared] at h ⊢
    rw [lastOf_append, Option.isSome_or, h, Bool.or_true]

namespace Builder

theorem Call.eq_takeRest {c : Call} {v : VariadicParameter} (h : c.variadic? = some v) :
    c = .takeRest v.stem v.elementType v.minimumCount v.description := by
  cases c with
  | takeRest stem type count description =>
    cases h
    rfl
  | _ => simp at h

/-- A negative count is made good by a later variadic parameter, not by an optional one. -/
theorem takeRest_of_repaired {name : String} {done calls : List Call} {p : String} {n : Int}
    (h : (Draft.declared name done).layout.fault? = some (.negativeMinimumCount p n))
    (sound : (Draft.declared name (done ++ calls)).layout.WellFormed) :
    (∃ stem type count description, .takeRest stem type count description ∈ calls ∧ 0 ≤ count) ∧
      ∀ name type description, .allow name type description ∉ calls := by
  have hv : (Draft.declared name (done ++ calls)).variadic =
      (lastOf Call.variadic? calls).or (Draft.declared name done).variadic := by
    simp [Draft.declared, lastOf_append]
  cases Layout.fault?_eq_some_iff.mp h with
  | @negative v _ _ takes _ below =>
    cases hl : lastOf Call.variadic? calls with
    | none =>
      rw [hl, Option.none_or] at hv
      have hc := (sound.variadic v (hv.trans takes)).2
      omega
    | some w =>
      rw [hl, Option.some_or] at hv
      obtain ⟨hall, hcount⟩ := sound.variadic w hv
      obtain ⟨c, hc, hw⟩ := exists_of_lastOf hl
      rw [Call.eq_takeRest hw] at hc
      refine ⟨⟨_, _, _, _, hc, hcount⟩, ?_⟩
      intro name type description hmem
      have hfixed :
          ⟨name, description, type, false⟩ ∈ (Draft.declared name (done ++ calls)).fixed :=
        List.mem_filterMap.mpr ⟨_, List.mem_append_right _ hmem, rfl⟩
      simpa using hall _ hfixed

theorem wellFormed_of_takeRest {name : String} {done : List Call} {p : String} {n : Int}
    (h : (Draft.declared name done).layout.fault? = some (.negativeMinimumCount p n)) :
    (Draft.declared name (done ++ [.build, .takeRest p .any 0 ""])).layout.WellFormed := by
  have hl : (Draft.declared name (done ++ [.build, .takeRest p .any 0 ""])).layout =
      ⟨(Draft.declared name done).fixed, some ⟨p, "", .any, 0⟩⟩ := by
    simp [Draft.layout, Draft.declared, lastOf_append, lastOf_cons]
  rw [hl]
  cases Layout.fault?_eq_some_iff.mp h with
  | negative distinct ordered takes required below =>
    refine ⟨(Layout.repeated?_eq_none_iff _).mp distinct,
      (Layout.misplaced?_eq_none_iff _).mp ordered, ?_⟩
    intro v hv
    cases hv
    exact ⟨(Layout.lastOptional?_eq_none_iff _).mp required, Int.le_refl 0⟩

/-- A refused build and the builds after it, whatever is configured between them. A repeated name
is reported for good, a fault in the order only gives way to one that is looked for earlier, and
nothing but a negative count can be put right. -/
theorem strictBuild_after_fault (name : String) (before : List Call) (function : String)
    (fault : LayoutFault)
    (refused : strictBuild name before = .error (.unsound function fault)) :
    (∀ between,
      (fault.code = .duplicateParameter →
        strictBuild name (before ++ .build :: between) = .error (.unsound function fault)) ∧
      (fault.code = .requiredAfterOptional →
        strictBuild name (before ++ .build :: between) = .error (.unsound function fault) ∨
          ∃ n, strictBuild name (before ++ .build :: between) =
            .error (.unsound function (.duplicateParameter n))) ∧
      (fault.code = .optionalWithVariable →
        ∃ f, strictBuild name (before ++ .build :: between) = .error (.unsound function f) ∧
          (f.code = .duplicateParameter ∨ f.code = .requiredAfterOptional ∨
            f.code = .optionalWithVariable)) ∧
      (fault.code = .negativeMinimumCount →
        ∀ s, strictBuild name (before ++ .build :: between) = .ok s →
          (∃ stem type count description,
            .takeRest stem type count description ∈ between ∧ 0 ≤ count) ∧
            ∀ n type description, .allow n type description ∉ between) ∧
      ∀ g f, strictBuild name (before ++ .build :: between) = .error (.unsound g f) →
        f.rank ≤ fault.rank) ∧
    ((∃ between s, strictBuild name (before ++ .build :: between) = .ok s) ↔
      fault.code = .negativeMinimumCount) := by
  obtain ⟨rfl, hf, -⟩ := strictBuild_eq_unsound_iff.mp refused
  have grows (between : List Call) := Draft.declared_extends name before (.build :: between)
  simp only [strictBuild_eq_unsound_iff, strictBuild_eq_ok_iff, true_and]
  refine ⟨fun between => ⟨?_, ?_, ?_, ?_, ?_⟩, ?_⟩
  · intro hc
    cases fault with
    | duplicateParameter n => exact ⟨(grows between).fault?_duplicate hf, rfl⟩
    | _ => simp [LayoutFault.code] at hc
  · intro hc
    cases fault with
    | requiredAfterOptional p q =>
      exact ((grows between).fault?_misplaced hf).imp (⟨·, rfl⟩) (.imp fun _ hn => ⟨hn, rfl⟩)
    | _ => simp [LayoutFault.code] at hc
  · intro hc
    cases fault with
    | optionalWithVariable p q =>
      obtain ⟨f, hlater, hrank⟩ := (grows between).fault?_crossing hf
      exact ⟨f, ⟨hlater, LayoutFault.isWritable_of_rank_le_two hrank⟩, f.rank_le_two_iff.mp hrank⟩
    | _ => simp [LayoutFault.code] at hc
  · rintro hc s ⟨-, hlater⟩
    cases fault with
    | negativeMinimumCount p n =>
      have hr := takeRest_of_repaired hf (hlater)
      simpa using hr
    | _ => simp [LayoutFault.code] at hc
  · rintro g f ⟨-, hlater, -⟩
    exact (grows between).rank_le hf hlater
  · constructor
    · rintro ⟨between, s, -, hlater⟩
      exact (grows between).code_of_repaired hf ((Layout.fault?_eq_none_iff _).mpr hlater)
    · intro hc
      cases fault with
      | negativeMinimumCount p n =>
        have hw := wellFormed_of_takeRest hf
        exact ⟨[.takeRest p .any 0 ""], _, rfl, hw⟩
      | _ => simp [LayoutFault.code] at hc

theorem strictBuild_after_crossing :
    strictBuild "f" [.allow "a" .any "", .takeRest "x" .any 0 ""] =
        .error (.unsound "f" (.optionalWithVariable "x" "a")) ∧
      ∃ f, strictBuild "f" ([.allow "a" .any "", .takeRest "x" .any 0 ""] ++
          .build :: [.require "b" .any "", .require "a" .any ""]) = .error (.unsound "f" f) ∧
        (f.code = .duplicateParameter ∨ f.code = .requiredAfterOptional ∨
          f.code = .optionalWithVariable) :=
  ⟨rfl, ((strictBuild_after_fault "f" _ "f" (.optionalWithVariable "x" "a") rfl).1 _).2.2.1 rfl⟩

end Builder

end FunctionCatalog
