import FunctionCatalog.Proofs.BuilderHistory
import FunctionCatalog.Proofs.LayoutFaults
set_option autoImplicit false

namespace FunctionCatalog

open Builder (Call)

def Profile.layout (p : Profile) : Layout := ⟨p.fixed, p.variadic⟩

namespace Builder

/-- Some calls make the builder give a signature equal to this one, with the same rule. -/
def Gives (b : Builder) (s : Signature) : Prop :=
  ∃ calls t, .built t ∈ (b.run calls).2 ∧ t.same s ∧ t.rule = s.rule

namespace Call

def ofFixed (p : FixedParameter) : Call :=
  if p.required then .require p.name p.type p.description
  else .allow p.name p.type p.description

def ofVariadic (v : VariadicParameter) : Call :=
  .takeRest v.stem v.elementType v.minimumCount v.description

def recipe (s : Signature) : List Call :=
  [.describe s.description, .inferring s.rule, .tag s.flags] ++
    (s.fixed.map ofFixed ++ s.variadic.toList.map ofVariadic)

theorem fixed?_ofFixed (p : FixedParameter) : (ofFixed p).fixed? = some p := by
  obtain ⟨name, description, type, required⟩ := p
  cases required <;> rfl

theorem ofFixed_rest (p : FixedParameter) :
    (ofFixed p).description? = none ∧ (ofFixed p).result? = none ∧
      (ofFixed p).variadic? = none ∧ (ofFixed p).flags? = none := by
  unfold ofFixed
  split <;> exact ⟨rfl, rfl, rfl, rfl⟩

theorem filterMap_ofFixed (ps : List FixedParameter) :
    (ps.map ofFixed).filterMap fixed? = ps := by
  induction ps with
  | nil => rfl
  | cons p ps ih => rw [List.map_cons, List.filterMap_cons_some (fixed?_ofFixed p), ih]

end Call

open Call

theorem declared_recipe (s : Signature) (h : s.rule [] = .ok s.returnType) :
    (Draft.declared s.name (recipe s)).signature = s := by
  have hd := lastOf_map_eq_none (fun p => (ofFixed_rest p).1) s.fixed
  have hr := lastOf_map_eq_none (fun p => (ofFixed_rest p).2.1) s.fixed
  have hv := lastOf_map_eq_none (fun p => (ofFixed_rest p).2.2.1) s.fixed
  have hf := lastOf_map_eq_none (fun p => (ofFixed_rest p).2.2.2) s.fixed
  obtain ⟨⟨name, description, returnType, fixed, variadic, flags⟩, rule⟩ := s
  simp only at h hd hr hv hf
  simp only [Draft.signature, Draft.declared, recipe, lastOf_append, List.filterMap_append, hd, hr,
    hv, hf, filterMap_ofFixed]
  cases variadic <;> simp [lastOf_cons, List.filterMap_cons, ofVariadic, h,
    Except.toOption]

def strictBuild (name : String) (calls : List Call) : Except BuildFault Signature :=
  ((named name true).run calls).1.build

theorem strictBuild_eq (name : String) (calls : List Call) :
    strictBuild name calls =
      match (Draft.declared name calls).layout.fault? with
      | some fault => .error (.ofLayout name fault)
      | none => .ok (Draft.declared name calls).signature := by
  rw [strictBuild, named, run_named]
  unfold build check
  cases (Draft.declared name calls).layout.fault? <;> rfl

theorem strictBuild_eq_unsound_iff {name function : String} {calls : List Call}
    {fault : LayoutFault} :
    strictBuild name calls = .error (.unsound function fault) ↔
      name = function ∧ (Draft.declared name calls).layout.fault? = some fault ∧
        fault.isWritable := by
  rw [strictBuild_eq]
  cases (Draft.declared name calls).layout.fault? with
  | none => simp
  | some found => simp [BuildFault.ofLayout_eq_unsound_iff]

theorem strictBuild_eq_ok_iff {name : String} {calls : List Call} {s : Signature} :
    strictBuild name calls = .ok s ↔
      (Draft.declared name calls).signature = s ∧ (Draft.declared name calls).layout.WellFormed := by
  rw [strictBuild_eq, ← Layout.fault?_eq_none_iff]
  cases (Draft.declared name calls).layout.fault? <;> simp

theorem wellFormed_of_strict {b : Builder} {s : Signature} (hb : b.strict = true)
    (h : b.build = .ok s) : s.layout.WellFormed := by
  obtain ⟨rfl, hcheck⟩ := build_eq_ok_iff.mp h
  specialize hcheck hb
  rw [check] at hcheck
  cases hf : b.draft.layout.fault? with
  | none => exact (Layout.fault?_eq_none_iff _).mp hf
  | some fault => simp [hf] at hcheck

theorem wellFormed_of_built {name : String} {review : Draft → Except Refusal Unit}
    {calls : List Call} {s : Signature}
    (h : .built s ∈ (run ⟨.named name, true, review⟩ calls).2) : s.layout.WellFormed := by
  obtain ⟨before, after, -, hbuild⟩ := built_mem_iff.mp h
  rw [run_named] at hbuild
  exact wellFormed_of_strict rfl hbuild

theorem gives_of_build {name : String} {strict : Bool} {s : Signature} (calls : List Call)
    (h : ((named name strict).run calls).1.build = .ok s) : (named name strict).Gives s := by
  refine ⟨calls ++ [.build], s, ?_, by simp [Signature.same], rfl⟩
  exact built_mem_iff.mpr ⟨calls, [], rfl, h⟩

theorem wellFormed_of_gives {name : String} {s : Signature} (h : (named name true).Gives s) :
    s.layout.WellFormed := by
  obtain ⟨calls, t, ht, hsame, -⟩ := h
  have heq : t.toProfile = s.toProfile := by simpa [Signature.same] using hsame
  have hw := wellFormed_of_built ht
  rwa [heq] at hw

/-- A strict builder gives the sound ones among all that a lenient builder gives. -/
theorem gives_iff_wellFormed :
    (∀ s : Signature, s.rule [] = .ok s.returnType →
      (∃ name, (named name).Gives s) ∧
        ((∃ name, (named name true).Gives s) ↔ s.layout.WellFormed)) ∧
      (∀ name calls s, .built s ∈ ((named name true).run calls).2 → s.layout.WellFormed) ∧
        ∀ name calls, ((named name true).run calls).1.draft.layout.WellFormed →
          ∃ s, ((named name true).run calls).1.build = .ok s := by
  refine ⟨?_, fun _ _ _ => wellFormed_of_built, ?_⟩
  · intro s hs
    have hrecipe := declared_recipe s hs
    refine ⟨⟨s.name, gives_of_build (recipe s) ?_⟩, ?_⟩
    · rw [named, run_named]
      exact congrArg Except.ok hrecipe
    · constructor
      · rintro ⟨name, h⟩
        exact wellFormed_of_gives h
      · intro h
        refine ⟨s.name, gives_of_build _ (strictBuild_eq_ok_iff.mpr ⟨hrecipe, ?_⟩)⟩
        rw [← hrecipe] at h
        exact h
  · intro name calls h
    rw [named, run_named] at h
    exact ⟨_, strictBuild_eq_ok_iff.mpr ⟨rfl, h⟩⟩

def concatSignature : Signature :=
  (((Draft.named "concat").require "a" .string "").allow "b" .string "").signature

theorem gives_concat :
    concatSignature.rule [] = .ok concatSignature.returnType ∧
      ∃ name, (named name true).Gives concatSignature :=
  ⟨rfl, (gives_iff_wellFormed.1 concatSignature rfl).2.mpr (by decide)⟩

end Builder

end FunctionCatalog
