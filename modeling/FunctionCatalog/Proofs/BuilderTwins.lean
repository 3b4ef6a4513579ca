import FunctionCatalog.Proofs.BuilderReach
import FunctionCatalog.Record
import FunctionCatalog.TextForm
import Mathlib.Data.List.Forall2
set_option autoImplicit false

/-!
Two runs of builders that differ in their result rules only. Every call acts on the profile of the
draft, and of a rule nothing counts there but its answer on no arguments. So runs whose rules agree
on no arguments build, or fail to build, signatures that nothing but a call with arguments can tell
apart.
-/

namespace FunctionCatalog

theorem map_eq_map_of_forall₂ {α β : Type} {R : α → α → Prop} {f : α → β}
    (hR : ∀ x y, R x y → f x = f y) {xs ys : List α} (h : List.Forall₂ R xs ys) :
    xs.map f = ys.map f := by
  rw [← List.forall₂_eq_eq_eq, List.forall₂_map_left_iff, List.forall₂_map_right_iff]
  exact h.imp hR

def Draft.profile (d : Draft) : Profile := d.signature.toProfile

/-- Whatever is asked of one signature, save the result type at a call with arguments, has the same
answer for the other. -/
structure Signature.Agrees (s t : Signature) : Prop where
  same : s.same t
  displayForm : s.displayForm = t.displayForm
  record : s.record = t.record
  textForm : (Artifact.signature s).textForm = (Artifact.signature t).textForm
  minimumCount : s.minimumCount = t.minimumCount
  maximumCount : s.maximumCount? = t.maximumCount?
  required : s.required = t.required
  optional : s.optional = t.optional
  flags : s.flags = t.flags
  infer_nil : s.infer [] = t.infer []

theorem Signature.Agrees.of_profile {s t : Signature} (h : s.toProfile = t.toProfile)
    (hinfer : s.infer [] = t.infer []) : s.Agrees t where
  same := (Signature.same_iff s t).mpr h
  displayForm := congrArg Profile.displayForm h
  record := congrArg Profile.record h
  textForm := congrArg Profile.textForm h
  minimumCount := congrArg Profile.minimumCount h
  maximumCount := congrArg Profile.maximumCount? h
  required := congrArg Profile.required h
  optional := congrArg Profile.optional h
  flags := congrArg Profile.flags h
  infer_nil := hinfer

namespace Builder

namespace Call

/-- One call made twice, or two rules that give one type or both decline on no arguments. A type that
is set as it stands goes with every rule that gives it there. -/
inductive Alike : Call → Call → Prop where
  | refl (c : Call) : Alike c c
  | rules {rule rule' : ReturnRule} (h : (rule []).toOption = (rule' []).toOption) :
      Alike (.inferring rule) (.inferring rule')
  | ruleType {rule : ReturnRule} {type : SemanticType} (h : rule [] = .ok type) :
      Alike (.inferring rule) (.returning type)
  | typeRule {rule : ReturnRule} {type : SemanticType} (h : rule [] = .ok type) :
      Alike (.returning type) (.inferring rule)

def amend : Call → Profile → Profile
  | .describe text, p => { p with description := text }
  | .returning type, p => { p with returnType := type }
  | .inferring rule, p => { p with returnType := (rule []).toOption.getD p.returnType }
  | .require name type description, p =>
    { p with fixed := p.fixed ++ [⟨name, description, type, true⟩] }
  | .allow name type description, p =>
    { p with fixed := p.fixed ++ [⟨name, description, type, false⟩] }
  | .takeRest stem type count description, p =>
    { p with variadic := some ⟨stem, description, type, count⟩ }
  | .tag flags, p => { p with flags := flags }
  | .check, p | .build, p => p

def isBuild : Call → Bool
  | .build => true
  | _ => false

theorem isBuild_iff (c : Call) : c.isBuild ↔ c = .build := by cases c <;> simp [isBuild]

theorem Alike.amend_eq {c c' : Call} (h : c.Alike c') : c.amend = c'.amend := by
  funext p
  cases h with
  | refl => rfl
  | rules h => simp only [amend, h]
  | ruleType h | typeRule h => simp [amend, h, Except.toOption]

theorem Alike.isBuild_eq {c c' : Call} (h : c.Alike c') : c.isBuild = c'.isBuild := by
  cases h <;> rfl

end Call

theorem profile_step (b : Builder) (c : Call) :
    (b.step c).1.draft.profile = c.amend b.draft.profile := by
  cases c with
  | inferring rule =>
    cases h : rule [] with
    | ok type =>
      rw [step, Draft.inferring_ok _ h, Call.amend, h]
      rfl
    | error refusal =>
      rw [step, Draft.inferring_error _ h, Call.amend, h]
      rfl
  | check => rw [step]; split <;> rfl
  | build => rw [step]; split <;> rfl
  | _ => rfl

theorem profile_run (b : Builder) (calls : List Call) :
    (b.run calls).1.draft.profile =
      (calls.map Call.amend).foldl (fun p f => f p) b.draft.profile := by
  induction calls generalizing b with
  | nil => rfl
  | cons c calls ih =>
    rw [List.map_cons, List.foldl_cons, ← profile_step]
    exact ih (b.step c).1

theorem profile_declared (name : String) {calls calls' : List Call}
    (h : List.Forall₂ Call.Alike calls calls') :
    (Draft.declared name calls).profile = (Draft.declared name calls').profile := by
  have hrun (cs : List Call) : (Draft.declared name cs).profile =
      (cs.map Call.amend).foldl (fun p f => f p) (Draft.named name).profile := by
    rw [← profile_run ⟨.named name, false, fun _ => .ok ()⟩, run_named]
  have hamend : calls.map Call.amend = calls'.map Call.amend :=
    map_eq_map_of_forall₂ (fun _ _ hc => hc.amend_eq) h
  rw [hrun, hrun, hamend]

theorem infer_nil_declared (name : String) (calls : List Call) :
    (Draft.declared name calls).signature.infer [] =
      .ok (Draft.declared name calls).profile.returnType := by
  have h := represented_run (b := ⟨.named name, false, fun _ => .ok ()⟩) rfl calls
  rwa [run_named] at h

theorem build_of_profile (strict : Bool) (review : Profile → Except Refusal Unit) {d d' : Draft}
    (h : d.profile = d'.profile) :
    (∃ fault, build ⟨d, strict, fun d => review d.profile⟩ = .error fault ∧
        build ⟨d', strict, fun d => review d.profile⟩ = .error fault) ∨
      build ⟨d, strict, fun d => review d.profile⟩ = .ok d.signature ∧
        build ⟨d', strict, fun d => review d.profile⟩ = .ok d'.signature := by
  have hname : d.name = d'.name := congrArg Profile.name h
  have hlayout : d.layout = d'.layout := congrArg Profile.layout h
  have hcheck : check ⟨d, strict, fun d => review d.profile⟩ =
      check ⟨d', strict, fun d => review d.profile⟩ := by
    simp only [check, hname, hlayout, h]
  cases strict with
  | false => exact .inr ⟨rfl, rfl⟩
  | true =>
    cases hc : check ⟨d', true, fun d => review d.profile⟩ with
    | error fault => exact .inl ⟨fault, by simp [build, hcheck, hc, Except.map]⟩
    | ok => exact .inr (by simp [build, hcheck, hc, Except.map])

/-- Runs that differ in rules with one answer on no arguments cannot be told apart by what they
build, unless by calls with arguments. -/
theorem builds_of_alike_runs (name : String) (strict : Bool)
    (review : Profile → Except Refusal Unit) (calls calls' : List Call)
    (h : List.Forall₂ Call.Alike calls calls') (i : Nat) :
    (calls[i]? = some .build ↔ calls'[i]? = some .build) ∧
      (calls[i]? = some .build →
        let outcomes := (run ⟨.named name, strict, fun d => review d.profile⟩ calls).2
        let outcomes' := (run ⟨.named name, strict, fun d => review d.profile⟩ calls').2
        (∃ fault, outcomes[i]? = some (.failed fault) ∧ outcomes'[i]? = some (.failed fault)) ∨
          ∃ s t, outcomes[i]? = some (.built s) ∧ outcomes'[i]? = some (.built t) ∧
            s.Agrees t) := by
  have hkind (cs : List Call) : cs[i]? = some .build ↔ (cs.map Call.isBuild)[i]? = some true := by
    simp [Call.isBuild_iff]
  have hkinds : calls.map Call.isBuild = calls'.map Call.isBuild :=
    map_eq_map_of_forall₂ (fun _ _ hc => hc.isBuild_eq) h
  have hsame : calls[i]? = some .build ↔ calls'[i]? = some .build := by
    rw [hkind, hkind, hkinds]
  refine ⟨hsame, ?_⟩
  intro hi outcomes outcomes'
  have hprofile := profile_declared name (List.forall₂_take i h)
  have hinfer : (Draft.declared name (calls.take i)).signature.infer [] =
      (Draft.declared name (calls'.take i)).signature.infer [] := by
    rw [infer_nil_declared, infer_nil_declared, hprofile]
  simp only [outcomes, outcomes', outcome_getElem?, hi, hsame.mp hi, run_named, Option.map_some,
    step]
  rcases build_of_profile strict review hprofile with ⟨fault, hb, hb'⟩ | ⟨hb, hb'⟩
  · exact .inl ⟨fault, by simp [hb], by simp [hb']⟩
  · exact .inr ⟨_, _, by simp [hb], by simp [hb'], .of_profile hprofile hinfer⟩

/-- A rule that answers on no arguments only, and its type as it stands: a call with an argument
tells the two apart, but it is needed for that. -/
theorem builds_of_rule_and_type :
    ∃ s t : Signature,
      (run (named "f") [.inferring .emptyOnly, .inferring .declining, .build]).2[2]? =
          some (.built s) ∧
        (run (named "f") [.returning .scalar, .inferring .declining, .build]).2[2]? =
          some (.built t) ∧
        s.Agrees t ∧ s.infer [⟨.boolean none true, .any⟩] ≠ t.infer [⟨.boolean none true, .any⟩] := by
  have halike : List.Forall₂ Call.Alike [.inferring .emptyOnly, .inferring .declining, .build]
      [.returning .scalar, .inferring .declining, .build] :=
    .cons (.ruleType rfl) (.cons (.refl _) (.cons (.refl _) .nil))
  have h := (builds_of_alike_runs "f" false (fun _ => .ok ()) _ _ halike 2).2 rfl
  rcases h with ⟨fault, hf, -⟩ | ⟨s, t, hs, ht, hagree⟩
  · cases hf
  · refine ⟨s, t, hs, ht, hagree, ?_⟩
    cases hs
    cases ht
    nofun

end Builder

end FunctionCatalog
