import FunctionCatalog.Builder
set_option autoImplicit false

/-!
What a builder holds after a sequence of calls, read off the sequence alone. Fixed parameters add
up in the order of the calls, and of every other part the last call that set it counts; a rule that
declines on no arguments has set nothing. Every signature that is built is that of the calls before
it, and its rule gives its result type for no arguments.
-/

namespace FunctionCatalog

/-- What the last element gives, among those that give something. -/
def lastOf {α β : Type} (f : α → Option β) (xs : List α) : Option β := (xs.filterMap f).getLast?

@[simp] theorem lastOf_nil {α β : Type} (f : α → Option β) : lastOf f [] = none := rfl

theorem lastOf_append {α β : Type} (f : α → Option β) (xs ys : List α) :
    lastOf f (xs ++ ys) = (lastOf f ys).or (lastOf f xs) := by
  rw [lastOf, List.filterMap_append, List.getLast?_append, lastOf, lastOf]

@[simp] theorem lastOf_singleton {α β : Type} (f : α → Option β) (x : α) : lastOf f [x] = f x := by
  cases h : f x <;> simp [lastOf, h]

theorem lastOf_cons {α β : Type} (f : α → Option β) (x : α) (xs : List α) :
    lastOf f (x :: xs) = (lastOf f xs).or (f x) := by
  rw [← List.singleton_append, lastOf_append, lastOf_singleton]

theorem lastOf_map_eq_none {α β γ : Type} {f : α → Option β} {g : γ → α}
    (h : ∀ y, f (g y) = none) (ys : List γ) : lastOf f (ys.map g) = none := by
  induction ys with
  | nil => rfl
  | cons y ys ih => rw [List.map_cons, lastOf_cons, ih, h y]; rfl

theorem exists_of_lastOf {α β : Type} {f : α → Option β} {xs : List α} {y : β}
    (h : lastOf f xs = some y) : ∃ x ∈ xs, f x = some y :=
  List.mem_filterMap.mp (List.mem_of_getLast? h)

theorem Draft.inferring_ok {rule : ReturnRule} {type : SemanticType} (d : Draft)
    (h : rule [] = .ok type) :
    d.inferring rule = .ok { d with returnType := type, rule := rule } := by
  rw [inferring, h]; rfl

theorem Draft.inferring_error {rule : ReturnRule} {refusal : Refusal} (d : Draft)
    (h : rule [] = .error refusal) : d.inferring rule = .error refusal := by
  rw [inferring, h]; rfl

namespace Builder

namespace Call

@[simp] def description? : Call → Option String
  | .describe text => some text
  | _ => none

@[simp] def result? : Call → Option (SemanticType × ReturnRule)
  | .returning type => some (type, .constant type)
  | .inferring rule => (rule []).toOption.map fun type => (type, rule)
  | _ => none

@[simp] def fixed? : Call → Option FixedParameter
  | .require name type description => some ⟨name, description, type, true⟩
  | .allow name type description => some ⟨name, description, type, false⟩
  | _ => none

@[simp] def variadic? : Call → Option VariadicParameter
  | .takeRest stem type count description => some ⟨stem, description, type, count⟩
  | _ => none

@[simp] def flags? : Call → Option Flags
  | .tag flags => some flags
  | _ => none

end Call

theorem outcome_getElem? (b : Builder) (calls : List Call) (i : Nat) :
    (b.run calls).2[i]? = calls[i]?.map fun c => ((b.run (calls.take i)).1.step c).2 := by
  induction calls generalizing b i with
  | nil => rfl
  | cons c calls ih =>
    cases i with
    | zero => rfl
    | succ i => simpa [run] using ih (b.step c).1 i

theorem outcome_at (b : Builder) (before : List Call) (c : Call) (after : List Call) :
    (b.run (before ++ c :: after)).2[before.length]? = some ((b.run before).1.step c).2 := by
  simp [outcome_getElem?]

theorem mem_outcomes_iff {b : Builder} {calls : List Call} {o : Outcome} :
    o ∈ (b.run calls).2 ↔
      ∃ before c after, calls = before ++ c :: after ∧ ((b.run before).1.step c).2 = o := by
  constructor
  · intro h
    induction calls generalizing b with
    | nil => simp [run] at h
    | cons d calls ih =>
      rcases List.mem_cons.mp (by simpa [run] using h) with rfl | h
      · exact ⟨[], d, calls, rfl, rfl⟩
      · obtain ⟨before, c, after, rfl, ho⟩ := ih h
        exact ⟨d :: before, c, after, rfl, by simpa [run] using ho⟩
  · rintro ⟨before, c, after, rfl, rfl⟩
    exact List.mem_of_getElem? (outcome_at b before c after)

theorem build_eq_ok_iff {b : Builder} {s : Signature} :
    b.build = .ok s ↔ s = b.draft.signature ∧ (b.strict → b.check = .ok ()) := by
  cases hs : b.strict with
  | false => simp [build, hs, eq_comm]
  | true => cases hc : b.check <;> simp [build, hs, hc, Except.map, eq_comm]

theorem outcome_eq_built_iff {b : Builder} {c : Call} {s : Signature} :
    (b.step c).2 = .built s ↔ c = .build ∧ b.build = .ok s := by
  cases c with
  | build => cases h : b.build <;> simp [step, h]
  | inferring rule => cases h : b.draft.inferring rule <;> simp [step, configure, h]
  | check => cases h : b.check <;> simp [step, h]
  | _ => simp [step, configure]

theorem built_mem_iff {b : Builder} {calls : List Call} {s : Signature} :
    .built s ∈ (b.run calls).2 ↔
      ∃ before after, calls = before ++ .build :: after ∧ (b.run before).1.build = .ok s := by
  rw [mem_outcomes_iff]
  constructor
  · rintro ⟨before, c, after, h, ho⟩
    obtain ⟨rfl, hs⟩ := outcome_eq_built_iff.mp ho
    exact ⟨before, after, h, hs⟩
  · rintro ⟨before, after, h, hs⟩
    exact ⟨before, .build, after, h, outcome_eq_built_iff.mpr ⟨rfl, hs⟩⟩

end Builder

def ReturnRule.emptyOnly : ReturnRule := fun args =>
  if args.isEmpty then .ok .scalar else .error (.reason "undecided" "too many arguments")

def ReturnRule.declining : ReturnRule := fun _ => .error (.reason "undecided" "no type")

open Builder (Call)

/-- The draft of a function after some calls, one part at a time. -/
def Draft.declared (name : String) (calls : List Call) : Draft :=
  let result := (lastOf Call.result? calls).getD (.any, .constant .any)
  { name := name
    description := (lastOf Call.description? calls).getD ""
    returnType := result.1
    rule := result.2
    fixed := calls.filterMap Call.fixed?
    variadic := lastOf Call.variadic? calls
    flags := (lastOf Call.flags? calls).getD .none }

namespace Builder

variable {name : String} {strict : Bool} {review : Draft → Except Refusal Unit}

theorem step_declared (done : List Call) (c : Call) :
    (step ⟨.declared name done, strict, review⟩ c).1 =
      ⟨.declared name (done ++ [c]), strict, review⟩ := by
  simp only [Draft.declared, lastOf_append, lastOf_singleton, List.filterMap_append]
  cases c with
  | inferring rule =>
    cases h : rule [] with
    | ok type => simp [step, Draft.inferring_ok _ h, configure, h, Except.toOption]
    | error refusal => simp [step, Draft.inferring_error _ h, h, Except.toOption]
  | check =>
    simp only [step]
    split <;> simp
  | build =>
    simp only [step]
    split <;> simp
  | _ =>
    simp [step, configure, Draft.describe, Draft.returning, Draft.require, Draft.allow,
      Draft.takeRest, Draft.tag]

theorem run_declared (done calls : List Call) :
    (run ⟨.declared name done, strict, review⟩ calls).1 =
      ⟨.declared name (done ++ calls), strict, review⟩ := by
  induction calls generalizing done with
  | nil => simp [run]
  | cons c calls ih =>
    simp only [run]
    rw [step_declared, ih, List.append_assoc, List.singleton_append]

theorem run_named (calls : List Call) :
    (run ⟨.named name, strict, review⟩ calls).1 = ⟨.declared name calls, strict, review⟩ :=
  run_declared [] calls

end Builder

/-- The result type stands for the rule: it is the answer on no arguments. -/
def Draft.Represented (d : Draft) : Prop := d.rule [] = .ok d.returnType

namespace Builder

variable {b : Builder}

theorem represented_step (h : b.draft.Represented) (c : Call) :
    (b.step c).1.draft.Represented := by
  cases c with
  | returning type => exact rfl
  | inferring rule =>
    cases hr : rule [] with
    | ok type =>
      rw [step, Draft.inferring_ok _ hr]
      exact hr
    | error refusal =>
      rw [step, Draft.inferring_error _ hr]
      exact h
  | check => rw [step]; split <;> exact h
  | build => rw [step]; split <;> exact h
  | _ => exact h

theorem represented_run (h : b.draft.Represented) (calls : List Call) :
    (b.run calls).1.draft.Represented := by
  induction calls generalizing b with
  | nil => exact h
  | cons c calls ih => exact ih (represented_step h c)

theorem represented_of_built {calls : List Call} {s : Signature} (h : b.draft.Represented)
    (hs : .built s ∈ (b.run calls).2) : s.rule [] = .ok s.returnType := by
  obtain ⟨before, after, -, hbuild⟩ := built_mem_iff.mp hs
  obtain ⟨rfl, -⟩ := build_eq_ok_iff.mp hbuild
  exact represented_run h before

/-- Whatever was called, and whatever failed, a builder and the signatures it gave agree with
their rules on no arguments. -/
theorem infer_nil_of_run (name : String) (strict : Bool) (review : Draft → Except Refusal Unit)
    (calls : List Call) :
    (run ⟨.named name, strict, review⟩ calls).1.draft.rule [] =
        .ok (run ⟨.named name, strict, review⟩ calls).1.draft.returnType ∧
      ∀ s, .built s ∈ (run ⟨.named name, strict, review⟩ calls).2 →
        s.infer [] = .ok s.returnType := by
  have start : Draft.Represented (.named name) := rfl
  exact ⟨represented_run start calls, fun s hs => represented_of_built start hs⟩

theorem infer_nil_of_declined_rule :
    ∃ s, .built s ∈ (run (named "f") [.inferring .emptyOnly, .inferring .declining, .build]).2 ∧
      s.rule = .emptyOnly ∧ s.infer [] = .ok s.returnType := by
  have hmem : .built (Draft.declared "f" [.inferring .emptyOnly]).signature ∈
      (run (named "f") [.inferring .emptyOnly, .inferring .declining, .build]).2  :=
    List.mem_of_getElem? (i := 2) rfl
  exact ⟨_, hmem, rfl, (infer_nil_of_run "f" false (fun _ => .ok ()) _).2 _ hmem⟩

end Builder

end FunctionCatalog
