import FunctionCatalog.Builtin.Catalog
import FunctionCatalog.Proofs.RegistryLog
set_option autoImplicit false

namespace FunctionCatalog

namespace Registry

section Contents

theorem find?_filed (groups : Keyed (List Signature)) (s : Signature) (name : String) :
    (filed groups s).find? name =
      if s.name = name then some ((groups.find? name).getD [] ++ [s]) else groups.find? name := by
  unfold filed
  split
  case isTrue h =>
    subst h
    exact groups.find?_alter_self s.name _
  case isFalse h => exact groups.find?_alter_of_ne _ h

/-- Each name has what it had before, with the signatures of that name behind it. -/
theorem find?_foldl_filed (log : List Signature) (groups : Keyed (List Signature))
    (name : String) :
    (log.foldl filed groups).find? name =
      if overloadsIn log name = [] then groups.find? name
      else some ((groups.find? name).getD [] ++ overloadsIn log name) := by
  induction log generalizing groups with
  | nil => rfl
  | cons s log ih =>
    rw [List.foldl_cons, ih, find?_filed]
    by_cases h : s.name = name
    · by_cases hl : overloadsIn log name = [] <;> simp_all [overloadsIn]
    · simp [overloadsIn, h]

theorem keys_foldl_filed (log : List Signature) (groups : Keyed (List Signature)) :
    (log.foldl filed groups).keys =
      groups.keys ++ ((log.map fun s => s.name).filter (· ∉ groups.keys)).eraseDups := by
  induction log generalizing groups with
  | nil => simp
  | cons s log ih =>
    rw [List.foldl_cons, ih, filed, Keyed.keys_alter]
    by_cases h : s.name ∈ groups.keys
    · simp [h]
    · have hrest : ((log.map fun s => s.name).filter (· ∉ groups.keys)).filter (!· == s.name) =
          (log.map fun s => s.name).filter (· ∉ groups.keys ++ [s.name]) := by
        rw [List.filter_filter]
        refine List.filter_congr fun name _ => ?_
        by_cases hn : name = s.name <;> simp [hn]
      rw [if_neg h, List.map_cons, List.filter_cons_of_pos (by simpa using h),
        List.eraseDups_cons, hrest, List.append_assoc, List.singleton_append]

theorem filed_perm (groups : Keyed (List Signature)) (s : Signature) :
    ((filed groups s).flatMap Prod.snd).Perm (groups.flatMap Prod.snd ++ [s]) := by
  induction groups with
  | nil => exact .refl _
  | cons group rest ih =>
    obtain ⟨name, held⟩ := group
    by_cases h : name = s.name
    · have hfiled : filed ((name, held) :: rest) s = (name, held ++ [s]) :: rest := by
        simp [filed, Keyed.alter, h]
      rw [hfiled, List.flatMap_cons, List.flatMap_cons, List.append_assoc, List.append_assoc]
      exact (List.perm_append_comm).append_left held
    · have hfiled : filed ((name, held) :: rest) s = (name, held) :: filed rest s := by
        simp [filed, Keyed.alter, h]
      rw [hfiled, List.flatMap_cons, List.flatMap_cons, List.append_assoc]
      exact ih.append_left held

theorem foldl_filed_perm (log : List Signature) (groups : Keyed (List Signature)) :
    ((log.foldl filed groups).flatMap Prod.snd).Perm (groups.flatMap Prod.snd ++ log) := by
  induction log generalizing groups with
  | nil => simp
  | cons s log ih =>
    have hnext := (ih (filed groups s)).trans ((filed_perm groups s).append_right log)
    rwa [List.append_assoc, List.singleton_append] at hnext

variable (r : Registry) (calls : List Call)

theorem overloads_run (name : String) :
    (r.run calls).1.overloads name =
      if r.contains name ∨ overloadsIn (r.accepted calls) name ≠ [] then
        .ok ((r.groups.find? name).getD [] ++ overloadsIn (r.accepted calls) name)
      else .error (.unknownFunction name) := by
  rw [run_state, overloads, find?_foldl_filed, contains]
  by_cases h : overloadsIn (r.accepted calls) name = []
  · cases hg : r.groups.find? name <;> simp [h]
  · simp [h]

theorem keys_run :
    (r.run calls).1.groups.keys = r.groups.keys ++
      (((r.accepted calls).map fun s => s.name).filter (· ∉ r.groups.keys)).eraseDups := by
  rw [run_state]
  exact keys_foldl_filed _ _

theorem signatures_run_perm :
    (r.run calls).1.signatures.Perm (r.signatures ++ r.accepted calls) := by
  rw [run_state]
  exact foldl_filed_perm _ _

end Contents

section Frozen

variable {r : Registry}

theorem step_of_frozen (h : r.frozen = true) (c : Call) : (r.step c).1 = r := by
  rw [step_state, taken_frozen h, h]
  exact congrArg (Registry.mk r.groups) h.symm

theorem run_of_frozen (h : r.frozen = true) (calls : List Call) :
    r.run calls = (r, calls.map fun c => (r.step c).2) := by
  induction calls with
  | nil => rfl
  | cons c rest ih => rw [run_cons, step_of_frozen h, ih, List.map_cons]

theorem accepted_of_frozen (h : r.frozen = true) (calls : List Call) : r.accepted calls = [] := by
  induction calls with
  | nil => rfl
  | cons c rest ih => rw [accepted, taken_frozen h, step_of_frozen h, ih]; rfl

theorem register_answer_of_frozen (h : r.frozen = true) (s : Signature) :
    (r.step (.register s)).2 = .failed (.frozen s.name) := by
  simp only [step, register_frozen h]

theorem registerAll_answer_of_frozen (h : r.frozen = true) (batch : List Signature) :
    (r.step (.registerAll batch)).2 =
      match batch with
      | [] => .done
      | s :: _ => .failed (.frozen s.name) := by
  cases batch <;> simp [step, registerEach_frozen h]

end Frozen

theorem frozen_run (r : Registry) (calls : List Call) :
    (r.run calls).1.frozen = (r.frozen || calls.any Call.freezes) := by rw [run_state]

theorem answer_freeze (r : Registry) {c : Call} (h : c.asks) :
    (r.freeze.step c).2 = (r.step c).2 := by
  cases c with
  | register | registerAll | freeze => simp [Call.asks] at h
  | overloads name =>
    have he : r.freeze.overloads name = r.overloads name := rfl
    simp only [step, he]
    split <;> rfl
  | _ => rfl

section Open

variable {r : Registry}

theorem frozen_step_of_open (h : r.frozen = false) {c : Call} (hc : c.freezes = false) :
    (r.step c).1.frozen = false := by
  rw [step_state]
  simp [h, hc]

theorem accepted_of_open (h : r.frozen = false) (calls : List Call) :
    r.accepted calls = (calls.takeWhile fun c => !c.freezes).flatMap Call.offered := by
  induction calls generalizing r with
  | nil => rfl
  | cons c rest ih =>
    rw [accepted, taken_open h]
    cases hc : c.freezes with
    | false => simp [hc, ih (frozen_step_of_open h hc)]
    | true =>
      have hf : (r.step c).1.frozen = true := by rw [step_state]; simp [hc]
      cases c with
      | freeze => simp [hc, accepted_of_frozen hf, Call.offered]
      | _ => simp [Call.freezes] at hc

theorem accepted_register (h : r.frozen = false) (batch : List Signature) :
    r.accepted (batch.map .register) = batch := by
  rw [accepted_of_open h]
  induction batch with
  | nil => rfl
  | cons s rest ih => simpa [Call.freezes, Call.offered] using ih

theorem answers_register (h : r.frozen = false) (batch : List Signature) :
    (r.run (batch.map .register)).2 = batch.map .registered := by
  induction batch generalizing r with
  | nil => rfl
  | cons s rest ih =>
    have hs : r.step (.register s) = ({ r with groups := filed r.groups s }, .registered s) := by
      simp only [step, register_open h]
    rw [List.map_cons, run_cons, hs]
    exact congrArg (Answer.registered s :: ·) (ih h)

theorem any_freezes_register (batch : List Signature) :
    (batch.map Call.register).any Call.freezes = false := by
  simp [Call.freezes]

theorem step_registerAll (h : r.frozen = false) (batch : List Signature) :
    r.step (.registerAll batch) = ((r.run (batch.map .register)).1, .done) := by
  rw [run_state, accepted_register h, any_freezes_register, Bool.or_false]
  simp only [step, registerEach_open h]

theorem registerAll_append (h : r.frozen = false) (batch more : List Signature) :
    r.run [.registerAll batch, .registerAll more] =
      ((r.run [.registerAll (batch ++ more)]).1, [.done, .done]) := by
  have hnext : (r.step (.registerAll batch)).1.frozen = false := frozen_step_of_open h rfl
  have hb := step_registerAll h batch
  simp only [run, step_registerAll h (batch ++ more), List.map_append, run_append]
  rw [hb] at hnext ⊢
  simp only [step_registerAll hnext more]

end Open

theorem frozen_builtin : builtin.frozen = true := rfl

/-- The first freeze divides a run in two. Before it all that is offered is accepted, and batches
may be cut as one likes; from then on nothing changes and every offer is refused by name. What is
accepted stands under its name behind what was there before, and a new name behind the known
ones. -/
theorem freeze_is_final (r : Registry) :
    (∀ calls, r.accepted calls =
        if r.frozen then [] else (calls.takeWhile fun c => !c.freezes).flatMap Call.offered) ∧
    (∀ calls,
      (∀ name, (r.run calls).1.overloads name =
        if r.contains name ∨ overloadsIn (r.accepted calls) name ≠ [] then
          .ok ((r.groups.find? name).getD [] ++ overloadsIn (r.accepted calls) name)
        else .error (.unknownFunction name)) ∧
      (r.run calls).1.groups.keys = r.groups.keys ++
        (((r.accepted calls).map fun s => s.name).filter (· ∉ r.groups.keys)).eraseDups ∧
      (r.run calls).1.signatures.Perm (r.signatures ++ r.accepted calls)) ∧
    (∀ calls, (r.run calls).1.frozen = (r.frozen || calls.any Call.freezes)) ∧
    (∀ before, (r.run before).1.frozen = false → ∀ batch more,
      (r.run before).1.step (.registerAll batch) =
          (((r.run before).1.run (batch.map .register)).1, .done) ∧
        ((r.run before).1.run (batch.map .register)).2 = batch.map .registered ∧
        (r.run before).1.run [.registerAll batch, .registerAll more] =
          (((r.run before).1.run [.registerAll (batch ++ more)]).1, [.done, .done])) ∧
    (∀ before, (r.run before).1.frozen = true →
      (∀ after, (r.run before).1.run after =
          ((r.run before).1, after.map fun c => ((r.run before).1.step c).2)) ∧
        (∀ s, ((r.run before).1.step (.register s)).2 = .failed (.frozen s.name)) ∧
        ∀ batch, ((r.run before).1.step (.registerAll batch)).2 =
          match batch with
          | [] => .done
          | s :: _ => .failed (.frozen s.name)) ∧
    (∀ c : Call, c.asks → (r.freeze.step c).2 = (r.step c).2) ∧
    ∀ calls, (builtin.run calls).1.signatures = builtin.signatures := by
  refine ⟨?_, fun calls => ⟨overloads_run r calls, keys_run r calls, signatures_run_perm r calls⟩,
    frozen_run r, ?_, ?_, fun _ => answer_freeze r, ?_⟩
  · intro calls
    cases h : r.frozen with
    | false => simpa using accepted_of_open h calls
    | true => simpa using accepted_of_frozen h calls
  · intro before h batch more
    exact ⟨step_registerAll h batch, answers_register h batch, registerAll_append h batch more⟩
  · intro before h
    exact ⟨run_of_frozen h, register_answer_of_frozen h, registerAll_answer_of_frozen h⟩
  · intro calls
    rw [run_of_frozen frozen_builtin]

/-- A signature that came before the freeze is kept, and a batch after it is refused as a whole. -/
theorem freeze_refuses_batch :
    (empty.run [.register (Draft.named "f").signature, .freeze]).1.frozen = true ∧
      ((empty.run [.register (Draft.named "f").signature, .freeze]).1.step
        (.registerAll [(Draft.named "g").signature, (Draft.named "f").signature])).2 =
          .failed (.frozen "g") :=
  ⟨rfl, ((freeze_is_final empty).2.2.2.2.1 [.register (Draft.named "f").signature, .freeze]
    rfl).2.2 [(Draft.named "g").signature, (Draft.named "f").signature]⟩

end Registry

end FunctionCatalog
