import FunctionCatalog.Draft
import FunctionCatalog.Registry
import Mathlib.Data.Finset.Card
set_option autoImplicit false

/-!
A registry set against the plain list of the signatures that it took. After any calls its groups
are that list sorted under the names, a name standing where it first occurs, and every answer is
read off the list alone. What only asks leaves no trace.
-/

namespace FunctionCatalog

theorem eraseDups_concat {α : Type} [DecidableEq α] (xs : List α) (x : α) :
    (xs ++ [x]).eraseDups = if x ∈ xs then xs.eraseDups else xs.eraseDups ++ [x] := by
  rw [List.eraseDups_append]
  split <;> simp [List.removeAll, List.eraseDups_cons, *]

theorem nodup_eraseDups {α : Type} [DecidableEq α] (xs : List α) : xs.eraseDups.Nodup := by
  induction xs using List.reverseRecOn with
  | nil => simp
  | append_singleton xs x ih =>
    rw [eraseDups_concat]
    split
    · exact ih
    · rename_i h
      simp only [List.nodup_append, List.mem_eraseDups]
      refine ⟨ih, List.nodup_singleton x, ?_⟩
      rintro y hy _ hx rfl
      exact h (List.mem_singleton.mp hx ▸ hy)

namespace Keyed

variable {α : Type}

theorem find?_map (keys : List String) (f : String → α) (key : String) :
    find? (keys.map fun k => (k, f k)) key = if key ∈ keys then some (f key) else none := by
  induction keys with
  | nil => simp [find?]
  | cons k keys ih =>
    by_cases h : k = key
    · subst h; simp [find?]
    · have h' : ¬ key = k := fun e => h e.symm
      simp [find?, h, h', ih]

theorem alter_map_of_mem {keys : List String} {key : String} (f : String → α)
    (g : Option α → α) (nodup : keys.Nodup) (h : key ∈ keys) :
    alter key g (keys.map fun k => (k, f k)) =
      keys.map fun k => (k, if k = key then g (some (f k)) else f k) := by
  induction keys with
  | nil => simp at h
  | cons k keys ih =>
    obtain ⟨hk, nodup⟩ := List.nodup_cons.mp nodup
    by_cases e : k = key
    · subst e
      have same : ∀ j ∈ keys, (if j = k then g (some (f j)) else f j) = f j := by
        intro j hj
        rw [if_neg]
        rintro rfl
        exact hk hj
      simp only [alter, List.map_cons, if_true]
      congr 1
      exact List.map_congr_left fun j hj => by rw [same j hj]
    · have hmem : key ∈ keys := by
        rcases List.mem_cons.mp h with rfl | h
        · exact absurd rfl e
        · exact h
      simp [alter, e, ih nodup hmem]

theorem keys_map (names : List String) (f : String → α) :
    keys (names.map fun name => (name, f name)) = names := by
  simp [keys, Function.comp_def]

end Keyed

namespace Registry

namespace Call

def offered : Call → List Signature
  | .register s => [s]
  | .registerAll batch => batch
  | _ => []

def freezes : Call → Bool
  | .freeze => true
  | _ => false

def asks : Call → Bool
  | .register _ | .registerAll _ | .freeze => false
  | _ => true

end Call

/-- The signatures of a batch that are taken before one is refused. -/
def taken (r : Registry) : List Signature → List Signature
  | [] => []
  | s :: rest =>
    match r.register s with
    | .ok next => s :: next.taken rest
    | .error _ => []

/-- The signatures that a registry takes in the course of some calls, in order of registration. -/
def accepted (r : Registry) : List Call → List Signature
  | [] => []
  | c :: rest => r.taken c.offered ++ (r.step c).1.accepted rest

/-- Groups with one more signature, behind those of its name. -/
def filed (groups : Keyed (List Signature)) (s : Signature) : Keyed (List Signature) :=
  groups.alter s.name fun old => old.getD [] ++ [s]

section Step

variable {r : Registry}

theorem register_open (h : r.frozen = false) (s : Signature) :
    r.register s = .ok { r with groups := filed r.groups s } := by
  simp [register, h, filed]

theorem register_frozen (h : r.frozen = true) (s : Signature) :
    r.register s = .error (.frozen s.name) := by
  simp [register, h]

theorem registerEach_open (h : r.frozen = false) (batch : List Signature) :
    r.registerEach batch = ({ r with groups := batch.foldl filed r.groups }, none) := by
  induction batch generalizing r with
  | nil => rfl
  | cons s rest ih => rw [registerEach, register_open h]; exact ih h

theorem registerEach_frozen (h : r.frozen = true) (batch : List Signature) :
    r.registerEach batch = (r, batch.head?.map fun s => .frozen s.name) := by
  cases batch with
  | nil => rfl
  | cons s rest => rw [registerEach, register_frozen h]; rfl

theorem taken_open (h : r.frozen = false) (batch : List Signature) : r.taken batch = batch := by
  induction batch generalizing r with
  | nil => rfl
  | cons s rest ih => rw [taken, register_open h]; exact congrArg (s :: ·) (ih h)

theorem taken_frozen (h : r.frozen = true) (batch : List Signature) : r.taken batch = [] := by
  cases batch with
  | nil => rfl
  | cons s rest => rw [taken, register_frozen h]

end Step

/-- All that a call can do to a registry. -/
theorem step_state (r : Registry) (c : Call) :
    (r.step c).1 = ⟨(r.taken c.offered).foldl filed r.groups, r.frozen || c.freezes⟩ := by
  cases h : r.frozen with
  | false =>
    rw [taken_open h]
    cases c with
    | register s => simp [step, register_open h, Call.offered, Call.freezes, h]
    | registerAll batch => simp [step, registerEach_open h, Call.offered, Call.freezes, h]
    | overloads name => simp only [step]; split <;> simp [Call.offered, Call.freezes, ← h]
    | freeze => simp [step, freeze, Call.offered, Call.freezes]
    | _ => simp [step, Call.offered, Call.freezes, ← h]
  | true =>
    rw [taken_frozen h, Bool.true_or, List.foldl_nil]
    cases c with
    | register s => simp [step, register_frozen h, ← h]
    | registerAll batch => cases batch <;> simp [step, registerEach_frozen h, ← h]
    | overloads name => simp only [step]; split <;> simp [← h]
    | freeze => simp [step, freeze]
    | _ => simp [step, ← h]

theorem step_of_asks (r : Registry) {c : Call} (h : c.asks) : (r.step c).1 = r := by
  rw [step_state]
  cases c with
  | register | registerAll | freeze => simp [Call.asks] at h
  | _ => simp [Call.offered, Call.freezes, taken]

theorem run_cons (r : Registry) (c : Call) (rest : List Call) :
    r.run (c :: rest) =
      (((r.step c).1.run rest).1, (r.step c).2 :: ((r.step c).1.run rest).2) := rfl

theorem run_state (r : Registry) (calls : List Call) :
    (r.run calls).1 =
      ⟨(r.accepted calls).foldl filed r.groups, r.frozen || calls.any Call.freezes⟩ := by
  induction calls generalizing r with
  | nil => simp [run, accepted]
  | cons c rest ih =>
    rw [run_cons, accepted, ih, step_state, List.foldl_append, List.any_cons, Bool.or_assoc]

theorem run_append (r : Registry) (before after : List Call) :
    r.run (before ++ after) =
      (((r.run before).1.run after).1, (r.run before).2 ++ ((r.run before).1.run after).2) := by
  induction before generalizing r with
  | nil => rfl
  | cons c before ih => simp [run_cons, ih]

theorem length_answers (r : Registry) (calls : List Call) :
    (r.run calls).2.length = calls.length := by
  induction calls generalizing r with
  | nil => rfl
  | cons c rest ih => simp [run_cons, ih]

theorem answer_at (r : Registry) (before : List Call) (c : Call) (after : List Call) :
    (r.run (before ++ c :: after)).2[before.length]? = some ((r.run before).1.step c).2 := by
  rw [run_append, List.getElem?_append_right (length_answers r before).le, length_answers]
  simp [run_cons]

theorem run_without_asking (r : Registry) (before : List Call) {c : Call} (h : c.asks)
    (after : List Call) :
    (r.run (before ++ after)).1 = (r.run (before ++ c :: after)).1 ∧
      (r.run (before ++ after)).2 = (r.run (before ++ c :: after)).2.eraseIdx before.length := by
  simp only [run_append, run_cons, step_of_asks _ h, true_and]
  rw [← length_answers r before, List.eraseIdx_append_of_length_le (Nat.le_refl _)]
  simp

def overloadsIn (log : List Signature) (name : String) : List Signature :=
  log.filter fun s => s.name = name

/-- A list of signatures under their names, a name standing where it first occurs. -/
def grouped (log : List Signature) : Keyed (List Signature) :=
  (log.map fun s => s.name).eraseDups.map fun name => (name, overloadsIn log name)

theorem overloadsIn_eq_nil_iff (log : List Signature) (name : String) :
    overloadsIn log name = [] ↔ name ∉ log.map fun s => s.name := by
  simp [overloadsIn]

theorem filed_grouped (log : List Signature) (s : Signature) :
    filed (grouped log) s = grouped (log ++ [s]) := by
  have hcons (name : String) : overloadsIn (log ++ [s]) name =
      if name = s.name then overloadsIn log name ++ [s] else overloadsIn log name := by
    by_cases h : s.name = name
    · simp [overloadsIn, h]
    · simp [overloadsIn, h, Ne.symm h]
  simp only [filed, grouped, List.map_append, List.map_singleton, eraseDups_concat, hcons]
  by_cases h : s.name ∈ log.map fun s => s.name
  · rw [if_pos h, Keyed.alter_map_of_mem _ _ (nodup_eraseDups _) (List.mem_eraseDups.mpr h)]
    refine List.map_congr_left fun name _ => ?_
    by_cases e : name = s.name <;> simp [e]
  · rw [if_neg h, Keyed.alter_of_not_mem _ (by simpa only [Keyed.keys_map, List.mem_eraseDups]),
      List.map_append]
    congr 1
    · refine List.map_congr_left fun name hname => ?_
      have e : name ≠ s.name := by
        rintro rfl
        exact h (List.mem_eraseDups.mp hname)
      simp [e]
    · simp [(overloadsIn_eq_nil_iff log s.name).mpr h]

theorem foldl_filed (log more : List Signature) :
    more.foldl filed (grouped log) = grouped (log ++ more) := by
  induction more generalizing log with
  | nil => simp
  | cons s more ih =>
    rw [List.foldl_cons, filed_grouped, ih, List.append_assoc, List.singleton_append]

theorem groups_run (calls : List Call) :
    (empty.run calls).1.groups = grouped (empty.accepted calls) := by
  rw [run_state]
  exact foldl_filed [] _

section Views

variable {r : Registry} {log : List Signature}

theorem find?_grouped (log : List Signature) (name : String) :
    Keyed.find? (grouped log) name =
      if overloadsIn log name = [] then none else some (overloadsIn log name) := by
  simp only [grouped, Keyed.find?_map, List.mem_eraseDups, overloadsIn_eq_nil_iff]
  by_cases h : name ∈ log.map fun s => s.name
  · simp only [h, not_true, if_true, if_false]
  · simp only [h, not_false_eq_true, if_true, if_false]

theorem overloads_grouped (h : r.groups = grouped log) (name : String) :
    r.overloads name = if overloadsIn log name = [] then .error (.unknownFunction name)
      else .ok (overloadsIn log name) := by
  rw [overloads, h, find?_grouped]
  by_cases e : overloadsIn log name = [] <;> simp [e]

theorem contains_grouped (h : r.groups = grouped log) (name : String) :
    r.contains name = decide (overloadsIn log name ≠ []) := by
  rw [contains, h, find?_grouped]
  split <;> simp [*]

theorem size_grouped (h : r.groups = grouped log) :
    r.size = (log.map fun s => s.name).toFinset.card := by
  rw [size, h, grouped, List.length_map, ← List.toFinset_card_of_nodup (nodup_eraseDups _)]
  congr 1
  ext name
  simp

theorem mem_names_grouped (h : r.groups = grouped log) (name : String) :
    name ∈ r.names ↔ name ∈ log.map fun s => s.name := by
  simp [names, h, grouped, Keyed.keys_map]

theorem names_increasing (h : r.groups = grouped log) : r.names.Pairwise (· < ·) := by
  have sorted : r.names.Pairwise (· ≤ ·) := by
    refine (List.pairwise_mergeSort ?_ ?_ _).imp of_decide_eq_true
    · simpa using fun _ _ _ => String.le_trans
    · simpa using String.le_total
  have nodup : r.names.Nodup := by
    rw [names, (List.mergeSort_perm _ _).nodup_iff, h, grouped, Keyed.keys_map]
    exact nodup_eraseDups _
  exact sorted.imp₂ (fun _ _ => Std.lt_of_le_of_ne) nodup

end Views

/-- Every answer about names is read off the signatures accepted before, and asking changes no
other answer. -/
theorem answers_of_log (before after : List Call) :
    let log := empty.accepted before
    let answer (c : Call) := (empty.run (before ++ c :: after)).2[before.length]?
    (∀ name, answer (.overloads name) =
      some (if overloadsIn log name = [] then .failed (.unknownFunction name)
        else .listed (overloadsIn log name))) ∧
    (∀ name, answer (.contains name) = some (.found (decide (overloadsIn log name ≠ [])))) ∧
    answer .size = some (.counted (log.map fun s => s.name).toFinset.card) ∧
    (∃ names, answer .names = some (.named names) ∧ names.Pairwise (· < ·) ∧
      ∀ name, name ∈ names ↔ name ∈ log.map fun s => s.name) ∧
    ∀ c : Call, c.asks →
      (empty.run (before ++ after)).2 =
        (empty.run (before ++ c :: after)).2.eraseIdx before.length := by
  have h := groups_run before
  simp only [answer_at]
  refine ⟨?_, ?_, ?_, ?_, ?_⟩
  · intro name
    simp only [step, overloads_grouped h]
    split <;> split <;> simp_all
  · intro name
    simp only [step, contains_grouped h]
  · simp only [step, size_grouped h]
  · exact ⟨_, rfl, names_increasing h, mem_names_grouped h⟩
  · intro c hc
    exact (run_without_asking empty before hc after).2

theorem unknown_name_leaves_no_trace :
    (Call.overloads "g").asks ∧
      (empty.run [.register (Draft.named "f").signature, .freeze, .names]).2 =
        (empty.run [.register (Draft.named "f").signature, .freeze, .overloads "g",
          .names]).2.eraseIdx 2 :=
  ⟨rfl, (answers_of_log [.register (Draft.named "f").signature, .freeze] [.names]).2.2.2.2
    (.overloads "g") rfl⟩

end Registry

end FunctionCatalog
