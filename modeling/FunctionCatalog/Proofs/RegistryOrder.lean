import FunctionCatalog.Proofs.RegistryLog
import Mathlib.Data.List.Perm.Basic
set_option autoImplicit false

namespace FunctionCatalog

namespace Registry

/-- A list of signatures with those of one name side by side. -/
def regrouped (log : List Signature) : List Signature :=
  (log.map fun s => s.name).eraseDups.flatMap (overloadsIn log)

theorem flatMap_grouped (log : List Signature) :
    (grouped log).flatMap Prod.snd = regrouped log := by
  rw [grouped, List.flatMap_map, regrouped]

/-- No two signatures of one name have one of another name between them. -/
def Unbroken (log : List Signature) : Prop :=
  ∀ s t u : Signature, [s, t, u].Sublist log → s.name = u.name → t.name = s.name

theorem Unbroken.sublist {log part : List Signature} (h : Unbroken log) (hp : part.Sublist log) :
    Unbroken part := fun s t u hs => h s t u (hs.trans hp)

def othersIn (log : List Signature) (name : String) : List Signature :=
  log.filter fun s => !decide (s.name = name)

theorem length_othersIn_le (log : List Signature) (name : String) :
    (othersIn log name).length ≤ log.length := List.length_filter_le _ _

theorem regrouped_cons (s : Signature) (log : List Signature) :
    regrouped (s :: log) =
      s :: (overloadsIn log s.name ++ regrouped (othersIn log s.name)) := by
  have rest : ∀ name ∈ ((othersIn log s.name).map fun s => s.name).eraseDups,
      overloadsIn (s :: log) name = overloadsIn (othersIn log s.name) name := by
    intro name hname
    obtain ⟨t, ht, rfl⟩ := List.mem_map.mp (List.mem_eraseDups.mp hname)
    have hne : t.name ≠ s.name := by simpa using (List.mem_filter.mp ht).2
    rw [overloadsIn, List.filter_cons_of_neg (by simpa using Ne.symm hne), overloadsIn, othersIn,
      List.filter_filter]
    refine List.filter_congr fun u _ => ?_
    by_cases hu : u.name = t.name <;> simp [hu, hne]
  have names : (log.map fun s => s.name).filter (fun name => !name == s.name) =
      (othersIn log s.name).map fun s => s.name := by
    simp [othersIn, List.filter_map, Function.comp_def, beq_eq_decide]
  rw [regrouped, List.map_cons, List.eraseDups_cons, List.flatMap_cons, names, regrouped,
    List.flatMap_congr rest]
  simp [overloadsIn]

theorem induction_by_name {P : List Signature → Prop} (nil : P [])
    (cons : ∀ s log, P (othersIn log s.name) → P (s :: log)) (log : List Signature) : P log :=
  match log with
  | [] => nil
  | s :: log => cons s log (induction_by_name nil cons (othersIn log s.name))
termination_by log.length
decreasing_by
  have := length_othersIn_le log s.name
  simp only [List.length_cons]
  omega

theorem regrouped_perm (log : List Signature) : (regrouped log).Perm log := by
  induction log using induction_by_name with
  | nil => exact .nil
  | cons s log ih =>
    rw [regrouped_cons]
    exact ((ih.append_left _).trans (List.filter_append_perm _ _)).cons s

theorem mem_regrouped {s : Signature} {log : List Signature} : s ∈ regrouped log ↔ s ∈ log :=
  (regrouped_perm log).mem_iff

theorem unbroken_append {name : String} {group rest : List Signature}
    (hg : ∀ s ∈ group, s.name = name) (hr : ∀ s ∈ rest, s.name ≠ name) (h : Unbroken rest) :
    Unbroken (group ++ rest) := by
  intro s t u hsub hsu
  obtain ⟨left, right, heq, hl, hrt⟩ := List.sublist_append_iff.mp hsub
  -- Of the three, none, only the first or the first two at least lie in the group.
  match left, heq with
  | [], heq =>
    rw [← heq.trans (List.nil_append right)] at hrt
    exact h s t u hrt hsu
  | [a], heq =>
    simp only [List.cons_append, List.nil_append, List.cons.injEq] at heq
    obtain ⟨rfl, rfl⟩ := heq
    exact absurd (hsu.symm.trans (hg s (hl.subset (by simp)))) (hr u (hrt.subset (by simp)))
  | a :: b :: more, heq =>
    simp only [List.cons_append, List.cons.injEq] at heq
    obtain ⟨rfl, rfl, -⟩ := heq
    rw [hg t (hl.subset (by simp)), hg s (hl.subset (by simp))]

theorem unbroken_regrouped (log : List Signature) : Unbroken (regrouped log) := by
  induction log using induction_by_name with
  | nil => exact fun s t u h => by simp [regrouped] at h
  | cons s log ih =>
    rw [regrouped_cons, ← List.cons_append]
    have own : ∀ t ∈ s :: overloadsIn log s.name, t.name = s.name := by simp [overloadsIn]
    have others : ∀ t ∈ regrouped (othersIn log s.name), t.name ≠ s.name := by
      intro t ht
      simpa using (List.mem_filter.mp (mem_regrouped.mp ht)).2
    exact unbroken_append own others ih

theorem Unbroken.append_others {s : Signature} {log : List Signature}
    (h : Unbroken (s :: log)) : overloadsIn log s.name ++ othersIn log s.name = log := by
  induction log with
  | nil => rfl
  | cons t log ih =>
    by_cases ht : t.name = s.name
    · have hs : Unbroken (s :: log) := h.sublist ((List.sublist_cons_self t log).cons_cons s)
      have := ih hs
      simp only [overloadsIn, othersIn] at this
      simp [overloadsIn, othersIn, ht, this]
    · have others : ∀ u ∈ log, u.name ≠ s.name := by
        intro u hu hne
        have hsub : [s, t, u].Sublist (s :: t :: log) :=
          ((List.singleton_sublist.mpr hu).cons_cons t).cons_cons s
        exact ht (h s t u hsub hne.symm)
      have hnone : overloadsIn (t :: log) s.name = [] := by
        simpa [overloadsIn, ht] using others
      have hall : othersIn (t :: log) s.name = t :: log := by
        simpa [othersIn, ht] using others
      rw [hnone, hall, List.nil_append]

theorem regrouped_of_unbroken {log : List Signature} (h : Unbroken log) : regrouped log = log := by
  induction log using induction_by_name with
  | nil => rfl
  | cons s log ih =>
    have hrest : Unbroken (othersIn log s.name) :=
      h.sublist ((List.filter_sublist).trans (List.sublist_cons_self s log))
    rw [regrouped_cons, ih hrest, h.append_others]

theorem Unbroken.of_map_name {log other : List Signature} (h : Unbroken log)
    (he : log.map (fun s => s.name) = other.map fun s => s.name) : Unbroken other := by
  intro s t u hsub hsu
  have hnames := hsub.map fun s => s.name
  rw [← he] at hnames
  obtain ⟨part, hpart, heq⟩ := List.sublist_map_iff.mp hnames
  obtain ⟨a, part, rfl, ha, heq⟩ := List.map_eq_cons_iff.mp heq.symm
  obtain ⟨b, part, rfl, hb, heq⟩ := List.map_eq_cons_iff.mp heq
  obtain ⟨c, part, rfl, hc, heq⟩ := List.map_eq_cons_iff.mp heq
  obtain rfl := List.map_eq_nil_iff.mp heq
  have hab : b.name = a.name := h a b c hpart (ha.trans (hsu.trans hc.symm))
  exact hb.symm.trans (hab.trans ha)

/-- The listing goes by names in order of first registration; it is a permutation of the accepted
signatures, and the registration order itself exactly when no name comes back after another. -/
theorem signatures_of_log (calls : List Call) :
    let log := empty.accepted calls
    let listing := (empty.run calls).1.signatures
    listing = ((log.map fun s => s.name).eraseDups.flatMap fun name =>
        log.filter fun s => s.name = name) ∧
      listing.Perm log ∧
      (listing = log ↔ Unbroken log) ∧
      (listing.map Signature.toProfile = log.map Signature.toProfile ↔ Unbroken log) := by
  have h : (empty.run calls).1.signatures = regrouped (empty.accepted calls) := by
    rw [signatures, groups_run, flatMap_grouped]
  simp only [h]
  refine ⟨rfl, regrouped_perm _, ⟨?_, regrouped_of_unbroken⟩, ⟨?_, ?_⟩⟩
  · intro e
    rw [← e]
    exact unbroken_regrouped _
  · intro e
    refine (unbroken_regrouped (empty.accepted calls)).of_map_name ?_
    simpa [Function.comp_def] using congrArg (List.map fun p => p.name) e
  · intro hu
    rw [regrouped_of_unbroken hu]

end Registry

end FunctionCatalog
