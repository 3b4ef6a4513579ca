set_option autoImplicit false

/-!
Entries under text keys, kept in the order in which each key first came. A later entry for a key
takes the place of the earlier one.
-/

namespace FunctionCatalog

abbrev Keyed (α : Type) := List (String × α)

namespace Keyed

variable {α : Type}

def find? : Keyed α → String → Option α
  | [], _ => none
  | (k, v) :: rest, key => if k = key then some v else find? rest key

def keys (entries : Keyed α) : List String := entries.map Prod.fst

/-- A new key goes to the end; a known one keeps its place. -/
def alter (key : String) (f : Option α → α) : Keyed α → Keyed α
  | [] => [(key, f none)]
  | (k, v) :: rest => if k = key then (k, f (some v)) :: rest else (k, v) :: alter key f rest

def put (entries : Keyed α) (key : String) (value : α) : Keyed α :=
  entries.alter key fun _ => value

def ofPairs (pairs : List (String × α)) : Keyed α :=
  pairs.foldl (fun entries p => entries.put p.1 p.2) []

theorem find?_alter_self (entries : Keyed α) (key : String) (f : Option α → α) :
    (entries.alter key f).find? key = some (f (entries.find? key)) := by
  induction entries with
  | nil => simp [alter, find?]
  | cons p rest ih => by_cases h : p.1 = key <;> simp [alter, find?, h, ih]

theorem find?_alter_of_ne (entries : Keyed α) {key other : String} (f : Option α → α)
    (h : key ≠ other) : (entries.alter key f).find? other = entries.find? other := by
  induction entries with
  | nil => simp [alter, find?, h]
  | cons p rest ih =>
    by_cases hk : p.1 = key
    · subst hk; simp [alter, find?, h]
    · simp [alter, find?, hk, ih]

theorem find?_eq_none_iff (entries : Keyed α) (key : String) :
    entries.find? key = none ↔ key ∉ entries.keys := by
  induction entries with
  | nil => simp [find?, keys]
  | cons p rest ih =>
    simp only [keys, List.map_cons, List.mem_cons, not_or] at ih ⊢
    by_cases h : p.1 = key
    · simp [find?, h]
    · simp [find?, h, ih, Ne.symm h]

theorem mem_of_find? {entries : Keyed α} {key : String} {value : α}
    (h : entries.find? key = some value) : (key, value) ∈ entries := by
  induction entries with
  | nil => simp [find?] at h
  | cons p rest ih =>
    by_cases hk : p.1 = key
    · have hv : p.2 = value := by simpa [find?, hk] using h
      exact List.mem_cons.mpr (.inl (Prod.ext hk.symm hv.symm))
    · exact List.mem_cons_of_mem _ (ih (by simpa [find?, hk] using h))

theorem keys_alter (entries : Keyed α) (key : String) (f : Option α → α) :
    (entries.alter key f).keys =
      if key ∈ entries.keys then entries.keys else entries.keys ++ [key] := by
  induction entries with
  | nil => simp [alter, keys]
  | cons p rest ih =>
    by_cases hk : p.1 = key
    · subst hk; simp [alter, keys]
    · have hk' : ¬ key = p.1 := fun e => hk e.symm
      by_cases hm : key ∈ Keyed.keys rest <;> simp_all [alter, keys]

theorem alter_of_not_mem {entries : Keyed α} {key : String} (f : Option α → α)
    (h : key ∉ entries.keys) : entries.alter key f = entries ++ [(key, f none)] := by
  induction entries with
  | nil => rfl
  | cons p rest ih =>
    simp only [keys, List.map_cons, List.mem_cons, not_or] at h
    rw [alter, if_neg (Ne.symm h.1), ih h.2]
    rfl

theorem foldl_put (later entries : Keyed α) (h : (entries ++ later : Keyed α).keys.Nodup) :
    later.foldl (fun entries p => entries.put p.1 p.2) entries = entries ++ later := by
  induction later generalizing entries with
  | nil => simp
  | cons p later ih =>
    have hp : p.1 ∉ entries.keys := by
      simp only [keys, List.map_append, List.map_cons, List.nodup_append] at h
      intro hmem
      exact h.2.2 p.1 hmem p.1 (by simp) rfl
    rw [List.foldl_cons, put, alter_of_not_mem _ hp, ih]
    · simp
    · simpa using h

/-- Distinct keys are all kept, in their order. -/
theorem ofPairs_eq_self {pairs : Keyed α} (h : pairs.keys.Nodup) : ofPairs pairs = pairs :=
  foldl_put pairs [] h

end Keyed

end FunctionCatalog
