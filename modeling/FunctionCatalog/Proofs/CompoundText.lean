import FunctionCatalog.Text.Compound
set_option autoImplicit false

/-!
Texts that show where they end. When the parts of a compound text show it, so does the whole: the
names in it are the same for all values of one kind, and what separates the parts tells how many
there are.
-/

namespace FunctionCatalog.Text

/-- What is written for `a` shows where it ends: of any text that starts with it, both `a` and what
follows are known. -/
def Delimits {α : Type} (write : α → String) (a : α) : Prop :=
  ∀ (b : α) (r s : List Char),
    (write a).toList ++ r = (write b).toList ++ s → a = b ∧ r = s

theorem eq_iff_of_delimits {α : Type} {write : α → String} (h : ∀ a, Delimits write a) {a b : α} :
    write a = write b ↔ a = b := by
  constructor
  · intro e
    exact (h a b [] [] (by rw [e])).1
  · rintro rfl
    rfl

/-- What stands before a separator cannot be cut elsewhere if it does not hold it. -/
theorem append_cons_inj {c : Char} {t u r s : List Char} (ht : c ∉ t) (hu : c ∉ u)
    (h : t ++ c :: r = u ++ c :: s) : t = u ∧ r = s := by
  rcases List.append_eq_append_iff.mp h with ⟨x, rfl, hx⟩ | ⟨x, rfl, hx⟩
  · cases x <;> simp_all
  · cases x <;> simp_all

theorem notMem_intercalate {c : Char} {separator : List Char} {texts : List (List Char)}
    (hs : c ∉ separator) (h : ∀ t ∈ texts, c ∉ t) : c ∉ separator.intercalate texts := by
  induction texts with
  | nil => simp
  | cons t texts ih =>
    cases texts with
    | nil => simpa using h
    | cons u texts =>
      rw [List.intercalate_cons_cons, List.mem_append, List.mem_append, not_or, not_or]
      exact ⟨⟨h t (by simp), hs⟩, ih fun t ht => h t (by simp [ht])⟩

def later (items : List String) : List Char := items.flatMap fun t => ',' :: ' ' :: t.toList

theorem commas_cons (item : String) (items : List String) :
    (commas (item :: items)).toList = item.toList ++ later items := by
  induction items generalizing item with
  | nil => simp [commas, later]
  | cons next items ih =>
    rw [commas, String.toList_intercalate, List.map_cons, List.map_cons, List.intercalate_cons_cons,
      ← List.map_cons, ← String.toList_intercalate, ← commas, ih]
    simp [later]

def laterFields (parts : List (String × String)) (rest : List Char) : List Char :=
  later (parts.map fun p => p.1 ++ "=" ++ p.2) ++ ')' :: rest

theorem laterFields_nil (rest : List Char) : laterFields [] rest = ')' :: rest := rfl

theorem laterFields_cons (p : String × String) (parts : List (String × String))
    (rest : List Char) :
    laterFields (p :: parts) rest =
      ',' :: ' ' :: (p.1.toList ++ '=' :: (p.2.toList ++ laterFields parts rest)) := by
  simp [laterFields, later]

theorem fields_append (name : String) (p : String × String) (parts : List (String × String))
    (rest : List Char) :
    (fields name (p :: parts)).toList ++ rest =
      name.toList ++ '(' :: (p.1.toList ++ '=' :: (p.2.toList ++ laterFields parts rest)) := by
  simp [fields, commas_cons, laterFields]

section FieldText

variable {α : Type} {write : α → String} {a b : α} {key : String}
  {parts others : List (String × String)} {r s : List Char}

theorem fields_append_inj {name : String} (ha : Delimits write a)
    (h : (fields name ((key, write a) :: parts)).toList ++ r =
      (fields name ((key, write b) :: others)).toList ++ s) :
    a = b ∧ laterFields parts r = laterFields others s := by
  simp only [fields_append, List.append_cancel_left_eq, List.cons.injEq, true_and] at h
  exact ha _ _ _ h

theorem laterFields_inj (ha : Delimits write a)
    (h : laterFields ((key, write a) :: parts) r = laterFields ((key, write b) :: others) s) :
    a = b ∧ laterFields parts r = laterFields others s := by
  simp only [laterFields_cons, List.append_cancel_left_eq, List.cons.injEq, true_and] at h
  exact ha _ _ _ h

theorem laterFields_nil_inj (h : laterFields [] r = laterFields [] s) : r = s := by
  simpa [laterFields_nil] using h

end FieldText

def StartsWithout (d : Char) (text : String) : Prop :=
  ∃ c tail, text.toList = c :: tail ∧ c ≠ d

theorem startsWithout_fields {name : String} {c d : Char} {tail : List Char}
    (h : name.toList = c :: tail) (hne : c ≠ d) (parts : List (String × String)) :
    StartsWithout d (fields name parts) := by
  simp [StartsWithout, fields, h, hne]

theorem delimits_bool (b : Bool) : Delimits bool b := by
  intro c r s h
  cases b <;> cases c <;> simp_all [bool]

section Items

variable {α : Type} {write : α → String}

theorem delimits_option (hstart : ∀ a, StartsWithout 'N' (write a))
    {a : Option α} (h : ∀ x ∈ a, Delimits write x) : Delimits (option write) a := by
  intro b r s e
  cases a with
  | none =>
    cases b with
    | none => simpa [option] using e
    | some y =>
      obtain ⟨c, tail, hy, hc⟩ := hstart y
      simp only [option, hy, String.reduceToList, List.cons_append, List.cons.injEq] at e
      exact absurd e.1.symm hc
  | some x =>
    cases b with
    | none =>
      obtain ⟨c, tail, hx, hc⟩ := hstart x
      simp only [option, hx, String.reduceToList, List.cons_append, List.cons.injEq] at e
      exact absurd e.1 hc
    | some y =>
      obtain ⟨rfl, rfl⟩ := h x rfl y r s e
      exact ⟨rfl, rfl⟩

theorem later_append_inj {xs ys : List α} (h : ∀ x ∈ xs, Delimits write x) {r s : List Char}
    (e : later (xs.map write) ++ ')' :: r = later (ys.map write) ++ ')' :: s) :
    xs = ys ∧ r = s := by
  induction xs generalizing ys with
  | nil => cases ys <;> simp_all [later]
  | cons x xs ih =>
    cases ys with
    | nil => simp [later] at e
    | cons y ys =>
      simp only [later, List.map_cons, List.flatMap_cons, List.cons_append, List.append_assoc,
        List.cons.injEq, true_and] at e
      obtain ⟨rfl, htail⟩ := h x (by simp) y _ _ e
      obtain ⟨rfl, rfl⟩ := ih (fun x hx => h x (by simp [hx])) htail
      exact ⟨rfl, rfl⟩

theorem commas_append_inj (hstart : ∀ a, StartsWithout ')' (write a))
    {xs ys : List α} (h : ∀ x ∈ xs, Delimits write x) {r s : List Char}
    (e : (commas (xs.map write)).toList ++ ')' :: r = (commas (ys.map write)).toList ++ ')' :: s) :
    xs = ys ∧ r = s := by
  cases xs with
  | nil =>
    cases ys with
    | nil => simpa [commas] using e
    | cons y ys =>
      obtain ⟨c, tail, hy, hc⟩ := hstart y
      rw [List.map_cons, commas_cons, hy] at e
      exact absurd (List.cons.inj e).1.symm hc
  | cons x xs =>
    cases ys with
    | nil =>
      obtain ⟨c, tail, hx, hc⟩ := hstart x
      rw [List.map_cons, commas_cons, hx] at e
      exact absurd (List.cons.inj e).1 hc
    | cons y ys =>
      simp only [List.map_cons, commas_cons, List.append_assoc] at e
      obtain ⟨rfl, htail⟩ := h x (by simp) y _ _ e
      obtain ⟨rfl, rfl⟩ := later_append_inj (fun x hx => h x (by simp [hx])) htail
      exact ⟨rfl, rfl⟩

def afterFirst (items : List String) : List Char := if items.isEmpty then [','] else later items

theorem afterFirst_append_inj {xs ys : List α} (h : ∀ x ∈ xs, Delimits write x) {r s : List Char}
    (e : afterFirst (xs.map write) ++ ')' :: r = afterFirst (ys.map write) ++ ')' :: s) :
    xs = ys ∧ r = s := by
  cases xs with
  | nil =>
    cases ys with
    | nil => simpa [afterFirst] using e
    | cons y ys => simp [afterFirst, later] at e
  | cons x xs =>
    cases ys with
    | nil => simp [afterFirst, later] at e
    | cons y ys => exact later_append_inj h e

theorem tuple_cons_append (item : String) (items : List String) (rest : List Char) :
    (tuple (item :: items)).toList ++ rest =
      '(' :: (item.toList ++ (afterFirst items ++ ')' :: rest)) := by
  cases items with
  | nil => simp [tuple, afterFirst]
  | cons next items => simp [tuple, commas_cons, afterFirst]

theorem tuple_nil_append_ne {item : String} (h : StartsWithout ')' item)
    (items : List String) (r s : List Char) :
    (tuple []).toList ++ r ≠ (tuple (item :: items)).toList ++ s := by
  obtain ⟨c, tail, hitem, hc⟩ := h
  rw [tuple_cons_append, hitem]
  simp [tuple, commas, hc.symm]

/-- An empty tuple, one item alone and several items are told apart by what stands behind the
opening parenthesis and behind the first comma. -/
theorem delimits_tuple (hstart : ∀ a, StartsWithout ')' (write a))
    {xs : List α} (h : ∀ x ∈ xs, Delimits write x) :
    Delimits (fun xs : List α => tuple (xs.map write)) xs := by
  intro ys r s e
  cases xs with
  | nil =>
    cases ys with
    | nil => simpa [tuple] using e
    | cons y ys => exact absurd e (tuple_nil_append_ne (hstart y) _ r s)
  | cons x xs =>
    cases ys with
    | nil => exact absurd e.symm (tuple_nil_append_ne (hstart x) _ s r)
    | cons y ys =>
      simp only [List.map_cons, tuple_cons_append, List.cons.injEq, true_and] at e
      obtain ⟨rfl, htail⟩ := h x (by simp) y _ _ e
      obtain ⟨rfl, rfl⟩ := afterFirst_append_inj (fun x hx => h x (by simp [hx])) htail
      exact ⟨rfl, rfl⟩

end Items

end FunctionCatalog.Text
