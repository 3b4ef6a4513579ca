import FunctionCatalog.Proofs.NumberText
import FunctionCatalog.Proofs.StringText
set_option autoImplicit false

namespace FunctionCatalog

namespace Json

/-- Values that text can carry: every number has digits, and no object has one key twice. -/
inductive Regular : Json → Prop
  | null : Regular .null
  | bool (b : Bool) : Regular (.bool b)
  | int (n : Int) : Regular (.int n)
  | double {d : Double} (h : d.IsFinite) : Regular (.double d)
  | text (s : String) : Regular (.text s)
  | array {items : List Json} (h : ∀ j ∈ items, Regular j) : Regular (.array items)
  | object {fields : List (String × Json)} (hk : (Keyed.keys fields).Nodup)
      (h : ∀ p ∈ fields, Regular p.2) : Regular (.object fields)

def isBlank (c : Char) : Bool := c = ' ' ∨ c = '\n' ∨ c = '\r' ∨ c = '\t'

theorem skipBlank_append {blank : List Char} (h : ∀ c ∈ blank, isBlank c) (rest : List Char) :
    skipBlank (blank ++ rest) = skipBlank rest :=
  List.dropWhile_append_of_pos h

theorem skipBlank_cons {c : Char} (h : isBlank c = false) (rest : List Char) :
    skipBlank (c :: rest) = c :: rest :=
  List.dropWhile_cons_of_neg (by simpa [isBlank] using h)

theorem takeValue_blank (fuel : Nat) {blank : List Char} (h : ∀ c ∈ blank, isBlank c)
    (rest : List Char) : takeValue fuel (blank ++ rest) = takeValue fuel rest := by
  cases fuel with
  | zero => rfl
  | succ fuel => rw [takeValue, takeValue, skipBlank_append h]

theorem takeItems_blank (fuel : Nat) {blank : List Char} (h : ∀ c ∈ blank, isBlank c)
    (rest : List Char) : takeItems fuel (blank ++ rest) = takeItems fuel rest := by
  cases fuel with
  | zero => rfl
  | succ fuel => rw [takeItems, takeItems, takeValue_blank fuel h]

theorem takeFields_blank (fuel : Nat) {blank : List Char} (h : ∀ c ∈ blank, isBlank c)
    (rest : List Char) : takeFields fuel (blank ++ rest) = takeFields fuel rest := by
  cases fuel with
  | zero => rfl
  | succ fuel => rw [takeFields, takeFields, skipBlank_append h]

def Starts (c : Char) : Prop := isBlank c = false ∧ c ≠ ']' ∧ c ≠ '\x7d'

instance (c : Char) : Decidable (Starts c) := inferInstanceAs (Decidable (_ ∧ _ ∧ _))

/-- A text that is read as a value, given fuel for each of its characters. -/
structure Reads (text : List Char) (j : Json) : Prop where
  starts : ∃ c tail, text = c :: tail ∧ Starts c
  reads : ∀ fuel rest, text.length ≤ fuel → Ends rest →
    takeValue fuel (text ++ rest) = some (j, rest)

theorem takeValue_digit (fuel : Nat) (negative : Bool) {c : Char} (hc : c.isDigit)
    (rest : List Char) :
    takeValue (fuel + 1) (sign negative ++ c :: rest) =
      takeNumber (sign negative ++ c :: rest) := by
  obtain ⟨n, hn, rfl⟩ := eq_digitChar hc
  interval_cases n <;> cases negative <;> rfl

theorem Reads.of_number {text : List Char} {j : Json} (h : NumberText text j) : Reads text j := by
  obtain ⟨negative, c, tail, rfl, hc⟩ := h.starts
  constructor
  · obtain ⟨n, hn, rfl⟩ := eq_digitChar hc
    cases negative with
    | true => exact ⟨_, _, rfl, by decide⟩
    | false => interval_cases n <;> exact ⟨_, _, rfl, by decide⟩
  · intro fuel rest hfuel hr
    simp only [List.length_append, List.length_cons] at hfuel
    obtain ⟨fuel, rfl⟩ := Nat.exists_eq_succ_of_ne_zero (n := fuel) (by omega)
    have hread := h.reads rest hr
    rw [List.append_assoc, List.cons_append] at hread ⊢
    rw [takeValue_digit fuel negative hc, hread]

theorem Reads.of_quote (s : String) : Reads (quote s).toList (.text s) := by
  rw [quote_toList]
  constructor
  · exact ⟨_, _, rfl, by decide⟩
  · intro fuel rest hfuel hr
    simp only [List.length_append, List.length_cons] at hfuel
    obtain ⟨fuel, rfl⟩ := Nat.exists_eq_succ_of_ne_zero (n := fuel) (by omega)
    have hs := takeString_quote s rest fuel (by omega)
    rw [List.cons_append, List.append_assoc, takeValue, skipBlank_cons rfl]
    simp [hs]

theorem ends_cons {c : Char} (h : isBlank c ∨ c = ',' ∨ c = ']' ∨ c = '\x7d') (rest : List Char) :
    Ends (c :: rest) := by
  simp only [Ends, List.head?_cons, Option.mem_some_iff, forall_eq']
  simp only [isBlank, decide_eq_true_eq] at h
  rcases h with (rfl | rfl | rfl | rfl) | rfl | rfl | rfl <;> decide

theorem ends_blank_append {blank : List Char} (h : ∀ c ∈ blank, isBlank c) {rest : List Char}
    (hr : Ends rest) : Ends (blank ++ rest) := by
  cases blank with
  | nil => exact hr
  | cons c blank => exact ends_cons (.inl (h c (by simp))) _

theorem takeItems_last {fuel : Nat} {input rest rest' : List Char} {j : Json}
    (h : takeValue fuel input = some (j, rest)) (hr : skipBlank rest = ']' :: rest') :
    takeItems (fuel + 1) input = some ([j], rest') := by
  rw [takeItems, h]
  simp [hr]

theorem takeItems_next {fuel : Nat} {input rest rest' rest'' : List Char} {j : Json}
    {items : List Json} (h : takeValue fuel input = some (j, rest))
    (hr : skipBlank rest = ',' :: rest') (hi : takeItems fuel rest' = some (items, rest'')) :
    takeItems (fuel + 1) input = some (j :: items, rest'') := by
  rw [takeItems, h]
  simp [hr, hi]

theorem takeItems_intercalate {gap close : List Char} (hg : ∀ c ∈ gap, isBlank c)
    (hc : ∀ c ∈ close, isBlank c) (f : Json → List Char) {items : List Json} (hne : items ≠ [])
    (h : ∀ j ∈ items, Reads (f j) j) {fuel : Nat} (rest : List Char)
    (hfuel : ((',' :: gap).intercalate (items.map f)).length < fuel) :
    takeItems fuel ((',' :: gap).intercalate (items.map f) ++ (close ++ ']' :: rest)) =
      some (items, rest) := by
  induction items generalizing fuel with
  | nil => exact absurd rfl hne
  | cons j items ih =>
    obtain ⟨fuel, rfl⟩ := Nat.exists_eq_succ_of_ne_zero (Nat.ne_of_gt (Nat.zero_lt_of_lt hfuel))
    have hj := (h j (by simp)).reads fuel
    -- One unit of fuel goes to this item and its comma; what is left covers the text behind them.
    cases items with
    | nil =>
      rw [List.map_cons, List.map_nil, List.intercalate_singleton] at hfuel ⊢
      have hends := ends_blank_append hc (ends_cons (.inr (.inr (.inl rfl))) rest)
      refine takeItems_last (hj _ (by omega) hends) ?_
      rw [skipBlank_append hc]
      rfl
    | cons k items =>
      rw [List.map_cons, List.map_cons, List.intercalate_cons_cons, ← List.map_cons] at hfuel ⊢
      simp only [List.length_append, List.length_cons] at hfuel
      rw [List.append_assoc, List.append_assoc, List.cons_append]
      refine takeItems_next (hj _ (by omega) (ends_cons (.inr (.inl rfl)) _)) rfl ?_
      rw [takeItems_blank fuel hg]
      exact ih (by simp) (fun j hj => h j (by simp [hj])) (by omega)

theorem takeFields_last {fuel : Nat} {input rest rest' rest'' : List Char} {key : String}
    {j : Json} (hk : takeString fuel [] input = some (key, ':' :: rest))
    (hv : takeValue fuel rest = some (j, rest')) (hr : skipBlank rest' = '\x7d' :: rest'') :
    takeFields (fuel + 1) ('\x22' :: input) = some ([(key, j)], rest'') := by
  rw [takeFields, skipBlank_cons rfl]
  simp [hk, skipBlank_cons, isBlank, hv, hr]

theorem takeFields_next {fuel : Nat} {input rest rest' rest'' left : List Char} {key : String}
    {j : Json} {fields : List (String × Json)}
    (hk : takeString fuel [] input = some (key, ':' :: rest))
    (hv : takeValue fuel rest = some (j, rest')) (hr : skipBlank rest' = ',' :: rest'')
    (hf : takeFields fuel rest'' = some (fields, left)) :
    takeFields (fuel + 1) ('\x22' :: input) = some ((key, j) :: fields, left) := by
  rw [takeFields, skipBlank_cons rfl]
  simp [hk, skipBlank_cons, isBlank, hv, hr, hf]

def fieldText (f : Json → List Char) (p : String × Json) : List Char :=
  '\x22' :: (p.1.toList.flatMap escape ++ '\x22' :: ':' :: ' ' :: f p.2)

theorem takeFields_intercalate {gap close : List Char} (hg : ∀ c ∈ gap, isBlank c)
    (hc : ∀ c ∈ close, isBlank c) (f : Json → List Char) {fields : List (String × Json)}
    (hne : fields ≠ []) (h : ∀ p ∈ fields, Reads (f p.2) p.2) {fuel : Nat} (rest : List Char)
    (hfuel : ((',' :: gap).intercalate (fields.map (fieldText f))).length < fuel) :
    takeFields fuel
        ((',' :: gap).intercalate (fields.map (fieldText f)) ++ (close ++ '\x7d' :: rest)) =
      some (fields, rest) := by
  induction fields generalizing fuel with
  | nil => exact absurd rfl hne
  | cons p fields ih =>
    obtain ⟨fuel, rfl⟩ := Nat.exists_eq_succ_of_ne_zero (Nat.ne_of_gt (Nat.zero_lt_of_lt hfuel))
    have hvalue (rest : List Char) (hfuel : (f p.2).length ≤ fuel) (hends : Ends rest) :
        takeValue fuel (' ' :: (f p.2 ++ rest)) = some (p.2, rest) := by
      have hspace : takeValue fuel ([' '] ++ (f p.2 ++ rest)) = takeValue fuel (f p.2 ++ rest) :=
        takeValue_blank fuel (by simp; decide) _
      rw [List.singleton_append] at hspace
      rw [hspace, (h p (by simp)).reads fuel rest hfuel hends]
    cases fields with
    | nil =>
      rw [List.map_cons, List.map_nil, List.intercalate_singleton] at hfuel ⊢
      simp only [fieldText, List.length_append, List.length_cons] at hfuel
      have hends := ends_blank_append hc (ends_cons (.inr (.inr (.inr rfl))) rest)
      simp only [fieldText, List.cons_append, List.append_assoc]
      refine takeFields_last (takeString_quote p.1 _ fuel (by omega))
        (hvalue _ (by omega) hends) ?_
      rw [skipBlank_append hc]
      rfl
    | cons q fields =>
      rw [List.map_cons, List.map_cons, List.intercalate_cons_cons, ← List.map_cons] at hfuel ⊢
      simp only [fieldText, List.length_append, List.length_cons] at hfuel
      simp only [fieldText, List.cons_append, List.append_assoc]
      refine takeFields_next (takeString_quote p.1 _ fuel (by omega))
        (hvalue _ (by omega) (ends_cons (.inr (.inl rfl)) _)) rfl ?_
      rw [takeFields_blank fuel hg]
      exact ih (by simp) (fun p hp => h p (by simp [hp])) (by omega)

theorem takeValue_array {fuel : Nat} {before body rest left : List Char} {items : List Json}
    (hb : ∀ c ∈ before, isBlank c) (hs : ∃ c tail, body = c :: tail ∧ Starts c)
    (h : takeItems fuel (body ++ rest) = some (items, left)) :
    takeValue (fuel + 1) ('[' :: (before ++ (body ++ rest))) = some (.array items, left) := by
  obtain ⟨c, tail, rfl, hblank, hclose, -⟩ := hs
  rw [takeValue, skipBlank_cons rfl]
  simp only [skipBlank_append hb, List.cons_append, skipBlank_cons hblank] at h ⊢
  split
  · simp_all
  · rw [h]
    rfl

theorem takeValue_object {fuel : Nat} {before body rest left : List Char}
    {fields : List (String × Json)} (hk : (Keyed.keys fields).Nodup)
    (hb : ∀ c ∈ before, isBlank c) (hs : ∃ c tail, body = c :: tail ∧ Starts c)
    (h : takeFields fuel (body ++ rest) = some (fields, left)) :
    takeValue (fuel + 1) ('\x7b' :: (before ++ (body ++ rest))) = some (.object fields, left) := by
  obtain ⟨c, tail, rfl, hblank, -, hclose⟩ := hs
  rw [takeValue, skipBlank_cons rfl]
  simp only [skipBlank_append hb, List.cons_append, skipBlank_cons hblank] at h ⊢
  split
  · simp_all
  · rw [h, Option.map_some, Keyed.ofPairs_eq_self hk]

section Indent

variable {indent : Option String}

def gap (indent : Option String) (depth : Nat) : List Char :=
  match indent with
  | none => [' ']
  | some _ => (lineBreak indent depth).toList

def Blank (indent : Option String) : Prop := ∀ level ∈ indent, ∀ c ∈ level.toList, isBlank c

theorem isBlank_of_mem_lineBreak (hb : Blank indent) (depth : Nat) :
    ∀ c ∈ (lineBreak indent depth).toList, isBlank c := by
  cases indent with
  | none => simp [lineBreak]
  | some level =>
    intro c hc
    simp only [lineBreak, String.toList_append, String.toList_join, List.mem_append,
      List.mem_flatMap] at hc
    rcases hc with hc | ⟨s, hs, hc⟩
    · rw [List.mem_singleton.mp hc]
      decide
    · rw [List.eq_of_mem_replicate hs] at hc
      exact hb level rfl c hc

theorem isBlank_of_mem_gap (hb : Blank indent) (depth : Nat) :
    ∀ c ∈ gap indent depth, isBlank c := by
  cases indent with
  | none => simp [gap]; decide
  | some level => exact isBlank_of_mem_lineBreak hb depth

theorem separator_toList (depth : Nat) :
    (separator indent depth).toList = ',' :: gap indent depth := by
  cases indent with
  | none => simp [separator, gap]
  | some level => simp [separator, gap]

theorem enclose_toList (depth : Nat) (left right : String) {items : List String}
    (hne : items ≠ []) :
    (enclose indent depth left right items).toList =
      left.toList ++ ((lineBreak indent (depth + 1)).toList ++
        ((',' :: gap indent (depth + 1)).intercalate (items.map String.toList) ++
          ((lineBreak indent depth).toList ++ right.toList))) := by
  obtain ⟨s, items, rfl⟩ := List.exists_cons_of_ne_nil hne
  simp only [enclose, String.toList_append, String.toList_intercalate, separator_toList,
    List.append_assoc]

theorem writeItems_eq_map (depth : Nat) (items : List Json) :
    writeItems indent depth items = items.map (writeAt indent depth) := by
  induction items with
  | nil => rfl
  | cons j items ih => rw [writeItems, ih, List.map_cons]

theorem writeFields_toList (depth : Nat) (fields : List (String × Json)) :
    (writeFields indent depth fields).map String.toList =
      fields.map (fieldText fun j => (writeAt indent depth j).toList) := by
  induction fields with
  | nil => rfl
  | cons p fields ih =>
    rw [writeFields, List.map_cons, ih, List.map_cons]
    simp [fieldText, quote_toList, String.toList_append]

theorem Reads.of_word (c : Char) (tail : List Char) {j : Json} (hs : Starts c)
    (h : ∀ fuel rest, takeValue (fuel + 1) (c :: tail ++ rest) = some (j, rest)) :
    Reads (c :: tail) j := by
  refine ⟨⟨c, tail, rfl, hs⟩, fun fuel rest hfuel _ => ?_⟩
  obtain ⟨fuel, rfl⟩ := Nat.exists_eq_succ_of_ne_zero (Nat.ne_of_gt (Nat.zero_lt_of_lt hfuel))
  exact h fuel rest

theorem Reads.of_brackets {left right : Char} {before body after : List Char} {j : Json}
    (hs : Starts left)
    (h : ∀ fuel rest, body.length < fuel →
      takeValue (fuel + 1) (left :: (before ++ (body ++ (after ++ right :: rest)))) =
        some (j, rest)) :
    Reads (left :: (before ++ (body ++ (after ++ [right])))) j := by
  refine ⟨⟨left, _, rfl, hs⟩, fun fuel rest hfuel _ => ?_⟩
  simp only [List.length_append, List.length_cons] at hfuel
  obtain ⟨fuel, rfl⟩ := Nat.exists_eq_succ_of_ne_zero (n := fuel) (by omega)
  have hread := h fuel rest (by omega)
  simpa using hread

theorem intercalate_starts {separator text : List Char} {texts : List (List Char)}
    (h : ∃ c tail, text = c :: tail ∧ Starts c) :
    ∃ c tail, separator.intercalate (text :: texts) = c :: tail ∧ Starts c := by
  obtain ⟨c, tail, rfl, hs⟩ := h
  cases texts with
  | nil => exact ⟨c, tail, List.intercalate_singleton, hs⟩
  | cons text texts => exact ⟨c, _, List.intercalate_cons_cons, hs⟩

theorem Reads.of_items (hb : Blank indent) (depth : Nat) {items : List Json}
    (h : ∀ j ∈ items, Reads (writeAt indent (depth + 1) j).toList j) :
    Reads (writeAt indent depth (.array items)).toList (.array items) := by
  by_cases hne : items = []
  · subst hne
    rw [writeAt, writeItems, enclose]
    exact .of_word '[' [']'] (by decide) fun _ _ => rfl
  have htext : (writeAt indent depth (.array items)).toList =
      '[' :: ((lineBreak indent (depth + 1)).toList ++
        ((',' :: gap indent (depth + 1)).intercalate
            (items.map fun j => (writeAt indent (depth + 1) j).toList) ++
          ((lineBreak indent depth).toList ++ [']']))) := by
    rw [writeAt, writeItems_eq_map, enclose_toList depth _ _ (by simpa using hne), List.map_map]
    rfl
  have hs : ∃ c tail, (',' :: gap indent (depth + 1)).intercalate
      (items.map fun j => (writeAt indent (depth + 1) j).toList) = c :: tail ∧ Starts c := by
    obtain ⟨j, later, rfl⟩ := List.exists_cons_of_ne_nil hne
    exact intercalate_starts (h j (by simp)).starts
  rw [htext]
  refine .of_brackets (by decide) fun fuel rest hfuel => ?_
  exact takeValue_array (isBlank_of_mem_lineBreak hb (depth + 1)) hs
    (takeItems_intercalate (isBlank_of_mem_gap hb (depth + 1)) (isBlank_of_mem_lineBreak hb depth)
      _ hne h rest hfuel)

theorem Reads.of_fields (hb : Blank indent) (depth : Nat) {fields : List (String × Json)}
    (hk : (Keyed.keys fields).Nodup)
    (h : ∀ p ∈ fields, Reads (writeAt indent (depth + 1) p.2).toList p.2) :
    Reads (writeAt indent depth (.object fields)).toList (.object fields) := by
  by_cases hne : fields = []
  · subst hne
    rw [writeAt, writeFields, enclose]
    exact .of_word '\x7b' ['\x7d'] (by decide) fun _ _ => rfl
  have htext : (writeAt indent depth (.object fields)).toList =
      '\x7b' :: ((lineBreak indent (depth + 1)).toList ++
        ((',' :: gap indent (depth + 1)).intercalate
            (fields.map (fieldText fun j => (writeAt indent (depth + 1) j).toList)) ++
          ((lineBreak indent depth).toList ++ ['\x7d']))) := by
    have hfields : writeFields indent (depth + 1) fields ≠ [] := by
      obtain ⟨p, later, rfl⟩ := List.exists_cons_of_ne_nil hne
      simp [writeFields]
    rw [writeAt, enclose_toList depth _ _ hfields, writeFields_toList]
    rfl
  have hs : ∃ c tail, (',' :: gap indent (depth + 1)).intercalate
      (fields.map (fieldText fun j => (writeAt indent (depth + 1) j).toList)) = c :: tail ∧
        Starts c := by
    obtain ⟨p, later, rfl⟩ := List.exists_cons_of_ne_nil hne
    exact intercalate_starts ⟨'\x22', _, rfl, by decide⟩
  rw [htext]
  refine .of_brackets (by decide) fun fuel rest hfuel => ?_
  exact takeValue_object hk (isBlank_of_mem_lineBreak hb (depth + 1)) hs
    (takeFields_intercalate (isBlank_of_mem_gap hb (depth + 1)) (isBlank_of_mem_lineBreak hb depth)
      _ hne h rest hfuel)

/-- A written value is read as itself, at any depth of indentation. -/
theorem reads_writeAt (hb : Blank indent) {j : Json} (h : j.Regular) (hw : j.isWritable)
    (depth : Nat) : Reads (writeAt indent depth j).toList j := by
  induction h generalizing depth with
  | null =>
    rw [writeAt]
    exact .of_word 'n' ['u', 'l', 'l'] (by decide) fun _ _ => rfl
  | bool b =>
    cases b <;> rw [writeAt]
    · exact .of_word 'f' ['a', 'l', 's', 'e'] (by decide) fun _ _ => rfl
    · exact .of_word 't' ['r', 'u', 'e'] (by decide) fun _ _ => rfl
  | int n => exact .of_number (numberText_int hw)
  | double hd => exact .of_number (numberText_double hd)
  | text s => exact .of_quote s
  | @array items h ih =>
    have hw : ∀ j ∈ items, j.isWritable := by simpa using hw
    exact .of_items hb depth fun j hj => ih j hj (hw j hj) (depth + 1)
  | @object fields hk h ih =>
    have hw : ∀ p ∈ fields, p.2.isWritable := by simpa using hw
    exact .of_fields hb depth hk fun p hp => ih p hp (hw p hp) (depth + 1)

theorem read?_write (hb : Blank indent) {j : Json} (h : j.Regular) (hw : j.isWritable) :
    read? (write j indent) = some j := by
  have hread := (reads_writeAt hb h hw 0).reads ((write j indent).toList.length + 1) []
    (Nat.le_succ _) (by simp [Ends])
  rw [List.append_nil] at hread
  simp only [read?]
  rw [write] at hread ⊢
  rw [hread]
  rfl

theorem exists_write? (hb : Blank indent) {j : Json} (h : j.Regular) (hw : j.isWritable) :
    ∃ text, j.write? indent = some text ∧ read? text = some j :=
  ⟨_, by rw [write?, if_pos hw], read?_write hb h hw⟩

end Indent

end Json

end FunctionCatalog
