import FunctionCatalog.Proofs.CompoundText
import FunctionCatalog.Proofs.RecordIdentity
set_option autoImplicit false

/-!
The line for display read back. Where the names in it hold none of the marks that separate its
parts, the line tells the function's name, the fixed parameters in order, the variadic parameter and
the name of the result's type. A variadic parameter has a comma of its own, but the dots behind that
are followed by no colon, so they are not taken for the name of a next parameter.
-/

namespace FunctionCatalog

namespace Text

/-- The characters that separate the parts of the line for display. -/
def isMark (c : Char) : Bool := c ∈ [',', ':', '[', ']', '(', ')']

def Unmarked (text : String) : Prop := ∀ c ∈ text.toList, isMark c = false

-- Given by name: a search may find the instance that tries every character there is.
instance (text : String) : Decidable (Unmarked text) :=
  List.decidableBAll (fun c => isMark c = false) text.toList

def AtMark (rest : List Char) : Prop := ∀ c ∈ rest.head?, isMark c = true

theorem atMark_nil : AtMark [] := by simp [AtMark]

theorem atMark_cons {c : Char} (h : isMark c = true) (rest : List Char) : AtMark (c :: rest) := by
  simpa [AtMark] using h

theorem eq_nil_of_atMark {text rest : List Char} (h : ∀ c ∈ text, isMark c = false)
    (hmark : AtMark (text ++ rest)) : text = [] := by
  cases text with
  | nil => rfl
  | cons c text =>
    have hc : isMark c = true := hmark c rfl
    rw [h c (by simp)] at hc
    contradiction

theorem append_inj_of_unmarked {t u : String} (ht : Unmarked t) (hu : Unmarked u)
    {r s : List Char} (hr : AtMark r) (hs : AtMark s) (h : t.toList ++ r = u.toList ++ s) :
    t = u ∧ r = s := by
  rcases List.append_eq_append_iff.mp h with ⟨x, hx, rfl⟩ | ⟨x, hx, rfl⟩
  · obtain rfl := eq_nil_of_atMark (fun c hc => hu c (by simp [hx, hc])) hr
    exact ⟨String.toList_inj.mp (by simpa using hx.symm), rfl⟩
  · obtain rfl := eq_nil_of_atMark (fun c hc => ht c (by simp [hx, hc])) hs
    exact ⟨String.toList_inj.mp (by simpa using hx), rfl⟩

theorem atMark_later (items : List String) : AtMark (later items) := by
  cases items with
  | nil => exact atMark_nil
  | cons item items => exact atMark_cons rfl _

end Text

open Text

/-- What the line for display shows of one parameter. -/
structure Slot where
  label : String
  type : String
  optional : Bool
  repeated : Bool

namespace Slot

def text (s : Slot) : String :=
  Profile.bracketed s.optional (s.label ++ ": " ++ s.type ++ if s.repeated then ", ..." else "")

def Unmarked (s : Slot) : Prop := Text.Unmarked s.label ∧ Text.Unmarked s.type

def opening (s : Slot) : List Char := if s.optional then ['['] else []

def closing (s : Slot) : List Char := if s.optional then [']'] else []

def dots : List Char := [',', ' ', '.', '.', '.']

def ending (s : Slot) : List Char := (if s.repeated then dots else []) ++ s.closing

theorem text_append (s : Slot) (rest : List Char) :
    s.text.toList ++ rest =
      s.opening ++ (s.label.toList ++ ':' :: ' ' :: (s.type.toList ++ (s.ending ++ rest))) := by
  obtain ⟨label, type, optional, repeated⟩ := s
  cases optional <;> cases repeated <;>
    simp [text, opening, ending, closing, dots, Profile.bracketed]

theorem atMark_ending_append (s : Slot) {rest : List Char} (h : AtMark rest) :
    AtMark (s.ending ++ rest) := by
  obtain ⟨label, type, optional, repeated⟩ := s
  cases repeated
  · cases optional
    · exact h
    · exact atMark_cons rfl _
  · exact atMark_cons rfl _

theorem bracket_ne_label {label : String} (h : Text.Unmarked label) (r s : List Char) :
    '[' :: r ≠ label.toList ++ ':' :: s := by
  intro e
  have hempty : Text.Unmarked "" := by simp [Text.Unmarked]
  obtain ⟨-, e⟩ := append_inj_of_unmarked hempty h (atMark_cons rfl r) (atMark_cons rfl s) e
  simp at e

theorem opening_append_inj {a b : Slot} (ha : a.Unmarked) (hb : b.Unmarked) {r s : List Char}
    (h : a.opening ++ (a.label.toList ++ ':' :: r) = b.opening ++ (b.label.toList ++ ':' :: s)) :
    a.optional = b.optional ∧ a.label.toList ++ ':' :: r = b.label.toList ++ ':' :: s := by
  unfold opening at h
  cases hoptional : a.optional <;> cases hoptional' : b.optional <;>
    simp only [hoptional, hoptional', if_true, if_false, Bool.false_eq_true, List.nil_append,
      List.cons_append] at h
  · exact ⟨rfl, h⟩
  · exact absurd h.symm (bracket_ne_label ha.1 _ _)
  · exact absurd h (bracket_ne_label hb.1 _ _)
  · exact ⟨rfl, (List.cons.inj h).2⟩

theorem text_append_inj {a b : Slot} (ha : a.Unmarked) (hb : b.Unmarked) {r s : List Char}
    (hr : AtMark r) (hs : AtMark s) (h : a.text.toList ++ r = b.text.toList ++ s) :
    a.optional = b.optional ∧ a.label = b.label ∧ a.type = b.type ∧
      a.ending ++ r = b.ending ++ s := by
  rw [text_append, text_append] at h
  obtain ⟨hoptional, h⟩ := opening_append_inj ha hb h
  obtain ⟨hlabel, h⟩ :=
    append_inj_of_unmarked ha.1 hb.1 (atMark_cons rfl _) (atMark_cons rfl _) h
  simp only [List.cons.injEq, true_and] at h
  obtain ⟨htype, h⟩ := append_inj_of_unmarked ha.2 hb.2 (a.atMark_ending_append hr)
    (b.atMark_ending_append hs) h
  exact ⟨hoptional, hlabel, htype, h⟩

theorem notMem_text {s : Slot} (h : s.Unmarked) : ')' ∉ s.text.toList := by
  have hlabel : ')' ∉ s.label.toList := fun hc => by simpa [isMark] using h.1 _ hc
  have htype : ')' ∉ s.type.toList := fun hc => by simpa [isMark] using h.2 _ hc
  have htext := s.text_append []
  simp only [List.append_nil] at htext
  rw [htext]
  cases hoptional : s.optional <;> cases hrepeated : s.repeated <;>
    simp [opening, ending, closing, dots, hoptional, hrepeated, hlabel, htype]

def later (slots : List Slot) : List Char := Text.later (slots.map text)

theorem later_cons (s : Slot) (slots : List Slot) :
    later (s :: slots) = ',' :: ' ' :: (s.text.toList ++ later slots) := by
  simp [later, Text.later]

/-- Dots that no colon follows are not the beginning of a slot. -/
theorem later_ne_dots {slots : List Slot} (h : ∀ s ∈ slots, s.Unmarked) (others : List Slot) :
    later slots ≠ dots ++ later others := by
  intro e
  cases slots with
  | nil => simp [later, Text.later, dots] at e
  | cons s slots =>
    have hlabel : Text.Unmarked s.label := (h s (by simp)).1
    have hdots : Text.Unmarked "..." := by decide
    simp only [later_cons, text_append, dots, List.cons_append, List.nil_append, List.cons.injEq,
      true_and] at e
    cases hoptional : s.optional with
    | false =>
      simp only [opening, hoptional, Bool.false_eq_true, if_false, List.nil_append] at e
      obtain ⟨-, hrest⟩ :=
        append_inj_of_unmarked hlabel hdots (atMark_cons rfl _) (atMark_later _) e
      cases others <;> simp [later, Text.later] at hrest
    | true => simp [opening, hoptional] at e

theorem closing_ne_dots (s : Slot) {slots : List Slot} (h : ∀ s ∈ slots, s.Unmarked)
    (others : List Slot) : s.closing ++ later slots ≠ dots ++ (s.closing ++ later others) := by
  unfold closing
  cases s.optional with
  | false => exact later_ne_dots h others
  | true => simp [dots]

theorem ending_append_inj {a b : Slot} (hoptional : a.optional = b.optional)
    {slots others : List Slot} (hslots : ∀ s ∈ slots, s.Unmarked)
    (hothers : ∀ s ∈ others, s.Unmarked) (h : a.ending ++ later slots = b.ending ++ later others) :
    a.repeated = b.repeated ∧ later slots = later others := by
  have hclosing : a.closing = b.closing := by rw [closing, closing, hoptional]
  unfold ending at h
  rw [hclosing] at h
  cases hrepeated : a.repeated <;> cases hrepeated' : b.repeated <;>
    simp only [hrepeated, hrepeated', if_true, if_false, Bool.false_eq_true, List.nil_append,
      List.append_assoc] at h
  · exact ⟨rfl, List.append_cancel_left h⟩
  · exact absurd h (b.closing_ne_dots hslots others)
  · exact absurd h.symm (b.closing_ne_dots hothers slots)
  · exact ⟨rfl, List.append_cancel_left (List.append_cancel_left h)⟩

theorem later_inj {slots others : List Slot} (hslots : ∀ s ∈ slots, s.Unmarked)
    (hothers : ∀ s ∈ others, s.Unmarked) (h : later slots = later others) : slots = others := by
  induction slots generalizing others with
  | nil =>
    cases others with
    | nil => rfl
    | cons b others => simp [later, Text.later] at h
  | cons a slots ih =>
    cases others with
    | nil => simp [later, Text.later] at h
    | cons b others =>
      simp only [List.forall_mem_cons] at hslots hothers
      simp only [later_cons, List.cons.injEq, true_and] at h
      obtain ⟨hoptional, hlabel, htype, h⟩ := text_append_inj hslots.1 hothers.1
        (atMark_later _) (atMark_later _) h
      obtain ⟨hrepeated, h⟩ := ending_append_inj hoptional hslots.2 hothers.2 h
      obtain rfl := ih hslots.2 hothers.2 h
      have hslot : a = b := by
        cases a
        cases b
        simp_all
      rw [hslot]

/-- Slots between commas are told apart, so the last of them needs no sign that it is the last. -/
theorem commas_inj {slots others : List Slot} (hslots : ∀ s ∈ slots, s.Unmarked)
    (hothers : ∀ s ∈ others, s.Unmarked)
    (h : commas (slots.map text) = commas (others.map text)) : slots = others := by
  have hne (s : Slot) (rest : List Char) : [] ≠ s.text.toList ++ rest := by
    rw [text_append]
    simp
  have h := congrArg String.toList h
  cases slots with
  | nil =>
    cases others with
    | nil => rfl
    | cons b others =>
      rw [List.map_cons, commas_cons] at h
      exact absurd h (hne b _)
  | cons a slots =>
    cases others with
    | nil =>
      rw [List.map_cons, commas_cons] at h
      exact absurd h.symm (hne a _)
    | cons b others =>
      simp only [List.map_cons, commas_cons] at h
      refine later_inj hslots hothers ?_
      rw [later_cons, later_cons]
      exact congrArg (',' :: ' ' :: ·) h

end Slot

namespace FixedParameter

def slot (p : FixedParameter) : Slot := ⟨p.name, p.type.name, !p.required, false⟩

def shown (p : FixedParameter) : String × String × Bool := (p.name, p.type.name, p.required)

theorem slot_eq_iff (p q : FixedParameter) : p.slot = q.slot ↔ p.shown = q.shown := by
  simp [slot, shown]

theorem text_slot (p : FixedParameter) : p.slot.text = Profile.fixedForm p := by
  simp [Slot.text, slot, Profile.fixedForm]

end FixedParameter

namespace VariadicParameter

def slot (v : VariadicParameter) : Slot :=
  ⟨v.displayName 0, v.elementType.name, v.minimumCount ≤ 0, true⟩

/-- What the line for display tells of a variadic parameter: of the least count, only whether there
must be an argument at all. -/
def shown (v : VariadicParameter) : String × String × Bool :=
  (v.stem, v.elementType.name, 0 < v.minimumCount)

theorem displayName_zero (v : VariadicParameter) : v.displayName 0 = v.stem ++ "1" := rfl

theorem slot_eq_iff (v w : VariadicParameter) : v.slot = w.slot ↔ v.shown = w.shown := by
  have hcount : (v.minimumCount ≤ 0 ↔ w.minimumCount ≤ 0) ↔
      (0 < v.minimumCount ↔ 0 < w.minimumCount) := by omega
  simp [slot, shown, displayName_zero, hcount]

theorem map_slot_eq_iff (v w : Option VariadicParameter) :
    v.map slot = w.map slot ↔ v.map shown = w.map shown := by
  cases v with
  | none => cases w <;> simp
  | some v => cases w <;> simp [slot_eq_iff]

theorem text_slot (v : VariadicParameter) : v.slot.text = Profile.variadicForm v := rfl

end VariadicParameter

namespace Profile

def slots (p : Profile) : List Slot :=
  p.fixed.map FixedParameter.slot ++ p.variadic.toList.map VariadicParameter.slot

/-- The names that stand in the line for display hold no mark, and the function's name is known to
end at the opening parenthesis. The name of the result's type stands last and may hold anything. -/
structure Legible (p : Profile) : Prop where
  name : '(' ∉ p.name.toList
  fixed : ∀ q ∈ p.fixed, Unmarked q.name ∧ Unmarked q.type.name
  variadic : ∀ v ∈ p.variadic, Unmarked v.stem ∧ Unmarked v.elementType.name

instance (p : Profile) : Decidable p.Legible :=
  decidable_of_iff ('(' ∉ p.name.toList ∧
      (∀ q ∈ p.fixed, Unmarked q.name ∧ Unmarked q.type.name) ∧
      ∀ v ∈ p.variadic, Unmarked v.stem ∧ Unmarked v.elementType.name)
    ⟨fun ⟨name, fixed, variadic⟩ => ⟨name, fixed, variadic⟩,
      fun ⟨name, fixed, variadic⟩ => ⟨name, fixed, variadic⟩⟩

theorem Legible.unmarked {p : Profile} (h : p.Legible) : ∀ s ∈ p.slots, s.Unmarked := by
  simp only [slots, List.forall_mem_append, List.forall_mem_map, Option.mem_toList]
  refine ⟨h.fixed, fun v hv => ⟨?_, (h.variadic v hv).2⟩⟩
  intro c hc
  simp only [VariadicParameter.slot, VariadicParameter.displayName_zero, String.toList_append,
    List.mem_append] at hc
  rcases hc with hc | hc
  · exact (h.variadic v hv).1 c hc
  · simp_all [isMark]

theorem displayForm_toList (p : Profile) :
    p.displayForm.toList = p.name.toList ++ '(' :: ((commas (p.slots.map Slot.text)).toList ++
      ')' :: ':' :: ' ' :: p.returnType.name.toList) := by
  have hfixed : Slot.text ∘ FixedParameter.slot = fixedForm := funext FixedParameter.text_slot
  have hvariadic : Slot.text ∘ VariadicParameter.slot = variadicForm := rfl
  have hparts : p.slots.map Slot.text =
      p.fixed.map fixedForm ++ (p.variadic.map variadicForm).toList := by
    rw [slots, List.map_append, List.map_map, List.map_map, hfixed, hvariadic, Option.toList_map]
  simp [displayForm, commas, hparts]

theorem Legible.notMem_commas {p : Profile} (h : p.Legible) :
    ')' ∉ (commas (p.slots.map Slot.text)).toList := by
  rw [commas, String.toList_intercalate]
  refine notMem_intercalate (by decide) fun t ht => ?_
  simp only [List.map_map, List.mem_map, Function.comp_apply] at ht
  obtain ⟨s, hs, rfl⟩ := ht
  exact Slot.notMem_text (h.unmarked s hs)

/-- The fixed parameters and the variadic one are told apart by the dots. -/
theorem slots_eq_iff (p q : Profile) :
    p.slots = q.slots ↔ p.fixed.map FixedParameter.shown = q.fixed.map FixedParameter.shown ∧
      p.variadic.map VariadicParameter.shown = q.variadic.map VariadicParameter.shown := by
  have hfixed (p : Profile) :
      p.slots.filter (fun s => !s.repeated) = p.fixed.map FixedParameter.slot := by
    simp [slots, List.filter_map, FixedParameter.slot, VariadicParameter.slot, Function.comp_def]
  have hvariadic (p : Profile) :
      (p.slots.filter Slot.repeated).head? = p.variadic.map VariadicParameter.slot := by
    simp [slots, List.filter_map, FixedParameter.slot, VariadicParameter.slot, Function.comp_def]
  rw [← map_eq_map_iff_of_iff FixedParameter.slot_eq_iff, ← VariadicParameter.map_slot_eq_iff]
  constructor
  · intro h
    rw [← hfixed, ← hfixed, ← hvariadic, ← hvariadic, h]
    exact ⟨rfl, rfl⟩
  · rintro ⟨hf, hv⟩
    rw [slots, slots, hf, ← Option.toList_map, ← Option.toList_map, hv]

end Profile

namespace Signature

/-- Where the names in it hold no mark, the line for display tells the function's name, the
parameters as far as they are shown, and the name of the result's type; and it tells no more. -/
theorem displayForm_eq_iff (s t : Signature) (hs : s.Legible) (ht : t.Legible) :
    s.displayForm = t.displayForm ↔
      s.name = t.name ∧
      s.fixed.map FixedParameter.shown = t.fixed.map FixedParameter.shown ∧
      s.variadic.map VariadicParameter.shown = t.variadic.map VariadicParameter.shown ∧
      s.returnType.name = t.returnType.name := by
  rw [← String.toList_inj, Profile.displayForm_toList, Profile.displayForm_toList]
  constructor
  · intro h
    obtain ⟨hname, h⟩ := append_cons_inj hs.name ht.name h
    obtain ⟨hslots, h⟩ := append_cons_inj hs.notMem_commas ht.notMem_commas h
    have hparts := Slot.commas_inj hs.unmarked ht.unmarked (String.toList_inj.mp hslots)
    obtain ⟨hfixed, hvariadic⟩ := (Profile.slots_eq_iff _ _).mp hparts
    simp only [List.cons.injEq, true_and] at h
    exact ⟨String.toList_inj.mp hname, hfixed, hvariadic, String.toList_inj.mp h⟩
  · rintro ⟨hname, hfixed, hvariadic, hreturn⟩
    rw [hname, (Profile.slots_eq_iff _ _).mpr ⟨hfixed, hvariadic⟩, hreturn]

/-- Whether one more argument may be given or any number of them is told by the dots, while the kind
of a type and the exact least count are not told. -/
theorem displayForm_of_rest_and_one :
    let taking (type : SemanticType) := (Draft.named "f").require "a" type ""
    let rest := ((taking (.literalOf "put")).takeRest "item" .any 0 "").signature
    let other := ((taking (.symbol "'put'")).takeRest "item" .any (-1) "more").signature
    let one := ((taking (.literalOf "put")).allow "item1" .any "").signature
    rest.Legible ∧ other.Legible ∧ one.Legible ∧
      rest.displayForm = other.displayForm ∧ rest.displayForm ≠ one.displayForm := by
  intro taking rest other one
  have hrest : rest.Legible := by decide
  have hother : other.Legible := by decide
  have hone : one.Legible := by decide
  refine ⟨hrest, hother, hone, ?_, fun h => ?_⟩
  · exact (displayForm_eq_iff rest other hrest hother).mpr ⟨rfl, by decide, by decide, rfl⟩
  · have hfixed := ((displayForm_eq_iff rest one hrest hone).mp h).2.1
    exact absurd hfixed (by decide)

end Signature

end FunctionCatalog
