import FunctionCatalog.Command.Report
import FunctionCatalog.Draft
import FunctionCatalog.Proofs.EncodingFailure
import FunctionCatalog.Proofs.JsonText
import Mathlib.Data.List.Forall2
set_option autoImplicit false

namespace FunctionCatalog

theorem exists_forall₂_of_forall_exists {α β : Type} {R : α → β → Prop} {xs : List α}
    (h : ∀ x ∈ xs, ∃ y, R x y) : ∃ ys, List.Forall₂ R xs ys := by
  induction xs with
  | nil => exact ⟨[], .nil⟩
  | cons x xs ih =>
    obtain ⟨y, hy⟩ := h x (by simp)
    obtain ⟨ys, hys⟩ := ih fun x hx => h x (by simp [hx])
    exact ⟨y :: ys, .cons hy hys⟩

namespace Artifact

open EncodingFault (met?)

def ofOption {α : Type} (f : α → Artifact) : Option α → Artifact
  | none => .null
  | some a => f a

/-- Signatures, their parts, and what lists, tuples and mappings hold of these. -/
inductive Catalogued : Artifact → Prop where
  | signature (s : Signature) : Catalogued (.signature s)
  | fixed (p : FixedParameter) : Catalogued (.fixed p)
  | variadic (v : VariadicParameter) : Catalogued (.variadic v)
  | null : Catalogued .null
  | flags (s : Flags) : Catalogued (.flags s)
  | type (t : SemanticType) : Catalogued (.type t)
  | list {items : List Artifact} (h : ∀ a ∈ items, Catalogued a) : Catalogued (.list items)
  | tuple {items : List Artifact} (h : ∀ a ∈ items, Catalogued a) : Catalogued (.tuple items)
  | mapping {entries : List (String × Artifact)} (h : ∀ e ∈ entries, Catalogued e.2) :
      Catalogued (.mapping entries)

variable {nesting : Nat}

theorem encodeItems_eq_ok {items : List Artifact} {js : List Json}
    (h : List.Forall₂ (fun a j => encode nesting a = .ok j) items js) :
    encodeItems nesting items = .ok js := by
  induction h with
  | nil => rfl
  | cons ha _ ih => rw [encodeItems, ha, ih]; rfl

theorem encodeEntries_eq_ok {entries : List (String × Artifact)} {js : List Json}
    (h : List.Forall₂ (fun e j => encode nesting e.2 = .ok j) entries js) :
    encodeEntries nesting entries = .ok ((entries.map Prod.fst).zip js) := by
  induction h with
  | nil => rfl
  | cons he _ ih => rw [encodeEntries, he, ih]; rfl

theorem encode_list {items : List Artifact} {js : List Json}
    (h : List.Forall₂ (fun a j => encode nesting a = .ok j) items js) :
    encode nesting (.list items) = .ok (.array js) := by
  rw [encode, encodeItems_eq_ok h]
  rfl

theorem encode_tuple {items : List Artifact} {js : List Json}
    (h : List.Forall₂ (fun a j => encode nesting a = .ok j) items js) :
    encode nesting (.tuple items) = .ok (.array js) := by
  rw [encode, encodeItems_eq_ok h]
  rfl

theorem encode_mapping {entries : List (String × Artifact)} {js : List Json}
    (h : List.Forall₂ (fun e j => encode nesting e.2 = .ok j) entries js) :
    encode nesting (.mapping entries) = .ok (.object ((entries.map Prod.fst).zip js)) := by
  rw [encode, encodeEntries_eq_ok h]
  rfl

theorem encode_signature (s : Signature) :
    encode nesting (.signature s) = if s.isWritable then .ok s.record else .error .tooLong := by
  rw [encode, checked, s.isWritable_record]

theorem encode_fixed (p : FixedParameter) : encode nesting (.fixed p) = .ok p.record := by
  rw [encode]
  rfl

theorem encode_variadic (v : VariadicParameter) :
    encode nesting (.variadic v) = if v.isWritable then .ok v.record else .error .tooLong := by
  rw [encode, checked, isWritable_encodeVariadic]
  rfl

theorem pastLimit?_and (b c : Bool) :
    (pastLimit? nesting 0 b).or (pastLimit? nesting 0 c) = pastLimit? nesting 0 (b && c) := by
  cases b <;> simp [pastLimit?]

theorem met?_encodeItems_eq {items : List Artifact}
    (h : ∀ a ∈ items, met? (encode nesting a) = pastLimit? nesting 0 a.isWritable) :
    met? (encodeItems nesting items) = pastLimit? nesting 0 (itemsWritable items) := by
  induction items with
  | nil => rfl
  | cons a rest ih =>
    obtain ⟨ha, hrest⟩ := List.forall_mem_cons.mp h
    rw [encodeItems, EncodingFault.met?_both, ha, ih hrest, pastLimit?_and, itemsWritable]

theorem met?_encodeEntries_eq {entries : List (String × Artifact)}
    (h : ∀ e ∈ entries, met? (encode nesting e.2) = pastLimit? nesting 0 e.2.isWritable) :
    met? (encodeEntries nesting entries) = pastLimit? nesting 0 (entriesWritable entries) := by
  induction entries with
  | nil => rfl
  | cons e rest ih =>
    obtain ⟨he, hrest⟩ := List.forall_mem_cons.mp h
    rw [encodeEntries, EncodingFault.met?_both, he, ih hrest, pastLimit?_and, entriesWritable]

theorem Catalogued.met?_encode {a : Artifact} (h : a.Catalogued) :
    met? (encode nesting a) = pastLimit? nesting 0 a.isWritable := by
  induction h with
  | signature s => rw [encode, met?_checked nesting, s.isWritable_record, isWritable]
  | variadic v => rw [encode, met?_checked nesting, isWritable_encodeVariadic, isWritable]
  | list _ ih | tuple _ ih =>
    rw [encode, EncodingFault.met?_map, met?_encodeItems_eq ih, isWritable]
  | mapping _ ih => rw [encode, EncodingFault.met?_map, met?_encodeEntries_eq ih, isWritable]
  | _ => rfl

theorem Catalogued.encode_eq_ok {a : Artifact} (h : a.Catalogued) (hw : a.isWritable) :
    ∃ j, encode nesting a = .ok j := by
  rw [← EncodingFault.met?_eq_none_iff, h.met?_encode, hw]
  rfl

theorem Catalogued.encode_eq_tooLong {a : Artifact} (h : a.Catalogued)
    (hw : a.isWritable = false) : encode nesting a = .error .tooLong := by
  rw [← EncodingFault.met?_eq_some_iff, h.met?_encode, hw]
  rfl

end Artifact

namespace Json

theorem Regular.texts (words : List String) : (texts words).Regular :=
  .array (by simpa using fun w _ => .text w)

theorem regular_fixed (p : FixedParameter) : p.record.Regular :=
  .object (by simp [Keyed.keys])
    (by simpa using ⟨.text p.name, .text p.description, .text p.type.name, .bool p.required⟩)

theorem regular_variadic (v : VariadicParameter) : v.record.Regular :=
  .object (by simp [Keyed.keys])
    (by simpa using ⟨.text v.stem, .text v.description, .text v.elementType.name,
      .int v.minimumCount⟩)

theorem regular_profile (p : Profile) : p.record.Regular := by
  have hfixed : (Json.array (p.fixed.map FixedParameter.record)).Regular :=
    .array (by simpa using fun q _ => regular_fixed q)
  have hvariadic : (Json.ofOption VariadicParameter.record p.variadic).Regular := by
    cases p.variadic with
    | none => exact .null
    | some v => exact regular_variadic v
  exact .object (by simp [Keyed.keys])
    (by simpa using ⟨.text p.name, .text p.description, .text p.displayForm,
      .text p.returnType.name, hfixed, hvariadic, .texts p.flags.names⟩)

end Json

namespace Artifact

/-- The record of a signature, its parts encoded one by one, and containers of such values all tell
the same, and they fail for nothing but a count that is too long. The catalog that is saved is the
list of the records. -/
theorem encodings_agree (nesting : Nat) :
    (∀ s : Signature,
      encode nesting (.signature s) = (if s.isWritable then .ok s.record else .error .tooLong) ∧
      (∃ items, s.record.field? "fixed_parameters" = some (.array items) ∧
        List.Forall₂ (fun p j => encode nesting (.fixed p) = .ok j) s.fixed items) ∧
      (∃ j, s.record.field? "variable_parameter" = some j ∧
        encode nesting (.ofOption .variadic s.variadic) =
          if s.isWritable then .ok j else .error .tooLong) ∧
      (∃ j, s.record.field? "flags" = some j ∧ encode nesting (.flags s.flags) = .ok j) ∧
      ∃ j, s.record.field? "return_type" = some j ∧ encode nesting (.type s.returnType) = .ok j) ∧
    (∀ items : List Artifact, (∀ a ∈ items, a.Catalogued) →
      if ∀ a ∈ items, a.isWritable then
        ∃ js, List.Forall₂ (fun a j => encode nesting a = .ok j) items js ∧
          encode nesting (.list items) = .ok (.array js) ∧
          encode nesting (.tuple items) = .ok (.array js)
      else
        encode nesting (.list items) = .error .tooLong ∧
          encode nesting (.tuple items) = .error .tooLong) ∧
    (∀ entries : List (String × Artifact), (∀ e ∈ entries, e.2.Catalogued) →
      if ∀ e ∈ entries, e.2.isWritable then
        ∃ js, List.Forall₂ (fun e j => encode nesting e.2 = .ok j) entries js ∧
          encode nesting (.mapping entries) = .ok (.object ((entries.map Prod.fst).zip js))
      else encode nesting (.mapping entries) = .error .tooLong) ∧
    ∀ r : Registry,
      let j := Json.array (r.signatures.map fun s => s.record)
      if ∀ s ∈ r.signatures, s.isWritable then
        encode nesting (.list (r.signatures.map .signature)) = .ok j ∧
          ∃ text, Command.catalogText? r = some text ∧ j.write? (some "  ") = some text ∧
            Json.read? text = some j
      else
        encode nesting (.list (r.signatures.map .signature)) = .error .tooLong ∧
          Command.catalogText? r = none := by
  refine ⟨fun s => ⟨encode_signature s, ⟨_, rfl, ?_⟩, ⟨_, rfl, ?_⟩, ⟨_, rfl, rfl⟩,
    ⟨_, rfl, rfl⟩⟩, ?_, ?_, ?_⟩
  · rw [List.forall₂_map_right_iff]
    exact List.forall₂_same.mpr fun p _ => encode_fixed p
  · rw [Profile.isWritable]
    cases s.variadic with
    | none => rfl
    | some v =>
      rw [Option.all_some]
      exact encode_variadic v
  · intro items h
    split
    case isTrue hw =>
      obtain ⟨js, hjs⟩ :=
        exists_forall₂_of_forall_exists fun a ha => (h a ha).encode_eq_ok (hw a ha)
      exact ⟨js, hjs, encode_list hjs, encode_tuple hjs⟩
    case isFalse hw =>
      have hw : items.all isWritable = false := by simpa using hw
      exact ⟨(Catalogued.list h).encode_eq_tooLong (by simpa [isWritable] using hw),
        (Catalogued.tuple h).encode_eq_tooLong (by simpa [isWritable] using hw)⟩
  · intro entries h
    split
    case isTrue hw =>
      obtain ⟨js, hjs⟩ :=
        exists_forall₂_of_forall_exists fun e he => (h e he).encode_eq_ok (hw e he)
      exact ⟨js, hjs, encode_mapping hjs⟩
    case isFalse hw =>
      exact (Catalogued.mapping h).encode_eq_tooLong (by simpa [isWritable] using hw)
  · intro r j
    have hcatalogued : ∀ a ∈ r.signatures.map signature, a.Catalogued := by
      simpa using fun s _ => .signature s
    split
    case isTrue hw =>
      have hitems : List.Forall₂ (fun a j => encode nesting a = .ok j)
          (r.signatures.map .signature) (r.signatures.map fun s => s.record) := by
        rw [List.forall₂_map_left_iff, List.forall₂_map_right_iff]
        refine List.forall₂_same.mpr fun s hs => ?_
        rw [encode_signature, if_pos (hw s hs)]
      have hregular : j.Regular :=
        .array (by simpa using fun (s : Signature) _ => Json.regular_profile s.toProfile)
      have hblank : Json.Blank (some "  ") := by simp [Json.Blank, Json.isBlank]
      have hj : j.isWritable := by simpa [j] using hw
      obtain ⟨text, htext, hread⟩ := Json.exists_write? hblank hregular hj
      exact ⟨encode_list hitems, text, htext, htext, hread⟩
    case isFalse hw =>
      have hj : j.isWritable = false := by simpa [j] using hw
      refine ⟨(Catalogued.list hcatalogued).encode_eq_tooLong (by simpa [isWritable] using hw), ?_⟩
      rw [Command.catalogText?, Json.write?, hj]
      rfl

/-- A list of a signature and a pair of two of its parts, as an entry of a mapping. -/
theorem encodings_of_entry :
    let s := ((Draft.named "f").require "a" (.literalOf "x") "").signature
    let items : List Artifact := [.signature s, .tuple [.ofOption .variadic none, .flags s.flags]]
    (∀ e ∈ [("f", Artifact.list items)], e.2.Catalogued) ∧
      encode 255 (.mapping [("f", .list items)]) =
        .ok (.object [("f", .array [s.record, .array [.null, Artifact.encodeFlags s.flags]])]) := by
  intro s items
  have hpair : (Artifact.tuple [.ofOption .variadic none, .flags s.flags]).Catalogued :=
    .tuple (by simpa using ⟨.null, .flags _⟩)
  have hitems : (Artifact.list items).Catalogued :=
    .list (by simpa [items] using ⟨.signature s, hpair⟩)
  have hentries : ∀ e ∈ [("f", Artifact.list items)], e.2.Catalogued := by simpa using hitems
  have hwritable : (Artifact.list items).isWritable := rfl
  have hall := (encodings_agree 255).2.2.1 _ hentries
  rw [if_pos (by simpa using hwritable)] at hall
  obtain ⟨js, hjs, hmapping⟩ := hall
  obtain ⟨j, _, hj, hnil, rfl⟩ := List.forall₂_cons_left_iff.mp hjs
  have hs : encode 255 (.signature s) = .ok s.record := by
    rw [encode_signature]
    rfl
  have hlist : encode 255 (.list items) =
      .ok (.array [s.record, .array [.null, encodeFlags s.flags]]) :=
    encode_list (.cons hs (.cons rfl .nil))
  obtain rfl := Except.ok.inj (hlist.symm.trans hj)
  cases hnil
  exact ⟨hentries, hmapping⟩

/-- A signature has a record, but no encoding, and no more has what stands for its count. -/
theorem encode_of_long_count :
    let s := ((Draft.named "f").takeRest "item" .any leastTooLong "").signature
    encode 255 (.signature s) = .error .tooLong ∧
      encode 255 (.ofOption .variadic s.variadic) = .error .tooLong := by
  intro s
  have hs : s.isWritable = false := by
    simp [s, Profile.isWritable, Draft.signature, Draft.takeRest, VariadicParameter.isWritable,
      isWritable_leastTooLong]
  have hv : (ofOption .variadic s.variadic).isWritable = false := by
    simpa [s, Profile.isWritable, Draft.signature, Draft.takeRest, ofOption, isWritable] using hs
  exact ⟨(Catalogued.signature s).encode_eq_tooLong (by rw [isWritable, hs]),
    (Catalogued.variadic _).encode_eq_tooLong hv⟩

end Artifact

end FunctionCatalog
