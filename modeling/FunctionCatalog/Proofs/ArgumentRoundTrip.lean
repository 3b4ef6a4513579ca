import FunctionCatalog.Proofs.JsonText
import FunctionCatalog.Proofs.RecordReading
set_option autoImplicit false

namespace FunctionCatalog

def Number.IsFinite (n : Number) : Prop := ∃ units, n.value = .finite units

theorem Number.isFinite_whole (n : Int) : (whole n).IsFinite := ⟨_, rfl⟩

theorem Number.IsFinite.same_self {n : Number} (h : n.IsFinite) : n.same n := by
  obtain ⟨units, h⟩ := h
  simp [Number.same, h]

namespace Expression

def Finite (e : Expression) : Prop := ∀ s n, .number s n ∈ e.nodes → n.IsFinite

@[simp] theorem finite_number (s : Option Span) (n : Number) :
    (number s n).Finite ↔ n.IsFinite := by
  simp [Finite, nodes]

@[simp] theorem finite_identifier (s : Option Span) (n : String) : (identifier s n).Finite := by
  simp [Finite, nodes]

theorem finite_vector (s : Option Span) (items : List Expression) :
    (vector s items).Finite ↔ ∀ e ∈ items, e.Finite := by
  simp only [Finite, mem_nodes_vector, reduceCtorEq, false_or]
  exact ⟨fun h e he t n hn => h t n ⟨e, he, hn⟩, fun h t n ⟨e, he, hn⟩ => h e he t n hn⟩

theorem finite_call (s : Option Span) (f : String) (args : List Expression) :
    (call s f args).Finite ↔ ∀ e ∈ args, e.Finite := by
  simp only [Finite, mem_nodes_call, reduceCtorEq, false_or]
  exact ⟨fun h e he t n hn => h t n ⟨e, he, hn⟩, fun h t n ⟨e, he, hn⟩ => h e he t n hn⟩

theorem sameItems_plainItems_iff {items : List Expression}
    (h : ∀ e ∈ items, e.plain.same e ↔ e.NameFree) :
    sameItems (plainItems items) items ↔ ∀ e ∈ items, e.NameFree := by
  induction items with
  | nil => simp [plainItems, sameItems]
  | cons e items ih =>
    have he := h e (by simp)
    have hitems := ih fun e he => h e (by simp [he])
    simp [plainItems, sameItems, he, hitems]

theorem plain_same_iff {e : Expression} (h : e.Finite) : e.plain.same e ↔ e.NameFree := by
  induction e using Expression.induction with
  | number s n =>
    have := ((finite_number s n).mp h).same_self
    simp [plain, same, this, NameFree, nodes]
  | string | boolean | identifier => simp [plain, same, NameFree, nodes]
  | vector s items ih =>
    rw [finite_vector] at h
    rw [nameFree_vector, ← sameItems_plainItems_iff fun e he => ih e he (h e he)]
    simp [plain, same]
  | call s f args ih =>
    rw [finite_call] at h
    rw [nameFree_call, ← sameItems_plainItems_iff fun e he => ih e he (h e he)]
    simp [plain, same]

end Expression

namespace Json

theorem Regular.span (s : Option Span) : (Json.ofOption Span.record s).Regular := by
  cases s with
  | none => exact .null
  | some s =>
    refine .object (by simp [Keyed.keys]) ?_
    have hfile : (Json.ofOption Json.text s.file).Regular := by
      cases s.file with
      | none => exact .null
      | some path => exact .text path
    simp [Regular.int, hfile]

theorem Regular.number {n : Number} (h : n.IsFinite) : (Json.number n).Regular := by
  cases n with
  | whole n => exact .int n
  | double d => exact .double h

theorem Regular.records {items : List Expression} (h : ∀ e ∈ items, e.record.Regular) :
    (Json.array (Expression.records items)).Regular := by
  rw [Expression.records_eq_map]
  exact .array (by simpa using h)

theorem Regular.spanned (s : Option Span) {fields : List (String × Json)}
    (hk : (Keyed.keys (("span", Json.null) :: fields)).Nodup) (h : ∀ p ∈ fields, p.2.Regular) :
    (Json.object (("span", .ofOption Span.record s) :: fields)).Regular :=
  .object hk (List.forall_mem_cons.mpr ⟨.span s, h⟩)

theorem regular_record {e : Expression} (h : e.Finite) : e.record.Regular := by
  induction e using Expression.induction with
  | number s n =>
    have hn := Regular.number ((Expression.finite_number s n).mp h)
    exact .spanned s (by simp [Keyed.keys]) (by simpa using hn)
  | string s v => exact .spanned s (by simp [Keyed.keys]) (by simpa using .text v)
  | boolean s v => exact .spanned s (by simp [Keyed.keys]) (by simpa using .bool v)
  | identifier s v => exact .spanned s (by simp [Keyed.keys]) (by simpa using .text v)
  | vector s items ih =>
    rw [Expression.finite_vector] at h
    have hitems := Regular.records fun e he => ih e he (h e he)
    exact .spanned s (by simp [Keyed.keys]) (by simpa using hitems)
  | call s f args ih =>
    rw [Expression.finite_call] at h
    have hargs := Regular.records fun e he => ih e he (h e he)
    exact .spanned s (by simp [Keyed.keys]) (by simpa using ⟨.text f, hargs⟩)

end Json

namespace Argument

theorem plain_eq_self_iff (a : Argument) :
    a.plain = a ↔ a.expression.NameFree ∧ ∃ n, a.staticType = .symbol n := by
  rw [← a.expression.plain_eq_self_iff, ← a.staticType.plain_eq_self_iff]
  obtain ⟨e, t⟩ := a
  simp [plain]

theorem plain_same_iff {a : Argument} (h : a.expression.Finite) :
    a.plain.same a ↔ a.expression.NameFree ∧ ∃ n, a.staticType = .symbol n := by
  rw [← Expression.plain_same_iff h, ← a.staticType.plain_eq_self_iff, plain, same,
    Bool.and_eq_true, decide_eq_true_eq]

theorem regular_record {a : Argument} (h : a.expression.Finite) : a.record.Regular := by
  have htype : a.staticType.plain.record.Regular :=
    .object (by simp [Keyed.keys]) (by simpa using .text _)
  exact .object (by simp [Keyed.keys]) (by simpa using ⟨Json.regular_record h, htype⟩)

theorem encode_eq {nesting : Nat} {a : Argument} (within : a.expression.depth ≤ nesting) :
    Artifact.encode nesting (.argument a) =
      if a.expression.isWritable then .ok a.record else .error .tooLong := by
  rw [Artifact.encode, Artifact.nodeRecord, if_neg (Nat.not_lt.mpr within), Artifact.checked,
    a.isWritable_record]

/-- The record of an argument is written unless a whole number in it is too long. It then reads back
and validates as the argument in its plain form, which is the argument itself just when it holds no
name and has a plain type. -/
theorem round_trip (nesting : Nat) (a : Argument) (h : a.expression.Finite)
    (within : a.expression.depth ≤ nesting) :
    (a.expression.isWritable = false →
      Artifact.encode nesting (.argument a) = .error .tooLong) ∧
    (a.expression.isWritable →
      ∃ j, Artifact.encode nesting (.argument a) = .ok j ∧
        (∀ indent, Json.Blank indent →
          ∃ text, j.write? indent = some text ∧ Json.read? text = some j) ∧
        Model.argument.validate j = .ok (.argument a.plain)) ∧
    (a.plain = a ↔ a.expression.NameFree ∧ ∃ n, a.staticType = .symbol n) ∧
    (a.plain.same a ↔ a.expression.NameFree ∧ ∃ n, a.staticType = .symbol n) := by
  refine ⟨?_, ?_, a.plain_eq_self_iff, plain_same_iff h⟩
  · intro hw
    rw [encode_eq within, hw]
    rfl
  · intro hw
    have hj : a.record.isWritable := a.isWritable_record.trans hw
    refine ⟨a.record, ?_, ?_, a.validate_record⟩
    · rw [encode_eq within, if_pos hw]
    · exact fun _ hb => Json.exists_write? hb (regular_record h) hj

/-- Of this call the name comes back as a string and the type by its name; the numbers and the
order are kept. -/
theorem round_trip_call :
    let third : Double := ⟨0x3fd5555555555555⟩
    let args (name : Expression) : List Expression :=
      [name, .vector none [.number none (.whole 1), .number none (.double third)]]
    let call (name : Expression) : Expression :=
      .call (some ⟨1, 1, 1, 20, none⟩) "find" (args name)
    let a : Argument := ⟨call (.identifier none "x"), .literal "'x'" "x"⟩
    a.expression.Finite ∧ a.expression.depth ≤ 255 ∧ a.expression.isWritable ∧ a.plain ≠ a ∧
      ∃ j text, Artifact.encode 255 (.argument a) = .ok j ∧ j.write? = some text ∧
        Json.read? text = some j ∧
        Model.argument.validate j =
          .ok (.argument ⟨call (.string none "x"), .symbol "'x'"⟩) := by
  intro third args call a
  have hthird : Number.IsFinite (.double third) := ⟨third.magnitude, by decide +kernel⟩
  have h : a.expression.Finite := by
    simp [a, call, args, Expression.finite_call, Expression.finite_vector, Number.isFinite_whole,
      hthird]
  have hname : ¬ a.expression.NameFree := by
    simp [a, call, args, Expression.NameFree, Expression.nodes, Expression.nodesOf]
  have within : a.expression.depth ≤ 255 := by decide
  have hw : a.expression.isWritable := by decide +kernel
  obtain ⟨-, htrip, hself, -⟩ := round_trip 255 a h within
  obtain ⟨j, hencode, hread, hvalid⟩ := htrip hw
  obtain ⟨text, hwrite, hread⟩ := hread none (by simp [Json.Blank])
  exact ⟨h, within, hw, fun e => hname (hself.mp e).1, j, text, hencode, hwrite, hread, hvalid⟩

/-- The number is finite, but too long for any text. -/
theorem encode_of_long_literal :
    let a : Argument := ⟨.number none (.whole leastTooLong), .any⟩
    a.expression.Finite ∧ a.expression.depth ≤ 255 ∧
      Artifact.encode 255 (.argument a) = .error .tooLong := by
  intro a
  have within : a.expression.depth ≤ 255 := by decide
  have hw : a.expression.isWritable = false := by
    simp [a, Expression.isWritable, Number.isWritable, isWritable_leastTooLong]
  refine ⟨(Expression.finite_number _ _).mpr (Number.isFinite_whole _), within, ?_⟩
  rw [encode_eq within, hw]
  rfl

end Argument

end FunctionCatalog
