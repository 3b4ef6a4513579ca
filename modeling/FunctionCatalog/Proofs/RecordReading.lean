import FunctionCatalog.Artifact
import FunctionCatalog.Schema
set_option autoImplicit false

/-!
What a record of a call reads back as. A record does not tell a name from a written string, and of
a type it keeps the name, so a name comes back as a string and a type as a plain symbol; nothing
else changes, at any depth. An argument comes back as it was exactly when it holds no name and its
type is plain.
-/

namespace FunctionCatalog

theorem Expression.induction {P : Expression → Prop} (number : ∀ s v, P (.number s v))
    (string : ∀ s v, P (.string s v)) (boolean : ∀ s v, P (.boolean s v))
    (identifier : ∀ s v, P (.identifier s v))
    (vector : ∀ s items, (∀ e ∈ items, P e) → P (.vector s items))
    (call : ∀ s f args, (∀ e ∈ args, P e) → P (.call s f args)) : ∀ e, P e
  | .number s v => number s v
  | .string s v => string s v
  | .boolean s v => boolean s v
  | .identifier s v => identifier s v
  | .vector s items => vector s items fun e _ =>
      Expression.induction number string boolean identifier vector call e
  | .call s f args => call s f args fun e _ =>
      Expression.induction number string boolean identifier vector call e

namespace Expression

mutual

/-- Names as strings, which is all that an exported record keeps of them. -/
def plain : Expression → Expression
  | .number s v => .number s v
  | .string s v => .string s v
  | .boolean s v => .boolean s v
  | .identifier s v => .string s v
  | .vector s items => .vector s (plainItems items)
  | .call s f args => .call s f (plainItems args)

def plainItems : List Expression → List Expression
  | [] => []
  | e :: rest => plain e :: plainItems rest

end

mutual

def nodes : Expression → List Expression
  | .vector s items => .vector s items :: nodesOf items
  | .call s f args => .call s f args :: nodesOf args
  | e => [e]

def nodesOf : List Expression → List Expression
  | [] => []
  | e :: rest => nodes e ++ nodesOf rest

end

theorem nodesOf_eq_flatMap (items : List Expression) : nodesOf items = items.flatMap nodes := by
  induction items with
  | nil => rfl
  | cons e rest ih => rw [nodesOf, ih, List.flatMap_cons]

theorem records_eq_map (items : List Expression) : records items = items.map record := by
  induction items with
  | nil => rfl
  | cons e rest ih => rw [records, ih, List.map_cons]

theorem mem_nodes_vector {e : Expression} {s : Option Span} {items : List Expression} :
    e ∈ (vector s items).nodes ↔ e = vector s items ∨ ∃ x ∈ items, e ∈ x.nodes := by
  simp [nodes, nodesOf_eq_flatMap]

theorem mem_nodes_call {e : Expression} {s : Option Span} {f : String} {args : List Expression} :
    e ∈ (call s f args).nodes ↔ e = call s f args ∨ ∃ x ∈ args, e ∈ x.nodes := by
  simp [nodes, nodesOf_eq_flatMap]

def NameFree (e : Expression) : Prop := ∀ s n, .identifier s n ∉ e.nodes

theorem nameFree_vector (s : Option Span) (items : List Expression) :
    (vector s items).NameFree ↔ ∀ e ∈ items, e.NameFree := by
  simp only [NameFree, mem_nodes_vector, reduceCtorEq, false_or, not_exists, not_and]
  exact ⟨fun h e he t n => h t n e he, fun h t n e he => h e he t n⟩

theorem nameFree_call (s : Option Span) (f : String) (args : List Expression) :
    (call s f args).NameFree ↔ ∀ e ∈ args, e.NameFree := by
  simp only [NameFree, mem_nodes_call, reduceCtorEq, false_or, not_exists, not_and]
  exact ⟨fun h e he t n => h t n e he, fun h t n e he => h e he t n⟩

theorem plainItems_eq_self_iff (items : List Expression) :
    plainItems items = items ↔ ∀ e ∈ items, e.plain = e := by
  induction items with
  | nil => simp [plainItems]
  | cons e rest ih => simp [plainItems, ih]

theorem plain_eq_self_iff (e : Expression) : e.plain = e ↔ e.NameFree := by
  induction e using Expression.induction with
  | number | string | boolean | identifier => simp [plain, NameFree, nodes]
  | vector s items ih =>
    rw [nameFree_vector, plain, vector.injEq, plainItems_eq_self_iff]
    simpa using forall₂_congr ih
  | call s f args ih =>
    rw [nameFree_call, plain, call.injEq, plainItems_eq_self_iff]
    simpa using forall₂_congr ih

end Expression

namespace Reading

variable {α : Type}

theorem mem_of_best? {readings : List (Option (Reading α))} {r : Reading α}
    (h : best? readings = some r) : some r ∈ readings := by
  induction readings generalizing r with
  | nil => simp [best?] at h
  | cons q rest ih =>
    cases q with
    | none => exact List.mem_cons_of_mem _ (ih h)
    | some a =>
      rw [best?] at h
      cases hb : best? rest with
      | none => simp_all
      | some b =>
        have hmem := ih hb
        simp only [hb, Option.some.injEq, better] at h
        split at h <;> simp_all

/-- Among readings that use equally many fields the first that needs no lenience is taken. -/
theorem best?_of_exact (before : List (Option (Reading α))) {after : List (Option (Reading α))}
    {r : Reading α} (hr : r.exact = true)
    (hb : ∀ q, some q ∈ before → q.given = r.given ∧ q.exact = false)
    (ha : ∀ q, some q ∈ after → q.given = r.given) :
    best? (before ++ some r :: after) = some r := by
  induction before with
  | nil =>
    rw [List.nil_append, best?]
    cases h : best? after with
    | none => rfl
    | some q => simp [better, ha q (mem_of_best? h), hr]
  | cons q before ih =>
    have hrest := ih fun q hq => hb q (List.mem_cons_of_mem _ hq)
    cases q with
    | none => exact hrest
    | some a =>
      obtain ⟨hg, he⟩ := hb a (by simp)
      rw [List.cons_append, best?, hrest]
      simp [better, hg, he, hr]

end Reading

namespace Schema

theorem span?_record (s : Span) : span? s.record = some { value := s, given := 5 } := by
  obtain ⟨_, _, _, _, file⟩ := s
  cases file <;> rfl

theorem nullable?_span (s : Option Span) :
    nullable? span? (.ofOption Span.record s) =
      some { value := s, given := if s.isSome then 5 else 0 } := by
  cases s with
  | none => rfl
  | some s =>
    have h : nullable? span? s.record = (span? s.record).map (Reading.map some) := rfl
    rw [Json.ofOption, h, span?_record]
    rfl

def spanned (s : Option Span) (rest : Fields) : Fields := ("span", .ofOption Span.record s) :: rest

def spanReading (s : Option Span) : Reading (Option Span) :=
  { value := s, given := if s.isSome then 6 else 1 }

theorem spanField_spanned (s : Option Span) (rest : Fields) :
    spanField (spanned s rest) = .ok (spanReading s) := by
  simp only [spanned, spanField, optional, Keyed.find?, if_true, nullable?_span, Checked.ofReading?]
  cases s <;> rfl

theorem find?_spanned (s : Option Span) (rest : Fields) {key : String} (h : "span" ≠ key) :
    Keyed.find? (spanned s rest) key = Keyed.find? rest key := by
  simp [spanned, Keyed.find?, h]

theorem itemsUnder?_spanned (s : Option Span) (rest : Fields) {key : String} (h : "span" ≠ key) :
    itemsUnder? key (spanned s rest) = itemsUnder? key rest := by
  cases s <;> simp [spanned, itemsUnder?, Json.ofOption, Span.record, h]

def node {α : Type} (s : Option Span) (make : Option Span → α → Expression)
    (part : Option (Reading α)) : Option (Reading Expression) :=
  part.map fun r => (spanReading s).pair make { r with given := r.given + 1 }

def calling (s : Option Span) (function : Option (Reading String))
    (args : Option (Reading (List Expression))) : Option (Reading Expression) :=
  function.bind fun f => args.map fun r =>
    ((spanReading s).pair Prod.mk { f with given := f.given + 1 }).pair
      (fun head args => .call head.1 head.2 args) { r with given := r.given + 1 }

theorem toOption_node {α : Type} (s : Option Span) (make : Option Span → α → Expression)
    (name : String) (part : Option (Reading α)) :
    (Checked.pair make (.ok (spanReading s)) (.ofReading? name part)).toOption =
      node s make part := by
  cases part <;> rfl

theorem toOption_calling (s : Option Span) (function : Option (Reading String))
    (args : Option (Reading (List Expression))) :
    (Checked.pair (fun head args => .call head.1 head.2 args)
        (.pair Prod.mk (.ok (spanReading s)) (.ofReading? "function" function))
        (.ofReading? "args" args)).toOption = calling s function args := by
  cases function <;> cases args <;> rfl

/-- What a record may stand for is seen from the fields behind its span. -/
theorem expression?_spanned (s : Option Span) (rest : Fields) :
    expression? (.object (spanned s rest)) =
      Reading.best?
        [node s .number ((Keyed.find? rest "value").bind number?),
          node s .string ((Keyed.find? rest "value").bind text?),
          node s .boolean ((Keyed.find? rest "value").bind bool?),
          node s .identifier ((Keyed.find? rest "value").bind text?),
          node s .vector (itemsUnder? "items" rest),
          calling s ((Keyed.find? rest "function").bind text?) (itemsUnder? "args" rest)] := by
  have hvalue : Keyed.find? (spanned s rest) "value" = Keyed.find? rest "value" :=
    find?_spanned s rest (by decide)
  have hfunction : Keyed.find? (spanned s rest) "function" = Keyed.find? rest "function" :=
    find?_spanned s rest (by decide)
  have hitems : itemsUnder? "items" (spanned s rest) = itemsUnder? "items" rest :=
    itemsUnder?_spanned s rest (by decide)
  have hargs : itemsUnder? "args" (spanned s rest) = itemsUnder? "args" rest :=
    itemsUnder?_spanned s rest (by decide)
  simp only [expression?, numberNode, stringNode, booleanNode, identifierNode, vectorNode,
    callNode, required, spanField_spanned, hvalue, hfunction, hitems, hargs, toOption_node,
    toOption_calling]

theorem expression?_value (s : Option Span) (v : Json) :
    expression? (.object (spanned s [("value", v)])) =
      Reading.best? [node s .number (number? v), node s .string (text? v),
        node s .boolean (bool? v), node s .identifier (text? v), none, none] := by
  have hitems : itemsUnder? "items" [("value", v)] = none := by cases v <;> rfl
  rw [expression?_spanned, hitems]
  simp [Keyed.find?, node, calling]

theorem expression?_items (s : Option Span) (items : List Json) :
    expression? (.object (spanned s [("items", .array items)])) =
      node s .vector (items? items) := by
  have hitems : itemsUnder? "items" [("items", .array items)] = items? items := by
    simp [itemsUnder?]
  rw [expression?_spanned, hitems]
  cases items? items <;> rfl

theorem expression?_args (s : Option Span) (f : String) (args : List Json) :
    expression? (.object (spanned s [("function", .text f), ("args", .array args)])) =
      calling s (some { value := f }) (items? args) := by
  have hitems : itemsUnder? "items" [("function", .text f), ("args", .array args)] = none := by
    simp [itemsUnder?]
  have hargs : itemsUnder? "args" [("function", .text f), ("args", .array args)] = items? args := by
    simp [itemsUnder?]
  rw [expression?_spanned, hitems, hargs]
  cases items? args <;> rfl

theorem number?_number (n : Number) : number? (.number n) = some { value := n } := by
  cases n <;> rfl

theorem text?_number (n : Number) : text? (.number n) = none := by cases n <;> rfl

theorem given_of_bool? {j : Json} {r : Reading Bool} (h : bool? j = some r) : r.given = 0 := by
  cases j <;> simp only [bool?, Option.map_eq_some_iff, Option.some.injEq, reduceCtorEq] at h
  case bool => rw [← h]
  all_goals
    obtain ⟨b, -, rfl⟩ := h
    rfl

theorem lenient_of_number?_text {t : String} {r : Reading Number}
    (h : number? (.text t) = some r) : r.given = 0 ∧ r.exact = false := by
  simp only [number?, Option.map_eq_some_iff] at h
  obtain ⟨n, -, rfl⟩ := h
  exact ⟨rfl, rfl⟩

section Node

variable {α : Type} {s : Option Span} {make : Option Span → α → Expression}
  {part : Option (Reading α)}

theorem given_of_node (hp : ∀ r, part = some r → r.given = 0) {q : Reading Expression}
    (h : some q = node s make part) : q.given = (spanReading s).given + 1 := by
  obtain ⟨r, hr, rfl⟩ := Option.map_eq_some_iff.mp h.symm
  simp [Reading.pair, hp r hr]

theorem lenient_of_node (hp : ∀ r, part = some r → r.given = 0 ∧ r.exact = false)
    {q : Reading Expression} (h : some q = node s make part) :
    q.given = (spanReading s).given + 1 ∧ q.exact = false := by
  refine ⟨given_of_node (fun r hr => (hp r hr).1) h, ?_⟩
  obtain ⟨r, hr, rfl⟩ := Option.map_eq_some_iff.mp h.symm
  simp [Reading.pair, hp r hr]

end Node

theorem expression?_number (s : Option Span) (n : Number) :
    expression? (.object (spanned s [("value", .number n)])) =
      some ((spanReading s).pair .number { value := n, given := 1 }) := by
  rw [expression?_value, number?_number, text?_number]
  -- A number is no text, and read as a truth value it needs lenience.
  refine Reading.best?_of_exact [] rfl (by simp) fun q hq => ?_
  simp only [node, Option.map_none, List.mem_cons, reduceCtorEq, List.not_mem_nil, or_false,
    false_or] at hq
  exact given_of_node (fun r => given_of_bool?) hq

theorem expression?_text (s : Option Span) (t : String) :
    expression? (.object (spanned s [("value", .text t)])) =
      some ((spanReading s).pair .string { value := t, given := 1 }) := by
  rw [expression?_value]
  -- A string and a name are read alike, and the string is the first of the two.
  refine Reading.best?_of_exact [node s .number (number? (.text t))] rfl ?_ ?_
  · intro q hq
    exact lenient_of_node (fun r => lenient_of_number?_text) (List.mem_singleton.mp hq)
  · intro q hq
    simp only [List.mem_cons, reduceCtorEq, List.not_mem_nil, or_false] at hq
    rcases hq with hq | hq
    · exact given_of_node (fun r => given_of_bool?) hq
    · exact given_of_node (fun r hr => by rw [← Option.some.inj hr]) hq

theorem expression?_bool (s : Option Span) (b : Bool) :
    expression? (.object (spanned s [("value", .bool b)])) =
      some ((spanReading s).pair .boolean { value := b, given := 1 }) := by
  rw [expression?_value]
  -- The number comes first, but a truth value is one only with lenience.
  refine Reading.best?_of_exact [node s .number (number? (.bool b)), none] rfl ?_ ?_
  · intro q hq
    simp only [List.mem_cons, reduceCtorEq, List.not_mem_nil, or_false] at hq
    exact lenient_of_node (fun r hr => by rw [← Option.some.inj hr]; exact ⟨rfl, rfl⟩) hq
  · intro q hq
    simp [node, text?] at hq

end Schema

namespace Expression

open Schema

theorem items?_records {items : List Expression}
    (h : ∀ e ∈ items, ∃ given, expression? e.record = some { value := e.plain, given }) :
    ∃ given, items? (records items) = some { value := plainItems items, given } := by
  induction items with
  | nil => exact ⟨0, rfl⟩
  | cons e items ih =>
    obtain ⟨g, hg⟩ := h e (by simp)
    obtain ⟨k, hk⟩ := ih fun e he => h e (by simp [he])
    refine ⟨g + k, ?_⟩
    rw [records, items?, hg, hk]
    rfl

/-- A record is read without lenience, and as what the expression is but for its names. -/
theorem expression?_record (e : Expression) :
    ∃ given, expression? e.record = some { value := e.plain, given } := by
  induction e using Expression.induction with
  | number s v => exact ⟨_, expression?_number s v⟩
  | string s v => exact ⟨_, expression?_text s v⟩
  | boolean s v => exact ⟨_, expression?_bool s v⟩
  | identifier s v => exact ⟨_, expression?_text s v⟩
  | vector s es ih =>
    obtain ⟨k, hk⟩ := items?_records ih
    have h := expression?_items s (records es)
    rw [hk] at h
    exact ⟨_, h⟩
  | call s f es ih =>
    obtain ⟨k, hk⟩ := items?_records ih
    have h := expression?_args s f (records es)
    rw [hk] at h
    exact ⟨_, h⟩

end Expression

namespace Argument

/-- An argument as its record has it: names as strings, the type as a plain symbol. -/
def plain (a : Argument) : Argument := ⟨a.expression.plain, a.staticType.plain⟩

theorem validate_record (a : Argument) :
    Model.argument.validate a.record = .ok (.argument a.plain) := by
  obtain ⟨g, hg⟩ := a.expression.expression?_record
  have he : Keyed.find? [("expression", a.expression.record),
      ("static_type", a.staticType.plain.record)] "expression" = some a.expression.record := by
    simp [Keyed.find?]
  have ht : Keyed.find? [("expression", a.expression.record),
      ("static_type", a.staticType.plain.record)] "static_type" =
        some a.staticType.plain.record := by simp [Keyed.find?]
  have hs : Schema.symbol? a.staticType.plain.record =
      some { value := a.staticType.plain, given := 1 } := rfl
  simp only [Model.validate, record, Schema.ofObject, Model.read, Schema.argument, Schema.required,
    Schema.optional, he, ht, hs, hg, Option.bind_some]
  rfl

end Argument

end FunctionCatalog
