import FunctionCatalog.Proofs.ArgumentRoundTrip
set_option autoImplicit false

/-!
Reading a record twice. What a record of a class reads as is in normal form: it is of that class,
no expression below it is a name, and types below it are plain symbols. The record of an entity in
normal form reads back as that entity, so whatever lenience the first reading needed the second
changes nothing.
-/

namespace FunctionCatalog

namespace Reading

variable {α : Type}

/-- Which of two readings is better is decided by this number alone. -/
def rank (r : Reading α) : Nat := 2 * r.given + r.exact.toNat

theorem better_eq (a b : Reading α) : a.better b = if a.rank < b.rank then b else a := by
  have h : a.rank < b.rank ↔ a.given < b.given ∨ (a.given = b.given ∧ !a.exact ∧ b.exact) := by
    cases ha : a.exact <;> cases hb : b.exact <;> simp [rank, ha, hb] <;> omega
  simp only [better, h]

theorem better_assoc (a b c : Reading α) : a.better (b.better c) = (a.better b).better c := by
  simp only [better_eq]
  split_ifs <;> first | rfl | omega

theorem best?_cons_some (a : Reading α) (rest : List (Option (Reading α))) :
    best? (some a :: rest) = some ((best? rest).elim a a.better) := by
  rw [best?]
  cases best? rest <;> rfl

theorem best?_none (before after : List (Option (Reading α))) :
    best? (before ++ none :: after) = best? (before ++ after) := by
  induction before with
  | nil => rfl
  | cons q before ih =>
    cases q with
    | none => exact ih
    | some a => rw [List.cons_append, best?_cons_some, ih, List.cons_append, best?_cons_some]

theorem best?_cons_cons (a b : Reading α) (rest : List (Option (Reading α))) :
    best? (some a :: some b :: rest) = best? (some (a.better b) :: rest) := by
  rw [best?_cons_some, best?_cons_some, best?_cons_some]
  cases best? rest with
  | none => rfl
  | some c => exact congrArg some (better_assoc a b c)

theorem best?_leave_out {a b : Reading α} (h : b.rank ≤ a.rank)
    (middle after : List (Option (Reading α))) :
    best? (some a :: (middle ++ some b :: after)) = best? (some a :: (middle ++ after)) := by
  induction middle generalizing a with
  | nil => rw [List.nil_append, List.nil_append, best?_cons_cons, better_eq, if_neg h.not_gt]
  | cons q middle ih =>
    rw [List.cons_append, List.cons_append]
    cases q with
    | none => exact ih h
    | some c =>
      have hac : b.rank ≤ (a.better c).rank := by
        rw [better_eq]
        split_ifs <;> omega
      rw [best?_cons_cons, best?_cons_cons]
      exact ih hac

end Reading

namespace Checked

variable {α β γ : Type}

theorem map_eq_ok {f : α → β} {c : Checked α} {r : Reading β} (h : c.map f = .ok r) :
    ∃ q, c = .ok q ∧ r.value = f q.value := by
  cases c with
  | error names => simp [map, Except.map] at h
  | ok q =>
    cases h
    exact ⟨q, rfl, rfl⟩

theorem pair_eq_ok {f : α → β → γ} {a : Checked α} {b : Checked β} {r : Reading γ}
    (h : pair f a b = .ok r) :
    ∃ p q, a = .ok p ∧ b = .ok q ∧ r.value = f p.value q.value := by
  cases a with
  | error names => cases b <;> cases h
  | ok p =>
    cases b with
    | error names => cases h
    | ok q =>
      cases h
      exact ⟨p, q, rfl, rfl, rfl⟩

theorem ofReading?_eq_ok {name : String} {o : Option (Reading α)} {r : Reading α}
    (h : ofReading? name o = .ok r) : ∃ q, o = some q ∧ r.value = q.value := by
  cases o with
  | none => cases h
  | some q =>
    cases h
    exact ⟨q, rfl, rfl⟩

theorem eq_ok_of_toOption {c : Checked α} {r : Reading α} (h : c.toOption = some r) :
    c = .ok r := by
  cases c with
  | error names => cases h
  | ok q =>
    cases h
    rfl

end Checked

namespace Schema

theorem required_eq_ok {α : Type} {fields : Fields} {name : String}
    {read : Json → Option (Reading α)} {r : Reading α} (h : required fields name read = .ok r) :
    ∃ j q, read j = some q ∧ r.value = q.value := by
  obtain ⟨q, hq, hr⟩ := Checked.ofReading?_eq_ok h
  obtain ⟨j, -, hj⟩ := Option.bind_eq_some_iff.mp hq
  exact ⟨j, q, hj, hr⟩

/-- A name is read just as a string is, and the string comes first. -/
theorem best?_without_names (fields : Fields)
    (number boolean vector call : Option (Reading Expression)) :
    Reading.best? [number, (stringNode fields).toOption, boolean,
        (identifierNode fields).toOption, vector, call] =
      Reading.best? [number, (stringNode fields).toOption, boolean, vector, call] := by
  have hrest : Reading.best? [(stringNode fields).toOption, boolean,
        (identifierNode fields).toOption, vector, call] =
      Reading.best? [(stringNode fields).toOption, boolean, vector, call] := by
    rw [stringNode, identifierNode]
    cases spanField fields with
    | error names =>
      cases required fields "value" text? <;>
        exact Reading.best?_none [none, boolean] [vector, call]
    | ok p =>
      cases required fields "value" text? with
      | error names => exact Reading.best?_none [none, boolean] [vector, call]
      | ok q =>
        have hrank : (p.pair Expression.identifier q).rank ≤ (p.pair Expression.string q).rank :=
          Nat.le_refl _
        exact Reading.best?_leave_out hrank [boolean] [vector, call]
  cases number with
  | none => exact hrest
  | some r => rw [Reading.best?_cons_some, hrest, Reading.best?_cons_some]

theorem nameFree_of_nodes {fields : Fields} {items args : Option (Reading (List Expression))}
    (hitems : ∀ r, items = some r → ∀ e ∈ r.value, e.NameFree)
    (hargs : ∀ r, args = some r → ∀ e ∈ r.value, e.NameFree) {r : Reading Expression}
    (h : some r ∈ [(numberNode fields).toOption, (stringNode fields).toOption,
      (booleanNode fields).toOption, (vectorNode fields items).toOption,
      (callNode fields args).toOption]) : r.value.NameFree := by
  simp only [List.mem_cons, List.not_mem_nil, or_false] at h
  rcases h with h | h | h | h | h
  all_goals obtain ⟨p, q, hp, hq, hr⟩ := Checked.pair_eq_ok (Checked.eq_ok_of_toOption h.symm)
  · simp [hr, Expression.NameFree, Expression.nodes]
  · simp [hr, Expression.NameFree, Expression.nodes]
  · simp [hr, Expression.NameFree, Expression.nodes]
  · obtain ⟨items, hi, hv⟩ := Checked.ofReading?_eq_ok hq
    rw [hr, hv, Expression.nameFree_vector]
    exact hitems items hi
  · obtain ⟨args, ha, hv⟩ := Checked.ofReading?_eq_ok hq
    rw [hr, hv, Expression.nameFree_call]
    exact hargs args ha

mutual

theorem nameFree_of_expression? : ∀ {j : Json} {r : Reading Expression},
    expression? j = some r → r.value.NameFree
  | .object fields, r, h => by
    rw [expression?, best?_without_names] at h
    exact nameFree_of_nodes (fun _ => nameFree_of_itemsUnder? "items" fields)
      (fun _ => nameFree_of_itemsUnder? "args" fields) (Reading.mem_of_best? h)
  | .null, _, h | .bool _, _, h | .int _, _, h | .double _, _, h | .text _, _, h
  | .array _, _, h => by simp [expression?] at h

theorem nameFree_of_items? : ∀ (js : List Json) {r : Reading (List Expression)},
    items? js = some r → ∀ e ∈ r.value, e.NameFree
  | [], r, h => by
    cases h
    simp
  | j :: rest, r, h => by
    simp only [items?, Option.bind_eq_bind, Option.pure_def, Option.bind_eq_some_iff] at h
    obtain ⟨p, hp, q, hq, h⟩ := h
    cases h
    exact List.forall_mem_cons.mpr ⟨nameFree_of_expression? hp, nameFree_of_items? rest hq⟩

theorem nameFree_of_itemsUnder? (key : String) : ∀ (fields : Fields)
    {r : Reading (List Expression)}, itemsUnder? key fields = some r →
      ∀ e ∈ r.value, e.NameFree
  | [], r, h => by simp [itemsUnder?] at h
  | (k, .array items) :: rest, r, h => by
    rw [itemsUnder?] at h
    split at h
    · exact nameFree_of_items? items h
    · exact nameFree_of_itemsUnder? key rest h
  | (k, .null) :: rest, r, h | (k, .bool _) :: rest, r, h | (k, .int _) :: rest, r, h
  | (k, .double _) :: rest, r, h | (k, .text _) :: rest, r, h | (k, .object _) :: rest, r, h => by
    rw [itemsUnder?] at h
    · split at h
      · cases h
      · exact nameFree_of_itemsUnder? key rest h
    · simp

end

theorem symbol_of_symbol {fields : Fields} {r : Reading SemanticType}
    (h : symbol fields = .ok r) : ∃ n, r.value = .symbol n := by
  obtain ⟨q, -, hr⟩ := Checked.map_eq_ok h
  exact ⟨q.value, hr⟩

theorem symbol_of_symbol? {j : Json} {r : Reading SemanticType} (h : symbol? j = some r) :
    ∃ n, r.value = .symbol n := by
  have hread := Checked.eq_ok_of_toOption h
  cases j with
  | object fields => exact symbol_of_symbol hread
  | _ => cases hread

theorem symbols_of_symbols? {js : List Json} {r : Reading (List SemanticType)}
    (h : symbols? js = some r) : ∀ t ∈ r.value, ∃ n, t = .symbol n := by
  induction js generalizing r with
  | nil =>
    cases h
    simp
  | cons j rest ih =>
    simp only [symbols?, Option.bind_eq_bind, Option.pure_def, Option.bind_eq_some_iff] at h
    obtain ⟨p, hp, q, hq, h⟩ := h
    cases h
    exact List.forall_mem_cons.mpr ⟨symbol_of_symbol? hp, ih hq⟩

theorem symbols_of_members? {j : Json} {r : Reading (List SemanticType)}
    (h : members? j = some r) : ∀ t ∈ r.value, ∃ n, t = .symbol n := by
  cases j with
  | array items => exact symbols_of_symbols? h
  | _ => cases h

theorem symbol_of_optional {fields : Fields} {name : String} {r : Reading SemanticType}
    (h : optional fields name .any symbol? = .ok r) : ∃ n, r.value = .symbol n := by
  rw [optional] at h
  split at h
  · cases h
    exact ⟨_, rfl⟩
  · obtain ⟨q, hq, hr⟩ := Checked.ofReading?_eq_ok h
    rw [hr]
    exact symbol_of_symbol? hq

end Schema

namespace Model

/-- What records of a class read as: an entity of that class that has no names below it, and below
it no types but plain symbols. -/
inductive NormalForm : Model → Entity → Prop where
  | span (s : Span) : NormalForm .span (.span s)
  | symbol (n : String) : NormalForm .symbol (.type (.symbol n))
  | literalType (n v : String) : NormalForm .literalType (.type (.literal n v))
  | tupleType (n : String) {members : List SemanticType}
      (h : ∀ t ∈ members, ∃ n, t = .symbol n) : NormalForm .tupleType (.type (.tuple n members))
  | number (s : Option Span) (v : Number) : NormalForm .number (.expression (.number s v))
  | string (s : Option Span) (v : String) : NormalForm .string (.expression (.string s v))
  | boolean (s : Option Span) (v : Bool) : NormalForm .boolean (.expression (.boolean s v))
  | identifier (s : Option Span) (n : String) :
      NormalForm .identifier (.expression (.identifier s n))
  | vector (s : Option Span) {items : List Expression} (h : ∀ e ∈ items, e.NameFree) :
      NormalForm .vector (.expression (.vector s items))
  | call (s : Option Span) (f : String) {args : List Expression} (h : ∀ e ∈ args, e.NameFree) :
      NormalForm .call (.expression (.call s f args))
  | argument {a : Argument} (he : a.expression.NameFree) (ht : ∃ n, a.staticType = .symbol n) :
      NormalForm .argument (.argument a)

theorem validate_eq_ok {m : Model} {d : Json} {e : Entity} (h : m.validate d = .ok e) :
    ∃ fields r, m.read fields = .ok r ∧ r.value = e := by
  cases d with
  | object fields =>
    cases hr : m.read fields with
    | error names => simp [validate, Schema.ofObject, hr, Except.map] at h
    | ok r =>
      simp only [validate, Schema.ofObject, hr, Except.map, Except.ok.injEq] at h
      exact ⟨fields, r, hr, h⟩
  | _ => cases h

theorem normalForm_of_read {m : Model} {fields : Schema.Fields} {r : Reading Entity}
    (h : m.read fields = .ok r) : m.NormalForm r.value := by
  cases m
  all_goals obtain ⟨q, hq, hr⟩ := Checked.map_eq_ok h
  all_goals rw [hr]
  case span => exact .span _
  case symbol =>
    obtain ⟨n, hn⟩ := Schema.symbol_of_symbol hq
    rw [hn]
    exact .symbol n
  all_goals obtain ⟨a, b, ha, hb, hv⟩ := Checked.pair_eq_ok hq
  all_goals rw [hv]
  case literalType => exact .literalType _ _
  case tupleType =>
    obtain ⟨j, members, hj, hm⟩ := Schema.required_eq_ok hb
    rw [hm]
    exact .tupleType _ (Schema.symbols_of_members? hj)
  case number => exact .number _ _
  case string => exact .string _ _
  case boolean => exact .boolean _ _
  case identifier => exact .identifier _ _
  case vector =>
    obtain ⟨items, hi, hitems⟩ := Checked.ofReading?_eq_ok hb
    rw [hitems]
    exact .vector _ (Schema.nameFree_of_itemsUnder? "items" fields hi)
  case call =>
    obtain ⟨args, hi, hargs⟩ := Checked.ofReading?_eq_ok hb
    rw [hargs]
    exact .call _ _ (Schema.nameFree_of_itemsUnder? "args" fields hi)
  case argument =>
    obtain ⟨j, e, he, hvalue⟩ := Schema.required_eq_ok ha
    refine .argument ?_ (Schema.symbol_of_optional hb)
    rw [hvalue]
    exact Schema.nameFree_of_expression? he

theorem validate_object {m : Model} {fields : Schema.Fields} {r : Reading Entity}
    (h : m.read fields = .ok r) : m.validate (.object fields) = .ok r.value := by
  simp [validate, Schema.ofObject, h, Except.map]

theorem validate_node {m : Model} {fields : Schema.Fields} {c : Checked Expression}
    {r : Reading Expression} (hread : m.read fields = c.map .expression) (h : c = .ok r) :
    m.validate (.object fields) = .ok (.expression r.value) := by
  rw [h] at hread
  exact validate_object hread

theorem span_record (s : Span) : Model.span.validate s.record = .ok (.span s) := by
  obtain ⟨_, _, _, _, file⟩ := s
  cases file <;> rfl

theorem symbols?_record {members : List SemanticType} (h : ∀ t ∈ members, ∃ n, t = .symbol n) :
    ∃ given, Schema.symbols? (members.map fun t => .object [("name", .text t.name)]) =
      some { value := members, given } := by
  induction members with
  | nil => exact ⟨0, rfl⟩
  | cons t members ih =>
    obtain ⟨n, rfl⟩ := h t (by simp)
    obtain ⟨given, hgiven⟩ := ih fun t ht => h t (by simp [ht])
    refine ⟨1 + given, ?_⟩
    rw [List.map_cons, Schema.symbols?, hgiven]
    rfl

theorem tupleType_record (n : String) {members : List SemanticType}
    (h : ∀ t ∈ members, ∃ n, t = .symbol n) :
    Model.tupleType.validate (SemanticType.tuple n members).record =
      .ok (.type (.tuple n members)) := by
  obtain ⟨given, hgiven⟩ := symbols?_record h
  let fields : Schema.Fields := [("name", .text n),
    ("members", .array (members.map fun t => .object [("name", .text t.name)]))]
  have hname : Schema.required fields "name" Schema.text? = .ok { value := n, given := 1 } := rfl
  have hmembers : Schema.required fields "members" Schema.members? =
      .ok { value := members, given := given + 1 } := by
    have hfound : Keyed.find? fields "members" =
        some (.array (members.map fun t => .object [("name", .text t.name)])) := by
      simp [fields, Keyed.find?]
    rw [Schema.required, hfound, Option.bind_some, Schema.members?, hgiven]
    rfl
  rw [SemanticType.record, validate, Schema.ofObject, read, Schema.tupleType, hname, hmembers]
  rfl

theorem value_record {α : Type} (read : Json → Option (Reading α)) {j : Json} {value : α}
    (h : read j = some { value }) (make : Option Span → α → Expression) (s : Option Span) :
    Checked.pair make (Schema.spanField (Schema.spanned s [("value", j)]))
      (Schema.required (Schema.spanned s [("value", j)]) "value" read) =
        .ok ((Schema.spanReading s).pair make { value, given := 1 }) := by
  rw [Schema.spanField_spanned, Schema.required, Schema.find?_spanned s _ (by decide),
    Keyed.find?, if_pos rfl, Option.bind_some, h]
  rfl

theorem items?_nameFree {items : List Expression} (h : ∀ e ∈ items, e.NameFree) :
    ∃ given, Schema.items? (Expression.records items) = some { value := items, given } := by
  have hplain : Expression.plainItems items = items :=
    (Expression.plainItems_eq_self_iff items).mpr fun e he => e.plain_eq_self_iff.mpr (h e he)
  have hread : ∃ given, Schema.items? (Expression.records items) =
      some { value := Expression.plainItems items, given } :=
    Expression.items?_records fun e _ => e.expression?_record
  rwa [hplain] at hread

theorem vector_record (s : Option Span) {items : List Expression}
    (h : ∀ e ∈ items, e.NameFree) :
    Model.vector.validate (Expression.vector s items).record =
      .ok (.expression (.vector s items)) := by
  obtain ⟨given, hgiven⟩ := items?_nameFree h
  let fields := Schema.spanned s [("items", .array (Expression.records items))]
  have hread : Schema.vectorNode fields (Schema.itemsUnder? "items" fields) =
      .ok ((Schema.spanReading s).pair .vector { value := items, given := given + 1 }) := by
    rw [Schema.itemsUnder?_spanned s _ (by decide), Schema.itemsUnder?, if_pos rfl, hgiven,
      Schema.vectorNode, Schema.spanField_spanned]
    rfl
  exact validate_node (m := .vector) rfl hread

theorem call_record (s : Option Span) (f : String) {args : List Expression}
    (h : ∀ e ∈ args, e.NameFree) :
    Model.call.validate (Expression.call s f args).record =
      .ok (.expression (.call s f args)) := by
  obtain ⟨given, hgiven⟩ := items?_nameFree h
  let fields := Schema.spanned s
    [("function", .text f), ("args", .array (Expression.records args))]
  have hunder : Schema.itemsUnder? "args" fields = some { value := args, given } := by
    rw [Schema.itemsUnder?_spanned s _ (by decide)]
    simp [Schema.itemsUnder?, hgiven]
  have hread : Schema.callNode fields (Schema.itemsUnder? "args" fields) =
      .ok (((Schema.spanReading s).pair Prod.mk { value := f, given := 1 }).pair
        (fun head args => .call head.1 head.2 args) { value := args, given := given + 1 }) := by
    rw [hunder, Schema.callNode, Schema.spanField_spanned, Schema.required,
      Schema.find?_spanned s _ (by decide), Keyed.find?, if_pos rfl]
    rfl
  exact validate_node (m := .call) rfl hread

theorem validate_of_normalForm {m : Model} {e : Entity} (h : m.NormalForm e) :
    m.validate e.record = .ok e := by
  cases h with
  | span s => exact span_record s
  | symbol n => rfl
  | literalType n v => rfl
  | tupleType n h => exact tupleType_record n h
  | number s v =>
    exact validate_node (m := .number) rfl
      (value_record Schema.number? (Schema.number?_number v) Expression.number s)
  | string s v =>
    exact validate_node (m := .string) rfl
      (value_record Schema.text? (j := .text v) rfl Expression.string s)
  | boolean s v =>
    exact validate_node (m := .boolean) rfl
      (value_record Schema.bool? (j := .bool v) rfl Expression.boolean s)
  | identifier s n =>
    exact validate_node (m := .identifier) rfl
      (value_record Schema.text? (j := .text n) rfl Expression.identifier s)
  | vector s h => exact vector_record s h
  | call s f h => exact call_record s f h
  | @argument a he ht =>
    have hplain : a.plain = a := a.plain_eq_self_iff.mpr ⟨he, ht⟩
    exact a.validate_record.trans (by rw [hplain])

end Model

namespace Expression

theorem sameItems_self_iff {items : List Expression}
    (h : ∀ e ∈ items, e.same e ↔ ∀ s n, .number s n ∈ e.nodes → n.same n) :
    sameItems items items ↔ ∀ e ∈ items, ∀ s n, .number s n ∈ e.nodes → n.same n := by
  induction items with
  | nil => simp [sameItems]
  | cons e items ih =>
    rw [sameItems, Bool.and_eq_true, h e (by simp), ih fun e he => h e (by simp [he]),
      List.forall_mem_cons]

theorem same_self_iff (e : Expression) :
    e.same e ↔ ∀ s n, .number s n ∈ e.nodes → n.same n := by
  induction e using Expression.induction with
  | number s n => simp [same, nodes]
  | string | boolean | identifier => simp [same, nodes]
  | vector s items ih =>
    have hitems := sameItems_self_iff ih
    simp only [same, decide_true, Bool.true_and, hitems, mem_nodes_vector, reduceCtorEq, false_or,
      forall_exists_index, and_imp]
    exact ⟨fun h t n e he hn => h e he t n hn, fun h e he t n hn => h t n e he hn⟩
  | call s f args ih =>
    have hargs := sameItems_self_iff ih
    simp only [same, and_self, decide_true, Bool.true_and, hargs, mem_nodes_call, reduceCtorEq,
      false_or, forall_exists_index, and_imp]
    exact ⟨fun h t n e he hn => h e he t n hn, fun h e he t n hn => h t n e he hn⟩

theorem Finite.same_self {e : Expression} (h : e.Finite) : e.same e :=
  e.same_self_iff.mpr fun s n hn => (h s n hn).same_self

end Expression

namespace Entity

def Finite : Entity → Prop
  | .span _ | .type _ => True
  | .expression e => e.Finite
  | .argument a => a.expression.Finite

def same : Entity → Entity → Bool
  | .span s, .span t => s = t
  | .type t, .type u => t = u
  | .expression e, .expression f => e.same f
  | .argument a, .argument b => a.same b
  | _, _ => false

theorem Finite.same_self {e : Entity} (h : e.Finite) : e.same e := by
  cases e with
  | span s => simp [same]
  | type t => simp [same]
  | expression e => exact Expression.Finite.same_self h
  | argument a => simp [same, Argument.same, Expression.Finite.same_self h]

end Entity

/-- What a record reads as has a record that reads as the same again, of the same class in every
node, however much lenience the first reading needed. -/
theorem Model.validate_twice (m : Model) (d : Json) (e : Entity) (h : m.validate d = .ok e)
    (hf : e.Finite) : m.validate e.record = .ok e ∧ e.same e := by
  obtain ⟨fields, r, hread, rfl⟩ := validate_eq_ok h
  exact ⟨validate_of_normalForm (normalForm_of_read hread), hf.same_self⟩

/-- Here a text is a number where its span needs lenience as well, and a text where it has no span.
The second reading, with nothing left to be lenient about, keeps both. -/
theorem Model.validate_twice_lenient_call :
    let place : Json := .object [("s_line", .text " 1 "), ("s_col", .bool true),
      ("e_line", .text "1.0"), ("e_col", .int 9), ("colour", .text "red")]
    let d : Json := .object [("span", place), ("function", .text "find"), ("args", .array
      [.object [("value", .text "2"), ("span", place)], .object [("value", .text "2")],
        .object [("items", .array [.object [("value", .bool true), ("span", place)],
          .object [("value", .bool true)]])]])]
    let s : Option Span := some ⟨1, 1, 1, 9, none⟩
    let e : Entity := .expression (.call s "find"
      [.number s (.whole 2), .string none "2",
        .vector none [.number s (.whole 1), .boolean none true]])
    Model.call.validate d = .ok e ∧ e.Finite ∧ Model.call.validate e.record = .ok e ∧ e.same e := by
  intro place d s e
  have h : Model.call.validate d = .ok e := by rfl
  have hwhole (n : Int) : Number.IsFinite (.whole n) := ⟨_, rfl⟩
  have hf : e.Finite := by
    simp [e, Entity.Finite, Expression.Finite, Expression.nodes, Expression.nodesOf, or_imp,
      forall_and, hwhole]
  exact ⟨h, hf, Model.call.validate_twice d e h hf⟩

end FunctionCatalog
