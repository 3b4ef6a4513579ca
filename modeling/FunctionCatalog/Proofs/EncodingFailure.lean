import FunctionCatalog.Artifact
set_option autoImplicit false

/-!
Which values cannot be encoded. Encoding goes from outside in and from left to right, and fails for
the first value that it cannot write: one for which JSON has no form, a whole number that is too
long, or nodes that stand too deep in one another. Without the last two, only octets, bare things,
kinds and error codes are left to fail for.
-/

namespace FunctionCatalog

def EncodingFault.met? {α : Type} : Except EncodingFault α → Option EncodingFault
  | .ok _ => none
  | .error fault => some fault

namespace EncodingFault

variable {α β γ : Type}

theorem met?_eq_some_iff (x : Except EncodingFault α) (fault : EncodingFault) :
    met? x = some fault ↔ x = .error fault := by
  cases x <;> simp [met?]

theorem met?_eq_none_iff (x : Except EncodingFault α) : met? x = none ↔ ∃ a, x = .ok a := by
  cases x <;> simp [met?]

theorem met?_map (x : Except EncodingFault α) (f : α → β) :
    met? (do return f (← x)) = met? x := by
  cases x <;> rfl

/-- What comes second is reported only if the first is no failure. -/
theorem met?_both (x : Except EncodingFault α) (y : Except EncodingFault β) (f : α → β → γ) :
    met? (do
      let a ← x
      return f a (← y)) = (met? x).or (met? y) := by
  cases x with
  | error fault => rfl
  | ok a => cases y <;> rfl

end EncodingFault

theorem findSome?_congr {α β : Type} {f g : α → Option β} {l : List α}
    (h : ∀ a ∈ l, f a = g a) : l.findSome? f = l.findSome? g := by
  induction l with
  | nil => rfl
  | cons a l ih =>
    obtain ⟨ha, hl⟩ := List.forall_mem_cons.mp h
    rw [List.findSome?_cons, List.findSome?_cons, ha, ih hl]

open EncodingFault (met?)

namespace Artifact

def unsupported? : Artifact → Option String
  | .bytes _ => some "bytes"
  | .thing => some "object"
  | .kind k => some k.sort.typeName
  | .code _ => some "ErrorCode"
  | _ => none

def depth : Artifact → Nat
  | .expression e => e.depth
  | .argument a => a.expression.depth
  | _ => 0

def pastLimit? (nesting depth : Nat) (writable : Bool) : Option EncodingFault :=
  if nesting < depth then some .tooDeep else if writable then none else some .tooLong

/-- The failure that a value is to blame for, and not what stands in it. -/
def fault? (nesting : Nat) : Artifact → Option EncodingFault
  | .list _ | .tuple _ | .set _ | .frozenSet _ | .mapping _ => none
  | a =>
    match a.unsupported? with
    | some typeName => some (.unsupported typeName)
    | none => pastLimit? nesting a.depth a.isWritable

theorem met?_checked (nesting : Nat) (j : Json) :
    met? (checked j) = pastLimit? nesting 0 j.isWritable := by
  cases h : j.isWritable <;> simp [checked, pastLimit?, met?, h]

theorem met?_nodeRecord (nesting : Nat) (e : Expression) (j : Json) :
    met? (nodeRecord nesting e j) = pastLimit? nesting e.depth j.isWritable := by
  unfold nodeRecord
  split
  case isTrue h => simp [pastLimit?, met?, h]
  case isFalse h => rw [met?_checked nesting, pastLimit?, pastLimit?, if_neg h, if_neg (by simp)]

mutual

/-- A value and all that stand in it, from outside in and from left to right. Signatures, nodes and
their like count as one, as they are made of texts, numbers and types alone. -/
def nodes : Artifact → List Artifact
  | .list items => .list items :: nodesOf items
  | .tuple items => .tuple items :: nodesOf items
  | .set items => .set items :: nodesOf items
  | .frozenSet items => .frozenSet items :: nodesOf items
  | .mapping entries => .mapping entries :: nodesUnder entries
  | a => [a]

def nodesOf : List Artifact → List Artifact
  | [] => []
  | a :: rest => nodes a ++ nodesOf rest

def nodesUnder : List (String × Artifact) → List Artifact
  | [] => []
  | (_, a) :: rest => nodes a ++ nodesUnder rest

end

theorem isWritable_encodeVariadic (v : VariadicParameter) :
    (encodeVariadic v).isWritable = v.isWritable := by
  simp [encodeVariadic, encodeType, VariadicParameter.isWritable]

section Encoding

variable (nesting : Nat)

mutual

theorem met?_encode (a : Artifact) :
    met? (encode nesting a) = a.nodes.findSome? (fault? nesting) := by
  cases a with
  | list items | tuple items | set items | frozenSet items =>
    rw [encode, EncodingFault.met?_map, met?_encodeItems items]
    rfl
  | mapping entries =>
    rw [encode, EncodingFault.met?_map, met?_encodeEntries entries]
    rfl
  | number | signature | span | variadic =>
    simp only [encode, met?_checked nesting, Json.isWritable_number, Profile.isWritable_record,
      Span.isWritable_record, isWritable_encodeVariadic, nodes, List.findSome?_singleton, fault?,
      unsupported?, depth, isWritable]
  | expression | argument =>
    simp only [encode, met?_nodeRecord, Expression.isWritable_record, Argument.isWritable_record,
      nodes, List.findSome?_singleton, fault?, unsupported?, depth, isWritable]
  | _ => rfl

theorem met?_encodeItems (items : List Artifact) :
    met? (encodeItems nesting items) = (nodesOf items).findSome? (fault? nesting) := by
  cases items with
  | nil => rfl
  | cons a rest =>
    rw [encodeItems, EncodingFault.met?_both, met?_encode a, met?_encodeItems rest, nodesOf,
      List.findSome?_append]

theorem met?_encodeEntries (entries : List (String × Artifact)) :
    met? (encodeEntries nesting entries) = (nodesUnder entries).findSome? (fault? nesting) := by
  cases entries with
  | nil => rfl
  | cons entry rest =>
    obtain ⟨key, a⟩ := entry
    rw [encodeEntries, EncodingFault.met?_both, met?_encode a, met?_encodeEntries rest, nodesUnder,
      List.findSome?_append]

end

end Encoding

mutual

theorem isWritable_of_mem_nodes {a : Artifact} (h : a.isWritable) :
    ∀ b ∈ a.nodes, b.isWritable := by
  cases a with
  | list items | tuple items | set items | frozenSet items =>
    exact List.forall_mem_cons.mpr ⟨h, isWritable_of_mem_nodesOf h⟩
  | mapping entries => exact List.forall_mem_cons.mpr ⟨h, isWritable_of_mem_nodesUnder h⟩
  | _ => exact List.forall_mem_singleton.mpr h

theorem isWritable_of_mem_nodesOf {items : List Artifact} (h : itemsWritable items) :
    ∀ b ∈ nodesOf items, b.isWritable := by
  cases items with
  | nil => nofun
  | cons a rest =>
    rw [itemsWritable, Bool.and_eq_true] at h
    exact List.forall_mem_append.mpr
      ⟨isWritable_of_mem_nodes h.1, isWritable_of_mem_nodesOf h.2⟩

theorem isWritable_of_mem_nodesUnder {entries : List (String × Artifact)}
    (h : entriesWritable entries) : ∀ b ∈ nodesUnder entries, b.isWritable := by
  cases entries with
  | nil => nofun
  | cons entry rest =>
    rw [entriesWritable, Bool.and_eq_true] at h
    exact List.forall_mem_append.mpr
      ⟨isWritable_of_mem_nodes h.1, isWritable_of_mem_nodesUnder h.2⟩

end

theorem fault?_of_within {nesting : Nat} {a : Artifact} (short : a.isWritable)
    (shallow : a.depth ≤ nesting) :
    a.fault? nesting = a.unsupported?.map EncodingFault.unsupported := by
  have hlimit : pastLimit? nesting a.depth a.isWritable = none := by
    rw [pastLimit?, if_neg (Nat.not_lt.mpr shallow), if_pos short]
  cases a with
  | list | tuple | set | frozenSet | mapping => rfl
  | bytes | thing | kind | code => rfl
  | _ => exact hlimit

/-- Encoding fails exactly for a value with something in it that is to blame, and for the first of
what is. Within the limits these are the values that have no form in JSON: without any there is a
JSON value, and otherwise the failure names the type of the first. -/
theorem encode_refuses_first (nesting : Nat) (a : Artifact) :
    (∀ fault, encode nesting a = .error fault ↔
      ∃ before node after, a.nodes = before ++ node :: after ∧ node.fault? nesting = some fault ∧
        ∀ earlier ∈ before, earlier.fault? nesting = none) ∧
    ((∃ j, encode nesting a = .ok j) ↔ ∀ node ∈ a.nodes, node.fault? nesting = none) ∧
    (a.isWritable → (∀ node ∈ a.nodes, node.depth ≤ nesting) →
      ((∃ fault, encode nesting a = .error fault) ↔ ∃ leaf ∈ a.nodes, leaf.unsupported?.isSome) ∧
      (∀ fault, encode nesting a = .error fault ↔ ∃ typeName, fault = .unsupported typeName ∧
        ∃ before leaf after, a.nodes = before ++ leaf :: after ∧
          leaf.unsupported? = some typeName ∧ ∀ earlier ∈ before, earlier.unsupported? = none) ∧
      ((∃ j, encode nesting a = .ok j) ↔ ∀ leaf ∈ a.nodes, leaf.unsupported? = none)) := by
  have hfirst (fault : EncodingFault) : encode nesting a = .error fault ↔
      a.nodes.findSome? (fault? nesting) = some fault := by
    rw [← met?_encode, EncodingFault.met?_eq_some_iff]
  have hok : (∃ j, encode nesting a = .ok j) ↔ ∀ node ∈ a.nodes, node.fault? nesting = none := by
    rw [← EncodingFault.met?_eq_none_iff, met?_encode, List.findSome?_eq_none_iff]
  refine ⟨fun fault => (hfirst fault).trans List.findSome?_eq_some_iff, hok, ?_⟩
  intro short shallow
  have hwithin : ∀ node ∈ a.nodes,
      node.fault? nesting = node.unsupported?.map EncodingFault.unsupported :=
    fun node hnode => fault?_of_within (isWritable_of_mem_nodes short node hnode)
      (shallow node hnode)
  have hnames : a.nodes.findSome? (fault? nesting) =
      (a.nodes.findSome? unsupported?).map EncodingFault.unsupported := by
    rw [List.map_findSome?]
    exact findSome?_congr hwithin
  refine ⟨?_, fun fault => ?_, ?_⟩
  · simp only [hfirst, hnames, ← Option.isSome_iff_exists, Option.isSome_map,
      List.findSome?_isSome_iff]
  · rw [hfirst, hnames, Option.map_eq_some_iff]
    refine exists_congr fun typeName => ?_
    rw [List.findSome?_eq_some_iff, and_comm, eq_comm (a := fault)]
  · rw [← EncodingFault.met?_eq_none_iff, met?_encode, hnames, Option.map_eq_none_iff,
      List.findSome?_eq_none_iff]

/-- The class comes before the octets, under a key, in a set, in a tuple. -/
theorem encode_refuses_kind :
    let a : Artifact :=
      .tuple [.text "a", .mapping [("k", .set [.kind (.ofName "TypeSymbol")])], .bytes "x"]
    a.isWritable ∧ (∀ node ∈ a.nodes, node.depth ≤ 255) ∧
      encode 255 a = .error (.unsupported "ModelMetaclass") := by
  intro a
  have shallow : ∀ node ∈ a.nodes, node.depth ≤ 255 := by
    simp [a, nodes, nodesOf, nodesUnder, depth]
  refine ⟨rfl, shallow, (((encode_refuses_first 255 a).2.2 rfl shallow).2.1 _).mpr ?_⟩
  refine ⟨_, rfl, [a, .text "a", _, _], .kind (.ofName "TypeSymbol"), [.bytes "x"], rfl, rfl, ?_⟩
  simp [a, unsupported?]

/-- A number that is too long stops the encoding before the octets do, and without them. -/
theorem encode_of_long_number :
    let long : Artifact := .number (.whole leastTooLong)
    encode 255 (.list [long, .bytes "x"]) = .error .tooLong ∧
      (∃ leaf ∈ (Artifact.list [long, .bytes "x"]).nodes, leaf.unsupported?.isSome) ∧
      encode 255 long = .error .tooLong ∧ ∀ leaf ∈ long.nodes, leaf.unsupported? = none := by
  intro long
  have hlong : encode 255 long = .error .tooLong := by
    rw [encode, checked, Json.isWritable_number, Number.isWritable, isWritable_leastTooLong]
    rfl
  refine ⟨?_, ⟨.bytes "x", by simp [nodes, nodesOf], rfl⟩, hlong, ?_⟩
  · rw [encode, encodeItems, hlong]
    rfl
  · simp [long, nodes, unsupported?]

end Artifact

end FunctionCatalog
