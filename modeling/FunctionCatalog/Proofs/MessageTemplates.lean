import FunctionCatalog.Registry
import FunctionCatalog.Proofs.CompoundText
import FunctionCatalog.Proofs.FaultReports
set_option autoImplicit false

/-!
Messages against the texts of their templates. The text of a template is read once, from left to
right: a hole gives the text of its detail, and reading goes on behind the hole, so nothing that a
detail brings in is read. A message comes out exactly if no detail has a name that errors take for
themselves and every hole has a detail that can be written, and it depends on no other details. The
details of every fault of the library fill the template of its code, but for a count that is too
long.
-/

namespace FunctionCatalog

def Piece.chars : Piece → List Char
  | .text s | .hole s => s.toList

namespace Template

abbrev Plain (text : List Char) : Prop := '\x7b' ∉ text ∧ '\x7d' ∉ text

/-- What comes of reading the text of a template: a message, or what is wrong with the first hole
that cannot be filled. -/
inductive Reads (details : Details) : List Char → Except DetailFault (List Char) → Prop where
  | done : Reads details [] (.ok [])
  | char {c : Char} {source : List Char} {result : Except DetailFault (List Char)}
      (plain : Plain [c]) (rest : Reads details source result) :
      Reads details (c :: source) (result.map ([c] ++ ·))
  | hole {name : String} {detail : Json} {source : List Char}
      {result : Except DetailFault (List Char)} (plain : Plain name.toList)
      (given : details.find? name = some detail) (short : detail.isWritable)
      (rest : Reads details source result) :
      Reads details ('\x7b' :: (name.toList ++ '\x7d' :: source))
        (result.map (detail.inMessage.toList ++ ·))
  | missing {name : String} {source : List Char} (plain : Plain name.toList)
      (absent : details.find? name = none) :
      Reads details ('\x7b' :: (name.toList ++ '\x7d' :: source)) (.error (.missing name))
  | tooLong {name : String} {detail : Json} {source : List Char} (plain : Plain name.toList)
      (given : details.find? name = some detail) (long : detail.isWritable = false) :
      Reads details ('\x7b' :: (name.toList ++ '\x7d' :: source)) (.error .tooLong)

section Holes

variable {details : Details} {hole : String}

/-- A hole has its detail, and the detail can be written. -/
def Fills (details : Details) (hole : String) : Prop :=
  ∃ detail, details.find? hole = some detail ∧ detail.isWritable

theorem holeFault?_eq_none_iff : holeFault? details hole = none ↔ Fills details hole := by
  unfold holeFault? Fills
  cases details.find? hole <;> simp

theorem holeFault?_eq_missing_iff {name : String} :
    holeFault? details hole = some (.missing name) ↔ hole = name ∧ hole ∉ details.keys := by
  rw [← Keyed.find?_eq_none_iff, holeFault?]
  cases details.find? hole with
  | none => simp
  | some detail => cases detail.isWritable <;> simp

theorem holeFault?_eq_tooLong_iff :
    holeFault? details hole = some .tooLong ↔
      ∃ detail, details.find? hole = some detail ∧ detail.isWritable = false := by
  unfold holeFault?
  cases details.find? hole with
  | none => simp
  | some detail => cases detail.isWritable <;> simp

end Holes

section Reading

variable {details : Details} {source : List Char} {result : Except DetailFault (List Char)}

theorem reads_nil : Reads details [] result ↔ result = .ok [] := by
  constructor
  · intro h
    cases h
    rfl
  · intro h
    subst h
    exact .done

theorem reads_char {c : Char} (plain : Plain [c]) :
    Reads details (c :: source) result ↔
      ∃ rest, Reads details source rest ∧ result = rest.map ([c] ++ ·) := by
  constructor
  · intro h
    cases h with
    | char _ rest => exact ⟨_, rest, rfl⟩
    | hole | missing | tooLong => exact absurd plain (by decide)
  · intro ⟨rest, h, hresult⟩
    subst hresult
    exact .char plain h

theorem reads_plain {text : List Char} (plain : Plain text) :
    Reads details (text ++ source) result ↔
      ∃ rest, Reads details source rest ∧ result = rest.map (text ++ ·) := by
  induction text generalizing result with
  | nil =>
    have hnil (rest : Except DetailFault (List Char)) : rest.map ([] ++ ·) = rest := by
      cases rest <;> rfl
    constructor
    · intro h
      exact ⟨result, h, (hnil result).symm⟩
    · intro ⟨rest, h, hresult⟩
      rwa [hresult, hnil]
  | cons c text ih =>
    have hcons (rest : Except DetailFault (List Char)) :
        (rest.map (text ++ ·)).map ([c] ++ ·) = rest.map (c :: text ++ ·) := by
      cases rest <;> rfl
    have hc : Plain [c] := by simp_all [Plain]
    have ht : Plain text := by simp_all [Plain]
    rw [List.cons_append, reads_char hc]
    simp only [ih ht]
    constructor
    · intro ⟨middle, ⟨rest, h, hmiddle⟩, hresult⟩
      exact ⟨rest, h, by rw [hresult, hmiddle, hcons]⟩
    · intro ⟨rest, h, hresult⟩
      exact ⟨rest.map (text ++ ·), ⟨rest, h, rfl⟩, by rw [hresult, hcons]⟩

theorem hole_inj {m n : String} (hm : Plain m.toList) (hn : Plain n.toList) {r s : List Char}
    (h : '\x7b' :: (m.toList ++ '\x7d' :: r) = '\x7b' :: (n.toList ++ '\x7d' :: s)) :
    m = n ∧ r = s := by
  obtain ⟨hname, hrest⟩ := Text.append_cons_inj hm.2 hn.2 (List.cons.inj h).2
  exact ⟨String.toList_inj.mp hname, hrest⟩

theorem reads_hole {name : String} (plain : Plain name.toList) :
    Reads details ('\x7b' :: (name.toList ++ '\x7d' :: source)) result ↔
      (∃ fault, holeFault? details name = some fault ∧ result = .error fault) ∨
        ∃ detail rest, details.find? name = some detail ∧ detail.isWritable ∧
          Reads details source rest ∧ result = rest.map (detail.inMessage.toList ++ ·) := by
  constructor
  · intro h
    generalize htext : '\x7b' :: (name.toList ++ '\x7d' :: source) = text at h
    cases h with
    | done => cases htext
    | char hplain =>
      obtain ⟨rfl, -⟩ := List.cons.inj htext
      exact absurd hplain (by decide)
    | hole hplain given short rest =>
      obtain ⟨rfl, rfl⟩ := hole_inj plain hplain htext
      exact .inr ⟨_, _, given, short, rest, rfl⟩
    | missing hplain absent =>
      obtain ⟨rfl, rfl⟩ := hole_inj plain hplain htext
      exact .inl ⟨_, by rw [holeFault?, absent], rfl⟩
    | tooLong hplain given long =>
      obtain ⟨rfl, rfl⟩ := hole_inj plain hplain htext
      exact .inl ⟨_, holeFault?_eq_tooLong_iff.mpr ⟨_, given, long⟩, rfl⟩
  · rintro (⟨fault, hfault, rfl⟩ | ⟨detail, rest, given, short, h, rfl⟩)
    · cases hgiven : details.find? name with
      | none =>
        obtain rfl : .missing name = fault := by simpa [holeFault?, hgiven] using hfault
        exact .missing plain hgiven
      | some detail =>
        obtain ⟨long, rfl⟩ : detail.isWritable = false ∧ .tooLong = fault := by
          simpa [holeFault?, hgiven] using hfault
        exact .tooLong plain hgiven long
    · exact .hole plain given short h

end Reading

section Filling

variable {details : Details} {t : Template} {name : String}

theorem fill_eq_error_iff {fault : DetailFault} :
    t.fill details = .error fault ↔ t.fault? details = some fault := by
  unfold fill
  cases t.fault? details <;> simp

theorem fill_text (s : String) : fill (.text s :: t) details = (fill t details).map (s ++ ·) := by
  have hfault : fault? details (.text s :: t) = fault? details t := rfl
  rw [fill, fill, hfault]
  cases fault? details t <;> rfl

theorem fault?_hole :
    fault? details (.hole name :: t) = (holeFault? details name).or (fault? details t) := by
  have hholes : holes (.hole name :: t) = name :: holes t := rfl
  rw [fault?, hholes, List.findSome?_cons]
  cases holeFault? details name <;> rfl

theorem fill_hole_of_fault {fault : DetailFault} (h : holeFault? details name = some fault) :
    fill (.hole name :: t) details = .error fault := by
  rw [fill_eq_error_iff, fault?_hole, h, Option.some_or]

theorem fill_hole_of_given {detail : Json} (given : details.find? name = some detail)
    (short : detail.isWritable) :
    fill (.hole name :: t) details = (fill t details).map (detail.inMessage ++ ·) := by
  rw [fill, fill, fault?_hole, holeFault?_eq_none_iff.mpr ⟨detail, given, short⟩, Option.none_or,
    render, given]
  cases fault? details t <;> rfl

end Filling

theorem map_toList_append (s : String) (result : Except DetailFault String) :
    (result.map (s ++ ·)).map String.toList = (result.map String.toList).map (s.toList ++ ·) := by
  cases result <;> simp [Except.map]

/-- Filling a template piece by piece is reading its text. -/
theorem reads_source {details : Details} {t : Template} (plain : ∀ p ∈ t, Plain p.chars)
    (result : Except DetailFault (List Char)) :
    Reads details t.source.toList result ↔ result = (t.fill details).map String.toList := by
  induction t generalizing result with
  | nil => exact reads_nil
  | cons p t ih =>
    obtain ⟨hp, ht⟩ := List.forall_mem_cons.mp plain
    cases p with
    | text s =>
      have hp : Plain s.toList := hp
      rw [source, String.toList_append, reads_plain hp, fill_text, map_toList_append]
      simp [ih ht]
    | hole name =>
      have htext : (source (.hole name :: t)).toList =
          '\x7b' :: (name.toList ++ '\x7d' :: (source t).toList) := by simp [source]
      rw [htext, reads_hole hp]
      cases hfault : holeFault? details name with
      | some fault =>
        rw [fill_hole_of_fault hfault]
        constructor
        · rintro (⟨other, hother, rfl⟩ | ⟨detail, -, given, short, -⟩)
          · cases hother
            rfl
          · simp [holeFault?_eq_none_iff.mpr ⟨detail, given, short⟩] at hfault
        · rintro rfl
          exact .inl ⟨fault, rfl, rfl⟩
      | none =>
        obtain ⟨detail, given, short⟩ := holeFault?_eq_none_iff.mp hfault
        simp [fill_hole_of_given given short, given, short, ih ht, map_toList_append]

theorem fill_congr {details others : Details} {t : Template}
    (h : ∀ name ∈ t.holes, details.find? name = others.find? name) :
    t.fill details = t.fill others := by
  induction t with
  | nil => rfl
  | cons p t ih =>
    cases p with
    | text s => rw [fill_text, fill_text, ih h]
    | hole name =>
      obtain ⟨hname, ht⟩ := List.forall_mem_cons.mp h
      have hsame : holeFault? details name = holeFault? others name := by
        rw [holeFault?, holeFault?, hname]
      cases hfault : holeFault? details name with
      | some fault =>
        rw [fill_hole_of_fault hfault, fill_hole_of_fault (hsame.symm.trans hfault)]
      | none =>
        obtain ⟨detail, given, short⟩ := holeFault?_eq_none_iff.mp hfault
        rw [fill_hole_of_given given short, fill_hole_of_given (hname.symm.trans given) short,
          ih ht]

end Template

namespace ErrorCode

open Template (Fills)

theorem plain_template (code : ErrorCode) : ∀ p ∈ code.template, Template.Plain p.chars := by
  cases code <;> simp [template, Piece.chars, Template.Plain]

abbrev Free (details : Details) : Prop := ∀ name ∈ ownNames, name ∉ details.keys

theorem report_of_free (code : ErrorCode) {details : Details} (h : Free details) :
    code.report details = code.template.fill details := by
  have hnone : details.keys.find? (fun name => name ∈ ownNames) = none := by
    rw [List.find?_eq_none]
    intro name hname
    simpa using fun hown => h name hown hname
  rw [report, hnone]

theorem report_eq_ownName_iff (code : ErrorCode) (details : Details) (name : String) :
    code.report details = .error (.ownName name) ↔
      name ∈ ownNames ∧ ∃ before after, details.keys = before ++ name :: after ∧
        ∀ other ∈ before, other ∉ ownNames := by
  have hfill : code.template.fault? details ≠ some (.ownName name) := by
    intro h
    obtain ⟨_, hole, _, -, hfault, -⟩ := List.findSome?_eq_some_iff.mp h
    unfold Template.holeFault? at hfault
    cases hgiven : details.find? hole with
    | none => simp [hgiven] at hfault
    | some detail => cases hw : detail.isWritable <;> simp [hgiven, hw] at hfault
  have hfind : code.report details = .error (.ownName name) ↔
      details.keys.find? (fun name => name ∈ ownNames) = some name := by
    unfold report
    cases details.keys.find? fun name => name ∈ ownNames with
    | some other => simp
    | none => simpa [Template.fill_eq_error_iff] using hfill
  rw [hfind, List.find?_eq_some_iff_append]
  simp

section Free

variable (code : ErrorCode) {details : Details} (free : Free details)
include free

theorem report_eq_missing_iff (hole : String) :
    code.report details = .error (.missing hole) ↔
      hole ∉ details.keys ∧ ∃ before after, code.template.holes = before ++ hole :: after ∧
        ∀ other ∈ before, Fills details other := by
  rw [code.report_of_free free, Template.fill_eq_error_iff, Template.fault?,
    List.findSome?_eq_some_iff]
  simp only [Template.holeFault?_eq_missing_iff, Template.holeFault?_eq_none_iff]
  constructor
  · rintro ⟨before, _, after, hholes, ⟨rfl, absent⟩, hbefore⟩
    exact ⟨absent, before, after, hholes, hbefore⟩
  · rintro ⟨absent, before, after, hholes, hbefore⟩
    exact ⟨before, hole, after, hholes, ⟨rfl, absent⟩, hbefore⟩

theorem report_eq_tooLong_iff :
    code.report details = .error .tooLong ↔
      ∃ before hole after, code.template.holes = before ++ hole :: after ∧
        (∃ detail, details.find? hole = some detail ∧ detail.isWritable = false) ∧
        ∀ other ∈ before, Fills details other := by
  rw [code.report_of_free free, Template.fill_eq_error_iff, Template.fault?,
    List.findSome?_eq_some_iff]
  simp only [Template.holeFault?_eq_tooLong_iff, Template.holeFault?_eq_none_iff]

theorem exists_report_iff :
    (∃ text, code.report details = .ok text) ↔
      ∀ hole ∈ code.template.holes, Fills details hole := by
  rw [code.report_of_free free]
  simp only [← Template.holeFault?_eq_none_iff, ← List.findSome?_eq_none_iff]
  unfold Template.fill Template.fault?
  cases code.template.holes.findSome? (Template.holeFault? details) <;> simp

theorem exists_missing_iff
    (short : ∀ entry ∈ details, entry.2.isWritable) :
    (∃ hole, code.report details = .error (.missing hole)) ↔
      ∃ hole ∈ code.template.holes, hole ∉ details.keys := by
  simp only [code.report_eq_missing_iff free]
  constructor
  · rintro ⟨hole, absent, before, after, hholes, -⟩
    exact ⟨hole, by simp [hholes], absent⟩
  · rintro ⟨hole, hmem, absent⟩
    have hsome : (code.template.holes.find? fun name => name ∉ details.keys).isSome :=
      List.find?_isSome.mpr ⟨hole, hmem, by simpa using absent⟩
    obtain ⟨first, hfirst⟩ := Option.isSome_iff_exists.mp hsome
    obtain ⟨habsent, before, after, hholes, hbefore⟩ := List.find?_eq_some_iff_append.mp hfirst
    refine ⟨first, by simpa using habsent, before, after, hholes, fun other hother => ?_⟩
    have hgiven : details.find? other ≠ none := by
      rw [Ne, Keyed.find?_eq_none_iff]
      simpa using hbefore other hother
    obtain ⟨detail, given⟩ := Option.ne_none_iff_exists'.mp hgiven
    exact ⟨detail, given, short _ (Keyed.mem_of_find? given)⟩

theorem report_eq_ok_iff (text : String) :
    code.report details = .ok text ↔
      Template.Reads details code.template.source.toList (.ok text.toList) := by
  rw [code.report_of_free free, Template.reads_source code.plain_template]
  cases code.template.fill details with
  | error fault => simp [Except.map]
  | ok other => simp [Except.map, String.toList_inj, eq_comm]

theorem report_congr {others : Details} (free' : Free others)
    (agree : ∀ hole ∈ code.template.holes, others.find? hole = details.find? hole) :
    code.report others = code.report details := by
  rw [code.report_of_free free', code.report_of_free free, Template.fill_congr agree]

end Free

end ErrorCode

theorem Fault.not_isWritable_iff (f : Fault) :
    f.isWritable = false ↔ ∃ name stem count,
      f = .layout name (.negativeMinimumCount stem count) ∧
        digitLimit < (Nat.toDigits 10 count.natAbs).length := by
  cases f with
  | layout name fault => simp [isWritable, LayoutFault.not_isWritable_iff]
  | _ => simp [isWritable]

theorem SemanticType.named_eq_error_iff (word : String) (f : Fault) :
    named word = .error f ↔ word ∉ keywords.map name ∧ f = .unknownType word := by
  have hnone : ofName? word = none ↔ word ∉ keywords.map name := by
    simp [ofName?, List.find?_eq_none]
  rw [← hnone, named]
  cases ofName? word <;> simp [eq_comm]

theorem Registry.overloads_eq_error_iff (r : Registry) (name : String) (f : Fault) :
    r.overloads name = .error f ↔ ¬ r.contains name ∧ f = .unknownFunction name := by
  unfold overloads contains
  cases r.groups.find? name <;> simp [eq_comm]

theorem Registry.register_eq_error_iff (r : Registry) (s : Signature) (f : Fault) :
    r.register s = .error f ↔ r.frozen ∧ f = .frozen s.name := by
  unfold register
  cases r.frozen <;> simp [eq_comm]

namespace ErrorCode

open Template (Fills)

/-- An error is refused for the first detail whose name errors take for themselves. If there is
none, it is refused exactly for the first hole that has no detail or one that is too long, and
otherwise its message is what reading the template gives; no detail but those for the holes counts.
What fails in a check, for a word that names no type, in a look-up and in a registration is the
fault that is meant for it, and no fault lacks a detail or has one that is too long, but for a
count. -/
theorem report_of_details (code : ErrorCode) (details : Details) :
    (∀ name, code.report details = .error (.ownName name) ↔
      name ∈ ownNames ∧ ∃ before after, details.keys = before ++ name :: after ∧
        ∀ other ∈ before, other ∉ ownNames) ∧
    (Free details →
      ((∀ entry ∈ details, entry.2.isWritable) →
        ((∃ hole, code.report details = .error (.missing hole)) ↔
          ∃ hole ∈ code.template.holes, hole ∉ details.keys)) ∧
      (∀ hole, code.report details = .error (.missing hole) ↔
        hole ∉ details.keys ∧ ∃ before after, code.template.holes = before ++ hole :: after ∧
          ∀ other ∈ before, Fills details other) ∧
      (code.report details = .error .tooLong ↔
        ∃ before hole after, code.template.holes = before ++ hole :: after ∧
          (∃ detail, details.find? hole = some detail ∧ detail.isWritable = false) ∧
          ∀ other ∈ before, Fills details other) ∧
      ((∃ text, code.report details = .ok text) ↔
        ∀ hole ∈ code.template.holes, Fills details hole) ∧
      (∀ text, code.report details = .ok text ↔
        Template.Reads details code.template.source.toList (.ok text.toList)) ∧
      ∀ others, Free others →
        (∀ hole ∈ code.template.holes, others.find? hole = details.find? hole) →
        code.report others = code.report details) ∧
    (∀ (d : Draft) (strict : Bool) (fault : BuildFault),
      Builder.check { draft := d, strict } = .error fault ↔
        ∃ f, d.layout.Reports f ∧
          fault = if f.isWritable then .unsound d.name f else .unreported .tooLong) ∧
    (∀ word f, SemanticType.named word = .error f ↔
      word ∉ SemanticType.keywords.map SemanticType.name ∧ f = .unknownType word) ∧
    (∀ (r : Registry) name f, r.overloads name = .error f ↔
      ¬ r.contains name ∧ f = .unknownFunction name) ∧
    (∀ (r : Registry) s f, r.register s = .error f ↔ r.frozen ∧ f = .frozen s.name) ∧
    (∀ f : Fault, f.code.report f.details =
      if f.isWritable then .ok f.message else .error .tooLong) ∧
    ∀ f : Fault, f.isWritable = false ↔ ∃ name stem count,
      f = .layout name (.negativeMinimumCount stem count) ∧
        digitLimit < (Nat.toDigits 10 count.natAbs).length :=
  ⟨code.report_eq_ownName_iff details,
    fun free => ⟨code.exists_missing_iff free, code.report_eq_missing_iff free,
      code.report_eq_tooLong_iff free, code.exists_report_iff free, code.report_eq_ok_iff free,
      fun _ => code.report_congr free⟩,
    Builder.check_eq_error_iff, SemanticType.named_eq_error_iff, Registry.overloads_eq_error_iff,
    Registry.register_eq_error_iff, Fault.report_eq, Fault.not_isWritable_iff⟩

theorem report_of_braced_details :
    let details : Details :=
      [("name", .text "\x7bparameter\x7d"), ("extra", .bool true), ("parameter", .null),
       ("previous", .text "\x7bname!r\x7d")]
    let others : Details :=
      [("previous", .text "\x7bname!r\x7d"), ("parameter", .null),
       ("name", .text "\x7bparameter\x7d")]
    Free details ∧ Free others ∧
      (∀ entry ∈ details, entry.2.isWritable) ∧
      (∀ hole ∈ requiredAfterOptional.template.holes,
        Keyed.find? others hole = Keyed.find? details hole) ∧
      (¬ ∃ hole, requiredAfterOptional.report details = .error (.missing hole)) ∧
      requiredAfterOptional.report others = requiredAfterOptional.report details ∧
      requiredAfterOptional.report details =
        .ok ("Function '\x7bparameter\x7d': required parameter 'None' cannot follow optional " ++
          "parameter '\x7bname!r\x7d'.") := by
  intro details others
  have free : Free details := by decide
  have free' : Free others := by decide
  have short : ∀ entry ∈ details, entry.2.isWritable := by simp [details]
  have agree : ∀ hole ∈ requiredAfterOptional.template.holes,
      Keyed.find? others hole = Keyed.find? details hole := by
    simp [Template.holes, template, details, others, Keyed.find?]
  obtain ⟨missing, -, -, -, read, same⟩ :=
    (report_of_details requiredAfterOptional details).2.1 free
  refine ⟨free, free', short, agree, ?_, same others free' agree, (read _).mpr ?_⟩
  · rw [missing short]
    decide
  · exact (Template.reads_source (plain_template _) _).mpr rfl

/-- No hole is left empty, but one detail has a name that errors take for themselves, and the other
is too long. -/
theorem report_of_refused_details :
    let details : Details := [("code", .text "y"), ("name", .text "x")]
    let long : Details := [("name", .int leastTooLong)]
    (∀ hole ∈ unknownFunction.template.holes, hole ∈ Keyed.keys details) ∧
      Template.Reads details unknownFunction.template.source.toList
        (.ok "Unknown function 'x'.".toList) ∧
      unknownFunction.report details = .error (.ownName "code") ∧
      (∀ hole ∈ unknownFunction.template.holes, hole ∈ Keyed.keys long) ∧
      unknownFunction.report long = .error .tooLong := by
  intro details long
  refine ⟨by decide, ?_, rfl, by decide, ?_⟩
  · exact (Template.reads_source (plain_template _) _).mpr rfl
  · have free : Free long := by decide
    refine (unknownFunction.report_eq_tooLong_iff free).mpr ⟨[], "name", [], rfl, ?_, nofun⟩
    exact ⟨_, rfl, isWritable_leastTooLong⟩

end ErrorCode

end FunctionCatalog
