import FunctionCatalog.Draft
set_option autoImplicit false

/-!
Builders: a draft that is configured call by call and gives a signature whenever it is asked to. A
strict builder looks at the layout first, and gives nothing for an unsound one; a lenient one takes
any layout. A builder may have a review of its own, which follows the look at the layout. A call
that fails changes nothing.
-/

namespace FunctionCatalog

inductive BuildFault where
  | unsound (function : String) (fault : LayoutFault)
  | unreported (reason : DetailFault)
  | refused (refusal : Refusal)
  deriving DecidableEq

/-- An unsound layout as it is reported, or the reason why there is no message for it. -/
def BuildFault.ofLayout (function : String) (fault : LayoutFault) : BuildFault :=
  match (Fault.layout function fault).report with
  | .ok _ => .unsound function fault
  | .error reason => .unreported reason

theorem BuildFault.ofLayout_eq (function : String) (fault : LayoutFault) :
    ofLayout function fault =
      if fault.isWritable then .unsound function fault else .unreported .tooLong := by
  rw [ofLayout, Fault.report_eq, Fault.isWritable]
  cases fault.isWritable <;> rfl

theorem BuildFault.ofLayout_eq_unsound_iff {f g : String} {fault reported : LayoutFault} :
    ofLayout f fault = .unsound g reported ↔ f = g ∧ fault = reported ∧ reported.isWritable := by
  rw [ofLayout_eq]
  cases h : fault.isWritable with
  | false =>
    refine ⟨nofun, ?_⟩
    rintro ⟨-, rfl, hw⟩
    exact absurd (h.symm.trans hw) Bool.false_ne_true
  | true =>
    refine ⟨?_, ?_⟩
    · rintro ⟨⟩
      exact ⟨rfl, rfl, h⟩
    · rintro ⟨rfl, rfl, -⟩
      rfl

structure Builder where
  draft : Draft
  strict : Bool := false
  review : Draft → Except Refusal Unit := fun _ => .ok ()

namespace Builder

def named (name : String) (strict : Bool := false) : Builder := { draft := .named name, strict }

def check (b : Builder) : Except BuildFault Unit :=
  match b.draft.layout.fault? with
  | some fault => .error (.ofLayout b.draft.name fault)
  | none => (b.review b.draft).mapError .refused

def build (b : Builder) : Except BuildFault Signature :=
  if b.strict then b.check.map fun _ => b.draft.signature else .ok b.draft.signature

inductive Call where
  | describe (text : String)
  | returning (type : SemanticType)
  | inferring (rule : ReturnRule)
  | require (name : String) (type : SemanticType) (description : String)
  | allow (name : String) (type : SemanticType) (description : String)
  | takeRest (stem : String) (type : SemanticType) (minimumCount : Int) (description : String)
  | tag (flags : Flags)
  | check
  | build

inductive Outcome where
  | configured
  | sound
  | built (signature : Signature)
  | failed (fault : BuildFault)

def configure (b : Builder) (f : Draft → Draft) : Builder × Outcome :=
  ({ b with draft := f b.draft }, .configured)

def step (b : Builder) : Call → Builder × Outcome
  | .describe text => b.configure (·.describe text)
  | .returning type => b.configure (·.returning type)
  | .inferring rule =>
    match b.draft.inferring rule with
    | .ok d => b.configure fun _ => d
    | .error refusal => (b, .failed (.refused refusal))
  | .require name type description => b.configure (·.require name type description)
  | .allow name type description => b.configure (·.allow name type description)
  | .takeRest stem type count description => b.configure (·.takeRest stem type count description)
  | .tag flags => b.configure (·.tag flags)
  | .check =>
    match b.check with
    | .ok _ => (b, .sound)
    | .error fault => (b, .failed fault)
  | .build =>
    match b.build with
    | .ok s => (b, .built s)
    | .error fault => (b, .failed fault)

def run (b : Builder) : List Call → Builder × List Outcome
  | [] => (b, [])
  | c :: rest =>
    let (next, outcome) := b.step c
    let (last, outcomes) := next.run rest
    (last, outcome :: outcomes)

end Builder

end FunctionCatalog
