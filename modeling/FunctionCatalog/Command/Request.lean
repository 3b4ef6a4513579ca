import FunctionCatalog.Text.DecimalDigit
import FunctionCatalog.Text.Quoted
set_option autoImplicit false

/-!
What a command line asks for. A line names a command, and the command has switches and operands of
its own. A switch may be spelled short or long, a long one may be cut short while it stays
unambiguous, and its value may follow it or be attached to it. After a lone double dash everything
is an operand. What no one asked for is reported once the rest has been read.
-/

namespace FunctionCatalog.Command

inductive Level where
  | top
  | list
  | show
  | dump
  deriving DecidableEq

inductive Switch where
  | help
  | output
  deriving DecidableEq

inductive Operands where
  | none
  | one
  | all
  deriving DecidableEq

inductive Target where
  | screen
  | file (path : String)
  | pathless
  deriving DecidableEq

inductive Request where
  | list
  | show (name : String)
  | dump (target : Target)
  deriving DecidableEq

inductive Stop where
  | help (level : Level)
  | usage (level : Level) (message : String)
  deriving DecidableEq

namespace Switch

def short : Switch → Char
  | .help => 'h'
  | .output => 'o'

def long : Switch → String
  | .help => "--help"
  | .output => "--output"

def label (s : Switch) : String := String.ofList ['-', s.short] ++ "/" ++ s.long

end Switch

namespace Level

def commands : List Level := [.list, .show, .dump]

def name : Level → String
  | .top => ""
  | .list => "list"
  | .show => "show"
  | .dump => "dump"

def ofName? (name : String) : Option Level := commands.find? fun l => l.name = name

def switches : Level → List Switch
  | .dump => [.help, .output]
  | _ => [.help]

def operands : Level → Operands
  | .top => .all
  | .show => .one
  | _ => .none

def ofShort? (level : Level) (c : Char) : Option Switch :=
  level.switches.find? fun s => s.short = c

end Level

inductive Attached where
  | nothing
  | toLong (value : String)
  | toShort (value : String)
  deriving DecidableEq

inductive Role where
  | operand
  | separator
  | unknown
  | switch (s : Switch) (attached : Attached)
  deriving DecidableEq

structure Word where
  text : String
  role : Role
  deriving DecidableEq

def withoutLineBreak (chars : List Char) : List Char :=
  if chars.getLast? = some '\n' then chars.dropLast else chars

/-- Negative numbers are operands, as no switch looks like one. The digits may be of any script,
and a line break may follow them. -/
def isNegativeNumber (chars : List Char) : Bool :=
  match withoutLineBreak chars with
  | '-' :: rest =>
    match rest.span Text.isDecimalDigit with
    | (digits, []) => !digits.isEmpty
    | (_, '.' :: fraction) => !fraction.isEmpty && fraction.all Text.isDecimalDigit
    | _ => false
  | _ => false

def cutAtEquals (chars : List Char) : List Char × Attached :=
  match chars.span fun c => c ≠ '=' with
  | ('-' :: '-' :: left, '=' :: right) => ('-' :: '-' :: left, .toLong (String.ofList right))
  | (left, '=' :: right) => (left, .toShort (String.ofList right))
  | _ => (chars, .nothing)

def exactSwitch? (level : Level) (chars : List Char) : Option Switch :=
  level.switches.find? fun s => chars = ['-', s.short] ∨ chars = s.long.toList

def candidates (level : Level) (chars : List Char) : List (Switch × Attached) :=
  match chars with
  | '-' :: '-' :: _ =>
    let (start, attached) := cutAtEquals chars
    (level.switches.filter fun s => start.isPrefixOf s.long.toList).map fun s => (s, attached)
  | '-' :: c :: rest =>
    (level.ofShort? c).toList.map fun s => (s, .toShort (String.ofList rest))
  | _ => []

def ambiguous (level : Level) (text : String) (names : List String) : Stop :=
  .usage level ("ambiguous option: " ++ text ++ " could match " ++ ", ".intercalate names)

def roleOf (level : Level) (text : String) : Except Stop Role :=
  let chars := text.toList
  if chars.head? ≠ some '-' ∨ chars = ['-'] then .ok .operand
  else
    let (start, attached) := cutAtEquals chars
    match exactSwitch? level chars, exactSwitch? level start with
    | some s, _ => .ok (.switch s .nothing)
    | none, some s => .ok (.switch s attached)
    | none, none =>
      match candidates level chars with
      | [(s, attached)] => .ok (.switch s attached)
      | [] =>
        if isNegativeNumber chars ∨ ' ' ∈ chars then .ok .operand else .ok .unknown
      | several => .error (ambiguous level text (several.map fun c => c.1.long))

def operandWord (text : String) : Word := ⟨text, .operand⟩

def wordsOf (level : Level) : List String → Except Stop (List Word)
  | [] => .ok []
  | text :: rest => do
    if text = "--" then return ⟨text, .separator⟩ :: rest.map operandWord
    else
      let role ← roleOf level text
      return ⟨text, role⟩ :: (← wordsOf level rest)

structure Gathered where
  target : Target := .screen
  operands : List String := []
  extras : List String := []
  deriving DecidableEq

def Gathered.extra (g : Gathered) (text : String) : Gathered :=
  { g with extras := g.extras ++ [text] }

def startsWithOperand : List Word → Bool
  | w :: _ => w.role = .operand
  | [] => false

def ignoredValue (level : Level) (value : List Char) : Stop :=
  .usage level ("argument " ++ Switch.help.label ++ ": ignored explicit argument "
    ++ Text.quoted (String.ofList value))

def missingValue (level : Level) : Stop :=
  .usage level ("argument " ++ Switch.output.label ++ ": expected one argument")

/-- The help switch takes no value, so what is joined to its short form is read as further short
switches. Help is given once they have all been understood. -/
def helpWith (level : Level) (rest : List Word) : List Char → Stop
  | [] => .help level
  | c :: more =>
    match level.ofShort? c, more with
    | none, more => ignoredValue level (c :: more)
    | some .help, more => helpWith level rest more
    | some .output, [] => if startsWithOperand rest then .help level else missingValue level
    | some .output, _ :: _ => .help level

def helpStop (level : Level) (rest : List Word) : Attached → Stop
  | .nothing => .help level
  | .toLong value => ignoredValue level value.toList
  | .toShort value =>
    if value = "" then ignoredValue level [] else helpWith level rest value.toList

/-- A double dash in one word with the switch is dropped as if it were a separator, and then there
is no path. -/
def attachedTarget (value : String) : Target := if value = "--" then .pathless else .file value

/-- Reads the words in order. An operand that is still wanted takes the separators beside it; one
that takes all that follows takes the separator for a word. -/
def gather (level : Level) (wanted : Operands) (g : Gathered) :
    List Word → Except Stop Gathered
  | [] => .ok g
  | w :: rest =>
    match w.role with
    | .operand =>
      match wanted with
      | .none => gather level .none (g.extra w.text) rest
      | .one =>
        let taken := { g with operands := [w.text] }
        match rest with
        | ⟨_, .separator⟩ :: rest => gather level .none taken rest
        | rest => gather level .none taken rest
      | .all => .ok { g with operands := w.text :: rest.map Word.text }
    | .separator =>
      if wanted = .one ∧ startsWithOperand rest then gather level wanted g rest
      else if wanted = .all ∧ startsWithOperand rest then
        .ok { g with operands := w.text :: rest.map Word.text }
      else gather level wanted (g.extra w.text) rest
    | .unknown => gather level wanted (g.extra w.text) rest
    | .switch .help attached => .error (helpStop level rest attached)
    | .switch .output (.toLong value) | .switch .output (.toShort value) =>
      gather level wanted { g with target := attachedTarget value } rest
    | .switch .output .nothing =>
      match rest with
      | [] => .error (missingValue level)
      | v :: rest =>
        if v.role = .operand then gather level wanted { g with target := .file v.text } rest
        else .error (missingValue level)

def gatherAll (level : Level) (args : List String) : Except Stop Gathered := do
  gather level level.operands {} (← wordsOf level args)

def required (level : Level) (what : String) : Stop :=
  .usage level ("the following arguments are required: " ++ what)

def requestOf (level : Level) (g : Gathered) : Except Stop Request :=
  match level with
  | .show =>
    match g.operands with
    | [] => .error (required .show "name")
    | name :: _ => .ok (.show name)
  | .dump => .ok (.dump g.target)
  | _ => .ok .list

def invalidChoice (word : String) : Stop :=
  .usage .top ("argument command: invalid choice: " ++ Text.quoted word ++ " (choose from "
    ++ ", ".intercalate (Level.commands.map fun l => Text.quoted l.name) ++ ")")

/-- A fault of the command's own words is reported before words that nothing takes. -/
def read (args : List String) : Except Stop Request := do
  let outer ← gatherAll .top args
  match outer.operands with
  | [] => .error (required .top "command")
  | word :: rest =>
    match Level.ofName? word with
    | none => .error (invalidChoice word)
    | some level =>
      let inner ← gatherAll level rest
      let request ← requestOf level inner
      match outer.extras ++ inner.extras with
      | [] => return request
      | extras => .error (.usage .top ("unrecognized arguments: " ++ " ".intercalate extras))

end FunctionCatalog.Command
