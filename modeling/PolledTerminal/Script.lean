import PolledTerminal.Fault
import PolledTerminal.Text.Blank
import PolledTerminal.Yaml.Freedom
import PolledTerminal.Yaml.Record
set_option autoImplicit false

/-!
# Test scripts

A script says which program to run on which system with which keys typed
beforehand, how long to run it, and what must hold afterwards.  Scripts are
strict: a field that is not known is refused at every level, since a misspelt
assertion would otherwise always hold.
-/

namespace PolledTerminal

open PolledTerminal.Yaml (Field RecordForm Reading Site Value)

/-- The programs that a script can run. -/
inductive FirmwareKind where
  | terminal
  | selftest
  deriving DecidableEq, Repr, Inhabited

/-- The name in documents. -/
def FirmwareKind.key : FirmwareKind → String
  | .terminal => "terminal"
  | .selftest => "selftest"

/-- What must hold after a run. -/
inductive Assertion where
  | displayContains (text : String)
  | screenEquals (text : String)
  | stopsWith (reason : StopReason)
  deriving DecidableEq, Repr, Inhabited

namespace Script

/-- What a run starts from. -/
structure Inputs where
  firmware : FirmwareKind := .terminal
  /-- the manifest's file, relative to the script; none is the stock system -/
  system : Option String := none
  /-- the keys typed before the run -/
  keys : String := ""
  deriving DecidableEq, Repr, Inhabited

/-- How long a run may go on. -/
structure Limits where
  maxSteps : Nat
  /-- milliseconds -/
  wallTime : Option Nat := none
  deriving DecidableEq, Repr, Inhabited

end Script

/-- A scripted run. -/
structure Script where
  schemaVersion : String
  inputs : Script.Inputs
  limits : Script.Limits
  assertions : List Assertion := []
  deriving DecidableEq, Repr, Inhabited

namespace Script

/-! ## Validity -/

/-- Why a script cannot be used. -/
inductive Fault where
  | schemaVersion (version : String)
  | blankSystem
  | keysForSelftest
  | noSteps
  deriving DecidableEq, Repr, Inhabited

/-- The sentence that tells the fault. -/
def Fault.message : Fault → String
  | .schemaVersion version =>
    "Unsupported schema_version '" ++ version ++ "'. Supported versions: '1.0'"
  | .blankSystem => "Input 'system' path cannot be empty when given"
  | .keysForSelftest => "Input 'keys' is only meaningful for the terminal firmware"
  | .noSteps => "Limit 'max_steps' must be greater than zero"

/-- Check what the form of a script leaves open. -/
def validate (s : Script) : Except Fault Unit :=
  if s.schemaVersion ≠ "1.0" then .error (.schemaVersion s.schemaVersion)
  else if s.inputs.system.any fun path => (Text.Blank.trim path.toList).isEmpty then
    .error .blankSystem
  else if s.inputs.firmware = .selftest ∧ s.inputs.keys ≠ "" then .error .keysForSelftest
  else if s.limits.maxSteps = 0 then .error .noSteps
  else .ok ()

/-! ## Reading inputs and limits -/

/-- Inputs while they are read. -/
structure InputsDraft where
  firmware : Option FirmwareKind := none
  system : Option (Option String) := none
  keys : Option String := none

/-- The form of inputs. -/
def inputsForm : RecordForm InputsDraft where
  wanted := "struct TestInputs"
  strict := true
  fields := [
    .of "firmware" InputsDraft.firmware (fun d a => { d with firmware := some a })
      (Site.variant ([.terminal, .selftest].map fun k => (FirmwareKind.key k, k))),
    .of "system" InputsDraft.system (fun d a => { d with system := some a })
      (Site.optional Site.text),
    .of "keys" InputsDraft.keys (fun d a => { d with keys := some a }) Site.text]

/-- Read inputs. -/
def readInputs (p : Site) : Reading Inputs := do
  let d ← inputsForm.read {} p
  return {
    firmware := d.firmware.getD .terminal
    system := d.system.getD none
    keys := d.keys.getD "" }

/-- Limits while they are read. -/
structure LimitsDraft where
  maxSteps : Option Nat := none
  wallTime : Option (Option Nat) := none

/-- The form of limits. -/
def limitsForm : RecordForm LimitsDraft where
  wanted := "struct TestLimits"
  strict := true
  fields := [
    .of "max_steps" LimitsDraft.maxSteps (fun d a => { d with maxSteps := some a }) Site.count,
    .of "wall_time_ms" LimitsDraft.wallTime (fun d a => { d with wallTime := some a })
      (Site.optional Site.count)]

/-- Read limits. -/
def readLimits (p : Site) : Reading Limits := do
  let d ← limitsForm.read {} p
  return {
    maxSteps := ← p.required "max_steps" d.maxSteps
    wallTime := d.wallTime.getD none }

/-! ## Reading assertions

An assertion is a free value first: its scalars have the kind that their
spelling gives them.  It then has to be one of three forms, a mapping with one
pair or a sequence with one item each. -/

/-- What may stand in an assertion. -/
def assertionFreedom : Yaml.Freedom where
  wanted := "any value"
  keepsTags := false
  repeatsKeys := true

/-- Which of some names a key stands for: the name itself or its number. -/
def nameOf? (names : List String) : Value → Option Nat
  | .text s => names.findIdx? (· = s)
  | .natural n => if n < names.length then some n else none
  | _ => none

/-- The value of the only field, which has this name. -/
def soleField? (name : String) : Value → Option Value
  | .mapping [(k, v)] => if nameOf? [name] k = some 0 then some v else none
  | .sequence [v] => some v
  | _ => none

/-- The value is a text. -/
def textOnly? : Value → Option String
  | .text s => some s
  | _ => none

/-- A stop reason: its name, or a mapping from it to nothing. -/
def stopReasonOf? : Value → Option StopReason
  | .text s => StopReason.ofKey? s
  | .mapping [(k, .null)] =>
    nameOf? (StopReason.all.map StopReason.key) k >>= fun i => StopReason.all[i]?
  | _ => none

/-- The assertion of a value: the first form that fits. -/
def assertionOf? (v : Value) : Option Assertion :=
  ((soleField? "display_contains" v >>= textOnly?).map .displayContains)
    <|> ((soleField? "screen_equals" v >>= textOnly?).map .screenEquals)
    <|> ((soleField? "expected_stop_reason" v >>= stopReasonOf?).map .stopsWith)

/-- Read an assertion; one that fits no form is told of the list that holds
it. -/
def readAssertion (p : Site) : Reading Assertion := do
  match assertionOf? (← assertionFreedom.read p) with
  | some a => return a
  | none => Reading.refuse p.path.tail (.noForm "TestAssertion")

/-! ## Reading scripts -/

/-- A script while it is read. -/
structure Draft where
  schemaVersion : Option String := none
  inputs : Option Inputs := none
  limits : Option Limits := none
  assertions : Option (List Assertion) := none

/-- The form of a script. -/
def form : RecordForm Draft where
  wanted := "struct TestScript"
  strict := true
  fields := [
    .of "schema_version" Draft.schemaVersion (fun d a => { d with schemaVersion := some a })
      Site.text,
    .of "inputs" Draft.inputs (fun d a => { d with inputs := some a }) readInputs,
    .of "limits" Draft.limits (fun d a => { d with limits := some a }) readLimits,
    .of "assertions" Draft.assertions (fun d a => { d with assertions := some a })
      (Site.list readAssertion)]

/-- Read a script. -/
def read (p : Site) : Reading Script := do
  let d ← form.read {} p
  return {
    schemaVersion := ← p.required "schema_version" d.schemaVersion
    inputs := ← p.required "inputs" d.inputs
    limits := ← p.required "limits" d.limits
    assertions := d.assertions.getD [] }

end Script

end PolledTerminal
