import PolledTerminal.Json
import PolledTerminal.Machine
import PolledTerminal.Script
import PolledTerminal.Sha256
set_option autoImplicit false

/-!
# Test reports

What a scripted run left behind is judged by the script's assertions.  A run
that went wrong fails as well, unless the script says how it expects to end.
The verdict, the result document and the test-suite document are all read off
one report.
-/

namespace PolledTerminal

open PolledTerminal.Text

/-- What a run left behind. -/
structure Outcome where
  stopReason : StopReason
  steps : Nat
  cycles : Nat
  /-- the first display's characters since the start -/
  transcript : Bytes := []
  /-- the first display's characters since the last clear -/
  screen : Bytes := []
  /-- the expression of the check that failed -/
  failedCheck : Option String := none
  deriving DecidableEq, Repr, Inhabited

namespace Outcome

/-- What a machine leaves behind. -/
def ofMachine {σ δ : Type} [TerminalPeripheral δ] (reason : StopReason) (m : Machine σ δ) :
    Outcome where
  stopReason := reason
  steps := m.steps
  cycles := m.bus.cycles
  transcript := m.bus.display?.elim [] fun d => d.transcript.toList
  screen := m.bus.display?.elim [] fun d => d.screen.toList

/-- The transcript as text. -/
def transcriptText (o : Outcome) : String := Utf8.decodeLossy o.transcript

/-- The screen as text. -/
def screenText (o : Outcome) : String := Utf8.decodeLossy o.screen

end Outcome

namespace Assertion

/-- One text is a part of another. -/
def occursIn (part : List Char) : List Char → Bool
  | [] => part.isEmpty
  | c :: cs => part.isPrefixOf (c :: cs) || occursIn part cs

/-- The assertion holds of a run. -/
def holds (o : Outcome) : Assertion → Bool
  | .displayContains text => occursIn text.toList o.transcriptText.toList
  | .screenEquals text => o.screenText == text
  | .stopsWith reason => o.stopReason == reason

/-- The assertion says how the run ends. -/
def expectsStop : Assertion → Bool
  | .stopsWith _ => true
  | _ => false

/-- The assertion in words. -/
def describe : Assertion → String
  | .displayContains text => "display_contains " ++ Quoted.encode text
  | .screenEquals text => "screen_equals " ++ Quoted.encode text
  | .stopsWith reason => "expected_stop_reason " ++ reason.label

/-- The assertion as a document. -/
def json : Assertion → Json
  | .displayContains text => .obj [("display_contains", .str text)]
  | .screenEquals text => .obj [("screen_equals", .str text)]
  | .stopsWith reason => .obj [("expected_stop_reason", .str reason.key)]

end Assertion

/-- A script, where its files were, and what its run left behind. -/
structure TestReport where
  scriptPath : String
  systemPath : Option String
  script : Script
  outcome : Outcome
  deriving Repr, Inhabited

namespace TestReport

/-- The assertions and whether they hold, in order. -/
def results (r : TestReport) : List (Assertion × Bool) :=
  r.script.assertions.map fun a => (a, a.holds r.outcome)

/-- The run went wrong and the script does not say how it ends. -/
def unexpectedStop (r : TestReport) : Bool :=
  r.outcome.stopReason.isAbnormal && !r.script.assertions.any Assertion.expectsStop

/-- The run is as it should be. -/
def passed (r : TestReport) : Bool := r.results.all Prod.snd && !r.unexpectedStop

/-- The verdict in documents. -/
def status (r : TestReport) : String := if r.passed then "pass" else "fail"

/-- The exit code of the program. -/
def exitCode (r : TestReport) : Nat := if r.passed then 0 else 1

/-- The result document. -/
def json (r : TestReport) : Json := .obj [
  ("status", .str r.status),
  ("firmware", .str r.script.inputs.firmware.key),
  ("stop_reason", .str r.outcome.stopReason.key),
  ("steps", .nat r.outcome.steps),
  ("cycles", .nat r.outcome.cycles),
  ("display", .str r.outcome.transcriptText),
  ("display_sha256", .str (Hex.octets (Sha256.digest r.outcome.transcript))),
  ("screen", .str r.outcome.screenText),
  ("failed_check", .opt .str r.outcome.failedCheck),
  ("assertions", .arr (r.results.map fun (a, holds) =>
    .obj [("assertion", a.json), ("passed", .bool holds)])),
  ("config", .obj [
    ("script", .str r.scriptPath),
    ("system", .opt .str r.systemPath),
    ("max_steps", .nat r.script.limits.maxSteps),
    ("wall_time_ms", .opt .nat r.script.limits.wallTime)])]

end TestReport

end PolledTerminal
