import PolledTerminal.CommandLine
import PolledTerminal.Loading
import PolledTerminal.SelfTest
import PolledTerminal.Session
import PolledTerminal.TestSuite
set_option autoImplicit false

/-!
# The program

What the commands do, on any host that can read and write files, print, and let
machines run.  A command ends with an exit code or gives up with a trouble;
whatever it printed or wrote before that stays.
-/

namespace PolledTerminal

open PolledTerminal.CommandLine (Command RunOptions TestOptions)
open PolledTerminal.Text (Bytes)

/-- What the program needs of the system it runs on. -/
structure Host (m : Type → Type) where
  readFile : String → m (Except ReadFailure Bytes)
  writeFile : String → String → m (Except FileFault Unit)
  createDirectories : String → m (Except FileFault Unit)
  print : String → m Unit
  /-- let a machine run; what its devices print may be printed at once, or be
  left on the bus -/
  run : {σ : Type} → Machine σ Device → RunLimits → m (StopReason × Machine σ Device)
  /-- let a terminal and its user take turns until the loop leaves; printing as
  in `run` -/
  converse : Machine Terminal Device → Option Nat → m (Machine Terminal Device)

namespace Program

variable {m : Type → Type} [Monad m]

/-- Write a file or give up. -/
def write (host : Host m) (output : Output) (path text : String) : ExceptT Trouble m Unit := do
  match ← host.writeFile path text with
  | .ok () => return ()
  | .error why => throw (.writing output path why)

/-- Print what the devices of a machine have left to print. -/
def printLeft {σ : Type} (host : Host m) (machine : Machine σ Device) : ExceptT Trouble m Unit :=
  host.print machine.bus.printedText

/-- The ports of a board's terminal. -/
def portsOf (bus : Bus Device) : Except Trouble TerminalPorts :=
  match TerminalPorts.ofBus? bus with
  | some ports => .ok ports
  | none => .error .noTerminal

/-- The bus of a board. -/
def busOf (board : Board) : Except Trouble (Bus Device) := board.assemble.mapError .board

/-- A machine that runs a system's terminal, with these keys typed beforehand and
nothing more to come; without keys, the user types. -/
def terminalMachine (manifest : Manifest) (bus : Bus Device) (echo : Bool) (keys : Option Bytes) :
    Except Trouble (Machine Terminal Device) := do
  let ports ← portsOf bus
  let bus := bus.setEcho echo
  let bus := match keys with
    | some keys => bus.changeKeyboard fun k => (k.feed keys).close
    | none => bus
  (Machine.new Terminal.firmware (manifest.terminal ports) bus).mapError .machine

/-- A machine that runs the self-test. -/
def selfTestMachine (bus : Bus Device) : Except Trouble (Machine SelfTest Device) :=
  (Machine.new SelfTest.firmware SelfTest.new bus).mapError .machine

/-! ## Interactive runs -/

/-- Write the snapshot of a machine, if one is wanted. -/
def writeSnapshot {σ : Type} (host : Host m) (machine : Machine σ Device) :
    Option String → ExceptT Trouble m Unit
  | none => return ()
  | some path => write host .snapshot path machine.snapshot.pretty

/-- What the self-test says when it stops. -/
def selfTestSummary (reason : StopReason) (t : SelfTest) : String :=
  let total := toString t.checks.size
  match t.status with
  | .finished => "selftest: " ++ total ++ "/" ++ total ++ " checks passed\n"
  | .halted check =>
    "selftest: halted in error loop at check " ++ toString check ++ ": "
      ++ (t.failedCheck.elim "?" Check.expr) ++ "\n"
  | .running =>
    "selftest: stopped (" ++ reason.label ++ ") after " ++ toString t.passed ++ "/" ++ total
      ++ " checks\n"

/-- Run the self-test alone. -/
def runSelfTest (host : Host m) (bus : Bus Device) (options : RunOptions) :
    ExceptT Trouble m Nat := do
  let machine ← selfTestMachine bus
  let (reason, machine) ← host.run machine { maxSteps := options.maxSteps }
  printLeft host machine
  writeSnapshot host machine options.snapshot
  host.print (selfTestSummary reason machine.program)
  return if machine.status = .finished then 0 else 1

/-- Run a system for a user, or its self-test. -/
def runInteractive (host : Host m) (options : RunOptions) : ExceptT Trouble m Nat := do
  let system ← Loading.system host.readFile options.system
  let bus ← busOf system.board
  if options.selftest then runSelfTest host bus options
  else
    let machine ← terminalMachine system.manifest bus (!options.noDisplayStdout) none
    let machine ← host.converse machine options.maxSteps
    printLeft host machine
    writeSnapshot host machine options.snapshot
    return 0

/-! ## Scripted runs -/

/-- Run a machine for a script. -/
def outcomeOf {σ : Type} (host : Host m) (machine : Machine σ Device) (limits : RunLimits)
    (failedCheck : σ → Option String) : ExceptT Trouble m Outcome := do
  let (reason, machine) ← host.run machine limits
  printLeft host machine
  return { Outcome.ofMachine reason machine with failedCheck := failedCheck machine.program }

/-- The limits of a script. -/
def limitsOf (script : Script) : RunLimits where
  maxSteps := some script.limits.maxSteps
  wallTime := script.limits.wallTime

/-- Run the program that a script asks for. -/
def runScript (host : Host m) (script : Script) (system : SystemDescription) (echo : Bool) :
    ExceptT Trouble m Outcome := do
  let bus ← busOf system.board
  match script.inputs.firmware with
  | .terminal =>
    let keys := Text.Utf8.encode script.inputs.keys
    let machine ← terminalMachine system.manifest bus echo (some keys)
    outcomeOf host machine (limitsOf script) fun _ => none
  | .selftest =>
    let machine ← selfTestMachine (bus.setEcho echo)
    outcomeOf host machine (limitsOf script) fun t => t.failedCheck.map Check.expr

/-- The files of a report in a directory. -/
def resultName : String := "result.json"

/-- The suite's file in a directory. -/
def suiteName : String := "junit.xml"

/-- Write the documents of a report. -/
def writeArtifacts (host : Host m) (report : TestReport) (dir : String) :
    ExceptT Trouble m Unit := do
  match ← host.createDirectories dir with
  | .error why => throw (.writing .directory dir why)
  | .ok () =>
    write host .artifact (FilePath.join dir resultName) report.json.pretty
    write host .artifact (FilePath.join dir suiteName) (TestSuite.ofReport report).markup

/-- Write the documents of a report if they are wanted, and give its verdict. -/
def conclude (host : Host m) (report : TestReport) (outputDir : Option String) :
    ExceptT Trouble m Nat := do
  match outputDir with
  | some dir => writeArtifacts host report dir
  | none => pure ()
  return report.exitCode

/-- Run a script and judge it. -/
def runTest (host : Host m) (options : TestOptions) : ExceptT Trouble m Nat := do
  let script ← Loading.script host.readFile options.script
  let systemPath := script.inputs.system.map (FilePath.beside options.script)
  let system ← Loading.system host.readFile systemPath
  let outcome ← runScript host script system (!options.noDisplayStdout)
  conclude host ⟨options.script, systemPath, script, outcome⟩ options.outputDir

/-- Carry out a command; the result is the exit code. -/
def execute (host : Host m) : Command → ExceptT Trouble m Nat
  | .run options => runInteractive host options
  | .test options => runTest host options

end Program

end PolledTerminal
