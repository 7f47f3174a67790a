import PolledTerminal.Firmware
set_option autoImplicit false

/-!
# The machine

A program on a bus, stepped and run.  A step that meets a fault is still a step:
it is counted, and its end is told with the cycles it took.  A run goes on until
the program ends or fails, a limit is reached, or a step meets a fault; the
limits are looked at in that order before every step.
-/

namespace PolledTerminal

/-- When to stop a program that does not stop by itself. -/
structure RunLimits where
  maxSteps : Option Nat := none
  /-- milliseconds -/
  wallTime : Option Nat := none
  deriving DecidableEq, Repr, Inhabited

/-- A program on a bus. -/
structure Machine (σ δ : Type) where
  firmware : Firmware σ δ
  rig : Rig σ δ
  steps : Nat := 0

namespace Machine

variable {σ δ : Type}

/-- The bus. -/
def bus (m : Machine σ δ) : Bus δ := m.rig.bus

/-- The program's variables. -/
def program (m : Machine σ δ) : σ := m.rig.program

/-- The program's status. -/
def status (m : Machine σ δ) : Status := m.firmware.status m.program

/-- Change the bus from outside. -/
def changeBus (m : Machine σ δ) (f : Bus δ → Bus δ) : Machine σ δ :=
  { m with rig := { m.rig with bus := f m.rig.bus } }

/-- Tell an event. -/
def tell (m : Machine σ δ) (e : TraceEvent) : Machine σ δ := { m with rig := m.rig.tell e }

/-- The machine after its events have been taken away. -/
def clearEvents (m : Machine σ δ) : Machine σ δ := { m with rig := { m.rig with told := [] } }

/-! ## Starting -/

/-- Load segments in order up to the first that does not fit; those before it
stay loaded. -/
def loadSegments (ram : DataMemory) : DataImage → Except Fault Unit × DataMemory
  | [] => (.ok (), ram)
  | s :: ss =>
    match ram.load? s with
    | some ram => loadSegments ram ss
    | none => (.error (.outOfRange s.addr s.bytes.length), ram)

/-- Load an image into data memory. -/
def loadImage (image : DataImage) : Act (Machine σ δ) Unit := .ofStep fun m =>
  let (result, ram) := loadSegments m.bus.ram image
  (result, m.changeBus fun bus => { bus with ram := ram })

/-- Start the program over. -/
def reset (m : Machine σ δ) : Machine σ δ :=
  { m with rig := { m.rig with program := m.firmware.reset m.rig.program }, steps := 0 }

/-- Put a program on a bus: load its image, then start it. -/
def new (firmware : Firmware σ δ) (program : σ) (bus : Bus δ) : Except Fault (Machine σ δ) :=
  let (result, ram) := loadSegments bus.ram (firmware.image program)
  let m : Machine σ δ := { firmware := firmware, rig := ⟨program, { bus with ram := ram }, []⟩ }
  result.map fun _ => m.reset

/-! ## Running -/

/-- One step. -/
def step : Act (Machine σ δ) Unit := fun m =>
  match m.firmware.step.run (m.rig.tell (.stepStarted m.steps)) with
  | none => none
  | some (result, rig) =>
    some (result, { m with
      rig := rig.tell (.stepEnded (rig.bus.cycles - m.rig.bus.cycles))
      steps := m.steps + 1 })

/-- Why a run stops here, after `executed` steps and `elapsed` milliseconds. -/
def stopsHere (m : Machine σ δ) (limits : RunLimits) (executed elapsed : Nat) : Option StopReason :=
  match m.status with
  | .finished => some .finished
  | .halted _ => some .errorHalt
  | .running =>
    if limits.maxSteps.any (· ≤ executed) then some .maxSteps
    else if limits.wallTime.any (· ≤ elapsed) then some .wallTime
    else none

/-- Step until something stops the run; `clock` gives the milliseconds elapsed
before each step.  Where nothing ever stops it there is no result. -/
def runFrom (limits : RunLimits) (clock : Nat → Nat) (executed : Nat) (m : Machine σ δ) :
    Option (StopReason × Machine σ δ) :=
  match m.stopsHere limits executed (clock executed) with
  | some reason => some (reason, m)
  | none =>
    match step m with
    | none => none
    | some (.error fault, m) => some (fault.stopReason, m)
    | some (.ok (), m) => m |>.runFrom limits clock (executed + 1)
partial_fixpoint

/-- A whole run, told from start to stop; `none` if it never ends. -/
def run (m : Machine σ δ) (limits : RunLimits) (clock : Nat → Nat) :
    Option (StopReason × Machine σ δ) :=
  (runFrom limits clock 0 (m.tell .started)).map fun (reason, m) =>
    (reason, m.tell (.stopped reason))

/-! ## Snapshots -/

/-- The machine as a document. -/
def snapshot [Peripheral δ] (m : Machine σ δ) : Json := .obj (
  [("firmware", .str m.firmware.name)] ++ m.status.members ++ [
  ("steps", .nat m.steps),
  ("cycles", .nat m.bus.cycles),
  ("program", m.firmware.snapshot m.program),
  ("peripherals", m.bus.snapshot)])

end Machine

end PolledTerminal
