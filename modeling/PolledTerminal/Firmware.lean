import PolledTerminal.Bus
import PolledTerminal.TraceEvent
set_option autoImplicit false

/-!
# Firmware

A program runs against the bus one loop iteration at a time.  It works on a rig:
its own variables, the bus, and the events told since they were last collected.
Whatever a step tells or changes before it meets a fault stays told and changed.
-/

namespace PolledTerminal

/-- What the host sees of a program's execution. -/
inductive Status where
  | running
  | finished
  /-- spinning in the error loop after the check of this index failed -/
  | halted (check : Nat)
  deriving DecidableEq, Repr, Inhabited

namespace Status

/-- The status as members of a snapshot. -/
def members : Status → List (String × Json)
  | .running => [("state", .str "running")]
  | .finished => [("state", .str "finished")]
  | .halted check => [("state", .str "halted"), ("check", .nat check)]

end Status

/-- A program's variables, the bus, and the events so far. -/
structure Rig (σ δ : Type) where
  program : σ
  bus : Bus δ
  /-- the events told, newest first -/
  told : List TraceEvent := []

namespace Rig

variable {σ δ α : Type}

/-- The events told, in order. -/
def events (r : Rig σ δ) : List TraceEvent := r.told.reverse

/-- Tell an event. -/
def tell (r : Rig σ δ) (e : TraceEvent) : Rig σ δ := { r with told := e :: r.told }

/-- Tell an event, as an action. -/
def record (e : TraceEvent) : Act (Rig σ δ) Unit := .ofStep fun r => (.ok (), r.tell e)

/-- Change the program's variables. -/
def changeProgram (f : σ → σ) : Act (Rig σ δ) Unit :=
  .ofStep fun r => (.ok (), { r with program := f r.program })

/-- An action on the bus. -/
def onBus (a : Act (Bus δ) α) : Act (Rig σ δ) α :=
  a.within Rig.bus fun r bus => { r with bus := bus }

end Rig

/-- A program: its name, how it starts over, one iteration of its loop, and what
it shows of itself. -/
structure Firmware (σ δ : Type) where
  name : String
  reset : σ → σ
  step : Act (Rig σ δ) Unit
  status : σ → Status := fun _ => .running
  image : σ → DataImage := fun _ => []
  snapshot : σ → Json := fun _ => .null

end PolledTerminal
