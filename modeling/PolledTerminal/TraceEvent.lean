import PolledTerminal.Fault
set_option autoImplicit false

/-!
# What an observer of a run sees

A run is told as a list of events, and the counters that watch a run are a
function of that list.
-/

namespace PolledTerminal

/-- One thing that happens in a run. -/
inductive TraceEvent where
  | started
  | stopped (reason : StopReason)
  | stepStarted (step : Nat)
  | stepEnded (cycles : Nat)
  /-- a poll of an input; `none` when nothing was there -/
  | input (port : UInt8) (value : Option UInt8)
  /-- a completed write, after `spins` polls that found the port busy -/
  | output (port value : UInt8) (spins : Nat)
  deriving DecidableEq, Repr, Inhabited

/-- The counters of a run, each modulo 2 ^ 64. -/
structure Metrics where
  steps : UInt64 := 0
  cycles : UInt64 := 0
  polls : UInt64 := 0
  idlePolls : UInt64 := 0
  writes : UInt64 := 0
  busySpins : UInt64 := 0
  deriving DecidableEq, Repr, Inhabited

namespace Metrics

/-- Count one event. -/
def count (m : Metrics) : TraceEvent → Metrics
  | .stepStarted _ => { m with steps := m.steps + 1 }
  | .stepEnded cycles => { m with cycles := m.cycles + UInt64.ofNat cycles }
  | .input _ none => { m with polls := m.polls + 1, idlePolls := m.idlePolls + 1 }
  | .input _ (some _) => { m with polls := m.polls + 1 }
  | .output _ _ spins =>
    { m with writes := m.writes + 1, busySpins := m.busySpins + UInt64.ofNat spins }
  | .started | .stopped _ => m

/-- Count events in order. -/
def countAll (m : Metrics) (events : List TraceEvent) : Metrics := events.foldl count m

end Metrics

end PolledTerminal
