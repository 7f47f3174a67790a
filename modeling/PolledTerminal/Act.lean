import PolledTerminal.Fault
set_option autoImplicit false

/-!
# Actions that may fail and may never end

A program on the bus works on a state, may meet a fault, and may wait for a
device that never becomes ready.  The state survives a fault: what was done
before it stays done.  An action that never ends has no result at all, `none`.
-/

namespace PolledTerminal

/-- An action on a state `σ`. -/
abbrev Act (σ : Type) : Type → Type := ExceptT Fault (StateT σ Option)

namespace Act

variable {σ τ α : Type}

/-- What the action makes of a state. -/
def run (a : Act σ α) (s : σ) : Option (Except Fault α × σ) := a s

/-- The action given by its results; it always ends. -/
def ofStep (f : σ → Except Fault α × σ) : Act σ α := fun s => some (f s)

/-- The action that never ends. -/
def stall : Act σ α := fun _ => none

/-- The action on a part of the state. -/
def within (part : τ → σ) (replace : τ → σ → τ) (a : Act σ α) : Act τ α := fun t =>
  match a.run (part t) with
  | none => none
  | some (result, s) => some (result, replace t s)

end Act

end PolledTerminal
