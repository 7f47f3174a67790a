import PolledTerminal.Proofs.DataMemory
import PolledTerminal.Proofs.Terminal.Wiring
set_option autoImplicit false

/-!
# What the terminal writes

The writes that a run has told, and those that the reactions to keys consist of.
-/

namespace PolledTerminal

open PolledTerminal.Text (Bytes)

/-! ## Writes told -/

/-- The port and the value of a completed write. -/
def TraceEvent.output? : TraceEvent → Option (UInt8 × UInt8)
  | .output port value _ => some (port, value)
  | _ => none

/-- The completed writes among the events told, in order. -/
def Rig.outputs {σ δ : Type} (r : Rig σ δ) : List (UInt8 × UInt8) :=
  r.events.filterMap TraceEvent.output?

@[simp] theorem Rig.outputs_tell {σ δ : Type} (r : Rig σ δ) (e : TraceEvent) :
    (r.tell e).outputs = r.outputs ++ e.output?.toList := by
  simp only [Rig.outputs, Rig.events, Rig.tell, List.reverse_cons, List.filterMap_append]
  cases h : e.output? <;> simp [h]

/-- What a step tells first it has put out first. -/
theorem Rig.outputs_of_step {σ δ : Type} {r r' : Rig σ δ} {new shown : List TraceEvent}
    {steps : Nat} (h : r'.told = new ++ (shown.reverse ++ .stepStarted steps :: r.told))
    (elapsed : Nat) :
    ∃ more, (r'.tell (.stepEnded elapsed)).outputs =
      r.outputs ++ shown.filterMap TraceEvent.output? ++ more := by
  refine ⟨new.reverse.filterMap TraceEvent.output?, ?_⟩
  rw [Rig.outputs_tell, Rig.outputs, Rig.events, h]
  simp [Rig.outputs, Rig.events, List.filterMap_cons, TraceEvent.output?]

theorem Rig.run_onBus {σ δ α : Type} {a : Act (Bus δ) α} {r : Rig σ δ} {answer : Except Fault α}
    {bus : Bus δ} (h : Act.run a r.bus = some (answer, bus)) :
    Act.run (Rig.onBus a) r = some (answer, { r with bus := bus }) := by
  rw [Rig.onBus, Act.run_within, h]
  rfl

/-- There is no other way to act on the bus. -/
theorem Rig.exists_of_run_onBus {σ δ α : Type} {a : Act (Bus δ) α} {r r' : Rig σ δ}
    {answer : Except Fault α} (h : Act.run (Rig.onBus a) r = some (answer, r')) :
    ∃ bus, Act.run a r.bus = some (answer, bus) ∧ r' = { r with bus := bus } := by
  rw [Rig.onBus, Act.run_within] at h
  obtain ⟨⟨answer', bus⟩, hrun, heq⟩ := Option.map_eq_some_iff.mp h
  cases heq
  exact ⟨bus, hrun, rfl⟩

/-- The port of a register, and the value written there. -/
def TerminalPorts.write (ports : TerminalPorts) (w : RegisterWrite) : UInt8 × UInt8 :=
  (ports.lcr + w.offset, w.value)

/-! ## Reactions -/

/-- What a terminal has been set up with. -/
def Terminal.setup (t : Terminal) : TerminalPorts × Bytes × UInt8 :=
  (t.ports, t.prompt, t.promptAddr)

namespace Reaction

/-- The writes of a reaction. -/
def writes (prompt : Bytes) : Reaction → List RegisterWrite
  | .redraw => .clear :: prompt.map .character
  | .idle => []
  | .echo c => [.character c]

/-- A carriage return asks for a redraw. -/
theorem ofLast_eq_redraw {last : UInt8} (h : last = carriageReturn) : ofLast last = .redraw := by
  rw [h]
  rfl

/-- A reaction is counted. -/
def count (t : Terminal) : Reaction → Terminal
  | .redraw => { t with redraws := t.redraws + 1 }
  | .idle => t
  | .echo _ => { t with echoes := t.echoes + 1 }

variable (t : Terminal) (reaction : Reaction)

@[simp] theorem count_ports : (reaction.count t).ports = t.ports := by cases reaction <;> rfl

@[simp] theorem count_prompt : (reaction.count t).prompt = t.prompt := by cases reaction <;> rfl

@[simp] theorem count_promptAddr : (reaction.count t).promptAddr = t.promptAddr := by
  cases reaction <;> rfl

@[simp] theorem count_last : (reaction.count t).last = t.last := by cases reaction <;> rfl

theorem count_setup : (reaction.count t).setup = t.setup := by cases reaction <;> rfl

end Reaction

/-- The writes of the reactions to keys, in order. -/
def reactions (prompt keys : Bytes) : List RegisterWrite :=
  keys.flatMap fun key => (Reaction.ofLast key).writes prompt

theorem reactions_append (prompt ks ls : Bytes) :
    reactions prompt (ks ++ ls) = reactions prompt ks ++ reactions prompt ls :=
  List.flatMap_append

/-- The key that a terminal is about to act on, if there is one. -/
def keyOf (last : UInt8) : Bytes := if last = 0 then [] else [last]

/-- Without a key there is nothing to react to. -/
theorem reactions_keyOf (prompt : Bytes) (last : UInt8) :
    reactions prompt (keyOf last) = (Reaction.ofLast last).writes prompt := by
  unfold keyOf
  by_cases h : last = 0
  · subst h
    rfl
  · rw [if_neg h]
    exact List.append_nil _

end PolledTerminal
