import PolledTerminal.Proofs.Terminal.Realization
set_option autoImplicit false

/-!
# One step of the terminal

A step acts on the last character and takes the next key.  With the prompt in
data memory it cannot fail; here is everything that it changes.
-/

namespace PolledTerminal

variable {δ : Type} [TerminalPeripheral δ]

/-- What an iteration does: it has the writes of its reaction accepted, and takes
the next key. -/
structure Rig.Iterates (r : Rig Terminal δ) (d : Display) (k : Keyboard) (r' : Rig Terminal δ)
    (d' : Display) : Prop where
  ready : r'.Ready d' k.pop.2
  accepts : d.Accepts ((Reaction.ofLast r.program.last).writes r.program.prompt) d'
  outputs : r'.outputs = r.outputs ++
    ((Reaction.ofLast r.program.last).writes r.program.prompt).map r.program.ports.write
  calm : Bus.Calm r.bus r'.bus
  program : r'.program =
    { (Reaction.ofLast r.program.last).count r.program with last := k.pop.1.getD 0 }

/-- The writes that a step of a console tells are those of its reaction. -/
theorem Console.Stepped.outputs_eq {c c' : Console} {ws : List (RegisterWrite × Nat)} {n : Nat}
    (h : c.Stepped ws n c') :
    c'.told.reverse.filterMap TraceEvent.output? = c.told.reverse.filterMap TraceEvent.output? ++
      (ws.map Prod.fst).map c.program.ports.write := by
  rw [h.told, ← Console.filterMap_output?_writeEvents]
  simp [List.filterMap_cons, TraceEvent.output?]

/-- A step of a machine that runs the terminal is one iteration, counted. -/
theorem Terminal.run_machineStep [LawfulTerminalPeripheral δ] {m : Machine Terminal δ}
    {d : Display} {k : Keyboard} (hfirmware : m.firmware = firmware) (h : m.rig.Ready d k) :
    ∃ m' d', Act.run Machine.step m = some (.ok (), m') ∧ m'.firmware = firmware ∧
      m'.steps = m.steps + 1 ∧ m.rig.Iterates d k m'.rig d' := by
  let c : Console := { m.rig.console d k with steps := m.steps }
  have hc : m.Realizes m.rig.bus c :=
    ⟨hfirmware, ⟨h.realizes.ready, rfl, rfl, h.realizes.passes⟩, rfl⟩
  obtain ⟨m', hrun, hfirmware', hrig, hsteps⟩ := hc.step
  obtain ⟨ws, n, hstepped⟩ := c.stepped_step
  have hready := hrig.ready
  have haccepts := hstepped.accepts
  have houtputs := hstepped.outputs_eq
  have hkey := c.getD_nextKey
  rw [hstepped.keyboard] at hready
  rw [hstepped.writes] at haccepts houtputs
  refine ⟨m', c.step.display, hrun, hfirmware', hsteps.trans hstepped.steps, hready, haccepts, ?_,
    hrig.passes.calm, ?_⟩
  · rw [Rig.outputs, Rig.events, hrig.told]
    exact houtputs
  · rw [hrig.program, hstepped.program, hkey]
    rfl

end PolledTerminal
