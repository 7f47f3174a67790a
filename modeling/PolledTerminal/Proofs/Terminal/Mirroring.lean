import PolledTerminal.Proofs.Machine.InStep
import PolledTerminal.Proofs.Terminal.Relocation
import PolledTerminal.Proofs.Terminal.Step
import PolledTerminal.Report
set_option autoImplicit false

/-!
# Mirroring a terminal

A terminal whose display is mirrored and the same terminal with a silent display stay
in step.  Both displays accept the same writes, and the mirrored one prints them.
-/

namespace PolledTerminal

/-! ## What a display has accepted -/

/-- What the display of a console has accepted since another one: this is what the
console has told, and what it has printed if it echoes. -/
structure Console.Showed (c : Console) (ws : List RegisterWrite) (c' : Console) : Prop where
  ports : c'.program.ports = c.program.ports
  accepts : c.display.Accepts ws c'.display
  echo : c'.display.echo = c.display.echo
  outputs : c'.told.reverse.filterMap TraceEvent.output? =
    c.told.reverse.filterMap TraceEvent.output? ++ ws.map c.program.ports.write
  printed : c'.printed = c.printed ++ if c.display.echo then mirror ws else ""

namespace Console.Showed

variable {c c' : Console} {ws : List RegisterWrite}

theorem refl (c : Console) : Showed c [] c := ⟨rfl, .refl _, rfl, by simp, by simp⟩

/-- Telling something else shows nothing. -/
theorem tell (h : Showed c ws c') {e : TraceEvent} (he : e.output? = none) :
    Showed c ws (c'.tell e) := by
  refine ⟨h.ports, h.accepts, h.echo, ?_, h.printed⟩
  rw [← h.outputs]
  simp [Console.tell, he]

theorem step (h : Showed c ws c') :
    Showed c (ws ++ (Reaction.ofLast c'.program.last).writes c'.program.prompt) c'.step := by
  obtain ⟨vs, n, hs⟩ := c'.stepped_step
  rw [← hs.writes]
  refine ⟨(congrArg Prod.fst c'.setup_step).trans h.ports, h.accepts.trans hs.accepts,
    hs.echo.trans h.echo, ?_, ?_⟩
  · rw [hs.outputs_eq, h.outputs, h.ports, List.map_append, List.append_assoc]
  · rw [hs.printed, h.printed, h.echo, mirror_append, String.append_assoc]
    cases c.display.echo <;> simp

end Console.Showed

section Opening

variable {δ : Type} [TerminalPeripheral δ] {origin : Bus δ} {m : Machine Terminal δ} {t : Terminal}
  {d : Display} {k : Keyboard} {c : Console} {ws : List RegisterWrite}

/-- A terminal tells its writes, each of them to a port. -/
theorem Machine.Realizes.outputs_eq (h : m.Realizes origin c)
    (hshowed : (t.console d k).Showed ws c) : m.rig.outputs = ws.map t.ports.write := by
  rw [Rig.outputs, Rig.events, h.rig.told, hshowed.outputs]
  rfl

/-- Where nothing was printed before, a display that echoes has printed all that it has
accepted, and one that does not nothing. -/
theorem Machine.Realizes.printedText_eq (h : m.Realizes origin c)
    (hshowed : (t.console d k).Showed ws c) (hprinted : origin.printedText = "") :
    m.bus.printedText = if d.echo then mirror ws else "" := by
  have hpassed : m.bus.printedText = origin.printedText ++ c.printed := h.rig.passes.printed
  rw [hpassed, hprinted, hshowed.printed, String.empty_append]
  exact String.empty_append

end Opening

/-! ## Two terminals in step -/

/-- Two machines whose consoles differ at most in whether they echo, and what the display
of either has accepted since they began. -/
def Mirrored {δ δ' : Type} [TerminalPeripheral δ] [TerminalPeripheral δ'] (origin : Bus δ)
    (origin' : Bus δ') (c₀ c₀' : Console) (m : Machine Terminal δ)
    (m' : Machine Terminal δ') : Prop :=
  ∃ c c' ws, m.Realizes origin c ∧ m'.Realizes origin' c' ∧ c₀.Showed ws c ∧
    c₀'.Showed ws c' ∧ c'.relocate id c₀.program.ports c₀.program.promptAddr =
      c.relocate id c₀.program.ports c₀.program.promptAddr

section Mirrored

variable {δ δ' : Type} [TerminalPeripheral δ] [TerminalPeripheral δ'] {origin : Bus δ}
  {origin' : Bus δ'} {c₀ c₀' : Console}

theorem Mirrored.tell {m : Machine Terminal δ} {m' : Machine Terminal δ'}
    (h : Mirrored origin origin' c₀ c₀' m m') {e : TraceEvent} (he : e.output? = none) :
    Mirrored origin origin' c₀ c₀' (m.tell e) (m'.tell e) := by
  obtain ⟨c, c', ws, hm, hm', hc, hc', hsame⟩ := h
  refine ⟨c.tell e, c'.tell e, ws, hm.tell e, hm'.tell e, hc.tell he, hc'.tell he, ?_⟩
  rw [Console.relocate_tell, Console.relocate_tell, hsame]

/-- One terminal with two displays. -/
theorem mirrored_inStep [LawfulTerminalPeripheral δ] [LawfulTerminalPeripheral δ']
    (hports : c₀'.program.ports = c₀.program.ports) :
    Machine.InStep (Mirrored origin origin' c₀ c₀') where
  status := by
    rintro m m' ⟨c, c', ws, hm, hm', -⟩
    rw [Machine.status, Machine.status, hm.firmware, hm'.firmware]
    rfl
  started h := h.tell rfl
  stopped reason h := h.tell rfl
  step := by
    rintro m m' ⟨c, c', ws, hm, hm', hc, hc', hsame⟩
    obtain ⟨n, hstep, hn⟩ := hm.step
    obtain ⟨n', hstep', hn'⟩ := hm'.step
    have hlast : c'.program.last = c.program.last := congrArg (fun c => c.program.last) hsame
    have hprompt : c'.program.prompt = c.program.prompt := congrArg (fun c => c.program.prompt) hsame
    have hc₁' := hc'.step
    rw [hlast, hprompt] at hc₁'
    refine ⟨n, n', hstep, hstep', c.step, c'.step, _, hn, hn', hc.step, hc₁', ?_⟩
    have hid {ports : TerminalPorts} (h : ports = c₀.program.ports) :
        TerminalPorts.Renamed id ports c₀.program.ports := by
      rw [h]
      exact ⟨rfl, fun _ _ => rfl⟩
    rw [Console.relocate_step _ (hid (hc'.ports.trans hports)), hsame,
      Console.relocate_step _ (hid hc.ports)]

end Mirrored

/-- Machines that run alike leave the same behind. -/
theorem Alike.outcome_eq {δ δ' : Type} [TerminalPeripheral δ] [TerminalPeripheral δ']
    {f : UInt8 → UInt8} {m : Machine Terminal δ} {m' : Machine Terminal δ'} (h : Alike f m m')
    (reason : StopReason) : Outcome.ofMachine reason m' = Outcome.ofMachine reason m := by
  obtain ⟨d, echo, hd, hd'⟩ := h.display
  rw [Outcome.ofMachine, Outcome.ofMachine, hd, hd', h.steps, h.cycles]
  rfl

end PolledTerminal
