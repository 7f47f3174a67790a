import PolledTerminal.Proofs.Terminal.Console
set_option autoImplicit false

/-!
# Rigs that follow consoles

A terminal at its ports does what a console does, access by access, whatever is in
data memory: a text that stands there is shown character by character, as far as it
goes.  What comes behind the text is left to whoever knows it.
-/

namespace PolledTerminal

open PolledTerminal.Text (Bytes)

variable {δ : Type} [TerminalPeripheral δ]

/-! ## Following -/

/-- The rig is where the console is, and its bus has come there from another one. -/
structure Rig.Follows (origin : Bus δ) (r : Rig Terminal δ) (c : Console) : Prop where
  wired : r.bus.Wired c.program.ports c.display c.keyboard
  program : r.program = c.program
  told : r.told = c.told
  passes : origin.Passes c.cycles c.printed r.bus

namespace Rig.Follows

variable {origin : Bus δ} {r : Rig Terminal δ} {c : Console}

theorem tell (h : r.Follows origin c) (e : TraceEvent) : (r.tell e).Follows origin (c.tell e) :=
  ⟨h.wired, h.program, congrArg (e :: ·) h.told, h.passes⟩

theorem changeProgram (h : r.Follows origin c) {f : Terminal → Terminal}
    (hports : (f c.program).ports = c.program.ports) :
    ({ r with program := f r.program } : Rig Terminal δ).Follows origin (c.changeProgram f) := by
  refine ⟨?_, congrArg f h.program, h.told, h.passes⟩
  show r.bus.Wired (f c.program).ports c.display c.keyboard
  rw [hports]
  exact h.wired

/-- What is done on the bus between two cycles of the rig. -/
theorem onBus (h : r.Follows origin c) {bus : Bus δ} {d : Display} {k : Keyboard} {elapsed : Nat}
    {text : String} (hwired : bus.Wired c.program.ports d k)
    (hpasses : r.bus.Passes elapsed text bus) :
    ({ r with bus := bus } : Rig Terminal δ).Follows origin { c with
      display := d
      keyboard := k
      cycles := c.cycles + elapsed
      printed := c.printed ++ text } :=
  ⟨hwired, h.program, h.told, h.passes.trans hpasses⟩

end Rig.Follows

/-! ## Accesses -/

namespace Terminal

variable [LawfulTerminalPeripheral δ] {origin : Bus δ} {r : Rig Terminal δ} {c : Console}

theorem run_fetch (h : r.Follows origin c) {addr value : UInt8}
    (hread : origin.ram.read? addr = some value) :
    ∃ r', Act.run (Rig.onBus (Bus.read addr)) r = some (.ok value, r') ∧
      r'.Follows origin c.pass := by
  rw [← h.passes.ram] at hread
  obtain ⟨hrun, hwired⟩ := h.wired.run_read hread
  have hpass := h.onBus hwired (Bus.passes_settle r.bus)
  rw [String.append_empty] at hpass
  exact ⟨_, Rig.run_onBus hrun, hpass⟩

theorem run_emit (h : r.Follows origin c) {w : RegisterWrite} (hw : w.offset < 2) :
    ∃ r', Act.run (emit (c.program.ports.lcr + w.offset) w.value) r = some (.ok (), r') ∧
      r'.Follows origin (c.write w) := by
  obtain ⟨bus, hrun, hwired, hpasses⟩ := h.wired.run_writeCharacter hw w.value
  let e : TraceEvent :=
    .output (c.program.ports.lcr + w.offset) w.value c.display.busyRemaining.toNat
  refine ⟨({ r with bus := bus } : Rig Terminal δ).tell e, ?_, (h.onBus hwired hpasses).tell e⟩
  rw [emit, Act.run_bind_of_ok (Rig.run_onBus hrun)]
  exact Act.run_ofStep _ _

/-- Clearing writes to the control port. -/
theorem run_emit_clear (h : r.Follows origin c) :
    ∃ r', Act.run (emit c.program.ports.lcr Display.clearScreen) r = some (.ok (), r') ∧
      r'.Follows origin (c.write .clear) := by
  have hport : c.program.ports.lcr + RegisterWrite.clear.offset = c.program.ports.lcr :=
    UInt8.add_zero _
  have hemit := run_emit h (w := .clear) (by decide)
  rwa [hport] at hemit

/-- Characters are written to the data port. -/
theorem run_emit_character (h : r.Follows origin c) (x : UInt8) :
    ∃ r', Act.run (emit c.program.ports.ldr x) r = some (.ok (), r') ∧
      r'.Follows origin (c.write (.character x)) := by
  have hemit := run_emit h (w := .character x) (Console.offset_character_lt x)
  have hport : c.program.ports.lcr + (RegisterWrite.character x).offset = c.program.ports.ldr :=
    h.wired.ldr_eq.symm
  rwa [hport] at hemit

omit [LawfulTerminalPeripheral δ] in
/-- A character that has been fetched is shown, and printing goes on behind it. -/
theorem run_printFrom_of_fetch {port addr x : UInt8} {r₁ r₂ : Rig Terminal δ}
    (hfetch : Act.run (Rig.onBus (Bus.read addr)) r = some (.ok x, r₁)) (hx : x ≠ 0)
    (hemit : Act.run (emit port x) r₁ = some (.ok (), r₂)) (start : UInt8) (cells : Nat) :
    Act.run (printFrom port start (cells + 1) addr) r =
      Act.run (printFrom port start cells (addr + 1)) r₂ := by
  rw [printFrom, Act.run_bind_of_ok hfetch]
  simp only [hx, if_false]
  exact Act.run_bind_of_ok hemit

/-- A text in data memory is copied, and printing goes on behind it. -/
theorem run_printFrom_copy (h : r.Follows origin c) {text : Bytes} {addr : UInt8}
    (htext : origin.ram.Holds addr text) (hzero : 0 ∉ text) (start : UInt8) (cells : Nat) :
    ∃ r', r'.Follows origin (c.copy text) ∧
      Act.run (printFrom c.program.ports.ldr start (text.length + cells) addr) r =
        Act.run
          (printFrom c.program.ports.ldr start cells (addr + UInt8.ofNat text.length)) r' := by
  -- Each character costs a read, which only lets a cycle pass, and one write.
  induction text generalizing r c addr with
  | nil =>
      refine ⟨r, h, ?_⟩
      rw [List.length_nil, Nat.zero_add, show addr + UInt8.ofNat 0 = addr from UInt8.add_zero addr]
  | cons x text ih =>
      obtain ⟨r₁, hfetch, hr₁⟩ := run_fetch h htext.head
      obtain ⟨r₂, hemit, hr₂⟩ := run_emit_character hr₁ x
      have hx : x ≠ 0 := fun heq => hzero (by rw [heq]; exact List.mem_cons_self)
      have hzero' : 0 ∉ text := fun hmem => hzero (List.mem_cons_of_mem x hmem)
      obtain ⟨r', hr', hrest⟩ := ih hr₂ htext.tail hzero'
      have hbehind : addr + UInt8.ofNat (text.length + 1) =
          addr + 1 + UInt8.ofNat text.length := by
        rw [UInt8.ofNat_add, UInt8.add_comm (UInt8.ofNat _), ← UInt8.add_assoc]
        rfl
      refine ⟨r', hr', ?_⟩
      rw [List.length_cons, Nat.add_right_comm, hbehind]
      exact (run_printFrom_of_fetch hfetch hx hemit start _).trans hrest

/-- A text in data memory is printed up to the zero that ends it. -/
theorem run_printFrom (h : r.Follows origin c) {text : Bytes} {addr : UInt8}
    (htext : origin.ram.Holds addr (text ++ [0])) (hzero : 0 ∉ text) (start : UInt8) {cells : Nat}
    (hcells : text.length < cells) :
    ∃ r', Act.run (printFrom c.program.ports.ldr start cells addr) r = some (.ok (), r') ∧
      r'.Follows origin (c.print text) := by
  obtain ⟨rest, rfl⟩ := Nat.exists_eq_add_of_lt hcells
  obtain ⟨r₁, hr₁, hcopy⟩ := run_printFrom_copy h htext.left hzero start (rest + 1)
  obtain ⟨r', hfetch, hr'⟩ := run_fetch hr₁ htext.right.head
  refine ⟨r', ?_, by rwa [Console.print_eq]⟩
  rw [Nat.add_assoc, hcopy, printFrom, Act.run_bind_of_ok hfetch]
  rfl

/-! ## Iterations -/

/-- A redraw clears the screen and prints the text that stands where the prompt
should. -/
theorem run_act_redraw (h : r.Follows origin c) {text : Bytes}
    (hlast : Reaction.ofLast c.program.last = .redraw)
    (htext : origin.ram.Holds c.program.promptAddr (text ++ [0])) (hzero : 0 ∉ text)
    (hfits : c.program.promptAddr.toNat + text.length < 0x100) :
    ∃ r', Act.run (act c.program) r = some (.ok (), r') ∧
      r'.Follows origin (((c.write .clear).print text).changeProgram Reaction.redraw.count) := by
  obtain ⟨r₁, hclear, hr₁⟩ := run_emit_clear h
  have hcells : text.length < 0x100 - c.program.promptAddr.toNat := by omega
  obtain ⟨r₂, hprint, hr₂⟩ := run_printFrom hr₁ htext hzero c.program.promptAddr hcells
  refine ⟨_, ?_, hr₂.changeProgram (Reaction.count_ports _ _)⟩
  unfold act
  rw [hlast]
  exact (Act.run_bind_of_ok hclear).trans (Act.run_bind_of_ok hprint)

/-- After acting an iteration polls the keyboard. -/
theorem run_step_of_act {c₁ : Console} {r₁ : Rig Terminal δ}
    (hact : Act.run (act r.program) r = some (.ok (), r₁)) (h₁ : r₁.Follows origin c₁)
    (hports : c₁.program.ports = r.program.ports) :
    ∃ r', Act.run step r = some (.ok (), r') ∧ r'.Follows origin c₁.poll := by
  obtain ⟨bus, hpoll, hwired, hpasses⟩ := h₁.wired.run_pollInput
  have htaken := h₁.onBus hwired hpasses
  rw [String.append_empty] at htaken
  let e : TraceEvent := .input c₁.program.ports.kdr c₁.nextKey
  let f (t : Terminal) : Terminal := { t with last := c₁.nextKey.getD 0 }
  refine ⟨{ ({ r₁ with bus := bus } : Rig Terminal δ).tell e with program := f r₁.program }, ?_, ?_⟩
  · rw [step, Act.run_bind_of_ok (Act.run_get r), Act.run_bind_of_ok hact, ← hports,
      Act.run_bind_of_ok (Rig.run_onBus hpoll)]
    rfl
  · exact (htaken.tell e).changeProgram (f := f) rfl

end Terminal

/-! ## Machines -/

/-- The machine is where the console is, and its bus has come there from another one. -/
structure Machine.Follows (origin : Bus δ) (m : Machine Terminal δ) (c : Console) : Prop where
  firmware : m.firmware = Terminal.firmware
  rig : m.rig.Follows origin c
  steps : m.steps = c.steps

/-- A step, also one that fails, ends where its iteration has led. -/
theorem Machine.Follows.run_step {origin : Bus δ} {m : Machine Terminal δ} {c c' : Console}
    (h : m.Follows origin c) {answer : Except Fault Unit} {r' : Rig Terminal δ}
    (hstep : Act.run Terminal.step (m.rig.tell (.stepStarted m.steps)) = some (answer, r'))
    (h' : r'.Follows origin c') :
    ∃ m', Act.run Machine.step m = some (answer, m') ∧ m'.Follows origin (c.close c') := by
  rw [show Terminal.step = m.firmware.step by rw [h.firmware]; rfl] at hstep
  have helapsed : r'.bus.cycles - m.rig.bus.cycles = c'.cycles - c.cycles := by
    rw [h'.passes.cycles, h.rig.passes.cycles, Nat.add_sub_add_left]
  refine ⟨_, Machine.run_step hstep, h.firmware, ?_, congrArg (· + 1) h.steps⟩
  rw [helapsed]
  obtain ⟨hwired, hprogram, htold, hpasses⟩ := h'.tell (.stepEnded (c'.cycles - c.cycles))
  exact ⟨hwired, hprogram, htold, hpasses⟩

end PolledTerminal
