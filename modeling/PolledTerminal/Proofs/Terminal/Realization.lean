import PolledTerminal.Proofs.Terminal.Following
set_option autoImplicit false

/-!
# Consoles on a bus

A terminal on a bus whose prompt is in data memory does what a console does, for as
long as its host types and lets it step: it never fails, it tells the same events, and
all that the rest of the bus sees of it are the cycles that pass.
-/

namespace PolledTerminal

open PolledTerminal.Text (Bytes)

variable {δ : Type} [TerminalPeripheral δ]

/-! ## Rigs that realize consoles -/

/-- A terminal at its ports, with its prompt in data memory. -/
structure Rig.Ready (r : Rig Terminal δ) (d : Display) (k : Keyboard) : Prop where
  wired : r.bus.Wired r.program.ports d k
  prompt : r.bus.ram.Holds r.program.promptAddr (r.program.prompt ++ [0])
  text : 0 ∉ r.program.prompt
  fits : r.program.promptAddr.toNat + r.program.prompt.length < 0x100

/-- With the program and data memory as they were a terminal stays ready. -/
theorem Rig.Ready.of_wired {r r' : Rig Terminal δ} {d d' : Display} {k k' : Keyboard}
    (h : r.Ready d k) (hprogram : r'.program = r.program) (hram : r'.bus.ram = r.bus.ram)
    (hwired : r'.bus.Wired r.program.ports d' k') : r'.Ready d' k' := by
  obtain ⟨-, hprompt, htext, hfits⟩ := h
  rw [← hprogram, ← hram] at hprompt
  rw [← hprogram] at hwired htext hfits
  exact ⟨hwired, hprompt, htext, hfits⟩

/-- The rig is where the console is, and its bus has come there from another one. -/
structure Rig.Realizes (origin : Bus δ) (r : Rig Terminal δ) (c : Console) : Prop where
  ready : r.Ready c.display c.keyboard
  program : r.program = c.program
  told : r.told = c.told
  passes : origin.Passes c.cycles c.printed r.bus

/-- A rig that is ready, as a console from which nothing has been seen yet. -/
def Rig.console (r : Rig Terminal δ) (d : Display) (k : Keyboard) : Console where
  program := r.program
  display := d
  keyboard := k
  told := r.told

theorem Rig.Ready.realizes {r : Rig Terminal δ} {d : Display} {k : Keyboard} (h : r.Ready d k) :
    r.Realizes r.bus (r.console d k) := ⟨h, rfl, rfl, .refl r.bus⟩

namespace Rig.Realizes

variable {origin : Bus δ} {r : Rig Terminal δ} {c : Console}

theorem wired (h : r.Realizes origin c) :
    r.bus.Wired c.program.ports c.display c.keyboard := by
  rw [← h.program]
  exact h.ready.wired

/-- What stands in data memory for the console's prompt. -/
theorem prompt (h : r.Realizes origin c) :
    origin.ram.Holds c.program.promptAddr (c.program.prompt ++ [0]) ∧ 0 ∉ c.program.prompt ∧
      c.program.promptAddr.toNat + c.program.prompt.length < 0x100 := by
  rw [← h.program, ← h.passes.ram]
  exact ⟨h.ready.prompt, h.ready.text, h.ready.fits⟩

theorem follows (h : r.Realizes origin c) : r.Follows origin c :=
  ⟨h.wired, h.program, h.told, h.passes⟩

/-- To follow a console with the same prompt is to realize it. -/
theorem of_follows (h : r.Realizes origin c) {r' : Rig Terminal δ} {c' : Console}
    (h' : r'.Follows origin c') (hsetup : c'.program.setup = c.program.setup) :
    r'.Realizes origin c' := by
  obtain ⟨hprompt, htext, hfits⟩ := h.prompt
  obtain ⟨hwired, hprogram, htold, hpasses⟩ := h'
  obtain ⟨-, hsame, haddr⟩ : c'.program.ports = c.program.ports ∧
      c'.program.prompt = c.program.prompt ∧ c'.program.promptAddr = c.program.promptAddr := by
    simpa only [Terminal.setup, Prod.mk.injEq] using hsetup
  rw [← hsame, ← haddr] at hprompt hfits
  rw [← hsame] at htext
  rw [← hpasses.ram] at hprompt
  rw [← hprogram] at hwired hprompt htext hfits
  exact ⟨⟨hwired, hprompt, htext, hfits⟩, hprogram, htold, hpasses⟩

theorem tell (h : r.Realizes origin c) (e : TraceEvent) :
    (r.tell e).Realizes origin (c.tell e) :=
  h.of_follows (h.follows.tell e) rfl

/-- What is done on the bus between two cycles of the rig. -/
theorem onBus (h : r.Realizes origin c) {bus : Bus δ} {d : Display} {k : Keyboard} {elapsed : Nat}
    {text : String} (hwired : bus.Wired c.program.ports d k)
    (hpasses : r.bus.Passes elapsed text bus) :
    ({ r with bus := bus } : Rig Terminal δ).Realizes origin { c with
      display := d
      keyboard := k
      cycles := c.cycles + elapsed
      printed := c.printed ++ text } :=
  h.of_follows (h.follows.onBus hwired hpasses) rfl

end Rig.Realizes

/-! ## One iteration -/

namespace Terminal

variable [LawfulTerminalPeripheral δ] {origin : Bus δ} {r : Rig Terminal δ} {c : Console}

/-- Acting on the last character. -/
theorem run_act (h : r.Realizes origin c) :
    ∃ r', Act.run (act c.program) r = some (.ok (), r') ∧ r'.Realizes origin c.act := by
  suffices hfollows : ∃ r', Act.run (act c.program) r = some (.ok (), r') ∧
      r'.Follows origin c.act by
    obtain ⟨r', hact, h'⟩ := hfollows
    exact ⟨r', hact, h.of_follows h' c.setup_act⟩
  cases hlast : Reaction.ofLast c.program.last with
  | redraw =>
      obtain ⟨htext, hzero, hfits⟩ := h.prompt
      rw [Console.act, hlast]
      exact run_act_redraw h.follows hlast htext hzero hfits
  | idle => exact ⟨r, by rw [act, hlast]; rfl, by rw [Console.act, hlast]; exact h.follows⟩
  | echo x =>
      obtain ⟨r₁, hemit, hr₁⟩ := run_emit_character h.follows x
      rw [act, Console.act, hlast]
      exact ⟨_, Act.run_bind_of_ok hemit, hr₁.changeProgram (f := (Reaction.echo x).count) rfl⟩

/-- An iteration does not fail. -/
theorem run_step (h : r.Realizes origin c) :
    ∃ r', Act.run step r = some (.ok (), r') ∧ r'.Realizes origin c.iterate := by
  obtain ⟨r₁, hact, h₁⟩ := run_act h
  rw [← h.program] at hact
  obtain ⟨r', hstep, h'⟩ := run_step_of_act hact h₁.follows (by rw [h.program]; exact c.ports_act)
  exact ⟨r', hstep, h.of_follows h' c.setup_iterate⟩

end Terminal

/-! ## Machines -/

/-- The machine is where the console is. -/
structure Machine.Realizes (origin : Bus δ) (m : Machine Terminal δ) (c : Console) : Prop where
  firmware : m.firmware = Terminal.firmware
  rig : m.rig.Realizes origin c
  steps : m.steps = c.steps

namespace Machine.Realizes

variable {origin : Bus δ} {m : Machine Terminal δ} {c : Console}

theorem cycles (h : m.Realizes origin c) : m.bus.cycles = origin.cycles + c.cycles :=
  h.rig.passes.cycles

theorem tell (h : m.Realizes origin c) (e : TraceEvent) : (m.tell e).Realizes origin (c.tell e) :=
  ⟨h.firmware, h.rig.tell e, h.steps⟩

variable [LawfulTerminalPeripheral δ]

/-- A step does not fail. -/
theorem step (h : m.Realizes origin c) :
    ∃ m', Act.run Machine.step m = some (.ok (), m') ∧ m'.Realizes origin c.step := by
  obtain ⟨r', hiterate, hr'⟩ := Terminal.run_step (h.rig.tell (.stepStarted c.steps))
  rw [← h.steps] at hiterate
  have hfollows : m.Follows origin c := ⟨h.firmware, h.rig.follows, h.steps⟩
  obtain ⟨m', hstep, hm'⟩ := hfollows.run_step hiterate hr'.follows
  exact ⟨m', hstep, hm'.firmware, h.rig.of_follows hm'.rig c.setup_step, hm'.steps⟩

/-- Typing takes no cycle. -/
theorem typeOn (h : m.Realizes origin c) (f : Keyboard → Keyboard) :
    (m.changeBus fun bus => bus.changeKeyboard f).Realizes origin (c.typeOn f) := by
  obtain ⟨hwired, hpasses⟩ := h.rig.wired.changeKeyboard f
  have htyped := h.rig.onBus hwired hpasses
  rw [String.append_empty] at htyped
  exact ⟨h.firmware, htyped, h.steps⟩

theorem move (h : m.Realizes origin c) {v : Move} (hv : v.isPlain = true) :
    ∃ m', Act.run (Machine.move v) m = some (.ok (), m') ∧ m'.Realizes origin (c.move v) := by
  cases v with
  | push key => exact ⟨_, rfl, h.typeOn _⟩
  | feed keys => exact ⟨_, rfl, h.typeOn _⟩
  | step => exact h.step
  | peek addr => cases hv
  | poke addr value => cases hv

/-- So does a whole run of moves that type or step. -/
theorem play (h : m.Realizes origin c) {moves : List Move}
    (hmoves : ∀ v ∈ moves, v.isPlain = true) :
    ∃ m', Machine.play moves m = some (List.replicate moves.length (.ok ()), m') ∧
      m'.Realizes origin (c.play moves) := by
  induction moves generalizing m c with
  | nil => exact ⟨m, rfl, h⟩
  | cons v vs ih =>
      obtain ⟨m₁, hrun, h₁⟩ := h.move (hmoves v List.mem_cons_self)
      obtain ⟨m₂, hplay, h₂⟩ := ih h₁ fun w hw => hmoves w (List.mem_cons_of_mem v hw)
      refine ⟨m₂, ?_, h₂⟩
      rw [Machine.play_cons_of_run hrun, hplay]
      rfl

end Machine.Realizes

end PolledTerminal
