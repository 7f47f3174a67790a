import PolledTerminal.Proofs.Board.Acceptance
import PolledTerminal.Proofs.Display.Contents
import PolledTerminal.Proofs.Terminal.History
set_option autoImplicit false

/-!
# Starting a terminal

A terminal starts just when its prompt and the zero that ends it lie inside data
memory; then the prompt is there, and nothing else has happened.
-/

namespace PolledTerminal

open PolledTerminal.Text (Bytes)

variable {δ : Type} [TerminalPeripheral δ]

/-- The prompt and its zero lie inside data memory. -/
def Terminal.PromptFits (t : Terminal) (ram : DataMemory) : Prop :=
  ram.base.toNat ≤ t.promptAddr.toNat ∧ t.promptAddr.toNat + (t.prompt.length + 1) ≤ ram.limit

/-- A machine on which a terminal has just been started. -/
structure Started (t : Terminal) (bus : Bus δ) (start : Machine Terminal δ) : Prop where
  firmware : start.firmware = Terminal.firmware
  program : start.program = { t with last := carriageReturn }
  steps : start.steps = 0
  told : start.rig.told = []
  mappings : start.bus.mappings = bus.mappings
  ramBase : start.bus.ram.base = bus.ram.base
  ramSize : start.bus.ram.cells.size = bus.ram.cells.size
  prompt : start.bus.ram.Holds t.promptAddr (t.prompt ++ [0])
  fits : t.promptAddr.toNat + t.prompt.length < 0x100

/-- The console of a terminal that starts, before anything has been seen of it. -/
def Terminal.console (t : Terminal) (d : Display) (k : Keyboard) : Console where
  program := { t with last := carriageReturn }
  display := d
  keyboard := k

omit [TerminalPeripheral δ] in
/-- Starting a program loads data memory and touches nothing else of the bus. -/
theorem Machine.bus_of_new {σ : Type} {firmware : Firmware σ δ} {program : σ} {bus : Bus δ}
    {start : Machine σ δ} (h : Machine.new firmware program bus = .ok start) :
    start.bus = { bus with ram := start.bus.ram } := by
  unfold Machine.new at h
  dsimp only at h
  rcases hload : loadSegments bus.ram (firmware.image program) with ⟨why | u, ram⟩
  · rw [hload] at h
    cases h
  · rw [hload] at h
    cases h
    rfl

namespace Terminal

variable {t : Terminal} {bus : Bus δ}

theorem image_eq (t : Terminal) :
    (firmware : Firmware Terminal δ).image t = [⟨t.promptAddr, t.prompt ++ [0]⟩] := rfl

theorem new_of_fits (hlimit : bus.ram.limit ≤ 0x100) (h : t.PromptFits bus.ram) :
    ∃ start, Machine.new Terminal.firmware t bus = .ok start ∧ Started t bus start := by
  have hload : ∃ ram, bus.ram.load? ⟨t.promptAddr, t.prompt ++ [0]⟩ = some ram := by
    refine ⟨_, if_pos ?_⟩
    rw [List.length_append]
    exact h
  obtain ⟨ram, hload⟩ := hload
  obtain ⟨hbase, hsize, hholds, hfits⟩ := DataMemory.load?_eq_some hload hlimit
  refine ⟨⟨Terminal.firmware, ⟨{ t with last := carriageReturn }, { bus with ram := ram }, []⟩, 0⟩,
    ?_, ⟨rfl, rfl, rfl, rfl, rfl, hbase, hsize, hholds, ?_⟩⟩
  · rw [Machine.new, image_eq, Machine.loadSegments, hload]
    rfl
  · rw [List.length_append, List.length_singleton] at hfits
    exact hfits

theorem new_of_not_fits (h : ¬ t.PromptFits bus.ram) :
    Machine.new Terminal.firmware t bus =
      .error (.outOfRange t.promptAddr (t.prompt.length + 1)) := by
  have hload : bus.ram.load? ⟨t.promptAddr, t.prompt ++ [0]⟩ = none := by
    rw [DataMemory.load?_eq_none_iff, List.length_append]
    exact h
  rw [Machine.new, image_eq, Machine.loadSegments, hload]
  simp only [List.length_append, List.length_singleton]
  rfl

/-- A terminal that could be started. -/
theorem started_of_new {start : Machine Terminal δ} (hlimit : bus.ram.limit ≤ 0x100)
    (h : Machine.new Terminal.firmware t bus = .ok start) :
    t.PromptFits bus.ram ∧ Started t bus start := by
  by_cases hfits : t.PromptFits bus.ram
  · obtain ⟨start', hnew, hstarted⟩ := new_of_fits hlimit hfits
    rw [h] at hnew
    cases hnew
    exact ⟨hfits, hstarted⟩
  · rw [new_of_not_fits hfits] at h
    cases h

end Terminal

namespace Started

variable {t : Terminal} {bus : Bus δ} {start : Machine Terminal δ}

theorem calm (h : Started t bus start) : Bus.Calm bus start.bus :=
  ⟨h.ramBase, h.ramSize, congrArg _ h.mappings⟩

theorem outputs (h : Started t bus start) : start.rig.outputs = [] := by
  rw [Rig.outputs, Rig.events, h.told]
  rfl

theorem ready (h : Started t bus start) {d : Display} {k : Keyboard}
    (hwired : bus.Wired t.ports d k) (htext : 0 ∉ t.prompt) : start.rig.Ready d k := by
  have hprogram : start.rig.program = { t with last := carriageReturn } := h.program
  have hdisplay : start.bus.display? = some d := by
    rw [Bus.display?, h.mappings]
    exact hwired.display
  have hkeyboard : start.bus.keyboard? = some k := by
    rw [Bus.keyboard?, h.mappings]
    exact hwired.keyboard
  refine ⟨?_, ?_, ?_, ?_⟩
  · rw [hprogram]
    exact hwired.of_calm h.calm hdisplay hkeyboard
  · rw [hprogram]
    exact h.prompt
  · rw [hprogram]
    exact htext
  · rw [hprogram]
    exact h.fits

/-- The terminal is ready for its first step, with what waits in the keyboard. -/
theorem history (h : Started t bus start) {d : Display} {k : Keyboard}
    (hwired : bus.Wired t.ports d k) (htext : 0 ∉ t.prompt) (hkeys : 0 ∉ k.toList) :
    History start d k.toList start [] d k :=
  .begin h.firmware (h.ready hwired htext) (by rw [h.program]) h.steps hkeys

/-- A console opens with the terminal. -/
theorem realizes (h : Started t bus start) {d : Display} {k : Keyboard}
    (hwired : bus.Wired t.ports d k) (htext : 0 ∉ t.prompt) :
    start.Realizes start.bus (t.console d k) :=
  ⟨h.firmware, ⟨h.ready hwired htext, h.program, h.told, .refl _⟩, h.steps⟩

end Started

/-! ## Fresh displays -/

/-- A display as described has accepted nothing, and was never overrun. -/
theorem Board.records_of_displayOf {s : DeviceSpec} {d : Display} (h : displayOf s = .ok d) :
    ∃ limit, scrollbackOf s = .ok limit ∧ d.Records limit [] ∧ d.overruns = 0 := by
  obtain ⟨limit, hlimit, hpos, busy, echo, rfl⟩ := displayOf_eq_ok h
  have hmax : max limit 1 = limit := Nat.max_eq_left hpos
  have hnew := Display.Records.new busy limit
  rw [hmax] at hnew
  exact ⟨limit, hlimit, hnew.congr rfl rfl rfl rfl, rfl⟩

/-- The bus of a board that has a display and a keyboard. -/
theorem Board.Assembled.exists_wired [LawfulTerminalPeripheral δ] {b : Board} {bus : Bus δ}
    (h : Board.Assembled b bus) {ports : TerminalPorts}
    (hports : TerminalPorts.ofBus? bus = some ports) :
    ∃ s limit d, b.ofKind? "display" = some s ∧ Board.scrollbackOf s = .ok limit ∧
      bus.Wired ports d {} ∧ d.Records limit [] ∧ d.overruns = 0 := by
  obtain ⟨d, k, hwired⟩ := Bus.exists_wired h.disjoint h.sized hports
  obtain ⟨s, hs, hd⟩ := h.display d hwired.display
  obtain ⟨limit, hlimit, hrecords, hoverruns⟩ := Board.records_of_displayOf hd
  rw [h.keyboard k hwired.keyboard] at hwired
  exact ⟨s, limit, d, hs, hlimit, hwired, hrecords, hoverruns⟩

/-! ## Opening a console -/

/-- A display as described shows nothing, and whether it echoes is all that its busy
time and its scrollback do not say. -/
theorem Board.fresh_of_displayOf {s : DeviceSpec} {d : Display} (h : displayOf s = .ok d) :
    d.withEcho false = Display.new d.busyCycles d.transcript.limit := by
  obtain ⟨limit, -, -, busy, echo, rfl⟩ := displayOf_eq_ok h
  simp [Display.withEcho, Display.new]

/-- A terminal has just been started on the bus of a board, and nothing has been done
with that bus before. -/
structure Opens (bus : Bus δ) (t : Terminal) (start : Machine Terminal δ) (d : Display) : Prop where
  wired : bus.Wired t.ports d {}
  fresh : d.withEcho false = Display.new d.busyCycles d.transcript.limit
  realizes : start.Realizes start.bus (t.console d {})
  cycles : start.bus.cycles = 0

theorem Board.exists_opens [LawfulTerminalPeripheral δ] {b : Board} {bus : Bus δ}
    (hboard : b.assemble = .ok bus) {ports : TerminalPorts}
    (hports : TerminalPorts.ofBus? bus = some ports) {prompt : Bytes} {addr : UInt8}
    {start : Machine Terminal δ}
    (hstart : Machine.new Terminal.firmware ((Terminal.new ports).withPrompt prompt addr) bus =
      .ok start) :
    ∃ d, Opens bus ((Terminal.new ports).withPrompt prompt addr) start d := by
  have hassembled := Board.assembled hboard
  obtain ⟨d, k, hwired⟩ := Bus.exists_wired hassembled.disjoint hassembled.sized hports
  obtain ⟨s, -, hd⟩ := hassembled.display d hwired.display
  rw [hassembled.keyboard k hwired.keyboard] at hwired
  obtain ⟨-, hstarted⟩ := Terminal.started_of_new hassembled.ramFits hstart
  obtain ⟨-, _, -, hbus⟩ := Board.assemble_eq_ok_iff.mp hboard
  have htext : 0 ∉ ((Terminal.new ports).withPrompt prompt addr).prompt := by
    simp [Terminal.withPrompt]
  refine ⟨d, hwired, Board.fresh_of_displayOf hd, hstarted.realizes hwired htext, ?_⟩
  rw [Machine.bus_of_new hstart, hbus]
  rfl

end PolledTerminal
