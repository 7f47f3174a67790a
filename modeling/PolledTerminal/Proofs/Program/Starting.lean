import PolledTerminal.Program
import PolledTerminal.Proofs.Terminal.Refinement
set_option autoImplicit false

/-!
# The machine of a run

Interactive and scripted runs put the terminal of a manifest on the bus of a
board.  That works just when the prompt fits, and then the terminal starts with a
fresh display and with the keys that were typed beforehand.
-/

namespace PolledTerminal.Program

open PolledTerminal.Text (Bytes)

/-- The keyboard of a run: what is typed beforehand, and nothing more to come, or
nothing yet. -/
def keyboardOf : Option Bytes → Keyboard
  | some keys => (Keyboard.feed {} keys).close
  | none => {}

/-- The bus of a run. -/
def busFor (bus : Bus Device) (echo : Bool) : Option Bytes → Bus Device
  | some keys => (bus.setEcho echo).changeKeyboard fun k => (k.feed keys).close
  | none => bus.setEcho echo

theorem toList_keyboardOf (keys : Option Bytes) :
    (keyboardOf keys).toList = (keys.getD []).filter (· ≠ 0) := by
  cases keys with
  | none => rfl
  | some keys =>
      rw [keyboardOf, Keyboard.toList_close, Keyboard.toList_feed]
      rfl

theorem terminalMachine_eq (manifest : Manifest) {bus : Bus Device} {ports : TerminalPorts}
    (hports : TerminalPorts.ofBus? bus = some ports) (echo : Bool) (keys : Option Bytes) :
    terminalMachine manifest bus echo keys =
      (Machine.new Terminal.firmware (manifest.terminal ports) (busFor bus echo keys)).mapError
        .machine := by
  unfold terminalMachine portsOf
  rw [hports]
  cases keys <;> rfl

/-- The display and the keyboard of a run. -/
theorem wired_busFor {bus : Bus Device} {ports : TerminalPorts} {d : Display}
    (h : bus.Wired ports d {}) (echo : Bool) (keys : Option Bytes) :
    (busFor bus echo keys).Wired ports { d with echo := echo } (keyboardOf keys) ∧
      bus.Passes 0 "" (busFor bus echo keys) := by
  obtain ⟨hwired, hpasses⟩ := h.setEcho echo
  cases keys with
  | none => exact ⟨hwired, hpasses⟩
  | some keys =>
      obtain ⟨hwired', hpasses'⟩ := hwired.changeKeyboard fun k => (k.feed keys).close
      exact ⟨hwired', hpasses.trans hpasses'⟩

/-- A terminal that has been started for a run, on a board with this scrollback. -/
structure Starts (manifest : Manifest) (b : Board) (bus : Bus Device) (ports : TerminalPorts)
    (keys : Option Bytes) (start : Machine Terminal Device) (limit : Nat) (d₀ : Display) :
    Prop where
  scrollback : ∃ s, b.ofKind? "display" = some s ∧ Board.scrollbackOf s = .ok limit
  started : ∃ bus', bus'.display? = some d₀ ∧ Started (manifest.terminal ports) bus' start
  fresh : d₀.Records limit [] ∧ d₀.overruns = 0
  history : History start d₀ (keyboardOf keys).toList start [] d₀ (keyboardOf keys)

variable {b : Board} {bus : Bus Device} {ports : TerminalPorts} {manifest : Manifest}

/-- A terminal whose prompt fits starts on the bus of its run. -/
theorem terminalMachine_started {d : Display} (hwired : bus.Wired ports d {})
    (hlimit : bus.ram.limit ≤ 0x100) (hfits : (manifest.terminal ports).PromptFits bus.ram)
    (echo : Bool) (keys : Option Bytes) :
    ∃ start, terminalMachine manifest bus echo keys = .ok start ∧
      Started (manifest.terminal ports) (busFor bus echo keys) start ∧
      start.bus = { busFor bus echo keys with ram := start.bus.ram } := by
  obtain ⟨-, hpasses⟩ := wired_busFor hwired echo keys
  rw [← hpasses.ram] at hlimit hfits
  obtain ⟨start, hnew, hstarted⟩ := Terminal.new_of_fits hlimit hfits
  refine ⟨start, ?_, hstarted, Machine.bus_of_new hnew⟩
  rw [terminalMachine_eq manifest hwired.ports_eq, hnew]
  rfl

theorem zero_notMem_prompt (manifest : Manifest) (ports : TerminalPorts) :
    0 ∉ (manifest.terminal ports).prompt := by
  simp [Manifest.terminal, Terminal.withPrompt]

theorem terminalMachine_of_fits (hboard : b.assemble = .ok bus)
    (hports : TerminalPorts.ofBus? bus = some ports)
    (hfits : (manifest.terminal ports).PromptFits bus.ram) (echo : Bool) (keys : Option Bytes) :
    ∃ start limit d₀, terminalMachine manifest bus echo keys = .ok start ∧
      Starts manifest b bus ports keys start limit d₀ := by
  have hassembled := Board.assembled hboard
  obtain ⟨s, limit, d, hs, hlimit, hwired, hrecords, hoverruns⟩ := hassembled.exists_wired hports
  obtain ⟨hwired', -⟩ := wired_busFor hwired echo keys
  obtain ⟨start, hstart, hstarted, -⟩ :=
    terminalMachine_started hwired hassembled.ramFits hfits echo keys
  have hkeys : 0 ∉ (keyboardOf keys).toList := by
    rw [toList_keyboardOf]
    simp
  exact ⟨start, limit, _, hstart, ⟨s, hs, hlimit⟩, ⟨_, hwired'.display, hstarted⟩,
    ⟨hrecords.congr rfl rfl rfl rfl, hoverruns⟩,
    hstarted.history hwired' (zero_notMem_prompt manifest ports) hkeys⟩

theorem terminalMachine_of_not_fits (hboard : b.assemble = .ok bus)
    (hports : TerminalPorts.ofBus? bus = some ports)
    (hfits : ¬ (manifest.terminal ports).PromptFits bus.ram) (echo : Bool) (keys : Option Bytes) :
    terminalMachine manifest bus echo keys =
      .error (.machine (.outOfRange manifest.promptAddr
        ((manifest.terminal ports).prompt.length + 1))) := by
  obtain ⟨_, _, d, -, -, hwired, -, -⟩ := (Board.assembled hboard).exists_wired hports
  obtain ⟨-, hpasses⟩ := wired_busFor hwired echo keys
  rw [← hpasses.ram] at hfits
  rw [terminalMachine_eq manifest hports, Terminal.new_of_not_fits hfits]
  rfl

/-- The consoles of a run with and without an echo, from which nothing has been seen. -/
theorem exists_consoles (hboard : b.assemble = .ok bus)
    (hports : TerminalPorts.ofBus? bus = some ports)
    (hfits : (manifest.terminal ports).PromptFits bus.ram) (keys : Option Bytes) :
    ∃ d : Display, ∀ echo, ∃ start, terminalMachine manifest bus echo keys = .ok start ∧
      start.Realizes start.bus ((manifest.terminal ports).console (d.withEcho echo)
        (keyboardOf keys)) ∧
      start.bus.cycles = 0 ∧ start.bus.printedText = "" := by
  have hassembled := Board.assembled hboard
  obtain ⟨_, _, d, -, -, hwired, -, -⟩ := hassembled.exists_wired hports
  obtain ⟨-, _, -, hbus⟩ := Board.assemble_eq_ok_iff.mp hboard
  refine ⟨d, fun echo => ?_⟩
  obtain ⟨hwired', hpasses⟩ := wired_busFor hwired echo keys
  obtain ⟨start, hstart, hstarted, hstartBus⟩ :=
    terminalMachine_started hwired hassembled.ramFits hfits echo keys
  refine ⟨start, hstart, hstarted.realizes hwired' (zero_notMem_prompt manifest ports), ?_, ?_⟩
  · rw [hstartBus]
    show (busFor bus echo keys).cycles = 0
    rw [hpasses.cycles, hbus]
    rfl
  · rw [hstartBus]
    show (busFor bus echo keys).printedText = ""
    rw [hpasses.printed, hbus]
    rfl

/-- What a run has shown, once it has acted on anything. -/
theorem Starts.hasActedOn {keys : Option Bytes} {start m : Machine Terminal Device} {limit : Nat}
    {d₀ d : Display} {k : Keyboard} {fed acted : Bytes}
    (h : Starts manifest b bus ports keys start limit d₀)
    (hhistory : History start d₀ fed m (carriageReturn :: acted) d k) :
    HasActedOn (manifest.terminal ports).prompt ports limit d₀ m acted d := by
  obtain ⟨bus', hdisplay, hstarted⟩ := h.started
  exact hhistory.hasActedOn hstarted rfl rfl h.fresh.1 h.fresh.2 hdisplay

end PolledTerminal.Program
