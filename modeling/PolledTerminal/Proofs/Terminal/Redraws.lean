import PolledTerminal.Proofs.Assembly
import PolledTerminal.Proofs.Terminal.Deeds
import PolledTerminal.Proofs.Terminal.Realization
set_option autoImplicit false

/-!
# Redrawing

A carriage return shows what stands in data memory now, not the prompt that was loaded
once: everything from the terminal's address up to the first zero.
-/

namespace PolledTerminal

open PolledTerminal.Text (Bytes)

variable {δ : Type} [TerminalPeripheral δ]

/-- The machine as a console from which nothing has been seen yet. -/
def Machine.console (m : Machine Terminal δ) (d : Display) (k : Keyboard) : Console :=
  { m.rig.console d k with steps := m.steps }

/-- A step that redraws: the display accepts a clear and the characters of a text, and
nothing else, and then the next key is taken. -/
structure Redraws (m : Machine Terminal δ) (text : Bytes) (d : Display) (k : Keyboard)
    (ws : List (RegisterWrite × Nat)) (n : Nat) (m' : Machine Terminal δ) (d' : Display) :
    Prop where
  answer : Act.run Machine.step m = some (.ok (), m')
  writes : ws.map Prod.fst = .clear :: text.map .character
  accepts : d.Accepts (ws.map Prod.fst) d'
  wired : m'.bus.Wired m.program.ports d' k.pop.2
  program : m'.program = { m.program with
    redraws := m.program.redraws + 1, last := k.pop.1.getD 0 }
  steps : m'.steps = m.steps + 1
  /-- all the writes come before the one poll of the keyboard -/
  events : m'.rig.events = m.rig.events ++ .stepStarted m.steps ::
    (Console.writeEvents m.program.ports ws ++
      [.input m.program.ports.kdr (m.console d k).nextKey, .stepEnded n])
  memory : m'.bus.ram = m.bus.ram
  /-- every byte of the text is fetched once, and so is the zero behind it -/
  elapsed : n = (ws.map Prod.snd).sum + 2 * ws.length + (text.length + 1) + 1
  passes : m.bus.Passes n (if d.echo then mirror (ws.map Prod.fst) else "") m'.bus

namespace Console

/-- The writes of a redraw, with a fetch for every character. -/
theorem wrote_clear_copy (c : Console) (text : Bytes) :
    ∃ ws, ws.map Prod.fst = .clear :: text.map .character ∧
      Wrote c ws text.length ((c.write .clear).copy text) := by
  obtain ⟨ws, hws, hcopy⟩ := (c.write .clear).wrote_copy text
  have hall := (c.wrote_write (w := .clear) (by decide)).trans hcopy
  rw [Nat.zero_add] at hall
  refine ⟨_, ?_, hall⟩
  rw [List.map_append, hws]
  rfl

theorem wrote_redraw (c : Console) (text : Bytes) :
    ∃ ws, ws.map Prod.fst = .clear :: text.map .character ∧
      Wrote c ws (text.length + 1) ((c.write .clear).print text) := by
  obtain ⟨ws, hws, hcopy⟩ := c.wrote_clear_copy text
  have hall := hcopy.trans ((c.write .clear).copy text).wrote_pass
  rw [List.append_nil, ← print_eq] at hall
  exact ⟨ws, hws, hall⟩

/-- What a step does that redraws with a text. -/
def redraw (c : Console) (text : Bytes) : Console :=
  ((((c.tell (.stepStarted c.steps)).write .clear).print text).changeProgram
    Reaction.redraw.count)

theorem ended_redraw {c : Console} (hlast : Reaction.ofLast c.program.last = .redraw)
    (text : Bytes) :
    ∃ ws n, ws.map Prod.fst = .clear :: text.map .character ∧
      Ended c ws (text.length + 1) n (c.close (c.redraw text).poll) := by
  obtain ⟨ws, hws, hwrote⟩ := (c.tell (.stepStarted c.steps)).wrote_redraw text
  have hended := hwrote.ended
  rw [hlast] at hended
  exact ⟨ws, _, hws, hended⟩

theorem ports_redraw (c : Console) (text : Bytes) :
    (c.redraw text).program.ports = c.program.ports := by
  obtain ⟨ws, -, hwrote⟩ := (c.tell (.stepStarted c.steps)).wrote_redraw text
  rw [redraw, changeProgram, Reaction.count_ports, hwrote.program]
  rfl

end Console

variable {m : Machine Terminal δ} {d : Display} {k : Keyboard}

theorem Machine.follows_console (hfirmware : m.firmware = Terminal.firmware)
    (hwired : m.bus.Wired m.program.ports d k) : m.Follows m.bus (m.console d k) :=
  ⟨hfirmware, ⟨hwired, rfl, rfl, .refl m.bus⟩, rfl⟩

variable [LawfulTerminalPeripheral δ]

/-- A step whose reaction prints a text redraws with it. -/
theorem Machine.redraws_of_act (hfirmware : m.firmware = Terminal.firmware)
    (hwired : m.bus.Wired m.program.ports d k)
    (hreaction : Reaction.ofLast m.program.last = .redraw) {text : Bytes} {r₁ : Rig Terminal δ}
    (hact : Act.run (Terminal.act m.program) (m.rig.tell (.stepStarted m.steps)) =
      some (.ok (), r₁))
    (hr₁ : r₁.Follows m.bus ((m.console d k).redraw text)) :
    ∃ ws n m' d', Redraws m text d k ws n m' d' := by
  let c := m.console d k
  have hfollows : m.Follows m.bus c := Machine.follows_console hfirmware hwired
  obtain ⟨r', hstep, hr'⟩ :=
    Terminal.run_step_of_act (r := m.rig.tell (.stepStarted m.steps)) hact hr₁ (c.ports_redraw text)
  obtain ⟨m', hrun, hm'⟩ := hfollows.run_step hstep hr'
  obtain ⟨ws, n, hws, hended⟩ := Console.ended_redraw (c := c) hreaction text
  have hclosed : m'.Follows m.bus (c.close (c.redraw text).poll) := hm'
  obtain ⟨hwired', hprogram, htold, hpasses⟩ := hclosed.rig
  have hports : (c.close (c.redraw text).poll).program.ports = m.program.ports :=
    c.ports_redraw text
  rw [hports, hended.keyboard] at hwired'
  rw [hended.program, show c.program = m.program from rfl, hreaction, Console.getD_nextKey]
    at hprogram
  rw [hended.told] at htold
  rw [hended.cycles, hended.printed, show c.cycles + n = n from Nat.zero_add n,
    show c.printed = "" from rfl, String.empty_append] at hpasses
  refine ⟨ws, n, m', _, hrun, hws, hended.accepts, hwired', hprogram, hm'.steps, ?_, hpasses.ram,
    hended.elapsed, hpasses⟩
  rw [Rig.events, htold]
  simp [c, Machine.console, Rig.console, Rig.events, Machine.program]

/-- A redraw shows the text at the terminal's address. -/
theorem Machine.exists_redraws (hfirmware : m.firmware = Terminal.firmware)
    (hwired : m.bus.Wired m.program.ports d k) (hlast : m.program.last = carriageReturn)
    {text : Bytes} (htext : m.bus.ram.Holds m.program.promptAddr (text ++ [0]))
    (hzero : 0 ∉ text) (hfits : m.program.promptAddr.toNat + text.length < 0x100) :
    ∃ ws n m' d', Redraws m text d k ws n m' d' := by
  have hfollows : m.Follows m.bus (m.console d k) := Machine.follows_console hfirmware hwired
  have hreaction := Reaction.ofLast_eq_redraw hlast
  obtain ⟨r₁, hact, hr₁⟩ :=
    Terminal.run_act_redraw (hfollows.rig.tell (.stepStarted m.steps)) hreaction htext hzero hfits
  exact Machine.redraws_of_act hfirmware hwired hreaction hact hr₁

/-! ## Stationed machines -/

/-- Whatever has become of data memory, a redraw shows the text that is there now. -/
theorem Stationed.exists_redraws {site : Bus δ} (h : Stationed site m) (hsite : site.Disjoint)
    (hsized : site.Sized) (hlimit : site.ram.limit ≤ 0x100)
    (hlast : m.program.last = carriageReturn)
    (haddr : m.bus.ram.contains m.program.promptAddr = true)
    (hzero : ∃ addr, m.program.promptAddr ≤ addr ∧ m.bus.ram.read? addr = some 0) :
    ∃ d k ws n m' d', m.bus.Wired m.program.ports d k ∧
      Redraws m (m.bus.ram.textFrom m.program.promptAddr) d k ws n m' d' := by
  obtain ⟨d, k, hwired⟩ := h.exists_wired hsite hsized
  rw [← h.outline.limit_eq] at hlimit
  have hmem := (DataMemory.mem_bytesFrom_iff hlimit haddr).mpr hzero
  obtain ⟨hholds, hfits⟩ := DataMemory.holds_textFrom hlimit haddr hmem
  obtain ⟨ws, n, m', d', hredraws⟩ := Machine.exists_redraws h.firmware hwired hlast hholds
    (DataMemory.zero_notMem_textFrom _ _) (Nat.lt_of_lt_of_le hfits hlimit)
  exact ⟨d, k, ws, n, m', d', hwired, hredraws⟩

/-- From a start on the bus of a board, whatever the host types, steps, loads and writes,
every redraw shows what data memory holds then: a step on a carriage return succeeds, and
the display accepts the clear and exactly the bytes up to the first zero. -/
theorem redraw_shows_memory {b : Board} {bus : Bus δ} (hboard : b.assemble = .ok bus)
    {t : Terminal} (hports : TerminalPorts.ofBus? bus = some t.ports)
    {start : Machine Terminal δ} (hstart : Machine.new Terminal.firmware t bus = .ok start) :
    (∀ deeds, ∃ answers m, Act.inTurn Machine.deed deeds start = some (answers, m) ∧
      Stationed bus m) ∧
    ∀ m, Stationed bus m → m.program.last = carriageReturn →
      m.bus.ram.contains m.program.promptAddr = true →
      (∃ addr, m.program.promptAddr ≤ addr ∧ m.bus.ram.read? addr = some 0) →
      ∃ d k ws n m' d', m.bus.Wired m.program.ports d k ∧
        Redraws m (m.bus.ram.textFrom m.program.promptAddr) d k ws n m' d' := by
  obtain ⟨hdisjoint, hsized, -, hlimit, -, -⟩ := Board.assembled hboard
  refine ⟨fun deeds => ?_, fun m hm => hm.exists_redraws hdisjoint hsized hlimit⟩
  exact Act.Keeps.inTurn (fun deed _ => Stationed.keeps_deed hdisjoint hsized deed)
    (Stationed.of_new hports hstart)

/-- Four bytes of memory at the top of the address space. -/
def atTopBoard : Board where
  name := "at top"
  ram := { base := 0xFC, size := "4B" }
  devices := [
    { id := "panel", kind := "display", basePort := 0x20,
      settings := [("busy_cycles", .natural 2)] },
    { id := "keys", kind := "keyboard", basePort := 0x10 }]

/-- The bus of that board, with these bytes in memory. -/
def atTopBus (cells : Array UInt8) : Bus Device where
  ram := ⟨0xFC, cells⟩
  mappings := [⟨"panel", 0x20, 2, .display (Display.new 2 4096)⟩, ⟨"keys", 0x10, 1, .keyboard {}⟩]

/-- A terminal on it, with a prompt of one character. -/
def atTopMachine (cells : Array UInt8) : Machine Terminal Device where
  firmware := Terminal.firmware
  rig := ⟨(Terminal.new ⟨0x10, 0x21, 0x20⟩).withPrompt [0x3E] 0xFC, atTopBus cells, []⟩

/-- A text loaded behind the prompt is shown with it, up to the zero at the last
address. -/
theorem redraw_shows_memory_at_top :
    atTopBoard.assemble = .ok (atTopBus #[0, 0, 0, 0]) ∧
    TerminalPorts.ofBus? (atTopBus #[0, 0, 0, 0]) = some ⟨0x10, 0x21, 0x20⟩ ∧
    Machine.new Terminal.firmware ((Terminal.new ⟨0x10, 0x21, 0x20⟩).withPrompt [0x3E] 0xFC)
      (atTopBus #[0, 0, 0, 0]) = .ok (atTopMachine #[0x3E, 0, 0, 0]) ∧
    Act.inTurn Machine.deed [.load [⟨0xFD, [0x68, 0x69]⟩]] (atTopMachine #[0x3E, 0, 0, 0]) =
      some ([.ok ()], atTopMachine #[0x3E, 0x68, 0x69, 0]) ∧
    ∃ d k ws n m' d',
      (atTopBus #[0x3E, 0x68, 0x69, 0]).Wired ⟨0x10, 0x21, 0x20⟩ d k ∧
      Redraws (atTopMachine #[0x3E, 0x68, 0x69, 0]) [0x3E, 0x68, 0x69] d k ws n m' d' := by
  have hboard : atTopBoard.assemble = .ok (atTopBus #[0, 0, 0, 0]) := rfl
  have hports : TerminalPorts.ofBus? (atTopBus #[0, 0, 0, 0]) = some ⟨0x10, 0x21, 0x20⟩ := rfl
  have hstart : Machine.new Terminal.firmware
      ((Terminal.new ⟨0x10, 0x21, 0x20⟩).withPrompt [0x3E] 0xFC) (atTopBus #[0, 0, 0, 0]) =
        .ok (atTopMachine #[0x3E, 0, 0, 0]) := rfl
  have hload : Act.inTurn Machine.deed [.load [⟨0xFD, [0x68, 0x69]⟩]]
      (atTopMachine #[0x3E, 0, 0, 0]) =
        some ([.ok ()], atTopMachine #[0x3E, 0x68, 0x69, 0]) := rfl
  obtain ⟨hdeeds, hredraws⟩ := redraw_shows_memory hboard hports hstart
  obtain ⟨_, _, hstation⟩ := hdeeds [.load [⟨0xFD, [0x68, 0x69]⟩]]
  rw [hload] at hstation
  obtain ⟨hsame, hstation⟩ := hstation
  cases hsame
  exact ⟨hboard, hports, hstart, hload,
    hredraws _ hstation rfl (by decide) ⟨0xFF, by decide, by decide⟩⟩

end PolledTerminal
