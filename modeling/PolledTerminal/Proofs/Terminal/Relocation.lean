import PolledTerminal.Proofs.Bus.Owners
import PolledTerminal.Proofs.Bus.Watching
import PolledTerminal.Proofs.Terminal.Start
set_option autoImplicit false

/-!
# Moving a terminal

The addresses of a terminal's ports and of its prompt, and whether its display echoes,
decide nothing but the port numbers in what is told.  So a terminal on one board does
what it does on any other board whose display is as fast and as long.
-/

namespace PolledTerminal

open PolledTerminal.Text (Bytes)

/-! ## Renaming ports -/

/-- The event with another port. -/
def TraceEvent.mapPort (f : UInt8 → UInt8) : TraceEvent → TraceEvent
  | .input port value => .input (f port) value
  | .output port value spins => .output (f port) value spins
  | e => e

/-- The renaming of a terminal's ports into another's. -/
def TerminalPorts.rename (ports ports' : TerminalPorts) (port : UInt8) : UInt8 :=
  if port = ports.kdr then ports'.kdr
  else if port = ports.ldr then ports'.ldr
  else if port = ports.lcr then ports'.lcr
  else port

/-- A renaming takes the ports of a terminal to those of another. -/
structure TerminalPorts.Renamed (f : UInt8 → UInt8) (ports ports' : TerminalPorts) : Prop where
  keyboard : f ports.kdr = ports'.kdr
  display : ∀ offset : UInt8, offset < 2 → f (ports.lcr + offset) = ports'.lcr + offset

section Ports

variable {δ : Type} [TerminalPeripheral δ] [LawfulTerminalPeripheral δ] {b b' : Bus δ}
  {ports ports' : TerminalPorts} {d d' : Display} {k k' : Keyboard}

/-- The display's ports are not the keyboard's. -/
theorem Bus.Wired.ports_ne (h : b.Wired ports d k) {offset : UInt8} (hoffset : offset < 2) :
    ports.lcr + offset ≠ ports.kdr := by
  obtain ⟨before, m, after, hm, -, hlcr, -⟩ := h.exists_displayAt
  obtain ⟨before', n, after', hn, hsize, hkdr⟩ := h.exists_keyboardAt
  have hnmem : n ∈ b.mappings := by simp [hn.split]
  have hnport : n.contains (n.base + 0) = true := by
    refine Mapping.contains_port (h.disjoint.fits n hnmem) ?_
    rw [hsize]
    decide
  rw [UInt8.add_zero] at hnport
  intro heq
  have hmport := hm.contains h.disjoint hoffset
  rw [← hlcr, heq, hkdr] at hmport
  have hsame := h.disjoint.eq_of_contains (by simp [hm.split]) hnmem hmport hnport
  have hkind := LawfulTerminalPeripheral.keyboard?_ofDisplay (δ := δ) d
  rw [← hm.device, hsame, hn.device, LawfulTerminalPeripheral.keyboard?_ofKeyboard] at hkind
  cases hkind

/-- The ports of a terminal can be renamed into those of any other. -/
theorem Bus.Wired.renamed (h : b.Wired ports d k) (h' : b'.Wired ports' d' k') :
    TerminalPorts.Renamed (ports.rename ports') ports ports' := by
  refine ⟨if_pos rfl, ?_⟩
  intro offset hoffset
  rw [TerminalPorts.rename, if_neg (h.ports_ne hoffset), h.ldr_eq, h'.ldr_eq]
  rcases Display.register_cases hoffset with rfl | rfl
  · have hne : ports.lcr + Display.controlRegister ≠ ports.lcr + Display.dataRegister := by
      rw [Ne, UInt8.add_right_inj]
      decide
    have hlcr : ports.lcr + Display.controlRegister = ports.lcr := UInt8.add_zero _
    have hlcr' : ports'.lcr + Display.controlRegister = ports'.lcr := UInt8.add_zero _
    rw [if_neg hne, if_pos hlcr, hlcr']
  · rw [if_pos rfl]

end Ports

/-! ## Consoles -/

namespace Console

variable (f : UInt8 → UInt8) (ports : TerminalPorts) (addr : UInt8) (c : Console)

/-- The console of the same terminal at other ports and with its prompt at another
address, as one sees it when the display is not echoed. -/
def relocate : Console :=
  { c with
    program := { c.program with ports := ports, promptAddr := addr }
    display := c.display.withEcho false
    told := c.told.map (TraceEvent.mapPort f)
    printed := "" }

theorem relocate_tell (e : TraceEvent) :
    (c.tell e).relocate f ports addr = (c.relocate f ports addr).tell (e.mapPort f) := rfl

theorem relocate_pass : c.pass.relocate f ports addr = (c.relocate f ports addr).pass := by
  simp [relocate, pass]

variable {f ports} {c}

theorem relocate_write (hports : TerminalPorts.Renamed f c.program.ports ports) {w : RegisterWrite}
    (hw : w.offset < 2) :
    (c.write w).relocate f ports addr = (c.relocate f ports addr).write w := by
  have hquiet : ((c.display.withEcho false).ready.write w.offset w.value).2 = "" :=
    Display.printed_of_accepts (Display.accepts_ready hw (c.display.withEcho false)) w.value
  rw [Display.ready_withEcho] at hquiet
  simp [relocate, write, TraceEvent.mapPort, hports.display w.offset hw, hquiet]

theorem relocate_print (hports : TerminalPorts.Renamed f c.program.ports ports) (text : Bytes) :
    (c.print text).relocate f ports addr = (c.relocate f ports addr).print text := by
  induction text generalizing c with
  | nil => exact c.relocate_pass f ports addr
  | cons x text ih =>
      have hx := relocate_write addr (c := c.pass) hports (offset_character_lt x)
      rw [print, print, ih (c := c.pass.write (.character x)) hports, hx, relocate_pass]

theorem relocate_react (hports : TerminalPorts.Renamed f c.program.ports ports)
    (reaction : Reaction) :
    (c.react reaction).relocate f ports addr = (c.relocate f ports addr).react reaction := by
  cases reaction with
  | redraw =>
      have hclear := relocate_write addr hports (w := .clear) (by decide)
      exact (relocate_print addr (c := c.write .clear) hports _).trans (by rw [hclear]; rfl)
  | idle => rfl
  | echo x => exact relocate_write addr hports (offset_character_lt x)

theorem relocate_act (hports : TerminalPorts.Renamed f c.program.ports ports) :
    c.act.relocate f ports addr = (c.relocate f ports addr).act := by
  have hreact := relocate_react addr hports (Reaction.ofLast c.program.last)
  have hcount (c : Console) (reaction : Reaction) :
      (c.changeProgram reaction.count).relocate f ports addr =
        (c.relocate f ports addr).changeProgram reaction.count := by
    cases reaction <;> rfl
  rw [act, hcount, hreact]
  rfl

theorem relocate_poll (hports : TerminalPorts.Renamed f c.program.ports ports) :
    c.poll.relocate f ports addr = (c.relocate f ports addr).poll := by
  have hkey : (c.relocate f ports addr).nextKey = c.nextKey := rfl
  simp [relocate, poll, take, tell, changeProgram, TraceEvent.mapPort, hports.keyboard, ← hkey]

theorem relocate_iterate (hports : TerminalPorts.Renamed f c.program.ports ports) :
    c.iterate.relocate f ports addr = (c.relocate f ports addr).iterate := by
  have hact : TerminalPorts.Renamed f c.act.program.ports ports := by
    rw [c.ports_act]
    exact hports
  rw [iterate, iterate, relocate_poll addr hact, relocate_act addr hports]

theorem relocate_step (hports : TerminalPorts.Renamed f c.program.ports ports) :
    c.step.relocate f ports addr = (c.relocate f ports addr).step := by
  let started := c.tell (.stepStarted c.steps)
  have hiterate : started.iterate.relocate f ports addr = (started.relocate f ports addr).iterate :=
    relocate_iterate addr hports
  have hstep : (c.relocate f ports addr).step =
      { (started.relocate f ports addr).iterate.tell
          (.stepEnded ((started.relocate f ports addr).iterate.cycles - c.cycles)) with
        steps := c.steps + 1 } := rfl
  rw [hstep, ← hiterate]
  rfl

theorem relocate_move (hports : TerminalPorts.Renamed f c.program.ports ports) (v : Move) :
    (c.move v).relocate f ports addr = (c.relocate f ports addr).move v := by
  cases v with
  | step => exact relocate_step addr hports
  | push | feed | peek | poke => rfl

theorem relocate_play (hports : TerminalPorts.Renamed f c.program.ports ports)
    (moves : List Move) :
    (c.play moves).relocate f ports addr = (c.relocate f ports addr).play moves := by
  induction moves generalizing c with
  | nil => rfl
  | cons v vs ih =>
      have hmoved : TerminalPorts.Renamed f (c.move v).program.ports ports := by
        have hsetup := congrArg Prod.fst (c.setup_play [v])
        rwa [← show (c.move v).program.ports = c.program.ports from hsetup] at hports
      show ((c.move v).play vs).relocate f ports addr = ((c.relocate f ports addr).move v).play vs
      rw [ih hmoved, relocate_move addr hports]

end Console

/-! ## Machines that run alike -/

/-- Two machines whose runs differ in the numbers of ports, and in whether what the
display accepts is echoed. -/
structure Alike {δ ε : Type} [TerminalPeripheral δ] [TerminalPeripheral ε] (rename : UInt8 → UInt8)
    (m : Machine Terminal δ) (m' : Machine Terminal ε) : Prop where
  events : m'.rig.events = m.rig.events.map (TraceEvent.mapPort rename)
  display : ∃ d echo, m.bus.display? = some d ∧ m'.bus.display? = some (d.withEcho echo)
  keyboard : ∃ k, m.bus.keyboard? = some k ∧ m'.bus.keyboard? = some k
  last : m'.program.last = m.program.last
  redraws : m'.program.redraws = m.program.redraws
  echoes : m'.program.echoes = m.program.echoes
  steps : m'.steps = m.steps
  cycles : m'.bus.cycles = m.bus.cycles

theorem TraceEvent.mapPort_id (e : TraceEvent) : e.mapPort id = e := by cases e <;> rfl

section Alike

variable {δ ε : Type} [TerminalPeripheral δ] [TerminalPeripheral ε]

/-- Machines run alike where their consoles are the same but for their places. -/
theorem Machine.Realizes.alike {origin : Bus δ} {m : Machine Terminal δ} {c : Console}
    {origin' : Bus ε} {m' : Machine Terminal ε} {c' : Console} {f : UInt8 → UInt8}
    {ports : TerminalPorts} {addr : UInt8} (h : m.Realizes origin c) (h' : m'.Realizes origin' c')
    (hcycles : origin'.cycles = origin.cycles)
    (hsame : c'.relocate id ports addr = c.relocate f ports addr) : Alike f m m' := by
  have hprogram : m.program = c.program := h.rig.program
  have hprogram' : m'.program = c'.program := h'.rig.program
  have hdisplay : c'.display = c.display.withEcho c'.display.echo :=
    congrArg (fun c => c.display.withEcho c'.display.echo) hsame
  have hkeyboard : c'.keyboard = c.keyboard := (congrArg Console.keyboard hsame :)
  have htold : c'.told = c.told.map (TraceEvent.mapPort f) := by
    have hmap : c'.told.map (TraceEvent.mapPort id) = c.told.map (TraceEvent.mapPort f) :=
      congrArg Console.told hsame
    rwa [List.map_congr_left fun e _ => e.mapPort_id, List.map_id'] at hmap
  refine ⟨?_, ?_, ?_, ?_, ?_, ?_, ?_, ?_⟩
  · rw [Rig.events, Rig.events, h.rig.told, h'.rig.told, htold, List.map_reverse]
  · refine ⟨c.display, c'.display.echo, h.rig.wired.display, ?_⟩
    rw [← hdisplay]
    exact h'.rig.wired.display
  · refine ⟨c.keyboard, h.rig.wired.keyboard, ?_⟩
    rw [← hkeyboard]
    exact h'.rig.wired.keyboard
  · rw [hprogram, hprogram']
    exact congrArg (fun c => c.program.last) hsame
  · rw [hprogram, hprogram']
    exact congrArg (fun c => c.program.redraws) hsame
  · rw [hprogram, hprogram']
    exact congrArg (fun c => c.program.echoes) hsame
  · rw [h.steps, h'.steps]
    exact (congrArg Console.steps hsame :)
  · rw [h.cycles, h'.cycles, hcycles]
    exact congrArg (fun c => origin.cycles + c.cycles) hsame

end Alike

/-! ## Devices that are spared -/

/-- The machine with all devices watched but the first display and the first
keyboard. -/
def Machine.watch {δ : Type} [TerminalPeripheral δ] (m : Machine Terminal δ) :
    Machine Terminal (Watched δ) where
  firmware := Terminal.firmware
  rig := { program := m.rig.program, bus := m.rig.bus.watch, told := m.rig.told }
  steps := m.steps

/-- A run uses no device but the first display and the first keyboard: the others only
see the cycles pass, and if they are watched in the run, they are not called. -/
structure Spares {δ : Type} [TerminalPeripheral δ] (start : Machine Terminal δ)
    (moves : List Move) (m : Machine Terminal δ) : Prop where
  bystanders : m.bus.bystanders =
    start.bus.bystanders.map (Mapping.later (m.bus.cycles - start.bus.cycles))
  watched : start.bus.watch.bystanders = start.bus.bystanders.map Mapping.watched
  uncalled : ∃ w, Machine.play moves start.watch =
      some (List.replicate moves.length (.ok ()), w) ∧ Alike id m w ∧
    ∀ n ∈ w.bus.bystanders, n.device.calls? = some 0

section Spares

variable {δ : Type} [TerminalPeripheral δ] [LawfulTerminalPeripheral δ] {bus : Bus δ} {t : Terminal}
  {start : Machine Terminal δ} {d : Display}

/-- A terminal opens its console also where the other devices are watched. -/
theorem Opens.watch (h : Opens bus t start d) :
    start.watch.Realizes start.bus.watch (t.console d {}) := by
  obtain ⟨⟨hwired, hprompt, htext, hfits⟩, hprogram, htold, -⟩ := h.realizes.rig
  exact ⟨rfl, ⟨⟨hwired.watch, hprompt, htext, hfits⟩, hprogram, htold, .refl _⟩, h.realizes.steps⟩

theorem Opens.spares (h : Opens bus t start d) {moves : List Move}
    (hmoves : ∀ v ∈ moves, v.isPlain = true) {m : Machine Terminal δ}
    (hm : m.Realizes start.bus ((t.console d {}).play moves)) : Spares start moves m := by
  obtain ⟨w, hplay, hw⟩ := h.watch.play hmoves
  let c := (t.console d {}).play moves
  have hsame : c.relocate id t.ports t.promptAddr = c.relocate id t.ports t.promptAddr := rfl
  refine ⟨?_, Bus.bystanders_watch _, w, hplay, hm.alike hw rfl hsame,
    hw.rig.passes.calls?_eq⟩
  rw [hm.cycles, Nat.add_sub_cancel_left]
  exact hm.rig.passes.bystanders

end Spares

/-! ## The layout does not matter -/

/-- Two terminals with one prompt on two boards: where their memory and ports lie and
which other devices they have decides nothing but the numbers of the ports. -/
theorem layout_does_not_matter {δ : Type} [TerminalPeripheral δ] [LawfulTerminalPeripheral δ]
    {b b' : Board} {bus bus' : Bus δ} (hboard : b.assemble = .ok bus)
    (hboard' : b'.assemble = .ok bus') {ports ports' : TerminalPorts}
    (hports : TerminalPorts.ofBus? bus = some ports)
    (hports' : TerminalPorts.ofBus? bus' = some ports') {d d' : Display}
    (hd : bus.display? = some d) (hd' : bus'.display? = some d')
    (hbusy : d'.busyCycles = d.busyCycles)
    (hscrollback : d'.transcript.limit = d.transcript.limit) {prompt : Bytes} {addr addr' : UInt8}
    {start start' : Machine Terminal δ}
    (hstart : Machine.new Terminal.firmware ((Terminal.new ports).withPrompt prompt addr) bus =
      .ok start)
    (hstart' : Machine.new Terminal.firmware ((Terminal.new ports').withPrompt prompt addr') bus' =
      .ok start')
    {moves : List Move} (hmoves : ∀ v ∈ moves, v.isPlain = true) :
    TerminalPorts.Renamed (ports.rename ports') ports ports' ∧
    ∃ m m', Machine.play moves start = some (List.replicate moves.length (.ok ()), m) ∧
      Machine.play moves start' = some (List.replicate moves.length (.ok ()), m') ∧
      Alike (ports.rename ports') m m' ∧ Spares start moves m ∧ Spares start' moves m' := by
  obtain ⟨e, hopens⟩ := Board.exists_opens hboard hports hstart
  obtain ⟨e', hopens'⟩ := Board.exists_opens hboard' hports' hstart'
  have he : some e = some d := hopens.wired.display.symm.trans hd
  have he' : some e' = some d' := hopens'.wired.display.symm.trans hd'
  cases he
  cases he'
  have hrenamed : TerminalPorts.Renamed (ports.rename ports') ports ports' :=
    hopens.wired.renamed hopens'.wired
  obtain ⟨m, hplay, hm⟩ := hopens.realizes.play hmoves
  obtain ⟨m', hplay', hm'⟩ := hopens'.realizes.play hmoves
  -- Both displays begin as the same fresh one, so that one console is the other moved.
  have hdisplay : d'.withEcho false = d.withEcho false := by
    rw [hopens'.fresh, hopens.fresh, hbusy, hscrollback]
  let c := ((Terminal.new ports).withPrompt prompt addr).console d {}
  let c' := ((Terminal.new ports').withPrompt prompt addr').console d' {}
  have hbegin : c'.relocate id ports' addr' = c.relocate (ports.rename ports') ports' addr' := by
    simp only [c, c', Console.relocate, Terminal.console, hdisplay]
    rfl
  have hsame : (c'.play moves).relocate id ports' addr' =
      (c.play moves).relocate (ports.rename ports') ports' addr' := by
    rw [Console.relocate_play addr' (c := c') ⟨rfl, fun _ _ => rfl⟩, hbegin,
      Console.relocate_play addr' (c := c) hrenamed]
  exact ⟨hrenamed, m, m', hplay, hplay',
    hm.alike hm' (hopens'.cycles.trans hopens.cycles.symm) hsame, hopens.spares hmoves hm,
    hopens'.spares hmoves hm'⟩

/-- What decides how a terminal runs on a bus: its ports, where memory is, and the busy time
and the scrollback of the first display. -/
def Bus.essentials (bus : Bus Device) :
    Option TerminalPorts × UInt8 × Nat × Option (UInt32 × Nat) :=
  (TerminalPorts.ofBus? bus, bus.ram.base, bus.ram.limit,
    bus.display?.map fun d => (d.busyCycles, d.transcript.limit))

/-- A terminal with this prompt starts on an assembled board that has these essentials. -/
theorem Board.exists_start (prompt : Bytes) (addr : UInt8) {b : Board} {ports : TerminalPorts}
    {base : UInt8} {limit : Nat} {made : UInt32 × Nat}
    (hessentials : b.assemble.toOption.map Bus.essentials =
      some (some ports, base, limit, some made))
    (hfits : base.toNat ≤ addr.toNat ∧
      addr.toNat + ((prompt.filter (· ≠ 0)).length + 1) ≤ limit) :
    ∃ (bus : Bus Device) (d : Display) (start : Machine Terminal Device),
      b.assemble = .ok bus ∧ TerminalPorts.ofBus? bus = some ports ∧ bus.display? = some d ∧
      d.busyCycles = made.1 ∧ d.transcript.limit = made.2 ∧
      Machine.new Terminal.firmware ((Terminal.new ports).withPrompt prompt addr) bus =
        .ok start := by
  obtain ⟨bus, hbus, hvalues⟩ := Option.map_eq_some_iff.mp hessentials
  simp only [Bus.essentials, Prod.mk.injEq] at hvalues
  obtain ⟨hports, rfl, rfl, hmade⟩ := hvalues
  obtain ⟨d, hd, rfl⟩ := Option.map_eq_some_iff.mp hmade
  have hboard := toOption_eq_some.mp hbus
  obtain ⟨start, hstart, -⟩ := Terminal.new_of_fits (Board.assembled hboard).ramFits
    (t := (Terminal.new ports).withPrompt prompt addr) hfits
  exact ⟨bus, d, start, hboard, hports, hd, rfl, rfl, hstart⟩

/-- Memory at the top, the keyboard at the bottom, devices of no known kind, and another
display and keyboard behind the first ones. -/
def rearrangedBoard : Board where
  name := "rearranged"
  ram := { base := 0xC0, size := "64B" }
  devices := [
    { id := "keys", kind := "keyboard", basePort := 0x00 },
    { id := "lamp", kind := "lamp", basePort := 0x01 },
    { id := "panel", kind := "display", basePort := 0x20,
      settings := [("busy_cycles", .natural 4), ("echo_stdout", .bool true)] },
    { id := "spare keys", kind := "keyboard", basePort := 0x11 },
    { id := "spare panel", kind := "display", basePort := 0x0F }]

/-- A prompt low in the memory of the stock board, and one that ends with the last address
of the other. -/
theorem layout_does_not_matter_rearranged :
    ∃ (bus bus' : Bus Device) (d d' : Display) (start start' : Machine Terminal Device),
      Board.stock.assemble = .ok bus ∧ rearrangedBoard.assemble = .ok bus' ∧
      TerminalPorts.ofBus? bus = some {} ∧ TerminalPorts.ofBus? bus' = some ⟨0x00, 0x21, 0x20⟩ ∧
      bus.display? = some d ∧ bus'.display? = some d' ∧ d'.busyCycles = d.busyCycles ∧
      d'.transcript.limit = d.transcript.limit ∧
      Machine.new Terminal.firmware ((Terminal.new {}).withPrompt [0x3E, 0x20] 0x10) bus =
        .ok start ∧
      Machine.new Terminal.firmware
        ((Terminal.new ⟨0x00, 0x21, 0x20⟩).withPrompt [0x3E, 0x20] 0xFD) bus' = .ok start' ∧
      (∀ v ∈ [.push 0x41, .step, .feed [0x42, 0x0D], .step, .step], Move.isPlain v = true) ∧
      ∃ m m', Machine.play [.push 0x41, .step, .feed [0x42, 0x0D], .step, .step] start =
          some (List.replicate 5 (.ok ()), m) ∧
        Machine.play [.push 0x41, .step, .feed [0x42, 0x0D], .step, .step] start' =
          some (List.replicate 5 (.ok ()), m') ∧
        Alike (TerminalPorts.rename {} ⟨0x00, 0x21, 0x20⟩) m m' := by
  have hstock : Board.stock.assemble.toOption.map Bus.essentials =
      some (some {}, 0, 240, some (4, 4096)) := by
    decide +kernel
  have hrearranged : rearrangedBoard.assemble.toOption.map Bus.essentials =
      some (some ⟨0x00, 0x21, 0x20⟩, 0xC0, 0x100, some (4, 4096)) := by
    decide +kernel
  obtain ⟨bus, d, start, hboard, hports, hd, hbusy, hscrollback, hstart⟩ :=
    Board.exists_start [0x3E, 0x20] 0x10 hstock (by decide)
  obtain ⟨bus', d', start', hboard', hports', hd', hbusy', hscrollback', hstart'⟩ :=
    Board.exists_start [0x3E, 0x20] 0xFD hrearranged (by decide)
  have hmoves : ∀ v ∈ [.push 0x41, .step, .feed [0x42, 0x0D], .step, .step],
      Move.isPlain v = true := by
    decide
  obtain ⟨-, m, m', hplay, hplay', halike, -, -⟩ := layout_does_not_matter hboard hboard' hports
    hports' hd hd' (hbusy'.trans hbusy.symm) (hscrollback'.trans hscrollback.symm) hstart hstart'
    hmoves
  exact ⟨bus, bus', d, d', start, start', hboard, hboard', hports, hports', hd, hd',
    hbusy'.trans hbusy.symm, hscrollback'.trans hscrollback.symm, hstart, hstart', hmoves, m, m',
    hplay, hplay', halike⟩

end PolledTerminal
