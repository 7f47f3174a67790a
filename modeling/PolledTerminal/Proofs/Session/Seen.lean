import PolledTerminal.Proofs.Display.Seen
import PolledTerminal.Proofs.Program.Starting
import PolledTerminal.Proofs.Session.Turns
import PolledTerminal.Proofs.Terminal.Mirroring
set_option autoImplicit false

/-!
# What the user sees

A terminal with its display mirrored, in a session or in a scripted run: whatever is
typed and however the turns come, what is printed is what the display has accepted.
Since the last clear it is printed byte by byte, and the display holds the newest of these
bytes and shows them as one text.
-/

namespace PolledTerminal

open PolledTerminal.Text

variable {δ : Type} [TerminalPeripheral δ]

/-! ## What has been shown -/

/-- Typing shows nothing. -/
theorem Console.Showed.typeOn {c c' : Console} {ws : List RegisterWrite} (h : c.Showed ws c')
    (f : Keyboard → Keyboard) : c.Showed ws (c'.typeOn f) :=
  ⟨h.ports, h.accepts, h.echo, h.outputs, h.printed⟩

/-- The machine has come from where a console was, and what its display has accepted since
then is known. -/
def Showing (origin : Bus δ) (c₀ : Console) (m : Machine Terminal δ) : Prop :=
  ∃ c ws, m.Realizes origin c ∧ c₀.Showed ws c

section Showing

variable {origin : Bus δ} {c₀ : Console} {m : Machine Terminal δ}

theorem Showing.tell (h : Showing origin c₀ m) {e : TraceEvent} (he : e.output? = none) :
    Showing origin c₀ (m.tell e) := by
  obtain ⟨c, ws, hm, hc⟩ := h
  exact ⟨c.tell e, ws, hm.tell e, hc.tell he⟩

variable [LawfulTerminalPeripheral δ]

theorem Showing.typeOn (h : Showing origin c₀ m) (f : Keyboard → Keyboard) :
    Showing origin c₀ (m.changeBus fun bus => bus.changeKeyboard f) := by
  obtain ⟨c, ws, hm, hc⟩ := h
  exact ⟨c.typeOn f, ws, hm.typeOn f, hc.typeOn f⟩

theorem Showing.step (h : Showing origin c₀ m) :
    ∃ m', Act.run Machine.step m = some (.ok (), m') ∧ Showing origin c₀ m' := by
  obtain ⟨c, ws, hm, hc⟩ := h
  obtain ⟨m', hstep, hm'⟩ := hm.step
  exact ⟨m', hstep, c.step, _, hm', hc.step⟩

/-- Such a machine is in step with itself. -/
theorem showing_inStep (origin : Bus δ) (c₀ : Console) :
    Machine.InStep fun m m' : Machine Terminal δ => m' = m ∧ Showing origin c₀ m where
  status := by
    rintro m _ ⟨rfl, -⟩
    rfl
  started h := ⟨congrArg (Machine.tell · .started) h.1, h.2.tell rfl⟩
  stopped reason h := ⟨congrArg (Machine.tell · (.stopped reason)) h.1, h.2.tell rfl⟩
  step := by
    rintro m _ ⟨rfl, h⟩
    obtain ⟨n, hstep, hn⟩ := h.step
    exact ⟨n, n, hstep, hstep, rfl, hn⟩

/-! ## Sessions -/

omit [LawfulTerminalPeripheral δ] in
/-- A turn of the loop goes elsewhere, or lets the machine take a step. -/
theorem Session.loopTurn_cases (maxSteps : Option Nat) {s : Session δ} {m : Machine Terminal δ}
    (hstep : Act.run Machine.step s.machine = some (.ok (), m)) :
    (∃ loop, s.loopTurn maxSteps = some { s with loop := loop }) ∨
      s.loopTurn maxSteps = some { s with machine := m, loop := .deciding } := by
  rw [Session.loopTurn]
  cases hloop : s.loop with
  | left why => exact .inl ⟨s.loop, rfl⟩
  | deciding =>
      left
      dsimp only
      split_ifs <;> exact ⟨_, rfl⟩
  | foundClosed =>
      left
      dsimp only
      split_ifs <;> exact ⟨_, rfl⟩
  | stepping =>
      right
      dsimp only
      rw [show Machine.step s.machine = some (.ok (), m) from hstep]

theorem Showing.turn {s : Session δ} (h : Showing origin c₀ s.machine) (maxSteps : Option Nat)
    (p : Party) : ∃ s', s.turn maxSteps p = some s' ∧ Showing origin c₀ s'.machine := by
  cases p with
  | feeder =>
      refine ⟨_, rfl, ?_⟩
      unfold Session.feederTurn
      split
      · exact h
      · exact h.typeOn _
  | loop =>
      obtain ⟨m, hstep, hm⟩ := h.step
      rcases Session.loopTurn_cases maxSteps hstep with hturn | hturn
      · obtain ⟨loop, hturn⟩ := hturn
        exact ⟨_, hturn, h⟩
      · exact ⟨_, hturn, hm⟩

/-- However the turns come. -/
theorem Showing.follow {s : Session δ} (h : Showing origin c₀ s.machine) (maxSteps : Option Nat)
    (schedule : List Party) :
    ∃ s', Session.follow maxSteps schedule s = some s' ∧ Showing origin c₀ s'.machine :=
  Session.exists_follow (P := fun s => Showing origin c₀ s.machine)
    (fun hs => hs.turn maxSteps _) h schedule

end Showing

/-! ## On a board -/

/-- A machine has printed what its display has accepted, and since the last clear byte by
byte; the display holds the newest of these bytes, and shows them as one text. -/
structure SeenAndHeld (ports : TerminalPorts) (limit : Nat) (d₀ : Display)
    (m : Machine Terminal Device) (ws : List RegisterWrite) (d : Display) : Prop where
  display : m.bus.display? = some d
  accepts : d₀.Accepts ws d
  told : m.rig.outputs = ws.map ports.write
  cleared : upToClear ws = [] ∨ ∃ vs, upToClear ws = vs ++ [.clear]
  printed : m.bus.printedText = mirror (upToClear ws) ++
    String.ofList (Utf8.octetChars (shownBytes (sinceClear ws)))
  screen : d.screen.toList = (shownBytes (sinceClear ws)).rtake limit
  /-- the two agree on bytes that are characters by themselves -/
  agrees : (shownBytes (sinceClear ws)).length ≤ limit →
    (String.ofList (Utf8.octetChars (shownBytes (sinceClear ws))) = d.screenText ↔
      ∀ b ∈ shownBytes (sinceClear ws), b.toNat < 0x80)

variable {b : Board} {bus : Bus Device} {ports : TerminalPorts} {manifest : Manifest}

/-- From a console whose display echoes and is new, on a bus that has printed nothing. -/
theorem Showing.seenAndHeld {start m : Machine Terminal Device} {t : Terminal} {d₀ : Display}
    {k : Keyboard} {limit : Nat} (hrecords : d₀.Records limit []) (hecho : d₀.echo = true)
    (hprinted : start.bus.printedText = "") (h : Showing start.bus (t.console d₀ k) m) :
    ∃ ws d, SeenAndHeld t.ports limit d₀ m ws d := by
  obtain ⟨c, ws, hm, hshowed⟩ := h
  have hafter := hrecords.of_accepts hshowed.accepts
  rw [List.nil_append] at hafter
  have htext : m.bus.printedText = mirror ws := by
    rw [hm.printedText_eq hshowed hprinted, hecho]
    rfl
  refine ⟨ws, c.display, hm.rig.wired.display, hshowed.accepts, hm.outputs_eq hshowed,
    upToClear_eq ws, ?printed, hafter.screen, ?agrees⟩
  case printed =>
    rw [htext, ← mirror_sinceClear, ← mirror_append, upToClear_append_sinceClear]
  case agrees =>
    rw [← mirror_sinceClear]
    exact hafter.mirror_eq_screenText_iff

/-- With the display mirrored, whatever was typed before and is typed now, and in whatever
order the feeder and the loop take turns, as in a scripted run: a clear is printed as such,
and since the last one each byte that the display has accepted is printed as the character
of its number.  The display shows the same bytes as one text.  So as long as none has
dropped out, the two agree just when all of the bytes are below 0x80. -/
theorem screen_is_printed_byte_by_byte (hboard : b.assemble = .ok bus)
    (hports : TerminalPorts.ofBus? bus = some ports)
    (hfits : (manifest.terminal ports).PromptFits bus.ram) (keys : Option Bytes) :
    ∃ start limit d₀, Program.terminalMachine manifest bus true keys = .ok start ∧
      start.bus.display? = some d₀ ∧
      (∃ s, b.ofKind? "display" = some s ∧ Board.scrollbackOf s = .ok limit) ∧
      (∀ maxSteps typed schedule,
        ∃ s, Session.follow maxSteps schedule (.opening start typed) = some s ∧
          ∃ ws d, SeenAndHeld ports limit d₀ s.machine ws d) ∧
      ∀ limits max clock, limits.maxSteps = some max →
        ∃ reason m, start.run limits clock = some (reason, m) ∧
          ∃ ws d, SeenAndHeld ports limit d₀ m ws d := by
  obtain ⟨start, limit, d₀, hmachine, hstarts⟩ :=
    Program.terminalMachine_of_fits hboard hports hfits true keys
  obtain ⟨d, hconsoles⟩ := Program.exists_consoles hboard hports hfits keys
  obtain ⟨start', hmachine', hconsole, -, hprinted⟩ := hconsoles true
  cases hmachine.symm.trans hmachine'
  have hdisplay : start.bus.display? = some d₀ := hstarts.history.ready.wired.display
  cases Option.some.inj (hdisplay.symm.trans hconsole.rig.wired.display)
  have hbegin : Showing start.bus _ start := ⟨_, [], hconsole, .refl _⟩
  refine ⟨start, limit, _, hmachine, hdisplay, hstarts.scrollback, ?sessions, ?runs⟩
  case sessions =>
    intro maxSteps typed schedule
    obtain ⟨s, hfollow, hs⟩ := hbegin.follow (s := .opening start typed) maxSteps schedule
    exact ⟨s, hfollow, hs.seenAndHeld hstarts.fresh.1 rfl hprinted⟩
  case runs =>
    intro limits max clock hmax
    obtain ⟨reason, m, _, hrun, -, -, hm⟩ :=
      (showing_inStep start.bus _).run ⟨rfl, hbegin⟩ hmax clock
    exact ⟨reason, m, hrun, hm.seenAndHeld hstarts.fresh.1 rfl hprinted⟩

/-- On the stock board, with the keys of a letter of two bytes typed before. -/
theorem screen_is_printed_byte_by_byte_stock :
    ∃ bus : Bus Device, Board.stock.assemble = .ok bus ∧ TerminalPorts.ofBus? bus = some {} ∧
      (({} : Manifest).terminal {}).PromptFits bus.ram ∧
    ∃ start limit d₀, Program.terminalMachine {} bus true (some [0xC3, 0xA9]) = .ok start ∧
      start.bus.display? = some d₀ ∧
      (∃ s, Board.stock.ofKind? "display" = some s ∧ Board.scrollbackOf s = .ok limit) ∧
      (∀ maxSteps typed schedule,
        ∃ s, Session.follow maxSteps schedule (.opening start typed) = some s ∧
          ∃ ws d, SeenAndHeld {} limit d₀ s.machine ws d) ∧
      ∀ limits max clock, limits.maxSteps = some max →
        ∃ reason m, start.run limits clock = some (reason, m) ∧
          ∃ ws d, SeenAndHeld {} limit d₀ m ws d := by
  obtain ⟨bus, hboard, hports, hbase, hram⟩ := Board.stock_assembles
  have hfits : (({} : Manifest).terminal {}).PromptFits bus.ram := by
    rw [Terminal.PromptFits, hbase, hram]
    decide
  exact ⟨bus, hboard, hports, hfits,
    screen_is_printed_byte_by_byte hboard hports hfits (some [0xC3, 0xA9])⟩

/-- A session on the stock board with the display mirrored, in which a letter of two bytes
is typed and acted on. -/
def letterSession : Option (Session Device) := do
  let bus ← (Board.stock.assemble : Except BoardFault (Bus Device)).toOption
  let start ← (Program.terminalMachine {} bus true none).toOption
  Session.follow none (.replicate 3 .feeder ++ .replicate 12 .loop)
    (.opening start [0xC3, 0xA9])

/-- A letter of two bytes is printed as two letters, and the display, from which nothing has
dropped out, shows the one. -/
theorem letter_of_two_bytes_is_seen_as_two :
    letterSession.map Session.loop = some (.left .inputClosed) ∧
    letterSession.map (fun s => s.machine.bus.printedText) =
      some (Display.clearSequence ++ "# Ã©") ∧
    (letterSession.bind fun s => s.machine.bus.display?).map
        (fun d => (d.screen.toList, d.screen.limit, d.screenText)) =
      some ([0x23, 0x20, 0xC3, 0xA9], 4096, "# é") ∧
    "# Ã©" ≠ "# é" := by
  decide +kernel

end PolledTerminal
