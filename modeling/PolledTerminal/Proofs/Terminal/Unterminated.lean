import PolledTerminal.Proofs.Machine.Advancing
import PolledTerminal.Proofs.Machine.Stepping
import PolledTerminal.Proofs.Terminal.Redraws
set_option autoImplicit false

/-!
# Prompts without an end

Where no zero ends the prompt a redraw shows all bytes up to the end of data memory.
That the text has no end is only noticed at the top of the address space: where data
memory ends before it, the redraw reads on in whatever is mapped there.
-/

namespace PolledTerminal

open PolledTerminal.Text (Bytes)

variable {δ : Type} [TerminalPeripheral δ]

/-- A step that clears the screen, copies a text to it and fails then, after so many
fetches; no key is taken. -/
structure BreaksOff (m : Machine Terminal δ) (text : Bytes) (d : Display) (k : Keyboard)
    (why : Fault) (fetches : Nat) (ws : List (RegisterWrite × Nat)) (n : Nat)
    (m' : Machine Terminal δ) (d' : Display) : Prop where
  answer : Act.run Machine.step m = some (.error why, m')
  writes : ws.map Prod.fst = .clear :: text.map .character
  accepts : d.Accepts (ws.map Prod.fst) d'
  wired : m'.bus.Wired m.program.ports d' k
  program : m'.program = m.program
  steps : m'.steps = m.steps + 1
  /-- the keyboard is not polled -/
  events : m'.rig.events = m.rig.events ++ .stepStarted m.steps ::
    (Console.writeEvents m.program.ports ws ++ [.stepEnded n])
  memory : m'.bus.ram = m.bus.ram
  elapsed : n = (ws.map Prod.snd).sum + 2 * ws.length + fetches
  passes : m.bus.Passes n (if d.echo then mirror (ws.map Prod.fst) else "") m'.bus

/-! ## Behind the end -/

namespace Terminal

variable [LawfulTerminalPeripheral δ] {origin : Bus δ} {r : Rig Terminal δ} {c : Console}

/-- Where nothing is mapped a fetch fails, after its cycle. -/
theorem run_fetch_of_unowned (h : r.Follows origin c) {addr : UInt8}
    (hram : origin.ram.contains addr = false)
    (hunowned : ∀ x ∈ origin.mappings, x.contains addr = false) :
    ∃ r', Act.run (Rig.onBus (Bus.read addr)) r = some (.error (.unmapped addr), r') ∧
      r'.Follows origin c.pass := by
  have hplaces := h.passes.calm.sameOutline.samePlaces
  have hunowned' : ∀ x ∈ r.bus.mappings, x.contains addr = false := by
    intro x hx
    obtain ⟨y, hy, hplace⟩ := hplaces.exists_mapping hx
    rw [Mapping.contains_eq_inPlace, ← hplace]
    exact hunowned y hy
  have hfetch := Bus.fetch_of_unowned (hplaces.contains addr ▸ hram) hunowned'
  have hpass := h.onBus h.wired.settle (Bus.passes_settle r.bus)
  rw [String.append_empty] at hpass
  refine ⟨_, Rig.run_onBus ?_, hpass⟩
  rw [Bus.run_read, hfetch]

/-- A redraw copies the text that stands at the terminal's address, and goes on with
printing behind it. -/
theorem run_act_copy (h : r.Follows origin c)
    (hlast : Reaction.ofLast c.program.last = .redraw) {text : Bytes}
    (htext : origin.ram.Holds c.program.promptAddr text) (hzero : 0 ∉ text)
    (hfits : c.program.promptAddr.toNat + text.length ≤ 0x100) :
    ∃ r', r'.Follows origin ((c.write .clear).copy text) ∧
      Act.run (act c.program) r = Act.run (do
        printFrom c.program.ports.ldr c.program.promptAddr
          (0x100 - (c.program.promptAddr.toNat + text.length))
          (c.program.promptAddr + UInt8.ofNat text.length)
        Rig.changeProgram fun t => { t with redraws := t.redraws + 1 }) r' := by
  obtain ⟨r₁, hclear, hr₁⟩ := run_emit_clear h
  obtain ⟨r', hr', hcopy⟩ := run_printFrom_copy hr₁ htext hzero c.program.promptAddr
    (0x100 - (c.program.promptAddr.toNat + text.length))
  have hcells : text.length + (0x100 - (c.program.promptAddr.toNat + text.length)) =
      0x100 - c.program.promptAddr.toNat := by omega
  rw [hcells] at hcopy
  refine ⟨r', hr', ?_⟩
  unfold act
  rw [hlast]
  exact (Act.run_bind_of_ok hclear).trans (Act.run_bind_congr hcopy _)

/-- Behind the text printing goes on with the next address, if there is one. -/
theorem run_act_copy_before (h : r.Follows origin c)
    (hlast : Reaction.ofLast c.program.last = .redraw) {text : Bytes}
    (htext : origin.ram.Holds c.program.promptAddr text) (hzero : 0 ∉ text) {addr : UInt8}
    (haddr : c.program.promptAddr.toNat + text.length = addr.toNat) :
    ∃ cells r', r'.Follows origin ((c.write .clear).copy text) ∧
      Act.run (act c.program) r = Act.run (do
        printFrom c.program.ports.ldr c.program.promptAddr (cells + 1) addr
        Rig.changeProgram fun t => { t with redraws := t.redraws + 1 }) r' := by
  have hbelow := addr.toNat_lt
  obtain ⟨cells, hcells⟩ := Nat.exists_eq_add_of_lt hbelow
  obtain ⟨r', hr', hcopy⟩ := run_act_copy h hlast htext hzero (by omega)
  rw [DataMemory.add_ofNat_eq haddr, haddr, show 0x100 - addr.toNat = cells + 1 by omega] at hcopy
  exact ⟨cells, r', hr', hcopy⟩

omit [LawfulTerminalPeripheral δ] in
/-- Whatever a redraw prints from some point on, what has been told before stays told. -/
theorem exists_told_of_act {port start addr : UInt8} {cells : Nat} {f : Terminal → Terminal}
    {r₁ r' : Rig Terminal δ} {answer : Except Fault Unit}
    (hact : Act.run (act r.program) r = Act.run (do
      printFrom port start cells addr
      Rig.changeProgram f) r₁)
    (hrun : Act.run step r = some (answer, r')) : ∃ new, r'.told = new ++ r₁.told := by
  rw [step, Act.run_bind_of_ok (Act.run_get r), Act.run_bind_congr hact] at hrun
  have hprint := (advances_printFrom (δ := δ) port start cells addr).bind fun _ => .changeProgram f
  obtain ⟨new, htold, -⟩ := Rig.Advances.exists_new (hprint.bind fun _ =>
    (Rig.Advances.onBus (.pollInput _)).bind fun key => (Rig.Advances.record _).bind fun _ =>
      .changeProgram _) hrun
  exact ⟨new, htold⟩

/-- The text has been shown before anything behind it is. -/
theorem told_of_copy (h : r.Follows origin c)
    (hlast : Reaction.ofLast c.program.last = .redraw) {text : Bytes}
    (htext : origin.ram.Holds c.program.promptAddr text) (hzero : 0 ∉ text)
    (hfits : c.program.promptAddr.toNat + text.length ≤ 0x100)
    {answer : Except Fault Unit} {r' : Rig Terminal δ}
    (hrun : Act.run step r = some (answer, r')) :
    ∃ new, r'.told = new ++ ((c.write .clear).copy text).told := by
  obtain ⟨r₁, hr₁, hcopy⟩ := run_act_copy h hlast htext hzero hfits
  rw [← h.program] at hcopy
  rw [← hr₁.told]
  exact exists_told_of_act hcopy hrun

/-- Where the keyboard is mapped behind the text, its key is shown like a character. -/
theorem told_of_key_behind (h : r.Follows origin c)
    (hlast : Reaction.ofLast c.program.last = .redraw) {text : Bytes}
    (htext : origin.ram.Holds c.program.promptAddr text) (hzero : 0 ∉ text)
    (haddr : c.program.promptAddr.toNat + text.length = c.program.ports.kdr.toNat) {key : UInt8}
    (hkey : c.keyboard.pop.1 = some key) (hnonzero : key ≠ 0)
    {answer : Except Fault Unit} {r' : Rig Terminal δ}
    (hrun : Act.run step r = some (answer, r')) :
    ∃ new spins, r'.told = new ++
      .output (c.program.ports.lcr + Display.dataRegister) key spins ::
        ((c.write .clear).copy text).told := by
  obtain ⟨ws, -, hwrote⟩ := c.wrote_clear_copy text
  obtain ⟨cells, r₁, hr₁, hcopy⟩ := run_act_copy_before h hlast htext hzero haddr
  -- The fetch behind the text takes the key, and the key is no zero that would end it.
  obtain ⟨bus, hread, hwired, hpasses⟩ := hr₁.wired.run_readKeyboard
  rw [hwrote.keyboard, hkey, Option.getD_some, hwrote.program] at hread
  have htaken := hr₁.onBus hwired hpasses
  rw [String.append_empty] at htaken
  obtain ⟨r₂, hemit, hr₂⟩ := run_emit_character htaken key
  rw [hwrote.program] at hemit
  have hprint := run_printFrom_of_fetch (Rig.run_onBus hread) hnonzero hemit
    c.program.promptAddr cells
  have hact := hcopy.trans (Act.run_bind_congr hprint _)
  rw [← h.program] at hact
  obtain ⟨new, htold⟩ := exists_told_of_act hact hrun
  rw [hr₂.told, Console.write, hwrote.program] at htold
  exact ⟨new, _, htold⟩

/-- A keyboard without keys reads as the zero that is not there. -/
theorem run_act_no_key_behind (h : r.Follows origin c)
    (hlast : Reaction.ofLast c.program.last = .redraw) {text : Bytes}
    (htext : origin.ram.Holds c.program.promptAddr text) (hzero : 0 ∉ text)
    (haddr : c.program.promptAddr.toNat + text.length = c.program.ports.kdr.toNat)
    (hnone : c.keyboard.pop = (none, c.keyboard)) :
    ∃ r', Act.run (act c.program) r = some (.ok (), r') ∧
      r'.Follows origin (((c.write .clear).print text).changeProgram Reaction.redraw.count) := by
  obtain ⟨ws, -, hwrote⟩ := c.wrote_clear_copy text
  obtain ⟨cells, r₁, hr₁, hcopy⟩ := run_act_copy_before h hlast htext hzero haddr
  have hkeyboard : ((c.write .clear).copy text).keyboard.pop =
      (none, ((c.write .clear).copy text).keyboard) := by
    rw [hwrote.keyboard]
    exact hnone
  obtain ⟨bus, hread, hwired, hpasses⟩ := hr₁.wired.run_readKeyboard
  rw [hkeyboard, hwrote.program] at hread
  rw [hkeyboard] at hwired
  have hpassed := hr₁.onBus hwired hpasses
  rw [String.append_empty] at hpassed
  have hprint : Act.run (printFrom c.program.ports.ldr c.program.promptAddr (cells + 1)
      c.program.ports.kdr) r₁ = some (.ok (), { r₁ with bus := bus }) := by
    rw [printFrom, Act.run_bind_of_ok (Rig.run_onBus hread)]
    rfl
  have hprinted : ({ r₁ with bus := bus } : Rig Terminal δ).Follows origin
      ((c.write .clear).print text) := by
    rw [Console.print_eq]
    exact hpassed
  refine ⟨_, ?_, hprinted.changeProgram (f := Reaction.redraw.count) (Reaction.count_ports _ _)⟩
  exact hcopy.trans (Act.run_bind_of_ok hprint)

omit [LawfulTerminalPeripheral δ] in
/-- A reaction that fails ends its step. -/
theorem run_step_of_act_error {why : Fault} {r' : Rig Terminal δ}
    (h : Act.run (act r.program) r = some (.error why, r')) :
    Act.run step r = some (.error why, r') := by
  rw [step, Act.run_bind_of_ok (Act.run_get r)]
  exact Act.run_bind_of_error h _

end Terminal

/-! ## Steps that break off -/

/-- The machine as a console on which a step has begun. -/
def Machine.begun (m : Machine Terminal δ) (d : Display) (k : Keyboard) : Console :=
  (m.console d k).tell (.stepStarted m.steps)

section Steps

variable [LawfulTerminalPeripheral δ] {m : Machine Terminal δ} {d : Display} {k : Keyboard}
  {text : Bytes} {why : Fault}

omit [LawfulTerminalPeripheral δ] in
/-- A step whose reaction has shown a text and fails then breaks off. -/
theorem Machine.breaksOff_of_act (hfirmware : m.firmware = Terminal.firmware)
    (hwired : m.bus.Wired m.program.ports d k) {c' : Console} {ws : List (RegisterWrite × Nat)}
    {fetches : Nat} (hws : ws.map Prod.fst = .clear :: text.map .character)
    (hwrote : (m.begun d k).Wrote ws fetches c') {r' : Rig Terminal δ}
    (hact : Act.run (Terminal.act m.program) (m.rig.tell (.stepStarted m.steps)) =
      some (.error why, r'))
    (hr' : r'.Follows m.bus c') : ∃ n m' d', BreaksOff m text d k why fetches ws n m' d' := by
  have hfollows : m.Follows m.bus (m.console d k) := Machine.follows_console hfirmware hwired
  obtain ⟨m', hrun, hm'⟩ := hfollows.run_step
    (Terminal.run_step_of_act_error (r := m.rig.tell (.stepStarted m.steps)) hact) hr'
  obtain ⟨hwired', hprogram, htold, hpasses⟩ := hm'.rig
  have hwired₁ : m'.bus.Wired c'.program.ports c'.display c'.keyboard := hwired'
  have hpasses₁ : m.bus.Passes c'.cycles c'.printed m'.bus := hpasses
  have htold₁ : m'.rig.told = .stepEnded (c'.cycles - 0) :: c'.told := htold
  rw [hwrote.program, hwrote.keyboard] at hwired₁
  rw [Nat.sub_zero, hwrote.told] at htold₁
  rw [hwrote.printed, show (m.begun d k).printed = "" from rfl, String.empty_append] at hpasses₁
  have helapsed := hwrote.cycles
  rw [show (m.begun d k).cycles = 0 from rfl, Nat.zero_add] at helapsed
  refine ⟨_, m', _, hrun, hws, hwrote.accepts, hwired₁, hprogram.trans hwrote.program, hm'.steps,
    ?_, hpasses.ram, helapsed, hpasses₁⟩
  rw [Rig.events, htold₁]
  simp [Machine.begun, Machine.console, Rig.console, Console.tell, Rig.events, Machine.program]

/-! ## Where data memory ends -/

variable (hfirmware : m.firmware = Terminal.firmware) (hwired : m.bus.Wired m.program.ports d k)
  (hlast : m.program.last = carriageReturn)
  (htext : m.bus.ram.Holds m.program.promptAddr text) (hzero : 0 ∉ text)

include hfirmware hwired hlast htext hzero

/-- Data memory that reaches the top of the address space leaves no address for the end
of the text. -/
theorem Machine.breaksOff_at_top (htop : m.program.promptAddr.toNat + text.length = 0x100) :
    ∃ ws n m' d', BreaksOff m text d k (.unterminated m.program.promptAddr) text.length ws n m'
      d' := by
  have hfollows : m.Follows m.bus (m.console d k) := Machine.follows_console hfirmware hwired
  obtain ⟨ws, hws, hwrote⟩ := (m.begun d k).wrote_clear_copy text
  obtain ⟨r₁, hr₁, hcopy⟩ := Terminal.run_act_copy
    (hfollows.rig.tell (.stepStarted m.steps)) (Reaction.ofLast_eq_redraw hlast) htext hzero htop.le
  have hprint : ∀ addr, Act.run (Terminal.printFrom m.program.ports.ldr m.program.promptAddr
      (0x100 - (m.program.promptAddr.toNat + text.length)) addr) r₁ =
        some (.error (.unterminated m.program.promptAddr), r₁) := by
    intro addr
    rw [htop, Nat.sub_self]
    rfl
  exact ⟨ws, Machine.breaksOff_of_act hfirmware hwired hws hwrote
    (hcopy.trans (Act.run_bind_of_error (hprint _) _)) hr₁⟩

/-- Behind the end of data memory nothing may be mapped; the fetch fails there. -/
theorem Machine.breaksOff_at_gap {addr : UInt8}
    (haddr : m.program.promptAddr.toNat + text.length = addr.toNat)
    (hram : m.bus.ram.contains addr = false)
    (hunowned : ∀ x ∈ m.bus.mappings, x.contains addr = false) :
    ∃ ws n m' d', BreaksOff m text d k (.unmapped addr) (text.length + 1) ws n m' d' := by
  have hfollows : m.Follows m.bus (m.console d k) := Machine.follows_console hfirmware hwired
  obtain ⟨ws, hws, hwrote⟩ := (m.begun d k).wrote_clear_copy text
  have hpassed := hwrote.trans (((m.begun d k).write .clear).copy text).wrote_pass
  rw [List.append_nil] at hpassed
  obtain ⟨cells, r₁, hr₁, hcopy⟩ := Terminal.run_act_copy_before
    (hfollows.rig.tell (.stepStarted m.steps)) (Reaction.ofLast_eq_redraw hlast) htext hzero haddr
  obtain ⟨r', hfetch, hr'⟩ := Terminal.run_fetch_of_unowned hr₁ hram hunowned
  have hprint : Act.run (Terminal.printFrom m.program.ports.ldr m.program.promptAddr (cells + 1)
      addr) r₁ = some (.error (.unmapped addr), r') := Act.run_bind_of_error hfetch _
  exact ⟨ws, Machine.breaksOff_of_act hfirmware hwired hws hpassed
    (hcopy.trans (Act.run_bind_of_error hprint _)) hr'⟩

/-- Whatever is mapped behind the end of data memory, the text is shown first. -/
theorem Machine.shows_text (hfits : m.program.promptAddr.toNat + text.length ≤ 0x100)
    {answer : Except Fault Unit} {m' : Machine Terminal δ}
    (hstep : Act.run Machine.step m = some (answer, m')) :
    ∃ more, m'.rig.outputs = m.rig.outputs ++
      (RegisterWrite.clear :: text.map .character).map m.program.ports.write ++ more := by
  have hfollows := Machine.follows_console hfirmware hwired
  obtain ⟨ws, hws, hwrote⟩ := (m.begun d k).wrote_clear_copy text
  obtain ⟨rig, hiterate, rfl⟩ := Machine.exists_iteration hstep
  rw [hfirmware] at hiterate
  obtain ⟨new, htold⟩ := Terminal.told_of_copy (c := m.begun d k)
    (hfollows.rig.tell (.stepStarted m.steps)) (Reaction.ofLast_eq_redraw hlast) htext hzero hfits
    hiterate
  rw [hwrote.told] at htold
  obtain ⟨more, houtputs⟩ := Rig.outputs_of_step htold _
  refine ⟨more, houtputs.trans ?_⟩
  rw [Console.filterMap_output?_writeEvents, hws]
  rfl

/-- Where the keyboard is mapped behind the end of data memory, the next key is taken and
shown as if it were a character of the text. -/
theorem Machine.shows_key_behind
    (haddr : m.program.promptAddr.toNat + text.length = m.program.ports.kdr.toNat)
    {key : UInt8} (hkey : k.pop.1 = some key) (hnonzero : key ≠ 0)
    {answer : Except Fault Unit} {m' : Machine Terminal δ}
    (hstep : Act.run Machine.step m = some (answer, m')) :
    ∃ more, m'.rig.outputs = m.rig.outputs ++
      (RegisterWrite.clear :: (text ++ [key]).map .character).map m.program.ports.write ++
        more := by
  have hfollows := Machine.follows_console hfirmware hwired
  obtain ⟨ws, hws, hwrote⟩ := (m.begun d k).wrote_clear_copy text
  obtain ⟨rig, hiterate, rfl⟩ := Machine.exists_iteration hstep
  rw [hfirmware] at hiterate
  obtain ⟨new, spins, htold⟩ := Terminal.told_of_key_behind (c := m.begun d k)
    (hfollows.rig.tell (.stepStarted m.steps)) (Reaction.ofLast_eq_redraw hlast) htext hzero haddr
    hkey hnonzero hiterate
  let shown := Console.writeEvents m.program.ports ws ++
    [.output (m.program.ports.lcr + Display.dataRegister) key spins]
  have hshown : rig.told = new ++ (shown.reverse ++ .stepStarted m.steps :: m.rig.told) := by
    rw [htold, hwrote.told, List.reverse_append]
    rfl
  obtain ⟨more, houtputs⟩ := Rig.outputs_of_step hshown _
  refine ⟨more, houtputs.trans ?_⟩
  rw [List.filterMap_append, Console.filterMap_output?_writeEvents, hws, List.map_append,
    ← List.cons_append, List.map_append]
  rfl

/-- With no key waiting there, the text seems to end where data memory does. -/
theorem Machine.redraws_before_keyboard
    (haddr : m.program.promptAddr.toNat + text.length = m.program.ports.kdr.toNat)
    (hnone : k.pop = (none, k)) : ∃ ws n m' d', Redraws m text d k ws n m' d' := by
  have hfollows : m.Follows m.bus (m.console d k) := Machine.follows_console hfirmware hwired
  have hreaction := Reaction.ofLast_eq_redraw hlast
  obtain ⟨r₁, hact, hr₁⟩ := Terminal.run_act_no_key_behind
    (hfollows.rig.tell (.stepStarted m.steps)) hreaction htext hzero haddr hnone
  exact Machine.redraws_of_act hfirmware hwired hreaction hact hr₁

end Steps

/-! ## Runs -/

/-- A redraw with this text fails for this reason, and so does a run that begins with
it. -/
structure RedrawFails (m : Machine Terminal δ) (text : Bytes) (d : Display) (k : Keyboard)
    (why : Fault) (fetches : Nat) : Prop where
  step : ∃ ws n m' d', BreaksOff m text d k why fetches ws n m' d'
  run : ∀ limits clock, m.stopsHere limits 0 (clock 0) = none →
    ∃ m', m.run limits clock = some (why.stopReason, m')

/-- The first step of a run begins after the start of the run has been told. -/
theorem RedrawFails.of_steps {m : Machine Terminal δ} {text : Bytes} {d : Display} {k : Keyboard}
    {why : Fault} {fetches : Nat}
    (hstep : ∃ ws n m' d', BreaksOff m text d k why fetches ws n m' d')
    (hstarted : ∃ ws n m' d', BreaksOff (m.tell .started) text d k why fetches ws n m' d') :
    RedrawFails m text d k why fetches := by
  refine ⟨hstep, fun limits clock hgoes => ?_⟩
  obtain ⟨_, _, m', _, hbreaks⟩ := hstarted
  refine ⟨m'.tell (.stopped why.stopReason), ?_⟩
  rw [Machine.run, Machine.runFrom_of_fault (m := m.tell .started) hgoes hbreaks.answer]
  rfl

/-- On the bus of a board, whatever has been done to data memory: if there is no zero from
the terminal's address on, a redraw shows everything up to the end of data memory first.
Where that is the top of the address space it fails for want of an end, and where nothing
is mapped behind it for that.  A keyboard that is mapped there loses its next key to the
display, and ends the text when it has none. -/
theorem unterminated_redraw_reads_on [LawfulTerminalPeripheral δ] {b : Board} {bus : Bus δ}
    (hboard : b.assemble = .ok bus) {m : Machine Terminal δ} (hstation : Stationed bus m)
    (hlast : m.program.last = carriageReturn)
    (haddr : m.bus.ram.contains m.program.promptAddr = true)
    (hzero : ∀ addr, m.program.promptAddr ≤ addr → m.bus.ram.read? addr ≠ some 0) :
    ∃ text d k answer m', text = m.bus.ram.bytesFrom m.program.promptAddr ∧
      m.bus.Wired m.program.ports d k ∧ Act.run Machine.step m = some (answer, m') ∧
      (∃ more, m'.rig.outputs = m.rig.outputs ++
        (RegisterWrite.clear :: text.map .character).map m.program.ports.write ++ more) ∧
      (m.bus.ram.limit = 0x100 →
        RedrawFails m text d k (.unterminated m.program.promptAddr) text.length) ∧
      (∀ addr, addr.toNat = m.bus.ram.limit → (∀ x ∈ m.bus.mappings, x.contains addr = false) →
        RedrawFails m text d k (.unmapped addr) (text.length + 1)) ∧
      (m.program.ports.kdr.toNat = m.bus.ram.limit →
        (∀ key, k.pop.1 = some key → key ≠ 0 →
          ∃ more, m'.rig.outputs = m.rig.outputs ++
            (RegisterWrite.clear :: (text ++ [key]).map .character).map m.program.ports.write ++
              more) ∧
        (k.pop = (none, k) → ∃ ws n m' d', Redraws m text d k ws n m' d')) := by
  obtain ⟨hdisjoint, hsized, -, hramFits, -, -⟩ := Board.assembled hboard
  have hlimit := hramFits
  rw [← hstation.outline.limit_eq] at hlimit
  obtain ⟨d, k, hwired⟩ := hstation.exists_wired hdisjoint hsized
  obtain ⟨answer, m', hstep, -⟩ := Stationed.keeps_step hdisjoint hsized m hstation
  have htext := DataMemory.holds_bytesFrom hlimit haddr
  have hlength := DataMemory.length_bytesFrom haddr
  have hnone : 0 ∉ m.bus.ram.bytesFrom m.program.promptAddr := fun hmem => by
    obtain ⟨addr, hle, hread⟩ := (DataMemory.mem_bytesFrom_iff hlimit haddr).mp hmem
    exact hzero addr hle hread
  have hshown := Machine.shows_text hstation.firmware hwired hlast htext hnone
    (hlength.trans_le hlimit) hstep
  refine ⟨_, d, k, answer, m', rfl, hwired, hstep, hshown, fun htop => ?_,
    fun addr hend hunowned => ?_, fun hend => ?_⟩
  · rw [htop] at hlength
    exact .of_steps
      (Machine.breaksOff_at_top hstation.firmware hwired hlast htext hnone hlength)
      (Machine.breaksOff_at_top (m := m.tell .started) hstation.firmware hwired hlast htext hnone
        hlength)
  · have hram : m.bus.ram.contains addr = false := by
      rw [DataMemory.contains, hend, decide_eq_false (Nat.lt_irrefl _), Bool.and_false]
    rw [← hend] at hlength
    exact .of_steps
      (Machine.breaksOff_at_gap hstation.firmware hwired hlast htext hnone hlength hram hunowned)
      (Machine.breaksOff_at_gap (m := m.tell .started) hstation.firmware hwired hlast htext hnone
        hlength hram hunowned)
  · rw [← hend] at hlength
    refine ⟨fun key hkey hnonzero => ?_, fun hempty => ?_⟩
    · exact Machine.shows_key_behind hstation.firmware hwired hlast htext hnone hlength hkey
        hnonzero hstep
    · exact Machine.redraws_before_keyboard hstation.firmware hwired hlast htext hnone hlength
        hempty

/-- Where memory reaches the top, a text that fills it has no end. -/
theorem unterminated_redraw_reads_on_at_top :
    atTopBoard.assemble = .ok (atTopBus #[0, 0, 0, 0]) ∧
    Stationed (atTopBus #[0, 0, 0, 0]) (atTopMachine #[0x3E, 0x68, 0x69, 0x21]) ∧
    ∃ d k, (atTopBus #[0x3E, 0x68, 0x69, 0x21]).Wired ⟨0x10, 0x21, 0x20⟩ d k ∧
      RedrawFails (atTopMachine #[0x3E, 0x68, 0x69, 0x21]) [0x3E, 0x68, 0x69, 0x21] d k
        (.unterminated 0xFC) 4 := by
  have hboard : atTopBoard.assemble = .ok (atTopBus #[0, 0, 0, 0]) := rfl
  have hstation : Stationed (atTopBus #[0, 0, 0, 0]) (atTopMachine #[0x3E, 0x68, 0x69, 0x21]) :=
    ⟨rfl, ⟨rfl, rfl, rfl⟩, rfl⟩
  obtain ⟨_, d, k, _, _, rfl, hwired, -, -, htop, -, -⟩ :=
    unterminated_redraw_reads_on hboard hstation rfl (by decide) fun addr hle hread => by
      have hmem := (DataMemory.mem_bytesFrom_iff (by decide) (by decide)).mpr ⟨addr, hle, hread⟩
      revert hmem
      decide
  exact ⟨hboard, hstation, d, k, hwired, htop rfl⟩

/-- Four bytes of memory at the bottom, and nothing behind them. -/
def beforeGapBoard : Board where
  name := "before gap"
  ram := { base := 0, size := "4B" }
  devices := [
    { id := "display", kind := "display", basePort := 0xFC },
    { id := "keyboard", kind := "keyboard", basePort := 0xFE }]

/-- The bus of that board, with these bytes in memory. -/
def beforeGapBus (cells : Array UInt8) : Bus Device where
  ram := ⟨0, cells⟩
  mappings := [⟨"display", 0xFC, 2, .display (Display.new 4 4096)⟩,
    ⟨"keyboard", 0xFE, 1, .keyboard {}⟩]

/-- A terminal on it. -/
def beforeGapMachine (cells : Array UInt8) : Machine Terminal Device where
  firmware := Terminal.firmware
  rig := ⟨Terminal.new {}, beforeGapBus cells, []⟩

/-- Where memory ends before that, such a text is not found to have no end. -/
theorem end_of_memory_goes_unnoticed :
    beforeGapBoard.assemble = .ok (beforeGapBus #[0, 0, 0, 0]) ∧
    Stationed (beforeGapBus #[0, 0, 0, 0]) (beforeGapMachine #[0x61, 0x62, 0x63, 0x64]) ∧
    (beforeGapMachine #[0x61, 0x62, 0x63, 0x64]).program.last = carriageReturn ∧
    (beforeGapBus #[0x61, 0x62, 0x63, 0x64]).ram.contains 0 = true ∧
    0 ∉ (beforeGapBus #[0x61, 0x62, 0x63, 0x64]).ram.bytesFrom 0 ∧
    (Act.run Machine.step (beforeGapMachine #[0x61, 0x62, 0x63, 0x64])).map Prod.fst =
      some (.error (.unmapped 0x04)) := by
  exact ⟨rfl, ⟨rfl, ⟨rfl, rfl, rfl⟩, rfl⟩, rfl, by decide, by decide, by decide +kernel⟩

end PolledTerminal
