import PolledTerminal.Proofs.Terminal.Start
set_option autoImplicit false

/-!
# No key is lost

However typing and steps come one after the other, a terminal acts on every key
once and in order, and what the display shows follows from the keys that have
been acted on.
-/

namespace PolledTerminal

open PolledTerminal.Text (Bytes)

variable {δ : Type} [TerminalPeripheral δ]

/-- The display and the counters of a machine are those of a terminal that has
printed its prompt and then acted on these keys. -/
structure HasActedOn (prompt : Bytes) (ports : TerminalPorts) (limit : Nat) (d₀ : Display)
    (m : Machine Terminal δ) (acted : Bytes) (d : Display) : Prop where
  display : m.bus.display? = some d
  accepts : d₀.Accepts (reactions prompt (carriageReturn :: acted)) d
  outputs : m.rig.outputs = (reactions prompt (carriageReturn :: acted)).map ports.write
  records : d.Records limit (reactions prompt (carriageReturn :: acted))
  overruns : d.overruns = 0
  redraws : m.program.redraws = 1 + acted.count carriageReturn
  echoes : m.program.echoes = acted.countP (· ≠ carriageReturn)

/-- The history of a fresh terminal says what it has shown. -/
theorem History.hasActedOn {t : Terminal} {bus : Bus δ} {start m : Machine Terminal δ}
    {d₀ d : Display} {k : Keyboard} {keys acted : Bytes} {limit : Nat}
    (hstart : Started t bus start) (hredraws : t.redraws = 0) (hechoes : t.echoes = 0)
    (hrecords : d₀.Records limit []) (hoverruns : d₀.overruns = 0)
    (hd₀ : bus.display? = some d₀)
    (h : History start d₀ keys m (carriageReturn :: acted) d k) :
    HasActedOn t.prompt t.ports limit d₀ m acted d := by
  have hprompt : start.program.prompt = t.prompt := by rw [hstart.program]
  have hports : start.program.ports = t.ports := by rw [hstart.program]
  have haccepts := h.accepts
  have houtputs := h.outputs
  rw [hprompt] at haccepts houtputs
  rw [hports, hstart.outputs, List.nil_append] at houtputs
  refine ⟨h.ready.wired.display, haccepts, houtputs, hrecords.of_accepts haccepts, ?_, ?_, ?_⟩
  · have hcalm := hstart.calm.trans h.calm
    rw [hcalm.overruns_of_display hd₀ h.ready.wired.display, hoverruns]
  · rw [h.redraws, hstart.program, hredraws, List.count_cons_self]
    omega
  · rw [h.echoes, hstart.program, hechoes]
    simp

/-- A terminal on an assembled board steps without a fault for as long as the host
types and lets it step, and after any step every key typed has been acted on, is
about to be acted on, or waits in the keyboard, in this order. -/
theorem terminal_acts_on_every_key [LawfulTerminalPeripheral δ] {b : Board} {bus : Bus δ}
    (hboard : b.assemble = .ok bus) {ports : TerminalPorts}
    (hports : TerminalPorts.ofBus? bus = some ports) {prompt : Bytes} {addr : UInt8}
    {start : Machine Terminal δ}
    (hstart : Machine.new Terminal.firmware ((Terminal.new ports).withPrompt prompt addr) bus =
      .ok start)
    {moves : List Move} (hmoves : ∀ v ∈ moves, v.isPlain = true) :
    ∃ m, Machine.play moves start = some (List.replicate moves.length (.ok ()), m) ∧
      m.steps = stepsTaken moves ∧
      (0 < stepsTaken moves →
        ∃ s limit d₀, b.ofKind? "display" = some s ∧ Board.scrollbackOf s = .ok limit ∧
          bus.display? = some d₀ ∧
        ∃ acted d k, m.bus.keyboard? = some k ∧
          keysTyped moves = acted ++ keyOf m.program.last ++ k.toList ∧
          HasActedOn (prompt.filter (· ≠ 0)) ports limit d₀ m acted d) := by
  have hassembled := Board.assembled hboard
  obtain ⟨s, limit, d₀, hs, hlimit, hwired, hrecords, hoverruns⟩ := hassembled.exists_wired hports
  obtain ⟨-, hstarted⟩ := Terminal.started_of_new hassembled.ramFits hstart
  have htext : 0 ∉ prompt.filter (· ≠ 0) := by simp
  have hbegin := hstarted.history hwired htext (by simp [Keyboard.toList])
  obtain ⟨m, acted, d, k, hplay, hsteps, hhistory⟩ := hbegin.play hmoves
  rw [hstarted.steps, Nat.zero_add] at hsteps
  rw [show ({} : Keyboard).toList = [] from rfl, List.nil_append] at hhistory
  refine ⟨m, hplay, hsteps, fun hpos => ?_⟩
  obtain ⟨keysActed, rfl, hkeys⟩ := hhistory.typed_eq (hhistory.stepped (by omega))
  exact ⟨s, limit, d₀, hs, hlimit, hwired.display, keysActed, d, k, hhistory.ready.wired.keyboard,
    hkeys, hhistory.hasActedOn hstarted rfl rfl hrecords hoverruns hwired.display⟩

/-- On the stock board: two keys are typed, one of them between steps. -/
theorem terminal_acts_on_every_key_stock :
    ∃ bus : Bus Device, Board.stock.assemble = .ok bus ∧ TerminalPorts.ofBus? bus = some {} ∧
    ∃ start, Machine.new Terminal.firmware ((Terminal.new {}).withPrompt [0x3E, 0] 0x10) bus =
        .ok start ∧
      (∀ v ∈ [.push 0x41, .step, .feed [0, 0x0D], .step], Move.isPlain v = true) ∧
    ∃ m, Machine.play [.push 0x41, .step, .feed [0, 0x0D], .step] start =
        some (List.replicate 4 (.ok ()), m) ∧
      m.steps = 2 ∧
      (0 < stepsTaken [.push 0x41, .step, .feed [0, 0x0D], .step] →
        ∃ s limit d₀, Board.stock.ofKind? "display" = some s ∧
          Board.scrollbackOf s = .ok limit ∧ bus.display? = some d₀ ∧
        ∃ acted d k, m.bus.keyboard? = some k ∧
          [0x41, 0x0D] = acted ++ keyOf m.program.last ++ k.toList ∧
          HasActedOn [0x3E] {} limit d₀ m acted d) := by
  obtain ⟨bus, hboard, hports, hbase, hram⟩ := Board.stock_assembles
  have hlimit := (Board.assembled hboard).ramFits
  have hfits : ((Terminal.new {}).withPrompt [0x3E, 0] 0x10).PromptFits bus.ram := by
    rw [Terminal.PromptFits, hbase, hram]
    decide
  obtain ⟨start, hstart, -⟩ := Terminal.new_of_fits hlimit hfits
  have hmoves : ∀ v ∈ [.push 0x41, .step, .feed [0, 0x0D], .step], Move.isPlain v = true := by
    decide
  exact ⟨bus, hboard, hports, start, hstart, hmoves,
    terminal_acts_on_every_key hboard hports hstart hmoves⟩

end PolledTerminal
