import PolledTerminal.Proofs.Terminal.Start
set_option autoImplicit false

/-!
# Counters that agree

The counters that watch a run, those of the terminal, those of the display and the
count of cycles are kept in different places.  They account for the same events, and
every cycle is spent on one of them.
-/

namespace PolledTerminal

open PolledTerminal.Text (Bytes)

/-! ## Counting events -/

namespace Metrics

/-- The counters after so many events of each kind. -/
def of (steps cycles polls idlePolls writes busySpins : Nat) : Metrics :=
  ⟨.ofNat steps, .ofNat cycles, .ofNat polls, .ofNat idlePolls, .ofNat writes, .ofNat busySpins⟩

section Of

variable (steps cycles polls idle writes spins : Nat)

theorem countAll_append (m : Metrics) (es fs : List TraceEvent) :
    m.countAll (es ++ fs) = (m.countAll es).countAll fs := List.foldl_append

theorem countAll_singleton (m : Metrics) (e : TraceEvent) : m.countAll [e] = m.count e := rfl

theorem count_stepStarted (step : Nat) :
    (of steps cycles polls idle writes spins).count (.stepStarted step) =
      of (steps + 1) cycles polls idle writes spins := by
  simp [count, of]

theorem count_stepEnded (elapsed : Nat) :
    (of steps cycles polls idle writes spins).count (.stepEnded elapsed) =
      of steps (cycles + elapsed) polls idle writes spins := by
  simp [count, of]

/-- A poll is idle unless it finds a key. -/
theorem count_input (port : UInt8) (key : Option UInt8) :
    (of steps cycles polls idle writes spins).count (.input port key) =
      of steps cycles (polls + 1) (idle + 1 - key.toList.length) writes spins := by
  cases key <;> simp [count, of]

theorem countAll_writeEvents (ports : TerminalPorts) (ws : List (RegisterWrite × Nat)) :
    (of steps cycles polls idle writes spins).countAll (Console.writeEvents ports ws) =
      of steps cycles polls idle (writes + ws.length) (spins + (ws.map Prod.snd).sum) := by
  induction ws generalizing writes spins with
  | nil => rfl
  | cons w ws ih =>
      have hcount : (of steps cycles polls idle writes spins).count
          (.output (ports.lcr + w.1.offset) w.1.value w.2) =
            of steps cycles polls idle (writes + 1) (spins + w.2) := by simp [count, of]
      show ((of steps cycles polls idle writes spins).count _).countAll
        (Console.writeEvents ports ws) = _
      rw [hcount, ih, List.length_cons, List.map_cons, List.sum_cons]
      simp only [Nat.add_assoc, Nat.add_comm 1 ws.length]

end Of

end Metrics

/-! ## Reactions -/

namespace Reaction

variable (t : Terminal) (reaction : Reaction)

/-- A reaction is counted for the writes that it consists of: a redraw for the clear and
the prompt, an echo for one character. -/
theorem length_writes :
    (reaction.writes t.prompt).length + (t.redraws * (t.prompt.length + 1) + t.echoes) =
      (reaction.count t).redraws * (t.prompt.length + 1) + (reaction.count t).echoes := by
  cases reaction with
  | redraw =>
      simp only [writes, count, List.length_cons, List.length_map, Nat.add_mul, Nat.one_mul]
      omega
  | idle => simp [writes, count]
  | echo x =>
      simp only [writes, count, List.length_singleton]
      omega

theorem count_clear_writes :
    (reaction.writes t.prompt).count .clear + t.redraws = (reaction.count t).redraws := by
  cases reaction with
  | redraw =>
      rw [writes, List.count_cons_self, List.count_eq_zero.mpr (clear_notMem_characters _)]
      exact Nat.add_comm _ _
  | idle => exact Nat.zero_add _
  | echo x =>
      have hnone : (writes t.prompt (.echo x)).count .clear = 0 :=
        List.count_eq_zero.mpr (clear_notMem_characters [x])
      rw [hnone]
      exact Nat.zero_add _

theorem fetches_add :
    reaction.fetches t.prompt + t.redraws * (t.prompt.length + 1) =
      (reaction.count t).redraws * (t.prompt.length + 1) := by
  cases reaction with
  | redraw =>
      simp only [fetches, count, Nat.add_mul, Nat.one_mul]
      omega
  | idle => exact Nat.zero_add _
  | echo x => exact Nat.zero_add _

end Reaction

/-! ## The invariant -/

namespace Console

/-- After these keys were typed and those of them taken, with so many polls that found
the display busy, all counters agree. -/
structure Balanced (keys taken : Bytes) (spins : Nat) (c : Console) : Prop where
  nonzero : 0 ∉ keys
  queue : keys = taken ++ c.keyboard.toList
  polled : taken.length ≤ c.steps
  metrics : Metrics.countAll {} c.told.reverse =
    .of c.steps c.cycles c.steps (c.steps - taken.length) c.display.writes spins
  records : ∃ limit ws, c.display.Records limit ws
  clears : c.display.clears = c.program.redraws
  writes : c.display.writes =
    c.program.redraws * (c.program.prompt.length + 1) + c.program.echoes
  cycles : c.cycles = spins + 2 * c.display.writes + c.steps +
    c.program.redraws * (c.program.prompt.length + 1)

namespace Balanced

variable {keys taken : Bytes} {spins : Nat} {c : Console}

/-- A poll takes the first of the keys that wait, if there is one. -/
theorem nextKey_append (h : Balanced keys taken spins c) :
    c.nextKey.toList ++ c.keyboard.pop.2.toList = c.keyboard.toList := by
  have hwaiting : 0 ∉ c.keyboard.toList := by
    intro hmem
    apply h.nonzero
    rw [h.queue]
    exact List.mem_append_right _ hmem
  have hkey : c.nextKey.toList = keyOf (c.keyboard.pop.1.getD 0) := by
    unfold nextKey keyOf
    split <;> rfl
  rw [hkey, keyOf_pop c.keyboard hwaiting]

theorem typeOn (h : Balanced keys taken spins c) {f : Keyboard → Keyboard} {typed : Bytes}
    (hf : (f c.keyboard).toList = c.keyboard.toList ++ typed) (htyped : 0 ∉ typed) :
    Balanced (keys ++ typed) taken spins (c.typeOn f) := by
  refine ⟨?_, ?_, h.polled, h.metrics, h.records, h.clears, h.writes, h.cycles⟩
  · rw [List.mem_append, not_or]
    exact ⟨h.nonzero, htyped⟩
  · rw [Console.typeOn, hf, ← List.append_assoc, ← h.queue]

/-- A step counts everything once wherever it is counted. -/
theorem step (h : Balanced keys taken spins c) :
    ∃ taken' spins', Balanced keys taken' spins' c.step := by
  obtain ⟨ws, n, hs⟩ := c.stepped_step
  obtain ⟨limit, vs, hrecords⟩ := h.records
  have hnext := hrecords.of_accepts hs.accepts
  have hlength : (ws.map Prod.fst).length = ws.length := List.length_map _
  have hwrites : c.step.display.writes = c.display.writes + ws.length := by
    rw [hnext.writes, hrecords.writes, List.length_append, hlength]
  have hclears : c.step.display.clears =
      c.display.clears + (ws.map Prod.fst).count .clear := by
    rw [hnext.clears, hrecords.clears, List.count_append]
  have hreacted := Reaction.length_writes c.program (.ofLast c.program.last)
  have hcleared := Reaction.count_clear_writes c.program (.ofLast c.program.last)
  have hfetched := Reaction.fetches_add c.program (.ofLast c.program.last)
  have hprompt := Reaction.count_prompt c.program (.ofLast c.program.last)
  have hkey : c.nextKey.toList.length ≤ 1 := by cases c.nextKey <;> simp
  have hpolled := h.polled
  have hcycles := h.cycles
  have hcount := h.writes
  rw [← hs.writes] at hreacted hcleared
  refine ⟨taken ++ c.nextKey.toList, spins + (ws.map Prod.snd).sum, h.nonzero, ?_, ?_, ?_,
    ⟨limit, _, hnext⟩, ?_, ?_, ?_⟩
  · rw [hs.keyboard, List.append_assoc, h.nextKey_append, ← h.queue]
  · rw [List.length_append, hs.steps]
    omega
  · have hidle : c.steps - taken.length + 1 - c.nextKey.toList.length =
        c.steps + 1 - (taken ++ c.nextKey.toList).length := by
      rw [List.length_append]
      omega
    rw [hs.told, hs.steps, hs.cycles, hwrites, ← hidle]
    simp only [List.reverse_cons, List.reverse_append, List.reverse_reverse,
      Metrics.countAll_append, Metrics.countAll_singleton, h.metrics, Metrics.count_stepStarted,
      Metrics.countAll_writeEvents, Metrics.count_input, Metrics.count_stepEnded]
  · rw [hclears, h.clears, hs.program]
    dsimp only
    omega
  · rw [hwrites, hs.program]
    dsimp only
    rw [hprompt]
    omega
  · rw [hs.cycles, hs.elapsed, hwrites, hs.steps, hs.program]
    dsimp only
    rw [hprompt]
    omega

theorem move (h : Balanced keys taken spins c) {v : Move} (hv : v.isPlain = true) :
    ∃ taken' spins', Balanced (keys ++ keysTyped [v]) taken' spins' (c.move v) := by
  have hnonzero := zero_notMem_keysTyped [v]
  cases v with
  | push key =>
      have hpushed := h.typeOn (f := fun k => k.push key) (toList_push_eq _ key) hnonzero
      exact ⟨taken, spins, hpushed⟩
  | feed typed =>
      have hfed := h.typeOn (f := fun k => k.feed typed) (toList_feed_eq _ typed) hnonzero
      exact ⟨taken, spins, hfed⟩
  | step =>
      rw [show keysTyped [.step] = [] from rfl, List.append_nil]
      exact h.step
  | peek addr => cases hv
  | poke addr value => cases hv

theorem play (h : Balanced keys taken spins c) {moves : List Move}
    (hmoves : ∀ v ∈ moves, v.isPlain = true) :
    ∃ taken' spins', Balanced (keys ++ keysTyped moves) taken' spins' (c.play moves) := by
  induction moves generalizing keys taken spins c with
  | nil =>
      refine ⟨taken, spins, ?_⟩
      rwa [show keysTyped [] = [] from rfl, List.append_nil]
  | cons v vs ih =>
      obtain ⟨taken₁, spins₁, h₁⟩ := h.move (hmoves v List.mem_cons_self)
      obtain ⟨taken₂, spins₂, h₂⟩ := ih h₁ fun w hw => hmoves w (List.mem_cons_of_mem v hw)
      refine ⟨taken₂, spins₂, ?_⟩
      rwa [List.append_assoc, ← keysTyped_append] at h₂

end Balanced

/-- Nothing has been counted yet. -/
theorem balanced_console {t : Terminal} {d : Display} (hredraws : t.redraws = 0)
    (hechoes : t.echoes = 0) (hd : d.withEcho false = Display.new d.busyCycles d.transcript.limit) :
    Balanced [] [] 0 (t.console d {}) := by
  have hnew := Display.Records.new d.busyCycles d.transcript.limit
  rw [← hd] at hnew
  have hrecords : d.Records _ [] := hnew.congr rfl rfl rfl rfl
  have hclears : d.clears = 0 := hrecords.clears
  have hwrites : d.writes = 0 := hrecords.writes
  refine ⟨List.not_mem_nil, rfl, Nat.le_refl 0, ?_, ⟨_, _, hrecords⟩, ?_, ?_, ?_⟩
  · show ({} : Metrics) = .of 0 0 0 0 d.writes 0
    rw [hwrites]
    rfl
  · exact hclears.trans hredraws.symm
  · show d.writes = t.redraws * _ + t.echoes
    rw [hwrites, hredraws, hechoes, Nat.zero_mul]
  · show 0 = 0 + 2 * d.writes + 0 + t.redraws * _
    rw [hwrites, hredraws, Nat.zero_mul]

end Console

/-! ## Every cycle is accounted for -/

/-- What the counters of a terminal's run agree on, for a prompt of this length, when
these keys have been taken from the keyboard. -/
structure Accounts {δ : Type} (metrics : Metrics) (m : Machine Terminal δ) (d : Display)
    (taken : Bytes) (promptLength : Nat) : Prop where
  steps : metrics.steps = .ofNat m.steps
  polls : metrics.polls = metrics.steps
  cycles : metrics.cycles = .ofNat m.bus.cycles
  keys : metrics.polls - metrics.idlePolls = .ofNat taken.length
  clears : d.clears = m.program.redraws
  writes : metrics.writes = .ofNat d.writes
  written : d.writes = m.program.redraws * (promptLength + 1) + m.program.echoes
  /-- a poll of the busy flag, one of the two cycles of a write, a poll of the keyboard, or
  a fetch of the prompt -/
  explained : metrics.cycles = metrics.busySpins + 2 * metrics.writes + metrics.polls +
    .ofNat (m.program.redraws * (promptLength + 1))

theorem Console.Balanced.accounts {δ : Type} [TerminalPeripheral δ] {keys taken : Bytes}
    {spins : Nat} {c : Console} {origin : Bus δ} {m : Machine Terminal δ}
    (h : c.Balanced keys taken spins) (hm : m.Realizes origin c) (horigin : origin.cycles = 0) :
    Accounts (Metrics.countAll {} m.rig.events) m c.display taken c.program.prompt.length := by
  have hcycles : m.bus.cycles = c.cycles := by rw [hm.cycles, horigin, Nat.zero_add]
  have hprogram : m.program = c.program := hm.rig.program
  have hkeys : c.steps = c.steps - taken.length + taken.length := (Nat.sub_add_cancel h.polled).symm
  rw [Rig.events, hm.rig.told, h.metrics]
  refine ⟨?_, rfl, ?_, ?_, ?_, rfl, ?_, ?_⟩
  · rw [hm.steps]
    rfl
  · rw [hcycles]
    rfl
  · show UInt64.ofNat c.steps - UInt64.ofNat (c.steps - taken.length) = _
    nth_rewrite 1 [hkeys]
    rw [UInt64.ofNat_add, UInt64.add_comm, UInt64.add_sub_cancel]
  · rw [hprogram, h.clears]
  · rw [hprogram, h.writes]
  · rw [hprogram]
    show UInt64.ofNat c.cycles = _
    rw [h.cycles, UInt64.ofNat_add, UInt64.ofNat_add, UInt64.ofNat_add, UInt64.ofNat_mul]
    rfl

/-- However a terminal on an assembled board is typed on and stepped, the counters that
watch the run, those of the terminal, those of the display and the count of cycles agree
on what has happened, and every cycle is accounted for. -/
theorem counters_account_for_every_cycle {δ : Type} [TerminalPeripheral δ]
    [LawfulTerminalPeripheral δ] {b : Board} {bus : Bus δ} (hboard : b.assemble = .ok bus)
    {ports : TerminalPorts} (hports : TerminalPorts.ofBus? bus = some ports) {prompt : Bytes}
    {addr : UInt8} {start : Machine Terminal δ}
    (hstart : Machine.new Terminal.firmware ((Terminal.new ports).withPrompt prompt addr) bus =
      .ok start)
    {moves : List Move} (hmoves : ∀ v ∈ moves, v.isPlain = true) :
    ∃ m d k taken, Machine.play moves start = some (List.replicate moves.length (.ok ()), m) ∧
      m.bus.display? = some d ∧ m.bus.keyboard? = some k ∧
      keysTyped moves = taken ++ k.toList ∧
      Accounts (Metrics.countAll {} m.rig.events) m d taken
        (prompt.filter (· ≠ 0)).length := by
  obtain ⟨d₀, hopens⟩ := Board.exists_opens hboard hports hstart
  obtain ⟨m, hplay, hm⟩ := hopens.realizes.play hmoves
  have hbegin := Console.balanced_console (t := (Terminal.new ports).withPrompt prompt addr)
    rfl rfl hopens.fresh
  obtain ⟨taken, spins, hbalanced⟩ := hbegin.play hmoves
  rw [List.nil_append] at hbalanced
  have haccounts := hbalanced.accounts hm hopens.cycles
  rw [Console.prompt_play] at haccounts
  exact ⟨m, _, _, taken, hplay, hm.rig.wired.display, hm.rig.wired.keyboard, hbalanced.queue,
    haccounts⟩

/-- On the stock board: a key is typed before the first step, and two after it. -/
theorem counters_account_for_every_cycle_stock :
    ∃ bus : Bus Device, Board.stock.assemble = .ok bus ∧ TerminalPorts.ofBus? bus = some {} ∧
    ∃ start, Machine.new Terminal.firmware ((Terminal.new {}).withPrompt [0x3E, 0, 0x20] 0x10)
        bus = .ok start ∧
      (∀ v ∈ [.push 0x41, .step, .feed [0x42, 0x0D], .step, .step],
        Move.isPlain v = true) ∧
    ∃ m d k taken, Machine.play [.push 0x41, .step, .feed [0x42, 0x0D], .step, .step] start =
        some (List.replicate 5 (.ok ()), m) ∧
      m.bus.display? = some d ∧ m.bus.keyboard? = some k ∧
      [0x41, 0x42, 0x0D] = taken ++ k.toList ∧
      Accounts (Metrics.countAll {} m.rig.events) m d taken 2 := by
  obtain ⟨bus, hboard, hports, hbase, hram⟩ := Board.stock_assembles
  have hlimit := (Board.assembled hboard).ramFits
  have hfits : ((Terminal.new {}).withPrompt [0x3E, 0, 0x20] 0x10).PromptFits bus.ram := by
    rw [Terminal.PromptFits, hbase, hram]
    decide
  obtain ⟨start, hstart, -⟩ := Terminal.new_of_fits hlimit hfits
  have hmoves : ∀ v ∈ [.push 0x41, .step, .feed [0x42, 0x0D], .step, .step],
      Move.isPlain v = true := by
    decide
  exact ⟨bus, hboard, hports, start, hstart, hmoves,
    counters_account_for_every_cycle hboard hports hstart hmoves⟩

end PolledTerminal
