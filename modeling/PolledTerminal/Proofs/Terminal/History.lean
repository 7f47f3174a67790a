import PolledTerminal.Proofs.Terminal.Step
set_option autoImplicit false

/-!
# The history of a terminal

Every key that was ever typed has been acted on, is about to be acted on, or
waits in the keyboard, in this order; and what the display has accepted is what
the reactions to the first of the three write.  A terminal starts as if a
carriage return had been typed before everything else, so that key counts too.
-/

namespace PolledTerminal

open PolledTerminal.Text (Bytes)

variable {δ : Type} [TerminalPeripheral δ]

/-! ## The invariant -/

/-- Since a machine was started, with this display, `keys` have been typed; those
in `acted` have been acted on, the first of them the one the terminal starts
with. -/
structure History (start : Machine Terminal δ) (d₀ : Display) (keys : Bytes)
    (m : Machine Terminal δ) (acted : Bytes) (d : Display) (k : Keyboard) : Prop where
  firmware : m.firmware = Terminal.firmware
  ready : m.rig.Ready d k
  ports : m.program.ports = start.program.ports
  prompt : m.program.prompt = start.program.prompt
  calm : Bus.Calm start.bus m.bus
  nonzero : 0 ∉ keys
  queue : carriageReturn :: keys = acted ++ keyOf m.program.last ++ k.toList
  accepts : d₀.Accepts (reactions start.program.prompt acted) d
  outputs : m.rig.outputs = start.rig.outputs ++
    (reactions start.program.prompt acted).map start.program.ports.write
  redraws : m.program.redraws = start.program.redraws + acted.count carriageReturn
  echoes : m.program.echoes = start.program.echoes + acted.countP (· ≠ carriageReturn)
  fresh : acted = [] → m.program.last = carriageReturn
  stepped : 0 < m.steps → acted ≠ []

/-! ## Counting reactions -/

theorem keyOf_of_ne_zero {last : UInt8} (h : last ≠ 0) : keyOf last = [last] := if_neg h

theorem Reaction.redraws_count_ofLast (t : Terminal) (last : UInt8) :
    ((Reaction.ofLast last).count t).redraws =
      t.redraws + (keyOf last).count carriageReturn := by
  unfold Reaction.ofLast keyOf
  by_cases hcr : last = carriageReturn
  · subst hcr
    rfl
  · by_cases hzero : last = 0
    · subst hzero
      rfl
    · rw [if_neg hcr, if_neg hzero, if_neg hzero, List.count_singleton, if_neg (by simpa using hcr)]
      rfl

theorem Reaction.echoes_count_ofLast (t : Terminal) (last : UInt8) :
    ((Reaction.ofLast last).count t).echoes =
      t.echoes + (keyOf last).countP (· ≠ carriageReturn) := by
  unfold Reaction.ofLast keyOf
  by_cases hcr : last = carriageReturn
  · subst hcr
    rfl
  · by_cases hzero : last = 0
    · subst hzero
      rfl
    · rw [if_neg hcr, if_neg hzero, if_neg hzero, List.countP_singleton,
        if_pos (by simpa using hcr)]
      rfl

/-- The next key is the first that waits, or none. -/
theorem keyOf_pop (k : Keyboard) (h : 0 ∉ k.toList) :
    keyOf (k.pop.1.getD 0) ++ k.pop.2.toList = k.toList := by
  obtain ⟨hhead, htail, -⟩ := k.pop_eq
  rw [hhead, htail]
  cases hlist : k.toList with
  | nil => rfl
  | cons key rest =>
      have hkey : key ≠ 0 := by
        intro heq
        rw [hlist, heq] at h
        exact h List.mem_cons_self
      simp [keyOf_of_ne_zero hkey]

namespace History

variable {start m : Machine Terminal δ} {d₀ d : Display} {keys acted : Bytes} {k : Keyboard}

/-! ## Beginning -/

/-- Nothing has happened yet; keys may wait already. -/
theorem begin (hfirmware : start.firmware = Terminal.firmware) (hready : start.rig.Ready d₀ k)
    (hlast : start.program.last = carriageReturn) (hsteps : start.steps = 0)
    (hnonzero : 0 ∉ k.toList) : History start d₀ k.toList start [] d₀ k := by
  refine ⟨hfirmware, hready, rfl, rfl, .refl _, hnonzero, ?_, .refl d₀, (List.append_nil _).symm,
    rfl, rfl, fun _ => hlast, fun h => ?_⟩
  · rw [hlast]
    rfl
  · omega

theorem waiting_nonzero (h : History start d₀ keys m acted d k) : 0 ∉ k.toList := by
  intro hmem
  have hqueue : (0 : UInt8) ∈ carriageReturn :: keys := by
    rw [h.queue]
    exact List.mem_append_right _ hmem
  rcases List.mem_cons.mp hqueue with heq | hkeys
  · cases heq
  · exact h.nonzero hkeys

/-- Once the terminal has acted, everything typed has been acted on, is about to be,
or waits. -/
theorem typed_eq (h : History start d₀ keys m acted d k) (hacted : acted ≠ []) :
    ∃ keysActed, acted = carriageReturn :: keysActed ∧
      keys = keysActed ++ keyOf m.program.last ++ k.toList := by
  have hqueue := h.queue
  cases acted with
  | nil => exact absurd rfl hacted
  | cons key keysActed =>
      simp only [List.cons_append, List.cons.injEq] at hqueue
      exact ⟨keysActed, by rw [hqueue.1], hqueue.2⟩

/-! ## Typing -/

variable [LawfulTerminalPeripheral δ]

/-- Keys that are typed wait behind those that wait already. -/
theorem typeKeys (h : History start d₀ keys m acted d k) {f : Keyboard → Keyboard} {typed : Bytes}
    (hf : (f k).toList = k.toList ++ typed) (htyped : 0 ∉ typed) :
    History start d₀ (keys ++ typed) (m.changeBus fun bus => bus.changeKeyboard f) acted d
      (f k) := by
  obtain ⟨hwired, hpasses⟩ := h.ready.wired.changeKeyboard f
  refine ⟨h.firmware, h.ready.of_wired rfl hpasses.ram hwired, h.ports, h.prompt,
    h.calm.trans hpasses.calm, ?_, ?_, h.accepts, h.outputs, h.redraws, h.echoes, h.fresh,
    h.stepped⟩
  · intro hmem
    rcases List.mem_append.mp hmem with hmem | hmem
    · exact h.nonzero hmem
    · exact htyped hmem
  · show _ = acted ++ keyOf m.program.last ++ (f k).toList
    rw [hf, ← List.append_assoc, ← h.queue]
    rfl

/-! ## Stepping -/

/-- A step acts on the key that was about to be acted on. -/
theorem step (h : History start d₀ keys m acted d k) :
    ∃ m' d', Act.run Machine.step m = some (.ok (), m') ∧ m'.steps = m.steps + 1 ∧
      m'.program.last = k.pop.1.getD 0 ∧
      History start d₀ keys m' (acted ++ keyOf m.program.last) d' k.pop.2 := by
  obtain ⟨m', d', hrun, hfirmware, hsteps, hiterates⟩ :=
    Terminal.run_machineStep h.firmware h.ready
  have hprogram : m'.program =
      { (Reaction.ofLast m.program.last).count m.program with last := k.pop.1.getD 0 } :=
    hiterates.program
  have hlast : m'.program.last = k.pop.1.getD 0 := by rw [hprogram]
  have hports : m'.program.ports = m.program.ports := by
    rw [hprogram]
    exact Reaction.count_ports _ _
  have hprompt : m'.program.prompt = m.program.prompt := by
    rw [hprogram]
    exact Reaction.count_prompt _ _
  have hwrites : (Reaction.ofLast m.program.last).writes m.program.prompt =
      reactions start.program.prompt (keyOf m.program.last) := by
    rw [reactions_keyOf, h.prompt]
  have haccepts := hiterates.accepts
  have houtputs := hiterates.outputs
  rw [show m.rig.program = m.program from rfl, hwrites] at haccepts houtputs
  have hne : acted ++ keyOf m.program.last ≠ [] := by
    intro hnil
    obtain ⟨hacted, hkey⟩ := List.append_eq_nil_iff.mp hnil
    rw [h.fresh hacted] at hkey
    cases hkey
  refine ⟨m', d', hrun, hsteps, hlast, ⟨hfirmware, hiterates.ready, hports.trans h.ports,
    hprompt.trans h.prompt, h.calm.trans hiterates.calm, h.nonzero, ?_, ?_, ?_, ?_, ?_,
    fun hnil => absurd hnil hne, fun _ => hne⟩⟩
  · rw [hlast, List.append_assoc, keyOf_pop k h.waiting_nonzero, h.queue]
  · rw [reactions_append]
    exact h.accepts.trans haccepts
  · rw [houtputs, h.outputs, reactions_append, List.map_append, List.append_assoc, h.ports]
  · rw [hprogram, List.count_append, ← Nat.add_assoc, ← h.redraws]
    exact Reaction.redraws_count_ofLast m.program m.program.last
  · rw [hprogram, List.countP_append, ← Nat.add_assoc, ← h.echoes]
    exact Reaction.echoes_count_ofLast m.program m.program.last

/-! ## Runs -/

/-- A move that types or steps goes well. -/
theorem move (h : History start d₀ keys m acted d k) {v : Move} (hv : v.isPlain = true) :
    ∃ m' acted' d' k', Act.run (Machine.move v) m = some (.ok (), m') ∧
      m'.steps = m.steps + stepsTaken [v] ∧
      History start d₀ (keys ++ keysTyped [v]) m' acted' d' k' := by
  have hnonzero := zero_notMem_keysTyped [v]
  cases v with
  | push key =>
      exact ⟨_, acted, d, _, rfl, rfl, h.typeKeys (toList_push_eq k key) hnonzero⟩
  | feed typed =>
      exact ⟨_, acted, d, _, rfl, rfl, h.typeKeys (toList_feed_eq k typed) hnonzero⟩
  | step =>
      obtain ⟨m', d', hrun, hsteps, -, h'⟩ := h.step
      rw [show keysTyped [.step] = [] from rfl, List.append_nil]
      exact ⟨m', _, d', _, hrun, hsteps, h'⟩
  | peek addr => cases hv
  | poke addr value => cases hv

/-- So does a whole run of such moves. -/
theorem play (h : History start d₀ keys m acted d k) {moves : List Move}
    (hmoves : ∀ v ∈ moves, v.isPlain = true) :
    ∃ m' acted' d' k',
      Machine.play moves m = some (List.replicate moves.length (.ok ()), m') ∧
      m'.steps = m.steps + stepsTaken moves ∧
      History start d₀ (keys ++ keysTyped moves) m' acted' d' k' := by
  induction moves generalizing keys m acted d k with
  | nil =>
      refine ⟨m, acted, d, k, rfl, rfl, ?_⟩
      rwa [show keysTyped [] = [] from rfl, List.append_nil]
  | cons v vs ih =>
      obtain ⟨m₁, acted₁, d₁, k₁, hrun, hsteps₁, h₁⟩ := h.move (hmoves v List.mem_cons_self)
      obtain ⟨m₂, acted₂, d₂, k₂, hplay, hsteps₂, h₂⟩ :=
        ih h₁ fun w hw => hmoves w (List.mem_cons_of_mem v hw)
      refine ⟨m₂, acted₂, d₂, k₂, ?_, ?_, ?_⟩
      · rw [Machine.play_cons_of_run hrun, hplay]
        rfl
      · rw [hsteps₂, hsteps₁, Nat.add_assoc, ← stepsTaken_append]
        rfl
      · rwa [List.append_assoc, ← keysTyped_append] at h₂

end History

end PolledTerminal
