import PolledTerminal.Proofs.Bus.Devices
import PolledTerminal.Proofs.Display.Busy
import PolledTerminal.Proofs.Waiting
set_option autoImplicit false

/-!
# The busy handshake

Writing a character to a display polls its busy flag until it is clear and then
writes once.  Every poll is an access, and its cycle is one of those that the
display is waiting for; so the wait is exactly as long as the display is busy,
and the write that ends it is accepted.
-/

namespace PolledTerminal

namespace Bus

/-! ## Displays -/

open TerminalPeripheral (ofDisplay)

variable {δ : Type} [TerminalPeripheral δ]

/-- A display stands between other mappings, with its two ports. -/
structure DisplayAt (b : Bus δ) (before : List (Mapping δ)) (m : Mapping δ)
    (after : List (Mapping δ)) (d : Display) : Prop where
  split : b.mappings = before ++ m :: after
  device : m.device = ofDisplay d
  size : m.size = 2

/-- The bus after the wait for a display, the write that ends it, and the cycle of
that write. -/
def afterWrite (b : Bus δ) (before : List (Mapping δ)) (m : Mapping δ) (after : List (Mapping δ))
    (d : Display) (offset value : UInt8) : Bus δ :=
  let cycles := d.busyRemaining.toNat + 2
  { b with
    mappings := before.map (Mapping.later cycles) ++
      { m with device := ofDisplay (d.ready.write offset value).1.tick } ::
        after.map (Mapping.later cycles)
    cycles := b.cycles + cycles
    printed := (d.ready.write offset value).2 :: b.printed }

section Lawful

variable [LawfulTerminalPeripheral δ] {b : Bus δ} {before after : List (Mapping δ)}
  {m : Mapping δ} {d : Display} {offset : UInt8}

omit [LawfulTerminalPeripheral δ] in
theorem DisplayAt.contains (hb : b.Disjoint) (h : b.DisplayAt before m after d)
    (hoffset : offset < 2) : m.contains (m.base + offset) = true := by
  have hmem : m ∈ b.mappings := by simp [h.split]
  exact Mapping.contains_port (hb.fits m hmem) (by rw [h.size]; exact hoffset)

omit [TerminalPeripheral δ] [LawfulTerminalPeripheral δ] in
theorem add_offset_sub (m : Mapping δ) (offset : UInt8) : m.base + offset - m.base = offset := by
  rw [UInt8.add_comm, UInt8.add_sub_cancel]

/-- Reading a port of a display gives its status and changes nothing. -/
theorem DisplayAt.run_read (hb : b.Disjoint) (h : b.DisplayAt before m after d)
    (hoffset : offset < 2) :
    Act.run (Bus.read (m.base + offset)) b = some (.ok d.status, b.settle) := by
  have hregister : d.read offset = d.status := by
    have haccepts := Display.accepts_ready hoffset d
    simp only [Display.accepts, Display.ready_isBusy, Bool.not_false, Bool.true_and,
      Bool.or_eq_true, beq_iff_eq] at haccepts
    simp [Display.read, haccepts]
  have hsame : before ++ { m with device := ofDisplay d } :: after = b.mappings := by
    rw [h.split, ← h.device]
  rw [Bus.run_read, fetch_of_owner hb h.split (h.contains hb hoffset), add_offset_sub, h.device,
    LawfulTerminalPeripheral.read_ofDisplay, hregister, hsame]

/-- One poll of the busy flag. -/
theorem DisplayAt.run_isBusy (hb : b.Disjoint) (h : b.DisplayAt before m after d)
    (hoffset : offset < 2) :
    Act.run (outputPort (m.base + offset)).isBusy b = some (.ok d.isBusy, b.settle) := by
  have hstatus : (d.status != 0) = d.isBusy := by
    unfold Display.status
    cases d.isBusy <;> rfl
  simp only [outputPort]
  rw [Act.run_bind_of_ok (h.run_read hb hoffset), Act.run_pure, hstatus]

theorem DisplayAt.run_write (hb : b.Disjoint) (h : b.DisplayAt before m after d)
    (hoffset : offset < 2) (value : UInt8) :
    Act.run (Bus.write (m.base + offset) value) b =
      some (.ok (), ({ b with
        mappings := before ++ { m with device := ofDisplay (d.write offset value).1 } :: after
        printed := (d.write offset value).2 :: b.printed } : Bus δ).settle) := by
  rw [Bus.run_write, store_of_owner hb h.split value (h.contains hb hoffset), add_offset_sub,
    h.device, LawfulTerminalPeripheral.write_ofDisplay]

/-- A display at a port is what the port's patience is taken from. -/
theorem DisplayAt.patience_eq (hb : b.Disjoint) (h : b.DisplayAt before m after d)
    (hoffset : offset < 2) : b.patience (m.base + offset) = d.busyRemaining.toNat + 1 := by
  have hport := h.contains hb hoffset
  have hbefore := hb.not_contains_before h.split hport
  have hfind : b.mappings.find? (fun n => n.contains (m.base + offset)) = some m := by
    rw [h.split, List.find?_append, List.find?_eq_none.mpr (by simpa using hbefore),
      Option.none_or]
    exact List.find?_cons_of_pos hport
  rw [Bus.patience, Bus.deviceAt?, hfind, Option.map_some]
  simp only [h.device, LawfulTerminalPeripheral.patience_ofDisplay]

/-- After some cycles the display stands where it stood, and what remains of its
busy time is that much less. -/
theorem DisplayAt.iterate_settle (h : b.DisplayAt before m after d) (n : Nat) :
    ∃ d' : Display, ((Bus.settle^[n]) b).DisplayAt (before.map (Mapping.later n)) (m.later n)
        (after.map (Mapping.later n)) d' ∧ d'.ready = d.ready ∧
      d'.busyRemaining.toNat = d.busyRemaining.toNat - n := by
  refine ⟨(Display.tick^[n]) d, ⟨?_, ?_, h.size⟩, ?_, ?_⟩
  · rw [Bus.iterate_settle, h.split, List.map_append, List.map_cons]
  · rw [Mapping.later, h.device, LawfulTerminalPeripheral.tick_iterate_ofDisplay]
  · induction n with
    | zero => rfl
    | succ n ih => rw [Function.iterate_succ_apply', Display.ready_tick, ih]
  · induction n with
    | zero => rfl
    | succ n ih =>
        rw [Function.iterate_succ_apply', Display.tick_busyRemaining, ih]
        omega

/-- A poll finds the display busy just when it comes before the end of the busy
time. -/
theorem DisplayAt.run_poll (hb : b.Disjoint) (h : b.DisplayAt before m after d)
    (hoffset : offset < 2) (polls : Nat) :
    Act.run (outputPort (m.base + offset)).isBusy ((Bus.settle^[polls]) b) =
      some (.ok (decide (polls < d.busyRemaining.toNat)), (Bus.settle^[polls + 1]) b) := by
  obtain ⟨d', hd', -, hremaining⟩ := h.iterate_settle polls
  have hpoll := hd'.run_isBusy (hb.iterate_settle polls) hoffset
  rw [Mapping.base_later] at hpoll
  have hbusy : d'.isBusy = decide (polls < d.busyRemaining.toNat) := by
    rw [Bool.eq_iff_iff, Display.isBusy_iff, hremaining, decide_eq_true_eq]
    omega
  rw [hpoll, hbusy, Function.iterate_succ_apply']

/-- The write that comes after the wait finds the display ready. -/
theorem DisplayAt.run_write_after_wait (hb : b.Disjoint) (h : b.DisplayAt before m after d)
    (hoffset : offset < 2) (value : UInt8) :
    Act.run ((outputPort (m.base + offset)).write value)
        ((Bus.settle^[d.busyRemaining.toNat + 1]) b) =
      some (.ok (), b.afterWrite before m after d offset value) := by
  obtain ⟨d', hd', hready, hremaining⟩ := h.iterate_settle (d.busyRemaining.toNat + 1)
  have hd : d' = d.ready := by
    rw [← hready]
    exact (Display.tick_of_ready (by omega)).1
  have hdisjoint := hb.iterate_settle (d.busyRemaining.toNat + 1)
  have hlater : Mapping.later (δ := δ) (d.busyRemaining.toNat + 2) =
      Mapping.later 1 ∘ Mapping.later (d.busyRemaining.toNat + 1) := by
    funext n
    exact (n.later_later _ 1).symm
  have hwrite := hd'.run_write hdisjoint hoffset value
  rw [Mapping.base_later] at hwrite
  show Act.run (Bus.write (m.base + offset) value) _ = _
  rw [hwrite, hd, afterWrite, hlater, ← List.map_map, ← List.map_map,
    ← LawfulTerminalPeripheral.tick_ofDisplay, Bus.iterate_settle]
  simp only [Bus.settle, Bus.tick, List.map_append, List.map_cons]
  rfl

/-- The wait for a display lasts as long as it is busy, and the write ends it. -/
theorem DisplayAt.run_writeCharacter (hb : b.Disjoint) (h : b.DisplayAt before m after d)
    (hoffset : offset < 2) (value : UInt8) :
    Act.run (Bus.writeCharacter (m.base + offset) value) b =
      some (.ok d.busyRemaining.toNat, b.afterWrite before m after d offset value) := by
  have hlt : d.busyRemaining.toNat ≤ maxSpins := Nat.le_of_lt_succ d.busyRemaining.toNat_lt
  have hbusy (k : Nat) (hk : k < d.busyRemaining.toNat) :=
    decide_eq_true hk ▸ h.run_poll hb hoffset k
  have hready := decide_eq_false (Nat.lt_irrefl d.busyRemaining.toNat) ▸ h.run_poll hb hoffset _
  have hanswers := OutputDevice.AnswersAfter.of_states (fun polls => (Bus.settle^[polls]) b)
    hbusy hready nofun
  rw [Function.iterate_zero, id_eq] at hanswers
  have hwait := hanswers.run_of_ready value (Nat.lt_add_one _) (Nat.zero_le maxSpins)
  rw [Bus.writeCharacter, Act.run_bind_of_ok (Act.run_get b), OutputDevice.writeCharacter,
    h.patience_eq hb hoffset, hwait, Act.run_bind_of_ok (h.run_write_after_wait hb hoffset value),
    Act.run_pure, Nat.zero_add, Nat.min_eq_left hlt]

/-! ## The first display -/

/-- The display whose base is taken for the terminal stands before all other
displays. -/
theorem exists_first_display (hsized : b.Sized) {base : UInt8} (h : b.displayBase? = some base) :
    ∃ before m after d, b.DisplayAt before m after d ∧ m.base = base ∧
      ∀ n ∈ before, n.isDisplay = false := by
  obtain ⟨m, hfind, hbase⟩ := Option.map_eq_some_iff.mp h
  obtain ⟨hsome, before, after, hsplit, hbefore⟩ := List.find?_eq_some_iff_append.mp hfind
  obtain ⟨d, hd⟩ := Option.isSome_iff_exists.mp hsome
  have hmem : m ∈ b.mappings := by simp [hsplit]
  refine ⟨before, m, after, d, ⟨hsplit, ?_, (hsized m hmem).1 hsome⟩, hbase, ?_⟩
  · exact LawfulTerminalPeripheral.display?_eq_some_iff.mp hd
  · intro n hn
    exact Bool.not_eq_true' _ ▸ hbefore n hn

/-- The control and data ports of a terminal are the two ports of the first
display. -/
theorem exists_display_of_ports (hsized : b.Sized) {ports : TerminalPorts}
    (h : TerminalPorts.ofBus? b = some ports) :
    ∃ before m after d, b.DisplayAt before m after d ∧ (∀ n ∈ before, n.isDisplay = false) ∧
      ports.lcr = m.base + Display.controlRegister ∧ ports.ldr = m.base + Display.dataRegister := by
  unfold TerminalPorts.ofBus? at h
  obtain ⟨base, hbase, h⟩ := Option.bind_eq_some_iff.mp h
  obtain ⟨kdr, -, h⟩ := Option.bind_eq_some_iff.mp h
  obtain ⟨before, m, after, d, hd, rfl, hbefore⟩ := exists_first_display hsized hbase
  cases h
  exact ⟨before, m, after, d, hd, hbefore, rfl, rfl⟩

end Lawful

end Bus

end PolledTerminal
