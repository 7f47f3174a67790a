import PolledTerminal.Proofs.Display.History
set_option autoImplicit false

/-!
# The busy countdown of a display

A display is busy for as many cycles as remain, and a write that comes when none
remain is accepted and starts the countdown anew.
-/

namespace PolledTerminal.Display

/-- The display when its busy time is over. -/
def ready (d : Display) : Display := { d with busyRemaining := 0 }

@[simp] theorem ready_isBusy (d : Display) : d.ready.isBusy = false := rfl

theorem isBusy_iff (d : Display) : d.isBusy = true ↔ 0 < d.busyRemaining.toNat := by
  have hzero : d.busyRemaining = 0 ↔ d.busyRemaining.toNat = 0 := by
    rw [← UInt32.toNat_inj]
    rfl
  rw [isBusy, bne_iff_ne, ne_eq, hzero]
  omega

/-- A cycle changes nothing but the countdown. -/
theorem tick_eq (d : Display) :
    d.tick = { d with busyRemaining := UInt32.ofNat (d.busyRemaining.toNat - 1) } := by
  have hlt := d.busyRemaining.toNat_lt
  unfold tick
  split
  case isTrue h => simp [h]; rw [← h]
  case isFalse h =>
    have hpos : (1 : UInt32) ≤ d.busyRemaining := by
      have hne : d.busyRemaining.toNat ≠ 0 := fun hzero => h (UInt32.toNat_inj.mp hzero)
      rw [UInt32.le_iff_toNat_le]
      have : (1 : UInt32).toNat = 1 := rfl
      omega
    congr 1
    apply UInt32.toNat_inj.mp
    have hone : (1 : UInt32).toNat = 1 := rfl
    rw [UInt32.toNat_sub_of_le _ _ hpos, UInt32.toNat_ofNat', hone]
    omega

@[simp] theorem tick_busyRemaining (d : Display) :
    d.tick.busyRemaining.toNat = d.busyRemaining.toNat - 1 := by
  have hlt := d.busyRemaining.toNat_lt
  rw [tick_eq, UInt32.toNat_ofNat']
  omega

@[simp] theorem tick_overruns (d : Display) : d.tick.overruns = d.overruns := by rw [tick_eq]

theorem iterate_tick_overruns (d : Display) (n : Nat) :
    ((Display.tick^[n]) d).overruns = d.overruns := by
  induction n with
  | zero => rfl
  | succ n ih => rw [Function.iterate_succ_apply', tick_overruns, ih]

@[simp] theorem tick_writes (d : Display) : d.tick.writes = d.writes := by rw [tick_eq]

@[simp] theorem tick_busyCycles (d : Display) : d.tick.busyCycles = d.busyCycles := by rw [tick_eq]

@[simp] theorem ready_tick (d : Display) : d.tick.ready = d.ready := by rw [tick_eq]; rfl

theorem tick_of_ready {d : Display} (h : d.busyRemaining.toNat = 0) : d = d.ready ∧ d.tick = d := by
  have hzero : d.busyRemaining = 0 := UInt32.toNat_inj.mp h
  refine ⟨?_, ?_⟩
  · rw [ready, ← hzero]
  · rw [tick, if_pos hzero]

/-- A display has two registers. -/
theorem register_cases {offset : UInt8} (h : offset < 2) :
    offset = controlRegister ∨ offset = dataRegister := by
  have hlt := UInt8.lt_iff_toNat_lt.mp h
  rcases Nat.lt_succ_iff_lt_or_eq.mp hlt with h | h
  · exact .inl (UInt8.toNat_inj.mp (Nat.lt_one_iff.mp h))
  · exact .inr (UInt8.toNat_inj.mp h)

theorem accepts_ready {offset : UInt8} (hoffset : offset < 2) (d : Display) :
    d.ready.accepts offset = true := by
  rcases register_cases hoffset with rfl | rfl <;> simp [accepts]

/-- What a write finds accepted leaves behind, apart from the contents. -/
theorem write_of_accepts {d : Display} {offset : UInt8} (h : d.accepts offset = true)
    (value : UInt8) :
    (d.write offset value).1.overruns = d.overruns ∧
      (d.write offset value).1.writes = d.writes + 1 ∧
      (d.write offset value).1.busyCycles = d.busyCycles ∧
      (d.write offset value).1.busyRemaining = d.busyCycles := by
  simp only [accepts, Bool.and_eq_true, Bool.not_eq_true', Bool.or_eq_true, beq_iff_eq] at h
  obtain ⟨hfree, hoffset⟩ := h
  rcases hoffset with rfl | rfl
  · simp only [write, hfree, Bool.false_eq_true, if_false, if_true, accept, control]
    split <;> exact ⟨rfl, rfl, rfl, rfl⟩
  · have hne : dataRegister ≠ controlRegister := by decide
    simp [write, hfree, hne, accept, character]

/-- Waiting until the display is ready and then writing gets the write accepted. -/
theorem accepts_of_wait (d : Display) {offset : UInt8} (hoffset : offset < 2) (value : UInt8) :
    d.Accepts [⟨offset, value⟩] (d.ready.write offset value).1.tick := by
  have hready : d.Accepts [] d.ready := by
    induction hr : d.busyRemaining.toNat generalizing d with
    | zero =>
        rw [← (tick_of_ready hr).1]
        exact .refl d
    | succ n ih =>
        have htail := ih d.tick (by rw [tick_busyRemaining, hr]; rfl)
        rw [ready_tick] at htail
        exact d.accepts_tick.trans htail
  have hwrite := d.ready.accepts_of_access (.write offset value)
  rw [acceptedBy, if_pos (accepts_ready hoffset d)] at hwrite
  exact (hready.trans hwrite).trans (accepts_tick _)

end PolledTerminal.Display
