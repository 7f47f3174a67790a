import PolledTerminal.Proofs.Display.Busy
set_option autoImplicit false

/-!
# Mirroring a display

A display that echoes prints what it accepts; one that does not prints nothing, and
there is no other difference between the two.
-/

namespace PolledTerminal

/-! ## What is printed -/

/-- What a display that echoes prints when it accepts a write. -/
def RegisterWrite.mirrored (w : RegisterWrite) : String :=
  if w = .clear then Display.clearSequence
  else w.shown?.elim "" fun c => String.ofList [Char.ofNat c.toNat]

/-- What a display that echoes prints of writes, in order. -/
def mirror (ws : List RegisterWrite) : String := String.join (ws.map RegisterWrite.mirrored)

@[simp] theorem mirror_nil : mirror [] = "" := rfl

@[simp] theorem mirror_singleton (w : RegisterWrite) : mirror [w] = w.mirrored := by
  simp [mirror]

@[simp] theorem mirror_append (ws vs : List RegisterWrite) :
    mirror (ws ++ vs) = mirror ws ++ mirror vs := by
  simp [mirror]

namespace Display

/-- A write that is accepted is mirrored just when the display echoes. -/
theorem printed_of_accepts {d : Display} {offset : UInt8} (h : d.accepts offset = true)
    (value : UInt8) :
    (d.write offset value).2 =
      if d.echo then RegisterWrite.mirrored ⟨offset, value⟩ else "" := by
  simp only [accepts, Bool.and_eq_true, Bool.not_eq_true', Bool.or_eq_true, beq_iff_eq] at h
  obtain ⟨hfree, hoffset⟩ := h
  rcases hoffset with rfl | rfl
  · have hshown : RegisterWrite.shown? ⟨controlRegister, value⟩ = none :=
      if_neg (show controlRegister ≠ dataRegister by decide)
    by_cases hvalue : value = clearScreen
    · simp [write, hfree, accept, control, RegisterWrite.mirrored, RegisterWrite.clear, hvalue]
    · simp [write, hfree, accept, control, RegisterWrite.mirrored, RegisterWrite.clear, hvalue,
        hshown]
  · have hne : dataRegister ≠ controlRegister := by decide
    simp [write, hfree, hne, accept, character, RegisterWrite.mirrored, RegisterWrite.clear,
      RegisterWrite.shown?]

/-! ## Echoing or not -/

/-- The display, echoing or not. -/
def withEcho (echo : Bool) (d : Display) : Display := { d with echo := echo }

variable (echo : Bool) (d : Display)

@[simp] theorem withEcho_withEcho (echo' : Bool) :
    (d.withEcho echo).withEcho echo' = d.withEcho echo' := rfl

@[simp] theorem echo_withEcho : (d.withEcho echo).echo = echo := rfl

@[simp] theorem busyRemaining_withEcho : (d.withEcho echo).busyRemaining = d.busyRemaining := rfl

@[simp] theorem ready_withEcho : (d.withEcho echo).ready = d.ready.withEcho echo := rfl

@[simp] theorem tick_withEcho : (d.withEcho echo).tick = d.tick.withEcho echo := by
  rw [tick_eq, tick_eq]
  rfl

/-- Echoing makes no difference to what a write leaves behind. -/
@[simp] theorem write_withEcho (offset value : UInt8) :
    ((d.withEcho echo).write offset value).1 = (d.write offset value).1.withEcho echo := by
  have hbusy : (d.withEcho echo).isBusy = d.isBusy := rfl
  simp only [write, hbusy, control, character, accept]
  split_ifs <;> rfl

@[simp] theorem echo_tick : d.tick.echo = d.echo := by rw [tick_eq]

@[simp] theorem echo_write (offset value : UInt8) : (d.write offset value).1.echo = d.echo :=
  (congrArg Display.echo (write_withEcho d.echo d offset value) :)

end Display

end PolledTerminal
