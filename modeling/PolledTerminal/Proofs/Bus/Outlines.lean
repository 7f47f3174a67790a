import PolledTerminal.Proofs.Bus.Calls
import PolledTerminal.Proofs.Bus.Overruns
set_option autoImplicit false

/-!
# Outlines

Whatever is read and written on a bus, busy displays included, every mapping stays in
its place, and what is a display or a keyboard stays one.
-/

namespace PolledTerminal

open TerminalPeripheral (display? keyboard?)

variable {δ : Type} [TerminalPeripheral δ]

namespace LawfulTerminalPeripheral

variable [LawfulTerminalPeripheral δ]

theorem isSome_display?_write (x : δ) (offset value : UInt8) :
    (display? (Peripheral.write x offset value).2.1).isSome = (display? x).isSome := by
  rcases kind x with ⟨d, rfl⟩ | ⟨k, rfl⟩ | ⟨hd, hk⟩
  · simp [write_ofDisplay]
  · rw [write_ofKeyboard]
  · rw [(other_write hd hk offset value).1, hd]

theorem isSome_keyboard?_write (x : δ) (offset value : UInt8) :
    (keyboard? (Peripheral.write x offset value).2.1).isSome = (keyboard? x).isSome := by
  rcases kind x with ⟨d, rfl⟩ | ⟨k, rfl⟩ | ⟨hd, hk⟩
  · simp [write_ofDisplay]
  · rw [write_ofKeyboard]
  · rw [(other_write hd hk offset value).2, hk]

end LawfulTerminalPeripheral

namespace Bus

namespace SameOutline

variable {b b' b'' : Bus δ}

theorem refl (b : Bus δ) : SameOutline b b := ⟨rfl, rfl, rfl⟩

theorem trans (h : SameOutline b b') (h' : SameOutline b' b'') : SameOutline b b'' :=
  ⟨h'.ramBase.trans h.ramBase, h'.ramSize.trans h.ramSize, h'.outlines.trans h.outlines⟩

theorem disjoint (h : SameOutline b b') (hb : b.Disjoint) : b'.Disjoint :=
  hb.of_samePlaces h.samePlaces

theorem limit_eq (h : SameOutline b b') : b'.ram.limit = b.ram.limit := by
  rw [DataMemory.limit, DataMemory.limit, h.ramBase, h.ramSize]

end SameOutline

section Lawful

variable [LawfulTerminalPeripheral δ] {b : Bus δ}

/-- Whatever is written to a device, it stays the kind of device that it was. -/
theorem sameOutline_store (hb : b.Disjoint) (addr value : UInt8) :
    SameOutline b (b.store addr value).2 := by
  by_cases hram : b.ram.contains addr = true
  · exact (calm_store_of_memory hram value).sameOutline
  · rcases b.exists_owner_or_unowned addr with ⟨before, m, after, hsplit, haddr⟩ | hunowned
    · rw [store_of_owner hb hsplit value haddr]
      refine ⟨rfl, rfl, ?_⟩
      simp only [hsplit, List.map_append, List.map_cons, Mapping.outline, Mapping.isDisplay,
        Mapping.isKeyboard, LawfulTerminalPeripheral.isSome_display?_write,
        LawfulTerminalPeripheral.isSome_keyboard?_write]
      rfl
    · rw [store_of_unowned (by simpa using hram) hunowned]
      exact .refl b

theorem keeps_outline_read (hb : b.Disjoint) (addr : UInt8) :
    Act.Keeps (SameOutline b) (Bus.read addr) := by
  intro b' houtline
  refine ⟨_, _, run_read b' addr, ?_⟩
  have hfetched := calm_fetch (houtline.disjoint hb) addr
  exact houtline.trans (hfetched.trans (calm_settle _)).sameOutline

theorem keeps_outline_write (hb : b.Disjoint) (addr value : UInt8) :
    Act.Keeps (SameOutline b) (Bus.write addr value) := by
  intro b' houtline
  refine ⟨_, _, run_write b' addr value, ?_⟩
  have hstored := sameOutline_store (houtline.disjoint hb) addr value
  exact (houtline.trans hstored).trans (calm_settle _).sameOutline

end Lawful

end Bus

end PolledTerminal
