import PolledTerminal.Terminal
import PolledTerminal.Proofs.Bus.Access
set_option autoImplicit false

/-!
# Displays and keyboards on a bus

What it takes for the devices of a bus to be the displays and keyboards that
they are taken for, and what stays the same about a bus whatever its devices
do: where everything lies, and which mappings are displays and keyboards.  The
ports of the terminal depend on no more than that.
-/

namespace PolledTerminal

open TerminalPeripheral (ofDisplay ofKeyboard display? keyboard?)

/-- The displays and keyboards among the devices answer as displays and
keyboards do, and no device becomes one or ceases to be one. -/
class LawfulTerminalPeripheral (δ : Type) [TerminalPeripheral δ] : Prop where
  display?_eq_some_iff {x : δ} {d : Display} : display? x = some d ↔ x = ofDisplay d
  keyboard?_eq_some_iff {x : δ} {k : Keyboard} : keyboard? x = some k ↔ x = ofKeyboard k
  keyboard?_ofDisplay (d : Display) : keyboard? (ofDisplay d : δ) = none
  registerCount_ofDisplay (d : Display) : Peripheral.registerCount (ofDisplay d : δ) = 2
  registerCount_ofKeyboard (k : Keyboard) : Peripheral.registerCount (ofKeyboard k : δ) = 1
  patience_ofDisplay (d : Display) : Peripheral.patience (ofDisplay d : δ) = d.busyRemaining.toNat
  read_ofDisplay (d : Display) (offset : UInt8) :
    Peripheral.read (ofDisplay d : δ) offset = (.ok (d.read offset), ofDisplay d)
  write_ofDisplay (d : Display) (offset value : UInt8) :
    Peripheral.write (ofDisplay d : δ) offset value =
      (.ok (), ofDisplay (d.write offset value).1, (d.write offset value).2)
  tick_ofDisplay (d : Display) : Peripheral.tick (ofDisplay d : δ) = ofDisplay d.tick
  read_ofKeyboard (k : Keyboard) (offset : UInt8) :
    Peripheral.read (ofKeyboard k : δ) offset =
      (.ok (k.read offset).1, ofKeyboard (k.read offset).2)
  write_ofKeyboard (k : Keyboard) (offset value : UInt8) :
    Peripheral.write (ofKeyboard k : δ) offset value = (.ok (), ofKeyboard k, "")
  tick_ofKeyboard (k : Keyboard) : Peripheral.tick (ofKeyboard k : δ) = ofKeyboard k
  /-- a device that is neither stays neither -/
  other_read {x : δ} (hd : display? x = none) (hk : keyboard? x = none) (offset : UInt8) :
    display? (Peripheral.read x offset).2 = none ∧ keyboard? (Peripheral.read x offset).2 = none
  other_write {x : δ} (hd : display? x = none) (hk : keyboard? x = none) (offset value : UInt8) :
    display? (Peripheral.write x offset value).2.1 = none ∧
      keyboard? (Peripheral.write x offset value).2.1 = none
  other_tick {x : δ} (hd : display? x = none) (hk : keyboard? x = none) :
    display? (Peripheral.tick x) = none ∧ keyboard? (Peripheral.tick x) = none

instance : LawfulTerminalPeripheral Device where
  display?_eq_some_iff {x} := by cases x <;> simp [display?, ofDisplay, Device.display?]
  keyboard?_eq_some_iff {x} := by cases x <;> simp [keyboard?, ofKeyboard, Device.keyboard?]
  keyboard?_ofDisplay _ := rfl
  registerCount_ofDisplay _ := rfl
  registerCount_ofKeyboard _ := rfl
  patience_ofDisplay _ := rfl
  read_ofDisplay _ _ := rfl
  write_ofDisplay _ _ _ := rfl
  tick_ofDisplay _ := rfl
  read_ofKeyboard _ _ := rfl
  write_ofKeyboard _ _ _ := rfl
  tick_ofKeyboard _ := rfl
  other_read {x} hd hk := by
    cases x with
    | display d => cases hd
    | keyboard k => cases hk
  other_write {x} hd hk := by
    cases x with
    | display d => cases hd
    | keyboard k => cases hk
  other_tick {x} hd hk := by
    cases x with
    | display d => cases hd
    | keyboard k => cases hk

variable {δ : Type} [TerminalPeripheral δ] [LawfulTerminalPeripheral δ]

namespace LawfulTerminalPeripheral

@[simp] theorem display?_ofDisplay (d : Display) : display? (ofDisplay d : δ) = some d :=
  display?_eq_some_iff.mpr rfl

@[simp] theorem keyboard?_ofKeyboard (k : Keyboard) : keyboard? (ofKeyboard k : δ) = some k :=
  keyboard?_eq_some_iff.mpr rfl

attribute [simp] keyboard?_ofDisplay

@[simp] theorem display?_ofKeyboard (k : Keyboard) : display? (ofKeyboard k : δ) = none := by
  cases h : display? (ofKeyboard k : δ) with
  | none => rfl
  | some d =>
      have hkeyboard := keyboard?_ofKeyboard (δ := δ) k
      rw [display?_eq_some_iff.mp h, keyboard?_ofDisplay] at hkeyboard
      cases hkeyboard

/-- A device is a display, a keyboard, or neither. -/
theorem kind (x : δ) :
    (∃ d, x = ofDisplay d) ∨ (∃ k, x = ofKeyboard k) ∨ display? x = none ∧ keyboard? x = none := by
  cases hd : display? x with
  | some d => exact .inl ⟨d, display?_eq_some_iff.mp hd⟩
  | none =>
      cases hk : keyboard? x with
      | some k => exact .inr (.inl ⟨k, keyboard?_eq_some_iff.mp hk⟩)
      | none => exact .inr (.inr ⟨rfl, rfl⟩)

/-- Reading changes no display. -/
theorem display?_read (x : δ) (offset : UInt8) :
    display? (Peripheral.read x offset).2 = display? x := by
  rcases kind x with ⟨d, rfl⟩ | ⟨k, rfl⟩ | ⟨hd, hk⟩
  · rw [read_ofDisplay]
  · rw [read_ofKeyboard, display?_ofKeyboard, display?_ofKeyboard]
  · rw [(other_read hd hk offset).1, hd]

theorem display?_tick (x : δ) : display? (Peripheral.tick x) = (display? x).map Display.tick := by
  rcases kind x with ⟨d, rfl⟩ | ⟨k, rfl⟩ | ⟨hd, hk⟩
  · simp [tick_ofDisplay]
  · simp [tick_ofKeyboard]
  · rw [(other_tick hd hk).1, hd, Option.map_none]

theorem keyboard?_tick (x : δ) : keyboard? (Peripheral.tick x) = keyboard? x := by
  rcases kind x with ⟨d, rfl⟩ | ⟨k, rfl⟩ | ⟨hd, hk⟩
  · simp [tick_ofDisplay]
  · simp [tick_ofKeyboard]
  · rw [(other_tick hd hk).2, hk]

theorem isSome_keyboard?_read (x : δ) (offset : UInt8) :
    (keyboard? (Peripheral.read x offset).2).isSome = (keyboard? x).isSome := by
  rcases kind x with ⟨d, rfl⟩ | ⟨k, rfl⟩ | ⟨hd, hk⟩
  · rw [read_ofDisplay]
  · simp [read_ofKeyboard]
  · rw [(other_read hd hk offset).2, hk]

theorem tick_iterate_ofDisplay (n : Nat) (d : Display) :
    (Peripheral.tick^[n]) (ofDisplay d : δ) = ofDisplay ((Display.tick^[n]) d) := by
  induction n generalizing d with
  | zero => rfl
  | succ n ih => rw [Function.iterate_succ_apply, tick_ofDisplay, ih, Function.iterate_succ_apply]

theorem keyboard?_tick_iterate (n : Nat) (x : δ) :
    keyboard? ((Peripheral.tick^[n]) x) = keyboard? x := by
  induction n generalizing x with
  | zero => rfl
  | succ n ih => rw [Function.iterate_succ_apply, ih, keyboard?_tick]

theorem display?_tick_iterate (n : Nat) (x : δ) :
    display? ((Peripheral.tick^[n]) x) = (display? x).map (Display.tick^[n]) := by
  induction n generalizing x with
  | zero => exact Option.map_id'.symm
  | succ n ih =>
      rw [Function.iterate_succ_apply, ih, display?_tick, Option.map_map]
      rfl

end LawfulTerminalPeripheral

/-! ## Outlines -/

/-- A display is mapped here. -/
def Mapping.isDisplay (m : Mapping δ) : Bool := (display? m.device).isSome

/-- A keyboard is mapped here. -/
def Mapping.isKeyboard (m : Mapping δ) : Bool := (keyboard? m.device).isSome

/-- What never changes about a mapping: its place, and whether it is a display
or a keyboard. -/
def Mapping.outline (m : Mapping δ) : (String × UInt8 × UInt8) × Bool × Bool :=
  (m.place, m.isDisplay, m.isKeyboard)

omit [LawfulTerminalPeripheral δ] in
theorem Mapping.display?_eq_none {m : Mapping δ} (h : m.isDisplay = false) :
    display? m.device = none := by
  unfold isDisplay at h
  simpa using h

omit [LawfulTerminalPeripheral δ] in
theorem Mapping.keyboard?_eq_none {m : Mapping δ} (h : m.isKeyboard = false) :
    keyboard? m.device = none := by
  unfold isKeyboard at h
  simpa using h

/-- Displays stay displays as time passes. -/
theorem Mapping.isDisplay_later (n : Nat) (m : Mapping δ) :
    (m.later n).isDisplay = m.isDisplay := by
  unfold isDisplay later
  rw [LawfulTerminalPeripheral.display?_tick_iterate, Option.isSome_map]

namespace Bus

/-- Displays have two ports and keyboards one. -/
def Sized (b : Bus δ) : Prop :=
  ∀ m ∈ b.mappings,
    (m.isDisplay = true → m.size = 2) ∧ (m.isKeyboard = true → m.size = 1)

/-- Everything lies where it lay and is the kind of device that it was. -/
structure SameOutline (b b' : Bus δ) : Prop where
  ramBase : b'.ram.base = b.ram.base
  ramSize : b'.ram.cells.size = b.ram.cells.size
  outlines : b'.mappings.map Mapping.outline = b.mappings.map Mapping.outline

namespace SameOutline

variable {b b' : Bus δ}

omit [LawfulTerminalPeripheral δ]

theorem samePlaces (h : SameOutline b b') : SamePlaces b b' := by
  refine ⟨h.ramBase, h.ramSize, ?_⟩
  have hplaces := congrArg (List.map Prod.fst) h.outlines
  rwa [List.map_map, List.map_map] at hplaces

theorem sized (h : SameOutline b b') (hb : b.Sized) : b'.Sized := by
  intro m' hm'
  have hmem : m'.outline ∈ b.mappings.map Mapping.outline := by
    rw [← h.outlines]
    exact List.mem_map_of_mem hm'
  obtain ⟨m, hm, houtline⟩ := List.mem_map.mp hmem
  simp only [Mapping.outline, Mapping.place, Prod.mk.injEq] at houtline
  obtain ⟨⟨-, -, hsize⟩, hdisplay, hkeyboard⟩ := houtline
  rw [← hsize, ← hdisplay, ← hkeyboard]
  exact hb m hm

theorem displayBase?_eq (h : SameOutline b b') : b'.displayBase? = b.displayBase? := by
  have hfind (c : Bus δ) :
      c.displayBase? = ((c.mappings.map Mapping.outline).find? (·.2.1)).map (·.1.2.1) := by
    rw [displayBase?, List.find?_map, Option.map_map]
    rfl
  rw [hfind, hfind, h.outlines]

theorem keyboardBase?_eq (h : SameOutline b b') : b'.keyboardBase? = b.keyboardBase? := by
  have hfind (c : Bus δ) :
      c.keyboardBase? = ((c.mappings.map Mapping.outline).find? (·.2.2)).map (·.1.2.1) := by
    rw [keyboardBase?, List.find?_map, Option.map_map]
    rfl
  rw [hfind, hfind, h.outlines]

theorem ports_eq (h : SameOutline b b') : TerminalPorts.ofBus? b' = TerminalPorts.ofBus? b := by
  rw [TerminalPorts.ofBus?, TerminalPorts.ofBus?, h.displayBase?_eq, h.keyboardBase?_eq]

end SameOutline

end Bus

end PolledTerminal
