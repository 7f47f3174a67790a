import PolledTerminal.Display
import PolledTerminal.Keyboard
set_option autoImplicit false

/-!
# Peripherals

What a device on the bus has to answer, and the two devices that boards are
built from.  The bus is written for any type with these answers, so everything
said of it holds for every kind of device.
-/

namespace PolledTerminal

/-- Devices that decode consecutive ports. -/
class Peripheral (δ : Type) where
  /-- how many ports the device decodes -/
  registerCount : δ → UInt8
  /-- read a register; reading may change the device -/
  read : δ → UInt8 → Except Fault UInt8 × δ
  /-- write a register; what is printed comes last -/
  write : δ → UInt8 → UInt8 → Except Fault Unit × δ × String
  /-- one bus cycle passes -/
  tick : δ → δ
  /-- the device's part of a snapshot -/
  snapshot : δ → Json
  /-- a device that answers busy more often than this in a row stays busy -/
  patience : δ → Nat

/-- Devices among which there are displays and keyboards. -/
class TerminalPeripheral (δ : Type) extends Peripheral δ where
  ofDisplay : Display → δ
  ofKeyboard : Keyboard → δ
  display? : δ → Option Display
  keyboard? : δ → Option Keyboard

/-- The devices of a board. -/
inductive Device where
  | display (d : Display)
  | keyboard (k : Keyboard)

namespace Device

/-- The display, if it is one. -/
def display? : Device → Option Display
  | .display d => some d
  | .keyboard _ => none

/-- The keyboard, if it is one. -/
def keyboard? : Device → Option Keyboard
  | .display _ => none
  | .keyboard k => some k

/-- How many ports the device decodes. -/
def registerCount : Device → UInt8
  | .display _ => 2
  | .keyboard _ => 1

/-- Read a register. -/
def read : Device → UInt8 → Except Fault UInt8 × Device
  | .display d, offset => (.ok (d.read offset), .display d)
  | .keyboard k, offset =>
    let (value, k) := k.read offset
    (.ok value, .keyboard k)

/-- Write a register; a keyboard ignores it. -/
def write : Device → UInt8 → UInt8 → Except Fault Unit × Device × String
  | .display d, offset, value =>
    let (d, printed) := d.write offset value
    (.ok (), .display d, printed)
  | .keyboard k, _, _ => (.ok (), .keyboard k, "")

/-- One bus cycle passes. -/
def tick : Device → Device
  | .display d => .display d.tick
  | .keyboard k => .keyboard k

/-- The device's part of a snapshot. -/
def snapshot : Device → Json
  | .display d => d.snapshot
  | .keyboard k => k.snapshot

/-- A display is busy for the cycles that remain; a keyboard reads as busy while
it has keys to give. -/
def patience : Device → Nat
  | .display d => d.busyRemaining.toNat
  | .keyboard k => k.pending

instance : TerminalPeripheral Device where
  registerCount := registerCount
  read := read
  write := write
  tick := tick
  snapshot := snapshot
  patience := patience
  ofDisplay := .display
  ofKeyboard := .keyboard
  display? := display?
  keyboard? := keyboard?

end Device

end PolledTerminal
