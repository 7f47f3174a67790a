import PolledTerminal.Bus
set_option autoImplicit false

/-!
# Ports as devices

A program sees a device through what it can do with one port: poll an input, or
wait until an output is ready and then write it.  Both are stated for any device
given by its actions; a bus port is one such device, whose reading is its busy
flag when it is an output and its next key when it is an input.

Waiting has no timeout.  `patience` is the number of polls after which a device
that is still busy is taken to stay busy, and then the action never ends.
-/

namespace PolledTerminal

/-- A device to read from. -/
structure InputDevice (σ : Type) where
  /-- one reading; `none` is the idle device -/
  tryRead : Act σ (Option UInt8)

/-- A device to write to. -/
structure OutputDevice (σ : Type) where
  /-- the busy flag -/
  isBusy : Act σ Bool
  /-- write, busy or not -/
  write : UInt8 → Act σ Unit

/-- The greatest number of busy polls that is counted. -/
def maxSpins : Nat := 0xFFFFFFFF

namespace OutputDevice

variable {σ : Type}

/-- Poll until the device is ready, write once, and give the number of polls
that found it busy, `spins` of them already counted. -/
def writeWhenReady (device : OutputDevice σ) (value : UInt8) : Nat → Nat → Act σ Nat
  | 0, _ => Act.stall
  | patience + 1, spins => do
    if ← device.isBusy then
      writeWhenReady device value patience (min (spins + 1) maxSpins)
    else
      device.write value
      return spins

/-- Wait for the device, then write one character to it. -/
def writeCharacter (device : OutputDevice σ) (patience : Nat) (value : UInt8) : Act σ Nat :=
  device.writeWhenReady value patience 0

end OutputDevice

namespace InputDevice

variable {σ : Type}

/-- One poll, which does not wait. -/
def poll (device : InputDevice σ) : Act σ (Option UInt8) := device.tryRead

end InputDevice

namespace Bus

variable {δ : Type} [Peripheral δ]

/-- A port as an input: reading zero means that nothing is there. -/
def inputPort (port : UInt8) : InputDevice (Bus δ) where
  tryRead := do
    let value ← Bus.read port
    return if value = 0 then none else some value

/-- A port as an output: reading anything but zero means busy. -/
def outputPort (port : UInt8) : OutputDevice (Bus δ) where
  isBusy := do
    let status ← Bus.read port
    return status != 0
  write value := Bus.write port value

/-- Wait for a port, then write one character to it. -/
def writeCharacter (port value : UInt8) : Act (Bus δ) Nat := do
  let bus ← get
  (outputPort port).writeCharacter (bus.patience port) value

/-- One poll of a port. -/
def pollInput (port : UInt8) : Act (Bus δ) (Option UInt8) := (inputPort port).poll

end Bus

end PolledTerminal
