import PolledTerminal.Act
import PolledTerminal.DataMemory
import PolledTerminal.Peripheral
set_option autoImplicit false

/-!
# The bus

Data memory and device registers share one address space of 256 addresses.
Memory comes first, then the devices in the order in which they were mapped;
since no two ranges share an address, the order decides nothing.  Every access,
also one that fails, takes one cycle, and after it every device sees that cycle
pass.
-/

namespace PolledTerminal

/-- A device and the ports it answers. -/
structure Mapping (δ : Type) where
  name : String
  base : UInt8
  size : UInt8
  device : δ

namespace Mapping

variable {δ : Type}

/-- One past the last port. -/
def limit (m : Mapping δ) : Nat := m.base.toNat + m.size.toNat

/-- The address is one of the ports. -/
def contains (m : Mapping δ) (addr : UInt8) : Bool :=
  m.base.toNat ≤ addr.toNat && addr.toNat < m.limit

/-- Some port lies in the range of `size` ports from `base`. -/
def overlaps (m : Mapping δ) (base size : UInt8) : Bool :=
  base.toNat < m.limit && m.base.toNat < base.toNat + size.toNat

end Mapping

/-- The address space, the cycles spent, and what devices have printed. -/
structure Bus (δ : Type) where
  ram : DataMemory
  mappings : List (Mapping δ) := []
  cycles : Nat := 0
  /-- what devices have printed, newest first -/
  printed : List String := []

namespace Bus

variable {δ : Type}

/-- The text that devices have printed. -/
def printedText (b : Bus δ) : String := String.join b.printed.reverse

/-- The bus after what was printed has been taken away. -/
def clearPrinted (b : Bus δ) : Bus δ := { b with printed := [] }

/-- Data memory alone. -/
def empty (ram : DataMemory) : Bus δ := { ram := ram }

/-- The ports of a range. -/
def portRange (base size : UInt8) : List UInt8 :=
  (List.range size.toNat).map fun i => base + UInt8.ofNat i

section Peripheral

variable [Peripheral δ]

/-! ## Mapping -/

/-- What is in the way of a new range: the end of the address space, then data
memory, then the first device mapped there. -/
def obstacle? (b : Bus δ) (base size : UInt8) : Option String :=
  if 0x100 < base.toNat + size.toNat then some "end of address space"
  else if (portRange base size).any b.ram.contains then some "data memory"
  else (b.mappings.find? fun m => m.overlaps base size).map Mapping.name

/-- Map a device at a base port. -/
def map (b : Bus δ) (name : String) (base : UInt8) (device : δ) : Except Fault (Bus δ) :=
  let size := Peripheral.registerCount device
  match b.obstacle? base size with
  | some other => .error (.conflict ⟨name, other, base, size⟩)
  | none => .ok { b with mappings := b.mappings ++ [⟨name, base, size, device⟩] }

/-! ## Access -/

/-- One cycle passes for every device. -/
def tick (b : Bus δ) : Bus δ :=
  { b with mappings := b.mappings.map fun m => { m with device := Peripheral.tick m.device } }

/-- The end of an access: count the cycle and let it pass. -/
def settle (b : Bus δ) : Bus δ := ({ b with cycles := b.cycles + 1 } : Bus δ).tick

/-- Ask the first device that answers an address. -/
def askFirst {α : Type} (addr : UInt8) (ask : δ → UInt8 → α × δ) :
    List (Mapping δ) → Option (α × List (Mapping δ))
  | [] => none
  | m :: ms =>
    if m.contains addr then
      let (answer, device) := ask m.device (addr - m.base)
      some (answer, { m with device := device } :: ms)
    else (askFirst addr ask ms).map fun r => (r.1, m :: r.2)

/-- What a read finds, before the cycle passes. -/
def fetch (b : Bus δ) (addr : UInt8) : Except Fault UInt8 × Bus δ :=
  match b.ram.read? addr with
  | some value => (.ok value, b)
  | none =>
    match askFirst addr Peripheral.read b.mappings with
    | some (answer, mappings) => (answer, { b with mappings := mappings })
    | none => (.error (.unmapped addr), b)

/-- What a write does, before the cycle passes. -/
def store (b : Bus δ) (addr value : UInt8) : Except Fault Unit × Bus δ :=
  match b.ram.write? addr value with
  | some ram => (.ok (), { b with ram := ram })
  | none =>
    let ask (device : δ) (offset : UInt8) : (Except Fault Unit × String) × δ :=
      let (answer, device, printed) := Peripheral.write device offset value
      ((answer, printed), device)
    match askFirst addr ask b.mappings with
    | some ((answer, printed), mappings) =>
      (answer, { b with mappings := mappings, printed := printed :: b.printed })
    | none => (.error (.unmapped addr), b)

/-- Read an address. -/
def read (addr : UInt8) : Act (Bus δ) UInt8 := .ofStep fun b =>
  let (answer, b) := b.fetch addr
  (answer, b.settle)

/-- Write an address. -/
def write (addr value : UInt8) : Act (Bus δ) Unit := .ofStep fun b =>
  let (answer, b) := b.store addr value
  (answer, b.settle)

/-- The device that answers an address. -/
def deviceAt? (b : Bus δ) (addr : UInt8) : Option δ :=
  (b.mappings.find? fun m => m.contains addr).map Mapping.device

/-- How many polls of a port decide whether it ever becomes ready: memory and
unmapped ports never change by being polled. -/
def patience (b : Bus δ) (port : UInt8) : Nat :=
  match b.deviceAt? port with
  | some device => Peripheral.patience device + 1
  | none => 1

/-! ## Snapshots -/

/-- The devices' snapshots under their names; the last of a name stays. -/
def snapshot (b : Bus δ) : Json :=
  Json.ofMembers (b.mappings.map fun m => (m.name, Peripheral.snapshot m.device))

end Peripheral

/-! ## Displays and keyboards -/

section Terminal

variable [TerminalPeripheral δ]

/-- The first display. -/
def display? (b : Bus δ) : Option Display :=
  b.mappings.findSome? fun m => TerminalPeripheral.display? m.device

/-- The first keyboard. -/
def keyboard? (b : Bus δ) : Option Keyboard :=
  b.mappings.findSome? fun m => TerminalPeripheral.keyboard? m.device

/-- The base port of the first display. -/
def displayBase? (b : Bus δ) : Option UInt8 :=
  (b.mappings.find? fun m => (TerminalPeripheral.display? m.device).isSome).map Mapping.base

/-- The base port of the first keyboard. -/
def keyboardBase? (b : Bus δ) : Option UInt8 :=
  (b.mappings.find? fun m => (TerminalPeripheral.keyboard? m.device).isSome).map Mapping.base

/-- Replace the first device that `change?` has a replacement for. -/
def replaceFirst (change? : δ → Option δ) : List (Mapping δ) → List (Mapping δ)
  | [] => []
  | m :: ms =>
    match change? m.device with
    | some device => { m with device := device } :: ms
    | none => m :: replaceFirst change? ms

/-- Change the first display. -/
def changeDisplay (b : Bus δ) (f : Display → Display) : Bus δ :=
  { b with mappings := replaceFirst (fun device =>
      (TerminalPeripheral.display? device).map (TerminalPeripheral.ofDisplay ∘ f)) b.mappings }

/-- Change the first keyboard. -/
def changeKeyboard (b : Bus δ) (f : Keyboard → Keyboard) : Bus δ :=
  { b with mappings := replaceFirst (fun device =>
      (TerminalPeripheral.keyboard? device).map (TerminalPeripheral.ofKeyboard ∘ f)) b.mappings }

/-- Print what the first display shows from now on, or stop printing it. -/
def setEcho (b : Bus δ) (echo : Bool) : Bus δ :=
  b.changeDisplay fun d => { d with echo := echo }

end Terminal

end Bus

end PolledTerminal
