import PolledTerminal.Board
import PolledTerminal.Bus
import PolledTerminal.Explanation
import PolledTerminal.Size
set_option autoImplicit false

/-!
# Assembling a bus from a board

A described board becomes a bus with zeroed data memory and one device for each
description whose kind is known, in the order of the board.  Descriptions of
other kinds are passed over.
-/

namespace PolledTerminal

/-- Why a board cannot be assembled. -/
inductive BoardFault where
  | ramSize (board : String) (why : Size.Fault)
  /-- the end of data memory is beyond 64 bits -/
  | ramEndOverflow
  | ramTooLarge (base : UInt8) (size : Nat)
  /-- a busy time beyond 32 bits -/
  | busyTime (id : String)
  | scrollback (id : String) (why : Size.Fault)
  | emptyScrollback (id : String)
  | bus (fault : Fault)
  deriving DecidableEq, Repr, Inhabited

/-- What the fault is. -/
def BoardFault.explain : BoardFault → Explanation
  | .ramSize board why => ⟨"Invalid RAM size for board '" ++ board ++ "'", why.message⟩
  | .ramEndOverflow => ⟨"The end of RAM is out of range", none⟩
  | .ramTooLarge base size =>
    ⟨"RAM " ++ Text.Hex.address base ++ "+" ++ toString size
      ++ " does not fit the 8-bit address space", none⟩
  | .busyTime id =>
    ⟨"busy_cycles of '" ++ id ++ "' is out of range", some "number too large to fit in target type"⟩
  | .scrollback id why => ⟨"Invalid scrollback for '" ++ id ++ "'", why.message⟩
  | .emptyScrollback id => ⟨"Scrollback of '" ++ id ++ "' must be at least one byte", none⟩
  | .bus fault => ⟨fault.message, none⟩

/-- The program breaks down instead of explaining the fault. -/
def BoardFault.breaksDown : BoardFault → Bool
  | .ramSize _ .cutCharacter | .scrollback _ .cutCharacter | .ramEndOverflow => true
  | _ => false

namespace Board

/-- The busy time of a display that names none. -/
def defaultBusyCycles : Nat := 4

/-- The scrollback of a display that names none. -/
def defaultScrollback : Nat := 4096

/-- The scrollback that a display asks for. -/
def scrollbackOf (d : DeviceSpec) : Except BoardFault Nat := do
  let size ← match d.text? "scrollback" with
    | some text => (Size.parse text).mapError (.scrollback d.id)
    | none => .ok defaultScrollback
  if size = 0 then throw (.emptyScrollback d.id)
  return size

/-- The display of a description. -/
def displayOf (d : DeviceSpec) : Except BoardFault Display := do
  let busy := (d.natural? "busy_cycles").getD defaultBusyCycles
  if Nat.pow 2 32 ≤ busy then throw (.busyTime d.id)
  let scrollback ← scrollbackOf d
  let display := Display.new (UInt32.ofNat busy) scrollback
  return { display with echo := (d.bool? "echo_stdout").getD display.echo }

/-- Data memory as the board describes it. -/
def memoryOf (b : Board) : Except BoardFault DataMemory := do
  let size ← (Size.parse b.ram.size).mapError (.ramSize b.name)
  if Nat.pow 2 64 ≤ b.ram.base.toNat + size then throw .ramEndOverflow
  if 0x100 < b.ram.base.toNat + size then throw (.ramTooLarge b.ram.base size)
  return .zeroed size b.ram.base

variable {δ : Type} [TerminalPeripheral δ]

/-- The device of a description, if its kind is known. -/
def deviceOf (d : DeviceSpec) : Except BoardFault (Option δ) :=
  if d.kind = "keyboard" then .ok (some (TerminalPeripheral.ofKeyboard {}))
  else if d.kind = "display" then
    (displayOf d).map fun display => some (TerminalPeripheral.ofDisplay display)
  else .ok none

/-- Map the devices of descriptions in order. -/
def mapAll (bus : Bus δ) : List DeviceSpec → Except BoardFault (Bus δ)
  | [] => .ok bus
  | d :: ds => do
    match ← deviceOf (δ := δ) d with
    | none => mapAll bus ds
    | some device =>
      let bus ← (bus.map d.id d.basePort device).mapError .bus
      mapAll bus ds

/-- The bus of a board. -/
def assemble (b : Board) : Except BoardFault (Bus δ) := do
  let ram ← b.memoryOf
  mapAll (.empty ram) b.devices

end Board

end PolledTerminal
