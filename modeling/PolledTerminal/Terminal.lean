import PolledTerminal.Firmware
import PolledTerminal.Port
set_option autoImplicit false

/-!
# The terminal program

An echo terminal that polls.  Each iteration first acts on the last character
read — a carriage return clears the screen and prints the prompt, any other
character is shown, and zero stands for no key — and then polls the keyboard
once.  It starts as if a carriage return had been read, so the prompt appears
at once.  The prompt is printed straight out of data memory, up to its zero.
-/

namespace PolledTerminal

open PolledTerminal.Text (Bytes)

/-- The registers the terminal talks to. -/
structure TerminalPorts where
  kdr : UInt8 := 0xFE
  ldr : UInt8 := 0xFD
  lcr : UInt8 := 0xFC
  deriving DecidableEq, Repr, Inhabited

/-- The registers of the first display and the first keyboard. -/
def TerminalPorts.ofBus? {δ : Type} [TerminalPeripheral δ] (bus : Bus δ) : Option TerminalPorts := do
  let display ← bus.displayBase?
  let keyboard ← bus.keyboardBase?
  return {
    kdr := keyboard + Keyboard.dataRegister
    ldr := display + Display.dataRegister
    lcr := display + Display.controlRegister }

/-- What an iteration does with the last character read. -/
inductive Reaction where
  | redraw
  | idle
  | echo (c : UInt8)
  deriving DecidableEq, Repr, Inhabited

/-- The key that asks for a new prompt. -/
def carriageReturn : UInt8 := 0x0D

/-- The reaction to a character. -/
def Reaction.ofLast (last : UInt8) : Reaction :=
  if last = carriageReturn then .redraw
  else if last = 0 then .idle
  else .echo last

/-- The terminal's variables. -/
structure Terminal where
  ports : TerminalPorts
  prompt : Bytes
  promptAddr : UInt8
  /-- the character the next iteration acts on -/
  last : UInt8 := carriageReturn
  redraws : Nat := 0
  echoes : Nat := 0
  deriving DecidableEq, Repr, Inhabited

namespace Terminal

/-- The prompt of a system that names none. -/
def defaultPrompt : String := "# "

/-- A terminal with the default prompt at address zero. -/
def new (ports : TerminalPorts) : Terminal where
  ports := ports
  prompt := Text.Utf8.encode defaultPrompt
  promptAddr := 0

/-- Another prompt; zeros would end it early and are left out. -/
def withPrompt (t : Terminal) (prompt : Bytes) (addr : UInt8) : Terminal :=
  { t with prompt := prompt.filter (· ≠ 0), promptAddr := addr }

variable {δ : Type} [Peripheral δ]

/-- Write one character and tell it. -/
def emit (port value : UInt8) : Act (Rig Terminal δ) Unit := do
  let spins ← Rig.onBus (Bus.writeCharacter port value)
  Rig.record (.output port value spins)

/-- Print the string at an address; `cells` addresses are left up to the top,
and a string that goes beyond them has no end. -/
def printFrom (port start : UInt8) : Nat → UInt8 → Act (Rig Terminal δ) Unit
  | 0, _ => throw (.unterminated start)
  | cells + 1, addr => do
    let c ← Rig.onBus (Bus.read addr)
    unless c = 0 do
      emit port c
      printFrom port start cells (addr + 1)

/-- Print the string at an address. -/
def printString (port start : UInt8) : Act (Rig Terminal δ) Unit :=
  printFrom port start (0x100 - start.toNat) start

/-- Act on the last character. -/
def act (t : Terminal) : Act (Rig Terminal δ) Unit :=
  match Reaction.ofLast t.last with
  | .redraw => do
    emit t.ports.lcr Display.clearScreen
    printString t.ports.ldr t.promptAddr
    Rig.changeProgram fun t => { t with redraws := t.redraws + 1 }
  | .echo c => do
    emit t.ports.ldr c
    Rig.changeProgram fun t => { t with echoes := t.echoes + 1 }
  | .idle => return ()

/-- One iteration: act on the last character, then poll the keyboard. -/
def step : Act (Rig Terminal δ) Unit := do
  let t := (← get).program
  act t
  let key ← Rig.onBus (Bus.pollInput t.ports.kdr)
  Rig.record (.input t.ports.kdr key)
  Rig.changeProgram fun t => { t with last := key.getD 0 }

/-- The terminal's part of a snapshot. -/
def snapshot (t : Terminal) : Json := .obj [
  ("echoes", .nat t.echoes),
  ("last", .byte t.last),
  ("ports", .obj [("kdr", .byte t.ports.kdr), ("lcr", .byte t.ports.lcr), ("ldr", .byte t.ports.ldr)]),
  ("prompt_addr", .byte t.promptAddr),
  ("redraws", .nat t.redraws)]

/-- The terminal as a program; starting over asks for a prompt and keeps the
counters. -/
def firmware : Firmware Terminal δ where
  name := "terminal"
  reset t := { t with last := carriageReturn }
  step := step
  image t := DataImage.addText [] t.promptAddr t.prompt
  snapshot := snapshot

end Terminal

end PolledTerminal
