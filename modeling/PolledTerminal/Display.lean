import PolledTerminal.Scrollback
import PolledTerminal.Json
import PolledTerminal.Fault
set_option autoImplicit false

/-!
# The display

A character display with two registers and a busy flag.  The control register
takes codes, the data register takes characters, and reading either gives the
status.  An accepted write keeps the device busy for `busyCycles` bus cycles,
the cycle of the write included; a write that arrives while it is busy is
dropped and counted as an overrun.
-/

namespace PolledTerminal

open PolledTerminal.Text

/-- A display and what it shows. -/
structure Display where
  busyCycles : UInt32
  /-- bus cycles until the next write is accepted -/
  busyRemaining : UInt32 := 0
  /-- characters since the last clear -/
  screen : Scrollback
  /-- characters since the start -/
  transcript : Scrollback
  clears : Nat := 0
  writes : Nat := 0
  overruns : Nat := 0
  /-- accepted writes are also printed -/
  echo : Bool := false

namespace Display

/-- The offset of the control register. -/
def controlRegister : UInt8 := 0

/-- The offset of the data register. -/
def dataRegister : UInt8 := 1

/-- The control code that empties the screen. -/
def clearScreen : UInt8 := 1

/-- What a clear prints: erase the screen, cursor to the top. -/
def clearSequence : String := "\x1b[2J\x1b[H"

/-- A display that shows nothing; at least one byte is kept. -/
def new (busyCycles : UInt32) (scrollback : Nat) : Display where
  busyCycles := busyCycles
  screen := .empty (max scrollback 1)
  transcript := .empty (max scrollback 1)

/-- The display does not accept a write now. -/
def isBusy (d : Display) : Bool := d.busyRemaining != 0

/-- The status register: one while busy. -/
def status (d : Display) : UInt8 := if d.isBusy then 1 else 0

/-- The characters since the last clear, as text. -/
def screenText (d : Display) : String := Utf8.decodeLossy d.screen.toList

/-- The characters since the start, as text. -/
def transcriptText (d : Display) : String := Utf8.decodeLossy d.transcript.toList

/-- Read a register. -/
def read (d : Display) (offset : UInt8) : UInt8 :=
  if offset = controlRegister || offset = dataRegister then d.status else 0

/-- Act on a control code; what is printed comes second. -/
def control (d : Display) (code : UInt8) : Display × String :=
  if code = clearScreen then
    ({ d with screen := .empty d.screen.limit, clears := d.clears + 1 },
      if d.echo then clearSequence else "")
  else (d, "")

/-- Show a character; what is printed comes second. -/
def character (d : Display) (c : UInt8) : Display × String :=
  ({ d with screen := d.screen.push c, transcript := d.transcript.push c },
    if d.echo then String.ofList [Char.ofNat c.toNat] else "")

/-- Count an accepted write and start being busy. -/
def accept (r : Display × String) : Display × String :=
  ({ r.1 with writes := r.1.writes + 1, busyRemaining := r.1.busyCycles }, r.2)

/-- Write a register; what is printed comes second. -/
def write (d : Display) (offset value : UInt8) : Display × String :=
  if d.isBusy then ({ d with overruns := d.overruns + 1 }, "")
  else if offset = controlRegister then accept (d.control value)
  else if offset = dataRegister then accept (d.character value)
  else (d, "")

/-- One bus cycle passes. -/
def tick (d : Display) : Display :=
  if d.busyRemaining = 0 then d else { d with busyRemaining := d.busyRemaining - 1 }

/-- The display's part of a snapshot. -/
def snapshot (d : Display) : Json := .obj [
  ("busy", .bool d.isBusy),
  ("clears", .nat d.clears),
  ("overruns", .nat d.overruns),
  ("screen", .str d.screenText),
  ("writes", .nat d.writes)]

end Display

end PolledTerminal
