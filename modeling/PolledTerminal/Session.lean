import PolledTerminal.Machine
import PolledTerminal.Terminal
set_option autoImplicit false

/-!
# Interactive sessions

Two parties share the first keyboard of a terminal.  The feeder takes what the
user types, byte by byte, turns it into keys and closes the keyboard at the end.
The loop decides whether to leave and otherwise lets the machine take a step.
The parties take turns in any order, so a session is a state and each turn a
function on it; a turn looks at the keyboard or changes it at most once.

Enter arrives as a line feed, or as a carriage return and a line feed, and is
delivered as one carriage return.
-/

namespace PolledTerminal

open PolledTerminal.Text (Bytes)

/-! ## The feeder -/

/-- The byte that ends a typed line. -/
def lineFeed : UInt8 := 0x0A

/-- What is still to be fed. -/
structure Feeder where
  rest : Bytes
  /-- the last byte taken, as it was typed -/
  previous : UInt8 := 0
  closed : Bool := false
  deriving DecidableEq, Repr, Inhabited

namespace Feeder

/-- The key of a byte that follows another one. -/
def keyAfter (previous byte : UInt8) : Option UInt8 :=
  if byte = lineFeed then
    if previous = carriageReturn then none else some carriageReturn
  else some byte

/-- The keys of typed bytes. -/
def keysAfter (previous : UInt8) : Bytes → Bytes
  | [] => []
  | b :: bs => (keyAfter previous b).toList ++ keysAfter b bs

/-- One turn: take a byte, or close the keyboard when there are no more. -/
def turn (f : Feeder) (k : Keyboard) : Feeder × Keyboard :=
  match f.rest with
  | [] => ({ f with closed := true }, k.close)
  | b :: rest =>
    ({ f with rest := rest, previous := b },
      match keyAfter f.previous b with
      | some key => k.push key
      | none => k)

end Feeder

/-! ## Sessions -/

/-- Why the loop leaves. -/
inductive Departure where
  | stepLimit
  /-- nothing more is typed, and all of it has been acted on -/
  | inputClosed
  | fault (why : Fault)
  deriving DecidableEq, Repr, Inhabited

/-- What the loop does next. -/
inductive LoopState where
  | deciding
  /-- the keyboard was found closed, and whether it is empty is looked at next -/
  | foundClosed
  | stepping
  | left (why : Departure)
  deriving DecidableEq, Repr, Inhabited

/-- The two parties. -/
inductive Party where
  | feeder
  | loop
  deriving DecidableEq, Repr, Inhabited

/-- A session on a machine that runs the terminal. -/
structure Session (δ : Type) where
  machine : Machine Terminal δ
  feeder : Feeder
  loop : LoopState := .deciding

namespace Session

variable {δ : Type} [TerminalPeripheral δ]

/-- The keyboard that the parties share. -/
def keyboard (s : Session δ) : Keyboard := s.machine.bus.keyboard?.getD {}

/-- The loop has left. -/
def isOver (s : Session δ) : Bool :=
  match s.loop with
  | .left _ => true
  | _ => false

/-- The step limit is reached. -/
def atLimit (maxSteps : Option Nat) (s : Session δ) : Bool := maxSteps.any (· ≤ s.machine.steps)

/-- No key waits, and none is left to act on. -/
def isIdle (s : Session δ) : Bool := s.keyboard.pending == 0 && s.machine.program.last == 0

/-- A turn of the feeder. -/
def feederTurn (s : Session δ) : Session δ :=
  if s.feeder.closed then s
  else
    let (feeder, keyboard) := s.feeder.turn s.keyboard
    { s with
      feeder := feeder
      machine := s.machine.changeBus fun bus => bus.changeKeyboard fun _ => keyboard }

/-- A turn of the loop; `none` if the step never ends.  The loop looks at the
keyboard in two turns, so the feeder may type or close in between. -/
def loopTurn (maxSteps : Option Nat) (s : Session δ) : Option (Session δ) :=
  match s.loop with
  | .left _ => some s
  | .deciding =>
    if s.atLimit maxSteps then some { s with loop := .left .stepLimit }
    else if s.keyboard.closed then some { s with loop := .foundClosed }
    else some { s with loop := .stepping }
  | .foundClosed =>
    if s.isIdle then some { s with loop := .left .inputClosed }
    else some { s with loop := .stepping }
  | .stepping =>
    match Machine.step s.machine with
    | none => none
    | some (.ok (), m) => some { s with machine := m, loop := .deciding }
    | some (.error why, m) => some { s with machine := m, loop := .left (.fault why) }

/-- A turn of a party. -/
def turn (maxSteps : Option Nat) (s : Session δ) : Party → Option (Session δ)
  | .feeder => some s.feederTurn
  | .loop => s.loopTurn maxSteps

/-- Turns in the order of a schedule. -/
def follow (maxSteps : Option Nat) : List Party → Session δ → Option (Session δ)
  | [], s => some s
  | p :: ps, s => (s.turn maxSteps p).bind (follow maxSteps ps)

/-- Turns of the loop until it leaves, so many at most. -/
def loopOut (maxSteps : Option Nat) : Nat → Session δ → Option (Session δ)
  | 0, s => if s.isOver then some s else none
  | turns + 1, s => if s.isOver then some s else (s.loopTurn maxSteps).bind (loopOut maxSteps turns)

/-- Turns enough for the loop to act on every waiting key and leave. -/
def turnsLeft (s : Session δ) : Nat := 3 * s.keyboard.pending + 5

/-- The feeder goes first and types everything; then the loop goes on until it
leaves. -/
def converse (maxSteps : Option Nat) (s : Session δ) : Option (Session δ) :=
  let s := (List.range (s.feeder.rest.length + 1)).foldl (fun s _ => s.feederTurn) s
  s.loopOut maxSteps s.turnsLeft

end Session

end PolledTerminal
