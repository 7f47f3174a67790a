import PolledTerminal.Json
import PolledTerminal.Fault
set_option autoImplicit false

/-!
# The keyboard

A queue of keys between whoever types and the program that polls.  Reading the
data register takes the next key, or gives zero when there is none; zero is
therefore not a key, and typing it does nothing.  The queue is held as a front
and a reversed back; `toList` is the view, next key first.
-/

namespace PolledTerminal

open PolledTerminal.Text (Bytes)

/-- Keys typed and not yet read. -/
structure Keyboard where
  front : Bytes := []
  back : Bytes := []
  /-- nothing more will be typed -/
  closed : Bool := false
  deriving DecidableEq, Repr, Inhabited

namespace Keyboard

/-- The offset of the data register. -/
def dataRegister : UInt8 := 0

/-- The waiting keys, next key first. -/
def toList (k : Keyboard) : Bytes := k.front ++ k.back.reverse

/-- How many keys wait. -/
def pending (k : Keyboard) : Nat := k.front.length + k.back.length

/-- Type one key. -/
def push (k : Keyboard) (key : UInt8) : Keyboard :=
  if key = 0 then k else { k with back := key :: k.back }

/-- Type keys in order. -/
def feed (k : Keyboard) (keys : Bytes) : Keyboard :=
  { k with back := (keys.filter (· ≠ 0)).reverse ++ k.back }

/-- Take the next key. -/
def pop (k : Keyboard) : Option UInt8 × Keyboard :=
  match k.front with
  | key :: rest => (some key, { k with front := rest })
  | [] =>
    match k.back.reverse with
    | [] => (none, k)
    | key :: rest => (some key, { k with front := rest, back := [] })

/-- Nothing more will be typed; waiting keys stay. -/
def close (k : Keyboard) : Keyboard := { k with closed := true }

/-- Closed and nothing left to read. -/
def isDrained (k : Keyboard) : Bool := k.closed && k.front.isEmpty && k.back.isEmpty

/-- Read a register. -/
def read (k : Keyboard) (offset : UInt8) : UInt8 × Keyboard :=
  if offset = dataRegister then
    let (key, k) := k.pop
    (key.getD 0, k)
  else (0, k)

/-- The keyboard's part of a snapshot. -/
def snapshot (k : Keyboard) : Json := .obj [
  ("closed", .bool k.closed),
  ("pending", .nat k.pending)]

/-! ## The view -/

@[simp] theorem length_toList (k : Keyboard) : k.toList.length = k.pending := by
  simp [toList, pending]

@[simp] theorem toList_push (k : Keyboard) (key : UInt8) :
    (k.push key).toList = k.toList ++ (if key = 0 then [] else [key]) := by
  by_cases h : key = 0 <;> simp [push, toList, h]

@[simp] theorem toList_feed (k : Keyboard) (keys : Bytes) :
    (k.feed keys).toList = k.toList ++ keys.filter (· ≠ 0) := by
  simp [feed, toList]

@[simp] theorem toList_close (k : Keyboard) : k.close.toList = k.toList := rfl

/-- Taking the next key takes the head of the view. -/
theorem pop_eq (k : Keyboard) :
    k.pop.1 = k.toList.head? ∧ k.pop.2.toList = k.toList.tail ∧ k.pop.2.closed = k.closed := by
  rcases k with ⟨front, back, closed⟩
  cases front with
  | cons key rest => simp [pop, toList]
  | nil =>
    cases h : back.reverse with
    | nil => simp [pop, toList, h]
    | cons key rest => simp [pop, toList, h]

end Keyboard

end PolledTerminal
