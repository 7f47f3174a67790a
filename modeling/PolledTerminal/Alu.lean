set_option autoImplicit false

/-!
# The arithmetic unit

Eight bits wide: every operation wraps modulo 256 and latches two flags, as the
hardware does.  An operation first computes an intermediate result of nine bits;
`latch` keeps its low eight and reads the flags off all nine.
-/

namespace PolledTerminal

/-- The two flags an operation leaves behind. -/
structure Alu where
  zero : Bool := false
  carry : Bool := false
  deriving DecidableEq, Repr, Inhabited

namespace Alu

/-- The flags as bits: zero is the lowest, carry the next. -/
def flagBits (alu : Alu) : Nat := (if alu.zero then 1 else 0) + (if alu.carry then 2 else 0)

/-- Latch the flags from a nine-bit result and keep its low eight bits. -/
def latch (res : Nat) : StateM Alu UInt8 := do
  set ({ zero := res % 256 == 0, carry := res / 256 % 2 == 1 } : Alu)
  return UInt8.ofNat res

/-- The sum; carry when it reaches 256. -/
def add (a b : UInt8) : StateM Alu UInt8 := latch (a.toNat + b.toNat)

/-- The difference, as `a + (256 - b)`; carry means no borrow. -/
def sub (a b : UInt8) : StateM Alu UInt8 := latch (a.toNat + (256 - b.toNat))

/-- Shift one bit a time, `count` times. -/
def repeatShift (shift : Nat → Nat) : Nat → UInt8 → StateM Alu UInt8
  | 0, a => return a
  | count + 1, a => do
    let a ← latch (shift a.toNat)
    repeatShift shift count a

/-- Left shift; a count of zero only latches the operand. -/
def shl (a count : UInt8) : StateM Alu UInt8 := do
  let a ← latch a.toNat
  repeatShift (· * 2) count.toNat a

/-- Right shift; a count of zero only latches the operand. -/
def shr (a count : UInt8) : StateM Alu UInt8 := do
  let a ← latch a.toNat
  repeatShift (· / 2) count.toNat a

/-- Bitwise and. -/
def and (a b : UInt8) : StateM Alu UInt8 := latch (a &&& b).toNat

/-- Bitwise or. -/
def orr (a b : UInt8) : StateM Alu UInt8 := latch (a ||| b).toNat

/-- Bitwise exclusive or. -/
def eor (a b : UInt8) : StateM Alu UInt8 := latch (a ^^^ b).toNat

/-- One more. -/
def inc (a : UInt8) : StateM Alu UInt8 := add a 1

/-- One less. -/
def dec (a : UInt8) : StateM Alu UInt8 := sub a 1

/-! ## Comparison -/

/-- The unsigned relation of two operands, read from the flags of their
difference. -/
structure Comparison where
  flags : Alu
  deriving DecidableEq, Repr, Inhabited

namespace Comparison

/-- Equal: the difference is zero. -/
def isEq (c : Comparison) : Bool := c.flags.zero
/-- Not equal. -/
def isNe (c : Comparison) : Bool := !c.isEq
/-- Less: there was a borrow. -/
def isLt (c : Comparison) : Bool := !c.flags.carry
/-- At least. -/
def isGe (c : Comparison) : Bool := !c.isLt
/-- Greater. -/
def isGt (c : Comparison) : Bool := c.isGe && c.isNe
/-- At most. -/
def isLe (c : Comparison) : Bool := c.isLt || c.isEq

end Comparison

/-- Compare by subtracting and looking at the flags. -/
def compare (a b : UInt8) : StateM Alu Comparison := do
  let _ ← sub a b
  return ⟨← get⟩

end Alu

end PolledTerminal
