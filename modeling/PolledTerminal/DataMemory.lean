import PolledTerminal.Text.Utf8
set_option autoImplicit false

/-!
# Data memory

A run of byte cells from a base address, and the images it is initialised with.
An image is a list of segments; a segment is loaded whole or not at all.
-/

namespace PolledTerminal

open PolledTerminal.Text (Bytes)

/-- Bytes that belong at an address. -/
structure Segment where
  addr : UInt8
  bytes : Bytes
  deriving DecidableEq, Repr, Inhabited

/-- The initial contents of data memory, in loading order. -/
abbrev DataImage : Type := List Segment

namespace DataImage

/-- Append a segment. -/
def addSegment (image : DataImage) (addr : UInt8) (bytes : Bytes) : DataImage :=
  image ++ [⟨addr, bytes⟩]

/-- Append a text and the zero that terminates it. -/
def addText (image : DataImage) (addr : UInt8) (text : Bytes) : DataImage :=
  image.addSegment addr (text ++ [0])

end DataImage

/-- Byte cells from a base address. -/
structure DataMemory where
  base : UInt8
  cells : Array UInt8
  deriving DecidableEq, Repr, Inhabited

namespace DataMemory

/-- Zeroed memory. -/
def zeroed (size : Nat) (base : UInt8) : DataMemory := ⟨base, Array.replicate size 0⟩

/-- One past the last address; more than 255 when memory reaches the top. -/
def limit (m : DataMemory) : Nat := m.base.toNat + m.cells.size

/-- The address is backed by a cell. -/
def contains (m : DataMemory) (addr : UInt8) : Bool :=
  m.base.toNat ≤ addr.toNat && addr.toNat < m.limit

/-- The byte at an address, if there is a cell. -/
def read? (m : DataMemory) (addr : UInt8) : Option UInt8 :=
  if m.contains addr then m.cells[addr.toNat - m.base.toNat]? else none

/-- Store a byte, if there is a cell. -/
def write? (m : DataMemory) (addr value : UInt8) : Option DataMemory :=
  if m.contains addr then
    some { m with cells := m.cells.setIfInBounds (addr.toNat - m.base.toNat) value }
  else none

/-- Store bytes in consecutive cells. -/
def storeAt (cells : Array UInt8) (offset : Nat) : Bytes → Array UInt8
  | [] => cells
  | b :: bs => storeAt (cells.setIfInBounds offset b) (offset + 1) bs

/-- Load a segment that lies inside memory. -/
def load? (m : DataMemory) (s : Segment) : Option DataMemory :=
  if m.base.toNat ≤ s.addr.toNat ∧ s.addr.toNat + s.bytes.length ≤ m.limit then
    some { m with cells := storeAt m.cells (s.addr.toNat - m.base.toNat) s.bytes }
  else none

end DataMemory

end PolledTerminal
