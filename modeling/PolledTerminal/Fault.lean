import PolledTerminal.Text.Utf8
set_option autoImplicit false

/-!
# Faults and stop reasons

A fault is what an access to the address space, or the loading of memory, can
run into.  A stop reason is why a run ended; every fault ends a run with one of
them.
-/

namespace PolledTerminal

open PolledTerminal.Text

/-- Why a run ended. -/
inductive StopReason where
  | maxSteps
  | wallTime
  | portViolation
  /-- a string or data segment ran outside data memory -/
  | memoryFault
  | errorHalt
  | finished
  deriving DecidableEq, Repr, Inhabited

namespace StopReason

/-- Every stop reason, in order. -/
def all : List StopReason :=
  [.maxSteps, .wallTime, .portViolation, .memoryFault, .errorHalt, .finished]

/-- The name in documents. -/
def key : StopReason → String
  | .maxSteps => "max_steps"
  | .wallTime => "wall_time"
  | .portViolation => "port_violation"
  | .memoryFault => "memory_fault"
  | .errorHalt => "error_halt"
  | .finished => "finished"

/-- The name in reports and messages. -/
def label : StopReason → String
  | .maxSteps => "MaxSteps"
  | .wallTime => "WallTime"
  | .portViolation => "PortViolation"
  | .memoryFault => "MemoryFault"
  | .errorHalt => "ErrorHalt"
  | .finished => "Finished"

/-- The stop reason of a document name. -/
def ofKey? (s : String) : Option StopReason := all.find? fun r => r.key = s

/-- The program went wrong, as opposed to ending or running out of time. -/
def isAbnormal : StopReason → Bool
  | .portViolation | .memoryFault | .errorHalt => true
  | _ => false

end StopReason

/-- A range of ports that cannot be mapped, and what is in its way. -/
structure Conflict where
  name : String
  other : String
  base : UInt8
  size : UInt8
  deriving DecidableEq, Repr, Inhabited

/-- What went wrong on the bus or in data memory. -/
inductive Fault where
  /-- nothing answers at this address -/
  | unmapped (addr : UInt8)
  /-- a port range that is already taken -/
  | conflict (c : Conflict)
  /-- the string from this address has no terminator -/
  | unterminated (addr : UInt8)
  /-- a segment that does not lie inside data memory -/
  | outOfRange (addr : UInt8) (len : Nat)
  deriving DecidableEq, Repr, Inhabited

namespace Fault

/-- The sentence that tells the fault. -/
def message : Fault → String
  | .unmapped addr => "Unmapped port access at " ++ Hex.address addr
  | .conflict c =>
    "Port range " ++ Hex.address c.base ++ "+" ++ toString c.size.toNat ++ " of '" ++ c.name
      ++ "' overlaps '" ++ c.other ++ "'"
  | .unterminated addr => "String at " ++ Hex.address addr ++ " runs off the end of data memory"
  | .outOfRange addr len =>
    "Data segment at " ++ Hex.address addr ++ " (" ++ toString len
      ++ " bytes) does not fit data memory"

/-- How a run that meets the fault ends. -/
def stopReason : Fault → StopReason
  | .unmapped _ | .conflict _ => .portViolation
  | .unterminated _ | .outOfRange _ _ => .memoryFault

end Fault

end PolledTerminal
