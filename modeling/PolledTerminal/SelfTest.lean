import PolledTerminal.Alu
import PolledTerminal.Firmware
set_option autoImplicit false

/-!
# The self-test program

A list of checks on the arithmetic unit, one check an iteration, all on one unit
whose flags go from check to check.  A check that does not come out as expected
sends the program into the error loop, where it stays until it starts over.
-/

namespace PolledTerminal

/-- A question to the arithmetic unit and its expected answer. -/
structure Check where
  /-- the expression that the check evaluates -/
  expr : String
  expect : Bool
  eval : StateM Alu Bool

namespace Check

/-- Evaluate the check and compare with the expected answer. -/
def passes (c : Check) : StateM Alu Bool := do
  return (← c.eval) == c.expect

/-- A comparison of two bytes that must not hold. -/
def refuted (expr : String) (relation : Alu.Comparison → Bool) (a b : UInt8) : Check where
  expr := expr
  expect := false
  eval := do return relation (← Alu.compare a b)

/-- A computation that must give this byte. -/
def computes (expr : String) (value : StateM Alu UInt8) (result : UInt8) : Check where
  expr := expr
  expect := true
  eval := do
    let r ← value
    return (← Alu.compare r result).isEq

open Alu in
/-- The arithmetic checks: unsigned comparisons, the basic operations, and
counting up and down, each on constants and on variables. -/
def arithmetic : List Check := [
  refuted "12U == 13U" Comparison.isEq 12 13,
  refuted "12U > 13U" Comparison.isGt 12 13,
  refuted "12U >= 13U" Comparison.isGe 12 13,
  refuted "13U < 12U" Comparison.isLt 13 12,
  refuted "13U <= 12U" Comparison.isLe 13 12,
  refuted "12U != 12U" Comparison.isNe 12 12,
  computes "12+13 == 25" (add 12 13) 25,
  computes "13-12 == 1" (sub 13 12) 1,
  computes "12<<1 == 24" (shl 12 1) 24,
  computes "12>>1 == 6" (shr 12 1) 6,
  computes "12|13 == 13" (orr 12 13) 13,
  computes "12&13 == 12" (Alu.and 12 13) 12,
  computes "12^13 == 1" (eor 12 13) 1,
  computes "++ii == 13" (inc 12) 13,
  computes "--ii == 12" (do dec (← inc 12)) 12,
  computes "++jj == 14" (inc 13) 14,
  computes "--jj == 13" (do dec (← inc 13)) 13,
  refuted "ii == jj" Comparison.isEq 12 13,
  refuted "ii != ii" Comparison.isNe 12 12,
  refuted "a > b" Comparison.isGt 12 13,
  refuted "a >= b" Comparison.isGe 12 13,
  refuted "b < a" Comparison.isLt 13 12,
  refuted "b <= a" Comparison.isLe 13 12,
  refuted "a != a" Comparison.isNe 12 12]

end Check

/-- The self-test's variables. -/
structure SelfTest where
  checks : Array Check
  /-- the index of the next check -/
  next : Nat := 0
  alu : Alu := {}
  status : Status := .running
  /-- iterations spent in the error loop -/
  errorSpins : Nat := 0

namespace SelfTest

/-- Start over. -/
def reset (t : SelfTest) : SelfTest where
  checks := t.checks
  status := if t.checks.isEmpty then .finished else .running

/-- A self-test of these checks. -/
def withChecks (checks : List Check) : SelfTest := reset { checks := checks.toArray }

/-- The self-test of the arithmetic checks. -/
def new : SelfTest := withChecks Check.arithmetic

/-- How many checks have passed. -/
def passed (t : SelfTest) : Nat :=
  match t.status with
  | .halted check => check
  | _ => t.next

/-- The check that failed. -/
def failedCheck (t : SelfTest) : Option Check :=
  match t.status with
  | .halted check => t.checks[check]?
  | _ => none

/-- Run the next check. -/
def runCheck (t : SelfTest) (c : Check) : SelfTest :=
  let (ok, alu) := c.passes.run t.alu
  if ok then
    { t with
      alu := alu
      next := t.next + 1
      status := if t.next + 1 = t.checks.size then .finished else .running }
  else { t with alu := alu, status := .halted t.next }

/-- One iteration. -/
def advance (t : SelfTest) : SelfTest :=
  match t.status with
  | .halted _ => { t with errorSpins := t.errorSpins + 1 }
  | .finished => t
  | .running =>
    match t.checks[t.next]? with
    | some c => t.runCheck c
    | none => t

/-- The self-test's part of a snapshot. -/
def snapshot (t : SelfTest) : Json := .obj [
  ("error_spins", .nat t.errorSpins),
  ("failed", .opt (fun c => .str c.expr) t.failedCheck),
  ("passed", .nat t.passed),
  ("total", .nat t.checks.size)]

/-- The self-test as a program; it never touches the bus. -/
def firmware {δ : Type} : Firmware SelfTest δ where
  name := "selftest"
  reset := reset
  step := Rig.changeProgram advance
  status := SelfTest.status
  snapshot := snapshot

end SelfTest

end PolledTerminal
