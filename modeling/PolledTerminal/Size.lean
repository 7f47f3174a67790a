import PolledTerminal.Number.Binary64
import PolledTerminal.Text.Blank
import PolledTerminal.Text.Numeric
import PolledTerminal.Text.Utf8
set_option autoImplicit false

/-!
# Sizes as text

A size is a decimal number and a unit, such as `240B` or `1.5 KiB`.  The number
is read as a binary64 and multiplied by the unit, and the whole part of the
product is the size, at most `2 ^ 64 - 1`.

The number is the run of numeric characters and points at the front.  Its length
is counted in characters and then taken in octets, so a numeric character
outside ASCII either leaves a number that cannot be read or is cut in two; the
latter is `cutCharacter`, after which a program cannot go on.
-/

namespace PolledTerminal.Size

open PolledTerminal.Text

/-- Why a text is not a size. -/
inductive Fault where
  | empty
  | noMultiple
  | noValue
  | invalidValue
  | invalidMultiple
  /-- the number ends inside a character -/
  | cutCharacter
  deriving DecidableEq, Repr, Inhabited

/-- The sentence that tells the fault. -/
def Fault.message : Fault → String
  | .empty => "Invalid size format: input is empty"
  | .noMultiple => "Invalid size format: no multiple"
  | .noValue => "Invalid size format: no value"
  | .invalidValue => "Invalid size format: invalid value"
  | .invalidMultiple => "Invalid size format: invalid multiple"
  | .cutCharacter => "Invalid size format: number ends inside a character"

/-- The greatest size. -/
def greatest : Nat := Nat.pow 2 64 - 1

/-- The units in lower case and their factors.  The factor of `yb` is the
binary64 next to `10 ^ 24`; all others are exact. -/
def units : List (String × Nat) := [
  ("b", 1),
  ("kb", Nat.pow 10 3), ("mb", Nat.pow 10 6), ("gb", Nat.pow 10 9), ("tb", Nat.pow 10 12),
  ("pb", Nat.pow 10 15), ("eb", Nat.pow 10 18), ("zb", Nat.pow 10 21),
  ("yb", 999999999999999983222784),
  ("kib", Nat.pow 2 10), ("mib", Nat.pow 2 20), ("gib", Nat.pow 2 30), ("tib", Nat.pow 2 40),
  ("pib", Nat.pow 2 50), ("eib", Nat.pow 2 60), ("zib", Nat.pow 2 70), ("yib", Nat.pow 2 80)]

/-- A lower-case ASCII letter for an upper-case one. -/
def lower (c : Char) : Char :=
  if 'A' ≤ c && c ≤ 'Z' then Char.ofNat (c.toNat + 0x20) else c

/-- The factor of a unit.  Case does not matter, except that `KB` is binary. -/
def factor? (cs : List Char) : Option Nat :=
  if cs = ['K', 'B'] then some 1024
  else
    let name := String.ofList (cs.map lower)
    (units.find? fun u => u.1 = name).map Prod.snd

/-- A character of the number. -/
def isNumberChar (c : Char) : Bool := Numeric.isNumeric c || c == '.'

/-- Split after so many octets, if that is between two characters. -/
def splitOctets? : List Char → Nat → Option (List Char × List Char)
  | cs, 0 => some ([], cs)
  | [], _ + 1 => none
  | c :: cs, n + 1 =>
    let width := (Utf8.encodeChar c).length
    if n + 1 < width then none
    else (splitOctets? cs (n + 1 - width)).map fun r => (c :: r.1, r.2)

/-- The number of bytes that a text names. -/
def parse (text : String) : Except Fault Nat := do
  let cs := Blank.trim text.toList
  if cs.isEmpty then throw .empty
  let count := (cs.takeWhile isNumberChar).length
  if count = cs.length then throw .noMultiple
  if count = 0 then throw .noValue
  let some (number, rest) := splitOctets? cs count | throw .cutCharacter
  let some value := Binary64.ofNumeral? false number | throw .invalidValue
  let some factor := factor? (Blank.trim rest) | throw .invalidMultiple
  unless value.isFinite do throw .invalidValue
  return (value.scale factor).truncateTo greatest

end PolledTerminal.Size
