set_option autoImplicit false

/-!
# Text: character properties as ranges

A property of characters is a list of closed ranges of code points, ascending
and apart.  Membership is a scan that stops at the first range that ends at or
after the character.
-/

namespace PolledTerminal.Text

/-- Closed ranges of code points, ascending. -/
abbrev Ranges : Type := List (Nat × Nat)

/-- The character lies in one of the ranges. -/
def Ranges.has : Ranges → Nat → Bool
  | [], _ => false
  | (lo, hi) :: rest, n => if n ≤ hi then lo ≤ n else Ranges.has rest n

end PolledTerminal.Text
