set_option autoImplicit false

/-!
# Explanations

What a program says when it gives up: what it could not do and, where that has
another reason, why.
-/

namespace PolledTerminal

/-- What went wrong, and why if there is more to say. -/
structure Explanation where
  what : String
  why : Option String := none
  deriving DecidableEq, Repr, Inhabited

namespace Explanation

/-- The explanation on one line. -/
def line (e : Explanation) : String :=
  match e.why with
  | none => e.what
  | some why => e.what ++ ": " ++ why

/-- The lines of a text, all but the first behind four spaces. -/
def indented (text : String) : String :=
  String.ofList (text.toList.flatMap fun c => if c = '\n' then "\n    ".toList else [c])

/-- The explanation as the last words of a program. -/
def report (e : Explanation) : String :=
  match e.why with
  | none => "Error: " ++ e.what ++ "\n"
  | some why => "Error: " ++ e.what ++ "\n\nCaused by:\n    " ++ indented why ++ "\n"

end Explanation

end PolledTerminal
