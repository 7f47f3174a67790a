import PolledTerminal.Yaml.Scalar
set_option autoImplicit false

/-!
# YAML: free values

The value of a node that may be anything.  A tag of the document's own stays on
the value as a name; what asks for a number, a text or a truth value looks
through it.
-/

namespace PolledTerminal.Yaml

/-- A value of any kind. -/
inductive Value where
  | null
  | bool (b : Bool)
  /-- an integer without a minus sign -/
  | natural (n : Nat)
  /-- a minus sign and the number behind it -/
  | negative (n : Nat)
  | real (x : Binary64)
  | text (s : String)
  | sequence (items : List Value)
  | mapping (pairs : List (Value × Value))
  | tagged (name : String) (value : Value)
  deriving Repr, Inhabited

namespace Value

/-! ## What a value says -/

/-- The number, if it is one without a minus sign. -/
def natural? : Value → Option Nat
  | .natural n => some n
  | .negative 0 => some 0
  | .tagged _ v => v.natural?
  | _ => none

/-- The text, if it is one. -/
def text? : Value → Option String
  | .text s => some s
  | .tagged _ v => v.text?
  | _ => none

/-- The truth value, if it is one. -/
def bool? : Value → Option Bool
  | .bool b => some b
  | .tagged _ v => v.bool?
  | _ => none

/-! ## When two values are one key

Numbers are compared as numbers, integers apart from decimals, and not-a-number
is itself.  The order of a mapping's pairs does not matter. -/

mutual

/-- The values are the same key. -/
def same : Value → Value → Bool
  | .null, .null => true
  | .bool a, .bool b => a == b
  | .natural a, .natural b => a == b
  | .natural a, .negative b => a == 0 && b == 0
  | .negative a, .natural b => a == 0 && b == 0
  | .negative a, .negative b => a == b
  | .real a, .real b => a.sameNumber b
  | .text a, .text b => a == b
  | .sequence as, .sequence bs => sameItems as bs
  | .mapping as, .mapping bs => as.length == bs.length && samePairs as bs
  | .tagged a v, .tagged b w => a == b && same v w
  | _, _ => false

/-- The items are the same, one by one. -/
def sameItems : List Value → List Value → Bool
  | [], [] => true
  | a :: as, b :: bs => same a b && sameItems as bs
  | _, _ => false

/-- Every pair is among the others. -/
def samePairs : List (Value × Value) → List (Value × Value) → Bool
  | [], _ => true
  | (k, v) :: as, bs => (bs.any fun b => same k b.1 && same v b.2) && samePairs as bs

end

end Value

end PolledTerminal.Yaml
