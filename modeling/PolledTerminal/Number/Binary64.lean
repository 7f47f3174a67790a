set_option autoImplicit false

/-!
# Number: binary64

Sizes and settings may be written as decimal fractions, and they are held as
binary64 numbers, the interchange format with 53 significant bits.  A finite
number is kept as the integer significand and the power of two that it stands
for, so every operation here is exact integer arithmetic followed by one
rounding, to nearest, a tie to the even significand.
-/

namespace PolledTerminal

/-- A binary64 number; `finite` stands for `±significand · 2 ^ exponent`. -/
inductive Binary64 where
  | nan
  | infinite (negative : Bool)
  | finite (negative : Bool) (significand : Nat) (exponent : Int)
  deriving DecidableEq, Repr, Inhabited

namespace Binary64

/-- The exponent of the smallest numbers. -/
def minExponent : Int := -1074

/-- The exponent of the largest numbers. -/
def maxExponent : Int := 971

/-- The ratio `num / den` in units of `2 ^ e`, as a ratio again. -/
def inUnits (num den : Nat) (e : Int) : Nat × Nat :=
  if 0 ≤ e then (num, den * Nat.pow 2 e.toNat) else (num * Nat.pow 2 (-e).toNat, den)

/-- The nearest integer to `num / den`, a tie to the even one. -/
def roundHalfEven (num den : Nat) : Nat :=
  let q := num / den
  let r := num % den
  if 2 * r < den then q
  else if den < 2 * r then q + 1
  else if q % 2 = 0 then q else q + 1

/-- The exponent at which `num / den` has 53 significant bits, or as many as the
smallest exponent leaves. -/
def exponentOf (num den : Nat) : Int :=
  let e := max ((num.log2 : Int) - den.log2 - 53) minExponent
  let (n, d) := inUnits num den e
  if Nat.pow 2 53 ≤ n / d then e + 1 else e

/-- The binary64 number nearest to `±num / den`, for a positive `den`. -/
def ofRatio (negative : Bool) (num den : Nat) : Binary64 :=
  if num = 0 then .finite negative 0 minExponent
  else
    let e := exponentOf num den
    let (n, d) := inUnits num den e
    let m := roundHalfEven n d
    let (m, e) := if m = Nat.pow 2 53 then (Nat.pow 2 52, e + 1) else (m, e)
    if maxExponent < e then .infinite negative else .finite negative m e

/-- The binary64 number nearest to `±digits · 10 ^ power`.  Powers far outside
the range of the format are settled before they are raised. -/
def ofDecimal (negative : Bool) (digits : Nat) (power : Int) : Binary64 :=
  if digits = 0 then .finite negative 0 minExponent
  else if 310 < power then .infinite negative
  else if power + ((digits.log2 / 3 + 1 : Nat) : Int) < -330 then .finite negative 0 minExponent
  else if 0 ≤ power then ofRatio negative (digits * Nat.pow 10 power.toNat) 1
  else ofRatio negative digits (Nat.pow 10 (-power).toNat)

/-- The number is neither infinite nor a NaN. -/
def isFinite : Binary64 → Bool
  | .finite _ _ _ => true
  | _ => false

/-- The number times a power of ten or two given as an integer, rounded. -/
def scale (x : Binary64) (factor : Nat) : Binary64 :=
  match x with
  | .finite negative m e =>
    if 0 ≤ e then ofRatio negative (m * Nat.pow 2 e.toNat * factor) 1
    else ofRatio negative (m * factor) (Nat.pow 2 (-e).toNat)
  | x => x

/-- The whole part, at least zero and at most `bound`. -/
def truncateTo (bound : Nat) : Binary64 → Nat
  | .nan => 0
  | .infinite negative => if negative then 0 else bound
  | .finite negative m e =>
    if negative then 0
    else if 0 ≤ e then min bound (m * Nat.pow 2 e.toNat)
    else min bound (m / Nat.pow 2 (-e).toNat)

/-- Equality as numbers: the two zeros are equal, and here a NaN equals a NaN. -/
def sameNumber : Binary64 → Binary64 → Bool
  | .finite n₁ m₁ e₁, .finite n₂ m₂ e₂ =>
    (m₁ == 0 && m₂ == 0) || (n₁ == n₂ && m₁ == m₂ && e₁ == e₂)
  | x, y => x == y

/-! ## Reading decimal text -/

/-- The digit's value. -/
def digit? (c : Char) : Option Nat :=
  if '0' ≤ c && c ≤ '9' then some (c.toNat - 0x30) else none

/-- The leading digits: their number, how many they are, and the rest. -/
def leadingDigits : List Char → Nat → Nat → Nat × Nat × List Char
  | [], value, count => (value, count, [])
  | c :: cs, value, count =>
    match digit? c with
    | some d => leadingDigits cs (value * 10 + d) (count + 1)
    | none => (value, count, c :: cs)

/-- The exponent part: nothing, or `e` with an optional sign and digits. -/
def exponentPart? : List Char → Option Int
  | [] => some 0
  | c :: cs =>
    if c = 'e' || c = 'E' then
      let (negative, cs) := match cs with
        | '-' :: cs => (true, cs)
        | '+' :: cs => (false, cs)
        | cs => (false, cs)
      match leadingDigits cs 0 0 with
      | (value, count, []) =>
        if count = 0 then none else some (if negative then -(value : Int) else value)
      | _ => none
    else none

/-- A decimal numeral without a sign: digits with an optional point, at least
one digit, and an optional exponent. -/
def ofNumeral? (negative : Bool) (cs : List Char) : Option Binary64 :=
  let (whole, wholeCount, rest) := leadingDigits cs 0 0
  let (digits, places, rest) := match rest with
    | '.' :: rest =>
      let (all, count, rest) := leadingDigits rest whole 0
      (all, count, rest)
    | rest => (whole, 0, rest)
  if wholeCount + places = 0 then none
  else (exponentPart? rest).map fun e => ofDecimal negative digits (e - places)

/-- A decimal numeral with an optional sign. -/
def ofText? : List Char → Option Binary64
  | '-' :: cs => ofNumeral? true cs
  | '+' :: cs => ofNumeral? false cs
  | cs => ofNumeral? false cs

end Binary64

end PolledTerminal
