import PolledTerminal.Number.Binary64
set_option autoImplicit false

/-!
# Number: the shortest decimal that reads back

A finite binary64 number is written with the fewest digits that still read back
as it, and among those with the nearest.  A decimal reads back exactly if it
lies in the interval that rounds to the number, so for one, two, … seventeen
digits the two neighbours on that decimal grid are tested in integer arithmetic.
-/

namespace PolledTerminal

/-- A positive decimal, `digits · 10 ^ power`. -/
structure Decimal where
  digits : Nat
  power : Int
  deriving DecidableEq, Repr, Inhabited

namespace Decimal

/-- The decimal as a ratio of integers. -/
def ratio (d : Decimal) : Nat × Nat :=
  if 0 ≤ d.power then (d.digits * Nat.pow 10 d.power.toNat, 1)
  else (d.digits, Nat.pow 10 (-d.power).toNat)

/-- The decimal without zeros at its end. -/
def trimZeros : Nat → Decimal → Decimal
  | 0, d => d
  | fuel + 1, d =>
    if d.digits ≠ 0 ∧ d.digits % 10 = 0 then trimZeros fuel ⟨d.digits / 10, d.power + 1⟩ else d

end Decimal

namespace Binary64

/-- The greatest `k` with `10 ^ k ≤ num / den`, searched around an estimate. -/
def log10Floor (num den : Nat) : Int :=
  let guess := ((num.log2 : Int) - den.log2) * 30103 / 100000 - 1
  let fits (k : Int) : Bool :=
    if 0 ≤ k then Nat.pow 10 k.toNat * den ≤ num else den ≤ num * Nat.pow 10 (-k).toNat
  if fits (guess + 3) then guess + 3
  else if fits (guess + 2) then guess + 2
  else if fits (guess + 1) then guess + 1
  else guess

/-- `a.1 / a.2` compared with `b.1 / b.2`. -/
def compareRatio (a b : Nat × Nat) : Ordering := compare (a.1 * b.2) (b.1 * a.2)

/-- The decimals that read back as `m · 2 ^ e`: bounds of the interval in
quarters of the unit, and whether the bounds themselves read back. -/
structure Reading where
  low : Nat × Nat
  high : Nat × Nat
  closed : Bool

/-- The interval of `m · 2 ^ e`, narrower below where a power of two starts. -/
def reading (m : Nat) (e : Int) : Reading :=
  let unit (q : Nat) : Nat × Nat :=
    if 2 ≤ e then (q * Nat.pow 2 (e - 2).toNat, 1) else (q, Nat.pow 2 (2 - e).toNat)
  let step := if m = Nat.pow 2 52 ∧ minExponent < e then 1 else 2
  ⟨unit (4 * m - step), unit (4 * m + 2), m % 2 = 0⟩

/-- The decimal lies in the interval. -/
def Reading.has (r : Reading) (d : Decimal) : Bool :=
  match compareRatio r.low d.ratio, compareRatio d.ratio r.high with
  | .lt, .lt => true
  | .eq, .lt => r.closed
  | .lt, .eq => r.closed
  | _, _ => false

/-- The nearest decimal of `count` digits that reads back, if there is one. -/
def withDigits? (r : Reading) (num den : Nat) (top : Int) (count : Nat) : Option Decimal :=
  let power := top + 1 - count
  let (n, d) := if 0 ≤ power then (num, den * Nat.pow 10 power.toNat)
    else (num * Nat.pow 10 (-power).toNat, den)
  let below : Decimal := ⟨n / d, power⟩
  let above : Decimal := ⟨n / d + 1, power⟩
  let nearer : Decimal := ⟨roundHalfEven n d, power⟩
  let other := if nearer = below then above else below
  if r.has nearer then some nearer
  else if r.has other then some other
  else none

/-- The shortest decimal that reads back as `m · 2 ^ e`, for a positive `m`. -/
def shortest (m : Nat) (e : Int) : Decimal :=
  let (num, den) := if 0 ≤ e then (m * Nat.pow 2 e.toNat, 1) else (m, Nat.pow 2 (-e).toNat)
  let r := reading m e
  let top := log10Floor num den
  let found := (List.range 17).findSome? fun i => withDigits? r num den top (i + 1)
  (found.getD ⟨num / den, 0⟩).trimZeros 20

/-! ## Written forms -/

/-- Zeros and digits around the point, without an exponent. -/
def positional (d : Decimal) : String :=
  let ds := Nat.toDigits 10 d.digits
  let point := (ds.length : Int) + d.power
  if 0 ≤ d.power then
    String.ofList (ds ++ List.replicate d.power.toNat '0') ++ ".0"
  else if 0 < point then
    String.ofList (ds.take point.toNat) ++ "." ++ String.ofList (ds.drop point.toNat)
  else "0." ++ String.ofList (List.replicate (-point).toNat '0' ++ ds)

/-- One digit before the point, and a power of ten. -/
def scientific (d : Decimal) : String :=
  let ds := Nat.toDigits 10 d.digits
  let power := (ds.length : Int) + d.power - 1
  match ds with
  | [c] => String.ofList [c] ++ "e" ++ toString power
  | c :: cs => String.ofList (c :: '.' :: cs) ++ "e" ++ toString power
  | [] => "0.0"

/-- Numbers as documents show them: positional from `1e-5` below `1e16`. -/
def documentText : Binary64 → String
  | .nan => ".nan"
  | .infinite negative => if negative then "-.inf" else ".inf"
  | .finite negative m e =>
    let sign := if negative then "-" else ""
    if m = 0 then sign ++ "0.0"
    else
      let d := shortest m e
      let point := ((Nat.toDigits 10 d.digits).length : Int) + d.power
      if -5 < point ∧ point ≤ 16 then sign ++ positional d else sign ++ scientific d

/-- Numbers as messages show them: always positional, always with a point. -/
def messageText : Binary64 → String
  | .nan => "NaN"
  | .infinite negative => if negative then "-inf" else "inf"
  | .finite negative m e =>
    let sign := if negative then "-" else ""
    if m = 0 then sign ++ "0.0" else sign ++ positional (shortest m e)

end Binary64

end PolledTerminal
