import Mathlib.Algebra.GroupWithZero.Nat
import Mathlib.Tactic.SplitIfs
import PolledTerminal.Size
set_option autoImplicit false

/-!
# Sizes near the greatest

A size is the whole part of a binary64 product, cut off at the greatest size.  A
binary64 has 53 significant bits, so just below the greatest size there is none: a size
is the greatest one or lower by some thousands of bytes.
-/

namespace PolledTerminal

/-! ## Significant bits -/

namespace Binary64

/-- A finite number has at most 53 significant bits. -/
def IsNarrow : Binary64 → Prop
  | .finite _ significand _ => significand < 2 ^ 53
  | _ => True

theorem roundHalfEven_le {num den bound : Nat} (h : num / den < bound) :
    roundHalfEven num den ≤ bound := by
  unfold roundHalfEven
  dsimp only
  split_ifs <;> omega

/-- In large enough units the ratio is small, by the lengths of its two sides. -/
theorem inUnits_div_lt {num den k : Nat} {e : Int} (hden : 0 < den)
    (h : (num.log2 : Int) + 1 ≤ k + den.log2 + e) :
    (inUnits num den e).1 / (inUnits num den e).2 < 2 ^ k := by
  have hnum : num < 2 ^ (num.log2 + 1) := Nat.lt_log2_self
  have hlow : 2 ^ den.log2 ≤ den := Nat.log2_self_le (Nat.ne_of_gt hden)
  unfold inUnits
  split
  case isTrue he =>
    refine Nat.div_lt_of_lt_mul (Nat.lt_of_lt_of_le hnum ?_)
    calc 2 ^ (num.log2 + 1) ≤ 2 ^ (den.log2 + e.toNat + k) :=
          Nat.pow_le_pow_right (by decide) (by omega)
      _ = 2 ^ den.log2 * 2 ^ e.toNat * 2 ^ k := by rw [Nat.pow_add, Nat.pow_add]
      _ ≤ den * Nat.pow 2 e.toNat * 2 ^ k :=
          Nat.mul_le_mul_right _ (Nat.mul_le_mul_right _ hlow)
  case isFalse he =>
    refine Nat.div_lt_of_lt_mul ?_
    calc num * Nat.pow 2 (-e).toNat < 2 ^ (num.log2 + 1) * 2 ^ (-e).toNat :=
          Nat.mul_lt_mul_of_pos_right hnum (Nat.two_pow_pos _)
      _ = 2 ^ (num.log2 + 1 + (-e).toNat) := (Nat.pow_add ..).symm
      _ ≤ 2 ^ (den.log2 + k) := Nat.pow_le_pow_right (by decide) (by omega)
      _ = 2 ^ den.log2 * 2 ^ k := Nat.pow_add ..
      _ ≤ den * 2 ^ k := Nat.mul_le_mul_right _ hlow

/-- At its exponent a ratio has at most 53 significant bits before it is rounded. -/
theorem inUnits_exponentOf_div_lt {num den : Nat} (hden : 0 < den) :
    (inUnits num den (exponentOf num den)).1 / (inUnits num den (exponentOf num den)).2 <
      2 ^ 53 := by
  unfold exponentOf
  dsimp only
  split
  case isTrue =>
    refine inUnits_div_lt hden ?_
    have hmax := Int.le_max_left ((num.log2 : Int) - den.log2 - 53) minExponent
    push_cast
    omega
  case isFalse hlow => exact Nat.lt_of_not_le hlow

theorem isNarrow_ofRatio (negative : Bool) (num : Nat) {den : Nat} (hden : 0 < den) :
    (ofRatio negative num den).IsNarrow := by
  have hround := roundHalfEven_le (@inUnits_exponentOf_div_lt num den hden)
  unfold ofRatio
  dsimp only
  -- a significand that rounds up to the next power of two is halved
  by_cases hcarry : roundHalfEven (inUnits num den (exponentOf num den)).1
      (inUnits num den (exponentOf num den)).2 = Nat.pow 2 53
  · rw [if_pos hcarry]
    split_ifs
    · exact Nat.two_pow_pos 53
    · trivial
    · exact Nat.pow_lt_pow_right (by decide) (by decide)
  · rw [if_neg hcarry]
    split_ifs
    · exact Nat.two_pow_pos 53
    · trivial
    · exact Nat.lt_of_le_of_ne hround hcarry

theorem isNarrow_scale {x : Binary64} (hx : x.isFinite = true) (factor : Nat) :
    (x.scale factor).IsNarrow := by
  cases x with
  | nan => cases hx
  | infinite => cases hx
  | finite negative m e =>
      unfold scale
      dsimp only
      split
      · exact isNarrow_ofRatio _ _ Nat.one_pos
      · exact isNarrow_ofRatio _ _ (Nat.two_pow_pos _)

/-- Fifty-three bits leave a gap below the greatest word. -/
theorem truncateTo_eq_or_le {x : Binary64} (hx : x.IsNarrow) :
    x.truncateTo (2 ^ 64 - 1) = 2 ^ 64 - 1 ∨ x.truncateTo (2 ^ 64 - 1) + 2 ^ 11 ≤ 2 ^ 64 := by
  cases x with
  | nan => exact .inr (by decide)
  | infinite negative => cases negative <;> simp [truncateTo]
  | finite negative m e =>
      have hm : m < 2 ^ 53 := hx
      unfold truncateTo
      dsimp only
      split_ifs with hnegative he
      · exact .inr (by decide)
      · show min _ (m * 2 ^ e.toNat) = _ ∨ min _ (m * 2 ^ e.toNat) + _ ≤ _
        by_cases hlarge : 11 ≤ e.toNat
        · -- a multiple of 2 ^ 11 is below 2 ^ 64 by that much or not at all
          have hsplit : m * 2 ^ e.toNat = m * 2 ^ (e.toNat - 11) * 2 ^ 11 := by
            rw [Nat.mul_assoc, ← Nat.pow_add, Nat.sub_add_cancel hlarge]
          rw [hsplit]
          omega
        · have hsmall : m * 2 ^ e.toNat < 2 ^ 53 * 2 ^ 10 :=
            Nat.lt_of_lt_of_le (Nat.mul_lt_mul_of_pos_right hm (Nat.two_pow_pos _))
              (Nat.mul_le_mul_left _ (Nat.pow_le_pow_right (by decide) (by omega)))
          omega
      · have hdiv : m / Nat.pow 2 (-e).toNat ≤ m := Nat.div_le_self ..
        omega

end Binary64

namespace Size

/-! ## What is read -/

/-- A size is a finite number of units, cut off at the greatest size. -/
theorem parse_eq_ok {text : String} {n : Nat} (h : parse text = .ok n) :
    ∃ (value : Binary64) (factor : Nat), value.isFinite = true ∧
      n = (value.scale factor).truncateTo greatest := by
  unfold parse at h
  dsimp only at h
  split at h
  · cases h
  split at h
  · cases h
  split at h
  · cases h
  split at h
  case h_2 => cases h
  split at h
  case h_2 => cases h
  split at h
  case h_2 => cases h
  split at h
  case isFalse => cases h
  case isTrue hfinite =>
    cases h
    exact ⟨_, _, hfinite, rfl⟩

/-- A size near the greatest is the greatest. -/
theorem eq_greatest_or_le {text : String} {n : Nat} (h : parse text = .ok n) :
    n = greatest ∨ n + 2 ^ 11 ≤ 2 ^ 64 := by
  obtain ⟨value, factor, hfinite, rfl⟩ := parse_eq_ok h
  exact Binary64.truncateTo_eq_or_le (Binary64.isNarrow_scale hfinite factor)

end Size

end PolledTerminal
