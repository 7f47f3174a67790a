import Mathlib.Data.List.DropRight
import PolledTerminal.Text.Utf8
set_option autoImplicit false

/-!
# Reading back what was encoded

The octet machine reads every text back from its octets, and leaving out or
cutting at an ASCII character is the same before and after encoding: no octet of
another character looks like it.
-/

namespace PolledTerminal.Text.Utf8

/-! ## Octets of a character -/

/-- An octet that continues a character: the lowest six bits of a number. -/
def continuation (n : Nat) : UInt8 := UInt8.ofNat (0x80 + n % 0x40)

theorem toNat_ofNat_of_lt {n : Nat} (h : n < 0x100) : (UInt8.ofNat n).toNat = n := by
  rw [UInt8.toNat_ofNat']
  omega

theorem toNat_continuation (n : Nat) : (continuation n).toNat = 0x80 + n % 0x40 :=
  toNat_ofNat_of_lt (by omega)

theorem encodeChar_one {c : Char} (h : c.toNat < 0x80) : encodeChar c = [UInt8.ofNat c.toNat] :=
  if_pos h

theorem encodeChar_two {c : Char} (hlow : 0x80 ≤ c.toNat) (hhigh : c.toNat < 0x800) :
    encodeChar c = [UInt8.ofNat (0xC0 + c.toNat / 0x40), continuation c.toNat] := by
  simp only [encodeChar, continuation, Nat.shiftRight_eq_div_pow, Nat.reducePow, Nat.div_one]
  rw [if_neg (by omega), if_pos hhigh]

theorem encodeChar_three {c : Char} (hlow : 0x800 ≤ c.toNat) (hhigh : c.toNat < 0x10000) :
    encodeChar c = [UInt8.ofNat (0xE0 + c.toNat / 0x40 / 0x40), continuation (c.toNat / 0x40),
      continuation c.toNat] := by
  simp only [encodeChar, continuation, Nat.shiftRight_eq_div_pow, Nat.reducePow, Nat.div_one,
    Nat.div_div_eq_div_mul, Nat.reduceMul]
  rw [if_neg (by omega), if_neg (by omega), if_pos hhigh]

theorem encodeChar_four {c : Char} (hlow : 0x10000 ≤ c.toNat) :
    encodeChar c = [UInt8.ofNat (0xF0 + c.toNat / 0x40 / 0x40 / 0x40),
      continuation (c.toNat / 0x40 / 0x40), continuation (c.toNat / 0x40),
      continuation c.toNat] := by
  simp only [encodeChar, continuation, Nat.shiftRight_eq_div_pow, Nat.reducePow, Nat.div_one,
    Nat.div_div_eq_div_mul, Nat.reduceMul]
  rw [if_neg (by omega), if_neg (by omega), if_neg (by omega)]

/-! ## The first octet -/

theorem lead_one {n : Nat} (h : n < 0x80) : lead (UInt8.ofNat n) = some (.inl (Char.ofNat n)) := by
  have hoctet := toNat_ofNat_of_lt (show n < 0x100 by omega)
  unfold lead
  rw [hoctet, if_pos h]

theorem lead_two {n : Nat} (hlow : 2 ≤ n) (hhigh : n < 0x20) :
    lead (UInt8.ofNat (0xC0 + n)) = some (.inr (.started n 1 0x80 0xBF)) := by
  have hoctet := toNat_ofNat_of_lt (show 0xC0 + n < 0x100 by omega)
  unfold lead
  rw [hoctet, if_neg (by omega), if_neg (by omega), if_pos (by omega), Nat.add_sub_cancel_left]

/-- Of the characters with three octets, those that would fit into two and those
that stand for halves of others are left out. -/
theorem lead_three {n : Nat} (hlow : 0x20 ≤ n) (hhigh : n < 0x400) (hhalf : n / 0x20 ≠ 0x1B) :
    ∃ lo hi, lead (UInt8.ofNat (0xE0 + n / 0x40)) = some (.inr (.started (n / 0x40) 2 lo hi)) ∧
      lo.toNat ≤ 0x80 + n % 0x40 ∧ 0x80 + n % 0x40 ≤ hi.toNat := by
  have hoctet := toNat_ofNat_of_lt (show 0xE0 + n / 0x40 < 0x100 by omega)
  unfold lead
  rw [hoctet, if_neg (by omega), if_neg (by omega), if_neg (by omega)]
  by_cases hfirst : n / 0x40 = 0
  · refine ⟨0xA0, 0xBF, ?_, ?_, ?_⟩
    · rw [if_pos (by omega), hfirst]
    · show 0xA0 ≤ _
      omega
    · show _ ≤ 0xBF
      omega
  · rw [if_neg (by omega)]
    by_cases hhalves : n / 0x40 = 0xD
    · refine ⟨0x80, 0x9F, ?_, Nat.le_add_right _ _, ?_⟩
      · rw [if_pos (by omega), hhalves]
      · show _ ≤ 0x9F
        omega
    · refine ⟨0x80, 0xBF, ?_, Nat.le_add_right _ _, ?_⟩
      · rw [if_neg (by omega), if_pos (by omega), Nat.add_sub_cancel_left]
      · show _ ≤ 0xBF
        omega

/-- Of the characters with four octets, those that would fit into three and those
beyond the last are left out. -/
theorem lead_four {n : Nat} (hlow : 0x10 ≤ n) (hhigh : n < 0x110) :
    ∃ lo hi, lead (UInt8.ofNat (0xF0 + n / 0x40)) = some (.inr (.started (n / 0x40) 3 lo hi)) ∧
      lo.toNat ≤ 0x80 + n % 0x40 ∧ 0x80 + n % 0x40 ≤ hi.toNat := by
  have hoctet := toNat_ofNat_of_lt (show 0xF0 + n / 0x40 < 0x100 by omega)
  unfold lead
  rw [hoctet, if_neg (by omega), if_neg (by omega), if_neg (by omega), if_neg (by omega),
    if_neg (by omega), if_neg (by omega)]
  by_cases hfirst : n / 0x40 = 0
  · refine ⟨0x90, 0xBF, ?_, ?_, ?_⟩
    · rw [if_pos (by omega), hfirst]
    · show 0x90 ≤ _
      omega
    · show _ ≤ 0xBF
      omega
  · rw [if_neg (by omega)]
    by_cases hlast : n / 0x40 = 4
    · refine ⟨0x80, 0x8F, ?_, Nat.le_add_right _ _, ?_⟩
      · rw [if_neg (by omega), if_pos (by omega), hlast]
      · show _ ≤ 0x8F
        omega
    · refine ⟨0x80, 0xBF, ?_, Nat.le_add_right _ _, ?_⟩
      · rw [if_pos (by omega), Nat.add_sub_cancel_left]
      · show _ ≤ 0xBF
        omega

/-! ## Driving the machine -/

theorem drive_of_lead_char {b : UInt8} {c : Char} (h : lead b = some (.inl c))
    (settled : List Char) (rest : Bytes) :
    drive settled .idle (b :: rest) = drive (c :: settled) .idle rest := by
  simp only [drive, octet, h]
  rfl

theorem drive_of_lead_started {b : UInt8} {p : Partial} (h : lead b = some (.inr p))
    (settled : List Char) (rest : Bytes) :
    drive settled .idle (b :: rest) = drive settled p rest := by
  simp only [drive, octet, h]
  rfl

section Continuation

variable (settled : List Char) {n : Nat} {lo hi : UInt8} (hlo : lo.toNat ≤ 0x80 + n % 0x40)
  (hhi : 0x80 + n % 0x40 ≤ hi.toNat) (rest : Bytes)
include hlo hhi

theorem octet_continuation (need : Nat) :
    octet (.started (n / 0x40) need lo hi) (continuation n) =
      if need ≤ 1 then ([Char.ofNat n], .idle) else ([], .started n (need - 1) 0x80 0xBF) := by
  have hvalue : n / 0x40 * 0x40 + (0x80 + n % 0x40 - 0x80) = n := by omega
  have hinside : (lo ≤ continuation n && continuation n ≤ hi) = true := by
    simp only [UInt8.le_iff_toNat_le, toNat_continuation, hlo, hhi, decide_true, Bool.and_self]
  simp only [octet, hinside, if_true, toNat_continuation, hvalue]

/-- An octet that continues a character puts its bits behind those before. -/
theorem drive_continuation (need : Nat) :
    drive settled (.started (n / 0x40) (need + 2) lo hi) (continuation n :: rest) =
      drive settled (.started n (need + 1) 0x80 0xBF) rest := by
  rw [drive, octet_continuation hlo hhi, if_neg (by omega)]
  rfl

theorem drive_last_continuation :
    drive settled (.started (n / 0x40) 1 lo hi) (continuation n :: rest) =
      drive (Char.ofNat n :: settled) .idle rest := by
  rw [drive, octet_continuation hlo hhi, if_pos (Nat.le_refl 1)]
  rfl

end Continuation

theorem continuation_bounds (n : Nat) :
    (0x80 : UInt8).toNat ≤ 0x80 + n % 0x40 ∧ 0x80 + n % 0x40 ≤ (0xBF : UInt8).toNat := by
  refine ⟨Nat.le_add_right _ _, ?_⟩
  show _ ≤ 0xBF
  omega

/-- A character is not the half of another, and not beyond the last. -/
theorem toNat_valid (c : Char) :
    c.toNat < 0xD800 ∨ 0xDFFF < c.toNat ∧ c.toNat < 0x110000 := c.valid

/-- The machine reads a character back from its octets. -/
theorem drive_encodeChar_append (settled : List Char) (c : Char) (rest : Bytes) :
    drive settled .idle (encodeChar c ++ rest) = drive (c :: settled) .idle rest := by
  have hvalid := toNat_valid c
  have hc : Char.ofNat c.toNat = c := Char.ofNat_toNat c
  obtain ⟨hlo, hhi⟩ := continuation_bounds c.toNat
  by_cases h₁ : c.toNat < 0x80
  · rw [encodeChar_one h₁, List.singleton_append, drive_of_lead_char (lead_one h₁), hc]
  by_cases h₂ : c.toNat < 0x800
  · have hlead := lead_two (n := c.toNat / 0x40) (by omega) (by omega)
    rw [encodeChar_two (by omega) h₂]
    simp only [List.cons_append, List.nil_append]
    rw [drive_of_lead_started hlead, drive_last_continuation settled hlo hhi, hc]
  by_cases h₃ : c.toNat < 0x10000
  · obtain ⟨lo, hi, hlead, hlo', hhi'⟩ :=
      lead_three (n := c.toNat / 0x40) (by omega) (by omega) (by omega)
    rw [encodeChar_three (by omega) h₃]
    simp only [List.cons_append, List.nil_append]
    rw [drive_of_lead_started hlead, drive_continuation settled hlo' hhi',
      drive_last_continuation settled hlo hhi, hc]
  · obtain ⟨lo, hi, hlead, hlo'', hhi''⟩ :=
      lead_four (n := c.toNat / 0x40 / 0x40) (by omega) (by omega)
    obtain ⟨hlo', hhi'⟩ := continuation_bounds (c.toNat / 0x40)
    rw [encodeChar_four (by omega)]
    simp only [List.cons_append, List.nil_append]
    rw [drive_of_lead_started hlead, drive_continuation settled hlo'' hhi'',
      drive_continuation settled hlo' hhi', drive_last_continuation settled hlo hhi, hc]

theorem drive_flatMap_encodeChar (settled cs : List Char) :
    drive settled .idle (cs.flatMap encodeChar) = cs.reverse ++ settled := by
  induction cs generalizing settled with
  | nil => rfl
  | cons c cs ih =>
      rw [List.flatMap_cons, drive_encodeChar_append, ih, List.reverse_cons, List.append_assoc]
      rfl

/-- Every text is read back from its octets. -/
theorem decodeLossy_flatMap_encodeChar (cs : List Char) :
    decodeLossy (cs.flatMap encodeChar) = String.ofList cs := by
  rw [decodeLossy, decodeLossyChars, drive_flatMap_encodeChar, List.append_nil,
    List.reverse_reverse]

/-! ## ASCII characters among others -/

/-- The octets of a character that is not ASCII are not ASCII either. -/
theorem le_toNat_of_mem_encodeChar {c : Char} (h : 0x80 ≤ c.toNat) {b : UInt8}
    (hb : b ∈ encodeChar c) : 0x80 ≤ b.toNat := by
  have hvalid := toNat_valid c
  have hcontinuation (n : Nat) : 0x80 ≤ (continuation n).toNat := by
    rw [toNat_continuation]
    exact Nat.le_add_right _ _
  have hlead {n : Nat} (hlow : 0x80 ≤ n) (hhigh : n < 0x100) : 0x80 ≤ (UInt8.ofNat n).toNat := by
    rwa [toNat_ofNat_of_lt hhigh]
  by_cases h₂ : c.toNat < 0x800
  · simp only [encodeChar_two h h₂, List.mem_cons, List.not_mem_nil, or_false] at hb
    rcases hb with rfl | rfl
    · exact hlead (by omega) (by omega)
    · exact hcontinuation _
  by_cases h₃ : c.toNat < 0x10000
  · simp only [encodeChar_three (by omega) h₃, List.mem_cons, List.not_mem_nil, or_false] at hb
    rcases hb with rfl | rfl | rfl
    · exact hlead (by omega) (by omega)
    · exact hcontinuation _
    · exact hcontinuation _
  · simp only [encodeChar_four (c := c) (by omega), List.mem_cons, List.not_mem_nil, or_false] at hb
    rcases hb with rfl | rfl | rfl | rfl
    · exact hlead (by omega) (by omega)
    · exact hcontinuation _
    · exact hcontinuation _
    · exact hcontinuation _

section Ascii

variable {a : Char} (ha : a.toNat < 0x80)
include ha

/-- No octet of another character looks like an ASCII character. -/
theorem ne_of_mem_encodeChar {c : Char} (hc : c ≠ a) {b : UInt8} (hb : b ∈ encodeChar c) :
    b ≠ UInt8.ofNat a.toNat := by
  intro heq
  have hoctet : b.toNat = a.toNat := by rw [heq, toNat_ofNat_of_lt (by omega)]
  by_cases h : c.toNat < 0x80
  · rw [encodeChar_one h, List.mem_singleton] at hb
    rw [hb, toNat_ofNat_of_lt (by omega)] at hoctet
    exact hc (Char.toNat_inj.mp hoctet)
  · have := le_toNat_of_mem_encodeChar (Nat.le_of_not_lt h) hb
    omega

/-- Leaving out an ASCII character leaves out its octet. -/
theorem filter_ne_flatMap_encodeChar (cs : List Char) :
    (cs.flatMap encodeChar).filter (· ≠ UInt8.ofNat a.toNat) =
      (cs.filter (· ≠ a)).flatMap encodeChar := by
  induction cs with
  | nil => rfl
  | cons c cs ih =>
      rw [List.flatMap_cons, List.filter_append, ih]
      by_cases hc : c = a
      · subst hc
        rw [encodeChar_one ha, List.filter_cons_of_neg (by simp), List.filter_cons_of_neg (by simp)]
        rfl
      · have hall : ∀ b ∈ encodeChar c, decide (b ≠ UInt8.ofNat a.toNat) = true :=
          fun b hb => decide_eq_true (ne_of_mem_encodeChar ha hc hb)
        rw [List.filter_eq_self.mpr hall, List.filter_cons_of_pos (by simpa using hc),
          List.flatMap_cons]

omit ha in
theorem rtakeWhile_append_of_all {α : Type} {p : α → Bool} (xs : List α) {ys : List α}
    (h : ∀ y ∈ ys, p y = true) : (xs ++ ys).rtakeWhile p = xs.rtakeWhile p ++ ys := by
  induction ys using List.reverseRecOn with
  | nil => rw [List.append_nil, List.append_nil]
  | append_singleton ys y ih =>
      have hy : p y = true := h y (List.mem_append_right _ List.mem_cons_self)
      rw [← List.append_assoc, List.rtakeWhile_concat_pos p _ y hy,
        ih fun z hz => h z (List.mem_append_left _ hz), List.append_assoc]

/-- What stands behind the last of an ASCII character stands behind the last of its
octet. -/
theorem rtakeWhile_ne_flatMap_encodeChar (cs : List Char) :
    (cs.flatMap encodeChar).rtakeWhile (· ≠ UInt8.ofNat a.toNat) =
      (cs.rtakeWhile (· ≠ a)).flatMap encodeChar := by
  induction cs using List.reverseRecOn with
  | nil => rfl
  | append_singleton cs c ih =>
      rw [List.flatMap_append, List.flatMap_singleton]
      by_cases hc : c = a
      · subst hc
        rw [encodeChar_one ha, List.rtakeWhile_concat_neg _ _ _ (by simp),
          List.rtakeWhile_concat_neg _ _ _ (by simp)]
        rfl
      · rw [rtakeWhile_append_of_all _ fun b hb =>
            decide_eq_true (ne_of_mem_encodeChar ha hc hb), ih,
          List.rtakeWhile_concat_pos _ _ _ (by simpa using hc), List.flatMap_append,
          List.flatMap_singleton]

end Ascii

end PolledTerminal.Text.Utf8
