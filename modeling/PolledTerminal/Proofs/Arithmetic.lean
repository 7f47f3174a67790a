import Mathlib.Data.Int.ModEq
import Mathlib.Data.List.Forall2
import Mathlib.Data.Set.List
import PolledTerminal.Alu
set_option autoImplicit false

/-!
# Eight-bit arithmetic

Every operation of the arithmetic unit latches one exact intermediate result, a shift
by many bits included, so neither its byte nor its flags depend on the flags that it
finds.  Expressions may therefore be worked out in any order on one unit, many of them
at a time: each comes to its exact value modulo 256.
-/

namespace PolledTerminal.Alu

/-! ## One operation -/

/-- What the unit can be asked to do. -/
inductive Operation where
  | add (a b : UInt8)
  | sub (a b : UInt8)
  | shl (a count : UInt8)
  | shr (a count : UInt8)
  | and (a b : UInt8)
  | orr (a b : UInt8)
  | eor (a b : UInt8)
  | inc (a : UInt8)
  | dec (a : UInt8)
  | compare (a b : UInt8)
  deriving DecidableEq, Repr, Inhabited

namespace Operation

/-- Do it; a comparison gives the difference that it looks at. -/
def perform : Operation → StateM Alu UInt8
  | .add a b => Alu.add a b
  | .sub a b => Alu.sub a b
  | .shl a count => Alu.shl a count
  | .shr a count => Alu.shr a count
  | .and a b => Alu.and a b
  | .orr a b => Alu.orr a b
  | .eor a b => Alu.eor a b
  | .inc a => Alu.inc a
  | .dec a => Alu.dec a
  | .compare a b => do
    let _ ← Alu.compare a b
    return a - b

/-- The exact result, as an integer. -/
def value : Operation → Int
  | .add a b => a.toNat + b.toNat
  | .sub a b | .compare a b => a.toNat - b.toNat
  | .shl a count => a.toNat * 2 ^ count.toNat
  | .shr a count => a.toNat / 2 ^ count.toNat
  | .and a b => (a &&& b).toNat
  | .orr a b => (a ||| b).toNat
  | .eor a b => (a ^^^ b).toNat
  | .inc a => a.toNat + 1
  | .dec a => a.toNat - 1

/-- The operation has something to carry: a sum of 256 or more, a difference without a
borrow, or a bit that a left shift moved out last.  Behind the eight bits of the operand
only zeros are moved out. -/
def Carries : Operation → Prop
  | .add a b => 256 ≤ a.toNat + b.toNat
  | .inc a => 256 ≤ a.toNat + 1
  | .sub a b | .compare a b => b ≤ a
  | .dec a => 1 ≤ a
  | .shl a count => 1 ≤ count.toNat ∧ count.toNat ≤ 8 ∧ a.toNat.testBit (8 - count.toNat) = true
  | .shr _ _ | .and _ _ | .orr _ _ | .eor _ _ => False

/-- What the operation latches. -/
def intermediate : Operation → Nat
  | .add a b => a.toNat + b.toNat
  | .sub a b | .compare a b => a.toNat + (256 - b.toNat)
  | .shl a count => a.toNat * 2 ^ count.toNat
  | .shr a count => a.toNat / 2 ^ count.toNat
  | .and a b => (a &&& b).toNat
  | .orr a b => (a ||| b).toNat
  | .eor a b => (a ^^^ b).toNat
  | .inc a => a.toNat + 1
  | .dec a => a.toNat + (256 - 1)

end Operation

/-- The flags that are read off an intermediate result. -/
def flagsOf (res : Nat) : Alu := { zero := res % 256 == 0, carry := res / 256 % 2 == 1 }

theorem run_latch (res : Nat) (alu : Alu) :
    (latch res).run alu = (UInt8.ofNat res, flagsOf res) := rfl

theorem flagsOf_zero_iff (res : Nat) : (flagsOf res).zero = true ↔ UInt8.ofNat res = 0 := by
  rw [← UInt8.toNat_inj]
  simp [flagsOf]

theorem flagsOf_carry_iff (res : Nat) : (flagsOf res).carry = true ↔ res.testBit 8 = true := by
  simp [flagsOf, Nat.testBit_eq_decide_div_mod_eq]

/-! ### Shifts

A shift moves one bit a time, through a byte that is cut at every step.  What is cut off
is never needed again, so the last step leaves what one latch of the exact result leaves. -/

theorem flagsOf_mod_mul_two (res : Nat) : flagsOf (res % 256 * 2) = flagsOf (res * 2) := by
  have hzero : res % 256 * 2 % 256 = res * 2 % 256 := by omega
  have hcarry : res % 256 * 2 / 256 % 2 = res * 2 / 256 % 2 := by omega
  rw [flagsOf, flagsOf, hzero, hcarry]

theorem ofNat_mod_mul_two (res : Nat) : UInt8.ofNat (res % 256 * 2) = UInt8.ofNat (res * 2) := by
  rw [← UInt8.toNat_inj, UInt8.toNat_ofNat', UInt8.toNat_ofNat']
  omega

theorem run_repeatShift_left (count res : Nat) :
    (repeatShift (· * 2) count (UInt8.ofNat res)).run (flagsOf res) =
      (UInt8.ofNat (res * 2 ^ count), flagsOf (res * 2 ^ count)) := by
  induction count generalizing res with
  | zero => rw [pow_zero, mul_one]; rfl
  | succ count ih =>
      have hstep : (repeatShift (· * 2) (count + 1) (UInt8.ofNat res)).run (flagsOf res) =
          (repeatShift (· * 2) count (UInt8.ofNat (res % 256 * 2))).run
            (flagsOf (res % 256 * 2)) := by
        rw [← UInt8.toNat_ofNat']
        rfl
      rw [hstep, ofNat_mod_mul_two, flagsOf_mod_mul_two, ih, pow_succ', mul_assoc]

theorem run_repeatShift_right (count : Nat) {res : Nat} (hres : res < 256) :
    (repeatShift (· / 2) count (UInt8.ofNat res)).run (flagsOf res) =
      (UInt8.ofNat (res / 2 ^ count), flagsOf (res / 2 ^ count)) := by
  induction count generalizing res with
  | zero => rw [pow_zero, Nat.div_one]; rfl
  | succ count ih =>
      have hstep : (repeatShift (· / 2) (count + 1) (UInt8.ofNat res)).run (flagsOf res) =
          (repeatShift (· / 2) count (UInt8.ofNat (res / 2))).run (flagsOf (res / 2)) := by
        have hbyte : (UInt8.ofNat res).toNat = res := UInt8.toNat_ofNat_of_lt' hres
        conv_rhs => rw [← hbyte]
        rfl
      have hhalf : res / 2 < 256 := by omega
      rw [hstep, ih hhalf, Nat.div_div_eq_div_mul, ← pow_succ']

theorem run_shl (a count : UInt8) (alu : Alu) :
    (shl a count).run alu = (latch (a.toNat * 2 ^ count.toNat)).run alu := by
  have hshift := run_repeatShift_left count.toNat a.toNat
  rw [UInt8.ofNat_toNat] at hshift
  rw [run_latch, ← hshift, shl]
  show (repeatShift _ _ (UInt8.ofNat a.toNat)).run (flagsOf a.toNat) = _
  rw [UInt8.ofNat_toNat]

theorem run_shr (a count : UInt8) (alu : Alu) :
    (shr a count).run alu = (latch (a.toNat / 2 ^ count.toNat)).run alu := by
  have hshift := run_repeatShift_right count.toNat a.toNat_lt
  rw [UInt8.ofNat_toNat] at hshift
  rw [run_latch, ← hshift, shr]
  show (repeatShift _ _ (UInt8.ofNat a.toNat)).run (flagsOf a.toNat) = _
  rw [UInt8.ofNat_toNat]

/-! ### Bytes and flags -/

theorem ofNat_add_compl (a b : UInt8) : UInt8.ofNat (a.toNat + (256 - b.toNat)) = a - b := by
  rw [← UInt8.toNat_inj, UInt8.toNat_ofNat', UInt8.toNat_sub]
  omega

theorem testBit_eight_iff {res : Nat} (h : res < 512) : res.testBit 8 = true ↔ 256 ≤ res := by
  rw [Nat.testBit_eq_decide_div_mod_eq, decide_eq_true_eq]
  omega

namespace Operation

variable (op : Operation)

/-- Doing anything is latching one exact result. -/
theorem run_perform (alu : Alu) :
    op.perform.run alu = (UInt8.ofNat op.intermediate, flagsOf op.intermediate) := by
  cases op with
  | shl a count => exact run_shl a count alu
  | shr a count => exact run_shr a count alu
  | compare a b =>
      rw [intermediate, ofNat_add_compl]
      rfl
  | _ => rfl

theorem intermediate_emod : (op.intermediate : Int) % 256 = op.value % 256 := by
  cases op with
  | sub a b | compare a b =>
      have hb := b.toNat_lt
      simp only [intermediate, value]
      omega
  | dec a =>
      simp only [intermediate, value]
      omega
  | _ => simp [intermediate, value]

/-- The byte is the exact result modulo 256. -/
theorem toNat_perform (alu : Alu) : ((op.perform.run alu).1.toNat : Int) = op.value % 256 := by
  rw [run_perform, UInt8.toNat_ofNat', Int.natCast_mod, ← intermediate_emod]
  rfl

theorem zero_perform_iff (alu : Alu) :
    (op.perform.run alu).2.zero = true ↔ (op.perform.run alu).1 = 0 := by
  rw [run_perform]
  exact flagsOf_zero_iff op.intermediate

/-- The ninth bit of what is latched says that there is something to carry. -/
theorem carry_perform_iff (alu : Alu) : (op.perform.run alu).2.carry = true ↔ op.Carries := by
  rw [run_perform]
  show (flagsOf op.intermediate).carry = true ↔ _
  rw [flagsOf_carry_iff]
  cases op with
  | add a b =>
      have ha := a.toNat_lt
      have hb := b.toNat_lt
      rw [intermediate, testBit_eight_iff (by omega), Carries]
  | inc a =>
      have ha := a.toNat_lt
      rw [intermediate, testBit_eight_iff (by omega), Carries]
  | sub a b | compare a b =>
      have ha := a.toNat_lt
      have hb := b.toNat_lt
      rw [intermediate, testBit_eight_iff (by omega), Carries, UInt8.le_iff_toNat_le]
      omega
  | dec a =>
      have ha := a.toNat_lt
      rw [intermediate, testBit_eight_iff (by omega), Carries, UInt8.le_iff_toNat_le]
      show _ ↔ 1 ≤ a.toNat
      omega
  | shl a count =>
      rw [intermediate, Nat.testBit_mul_two_pow, Bool.and_eq_true, decide_eq_true_eq, Carries]
      refine ⟨fun ⟨hle, hbit⟩ => ⟨?_, hle, hbit⟩, fun ⟨_, hle, hbit⟩ => ⟨hle, hbit⟩⟩
      by_contra hnone
      have hlow : a.toNat < 2 ^ (8 - count.toNat) := by
        rw [Nat.lt_one_iff.mp (Nat.not_le.mp hnone)]
        exact a.toNat_lt
      rw [Nat.testBit_lt_two_pow hlow] at hbit
      cases hbit
  | shr a count =>
      have hle := Nat.div_le_self a.toNat (2 ^ count.toNat)
      have ha := a.toNat_lt
      rw [intermediate, testBit_eight_iff (by omega), Carries, iff_false]
      omega
  | and a b | orr a b | eor a b =>
      rw [intermediate, testBit_eight_iff (Nat.lt_trans (UInt8.toNat_lt _) (by decide)), Carries,
        iff_false, Nat.not_le]
      exact UInt8.toNat_lt _

end Operation

/-! ### Comparisons -/

/-- The comparison says how two integers stand to each other. -/
structure Comparison.Orders (c : Comparison) (x y : Int) : Prop where
  eq : c.isEq = true ↔ x = y
  ne : c.isNe = true ↔ x ≠ y
  lt : c.isLt = true ↔ x < y
  le : c.isLe = true ↔ x ≤ y
  gt : c.isGt = true ↔ y < x
  ge : c.isGe = true ↔ y ≤ x

/-- Comparing two bytes orders them as unsigned numbers. -/
theorem orders_compare (a b : UInt8) (alu : Alu) :
    ((compare a b).run alu).1.Orders a.toNat b.toNat := by
  have hflags : ((compare a b).run alu).1.flags = ((Operation.compare a b).perform.run alu).2 := rfl
  have heq : ((compare a b).run alu).1.isEq = true ↔ a.toNat = b.toNat := by
    have ha := a.toNat_lt
    have hb := b.toNat_lt
    rw [Comparison.isEq, hflags, Operation.zero_perform_iff, ← UInt8.toNat_inj]
    show (a - b).toNat = 0 ↔ _
    rw [UInt8.toNat_sub]
    omega
  have hge : ((compare a b).run alu).1.isGe = true ↔ b.toNat ≤ a.toNat := by
    rw [Comparison.isGe, Comparison.isLt, Bool.not_not, hflags, Operation.carry_perform_iff]
    exact UInt8.le_iff_toNat_le
  have hlt : ((compare a b).run alu).1.isLt = true ↔ a.toNat < b.toNat := by
    rw [← Nat.not_le, ← hge, Comparison.isGe, Bool.not_eq_true', Bool.not_eq_false]
  constructor
  · rw [heq, Int.ofNat_inj]
  · rw [Comparison.isNe, Bool.not_eq_true', ← Bool.not_eq_true, heq, Ne, Int.ofNat_inj]
  · rw [hlt, Int.ofNat_lt]
  · rw [Comparison.isLe, Bool.or_eq_true, hlt, heq, Int.ofNat_le]
    omega
  · rw [Comparison.isGt, Comparison.isNe, Bool.and_eq_true, Bool.not_eq_true',
      ← Bool.not_eq_true, hge, heq, Int.ofNat_lt]
    omega
  · rw [hge, Int.ofNat_le]

/-! ## Operations in turn -/

/-- The bytes of many operations in turn, which none of the flags in between can change. -/
theorem run_mapM_perform (ops : List Operation) (alu : Alu) :
    List.Forall₂ (fun op (byte : UInt8) => (byte.toNat : Int) = op.value % 256) ops
      ((ops.mapM Operation.perform).run alu).1 := by
  induction ops generalizing alu with
  | nil => exact .nil
  | cons op ops ih =>
      rw [List.mapM_cons]
      exact .cons (op.toNat_perform alu) (ih _)

/-- What the last operation gives and leaves is what the whole sequence does. -/
theorem run_mapM_perform_concat (ops : List Operation) (op : Operation) (alu : Alu) :
    ((ops ++ [op]).mapM Operation.perform).run alu =
      let (bytes, between) := (ops.mapM Operation.perform).run alu
      (bytes ++ [(op.perform.run between).1], (op.perform.run between).2) := by
  rw [List.mapM_append, List.mapM_cons, List.mapM_nil]
  rfl

/-! ## Expressions -/

/-- An operation on one operand. -/
inductive Unary where
  | inc
  | dec
  | shl (count : UInt8)
  deriving DecidableEq, Repr, Inhabited

/-- An operation on two operands. -/
inductive Binary where
  | add
  | sub
  deriving DecidableEq, Repr, Inhabited

/-- What the unit is asked to do with a byte. -/
def Unary.on : Unary → UInt8 → Operation
  | .inc, a => .inc a
  | .dec, a => .dec a
  | .shl count, a => .shl a count

/-- What the unit is asked to do with two bytes. -/
def Binary.on : Binary → UInt8 → UInt8 → Operation
  | .add, a, b => .add a b
  | .sub, a, b => .sub a b

/-- The operation on integers. -/
def Unary.exact : Unary → Int → Int
  | .inc, x => x + 1
  | .dec, x => x - 1
  | .shl count, x => x * 2 ^ count.toNat

/-- The operation on integers. -/
def Binary.exact : Binary → Int → Int → Int
  | .add, x, y => x + y
  | .sub, x, y => x - y

/-- An expression over bytes. -/
inductive Expr where
  | literal (a : UInt8)
  | unary (op : Unary) (e : Expr)
  | binary (op : Binary) (l r : Expr)
  deriving DecidableEq, Repr, Inhabited

namespace Expr

/-- The exact value, as an integer. -/
def value : Expr → Int
  | .literal a => a.toNat
  | .unary op e => op.exact e.value
  | .binary op l r => op.exact l.value r.value

/-- How many operations are still to be done. -/
def operations : Expr → Nat
  | .literal _ => 0
  | .unary _ e => e.operations + 1
  | .binary _ l r => l.operations + r.operations + 1

/-- One operation is done on a unit, anywhere in an expression where the operands have
been worked out. -/
inductive Step (alu : Alu) : Operation → Expr → Expr → Prop
  | unary (op : Unary) (a : UInt8) :
      Step alu (op.on a) (.unary op (.literal a)) (.literal ((op.on a).perform.run alu).1)
  | binary (op : Binary) (a b : UInt8) :
      Step alu (op.on a b) (.binary op (.literal a) (.literal b))
        (.literal ((op.on a b).perform.run alu).1)
  | operand {o : Operation} {e e' : Expr} (op : Unary) (h : Step alu o e e') :
      Step alu o (.unary op e) (.unary op e')
  | left {o : Operation} {l l' : Expr} (op : Binary) (h : Step alu o l l') (r : Expr) :
      Step alu o (.binary op l r) (.binary op l' r)
  | right {o : Operation} {r r' : Expr} (op : Binary) (l : Expr) (h : Step alu o r r') :
      Step alu o (.binary op l r) (.binary op l r')

/-- Expressions are worked out on one unit, one operation after the other, each of them in
any of the expressions. -/
inductive Works : Alu → List Operation → List Expr → List Expr → Alu → Prop
  | done (alu : Alu) (es : List Expr) : Works alu [] es es alu
  | more {alu alu' : Alu} {op : Operation} {ops : List Operation} {e e' : Expr}
      {before after es' : List Expr} (h : Step alu op e e')
      (rest : Works (op.perform.run alu).2 ops (before ++ e' :: after) es' alu') :
      Works alu (op :: ops) (before ++ e :: after) es' alu'

/-! ### One step -/

theorem value_unary_on (op : Unary) (a : UInt8) : (op.on a).value = op.exact a.toNat := by
  cases op <;> rfl

theorem value_binary_on (op : Binary) (a b : UInt8) :
    (op.on a b).value = op.exact a.toNat b.toNat := by
  cases op <;> rfl

theorem modEq_unary {x y : Int} (op : Unary) (h : x ≡ y [ZMOD 256]) :
    op.exact x ≡ op.exact y [ZMOD 256] := by
  cases op with
  | inc => exact h.add_right 1
  | dec => exact h.sub_right 1
  | shl count => exact h.mul_right _

theorem modEq_binary {x x' y y' : Int} (op : Binary) (hx : x ≡ x' [ZMOD 256])
    (hy : y ≡ y' [ZMOD 256]) : op.exact x y ≡ op.exact x' y' [ZMOD 256] := by
  cases op with
  | add => exact hx.add hy
  | sub => exact hx.sub hy

theorem modEq_perform (op : Operation) (alu : Alu) :
    ((op.perform.run alu).1.toNat : Int) ≡ op.value [ZMOD 256] := by
  rw [Int.ModEq, op.toNat_perform, Int.emod_emod_of_dvd _ (dvd_refl 256)]

variable {alu alu' : Alu} {op : Operation} {ops : List Operation} {e e' : Expr}
  {es es' : List Expr}

/-- A step changes the exact value only by a multiple of 256. -/
theorem Step.value_modEq (h : Step alu op e e') : e'.value ≡ e.value [ZMOD 256] := by
  induction h with
  | unary op a =>
      rw [value, value, value, ← value_unary_on]
      exact modEq_perform (op.on a) alu
  | binary op a b =>
      rw [value, value, value, value, ← value_binary_on]
      exact modEq_perform (op.on a b) alu
  | operand op _ ih => exact modEq_unary op ih
  | left op _ r ih => exact modEq_binary op ih rfl
  | right op l _ ih => exact modEq_binary op rfl ih

theorem Step.operations_eq (h : Step alu op e e') : e.operations = e'.operations + 1 := by
  induction h with
  | unary | binary => rfl
  | operand op _ ih => rw [operations, operations, ih]
  | left op _ r ih | right op l _ ih =>
      rw [operations, operations, ih]
      omega

theorem exists_literal (h : e.operations = 0) : ∃ a, e = .literal a := by
  cases e with
  | literal a => exact ⟨a, rfl⟩
  | unary | binary => cases h

/-- As long as there is something to be done, some operation has its operands. -/
theorem exists_step (alu : Alu) (h : e.operations ≠ 0) : ∃ op e', Step alu op e e' := by
  induction e with
  | literal a => exact absurd rfl h
  | unary op e ih =>
      by_cases he : e.operations = 0
      · obtain ⟨a, rfl⟩ := exists_literal he
        exact ⟨_, _, .unary op a⟩
      · obtain ⟨o, e', hstep⟩ := ih he
        exact ⟨_, _, .operand op hstep⟩
  | binary op l r ihl ihr =>
      by_cases hl : l.operations = 0
      · by_cases hr : r.operations = 0
        · obtain ⟨a, rfl⟩ := exists_literal hl
          obtain ⟨b, rfl⟩ := exists_literal hr
          exact ⟨_, _, .binary op a b⟩
        · obtain ⟨o, r', hstep⟩ := ihr hr
          exact ⟨_, _, .right op l hstep⟩
      · obtain ⟨o, l', hstep⟩ := ihl hl
        exact ⟨_, _, .left op hstep r⟩

/-! ### All of the steps -/

/-- The steps change every exact value only by multiples of 256. -/
theorem Works.residues_eq (h : Works alu ops es es' alu') :
    es'.map (fun e => e.value % 256) = es.map fun e => e.value % 256 := by
  induction h with
  | done => rfl
  | more hstep _ ih =>
      rw [ih, List.map_append, List.map_append, List.map_cons, List.map_cons, hstep.value_modEq.eq]

/-- The unit is left as the operations leave it. -/
theorem Works.run_mapM (h : Works alu ops es es' alu') :
    ((ops.mapM Operation.perform).run alu).2 = alu' := by
  induction h with
  | done => rfl
  | more _ _ ih =>
      rw [List.mapM_cons]
      exact ih

/-- Every expression is worked out in the end, whatever has been done first. -/
theorem exists_works (alu : Alu) (es : List Expr) :
    ∃ (ops : List Operation) (results : List UInt8) (alu' : Alu),
      Works alu ops es (results.map .literal) alu' := by
  -- On the number of operations that are still to be done in all of the expressions.
  induction hn : (es.map operations).sum using Nat.strong_induction_on generalizing alu es with
  | _ n ih =>
      by_cases hopen : ∃ e ∈ es, e.operations ≠ 0
      · obtain ⟨e, he, hpos⟩ := hopen
        obtain ⟨before, after, rfl⟩ := List.append_of_mem he
        obtain ⟨op, e', hstep⟩ := exists_step alu hpos
        have hless : ((before ++ e' :: after).map operations).sum < n := by
          have hcount := hstep.operations_eq
          simp only [List.map_append, List.map_cons, List.sum_append, List.sum_cons] at hn ⊢
          omega
        obtain ⟨ops, results, alu', hrest⟩ := ih _ hless (op.perform.run alu).2 _ rfl
        exact ⟨op :: ops, results, alu', .more hstep hrest⟩
      · have hall : ∀ e ∈ es, e ∈ Set.range Expr.literal := by
          intro e he
          obtain ⟨a, rfl⟩ := exists_literal (of_not_not fun hpos => hopen ⟨e, he, hpos⟩)
          exact ⟨a, rfl⟩
        obtain ⟨results, rfl⟩ : es ∈ Set.range (List.map Expr.literal) := by
          rw [Set.range_list_map]
          exact hall
        exact ⟨[], results, alu, .done alu _⟩

end Expr

open PolledTerminal.Alu.Expr in
/-- Expressions of any depth, worked out in any order on one unit with any flags, come to
their exact values modulo 256, and comparing two of the results orders them as these
residues; every step leaves a way to the end.  After any sequence of operations the bytes
are the exact results modulo 256, and the flags are those of the last operation alone. -/
theorem arithmetic_is_exact_modulo_256 :
    (∀ (alu alu' : Alu) (ops : List Operation) (es es' : List Expr), Works alu ops es es' alu' →
      ((ops.mapM Operation.perform).run alu).2 = alu' ∧
      (∃ (ops' : List Operation) (results : List UInt8) (alu'' : Alu),
        Works alu' ops' es' (results.map .literal) alu'') ∧
      ∀ results : List UInt8, es' = results.map .literal →
        List.Forall₂ (fun e (a : UInt8) => (a.toNat : Int) = e.value % 256) es results ∧
        ∀ e f a b, (e, a) ∈ es.zip results → (f, b) ∈ es.zip results →
          ((compare a b).run alu').1.Orders (e.value % 256) (f.value % 256)) ∧
    ∀ (ops : List Operation) (op : Operation) (alu : Alu),
      let (bytes, flags) := ((ops ++ [op]).mapM Operation.perform).run alu
      List.Forall₂ (fun op (byte : UInt8) => (byte.toNat : Int) = op.value % 256)
        (ops ++ [op]) bytes ∧
      (flags.zero = true ↔ bytes.getLast? = some 0) ∧ (flags.carry = true ↔ op.Carries) := by
  refine ⟨fun alu alu' ops es es' h => ⟨h.run_mapM, exists_works alu' es', ?_⟩,
    fun ops op alu => ?_⟩
  · rintro results rfl
    have hresidues := h.residues_eq
    rw [List.map_map, ← List.forall₂_eq_eq_eq, List.forall₂_map_left_iff,
      List.forall₂_map_right_iff] at hresidues
    have hall : List.Forall₂ (fun e (a : UInt8) => (a.toNat : Int) = e.value % 256) es results :=
      hresidues.flip.imp fun e a heq => by
        rw [← heq]
        exact (Int.emod_eq_of_lt (Int.natCast_nonneg _) (Int.ofNat_lt.mpr a.toNat_lt)).symm
    refine ⟨hall, fun e f a b he hf => ?_⟩
    rw [← (List.forall₂_iff_zip.mp hall).2 he, ← (List.forall₂_iff_zip.mp hall).2 hf]
    exact orders_compare a b alu'
  · have hbytes := run_mapM_perform (ops ++ [op]) alu
    rw [run_mapM_perform_concat] at hbytes ⊢
    refine ⟨hbytes, ?_, op.carry_perform_iff _⟩
    rw [List.getLast?_concat, Option.some_inj]
    exact op.zero_perform_iff _

/-- Twice 250 + 10. -/
def doubledSum : Expr := .unary (.shl 1) (.binary .add (.literal 250) (.literal 10))

/-- 3 - 4. -/
def shortfall : Expr := .binary .sub (.literal 3) (.literal 4)

open PolledTerminal.Alu.Expr in
/-- The difference is worked out between the flags and the sum, on a unit whose flags are
set, and still both come to their residues and are ordered by them. -/
theorem arithmetic_is_exact_modulo_256_in_between :
    Works { zero := true, carry := true } [.sub 3 4, .add 250 10, .shl 4 1]
      [doubledSum, shortfall] ([8, 255].map .literal) { zero := false, carry := false } ∧
    doubledSum.value = 520 ∧ doubledSum.value % 256 = 8 ∧
    shortfall.value = -1 ∧ shortfall.value % 256 = 255 ∧
    ((compare 8 255).run {}).1.Orders (doubledSum.value % 256) (shortfall.value % 256) := by
  have hworks : Works { zero := true, carry := true } [.sub 3 4, .add 250 10, .shl 4 1]
      [doubledSum, shortfall] ([8, 255].map .literal) { zero := false, carry := false } :=
    @Works.more _ _ _ _ _ _ [doubledSum] [] _ (.binary .sub 3 4)
      (@Works.more _ _ _ _ _ _ [] [.literal 255] _ (.operand (.shl 1) (.binary .add 250 10))
        (@Works.more _ _ _ _ _ _ [] [.literal 255] _ (.unary (.shl 1) 4) (.done _ _)))
  obtain ⟨-, -, hresults⟩ := arithmetic_is_exact_modulo_256.1 _ _ _ _ _ hworks
  obtain ⟨hbytes, hcompare⟩ := hresults [8, 255] rfl
  obtain ⟨hsum, hrest⟩ := List.forall₂_cons.mp hbytes
  refine ⟨hworks, rfl, hsum.symm, rfl, (List.forall₂_cons.mp hrest).1.symm, ?_⟩
  exact hcompare doubledSum shortfall 8 255 List.mem_cons_self (.tail _ List.mem_cons_self)

end PolledTerminal.Alu
