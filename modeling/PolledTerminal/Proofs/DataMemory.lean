import PolledTerminal.DataMemory
set_option autoImplicit false

/-!
# Data memory

Which addresses have cells, and what a segment leaves in them once it is loaded:
the bytes of a text can then be read one after the other, up to the zero that
ends it.
-/

namespace PolledTerminal.DataMemory

open PolledTerminal.Text (Bytes)

/-! ## Cells -/

theorem contains_iff (m : DataMemory) (addr : UInt8) :
    m.contains addr = true ↔
      m.base.toNat ≤ addr.toNat ∧ addr.toNat < m.base.toNat + m.cells.size := by
  rw [contains, Bool.and_eq_true, decide_eq_true_eq, decide_eq_true_eq, limit]

/-- Exactly the addresses that are backed by a cell can be read. -/
theorem read?_eq_none_iff (m : DataMemory) (addr : UInt8) :
    m.read? addr = none ↔ m.contains addr = false := by
  unfold read?
  cases hcontains : m.contains addr with
  | false => simp
  | true =>
      rw [contains, Bool.and_eq_true, decide_eq_true_eq, decide_eq_true_eq, limit] at hcontains
      simp only [if_true, Array.getElem?_eq_none_iff, reduceCtorEq, iff_false]
      omega

theorem write?_eq_none_iff (m : DataMemory) (addr value : UInt8) :
    m.write? addr value = none ↔ m.contains addr = false := by
  unfold write?
  cases m.contains addr <;> simp

/-- The memories differ in one cell at most, which has this byte now. -/
structure Stores (m : DataMemory) (addr value : UInt8) (m' : DataMemory) : Prop where
  base : m'.base = m.base
  size : m'.cells.size = m.cells.size
  cell : m'.read? addr = some value
  others : ∀ other ≠ addr, m'.read? other = m.read? other

/-- An address that is backed by a cell can be written, and nothing else changes. -/
theorem exists_stores {m : DataMemory} {addr : UInt8} (h : m.contains addr = true)
    (value : UInt8) : ∃ m', m.write? addr value = some m' ∧ m.Stores addr value m' := by
  let m' : DataMemory :=
    { m with cells := m.cells.setIfInBounds (addr.toNat - m.base.toNat) value }
  have hcontains (other : UInt8) : m'.contains other = m.contains other := by
    rw [Bool.eq_iff_iff, contains_iff, contains_iff]
    simp [m']
  have haddr := (m.contains_iff addr).mp h
  refine ⟨m', if_pos h, rfl, Array.size_setIfInBounds, ?_, ?_⟩
  · rw [read?, hcontains, if_pos h]
    apply Array.getElem?_setIfInBounds_self_of_lt
    omega
  · intro other hne
    rw [read?, read?, hcontains]
    by_cases hother : m.contains other = true
    · rw [if_pos hother, if_pos hother]
      have hbounds := (m.contains_iff other).mp hother
      have hdistinct : addr.toNat ≠ other.toNat := fun heq => hne (UInt8.toNat_inj.mp heq).symm
      show (m.cells.setIfInBounds _ value)[other.toNat - m.base.toNat]? = _
      apply Array.getElem?_setIfInBounds_ne
      omega
    · rw [if_neg hother, if_neg hother]

/-! ## Storing -/

theorem size_storeAt (cells : Array UInt8) (offset : Nat) (bs : Bytes) :
    (storeAt cells offset bs).size = cells.size := by
  induction bs generalizing cells offset with
  | nil => rfl
  | cons b bs ih => rw [storeAt, ih, Array.size_setIfInBounds]

/-- The cells before the offset stay as they are. -/
theorem getElem?_storeAt_of_lt (cells : Array UInt8) {offset j : Nat} (bs : Bytes)
    (h : j < offset) : (storeAt cells offset bs)[j]? = cells[j]? := by
  induction bs generalizing cells offset with
  | nil => rfl
  | cons b bs ih =>
      rw [storeAt, ih _ (Nat.lt_succ_of_lt h), Array.getElem?_setIfInBounds_ne (by omega)]

/-- The cells from the offset hold the bytes. -/
theorem getElem?_storeAt (cells : Array UInt8) {offset i : Nat} {bs : Bytes}
    (hfits : offset + bs.length ≤ cells.size) (hi : i < bs.length) :
    (storeAt cells offset bs)[offset + i]? = bs[i]? := by
  induction bs generalizing cells offset i with
  | nil => exact absurd hi (Nat.not_lt_zero i)
  | cons b bs ih =>
      rw [List.length_cons] at hfits hi
      cases i with
      | zero =>
          show (storeAt (cells.setIfInBounds offset b) (offset + 1) bs)[offset]? = some b
          rw [getElem?_storeAt_of_lt _ _ (Nat.lt_add_one offset),
            Array.getElem?_setIfInBounds_self_of_lt (by omega)]
      | succ i =>
          have hfits' : offset + 1 + bs.length ≤ (cells.setIfInBounds offset b).size := by
            rw [Array.size_setIfInBounds]
            omega
          rw [storeAt, show offset + (i + 1) = offset + 1 + i by omega,
            ih _ hfits' (Nat.lt_of_succ_lt_succ hi), List.getElem?_cons_succ]

/-! ## Loading -/

/-- Data memory has these bytes from an address on. -/
def Holds (m : DataMemory) (addr : UInt8) (bs : Bytes) : Prop :=
  ∀ i, i < bs.length → m.read? (addr + UInt8.ofNat i) = bs[i]?

theorem Holds.head {m : DataMemory} {addr b : UInt8} {bs : Bytes} (h : m.Holds addr (b :: bs)) :
    m.read? addr = some b := by
  have hfirst := h 0 (Nat.zero_lt_succ _)
  rwa [show addr + UInt8.ofNat 0 = addr from UInt8.add_zero addr, List.getElem?_cons_zero] at hfirst

theorem Holds.tail {m : DataMemory} {addr b : UInt8} {bs : Bytes} (h : m.Holds addr (b :: bs)) :
    m.Holds (addr + 1) bs := by
  intro i hi
  have hnext := h (i + 1) (Nat.succ_lt_succ hi)
  rwa [UInt8.ofNat_add, UInt8.add_comm (UInt8.ofNat i), ← UInt8.add_assoc,
    List.getElem?_cons_succ] at hnext

/-- The first of the bytes. -/
theorem Holds.left {m : DataMemory} {addr : UInt8} {bs cs : Bytes} (h : m.Holds addr (bs ++ cs)) :
    m.Holds addr bs := by
  intro i hi
  rw [h i (by rw [List.length_append]; omega), List.getElem?_append_left hi]

/-- The bytes behind the first. -/
theorem Holds.right {m : DataMemory} {addr : UInt8} {bs cs : Bytes} (h : m.Holds addr (bs ++ cs)) :
    m.Holds (addr + UInt8.ofNat bs.length) cs := by
  intro i hi
  have hbyte := h (bs.length + i) (by rw [List.length_append]; omega)
  rw [List.getElem?_append_right (Nat.le_add_right _ _), Nat.add_sub_cancel_left] at hbyte
  rwa [UInt8.add_assoc, ← UInt8.ofNat_add]

/-- A segment is loaded just when it lies inside data memory. -/
theorem load?_eq_none_iff (m : DataMemory) (s : Segment) :
    m.load? s = none ↔
      ¬ (m.base.toNat ≤ s.addr.toNat ∧ s.addr.toNat + s.bytes.length ≤ m.limit) := by
  unfold load?
  split <;> simp_all

/-- What loading a segment does. -/
theorem load?_eq_some {m m' : DataMemory} {s : Segment} (h : m.load? s = some m')
    (hlimit : m.limit ≤ 0x100) :
    m'.base = m.base ∧ m'.cells.size = m.cells.size ∧ m'.Holds s.addr s.bytes ∧
      s.addr.toNat + s.bytes.length ≤ 0x100 := by
  unfold load? at h
  split at h
  case isFalse => cases h
  case isTrue hinside =>
      cases h
      rw [limit] at hinside hlimit
      refine ⟨rfl, size_storeAt _ _ _, ?_, by omega⟩
      intro i hi
      have haddr : (s.addr + UInt8.ofNat i).toNat = s.addr.toNat + i := by
        rw [UInt8.toNat_add, UInt8.toNat_ofNat']
        omega
      have hcell : s.addr.toNat + i - m.base.toNat = s.addr.toNat - m.base.toNat + i := by omega
      rw [read?, contains, limit, haddr, size_storeAt, hcell,
        getElem?_storeAt _ (by omega) hi]
      exact if_pos (by simp; omega)

/-! ## Texts -/

/-- The bytes from an address in data memory to its end. -/
def bytesFrom (m : DataMemory) (addr : UInt8) : Bytes :=
  m.cells.toList.drop (addr.toNat - m.base.toNat)

/-- The text at an address: the bytes before the first zero, or all of them if there
is none. -/
def textFrom (m : DataMemory) (addr : UInt8) : Bytes := (m.bytesFrom addr).takeWhile (· ≠ 0)

section Texts

variable {m : DataMemory} {addr : UInt8}

/-- Addresses that are counted on from another one. -/
theorem add_ofNat_eq {other : UInt8} {n : Nat} (h : addr.toNat + n = other.toNat) :
    addr + UInt8.ofNat n = other := by
  have hbound := other.toNat_lt
  apply UInt8.toNat_inj.mp
  rw [UInt8.toNat_add, UInt8.toNat_ofNat']
  omega

theorem length_bytesFrom (h : m.contains addr = true) :
    addr.toNat + (m.bytesFrom addr).length = m.limit := by
  have haddr := (m.contains_iff addr).mp h
  rw [bytesFrom, List.length_drop, Array.length_toList, limit]
  omega

/-- The bytes are those that can be read. -/
theorem holds_bytesFrom (hlimit : m.limit ≤ 0x100) (h : m.contains addr = true) :
    m.Holds addr (m.bytesFrom addr) := by
  intro i hi
  have hlength := length_bytesFrom h
  have haddr := (m.contains_iff addr).mp h
  rw [limit] at hlimit hlength
  have hnext : (addr + UInt8.ofNat i).toNat = addr.toNat + i := by
    rw [UInt8.toNat_add, UInt8.toNat_ofNat']
    omega
  have hcontains : m.contains (addr + UInt8.ofNat i) = true := by
    rw [contains_iff, hnext]
    omega
  have hcell : addr.toNat + i - m.base.toNat = addr.toNat - m.base.toNat + i := by omega
  rw [read?, if_pos hcontains, hnext, hcell, bytesFrom, List.getElem?_drop, Array.getElem?_toList]

theorem mem_bytesFrom_iff (hlimit : m.limit ≤ 0x100) (h : m.contains addr = true) {b : UInt8} :
    b ∈ m.bytesFrom addr ↔ ∃ other, addr ≤ other ∧ m.read? other = some b := by
  have hholds := holds_bytesFrom hlimit h
  have hlength := length_bytesFrom h
  constructor
  · intro hb
    obtain ⟨i, hi, hbyte⟩ := List.getElem_of_mem hb
    refine ⟨addr + UInt8.ofNat i, ?_, ?_⟩
    · rw [UInt8.le_iff_toNat_le, UInt8.toNat_add, UInt8.toNat_ofNat']
      omega
    · rw [hholds i hi, List.getElem?_eq_getElem hi, hbyte]
  · rintro ⟨other, hle, hread⟩
    have hcontains : m.contains other = true := by
      cases hout : m.contains other with
      | true => rfl
      | false =>
          rw [(m.read?_eq_none_iff other).mpr hout] at hread
          cases hread
    have hother := ((m.contains_iff other).mp hcontains).2
    rw [UInt8.le_iff_toNat_le] at hle
    have hi : other.toNat - addr.toNat < (m.bytesFrom addr).length := by
      rw [limit] at hlength
      omega
    have haddr : addr + UInt8.ofNat (other.toNat - addr.toNat) = other :=
      add_ofNat_eq (Nat.add_sub_cancel' hle)
    have hbyte := hholds _ hi
    rw [haddr, hread] at hbyte
    exact List.mem_of_getElem? hbyte.symm

theorem zero_notMem_textFrom (m : DataMemory) (addr : UInt8) : 0 ∉ m.textFrom addr := by
  intro hzero
  have hnonzero := List.all_eq_true.mp List.all_takeWhile 0 hzero
  simp at hnonzero

/-- Where there is a zero, the text ends with one. -/
theorem exists_bytesFrom_eq (h : 0 ∈ m.bytesFrom addr) :
    ∃ rest, m.bytesFrom addr = m.textFrom addr ++ 0 :: rest := by
  obtain ⟨text, rest, heq, hzero⟩ := List.eq_append_cons_of_mem h
  have htext : m.textFrom addr = text := by
    have hnonzero : ∀ b ∈ text, decide (b ≠ 0) = true := fun b hb =>
      decide_eq_true fun hb0 => hzero (hb0 ▸ hb)
    rw [textFrom, heq, List.takeWhile_append_of_pos hnonzero,
      List.takeWhile_cons_of_neg (by simp), List.append_nil]
  exact ⟨rest, by rw [htext, heq]⟩

/-- A text with its zero can be read where there is one. -/
theorem holds_textFrom (hlimit : m.limit ≤ 0x100) (haddr : m.contains addr = true)
    (h : 0 ∈ m.bytesFrom addr) :
    m.Holds addr (m.textFrom addr ++ [0]) ∧
      addr.toNat + (m.textFrom addr).length < m.limit := by
  obtain ⟨rest, heq⟩ := exists_bytesFrom_eq h
  have hholds := holds_bytesFrom hlimit haddr
  have hlength := length_bytesFrom haddr
  rw [heq] at hholds hlength
  rw [List.append_cons] at hholds
  rw [List.length_append, List.length_cons] at hlength
  exact ⟨hholds.left, by omega⟩

end Texts

end PolledTerminal.DataMemory
