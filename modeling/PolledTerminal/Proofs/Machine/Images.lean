import Mathlib.Algebra.GroupWithZero.Nat
import PolledTerminal.Proofs.Machine.Moves
import PolledTerminal.Proofs.DataMemory
set_option autoImplicit false

/-!
# Loading images

A segment is loaded just when each of its bytes has a cell, and then it is as if the
bytes had been written one after the other.  An image is loaded segment by segment, so a
cell has the byte of the last segment that has one for it; the first segment that does
not fit ends the loading, and those before it stay.
-/

namespace PolledTerminal

open PolledTerminal.Text (Bytes)

/-- The byte that a segment has for an address. -/
def Segment.byteAt? (s : Segment) (n : Nat) : Option UInt8 :=
  if s.addr.toNat ≤ n then s.bytes[n - s.addr.toNat]? else none

/-- The segment lies inside data memory. -/
def Segment.LiesIn (s : Segment) (m : DataMemory) : Prop :=
  m.base.toNat ≤ s.addr.toNat ∧ s.addr.toNat + s.bytes.length ≤ m.limit

instance (s : Segment) (m : DataMemory) : Decidable (s.LiesIn m) :=
  inferInstanceAs (Decidable (_ ∧ _))

namespace DataMemory

/-! ## Cells -/

/-- The byte of the cell at an address.  Data memory may reach beyond the addresses that
can be accessed. -/
def cellAt? (m : DataMemory) (n : Nat) : Option UInt8 :=
  if m.base.toNat ≤ n then m.cells[n - m.base.toNat]? else none

/-- An access finds the cell. -/
theorem read?_eq_cellAt? (m : DataMemory) (addr : UInt8) : m.read? addr = m.cellAt? addr.toNat := by
  unfold read? cellAt?
  cases hcontains : m.contains addr with
  | true => rw [if_pos rfl, if_pos ((m.contains_iff addr).mp hcontains).1]
  | false =>
      rw [if_neg Bool.false_ne_true]
      split
      case isFalse => rfl
      case isTrue hbase =>
          symm
          rw [Array.getElem?_eq_none_iff]
          have hout := mt (m.contains_iff addr).mpr (by rw [hcontains]; exact Bool.false_ne_true)
          omega

/-- Some address of this number has a cell. -/
def Backs (m : DataMemory) (n : Nat) : Prop := ∃ addr : UInt8, addr.toNat = n ∧ m.contains addr = true

theorem backs_iff {m : DataMemory} (hlimit : m.limit ≤ 0x100) (n : Nat) :
    m.Backs n ↔ m.base.toNat ≤ n ∧ n < m.limit := by
  constructor
  · rintro ⟨addr, rfl, hcontains⟩
    exact (m.contains_iff addr).mp hcontains
  · intro hn
    have haddr : (UInt8.ofNat n).toNat = n := by
      rw [UInt8.toNat_ofNat']
      exact Nat.mod_eq_of_lt (by omega)
    refine ⟨UInt8.ofNat n, haddr, (m.contains_iff _).mpr ?_⟩
    rw [haddr]
    exact hn

/-! ## Storing -/

/-- The cells behind the last byte stay as they are. -/
theorem getElem?_storeAt_of_le (cells : Array UInt8) {offset j : Nat} (bs : Bytes)
    (h : offset + bs.length ≤ j) : (storeAt cells offset bs)[j]? = cells[j]? := by
  induction bs generalizing cells offset with
  | nil => rfl
  | cons b bs ih =>
      rw [List.length_cons] at h
      rw [storeAt, ih _ (by omega), Array.getElem?_setIfInBounds_ne (by omega)]

/-- The byte stored for a cell is found there, and otherwise what was there. -/
theorem getElem?_storeAt_eq {cells : Array UInt8} {offset j : Nat} {bs : Bytes}
    (hfits : offset + bs.length ≤ cells.size) :
    (storeAt cells offset bs)[j]? =
      (if offset ≤ j then bs[j - offset]? else none).or cells[j]? := by
  by_cases hbefore : j < offset
  · rw [getElem?_storeAt_of_lt _ _ hbefore, if_neg (by omega), Option.none_or]
  · rw [if_pos (by omega)]
    by_cases hbehind : offset + bs.length ≤ j
    · rw [getElem?_storeAt_of_le _ _ hbehind, List.getElem?_eq_none (by omega), Option.none_or]
    · obtain ⟨i, rfl⟩ := Nat.exists_eq_add_of_le (Nat.le_of_not_lt hbefore)
      rw [getElem?_storeAt _ hfits (by omega), Nat.add_sub_cancel_left,
        List.getElem?_eq_getElem (by omega), Option.some_or]

/-- Write bytes one after the other, each to its own address. -/
def writeEach? (m : DataMemory) (addr : UInt8) : Bytes → Option DataMemory
  | [] => some m
  | b :: bs => (m.write? addr b).bind fun m => m.writeEach? (addr + 1) bs

/-- Bytes that lie inside can be written, and this stores them. -/
theorem writeEach?_eq {m : DataMemory} (hlimit : m.limit ≤ 0x100) {addr : UInt8} {bs : Bytes}
    (hbase : m.base.toNat ≤ addr.toNat) (hfits : addr.toNat + bs.length ≤ m.limit) :
    m.writeEach? addr bs =
      some { m with cells := storeAt m.cells (addr.toNat - m.base.toNat) bs } := by
  induction bs generalizing m addr with
  | nil => rfl
  | cons b bs ih =>
      rw [List.length_cons] at hfits
      have hcontains : m.contains addr = true := (m.contains_iff addr).mpr ⟨hbase, by
        rw [limit] at hfits
        omega⟩
      rw [writeEach?, write?, if_pos hcontains, Option.bind_some]
      cases bs with
      | nil => rfl
      | cons c bs =>
          rw [List.length_cons] at hfits
          -- there is a byte to come, so the next address is not the top
          have hnext : (addr + 1).toNat = addr.toNat + 1 := by
            rw [UInt8.toNat_add, UInt8.toNat_one]
            exact Nat.mod_eq_of_lt (by omega)
          let m₁ : DataMemory :=
            { m with cells := m.cells.setIfInBounds (addr.toNat - m.base.toNat) b }
          have hsame : m₁.limit = m.limit := by
            rw [limit, limit, Array.size_setIfInBounds]
          have hrest : m₁.writeEach? (addr + 1) (c :: bs) = _ :=
            ih (by omega) (by rw [hnext]; exact Nat.le_succ_of_le hbase)
              (by rw [hsame, hnext, List.length_cons]; omega)
          rw [hrest, hnext, show m₁.base = m.base from rfl, Nat.succ_sub hbase]
          rfl

/-! ## One segment -/

section Segment

variable {m : DataMemory} {s : Segment}

theorem load?_of_liesIn (h : s.LiesIn m) : m.load? s =
    some { m with cells := storeAt m.cells (s.addr.toNat - m.base.toNat) s.bytes } := if_pos h

theorem load?_of_not_liesIn (h : ¬ s.LiesIn m) : m.load? s = none := if_neg h

/-- A segment with bytes lies inside just when each of them has a cell. -/
theorem liesIn_iff_backs (hlimit : m.limit ≤ 0x100) (hbytes : s.bytes ≠ []) :
    s.LiesIn m ↔ ∀ i < s.bytes.length, m.Backs (s.addr.toNat + i) := by
  have hpos : 0 < s.bytes.length := List.length_pos_iff.mpr hbytes
  simp only [backs_iff hlimit]
  constructor
  · rintro ⟨hbase, hend⟩ i hi
    omega
  · intro hcells
    have hfirst := hcells 0 hpos
    have hlast := hcells (s.bytes.length - 1) (by omega)
    exact ⟨hfirst.1, by omega⟩

/-- The memories differ in the cells for which the segment has a byte, and these have it
now. -/
structure Overwrites (m : DataMemory) (byteAt? : Nat → Option UInt8) (m' : DataMemory) : Prop where
  base : m'.base = m.base
  size : m'.cells.size = m.cells.size
  cells : ∀ n, m'.cellAt? n = (byteAt? n).or (m.cellAt? n)

theorem Overwrites.refl (m : DataMemory) : m.Overwrites (fun _ => none) m :=
  ⟨rfl, rfl, fun _ => rfl⟩

/-- Later bytes count. -/
theorem Overwrites.trans {m m' m'' : DataMemory} {f g : Nat → Option UInt8}
    (h : m.Overwrites f m') (h' : m'.Overwrites g m'') :
    m.Overwrites (fun n => (g n).or (f n)) m'' := by
  refine ⟨h'.base.trans h.base, h'.size.trans h.size, fun n => ?_⟩
  rw [h'.cells, h.cells, Option.or_assoc]

/-- What lay inside before lies inside after. -/
theorem Overwrites.liesIn_iff {m' : DataMemory} {f : Nat → Option UInt8} (h : m.Overwrites f m')
    (s : Segment) : s.LiesIn m' ↔ s.LiesIn m := by
  rw [Segment.LiesIn, Segment.LiesIn, limit, limit, h.base, h.size]

theorem overwrites_of_load? {m' : DataMemory} (h : m.load? s = some m') :
    m.Overwrites s.byteAt? m' := by
  by_cases hinside : s.LiesIn m
  · rw [load?_of_liesIn hinside] at h
    cases h
    obtain ⟨hbase, hend⟩ := hinside
    rw [limit] at hend
    refine ⟨rfl, size_storeAt _ _ _, fun n => ?_⟩
    show (if m.base.toNat ≤ n then
      (storeAt m.cells (s.addr.toNat - m.base.toNat) s.bytes)[n - m.base.toNat]? else none) = _
    unfold cellAt? Segment.byteAt?
    by_cases hn : m.base.toNat ≤ n
    · rw [if_pos hn, if_pos hn, getElem?_storeAt_eq (by omega)]
      by_cases haddr : s.addr.toNat ≤ n
      · rw [if_pos (by omega), if_pos haddr,
          show n - m.base.toNat - (s.addr.toNat - m.base.toNat) = n - s.addr.toNat by omega]
      · rw [if_neg (by omega), if_neg haddr]
    · rw [if_neg hn, if_neg hn, if_neg (by omega)]
      rfl
  · rw [load?_of_not_liesIn hinside] at h
    cases h

/-- What is read after a segment was loaded. -/
theorem read?_of_load? {m' : DataMemory} (h : m.load? s = some m') (addr : UInt8) :
    m'.read? addr = (s.byteAt? addr.toNat).or (m.read? addr) := by
  rw [read?_eq_cellAt?, (overwrites_of_load? h).cells, read?_eq_cellAt?]

/-- A segment with bytes is loaded just when each of them has a cell. -/
theorem isSome_load?_iff (hlimit : m.limit ≤ 0x100) (hbytes : s.bytes ≠ []) :
    (m.load? s).isSome ↔ ∀ i < s.bytes.length, m.Backs (s.addr.toNat + i) := by
  rw [← liesIn_iff_backs hlimit hbytes, Option.isSome_iff_ne_none, Ne, load?_eq_none_iff,
    Classical.not_not]
  rfl

/-- Loading a segment is writing its bytes one after the other. -/
theorem writeEach?_of_load? (hlimit : m.limit ≤ 0x100) {m' : DataMemory} (h : m.load? s = some m') :
    m.writeEach? s.addr s.bytes = some m' := by
  by_cases hinside : s.LiesIn m
  · rw [writeEach?_eq hlimit hinside.1 hinside.2, ← load?_of_liesIn hinside, h]
  · rw [load?_of_not_liesIn hinside] at h
    cases h

/-! ## Words and slices -/

/-- A sum of words, if it is a word of 64 bits. -/
def sumWord? (a b : Nat) : Option Nat := if a + b < 2 ^ 64 then some (a + b) else none

/-- A difference of words, if it is one. -/
def differenceWord? (a b : Nat) : Option Nat := if b ≤ a then some (a - b) else none

/-- A slice of the cells, replaced by bytes, if there is such a slice. -/
def replaceSlice? (cells : Array UInt8) (start stop : Nat) (bs : Bytes) : Option (Array UInt8) :=
  if start ≤ stop ∧ stop ≤ cells.size ∧ stop - start = bs.length then some (storeAt cells start bs)
  else none

/-- Loading a segment in words and slices: whether it was loaded, and what is in memory then.
There is no result where a word overflows or a slice is not there. -/
def loadInWords? (m : DataMemory) (s : Segment) : Option (Bool × DataMemory) := do
  let stop ← sumWord? s.addr.toNat s.bytes.length
  let limit ← sumWord? m.base.toNat m.cells.size
  if m.base.toNat ≤ s.addr.toNat ∧ stop ≤ limit then
    let offset ← differenceWord? s.addr.toNat m.base.toNat
    let last ← sumWord? offset s.bytes.length
    let cells ← replaceSlice? m.cells offset last s.bytes
    return (true, { m with cells := cells })
  else return (false, m)

theorem sumWord?_of_lt {a b : Nat} (h : a + b < 2 ^ 64) : sumWord? a b = some (a + b) := if_pos h

/-- Nothing breaks down, whatever the sizes, as long as the cells and the bytes can be held
at all. -/
theorem loadInWords?_eq (hcells : m.cells.size < 2 ^ 63) (hbytes : s.bytes.length < 2 ^ 63) :
    m.loadInWords? s = some ((m.load? s).isSome, (m.load? s).getD m) := by
  have haddr := s.addr.toNat_lt
  have hbase := m.base.toNat_lt
  have hstop : sumWord? s.addr.toNat s.bytes.length = _ := sumWord?_of_lt (by omega)
  have hlimit : sumWord? m.base.toNat m.cells.size = _ := sumWord?_of_lt (by omega)
  unfold loadInWords?
  rw [hstop, hlimit, Option.bind_eq_bind, Option.bind_some, Option.bind_eq_bind, Option.bind_some]
  by_cases hinside : m.base.toNat ≤ s.addr.toNat ∧
      s.addr.toNat + s.bytes.length ≤ m.base.toNat + m.cells.size
  · obtain ⟨hle, hend⟩ := hinside
    have hoffset : differenceWord? s.addr.toNat m.base.toNat = some _ := if_pos hle
    have hlast : sumWord? (s.addr.toNat - m.base.toNat) s.bytes.length = _ :=
      sumWord?_of_lt (by omega)
    have hslice : replaceSlice? m.cells (s.addr.toNat - m.base.toNat)
        (s.addr.toNat - m.base.toNat + s.bytes.length) s.bytes = some _ :=
      if_pos ⟨Nat.le_add_right _ _, by omega, Nat.add_sub_cancel_left _ _⟩
    rw [if_pos ⟨hle, hend⟩, hoffset, Option.bind_some, hlast, Option.bind_some, hslice,
      load?_of_liesIn (s := s) ⟨hle, hend⟩]
    rfl
  · rw [if_neg hinside, load?_of_not_liesIn hinside]
    rfl

end Segment

end DataMemory

/-! ## Images -/

namespace Machine

/-- The byte that an image has for an address: a later segment overwrites an earlier one. -/
def imageByteAt? (image : DataImage) (n : Nat) : Option UInt8 :=
  image.reverse.findSome? fun s => s.byteAt? n

/-- The segments before the first that does not fit. -/
def fitting (ram : DataMemory) (image : DataImage) : DataImage :=
  image.takeWhile fun s => decide (s.LiesIn ram)

/-- The first segment that does not fit. -/
def firstMisfit? (ram : DataMemory) (image : DataImage) : Option Segment :=
  image.find? fun s => ¬ s.LiesIn ram

/-- The answer to loading an image. -/
def answerOf (ram : DataMemory) (image : DataImage) : Except Fault Unit :=
  match firstMisfit? ram image with
  | none => .ok ()
  | some s => .error (.outOfRange s.addr s.bytes.length)

theorem imageByteAt?_cons (s : Segment) (image : DataImage) (n : Nat) :
    imageByteAt? (s :: image) n = (imageByteAt? image n).or (s.byteAt? n) := by
  rw [imageByteAt?, List.reverse_cons, List.findSome?_append, List.findSome?_singleton,
    imageByteAt?]

section Fitting

variable {ram ram' : DataMemory} {f : Nat → Option UInt8}

/-- What has been loaded decides nothing about what fits. -/
theorem decide_liesIn_of_overwrites (h : ram.Overwrites f ram') :
    (fun s : Segment => decide (s.LiesIn ram')) = fun s => decide (s.LiesIn ram) := by
  funext s
  exact decide_eq_decide.mpr (h.liesIn_iff s)

theorem fitting_of_overwrites (h : ram.Overwrites f ram') (image : DataImage) :
    fitting ram' image = fitting ram image := by
  rw [fitting, decide_liesIn_of_overwrites h, fitting]

theorem firstMisfit?_of_overwrites (h : ram.Overwrites f ram') (image : DataImage) :
    firstMisfit? ram' image = firstMisfit? ram image := by
  simp only [firstMisfit?, h.liesIn_iff]

end Fitting

/-- What loading segments answers, and what it leaves in data memory. -/
theorem loadSegments_eq (ram : DataMemory) (image : DataImage) :
    (loadSegments ram image).1 = answerOf ram image ∧
      ram.Overwrites (imageByteAt? (fitting ram image)) (loadSegments ram image).2 := by
  induction image generalizing ram with
  | nil => exact ⟨rfl, .refl ram⟩
  | cons s image ih =>
      by_cases hinside : s.LiesIn ram
      · obtain ⟨ram₁, hload⟩ : ∃ ram₁, ram.load? s = some ram₁ :=
          ⟨_, DataMemory.load?_of_liesIn hinside⟩
        have hs := DataMemory.overwrites_of_load? hload
        obtain ⟨hanswer, hcells⟩ := ih ram₁
        rw [answerOf, firstMisfit?_of_overwrites hs] at hanswer
        rw [fitting_of_overwrites hs] at hcells
        have hfits : fitting ram (s :: image) = s :: fitting ram image :=
          List.takeWhile_cons_of_pos (decide_eq_true hinside)
        have hmisfit : firstMisfit? ram (s :: image) = firstMisfit? ram image :=
          List.find?_cons_of_neg (by simpa using hinside)
        rw [loadSegments, hload, answerOf, hmisfit, hfits, funext (imageByteAt?_cons s _)]
        exact ⟨hanswer, hs.trans hcells⟩
      · have hload := DataMemory.load?_of_not_liesIn hinside
        have hfits : fitting ram (s :: image) = [] :=
          List.takeWhile_cons_of_neg (by simpa using hinside)
        have hmisfit : firstMisfit? ram (s :: image) = some s :=
          List.find?_cons_of_pos (by simpa using hinside)
        rw [loadSegments, hload, answerOf, hmisfit, hfits]
        exact ⟨rfl, .refl ram⟩

end Machine

/-- In data memory of at most 256 addresses, a segment with bytes is loaded just when each
of its bytes has a cell, and what is in memory then is what writing them one after the other
leaves there.  In words of 64 bits and slices of the cells nothing breaks down, whatever the
memory and the segment, and a segment that is not loaded leaves memory as it was.  A machine
loads an image up to the first segment that does not fit, and answers with its address and
length; the cells have the bytes of the segments before it, the last of them where there are
several, and nothing else of the machine changes. -/
theorem images_load_byte_by_byte {σ δ : Type} :
    (∀ (ram : DataMemory) (s : Segment), ram.limit ≤ 0x100 → s.bytes ≠ [] →
      ((ram.load? s).isSome ↔ ∀ i < s.bytes.length, ram.Backs (s.addr.toNat + i)) ∧
      ∀ ram', ram.load? s = some ram' →
        ram.writeEach? s.addr s.bytes = some ram' ∧
        ∀ addr, ram'.read? addr = (s.byteAt? addr.toNat).or (ram.read? addr)) ∧
    (∀ (ram : DataMemory) (s : Segment), ram.cells.size < 2 ^ 63 → s.bytes.length < 2 ^ 63 →
      ram.loadInWords? s = some ((ram.load? s).isSome, (ram.load? s).getD ram)) ∧
    ∀ (m : Machine σ δ) (image : DataImage), ∃ ram',
      m.bus.ram.Overwrites (Machine.imageByteAt? (Machine.fitting m.bus.ram image)) ram' ∧
      (Machine.loadImage image).run m =
        some (Machine.answerOf m.bus.ram image,
          m.changeBus fun bus => { bus with ram := ram' }) := by
  refine ⟨fun ram s hlimit hbytes => ⟨DataMemory.isSome_load?_iff hlimit hbytes, ?written⟩,
    fun ram s => DataMemory.loadInWords?_eq, fun m image => ?machine⟩
  case written =>
    intro ram' hload
    exact ⟨DataMemory.writeEach?_of_load? hlimit hload, DataMemory.read?_of_load? hload⟩
  case machine =>
    obtain ⟨hanswer, hcells⟩ := Machine.loadSegments_eq m.bus.ram image
    refine ⟨_, hcells, ?_⟩
    rw [← hanswer]
    rfl

/-- The last two addresses take a segment of two bytes, and the last one does not. -/
theorem images_load_byte_by_byte_at_the_top :
    (∀ i < 2, (DataMemory.zeroed 4 0xFC).Backs (0xFE + i)) ∧
      (¬ ∀ i < 2, (DataMemory.zeroed 4 0xFC).Backs (0xFF + i)) ∧
      (DataMemory.zeroed 4 0xFC).loadInWords? ⟨0xFF, [1, 2]⟩ =
        some (false, DataMemory.zeroed 4 0xFC) := by
  obtain ⟨hbytes, hwords, -⟩ := @images_load_byte_by_byte Unit Unit
  have hfits := (hbytes (.zeroed 4 0xFC) ⟨0xFE, [1, 2]⟩ (by decide) (by decide)).1
  have hmisses := (hbytes (.zeroed 4 0xFC) ⟨0xFF, [1, 2]⟩ (by decide) (by decide)).1
  have hmemory := hwords (.zeroed 4 0xFC) ⟨0xFF, [1, 2]⟩ (by decide) (by decide)
  exact ⟨hfits.mp (by decide), fun hcells => absurd (hmisses.mpr hcells) (by decide), hmemory⟩

end PolledTerminal
