import PolledTerminal.Bus
set_option autoImplicit false

/-!
# The layout of the address space

Where data memory and the mappings lie.  A bus is disjoint when no address is
answered twice; mapping a device keeps it so, because whatever would be in the
way is an obstacle, and nothing that happens on a bus moves a mapping.
-/

namespace PolledTerminal

variable {δ : Type}

/-! ## Ranges -/

/-- The name and the ports of a mapping, whatever its device is doing. -/
def Mapping.place (m : Mapping δ) : String × UInt8 × UInt8 := (m.name, m.base, m.size)

/-- The address lies in the range of a place. -/
def inPlace (place : String × UInt8 × UInt8) (addr : UInt8) : Bool :=
  place.2.1.toNat ≤ addr.toNat && addr.toNat < place.2.1.toNat + place.2.2.toNat

theorem Mapping.contains_eq_inPlace (m : Mapping δ) (addr : UInt8) :
    m.contains addr = inPlace m.place addr := rfl

theorem Mapping.contains_iff (m : Mapping δ) (addr : UInt8) :
    m.contains addr = true ↔
      m.base.toNat ≤ addr.toNat ∧ addr.toNat < m.base.toNat + m.size.toNat := by
  rw [Mapping.contains, Bool.and_eq_true, decide_eq_true_eq, decide_eq_true_eq]
  rfl

/-- The port at an offset below the size is a port of the mapping. -/
theorem Mapping.contains_port {m : Mapping δ} (hfits : m.limit ≤ 0x100) {offset : UInt8}
    (hoffset : offset < m.size) : m.contains (m.base + offset) = true := by
  rw [Mapping.limit] at hfits
  have hlt : offset.toNat < m.size.toNat := UInt8.lt_iff_toNat_lt.mp hoffset
  rw [Mapping.contains_iff, UInt8.toNat_add]
  omega

/-- A mapping that does not overlap a range has no port in it. -/
theorem Mapping.outside_of_not_overlaps {m : Mapping δ} {base size addr : UInt8}
    (h : m.overlaps base size = false) (haddr : m.contains addr = true) :
    ¬ (base.toNat ≤ addr.toNat ∧ addr.toNat < base.toNat + size.toNat) := by
  simp only [Mapping.overlaps, Bool.and_eq_false_iff, decide_eq_false_iff_not] at h
  rw [Mapping.contains_iff] at haddr
  simp only [Mapping.limit] at h
  omega

namespace Bus

theorem mem_portRange {base size addr : UInt8} (hfits : base.toNat + size.toNat ≤ 0x100) :
    addr ∈ portRange base size ↔
      base.toNat ≤ addr.toNat ∧ addr.toNat < base.toNat + size.toNat := by
  simp only [portRange, List.mem_map, List.mem_range]
  constructor
  · rintro ⟨i, hi, rfl⟩
    rw [UInt8.toNat_add, UInt8.toNat_ofNat']
    omega
  · intro h
    refine ⟨addr.toNat - base.toNat, by omega, ?_⟩
    apply UInt8.toNat_inj.mp
    rw [UInt8.toNat_add, UInt8.toNat_ofNat']
    have := addr.toNat_lt
    omega

/-! ## Disjoint buses -/

/-- No address is answered twice, and no range goes beyond the last address. -/
structure Disjoint (b : Bus δ) : Prop where
  fits : ∀ m ∈ b.mappings, m.limit ≤ 0x100
  apart : b.mappings.Pairwise fun m n => ∀ addr, m.contains addr = true → n.contains addr = false
  offMemory : ∀ m ∈ b.mappings, ∀ addr, m.contains addr = true → b.ram.contains addr = false

/-- Data memory and the mappings lie where they lay before. -/
structure SamePlaces (b b' : Bus δ) : Prop where
  ramBase : b'.ram.base = b.ram.base
  ramSize : b'.ram.cells.size = b.ram.cells.size
  places : b'.mappings.map Mapping.place = b.mappings.map Mapping.place

theorem SamePlaces.refl (b : Bus δ) : SamePlaces b b := ⟨rfl, rfl, rfl⟩

theorem SamePlaces.trans {b b' b'' : Bus δ} (h : SamePlaces b b') (h' : SamePlaces b' b'') :
    SamePlaces b b'' :=
  ⟨h'.ramBase.trans h.ramBase, h'.ramSize.trans h.ramSize, h'.places.trans h.places⟩

theorem SamePlaces.contains {b b' : Bus δ} (h : SamePlaces b b') (addr : UInt8) :
    b'.ram.contains addr = b.ram.contains addr := by
  unfold DataMemory.contains DataMemory.limit
  rw [h.ramBase, h.ramSize]

/-- Every mapping has its like on a bus with the same places. -/
theorem exists_mapping_of_places {ε : Type} {b : Bus δ} {c : Bus ε}
    (h : c.mappings.map Mapping.place = b.mappings.map Mapping.place) {n : Mapping ε}
    (hn : n ∈ c.mappings) : ∃ m ∈ b.mappings, m.place = n.place := by
  have hmem : n.place ∈ b.mappings.map Mapping.place := by
    rw [← h]
    exact List.mem_map_of_mem hn
  exact List.mem_map.mp hmem

theorem SamePlaces.exists_mapping {b b' : Bus δ} (h : SamePlaces b b') {m' : Mapping δ}
    (hm' : m' ∈ b'.mappings) : ∃ m ∈ b.mappings, m.place = m'.place :=
  exists_mapping_of_places h.places hm'

/-- Whether a bus is disjoint depends on where things lie, and not on what its devices
are. -/
theorem Disjoint.of_places {ε : Type} {b : Bus δ} {c : Bus ε} (hb : b.Disjoint)
    (hram : ∀ addr, c.ram.contains addr = b.ram.contains addr)
    (hplaces : c.mappings.map Mapping.place = b.mappings.map Mapping.place) : c.Disjoint := by
  refine ⟨?_, ?_, ?_⟩
  · intro n hn
    obtain ⟨m, hm, hplace⟩ := exists_mapping_of_places hplaces hn
    simp only [Mapping.place, Prod.mk.injEq] at hplace
    have hfits := hb.fits m hm
    rw [Mapping.limit, hplace.2.1, hplace.2.2] at hfits
    exact hfits
  · have hapart : (b.mappings.map Mapping.place).Pairwise
        fun p q => ∀ addr, inPlace p addr = true → inPlace q addr = false :=
      List.pairwise_map.mpr hb.apart
    rw [← hplaces] at hapart
    exact List.pairwise_map.mp hapart
  · intro n hn addr haddr
    obtain ⟨m, hm, hplace⟩ := exists_mapping_of_places hplaces hn
    rw [hram]
    apply hb.offMemory m hm addr
    rw [Mapping.contains_eq_inPlace, hplace]
    exact haddr

theorem Disjoint.of_samePlaces {b b' : Bus δ} (hb : b.Disjoint) (h : SamePlaces b b') :
    b'.Disjoint :=
  hb.of_places h.contains h.places

/-- The mappings before a mapping do not answer at its ports. -/
theorem Disjoint.not_contains_before {b : Bus δ} (hb : b.Disjoint) {before after : List (Mapping δ)}
    {m : Mapping δ} (hsplit : b.mappings = before ++ m :: after) {addr : UInt8}
    (haddr : m.contains addr = true) : ∀ n ∈ before, n.contains addr = false := by
  intro n hn
  have hapart := hb.apart
  rw [hsplit, List.pairwise_append] at hapart
  cases hcontains : n.contains addr with
  | false => rfl
  | true =>
      have := hapart.2.2 n hn m List.mem_cons_self addr hcontains
      rw [haddr] at this
      exact this

/-! ## Mapping a device -/

theorem disjoint_empty (ram : DataMemory) : (Bus.empty ram : Bus δ).Disjoint :=
  ⟨by simp [Bus.empty], by simp [Bus.empty], by simp [Bus.empty]⟩

/-- Nothing is in the way of a range just when it fits, data memory has none of
its addresses and no mapping overlaps it. -/
theorem obstacle?_eq_none_iff (b : Bus δ) (base size : UInt8) :
    b.obstacle? base size = none ↔
      base.toNat + size.toNat ≤ 0x100 ∧
      (∀ addr ∈ portRange base size, b.ram.contains addr = false) ∧
      ∀ m ∈ b.mappings, m.overlaps base size = false := by
  unfold obstacle?
  by_cases hfits : 0x100 < base.toNat + size.toNat
  · have hnot : ¬ base.toNat + size.toNat ≤ 0x100 := by omega
    simp [hfits, hnot]
  · have hle : base.toNat + size.toNat ≤ 0x100 := by omega
    rw [if_neg hfits]
    by_cases hram : (portRange base size).any b.ram.contains = true
    · rw [if_pos hram]
      obtain ⟨addr, haddr, hcontains⟩ := List.any_eq_true.mp hram
      simp only [reduceCtorEq, false_iff]
      rintro ⟨-, hfree, -⟩
      rw [hfree addr haddr] at hcontains
      exact Bool.false_ne_true hcontains
    · rw [if_neg hram]
      have hfree : ∀ addr ∈ portRange base size, b.ram.contains addr = false := by
        simpa using hram
      simp only [Option.map_eq_none_iff, List.find?_eq_none, Bool.not_eq_true]
      exact ⟨fun h => ⟨hle, hfree, h⟩, fun h => h.2.2⟩

section Peripheral

variable [Peripheral δ]

/-- What mapping a device gives: one more mapping, at the end, where nothing was
in the way. -/
theorem map_eq_ok {b b' : Bus δ} {name : String} {base : UInt8} {device : δ}
    (h : b.map name base device = .ok b') :
    b.obstacle? base (Peripheral.registerCount device) = none ∧
      b' = { b with
        mappings := b.mappings ++ [⟨name, base, Peripheral.registerCount device, device⟩] } := by
  unfold Bus.map at h
  cases hobstacle : b.obstacle? base (Peripheral.registerCount device) with
  | some other => simp [hobstacle] at h
  | none =>
      simp only [hobstacle, Except.ok.injEq] at h
      exact ⟨rfl, h.symm⟩

theorem Disjoint.map {b b' : Bus δ} (hb : b.Disjoint) {name : String} {base : UInt8} {device : δ}
    (h : b.map name base device = .ok b') : b'.Disjoint := by
  obtain ⟨hnone, rfl⟩ := map_eq_ok h
  obtain ⟨hfits, hfree, hclear⟩ := (obstacle?_eq_none_iff b base _).mp hnone
  refine ⟨?_, ?_, ?_⟩
  · intro m hm
    rcases List.mem_append.mp hm with hm | hm
    · exact hb.fits m hm
    · rw [List.mem_singleton.mp hm]
      exact hfits
  · rw [List.pairwise_append]
    refine ⟨hb.apart, List.pairwise_singleton _ _, ?_⟩
    intro m hm n hn addr haddr
    rw [List.mem_singleton.mp hn, ← Bool.not_eq_true, Mapping.contains_iff]
    exact Mapping.outside_of_not_overlaps (hclear m hm) haddr
  · intro m hm addr haddr
    rcases List.mem_append.mp hm with hm | hm
    · exact hb.offMemory m hm addr haddr
    · rw [List.mem_singleton.mp hm, Mapping.contains_iff] at haddr
      exact hfree addr ((mem_portRange hfits).mpr haddr)

end Peripheral

end Bus

end PolledTerminal
