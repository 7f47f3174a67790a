import Mathlib.Order.CompletePartialOrder
import Mathlib.Order.Interval.Set.Disjoint
import PolledTerminal.Proofs.Bus.Calls
set_option autoImplicit false

/-!
# The address space

Ranges as sets of numbers: whatever is asked of a bus, what is mapped lies inside
the 256 addresses, and no two mappings and no mapping and data memory share one.
A device is mapped just when its range is free, and otherwise the bus stays as it
is and the fault names what is in the way.
-/

namespace PolledTerminal

variable {δ : Type}

/-! ## Ranges as sets -/

/-- So many ports from a base on. -/
def portsFrom (base size : UInt8) : Set ℕ := Set.Ico base.toNat (base.toNat + size.toNat)

/-- The ports that a mapping answers. -/
def Mapping.ports (m : Mapping δ) : Set ℕ := portsFrom m.base m.size

/-- The addresses of the cells; they may go beyond those that there are. -/
def DataMemory.addresses (ram : DataMemory) : Set ℕ := Set.Ico ram.base.toNat ram.limit

/-- All addresses that there are. -/
def addressSpace : Set ℕ := Set.Iio 0x100

/-- The ranges have no address in common. -/
def Apart (r s : Set ℕ) : Prop := Disjoint r s

theorem portsFrom_subset_iff {base size : UInt8} (hsize : 0 < size) :
    portsFrom base size ⊆ addressSpace ↔ base.toNat + size.toNat ≤ 0x100 := by
  have hpos : 0 < size.toNat := UInt8.lt_iff_toNat_lt.mp hsize
  constructor
  · intro h
    have hlast : base.toNat + size.toNat - 1 ∈ addressSpace := by
      apply h
      rw [portsFrom, Set.mem_Ico]
      omega
    rw [addressSpace, Set.mem_Iio] at hlast
    omega
  · intro h n hn
    rw [portsFrom, Set.mem_Ico] at hn
    rw [addressSpace, Set.mem_Iio]
    omega

/-- Ranges that are not empty share an address just when they overlap. -/
theorem Mapping.overlaps_eq_false_iff {m : Mapping δ} {base size : UInt8} (hm : 0 < m.size)
    (hsize : 0 < size) : m.overlaps base size = false ↔ Apart (portsFrom base size) m.ports := by
  have hmpos : 0 < m.size.toNat := UInt8.lt_iff_toNat_lt.mp hm
  have hpos : 0 < size.toNat := UInt8.lt_iff_toNat_lt.mp hsize
  rw [Apart, Mapping.ports, portsFrom, portsFrom, Set.Ico_disjoint_Ico, min_le_iff, le_max_iff,
    le_max_iff]
  simp only [Mapping.overlaps, Bool.and_eq_false_iff, decide_eq_false_iff_not]
  rw [Mapping.limit]
  omega

/-- Data memory has no port of a range just when it shares no address with it. -/
theorem DataMemory.contains_eq_false_iff (ram : DataMemory) {base size : UInt8}
    (hfits : base.toNat + size.toNat ≤ 0x100) :
    (∀ port ∈ Bus.portRange base size, ram.contains port = false) ↔
      Apart (portsFrom base size) ram.addresses := by
  rw [Apart, Set.disjoint_left]
  constructor
  · intro h n hn hram
    rw [portsFrom, Set.mem_Ico] at hn
    rw [addresses, Set.mem_Ico] at hram
    have hport : (UInt8.ofNat n).toNat = n := by
      rw [UInt8.toNat_ofNat']
      omega
    have hfree := h (UInt8.ofNat n) ((Bus.mem_portRange hfits).mpr (by rw [hport]; exact hn))
    have hcontains : ram.contains (UInt8.ofNat n) = true := by
      rw [contains_iff, hport]
      exact hram
    rw [hfree] at hcontains
    cases hcontains
  · intro h port hport
    have hn := (Bus.mem_portRange hfits).mp hport
    rw [← Bool.not_eq_true, contains_iff]
    apply h
    rw [portsFrom, Set.mem_Ico]
    exact hn

/-- Counting ports up from the base does not wrap around. -/
theorem Bus.toNat_of_getElem?_portRange {base size port : UInt8} {i : Nat}
    (hfits : base.toNat + size.toNat ≤ 0x100) (h : (Bus.portRange base size)[i]? = some port) :
    port.toNat = base.toNat + i := by
  obtain ⟨hi, rfl⟩ := List.getElem?_eq_some_iff.mp h
  simp only [Bus.portRange, List.length_map, List.length_range] at hi
  simp only [Bus.portRange, List.getElem_map, List.getElem_range]
  rw [UInt8.toNat_add, UInt8.toNat_ofNat']
  have := size.toNat_lt
  omega

/-! ## What is in the way -/

/-- A range that lies inside the address space and shares no address with data
memory or a mapping. -/
structure Bus.Free (b : Bus δ) (base size : UInt8) : Prop where
  inside : portsFrom base size ⊆ addressSpace
  offMemory : Apart (portsFrom base size) b.ram.addresses
  apart : ∀ m ∈ b.mappings, Apart (portsFrom base size) m.ports

/-- What is in the way of a range: the end of the address space before data
memory, data memory before a mapping, and of the mappings the earliest. -/
inductive Bus.InTheWay (b : Bus δ) (base size : UInt8) : String → Prop
  | ofEnd (houtside : ¬ portsFrom base size ⊆ addressSpace) :
      InTheWay b base size "end of address space"
  | ofMemory (hinside : portsFrom base size ⊆ addressSpace)
      (hmemory : ¬ Apart (portsFrom base size) b.ram.addresses) :
      InTheWay b base size "data memory"
  | ofMapping {before after : List (Mapping δ)} {m : Mapping δ}
      (hinside : portsFrom base size ⊆ addressSpace)
      (hmemory : Apart (portsFrom base size) b.ram.addresses)
      (hsplit : b.mappings = before ++ m :: after)
      (hbefore : ∀ n ∈ before, Apart (portsFrom base size) n.ports)
      (hmapping : ¬ Apart (portsFrom base size) m.ports) :
      InTheWay b base size m.name

section Obstacle

variable {b : Bus δ} {base size : UInt8} (hsizes : ∀ m ∈ b.mappings, 0 < m.size)
  (hsize : 0 < size)
include hsizes hsize

theorem Bus.obstacle?_eq_none_iff_free : b.obstacle? base size = none ↔ b.Free base size := by
  rw [Bus.obstacle?_eq_none_iff]
  constructor
  · rintro ⟨hfits, hmemory, hclear⟩
    refine ⟨(portsFrom_subset_iff hsize).mpr hfits,
      (b.ram.contains_eq_false_iff hfits).mp hmemory, ?_⟩
    intro m hm
    exact (Mapping.overlaps_eq_false_iff (hsizes m hm) hsize).mp (hclear m hm)
  · intro h
    have hfits := (portsFrom_subset_iff hsize).mp h.inside
    refine ⟨hfits, (b.ram.contains_eq_false_iff hfits).mpr h.offMemory, ?_⟩
    intro m hm
    exact (Mapping.overlaps_eq_false_iff (hsizes m hm) hsize).mpr (h.apart m hm)

/-- An obstacle that is found is the first in the way. -/
theorem Bus.inTheWay_of_obstacle? {other : String} (h : b.obstacle? base size = some other) :
    b.InTheWay base size other := by
  unfold Bus.obstacle? at h
  by_cases hfits : 0x100 < base.toNat + size.toNat
  · rw [if_pos hfits] at h
    cases h
    apply InTheWay.ofEnd
    rw [portsFrom_subset_iff hsize]
    omega
  · rw [if_neg hfits] at h
    have hle : base.toNat + size.toNat ≤ 0x100 := by omega
    have hinside := (portsFrom_subset_iff hsize).mpr hle
    by_cases hram : (portRange base size).any b.ram.contains = true
    · rw [if_pos hram] at h
      cases h
      apply InTheWay.ofMemory hinside
      rw [← b.ram.contains_eq_false_iff hle]
      simpa using hram
    · rw [if_neg hram] at h
      obtain ⟨m, hfind, rfl⟩ := Option.map_eq_some_iff.mp h
      obtain ⟨hoverlaps, before, after, hsplit, hbefore⟩ :=
        List.find?_eq_some_iff_append.mp hfind
      have hmem : m ∈ b.mappings := by simp [hsplit]
      refine InTheWay.ofMapping hinside ?_ hsplit ?_ ?_
      · rw [← b.ram.contains_eq_false_iff hle]
        simpa using hram
      · intro n hn
        apply (Mapping.overlaps_eq_false_iff (hsizes n (by simp [hsplit, hn])) hsize).mp
        simpa using hbefore n hn
      · rw [← Mapping.overlaps_eq_false_iff (hsizes m hmem) hsize, hoverlaps]
        simp

end Obstacle

/-! ## Mapping -/

/-- Everything that is mapped lies inside the address space, and apart from all
else that has addresses. -/
structure Bus.KeepsApart (b : Bus δ) : Prop where
  inside : ∀ m ∈ b.mappings, m.ports ⊆ addressSpace
  apart : b.mappings.Pairwise fun m n => Apart m.ports n.ports
  offMemory : ∀ m ∈ b.mappings, Apart m.ports b.ram.addresses

/-- A mapping whose ports nobody else answers shares no address with anybody. -/
theorem Mapping.apart_ports {m : Mapping δ} {range : Set ℕ} (hm : m.limit ≤ 0x100)
    (h : ∀ addr : UInt8, m.contains addr = true → addr.toNat ∉ range) :
    Apart m.ports range := by
  rw [Apart, Set.disjoint_left]
  intro n hn
  rw [Mapping.ports, portsFrom, Set.mem_Ico] at hn
  rw [Mapping.limit] at hm
  have haddr : (UInt8.ofNat n).toNat = n := by
    rw [UInt8.toNat_ofNat']
    omega
  have hnot := h (UInt8.ofNat n) ((m.contains_iff _).mpr (by rw [haddr]; exact hn))
  rwa [haddr] at hnot

theorem Bus.Disjoint.keepsApart {b : Bus δ} (hb : b.Disjoint)
    (hsizes : ∀ m ∈ b.mappings, 0 < m.size) : b.KeepsApart := by
  refine ⟨?_, ?_, ?_⟩
  · intro m hm
    exact (portsFrom_subset_iff (hsizes m hm)).mpr (hb.fits m hm)
  · refine hb.apart.imp_of_mem ?_
    intro m n hm hn hmn
    apply Mapping.apart_ports (hb.fits m hm)
    intro addr haddr hmem
    have hcontains : n.contains addr = true := (n.contains_iff addr).mpr hmem
    rw [hmn addr haddr] at hcontains
    cases hcontains
  · intro m hm
    apply Mapping.apart_ports (hb.fits m hm)
    intro addr haddr hmem
    have hcontains : b.ram.contains addr = true := (b.ram.contains_iff addr).mpr hmem
    rw [hb.offMemory m hm addr haddr] at hcontains
    cases hcontains

/-- What comes of mapping a device that decodes a port: it takes its range if that
is free, and nothing changes if it is not. -/
structure Bus.TakesIfFree [Peripheral δ] (b : Bus δ) (name : String) (base : UInt8) (device : δ) :
    Prop where
  free : b.Free base (Peripheral.registerCount device) →
    Act.run (Bus.call (.map name base device)) b =
      some (.ok none, b.withMapping (.ofDevice name base device))
  taken : ¬ b.Free base (Peripheral.registerCount device) →
    ∃ other, b.InTheWay base (Peripheral.registerCount device) other ∧
      Act.run (Bus.call (.map name base device)) b =
        some (.error (.conflict ⟨name, other, base, Peripheral.registerCount device⟩), b)
  /-- the ports that are compared with data memory are those from the base on -/
  unwrapped : base.toNat + (Peripheral.registerCount device).toNat ≤ 0x100 →
    ∀ i port, (Bus.portRange base (Peripheral.registerCount device))[i]? = some port →
      port.toNat = base.toNat + i

theorem Bus.takesIfFree [Peripheral δ] {b : Bus δ} (hsizes : ∀ m ∈ b.mappings, 0 < m.size)
    (name : String) (base : UInt8) {device : δ} (hsize : 0 < Peripheral.registerCount device) :
    b.TakesIfFree name base device := by
  have hfree : b.obstacle? base (Peripheral.registerCount device) = none ↔
      b.Free base (Peripheral.registerCount device) :=
    Bus.obstacle?_eq_none_iff_free hsizes hsize
  refine ⟨?_, ?_, fun hfits _ _ => Bus.toNat_of_getElem?_portRange hfits⟩
  · intro h
    apply Bus.run_call_map_of_ok
    exact Bus.map_of_none (hfree.mpr h) name
  · intro h
    cases hobstacle : b.obstacle? base (Peripheral.registerCount device) with
    | none => exact absurd (hfree.mp hobstacle) h
    | some other =>
        refine ⟨other, Bus.inTheWay_of_obstacle? hsizes hsize hobstacle, ?_⟩
        apply Bus.run_call_map_of_error
        rw [Bus.map, hobstacle]

/-- Whatever has been asked of a bus, its ranges lie inside the address space and
apart, and a device is mapped just when its range is free. -/
theorem devices_take_free_ranges [Peripheral δ] (ram : DataMemory) {calls : List (BusCall δ)}
    (hcalls : ∀ c ∈ calls, c.DecodesPort) :
    ∃ answers b, Act.inTurn Bus.call calls (.empty ram) = some (answers, b) ∧ b.KeepsApart ∧
      ∀ name base device, 0 < Peripheral.registerCount device → b.TakesIfFree name base device := by
  obtain ⟨answers, b, hruns, hb⟩ := Bus.LaidOut.of_calls ram calls
  have hsizes (m : Mapping δ) (hm : m ∈ b.mappings) : 0 < m.size := hb.size_pos hcalls hm
  refine ⟨answers, b, hruns, hb.disjoint.keepsApart hsizes, ?_⟩
  intro name base device hsize
  exact Bus.takesIfFree hsizes name base hsize

/-- A display, a keyboard that is asked for at a port of the display, and a read. -/
def overlappingCalls : List (BusCall Device) :=
  [.map "display" 0xA0 (.display (.new 1 16)), .map "keyboard" 0xA1 (.keyboard {}), .read 0xA0]

/-- With data memory that goes beyond the last address a keyboard is still mapped
when its port is free. -/
theorem devices_take_free_ranges_overlapping :
    (∀ c ∈ overlappingCalls, c.DecodesPort) ∧
    0 < Peripheral.registerCount (Device.keyboard {}) ∧
    ∃ answers b,
      Act.inTurn Bus.call overlappingCalls (.empty (.zeroed 0x20 0xF0)) = some (answers, b) ∧
      b.KeepsApart ∧ b.TakesIfFree "keyboard" 0xA2 (Device.keyboard {}) := by
  have hcalls : ∀ c ∈ overlappingCalls, c.DecodesPort := by
    simp only [overlappingCalls, List.forall_mem_cons, BusCall.DecodesPort]
    exact ⟨by decide, by decide, trivial, by simp⟩
  obtain ⟨answers, b, hruns, hapart, htakes⟩ :=
    devices_take_free_ranges (.zeroed 0x20 0xF0) hcalls
  have hsize : 0 < Peripheral.registerCount (Device.keyboard {}) := by decide
  exact ⟨hcalls, hsize, answers, b, hruns, hapart, htakes "keyboard" 0xA2 _ hsize⟩

end PolledTerminal
