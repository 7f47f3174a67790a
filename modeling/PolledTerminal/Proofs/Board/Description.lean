import PolledTerminal.Proofs.Assembly
import PolledTerminal.Proofs.Bus.AddressSpace
set_option autoImplicit false

/-!
# What a board describes

The ports that a described device takes, the settings that a display looks for, and
what a board has to be to be accepted: data memory, settings and ports decide, and
the order of the devices has no part in it.
-/

namespace PolledTerminal

/-! ## What a description asks for -/

namespace DeviceSpec

/-- The kind of device is one that boards are built from. -/
def isKnown (s : DeviceSpec) : Bool := s.kind = "keyboard" ∨ s.kind = "display"

/-- How many ports a device of the kind decodes; one of no known kind is not built. -/
def registers (s : DeviceSpec) : UInt8 :=
  if s.kind = "keyboard" then 1 else if s.kind = "display" then 2 else 0

/-- The ports that the device takes. -/
def ports (s : DeviceSpec) : Set ℕ := portsFrom s.basePort s.registers

/-- The settings that a display looks for are in range where they are given. -/
structure SettingsFit (s : DeviceSpec) : Prop where
  busy : ∀ n, s.natural? "busy_cycles" = some n → n < UInt32.size
  scrollback : ∀ text, s.text? "scrollback" = some text →
    ∃ size, Size.parse text = .ok size ∧ 1 ≤ size

variable {s : DeviceSpec}

theorem registers_of_unknown (h : s.isKnown = false) : s.registers = 0 := by
  simp only [isKnown, decide_eq_false_iff_not, not_or] at h
  rw [registers, if_neg h.1, if_neg h.2]

theorem registers_of_keyboard (h : s.kind = "keyboard") : s.registers = 1 := if_pos h

theorem registers_of_display (h : s.kind = "display") : s.registers = 2 := by
  rw [registers, h]
  decide

theorem ports_of_unknown (h : s.isKnown = false) : s.ports = ∅ := by
  rw [ports, registers_of_unknown h, portsFrom]
  exact Set.Ico_self _

end DeviceSpec

/-- The addresses that a board's data memory takes at this size. -/
def MemoryRange.addresses (r : MemoryRange) (size : Nat) : Set ℕ :=
  Set.Ico r.base.toNat (r.base.toNat + size)

namespace Board

/-- What a board has to be to be accepted; the order of its devices is not part of
it. -/
structure Acceptable (b : Board) : Prop where
  memory : ∃ size, Size.parse b.ram.size = .ok size ∧ b.ram.base.toNat + size ≤ 0x100
  settings : ∀ s ∈ b.devices, s.kind = "display" → s.SettingsFit
  inside : ∀ s ∈ b.devices, s.ports ⊆ addressSpace
  apart : b.devices.Pairwise fun s t => Apart s.ports t.ports
  offMemory : ∀ size, Size.parse b.ram.size = .ok size →
    ∀ s ∈ b.devices, Apart s.ports (b.ram.addresses size)

/-- The board with its devices in another order, or with others. -/
def withDevices (b : Board) (devices : List DeviceSpec) : Board := { b with devices := devices }

theorem Acceptable.perm {b : Board} (h : b.Acceptable) {devices : List DeviceSpec}
    (hperm : b.devices.Perm devices) : (b.withDevices devices).Acceptable where
  memory := h.memory
  settings s hs := h.settings s (hperm.mem_iff.mpr hs)
  inside s hs := h.inside s (hperm.mem_iff.mpr hs)
  apart := (hperm.pairwise_iff fun hst => Disjoint.symm hst).mp h.apart
  offMemory size hsize s hs := h.offMemory size hsize s (hperm.mem_iff.mpr hs)

/-! ## Data memory and settings -/

theorem memoryOf_eq_ok_iff {b : Board} {ram : DataMemory} :
    b.memoryOf = .ok ram ↔ ∃ size, Size.parse b.ram.size = .ok size ∧
      b.ram.base.toNat + size ≤ 0x100 ∧ ram = .zeroed size b.ram.base := by
  constructor
  · intro h
    obtain ⟨size, hsize, rfl, hlimit⟩ := memoryOf_eq_ok h
    rw [DataMemory.limit, DataMemory.zeroed, Array.size_replicate] at hlimit
    exact ⟨size, hsize, hlimit, rfl⟩
  · rintro ⟨size, hsize, htop, rfl⟩
    have hover : ¬ Nat.pow 2 64 ≤ b.ram.base.toNat + size := by
      have hpow : 0x100 < Nat.pow 2 64 := by decide
      omega
    have htop' : ¬ 0x100 < b.ram.base.toNat + size := Nat.not_lt.mpr htop
    unfold memoryOf
    rw [hsize]
    show (if Nat.pow 2 64 ≤ b.ram.base.toNat + size then _ else _) = _
    rw [if_neg hover]
    show (if 0x100 < b.ram.base.toNat + size then _ else _) = _
    rw [if_neg htop']
    rfl

theorem scrollbackOf_eq_ok_iff {s : DeviceSpec} {limit : Nat} :
    scrollbackOf s = .ok limit ↔ 1 ≤ limit ∧
      (s.text? "scrollback" = none ∧ limit = defaultScrollback ∨
        ∃ text, s.text? "scrollback" = some text ∧ Size.parse text = .ok limit) := by
  unfold scrollbackOf
  cases s.text? "scrollback" with
  | none =>
      constructor
      · intro h
        cases h
        exact ⟨by decide, .inl ⟨rfl, rfl⟩⟩
      · rintro ⟨-, ⟨-, rfl⟩ | ⟨text, htext, -⟩⟩
        · rfl
        · cases htext
  | some text =>
      dsimp only
      rw [bind_eq_ok]
      constructor
      · rintro ⟨size, hsize, h⟩
        by_cases hzero : size = 0
        · rw [if_pos hzero] at h
          cases h
        · rw [if_neg hzero] at h
          cases h
          exact ⟨Nat.pos_of_ne_zero hzero, .inr ⟨text, rfl, mapError_eq_ok.mp hsize⟩⟩
      · rintro ⟨hpos, ⟨hnone, -⟩ | ⟨text', htext', hsize⟩⟩
        · cases hnone
        · cases htext'
          refine ⟨limit, mapError_eq_ok.mpr hsize, ?_⟩
          rw [if_neg (Nat.ne_of_gt hpos)]
          rfl

/-- A display that has just been built as a description asks. -/
structure IsBuiltAs (s : DeviceSpec) (d : Display) : Prop where
  ready : d.isBusy = false
  screen : d.screen.toList = []
  transcript : d.transcript.toList = []
  counters : d.clears = 0 ∧ d.writes = 0 ∧ d.overruns = 0
  busyCycles : d.busyCycles.toNat = (s.natural? "busy_cycles").getD defaultBusyCycles
  scrollback : scrollbackOf s = .ok d.transcript.limit ∧ d.screen.limit = d.transcript.limit

theorem isBuiltAs_of_displayOf {s : DeviceSpec} {d : Display} (h : displayOf s = .ok d) :
    IsBuiltAs s d := by
  unfold displayOf at h
  dsimp only at h
  by_cases hbusy : Nat.pow 2 32 ≤ (s.natural? "busy_cycles").getD defaultBusyCycles
  · rw [if_pos hbusy] at h
    cases h
  · rw [if_neg hbusy] at h
    obtain ⟨limit, hlimit, h⟩ := bind_eq_ok.mp h
    have hmax : max limit 1 = limit := Nat.max_eq_left (scrollbackOf_pos hlimit)
    have hfits : (UInt32.ofNat ((s.natural? "busy_cycles").getD defaultBusyCycles)).toNat =
        (s.natural? "busy_cycles").getD defaultBusyCycles :=
      UInt32.toNat_ofNat_of_lt' (Nat.lt_of_not_le hbusy)
    cases h
    refine ⟨rfl, rfl, rfl, ⟨rfl, rfl, rfl⟩, hfits, ?_, rfl⟩
    show scrollbackOf s = .ok (max limit 1)
    rw [hmax, hlimit]

/-- A display can be built just when its settings fit. -/
theorem exists_displayOf_iff {s : DeviceSpec} :
    (∃ d, displayOf s = .ok d) ↔ s.SettingsFit := by
  constructor
  · rintro ⟨d, h⟩
    have hbuilt := isBuiltAs_of_displayOf h
    constructor
    · intro n hn
      have hbusy := hbuilt.busyCycles
      rw [hn, Option.getD_some] at hbusy
      rw [← hbusy]
      exact d.busyCycles.toNat_lt
    · intro text htext
      obtain ⟨hpos, ⟨hnone, -⟩ | ⟨text', htext', hsize⟩⟩ :=
        scrollbackOf_eq_ok_iff.mp hbuilt.scrollback.1
      · rw [htext] at hnone
        cases hnone
      · rw [htext] at htext'
        cases htext'
        exact ⟨_, hsize, hpos⟩
  · intro h
    have hbusy : ¬ Nat.pow 2 32 ≤ (s.natural? "busy_cycles").getD defaultBusyCycles := by
      cases hn : s.natural? "busy_cycles" with
      | none => decide
      | some n => exact Nat.not_le.mpr (h.busy n hn)
    obtain ⟨limit, hlimit⟩ : ∃ limit, scrollbackOf s = .ok limit := by
      cases htext : s.text? "scrollback" with
      | none => exact ⟨_, scrollbackOf_eq_ok_iff.mpr ⟨by decide, .inl ⟨htext, rfl⟩⟩⟩
      | some text =>
          obtain ⟨size, hsize, hpos⟩ := h.scrollback text htext
          exact ⟨size, scrollbackOf_eq_ok_iff.mpr ⟨hpos, .inr ⟨text, htext, hsize⟩⟩⟩
    unfold displayOf
    dsimp only
    rw [if_neg hbusy, hlimit]
    exact ⟨_, rfl⟩

end Board

end PolledTerminal
