import PolledTerminal.Assembly
import PolledTerminal.Proofs.Bus.Devices
import PolledTerminal.Proofs.Except
set_option autoImplicit false

/-!
# Assembled buses

What a board gives when it can be assembled: a disjoint bus with zeroed data
memory below the top of the address space, whose first display and keyboard are
those of the first description of their kind, as they are when nothing has
happened yet.
-/

namespace PolledTerminal

namespace Board

/-! ## Data memory -/

/-- Data memory is zeroed and ends within the address space. -/
theorem memoryOf_eq_ok {b : Board} {ram : DataMemory} (h : b.memoryOf = .ok ram) :
    ∃ size, Size.parse b.ram.size = .ok size ∧ ram = .zeroed size b.ram.base ∧
      ram.limit ≤ 0x100 := by
  unfold memoryOf at h
  obtain ⟨size, hsize, h⟩ := bind_eq_ok.mp h
  dsimp only at h
  by_cases hover : Nat.pow 2 64 ≤ b.ram.base.toNat + size
  · rw [if_pos hover] at h
    cases h
  · rw [if_neg hover] at h
    by_cases htop : 0x100 < b.ram.base.toNat + size
    · rw [if_pos htop] at h
      cases h
    · rw [if_neg htop] at h
      cases h
      refine ⟨size, mapError_eq_ok.mp hsize, rfl, ?_⟩
      rw [DataMemory.limit, DataMemory.zeroed, Array.size_replicate]
      exact Nat.le_of_not_lt htop

/-! ## Devices -/

theorem scrollbackOf_pos {s : DeviceSpec} {limit : Nat} (h : scrollbackOf s = .ok limit) :
    0 < limit := by
  unfold scrollbackOf at h
  dsimp only at h
  cases htext : s.text? "scrollback" with
  | none =>
      rw [htext] at h
      cases h
      decide
  | some text =>
      rw [htext] at h
      obtain ⟨size, -, h⟩ := bind_eq_ok.mp h
      by_cases hzero : size = 0
      · rw [if_pos hzero] at h
        cases h
      · rw [if_neg hzero] at h
        cases h
        exact Nat.pos_of_ne_zero hzero

/-- A display as described has shown nothing yet, and keeps at least one byte. -/
theorem displayOf_eq_ok {s : DeviceSpec} {d : Display} (h : displayOf s = .ok d) :
    ∃ limit, scrollbackOf s = .ok limit ∧ 0 < limit ∧
      ∃ busy echo, d = { Display.new busy limit with echo := echo } := by
  unfold displayOf at h
  dsimp only at h
  by_cases hbusy : Nat.pow 2 32 ≤ (s.natural? "busy_cycles").getD defaultBusyCycles
  · rw [if_pos hbusy] at h
    cases h
  · rw [if_neg hbusy] at h
    obtain ⟨limit, hlimit, h⟩ := bind_eq_ok.mp h
    exact ⟨limit, hlimit, scrollbackOf_pos hlimit, _, _, (Except.ok.inj h).symm⟩

variable {δ : Type} [TerminalPeripheral δ]

/-- What is mapped for a description, by its kind. -/
theorem deviceOf_eq_ok {s : DeviceSpec} {x : Option δ} (h : deviceOf s = .ok x) :
    (s.kind = "keyboard" ∧ x = some (TerminalPeripheral.ofKeyboard {})) ∨
    (s.kind = "display" ∧
      ∃ d, displayOf s = .ok d ∧ x = some (TerminalPeripheral.ofDisplay d)) ∨
    (s.kind ≠ "keyboard" ∧ s.kind ≠ "display" ∧ x = none) := by
  unfold deviceOf at h
  split at h
  case isTrue hkeyboard =>
      cases h
      exact .inl ⟨hkeyboard, rfl⟩
  case isFalse hkeyboard =>
      split at h
      case isTrue hdisplay =>
          cases hd : displayOf s with
          | error why =>
              rw [hd] at h
              cases h
          | ok d =>
              rw [hd] at h
              cases h
              exact .inr (.inl ⟨hdisplay, d, rfl, rfl⟩)
      case isFalse hdisplay =>
          cases h
          exact .inr (.inr ⟨hkeyboard, hdisplay, rfl⟩)

/-! ## Mapping -/

/-- What mapping the devices of descriptions makes of a bus. -/
structure Maps (specs : List DeviceSpec) (bus bus' : Bus δ) : Prop where
  disjoint : bus.Disjoint → bus'.Disjoint
  sized : bus.Sized → bus'.Sized
  ram : bus'.ram = bus.ram
  display : bus'.display? = bus.display?.or
    ((specs.find? fun s => s.kind = "display").bind fun s => (displayOf s).toOption)
  keyboard : bus'.keyboard? = bus.keyboard?.or
    ((specs.find? fun s => s.kind = "keyboard").map fun _ => {})

section Lawful

variable [LawfulTerminalPeripheral δ] {bus bus₁ bus' : Bus δ} {s : DeviceSpec}
  {specs : List DeviceSpec}

omit [LawfulTerminalPeripheral δ] in
/-- What one more device adds to what can be found. -/
theorem found_of_map {name : String} {base : UInt8} {x : δ} (h : bus.map name base x = .ok bus₁) :
    bus₁.ram = bus.ram ∧
      bus₁.display? = bus.display?.or (TerminalPeripheral.display? x) ∧
      bus₁.keyboard? = bus.keyboard?.or (TerminalPeripheral.keyboard? x) := by
  obtain ⟨-, rfl⟩ := Bus.map_eq_ok h
  refine ⟨rfl, ?_, ?_⟩
  · rw [Bus.display?, List.findSome?_append, List.findSome?_singleton]
    rfl
  · rw [Bus.keyboard?, List.findSome?_append, List.findSome?_singleton]
    rfl

omit [LawfulTerminalPeripheral δ] in
theorem sized_of_map (hbus : bus.Sized) {name : String} {base : UInt8} {x : δ}
    (h : bus.map name base x = .ok bus₁)
    (hdisplay : (TerminalPeripheral.display? x).isSome = true → Peripheral.registerCount x = 2)
    (hkeyboard : (TerminalPeripheral.keyboard? x).isSome = true → Peripheral.registerCount x = 1) :
    bus₁.Sized := by
  obtain ⟨-, rfl⟩ := Bus.map_eq_ok h
  intro m hm
  rcases List.mem_append.mp hm with hm | hm
  · exact hbus m hm
  · rw [List.mem_singleton.mp hm]
    exact ⟨hdisplay, hkeyboard⟩

theorem Maps.ofKeyboard {name : String} {base : UInt8} (hkind : s.kind = "keyboard")
    (h : bus.map name base (TerminalPeripheral.ofKeyboard {}) = .ok bus₁)
    (hrest : Maps specs bus₁ bus') : Maps (s :: specs) bus bus' := by
  obtain ⟨hram, hdisplay, hkeyboard⟩ := found_of_map h
  rw [LawfulTerminalPeripheral.display?_ofKeyboard, Option.or_none] at hdisplay
  rw [LawfulTerminalPeripheral.keyboard?_ofKeyboard] at hkeyboard
  refine ⟨fun hb => hrest.disjoint (hb.map h), fun hb => hrest.sized (sized_of_map hb h ?_ ?_),
    hrest.ram.trans hram, ?_, ?_⟩
  · intro hsome
    rw [LawfulTerminalPeripheral.display?_ofKeyboard] at hsome
    cases hsome
  · intro _
    exact LawfulTerminalPeripheral.registerCount_ofKeyboard _
  · rw [hrest.display, hdisplay, List.find?_cons_of_neg (by simp [hkind])]
  · rw [hrest.keyboard, hkeyboard, List.find?_cons_of_pos (by simp [hkind]), Option.or_assoc]
    rfl

theorem Maps.ofDisplay {name : String} {base : UInt8} {d : Display} (hkind : s.kind = "display")
    (hd : displayOf s = .ok d)
    (h : bus.map name base (TerminalPeripheral.ofDisplay d) = .ok bus₁)
    (hrest : Maps specs bus₁ bus') : Maps (s :: specs) bus bus' := by
  obtain ⟨hram, hdisplay, hkeyboard⟩ := found_of_map h
  rw [LawfulTerminalPeripheral.display?_ofDisplay] at hdisplay
  rw [LawfulTerminalPeripheral.keyboard?_ofDisplay, Option.or_none] at hkeyboard
  refine ⟨fun hb => hrest.disjoint (hb.map h), fun hb => hrest.sized (sized_of_map hb h ?_ ?_),
    hrest.ram.trans hram, ?_, ?_⟩
  · intro _
    exact LawfulTerminalPeripheral.registerCount_ofDisplay d
  · intro hsome
    rw [LawfulTerminalPeripheral.keyboard?_ofDisplay] at hsome
    cases hsome
  · rw [hrest.display, hdisplay, List.find?_cons_of_pos (by simp [hkind]), Option.or_assoc,
      Option.bind_some, hd]
    rfl
  · rw [hrest.keyboard, hkeyboard, List.find?_cons_of_neg (by simp [hkind])]

theorem maps_of_mapAll (h : mapAll bus specs = .ok bus') : Maps specs bus bus' := by
  induction specs generalizing bus with
  | nil =>
      cases h
      exact ⟨id, id, rfl, (Option.or_none).symm, (Option.or_none).symm⟩
  | cons s specs ih =>
      obtain ⟨x, hx, h⟩ := bind_eq_ok.mp h
      rcases deviceOf_eq_ok hx with ⟨hkind, rfl⟩ | ⟨hkind, d, hd, rfl⟩ | ⟨hk, hd, rfl⟩
      · obtain ⟨bus₁, hmap, hrest⟩ := bind_eq_ok.mp h
        exact .ofKeyboard hkind (mapError_eq_ok.mp hmap) (ih hrest)
      · obtain ⟨bus₁, hmap, hrest⟩ := bind_eq_ok.mp h
        exact .ofDisplay hkind hd (mapError_eq_ok.mp hmap) (ih hrest)
      · have hrest := ih h
        refine ⟨hrest.disjoint, hrest.sized, hrest.ram, ?_, ?_⟩
        · rw [hrest.display, List.find?_cons_of_neg (by simpa using hd)]
        · rw [hrest.keyboard, List.find?_cons_of_neg (by simpa using hk)]

/-- What is known of the bus of a board. -/
structure Assembled (b : Board) (bus : Bus δ) : Prop where
  disjoint : bus.Disjoint
  sized : bus.Sized
  zeroed : ∃ size, bus.ram = .zeroed size b.ram.base
  ramFits : bus.ram.limit ≤ 0x100
  /-- the first display is the one that is described first -/
  display : ∀ d, bus.display? = some d →
    ∃ s, b.ofKind? "display" = some s ∧ displayOf s = .ok d
  keyboard : ∀ k, bus.keyboard? = some k → k = {}

theorem assembled {b : Board} (h : b.assemble = .ok bus) : Assembled b bus := by
  obtain ⟨ram, hram, h⟩ := bind_eq_ok.mp h
  obtain ⟨size, -, hzeroed, hlimit⟩ := memoryOf_eq_ok hram
  have hmaps := maps_of_mapAll h
  refine ⟨hmaps.disjoint (Bus.disjoint_empty ram), hmaps.sized ?_, ⟨size, ?_⟩, ?_, ?_, ?_⟩
  · intro m hm
    cases hm
  · rw [hmaps.ram, ← hzeroed]
    rfl
  · rw [hmaps.ram]
    exact hlimit
  · intro d hd
    rw [hmaps.display] at hd
    obtain ⟨s, hs, hd⟩ := Option.bind_eq_some_iff.mp hd
    exact ⟨s, hs, toOption_eq_some.mp hd⟩
  · intro k hk
    rw [hmaps.keyboard] at hk
    obtain ⟨s, -, rfl⟩ := Option.map_eq_some_iff.mp hk
    rfl

end Lawful

/-- The stock board, with the terminal's usual ports. -/
theorem stock_assembles : ∃ bus : Bus Device, stock.assemble = .ok bus ∧
    TerminalPorts.ofBus? bus = some {} ∧ bus.ram.base = 0 ∧ bus.ram.limit = 240 := by
  have heval : (stock.assemble : Except BoardFault (Bus Device)).toOption.map
      (fun bus => (TerminalPorts.ofBus? bus, bus.ram.base, bus.ram.limit)) =
        some (some {}, 0, 240) := by
    decide +kernel
  obtain ⟨bus, hbus, hfacts⟩ := Option.map_eq_some_iff.mp heval
  simp only [Prod.mk.injEq] at hfacts
  exact ⟨bus, toOption_eq_some.mp hbus, hfacts⟩

end Board

end PolledTerminal
