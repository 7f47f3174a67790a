import Mathlib.Data.List.Forall2
import PolledTerminal.Proofs.Board.Description
set_option autoImplicit false

/-!
# Which boards are accepted

A board is assembled device by device, and the first that does not fit ends it.
All the same it is accepted just when it is acceptable, whatever the order of its
devices, and what is assembled is what the board describes, in its order.
-/

namespace PolledTerminal

namespace Board

/-! ## Devices in order -/

section Mapping

variable {δ : Type} [TerminalPeripheral δ]

/-- The mapping that a description asks for, unless its kind is not known. -/
def mappingOf? (s : DeviceSpec) : Option (Mapping δ) :=
  match deviceOf (δ := δ) s with
  | .ok (some device) => some (.ofDevice s.id s.basePort device)
  | _ => none

/-- A bus has room for all of the devices at once, and each can be built. -/
structure Room (bus : Bus δ) (specs : List DeviceSpec) : Prop where
  settings : ∀ s ∈ specs, s.kind = "display" → s.SettingsFit
  inside : ∀ s ∈ specs, s.ports ⊆ addressSpace
  apart : specs.Pairwise fun s t => Apart s.ports t.ports
  offMemory : ∀ s ∈ specs, Apart s.ports bus.ram.addresses
  offMappings : ∀ s ∈ specs, ∀ m ∈ bus.mappings, Apart s.ports m.ports

variable {bus bus' : Bus δ} {s : DeviceSpec} {specs : List DeviceSpec} {device : δ}

omit [TerminalPeripheral δ] in
theorem room_nil (bus : Bus δ) : Room bus [] := ⟨nofun, nofun, .nil, nofun, nofun⟩

omit [TerminalPeripheral δ] in
theorem room_cons_of_unknown (h : s.isKnown = false) : Room bus (s :: specs) ↔ Room bus specs := by
  have hports := DeviceSpec.ports_of_unknown h
  have hdisplay : s.kind ≠ "display" := by
    simp only [DeviceSpec.isKnown, decide_eq_false_iff_not, not_or] at h
    exact h.2
  have hnone (r : Set ℕ) : Apart s.ports r := by
    rw [Apart, hports]
    exact Set.empty_disjoint r
  constructor
  · intro hroom
    exact ⟨fun t ht => hroom.settings t (.tail s ht), fun t ht => hroom.inside t (.tail s ht),
      hroom.apart.of_cons, fun t ht => hroom.offMemory t (.tail s ht),
      fun t ht => hroom.offMappings t (.tail s ht)⟩
  · intro hroom
    refine ⟨?_, ?_, hroom.apart.cons fun t _ => hnone t.ports, ?_, ?_⟩
    · exact List.forall_mem_cons.mpr ⟨fun hkind => absurd hkind hdisplay, hroom.settings⟩
    · refine List.forall_mem_cons.mpr ⟨?_, hroom.inside⟩
      rw [hports]
      exact Set.empty_subset _
    · exact List.forall_mem_cons.mpr ⟨hnone _, hroom.offMemory⟩
    · exact List.forall_mem_cons.mpr ⟨fun m _ => hnone m.ports, hroom.offMappings⟩

/-- Room for a device and others is room for the device, and for the others once it
is mapped. -/
theorem room_cons_iff (hregisters : Peripheral.registerCount device = s.registers)
    (hsettings : s.kind = "display" → s.SettingsFit) :
    Room bus (s :: specs) ↔ bus.Free s.basePort (Peripheral.registerCount device) ∧
      Room (bus.withMapping (.ofDevice s.id s.basePort device)) specs := by
  have hports : (Mapping.ofDevice s.id s.basePort device).ports = s.ports := by
    rw [DeviceSpec.ports, ← hregisters]
    rfl
  constructor
  · intro hroom
    constructor
    · rw [hregisters]
      exact ⟨hroom.inside s List.mem_cons_self, hroom.offMemory s List.mem_cons_self,
        hroom.offMappings s List.mem_cons_self⟩
    · refine ⟨fun t ht => hroom.settings t (.tail s ht), fun t ht => hroom.inside t (.tail s ht),
        hroom.apart.of_cons, fun t ht => hroom.offMemory t (.tail s ht), ?_⟩
      intro t ht m hm
      rcases List.mem_append.mp hm with hm | hm
      · exact hroom.offMappings t (.tail s ht) m hm
      · rw [List.mem_singleton.mp hm, hports]
        exact Disjoint.symm (List.rel_of_pairwise_cons hroom.apart ht)
  · rintro ⟨hfree, hroom⟩
    rw [hregisters] at hfree
    refine ⟨?_, ?_, hroom.apart.cons ?_, ?_, ?_⟩
    · exact List.forall_mem_cons.mpr ⟨hsettings, hroom.settings⟩
    · exact List.forall_mem_cons.mpr ⟨hfree.inside, hroom.inside⟩
    · intro t ht
      have hapart := hroom.offMappings t ht _ (List.mem_append_right _ (List.mem_singleton.mpr rfl))
      rw [hports] at hapart
      exact Disjoint.symm hapart
    · exact List.forall_mem_cons.mpr ⟨hfree.offMemory, hroom.offMemory⟩
    · refine List.forall_mem_cons.mpr ⟨hfree.apart, fun t ht m hm => ?_⟩
      exact hroom.offMappings t ht m (List.mem_append_left _ hm)

/-- A device is mapped just when its ports are free. -/
theorem map_eq_ok_iff (hsizes : ∀ m ∈ bus.mappings, 0 < m.size) (name : String) (base : UInt8)
    (hsize : 0 < Peripheral.registerCount device) :
    bus.map name base device = .ok bus' ↔ bus.Free base (Peripheral.registerCount device) ∧
      bus' = bus.withMapping (.ofDevice name base device) := by
  rw [← Bus.obstacle?_eq_none_iff_free hsizes hsize]
  constructor
  · exact Bus.map_eq_ok
  · rintro ⟨hnone, rfl⟩
    exact Bus.map_of_none hnone name

theorem sizes_withMapping (hsizes : ∀ m ∈ bus.mappings, 0 < m.size) (name : String) (base : UInt8)
    (hsize : 0 < Peripheral.registerCount device) :
    ∀ m ∈ (bus.withMapping (.ofDevice name base device)).mappings, 0 < m.size := by
  intro m hm
  rcases List.mem_append.mp hm with hm | hm
  · exact hsizes m hm
  · rw [List.mem_singleton.mp hm]
    exact hsize

/-- The bus with the mappings that descriptions ask for behind its own. -/
def withMappingsOf (bus : Bus δ) (specs : List DeviceSpec) : Bus δ :=
  { bus with mappings := bus.mappings ++ specs.filterMap mappingOf? }

theorem withMappingsOf_cons (hdevice : deviceOf s = .ok (some device)) :
    withMappingsOf (bus.withMapping (.ofDevice s.id s.basePort device)) specs =
      withMappingsOf bus (s :: specs) := by
  have hmapping : mappingOf? s = some (Mapping.ofDevice s.id s.basePort device) := by
    rw [mappingOf?, hdevice]
  rw [withMappingsOf, withMappingsOf, List.filterMap_cons_some hmapping, Bus.withMapping,
    List.append_assoc]
  rfl

theorem withMappingsOf_cons_none (hdevice : deviceOf s = .ok (none : Option δ)) :
    withMappingsOf bus (s :: specs) = withMappingsOf bus specs := by
  have hmapping : mappingOf? s = (none : Option (Mapping δ)) := by
    rw [mappingOf?, hdevice]
  rw [withMappingsOf, withMappingsOf, List.filterMap_cons_none hmapping]

theorem mapAll_cons_of_none (hdevice : deviceOf s = .ok (none : Option δ)) :
    mapAll bus (s :: specs) = mapAll bus specs := by
  rw [mapAll, hdevice]
  rfl

theorem deviceOf_of_unknown (h : s.isKnown = false) : deviceOf s = .ok (none : Option δ) := by
  simp only [DeviceSpec.isKnown, decide_eq_false_iff_not, not_or] at h
  rw [deviceOf, if_neg h.1, if_neg h.2]

theorem deviceOf_of_keyboard (h : s.kind = "keyboard") :
    deviceOf s = .ok (some (TerminalPeripheral.ofKeyboard {} : δ)) := if_pos h

theorem deviceOf_of_display (h : s.kind = "display") :
    deviceOf s = (displayOf s).map fun d => some (TerminalPeripheral.ofDisplay d : δ) := by
  rw [deviceOf, h, if_neg (by decide), if_pos rfl]

/-- Descriptions of unknown kinds say nothing. -/
theorem mapAll_filter (bus : Bus δ) (specs : List DeviceSpec) :
    mapAll bus (specs.filter DeviceSpec.isKnown) = mapAll bus specs := by
  induction specs generalizing bus with
  | nil => rfl
  | cons s specs ih =>
      cases hknown : s.isKnown with
      | false =>
          rw [List.filter_cons_of_neg (by simp [hknown]), ih,
            mapAll_cons_of_none (deviceOf_of_unknown hknown)]
      | true =>
          rw [List.filter_cons_of_pos hknown, mapAll, mapAll]
          simp only [ih]

section Lawful

variable [LawfulTerminalPeripheral δ]

/-- Mapping goes through just when there is room for all, and gives each what it
asks for. -/
theorem mapAll_eq_ok_iff (hsizes : ∀ m ∈ bus.mappings, 0 < m.size) :
    mapAll bus specs = .ok bus' ↔ Room bus specs ∧ bus' = withMappingsOf bus specs := by
  induction specs generalizing bus with
  | nil =>
      constructor
      · intro h
        cases h
        exact ⟨room_nil _, by rw [withMappingsOf, List.filterMap_nil, List.append_nil]⟩
      · rintro ⟨-, rfl⟩
        rw [withMappingsOf, List.filterMap_nil, List.append_nil]
        rfl
  | cons s specs ih =>
      have hmapped {device : δ} (hdevice : deviceOf s = .ok (some device))
          (hregisters : Peripheral.registerCount device = s.registers) (hpos : 0 < s.registers)
          (hsettings : s.kind = "display" → s.SettingsFit) :
          mapAll bus (s :: specs) = .ok bus' ↔
            Room bus (s :: specs) ∧ bus' = withMappingsOf bus (s :: specs) := by
        have hsize : 0 < Peripheral.registerCount device := hregisters ▸ hpos
        rw [room_cons_iff hregisters hsettings, ← withMappingsOf_cons hdevice, and_assoc,
          ← ih (sizes_withMapping hsizes s.id s.basePort hsize), mapAll, hdevice]
        show (bus.map s.id s.basePort device).mapError BoardFault.bus >>= _ = _ ↔ _
        rw [bind_eq_ok]
        simp only [mapError_eq_ok, map_eq_ok_iff hsizes s.id s.basePort hsize]
        constructor
        · rintro ⟨b, ⟨hfree, rfl⟩, hrest⟩
          exact ⟨hfree, hrest⟩
        · rintro ⟨hfree, hrest⟩
          exact ⟨_, ⟨hfree, rfl⟩, hrest⟩
      by_cases hkeyboard : s.kind = "keyboard"
      · have hregisters := DeviceSpec.registers_of_keyboard hkeyboard
        apply hmapped (deviceOf_of_keyboard hkeyboard)
        · rw [LawfulTerminalPeripheral.registerCount_ofKeyboard, hregisters]
        · rw [hregisters]
          decide
        · intro hdisplay
          rw [hkeyboard] at hdisplay
          exact absurd hdisplay (by decide)
      · by_cases hdisplay : s.kind = "display"
        · cases hd : displayOf s with
          | ok d =>
              have hregisters := DeviceSpec.registers_of_display hdisplay
              have hdevice : deviceOf s = .ok (some (TerminalPeripheral.ofDisplay d : δ)) := by
                rw [deviceOf_of_display hdisplay, hd]
                rfl
              apply hmapped hdevice
              · rw [LawfulTerminalPeripheral.registerCount_ofDisplay, hregisters]
              · rw [hregisters]
                decide
              · exact fun _ => exists_displayOf_iff.mp ⟨d, hd⟩
          | error why =>
              constructor
              · intro h
                rw [mapAll, deviceOf_of_display hdisplay, hd] at h
                cases h
              · rintro ⟨hroom, -⟩
                obtain ⟨d, hd'⟩ :=
                  exists_displayOf_iff.mpr (hroom.settings s List.mem_cons_self hdisplay)
                rw [hd] at hd'
                cases hd'
        · have hunknown : s.isKnown = false := by simp [DeviceSpec.isKnown, hkeyboard, hdisplay]
          have hnone : deviceOf s = .ok (none : Option δ) := deviceOf_of_unknown hunknown
          rw [mapAll_cons_of_none hnone, room_cons_of_unknown hunknown,
            withMappingsOf_cons_none hnone]
          exact ih hsizes

/-! ## What is assembled -/

/-- A board is assembled just when it is acceptable, with a mapping for each
description of a known kind. -/
theorem assemble_eq_ok_iff {b : Board} :
    b.assemble = .ok bus ↔ b.Acceptable ∧ ∃ size, Size.parse b.ram.size = .ok size ∧
      bus = withMappingsOf (.empty (.zeroed size b.ram.base)) b.devices := by
  have hroom (size : Nat) : Room (.empty (.zeroed size b.ram.base) : Bus δ) b.devices ↔
      (∀ s ∈ b.devices, s.kind = "display" → s.SettingsFit) ∧
      (∀ s ∈ b.devices, s.ports ⊆ addressSpace) ∧
      (b.devices.Pairwise fun s t => Apart s.ports t.ports) ∧
      ∀ s ∈ b.devices, Apart s.ports (b.ram.addresses size) := by
    have haddresses : (DataMemory.zeroed size b.ram.base).addresses = b.ram.addresses size := by
      rw [DataMemory.addresses, DataMemory.limit, DataMemory.zeroed, Array.size_replicate]
      rfl
    constructor
    · rintro ⟨hsettings, hinside, hapart, hmemory, -⟩
      exact ⟨hsettings, hinside, hapart, haddresses ▸ hmemory⟩
    · rintro ⟨hsettings, hinside, hapart, hmemory⟩
      exact ⟨hsettings, hinside, hapart, haddresses ▸ hmemory, fun _ _ => List.forall_mem_nil _⟩
  have hsizes (size : Nat) :
      ∀ m ∈ (.empty (.zeroed size b.ram.base) : Bus δ).mappings, 0 < m.size :=
    List.forall_mem_nil _
  unfold assemble
  rw [bind_eq_ok]
  constructor
  · rintro ⟨ram, hram, hmapped⟩
    obtain ⟨size, hsize, htop, rfl⟩ := memoryOf_eq_ok_iff.mp hram
    obtain ⟨hall, rfl⟩ := (mapAll_eq_ok_iff (hsizes size)).mp hmapped
    obtain ⟨hsettings, hinside, hapart, hmemory⟩ := (hroom size).mp hall
    refine ⟨⟨⟨size, hsize, htop⟩, hsettings, hinside, hapart, ?_⟩, size, hsize, rfl⟩
    intro size' hsize'
    rw [hsize] at hsize'
    cases hsize'
    exact hmemory
  · rintro ⟨hb, size, hsize, rfl⟩
    obtain ⟨size', hsize', htop⟩ := hb.memory
    rw [hsize] at hsize'
    cases hsize'
    refine ⟨_, memoryOf_eq_ok_iff.mpr ⟨size, hsize, htop, rfl⟩,
      (mapAll_eq_ok_iff (hsizes size)).mpr ?_⟩
    exact ⟨(hroom size).mpr ⟨hb.settings, hb.inside, hb.apart, hb.offMemory size hsize⟩, rfl⟩

omit [LawfulTerminalPeripheral δ] in
/-- What is assembled does not depend on descriptions of unknown kinds. -/
theorem assemble_filter (b : Board) :
    ((b.withDevices (b.devices.filter DeviceSpec.isKnown)).assemble : Except BoardFault (Bus δ)) =
      b.assemble := by
  unfold assemble
  simp only [withDevices, mapAll_filter]
  rfl

theorem exists_assemble_iff {b : Board} :
    (∃ bus : Bus δ, b.assemble = .ok bus) ↔ b.Acceptable := by
  simp only [assemble_eq_ok_iff]
  constructor
  · rintro ⟨bus, hb, -⟩
    exact hb
  · intro hb
    obtain ⟨size, hsize, -⟩ := hb.memory
    exact ⟨_, hb, size, hsize, rfl⟩

omit [LawfulTerminalPeripheral δ] in
/-- A mapping is the one that a description asks for. -/
structure Answers (s : DeviceSpec) (m : Mapping δ) : Prop where
  name : m.name = s.id
  base : m.base = s.basePort
  size : m.size = s.registers
  keyboard : s.kind = "keyboard" → m.device = TerminalPeripheral.ofKeyboard {}
  display : s.kind = "display" → ∃ d, m.device = TerminalPeripheral.ofDisplay d ∧ IsBuiltAs s d

theorem exists_answers (hknown : s.isKnown = true)
    (hsettings : s.kind = "display" → s.SettingsFit) :
    ∃ m : Mapping δ, mappingOf? s = some m ∧ Answers s m := by
  simp only [DeviceSpec.isKnown, decide_eq_true_eq] at hknown
  rcases hknown with hkeyboard | hdisplay
  · have hdevice : deviceOf s = .ok (some (TerminalPeripheral.ofKeyboard {} : δ)) :=
      deviceOf_of_keyboard hkeyboard
    refine ⟨_, by rw [mappingOf?, hdevice], rfl, rfl, ?_, fun _ => rfl, fun hdisplay => ?_⟩
    · rw [DeviceSpec.registers_of_keyboard hkeyboard]
      exact LawfulTerminalPeripheral.registerCount_ofKeyboard _
    · rw [hkeyboard] at hdisplay
      exact absurd hdisplay (by decide)
  · obtain ⟨d, hd⟩ := exists_displayOf_iff.mpr (hsettings hdisplay)
    have hdevice : deviceOf s = .ok (some (TerminalPeripheral.ofDisplay d : δ)) := by
      rw [deviceOf_of_display hdisplay, hd]
      rfl
    refine ⟨_, by rw [mappingOf?, hdevice], rfl, rfl, ?_, fun hkeyboard => ?_,
      fun _ => ⟨d, rfl, isBuiltAs_of_displayOf hd⟩⟩
    · rw [DeviceSpec.registers_of_display hdisplay]
      exact LawfulTerminalPeripheral.registerCount_ofDisplay _
    · rw [hdisplay] at hkeyboard
      exact absurd hkeyboard (by decide)

omit [LawfulTerminalPeripheral δ] in
/-- Every description of a known kind has its mapping, in the same order. -/
theorem forall₂_mappingOf {R : DeviceSpec → Mapping δ → Prop}
    (h : ∀ s ∈ specs, s.isKnown = true → ∃ m, mappingOf? s = some m ∧ R s m) :
    List.Forall₂ R (specs.filter DeviceSpec.isKnown) (specs.filterMap mappingOf?) := by
  induction specs with
  | nil => exact .nil
  | cons s specs ih =>
      have hrest := ih fun t ht => h t (.tail s ht)
      cases hknown : s.isKnown with
      | false =>
          have hmapping : mappingOf? s = (none : Option (Mapping δ)) := by
            rw [mappingOf?, deviceOf_of_unknown hknown]
          rw [List.filter_cons_of_neg (by simp [hknown]), List.filterMap_cons_none hmapping]
          exact hrest
      | true =>
          obtain ⟨m, hmapping, hm⟩ := h s List.mem_cons_self hknown
          rw [List.filter_cons_of_pos hknown, List.filterMap_cons_some hmapping]
          exact .cons hm hrest

theorem forall₂_answers (hsettings : ∀ s ∈ specs, s.kind = "display" → s.SettingsFit) :
    List.Forall₂ Answers (specs.filter DeviceSpec.isKnown)
      (specs.filterMap (mappingOf? (δ := δ))) :=
  forall₂_mappingOf fun s hs hknown => exists_answers hknown (hsettings s hs)

/-! ## The terminal's ports -/

theorem Answers.isSome_display? {m : Mapping δ} (h : Answers s m) (hknown : s.isKnown = true) :
    (TerminalPeripheral.display? m.device).isSome = decide (s.kind = "display") := by
  simp only [DeviceSpec.isKnown, decide_eq_true_eq] at hknown
  rcases hknown with hkeyboard | hdisplay
  · rw [h.keyboard hkeyboard, LawfulTerminalPeripheral.display?_ofKeyboard, hkeyboard]
    decide
  · obtain ⟨d, hd, -⟩ := h.display hdisplay
    rw [hd, LawfulTerminalPeripheral.display?_ofDisplay, hdisplay]
    rfl

theorem Answers.isSome_keyboard? {m : Mapping δ} (h : Answers s m) (hknown : s.isKnown = true) :
    (TerminalPeripheral.keyboard? m.device).isSome = decide (s.kind = "keyboard") := by
  simp only [DeviceSpec.isKnown, decide_eq_true_eq] at hknown
  rcases hknown with hkeyboard | hdisplay
  · rw [h.keyboard hkeyboard, LawfulTerminalPeripheral.keyboard?_ofKeyboard, hkeyboard]
    rfl
  · obtain ⟨d, hd, -⟩ := h.display hdisplay
    rw [hd, LawfulTerminalPeripheral.keyboard?_ofDisplay, hdisplay]
    decide

omit [LawfulTerminalPeripheral δ] in
/-- The first mapping with a property that goes by the kind is that of the first
description of the kind. -/
theorem find?_base_of_answers {kind : String} {p : Mapping δ → Bool} {ms : List (Mapping δ)}
    (hp : ∀ s m, s.isKnown = true → Answers s m → p m = decide (s.kind = kind))
    (hms : List.Forall₂ Answers specs ms) (hknown : ∀ s ∈ specs, s.isKnown = true) :
    (ms.find? p).map Mapping.base =
      (specs.find? fun s => s.kind = kind).map DeviceSpec.basePort := by
  induction hms with
  | nil => rfl
  | @cons s m specs ms hanswers hms ih =>
      have hhead := hp s m (hknown s List.mem_cons_self) hanswers
      by_cases h : s.kind = kind
      · rw [List.find?_cons_of_pos (by rw [hhead]; simpa using h),
          List.find?_cons_of_pos (by simpa using h), Option.map_some, Option.map_some,
          hanswers.base]
      · rw [List.find?_cons_of_neg (by rw [hhead]; simpa using h),
          List.find?_cons_of_neg (by simpa using h)]
        exact ih fun t ht => hknown t (.tail s ht)

theorem find?_filter_isKnown {kind : String}
    (hkind : ∀ s : DeviceSpec, s.kind = kind → s.isKnown = true) (specs : List DeviceSpec) :
    (specs.filter DeviceSpec.isKnown).find? (fun s => s.kind = kind) =
      specs.find? fun s => s.kind = kind := by
  rw [List.find?_filter]
  congr 1
  funext s
  by_cases h : s.kind = kind
  · simp [h, hkind s h]
  · simp [h]

/-- What a board describes has been assembled. -/
structure Describes (b : Board) (bus : Bus δ) : Prop where
  memory : ∃ size, Size.parse b.ram.size = .ok size ∧ bus.ram = .zeroed size b.ram.base
  unused : bus.cycles = 0 ∧ bus.printed = []
  entries : List.Forall₂ Answers (b.devices.filter DeviceSpec.isKnown) bus.mappings
  hasPorts : (∃ ports, TerminalPorts.ofBus? bus = some ports) ↔
    (∃ s ∈ b.devices, s.kind = "display") ∧ ∃ s ∈ b.devices, s.kind = "keyboard"
  /-- the registers are counted up from the bases without wrapping around -/
  ports : ∀ ports, TerminalPorts.ofBus? bus = some ports →
    ∃ d k, b.ofKind? "display" = some d ∧ b.ofKind? "keyboard" = some k ∧
      ports.lcr.toNat = d.basePort.toNat ∧ ports.ldr.toNat = d.basePort.toNat + 1 ∧
      ports.kdr.toNat = k.basePort.toNat

theorem displayBase?_of_answers {b : Board}
    (h : List.Forall₂ Answers (b.devices.filter DeviceSpec.isKnown) bus.mappings) :
    bus.displayBase? = (b.ofKind? "display").map DeviceSpec.basePort := by
  have hkind (s : DeviceSpec) (hs : s.kind = "display") : s.isKnown = true := by
    simp [DeviceSpec.isKnown, hs]
  rw [ofKind?, ← find?_filter_isKnown hkind]
  exact find?_base_of_answers (fun s m hknown hm => hm.isSome_display? hknown) h
    fun s hs => (List.mem_filter.mp hs).2

theorem keyboardBase?_of_answers {b : Board}
    (h : List.Forall₂ Answers (b.devices.filter DeviceSpec.isKnown) bus.mappings) :
    bus.keyboardBase? = (b.ofKind? "keyboard").map DeviceSpec.basePort := by
  have hkind (s : DeviceSpec) (hs : s.kind = "keyboard") : s.isKnown = true := by
    simp [DeviceSpec.isKnown, hs]
  rw [ofKind?, ← find?_filter_isKnown hkind]
  exact find?_base_of_answers (fun s m hknown hm => hm.isSome_keyboard? hknown) h
    fun s hs => (List.mem_filter.mp hs).2

theorem exists_of_ofKind? {b : Board} {kind : String} (h : b.ofKind? kind = some s) :
    s ∈ b.devices ∧ s.kind = kind :=
  ⟨List.mem_of_find?_eq_some h, by simpa using List.find?_some h⟩

theorem exists_ofKind?_iff {b : Board} {kind : String} :
    (∃ s, b.ofKind? kind = some s) ↔ ∃ s ∈ b.devices, s.kind = kind := by
  rw [← Option.isSome_iff_exists, ofKind?, List.find?_isSome]
  simp only [decide_eq_true_eq]

/-- The ports of a terminal are those of the first display and the first keyboard that
are described. -/
theorem ofBus?_eq_some_iff {b : Board} {ports : TerminalPorts}
    (h : List.Forall₂ Answers (b.devices.filter DeviceSpec.isKnown) bus.mappings) :
    TerminalPorts.ofBus? bus = some ports ↔
      ∃ d k, b.ofKind? "display" = some d ∧ b.ofKind? "keyboard" = some k ∧
        ports = ⟨k.basePort + Keyboard.dataRegister, d.basePort + Display.dataRegister,
          d.basePort + Display.controlRegister⟩ := by
  rw [TerminalPorts.ofBus?, displayBase?_of_answers h, keyboardBase?_of_answers h]
  constructor
  · intro hports
    obtain ⟨display, hdisplay, hports⟩ := Option.bind_eq_some_iff.mp hports
    obtain ⟨keyboard, hkeyboard, hports⟩ := Option.bind_eq_some_iff.mp hports
    obtain ⟨d, hd, rfl⟩ := Option.map_eq_some_iff.mp hdisplay
    obtain ⟨k, hk, rfl⟩ := Option.map_eq_some_iff.mp hkeyboard
    cases hports
    exact ⟨d, k, hd, hk, rfl⟩
  · rintro ⟨d, k, hd, hk, rfl⟩
    rw [hd, hk]
    rfl

/-- The last port of a device that lies in the address space has its number. -/
theorem toNat_basePort_add {offset : UInt8} (hinside : s.ports ⊆ addressSpace)
    (hoffset : offset < s.registers) :
    (s.basePort + offset).toNat = s.basePort.toNat + offset.toNat := by
  have hlt : offset.toNat < s.registers.toNat := UInt8.lt_iff_toNat_lt.mp hoffset
  have hpos : 0 < s.registers := by
    rw [UInt8.lt_iff_toNat_lt]
    exact Nat.lt_of_le_of_lt (Nat.zero_le _) hlt
  have hfits := (portsFrom_subset_iff hpos).mp hinside
  rw [UInt8.toNat_add]
  omega

theorem Acceptable.describes {b : Board} (hb : b.Acceptable) {size : Nat}
    (hsize : Size.parse b.ram.size = .ok size)
    (hbus : bus = withMappingsOf (.empty (.zeroed size b.ram.base)) b.devices) :
    b.Describes bus := by
  have hentries : List.Forall₂ Answers (b.devices.filter DeviceSpec.isKnown) bus.mappings := by
    rw [hbus]
    exact forall₂_answers hb.settings
  refine ⟨⟨size, hsize, by rw [hbus]; rfl⟩, by rw [hbus]; exact ⟨rfl, rfl⟩, hentries, ?_, ?_⟩
  · rw [← exists_ofKind?_iff, ← exists_ofKind?_iff]
    constructor
    · rintro ⟨ports, hports⟩
      obtain ⟨d, k, hd, hk, -⟩ := (ofBus?_eq_some_iff hentries).mp hports
      exact ⟨⟨d, hd⟩, k, hk⟩
    · rintro ⟨⟨d, hd⟩, k, hk⟩
      exact ⟨_, (ofBus?_eq_some_iff hentries).mpr ⟨d, k, hd, hk, rfl⟩⟩
  · intro ports hports
    obtain ⟨d, k, hd, hk, rfl⟩ := (ofBus?_eq_some_iff hentries).mp hports
    obtain ⟨hdmem, hdkind⟩ := exists_of_ofKind? hd
    obtain ⟨hkmem, hkkind⟩ := exists_of_ofKind? hk
    have hdregisters := DeviceSpec.registers_of_display hdkind
    have hkregisters := DeviceSpec.registers_of_keyboard hkkind
    refine ⟨d, k, hd, hk, ?_, ?_, ?_⟩
    · exact toNat_basePort_add (hb.inside d hdmem) (by rw [hdregisters]; decide)
    · exact toNat_basePort_add (hb.inside d hdmem) (by rw [hdregisters]; decide)
    · exact toNat_basePort_add (hb.inside k hkmem) (by rw [hkregisters]; decide)

end Lawful

end Mapping

end Board

open Board in
/-- Whether a board is accepted depends on what it describes, not on the order of its
devices or on those of unknown kinds; and what is assembled is what it describes. -/
theorem boards_are_accepted_for_what_they_describe {δ : Type} [TerminalPeripheral δ]
    [LawfulTerminalPeripheral δ] (b : Board) :
    ((b.withDevices (b.devices.filter DeviceSpec.isKnown)).assemble : Except BoardFault (Bus δ)) =
        b.assemble ∧
    ((∃ bus : Bus δ, b.assemble = .ok bus) ↔ b.Acceptable) ∧
    (∀ devices, b.devices.Perm devices →
      ((∃ bus : Bus δ, b.assemble = .ok bus) ↔
        ∃ bus : Bus δ, (b.withDevices devices).assemble = .ok bus)) ∧
    ∀ bus : Bus δ, b.assemble = .ok bus → b.Describes bus := by
  refine ⟨assemble_filter b, exists_assemble_iff, ?_, ?_⟩
  · intro devices hperm
    rw [exists_assemble_iff, exists_assemble_iff]
    constructor
    · intro hb
      exact hb.perm hperm
    · intro hb
      exact Acceptable.perm hb hperm.symm
  · intro bus hbus
    obtain ⟨hb, size, hsize, hbus⟩ := assemble_eq_ok_iff.mp hbus
    exact hb.describes hsize hbus

/-- A lamp, which is of no known kind and lies in data memory, a keyboard, and a
display that takes the last two ports. -/
def unknownInMemoryBoard : Board where
  name := "unknown in memory"
  ram := { base := 0x10, size := "16B" }
  devices := [
    { id := "lamp", kind := "lamp", basePort := 0x1F },
    { id := "keys", kind := "keyboard", basePort := 0x20 },
    { id := "panel", kind := "display", basePort := 0xFE,
      settings := [("busy_cycles", .natural 0), ("scrollback", .text "1KiB")] }]

/-- The board is accepted, with its devices in the given order or the other way round. -/
theorem boards_are_accepted_for_what_they_describe_unknown_in_memory :
    ∃ bus : Bus Device, unknownInMemoryBoard.assemble = .ok bus ∧ unknownInMemoryBoard.Acceptable ∧
      unknownInMemoryBoard.Describes bus ∧
      ∃ bus' : Bus Device,
        (unknownInMemoryBoard.withDevices unknownInMemoryBoard.devices.reverse).assemble =
          .ok bus' := by
  have heval : (unknownInMemoryBoard.assemble : Except BoardFault (Bus Device)).toOption.isSome =
      true := by
    decide +kernel
  obtain ⟨bus, hbus⟩ := Option.isSome_iff_exists.mp heval
  have hok := toOption_eq_some.mp hbus
  obtain ⟨-, haccepted, hperm, hdescribes⟩ :=
    boards_are_accepted_for_what_they_describe (δ := Device) unknownInMemoryBoard
  exact ⟨bus, hok, haccepted.mp ⟨bus, hok⟩, hdescribes bus hok,
    (hperm _ unknownInMemoryBoard.devices.reverse_perm.symm).mp ⟨bus, hok⟩⟩

end PolledTerminal
