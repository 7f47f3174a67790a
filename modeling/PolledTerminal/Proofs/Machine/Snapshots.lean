import PolledTerminal.Proofs.Board.Acceptance
import PolledTerminal.Proofs.Json
import PolledTerminal.Proofs.Machine.Reached
import PolledTerminal.Proofs.Session.Turns
set_option autoImplicit false

/-!
# Snapshots of a board's devices

A snapshot has one member for each id among the devices of a board, and it holds the
current snapshot of the device that was mapped last under that id.  So it loses no device
just when no id comes up twice; that ids are distinct is nothing that a board is accepted
or rejected for.
-/

namespace PolledTerminal

variable {σ δ : Type}

/-! ## On a bus -/

/-- The mapping's part of a snapshot, under its name. -/
def Mapping.entry [Peripheral δ] (m : Mapping δ) : String × Json :=
  (m.name, Peripheral.snapshot m.device)

namespace Bus

variable [Peripheral δ]

/-- One member for each mapped device, under its name and with its own current snapshot. -/
def ShowsEach (b : Bus δ) (members : List (String × Json)) : Prop :=
  members.Perm (b.mappings.map Mapping.entry)

/-- What a snapshot holds of the devices. -/
def shown (b : Bus δ) : List (String × Json) := Json.kept (b.mappings.map Mapping.entry)

theorem names_entries (ms : List (Mapping δ)) :
    Json.names (ms.map Mapping.entry) = ms.map Mapping.name := by
  rw [Json.names, List.map_map]
  rfl

/-- A device is shown if no other is mapped behind it under its name. -/
theorem mem_shown_iff (b : Bus δ) (e : String × Json) :
    e ∈ b.shown ↔ ∃ before m after, b.mappings = before ++ m :: after ∧ m.entry = e ∧
      ∀ n ∈ after, n.name ≠ m.name := by
  rw [shown, Json.mem_kept_iff]
  constructor
  · rintro ⟨before, after, hsplit, hlast⟩
    obtain ⟨ms, rest, hms, rfl, hrest⟩ := List.map_eq_append_iff.mp hsplit
    obtain ⟨m, ns, rfl, rfl, rfl⟩ := List.map_eq_cons_iff.mp hrest
    refine ⟨ms, m, ns, hms, rfl, fun n hn heq => hlast ?_⟩
    rw [names_entries]
    exact List.mem_map.mpr ⟨n, hn, heq⟩
  · rintro ⟨before, m, after, hsplit, rfl, hlast⟩
    refine ⟨before.map Mapping.entry, after.map Mapping.entry, ?_, ?_⟩
    · rw [hsplit, List.map_append, List.map_cons]
    · rw [names_entries]
      intro hmem
      obtain ⟨n, hn, heq⟩ := List.mem_map.mp hmem
      exact hlast n hn heq

theorem snapshot_eq (b : Bus δ) : b.snapshot = .obj b.shown := Json.ofMembers_eq _

theorem showsEach_shown_iff (b : Bus δ) :
    b.ShowsEach b.shown ↔ (b.mappings.map Mapping.name).Nodup := by
  rw [← names_entries]
  exact Json.perm_kept_iff _

end Bus

theorem Machine.peripherals_eq [Peripheral δ] (m : Machine σ δ) :
    m.snapshot.member? "peripherals" = some (.obj m.bus.shown) := by
  rw [← m.bus.snapshot_eq, snapshot, Json.member?]
  cases m.status <;> rfl

/-! ## On a board -/

/-- What a device is to be for as long as it is mapped: where it lies, and whether it is a
display or a keyboard. -/
def DeviceSpec.outline (s : DeviceSpec) : (String × UInt8 × UInt8) × Bool × Bool :=
  ((s.id, s.basePort, s.registers), s.kind = "display", s.kind = "keyboard")

namespace Board

/-- The descriptions of known kinds, which are those that devices are built for. -/
def known (b : Board) : List DeviceSpec := b.devices.filter DeviceSpec.isKnown

/-- The ids of the devices that are built. -/
def ids (b : Board) : List String := b.known.map DeviceSpec.id

variable [TerminalPeripheral δ] [LawfulTerminalPeripheral δ]

theorem map_outline_of_answers {specs : List DeviceSpec} {ms : List (Mapping δ)}
    (h : List.Forall₂ Answers specs ms) (hknown : ∀ s ∈ specs, s.isKnown = true) :
    ms.map Mapping.outline = specs.map DeviceSpec.outline := by
  induction h with
  | nil => rfl
  | @cons s m specs ms hm _ ih =>
      have hs := hknown s List.mem_cons_self
      have houtline : m.outline = s.outline := by
        rw [Mapping.outline, Mapping.place, Mapping.isDisplay, Mapping.isKeyboard, hm.name, hm.base,
          hm.size, hm.isSome_display? hs, hm.isSome_keyboard? hs, DeviceSpec.outline]
      rw [List.map_cons, List.map_cons, houtline, ih fun t ht => hknown t (.tail s ht)]

theorem map_outline_of_assemble {b : Board} {bus : Bus δ} (h : b.assemble = .ok bus) :
    bus.mappings.map Mapping.outline = b.known.map DeviceSpec.outline := by
  obtain ⟨hb, size, hsize, hbus⟩ := assemble_eq_ok_iff.mp h
  have hdescribes := hb.describes hsize hbus
  exact map_outline_of_answers hdescribes.entries fun s hs => (List.mem_filter.mp hs).2

omit [LawfulTerminalPeripheral δ] in
/-- What the members of a snapshot are to the devices of a board. -/
structure Pictured (b : Board) (bus : Bus δ) (members : List (String × Json)) : Prop where
  /-- the mapped devices are those that the board describes, in its order -/
  devices : bus.mappings.map Mapping.outline = b.known.map DeviceSpec.outline
  /-- every id has one member -/
  ids : (Json.names members).Perm b.ids.dedup
  /-- the member is the current snapshot of the device that is mapped last under the id -/
  newest : ∀ e, e ∈ members ↔ ∃ before m after, bus.mappings = before ++ m :: after ∧
    m.entry = e ∧ ∀ n ∈ after, n.name ≠ m.name
  /-- no device is lost just when no id comes up twice -/
  complete : bus.ShowsEach members ↔ b.ids.Nodup

omit [LawfulTerminalPeripheral δ] in
theorem pictured_of_outlines {b : Board} {bus : Bus δ}
    (h : bus.mappings.map Mapping.outline = b.known.map DeviceSpec.outline) :
    b.Pictured bus bus.shown := by
  have hnames : bus.mappings.map Mapping.name = b.ids := by
    have hids := congrArg (List.map fun o => o.1.1) h
    rwa [List.map_map, List.map_map] at hids
  refine ⟨h, ?_, bus.mem_shown_iff, ?_⟩
  · rw [← hnames, ← Bus.names_entries]
    exact Json.perm_names_kept _
  · rw [bus.showsEach_shown_iff, hnames]

end Board

/-- Whatever program runs on an accepted board, and whatever has happened to the machine,
its snapshot shows for each id the device that was mapped last under it, as it is now.
It shows every device just when the ids of the board are distinct. -/
theorem snapshots_show_the_last_of_each_id [TerminalPeripheral δ] [LawfulTerminalPeripheral δ]
    {b : Board} {m : Machine σ δ} (h : m.ReachedOn b) :
    ∃ members, m.snapshot.member? "peripherals" = some (.obj members) ∧
      b.Pictured m.bus members := by
  obtain ⟨-, site, hboard, hbus⟩ := h.exists_becomes
  have hsame := hbus.sameOutline (Board.assembled hboard).disjoint
  exact ⟨m.bus.shown, m.peripherals_eq,
    Board.pictured_of_outlines (hsame.outlines.trans (Board.map_outline_of_assemble hboard))⟩

/-- Two keyboards of one id, and a lamp, of no known kind, that has the id of the display. -/
def repeatedIdsBoard : Board where
  name := "repeated ids"
  ram := { base := 0, size := "16B" }
  devices := [
    { id := "panel", kind := "lamp", basePort := 0xFC },
    { id := "panel", kind := "display", basePort := 0xFC },
    { id := "keys", kind := "keyboard", basePort := 0xFE },
    { id := "keys", kind := "keyboard", basePort := 0xFF }]

/-- The bus of that board. -/
def repeatedIdsBus : Bus Device where
  ram := .zeroed 16 0
  mappings := [⟨"panel", 0xFC, 2, .display (Display.new 4 4096)⟩, ⟨"keys", 0xFE, 1, .keyboard {}⟩,
    ⟨"keys", 0xFF, 1, .keyboard {}⟩]

/-- A session on it, after a key was typed and the loop has taken two steps. -/
theorem snapshots_show_the_last_of_each_id_repeated :
    repeatedIdsBoard.assemble = .ok repeatedIdsBus ∧
    ∃ start s, Program.terminalMachine {} repeatedIdsBus false none = .ok start ∧
      Session.follow none [.feeder, .loop, .loop, .loop, .loop] (.opening start [0x61]) = some s ∧
      s.machine.ReachedOn repeatedIdsBoard ∧
      ∃ members, s.machine.snapshot.member? "peripherals" = some (.obj members) ∧
        repeatedIdsBoard.Pictured s.machine.bus members ∧
        (Json.names members).Perm ["panel", "keys"] := by
  have hboard : repeatedIdsBoard.assemble = .ok repeatedIdsBus := rfl
  have heval : ((Program.terminalMachine {} repeatedIdsBus false none).toOption.bind fun start =>
      Session.follow none [.feeder, .loop, .loop, .loop, .loop] (.opening start [0x61])).isSome =
        true := by
    decide +kernel
  obtain ⟨s, hs⟩ := Option.isSome_iff_exists.mp heval
  obtain ⟨start, hstart, hfollow⟩ := Option.bind_eq_some_iff.mp hs
  have hmachine := toOption_eq_some.mp hstart
  have hbegin : (Session.opening start [0x61]).machine.ReachedOn repeatedIdsBoard :=
    Program.reachedOn_terminalMachine hboard hmachine
  have hreached := Session.reachedOn_follow hbegin hfollow
  have hids : repeatedIdsBoard.ids.dedup = ["panel", "keys"] := by decide
  obtain ⟨members, hmembers, hpictured⟩ := snapshots_show_the_last_of_each_id hreached
  exact ⟨hboard, start, s, hmachine, hfollow, hreached, members, hmembers, hpictured,
    hids ▸ hpictured.ids⟩

/-- A display and a keyboard of one id. -/
def namesakesBoard : Board where
  name := "namesakes"
  ram := { base := 0, size := "16B" }
  devices := [
    { id := "console", kind := "display", basePort := 0xFC },
    { id := "console", kind := "keyboard", basePort := 0xFE }]

/-- The bus of that board. -/
def namesakesBus : Bus Device where
  ram := .zeroed 16 0
  mappings := [⟨"console", 0xFC, 2, .display (Display.new 4 4096)⟩,
    ⟨"console", 0xFE, 1, .keyboard {}⟩]

/-- What comes of a terminal's first step on it. -/
def namesakesStep : Option (Except Fault Unit × Machine Terminal Device) :=
  (Machine.new Terminal.firmware (Terminal.new {}) namesakesBus).toOption.bind
    (Act.run Machine.step)

/-- Beside its namesake the display shows the prompt, but the snapshot holds nothing of it: the
keyboard has taken its place. -/
theorem display_is_lost_behind_its_namesake :
    namesakesBoard.assemble = .ok namesakesBus ∧
    ∃ start m, Machine.new Terminal.firmware (Terminal.new {}) namesakesBus = .ok start ∧
      Act.run Machine.step start = some (.ok (), m) ∧
      m.bus.display?.map Display.screenText = some "# " ∧
      m.bus.mappings.map Mapping.name = ["console", "console"] ∧
      (m.snapshot.member? "peripherals").map Json.compact =
        some "\x7b\"console\":\x7b\"closed\":false,\"pending\":0\x7d\x7d" ∧
      ∀ members, m.snapshot.member? "peripherals" = some (.obj members) →
        ¬ m.bus.ShowsEach members := by
  have heval : namesakesStep.map (fun r => (r.1, r.2.bus.display?.map Display.screenText,
      r.2.bus.mappings.map Mapping.name, (r.2.snapshot.member? "peripherals").map Json.compact)) =
        some (.ok (), some "# ", ["console", "console"],
          some "\x7b\"console\":\x7b\"closed\":false,\"pending\":0\x7d\x7d") := by
    decide +kernel
  obtain ⟨⟨answer, m⟩, hrun, hfacts⟩ := Option.map_eq_some_iff.mp heval
  simp only [Prod.mk.injEq] at hfacts
  obtain ⟨rfl, hscreen, hnames, htext⟩ := hfacts
  obtain ⟨start, hstart, hstep⟩ := Option.bind_eq_some_iff.mp hrun
  refine ⟨rfl, start, m, toOption_eq_some.mp hstart, hstep, hscreen, hnames, htext, ?_⟩
  intro members hmembers hshows
  rw [m.peripherals_eq, Option.some.injEq, Json.obj.injEq] at hmembers
  rw [← hmembers, Bus.showsEach_shown_iff, hnames] at hshows
  exact absurd hshows (by decide)

end PolledTerminal
