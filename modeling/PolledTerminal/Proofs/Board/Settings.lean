import PolledTerminal.Proofs.Board.Acceptance
set_option autoImplicit false

/-!
# Settings

A setting of the kind that a display looks for is honoured or the board is rejected.  A
setting of any other kind counts as if it were absent.
-/

namespace PolledTerminal

/-! ## Settings of another kind -/

namespace DeviceSpec

/-- The setting of this name is of the kind that a display looks for under it; any kind
will do for a name that it does not know. -/
def suits (s : DeviceSpec) (name : String) : Bool :=
  if name = "busy_cycles" then (s.natural? name).isSome
  else if name = "scrollback" then (s.text? name).isSome
  else if name = "echo_stdout" then (s.bool? name).isSome
  else true

/-- The description without the settings that are of another kind than a display looks
for. -/
def withoutMisfits (s : DeviceSpec) : DeviceSpec :=
  { s with settings := s.settings.filter fun setting => s.suits setting.1 }

variable (s : DeviceSpec)

/-- A name keeps its value if the value is suitable, and loses it otherwise. -/
theorem setting?_withoutMisfits (name : String) :
    s.withoutMisfits.setting? name = if s.suits name then s.setting? name else none := by
  have hfind : (s.settings.filter fun x => s.suits x.1).find? (fun x => x.1 = name) =
      if s.suits name then s.settings.find? fun x => x.1 = name else none := by
    rw [List.find?_filter]
    split
    case isTrue hsuits =>
      congr 1
      funext x
      by_cases hx : x.1 = name <;> simp [hx, hsuits]
    case isFalse hsuits =>
      refine List.find?_eq_none.mpr fun x _ hx => ?_
      obtain ⟨hsuits', hname⟩ : s.suits x.1 = true ∧ x.1 = name := by simpa using hx
      rw [hname] at hsuits'
      exact hsuits hsuits'
  rw [setting?, withoutMisfits, hfind, setting?]
  split <;> rfl

/-- What is read under a name is the same without the settings of other kinds. -/
theorem read_withoutMisfits {α : Type} {read : Yaml.Value → Option α} {name : String}
    (h : s.suits name = (s.setting? name >>= read).isSome) :
    (s.withoutMisfits.setting? name >>= read) = s.setting? name >>= read := by
  rw [setting?_withoutMisfits, h]
  split
  case isTrue => rfl
  case isFalse hnone =>
    rw [Option.not_isSome_iff_eq_none] at hnone
    exact hnone.symm

theorem natural?_withoutMisfits :
    s.withoutMisfits.natural? "busy_cycles" = s.natural? "busy_cycles" :=
  s.read_withoutMisfits rfl

theorem text?_withoutMisfits : s.withoutMisfits.text? "scrollback" = s.text? "scrollback" :=
  s.read_withoutMisfits rfl

theorem bool?_withoutMisfits : s.withoutMisfits.bool? "echo_stdout" = s.bool? "echo_stdout" :=
  s.read_withoutMisfits rfl

end DeviceSpec

namespace Board

variable {δ : Type} [TerminalPeripheral δ]

theorem displayOf_withoutMisfits (s : DeviceSpec) : displayOf s.withoutMisfits = displayOf s := by
  have hscrollback : scrollbackOf s.withoutMisfits = scrollbackOf s := by
    rw [scrollbackOf, scrollbackOf, s.text?_withoutMisfits]
    rfl
  rw [displayOf, displayOf, s.natural?_withoutMisfits, s.bool?_withoutMisfits, hscrollback]
  rfl

theorem deviceOf_withoutMisfits (s : DeviceSpec) :
    deviceOf (δ := δ) s.withoutMisfits = deviceOf s := by
  rw [deviceOf, deviceOf, displayOf_withoutMisfits]
  rfl

/-- The devices are the same ones without the settings of other kinds. -/
theorem mapAll_withoutMisfits (bus : Bus δ) (specs : List DeviceSpec) :
    mapAll bus (specs.map DeviceSpec.withoutMisfits) = mapAll bus specs := by
  induction specs generalizing bus with
  | nil => rfl
  | cons s specs ih =>
      rw [List.map_cons, mapAll, mapAll, deviceOf_withoutMisfits]
      simp only [ih]
      rfl

/-! ## Settings that are honoured -/

/-- The display has been built with the settings of the description, and with what is
usual where it gives none of the right kind. -/
structure Honours (s : DeviceSpec) (d : Display) : Prop where
  busyCycles : d.busyCycles.toNat = (s.natural? "busy_cycles").getD 4
  echo : d.echo = (s.bool? "echo_stdout").getD false
  scrollback : ∀ text, s.text? "scrollback" = some text →
    ∃ size, Size.parse text = .ok size ∧ 0 < size ∧
      d.transcript.limit = size ∧ d.screen.limit = size
  usualScrollback : s.text? "scrollback" = none →
    d.transcript.limit = 4096 ∧ d.screen.limit = 4096

theorem echo_of_displayOf {s : DeviceSpec} {d : Display} (h : displayOf s = .ok d) :
    d.echo = (s.bool? "echo_stdout").getD false := by
  unfold displayOf at h
  dsimp only at h
  by_cases hbusy : Nat.pow 2 32 ≤ (s.natural? "busy_cycles").getD defaultBusyCycles
  · rw [if_pos hbusy] at h
    cases h
  · rw [if_neg hbusy] at h
    obtain ⟨limit, -, h⟩ := bind_eq_ok.mp h
    cases h
    rfl

theorem honours_of_displayOf {s : DeviceSpec} {d : Display} (h : displayOf s = .ok d) :
    Honours s d := by
  have hbuilt := isBuiltAs_of_displayOf h
  obtain ⟨hlimit, hscreen⟩ := hbuilt.scrollback
  obtain ⟨hpos, hsource⟩ := scrollbackOf_eq_ok_iff.mp hlimit
  refine ⟨hbuilt.busyCycles, echo_of_displayOf h, ?_, ?_⟩
  · intro text htext
    rcases hsource with ⟨hnone, -⟩ | ⟨text', htext', hsize⟩
    · rw [htext] at hnone
      cases hnone
    · rw [htext] at htext'
      cases htext'
      exact ⟨_, hsize, hpos, rfl, hscreen⟩
  · intro hnone
    rcases hsource with ⟨-, husual⟩ | ⟨text', htext', -⟩
    · exact ⟨husual, hscreen.trans husual⟩
    · rw [hnone] at htext'
      cases htext'

/-- The mappings of displays honour their descriptions, in the order of the board. -/
theorem forall₂_honours [LawfulTerminalPeripheral δ] {b : Board} {bus : Bus δ}
    (h : b.assemble = .ok bus) :
    List.Forall₂ (fun s m => s.kind = "display" →
        ∃ d, m.device = TerminalPeripheral.ofDisplay d ∧ Honours s d)
      (b.devices.filter DeviceSpec.isKnown) bus.mappings := by
  obtain ⟨hb, size, -, rfl⟩ := assemble_eq_ok_iff.mp h
  refine forall₂_mappingOf fun s hs hknown => ?_
  obtain ⟨m, hmapping, -⟩ := exists_answers (δ := δ) hknown (hb.settings s hs)
  refine ⟨m, hmapping, fun hdisplay => ?_⟩
  obtain ⟨d, hd⟩ := exists_displayOf_iff.mpr (hb.settings s hs hdisplay)
  rw [mappingOf?, deviceOf_of_display hdisplay, hd] at hmapping
  cases hmapping
  exact ⟨d, rfl, honours_of_displayOf hd⟩

end Board

open Board in
/-- A board is assembled only with every setting honoured that is of the kind that a display
looks for; one such setting that is out of range, a scrollback of no bytes among them, has
the board rejected.  All other settings are passed over without a word. -/
theorem settings_of_other_kinds_are_passed_over {δ : Type} [TerminalPeripheral δ]
    [LawfulTerminalPeripheral δ] (b : Board) :
    (∀ bus : Bus δ, b.assemble = .ok bus →
      List.Forall₂ (fun s m => s.kind = "display" →
          ∃ d, m.device = TerminalPeripheral.ofDisplay d ∧ Honours s d)
        (b.devices.filter DeviceSpec.isKnown) bus.mappings) ∧
    (∀ s ∈ b.devices, s.kind = "display" → ¬ s.SettingsFit →
      ∀ bus : Bus δ, b.assemble ≠ .ok bus) ∧
    ((b.withDevices (b.devices.map DeviceSpec.withoutMisfits)).assemble :
      Except BoardFault (Bus δ)) = b.assemble := by
  refine ⟨fun bus hbus => forall₂_honours hbus, fun s hs hdisplay hmisfit bus hbus => ?_, ?_⟩
  · exact hmisfit ((exists_assemble_iff.mp ⟨bus, hbus⟩).settings s hs hdisplay)
  · unfold assemble
    simp only [withDevices, mapAll_withoutMisfits]
    rfl

/-- A display of these settings. -/
def settingsPanel (settings : List (String × Yaml.Value)) : DeviceSpec where
  id := "panel"
  kind := "display"
  basePort := 0xFC
  settings := settings

/-- A board with nothing but that display. -/
def settingsBoard (settings : List (String × Yaml.Value)) : Board where
  name := "settings"
  ram := { base := 0, size := "4B" }
  devices := [settingsPanel settings]

/-- The bus of that board, with this display. -/
def settingsBus (d : Display) : Bus Device where
  ram := .zeroed 4 0
  mappings := [⟨"panel", 0xFC, 2, .display d⟩]

/-- One setting of the right kind, and two of others. -/
def mixedSettings : List (String × Yaml.Value) :=
  [("busy_cycles", .negative 1), ("scrollback", .sequence []), ("echo_stdout", .bool true)]

/-- The one setting is honoured and the others are passed over; no bytes of scrollback are
rejected when they are written as a text. -/
theorem settings_of_other_kinds_are_passed_over_mixed_settings :
    (∃ d, (settingsBoard mixedSettings).assemble = .ok (settingsBus d) ∧
      Board.Honours (settingsPanel mixedSettings) d ∧ d.echo = true ∧
      (settingsBoard [("echo_stdout", .bool true)]).assemble = .ok (settingsBus d)) ∧
    ∀ bus : Bus Device, (settingsBoard [("scrollback", .text "0B")]).assemble ≠ .ok bus := by
  have hboard : (settingsBoard mixedSettings).assemble =
      .ok (settingsBus { Display.new 4 4096 with echo := true }) := rfl
  obtain ⟨hhonours, -, habsent⟩ :=
    settings_of_other_kinds_are_passed_over (δ := Device) (settingsBoard mixedSettings)
  obtain ⟨-, hrejected, -⟩ := settings_of_other_kinds_are_passed_over (δ := Device)
    (settingsBoard [("scrollback", .text "0B")])
  refine ⟨⟨_, hboard, ?_, rfl, habsent.trans hboard⟩,
    hrejected _ List.mem_cons_self rfl fun hfits => ?_⟩
  · obtain ⟨hpanel, -⟩ := List.forall₂_cons.mp (hhonours _ hboard)
    obtain ⟨d, hd, hhonoured⟩ := hpanel rfl
    cases hd
    exact hhonoured
  · obtain ⟨size, hsize, hpos⟩ := hfits.scrollback "0B" rfl
    have hzero : Size.parse "0B" = .ok 0 := by decide +kernel
    rw [hzero] at hsize
    cases hsize
    exact absurd hpos (by decide)

/-- No bytes of scrollback are passed over when they are written as a number: the display
keeps the usual number of bytes. -/
theorem zero_scrollback_is_passed_over :
    (settingsBoard [("scrollback", .natural 0)]).assemble = .ok (settingsBus (Display.new 4 4096)) ∧
    (Display.new 4 4096).transcript.limit = 4096 ∧
    ((settingsBoard [("scrollback", .text "0B")]).assemble : Except BoardFault (Bus Device)).map
      (fun _ => ()) = .error (.emptyScrollback "panel") :=
  ⟨rfl, rfl, by decide +kernel⟩

end PolledTerminal
