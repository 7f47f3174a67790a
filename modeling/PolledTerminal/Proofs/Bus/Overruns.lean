import PolledTerminal.Proofs.Bus.Handshake
import PolledTerminal.Proofs.Bus.Keyboards
set_option autoImplicit false

/-!
# No overruns

Only a write to a busy display overruns it.  Reads, cycles, changes to data
memory and to a keyboard, and writes that wait leave the overruns of every
display as they are; they also leave every mapping in its place.
-/

namespace PolledTerminal

open TerminalPeripheral (ofDisplay ofKeyboard display? keyboard?)

variable {δ : Type} [TerminalPeripheral δ]

/-- The overruns of the display mapped here, if it is one. -/
def Mapping.overruns? (m : Mapping δ) : Option Nat := (display? m.device).map Display.overruns

/-- What a calm change leaves as it is about a mapping. -/
def Mapping.tally (m : Mapping δ) : ((String × UInt8 × UInt8) × Bool × Bool) × Option Nat :=
  (m.outline, m.overruns?)

/-- Another device in the same place, with the same overruns if it is a display, and a
keyboard just when the device before was one. -/
theorem Mapping.tally_congr {m : Mapping δ} {device : δ}
    (hdisplay : (display? device).map Display.overruns = (display? m.device).map Display.overruns)
    (hkeyboard : (keyboard? device).isSome = (keyboard? m.device).isSome) :
    ({ m with device := device } : Mapping δ).tally = m.tally := by
  have hisDisplay : (display? device).isSome = (display? m.device).isSome := by
    rw [← Option.isSome_map, hdisplay, Option.isSome_map]
  simp only [tally, outline, overruns?, isDisplay, isKeyboard, place, hdisplay, hkeyboard,
    hisDisplay]

namespace Bus

/-- The overruns of the displays, in the order of the mappings. -/
def overruns (b : Bus δ) : List (Option Nat) := b.mappings.map Mapping.overruns?

/-- A change that moves nothing and overruns no display. -/
structure Calm (b b' : Bus δ) : Prop where
  ramBase : b'.ram.base = b.ram.base
  ramSize : b'.ram.cells.size = b.ram.cells.size
  tallies : b'.mappings.map Mapping.tally = b.mappings.map Mapping.tally

namespace Calm

variable {b b' b'' : Bus δ}

theorem refl (b : Bus δ) : Calm b b := ⟨rfl, rfl, rfl⟩

theorem trans (h : Calm b b') (h' : Calm b' b'') : Calm b b'' :=
  ⟨h'.ramBase.trans h.ramBase, h'.ramSize.trans h.ramSize, h'.tallies.trans h.tallies⟩

theorem sameOutline (h : Calm b b') : SameOutline b b' := by
  refine ⟨h.ramBase, h.ramSize, ?_⟩
  have houtlines := congrArg (List.map Prod.fst) h.tallies
  rwa [List.map_map, List.map_map] at houtlines

theorem overruns_eq (h : Calm b b') : b'.overruns = b.overruns := by
  have hoverruns := congrArg (List.map Prod.snd) h.tallies
  rwa [List.map_map, List.map_map] at hoverruns

theorem disjoint (h : Calm b b') (hb : b.Disjoint) : b'.Disjoint :=
  hb.of_samePlaces h.sameOutline.samePlaces

theorem sized (h : Calm b b') (hb : b.Sized) : b'.Sized := h.sameOutline.sized hb

/-- One device gives way to another with the same tally. -/
theorem replace {before after : List (Mapping δ)} {m : Mapping δ} {device : δ}
    (hsplit : b.mappings = before ++ m :: after)
    (htally : ({ m with device := device } : Mapping δ).tally = m.tally) (printed : List String) :
    Calm b { b with
      mappings := before ++ { m with device := device } :: after, printed := printed } :=
  ⟨rfl, rfl, by simp only [hsplit, List.map_append, List.map_cons, htally]⟩

end Calm

section Lawful

variable [LawfulTerminalPeripheral δ] {b : Bus δ}

/-! ## Cycles and reads -/

theorem tally_later (m : Mapping δ) (n : Nat) : (m.later n).tally = m.tally := by
  have hdisplay := LawfulTerminalPeripheral.display?_tick_iterate n m.device
  have hkeyboard := LawfulTerminalPeripheral.keyboard?_tick_iterate n m.device
  have hoverruns : Display.overruns ∘ Display.tick^[n] = Display.overruns := by
    funext d
    rw [Function.comp_apply, Display.iterate_tick_overruns]
  simp only [Mapping.tally, Mapping.outline, Mapping.overruns?, Mapping.isDisplay,
    Mapping.isKeyboard, Mapping.place_later]
  simp only [Mapping.later, hdisplay, hkeyboard, Option.isSome_map, Option.map_map, hoverruns]

theorem calm_settle (b : Bus δ) : Calm b b.settle := by
  refine ⟨rfl, rfl, ?_⟩
  rw [settle_mappings, List.map_map]
  exact List.map_congr_left fun m _ => tally_later m 1

theorem calm_fetch (hb : b.Disjoint) (addr : UInt8) : Calm b (b.fetch addr).2 := by
  cases hread : b.ram.read? addr with
  | some value =>
      rw [fetch_of_memory hread]
      exact .refl b
  | none =>
      rcases b.exists_owner_or_unowned addr with ⟨before, m, after, hsplit, haddr⟩ | hunowned
      · rw [fetch_of_owner hb hsplit haddr]
        refine Calm.replace hsplit (Mapping.tally_congr ?_ ?_) b.printed
        · rw [LawfulTerminalPeripheral.display?_read]
        · rw [LawfulTerminalPeripheral.isSome_keyboard?_read]
      · rw [fetch_of_unowned ((DataMemory.read?_eq_none_iff _ _).mp hread) hunowned]
        exact .refl b

/-! ## Writes -/

omit [LawfulTerminalPeripheral δ] in
/-- A write to data memory. -/
theorem calm_store_of_memory {addr : UInt8} (haddr : b.ram.contains addr = true) (value : UInt8) :
    Calm b (b.store addr value).2 := by
  have hwrite : b.ram.write? addr value = some { b.ram with
      cells := b.ram.cells.setIfInBounds (addr.toNat - b.ram.base.toNat) value } := by
    rw [DataMemory.write?, if_pos haddr]
  rw [store_of_memory hwrite]
  exact ⟨rfl, Array.size_setIfInBounds, rfl⟩

/-- A write that has waited for its display. -/
theorem DisplayAt.calm_afterWrite {before after : List (Mapping δ)} {m : Mapping δ} {d : Display}
    (h : b.DisplayAt before m after d) {offset : UInt8} (hoffset : offset < 2) (value : UInt8) :
    Calm b (b.afterWrite before m after d offset value) := by
  have hwritten := Display.write_of_accepts (Display.accepts_ready hoffset d) value
  have htally : ({ m with device := ofDisplay (d.ready.write offset value).1.tick } :
      Mapping δ).tally = m.tally := by
    apply Mapping.tally_congr
    · rw [h.device, LawfulTerminalPeripheral.display?_ofDisplay,
        LawfulTerminalPeripheral.display?_ofDisplay, Option.map_some, Option.map_some,
        Display.tick_overruns, hwritten.1, Display.ready]
    · rw [h.device, LawfulTerminalPeripheral.keyboard?_ofDisplay,
        LawfulTerminalPeripheral.keyboard?_ofDisplay]
  refine ⟨rfl, rfl, ?_⟩
  have hlater (n : Nat) (ms : List (Mapping δ)) :
      (ms.map (Mapping.later n)).map Mapping.tally = ms.map Mapping.tally := by
    rw [List.map_map]
    exact List.map_congr_left fun m _ => tally_later m n
  simp only [afterWrite, h.split, List.map_append, List.map_cons, hlater, htally]

/-! ## Keyboards -/

theorem KeyboardAt.calm_withKeyboard {before after : List (Mapping δ)} {m : Mapping δ}
    {k : Keyboard} (h : b.KeyboardAt before m after k) (k' : Keyboard) :
    Calm b (b.withKeyboard before m after k') := by
  refine Calm.replace h.split (Mapping.tally_congr ?_ ?_) b.printed
  · rw [h.device, LawfulTerminalPeripheral.display?_ofKeyboard,
      LawfulTerminalPeripheral.display?_ofKeyboard]
  · rw [h.device, LawfulTerminalPeripheral.keyboard?_ofKeyboard,
      LawfulTerminalPeripheral.keyboard?_ofKeyboard]
    rfl

theorem calm_changeKeyboard (b : Bus δ) (f : Keyboard → Keyboard) :
    Calm b (b.changeKeyboard f) := by
  rcases b.exists_keyboardAt_or_none with ⟨before, m, after, k, h⟩ | hnone
  · rw [h.changeKeyboard_eq f]
    exact h.calm_withKeyboard (f k)
  · rw [changeKeyboard_of_none hnone f]
    exact .refl b

/-! ## Whole actions -/

theorem keeps_read (hb : b.Disjoint) (addr : UInt8) : Act.Keeps (Calm b) (Bus.read addr) := by
  intro b' hcalm
  refine ⟨_, _, run_read b' addr, ?_⟩
  exact (hcalm.trans (calm_fetch (hcalm.disjoint hb) addr)).trans (calm_settle _)

theorem keeps_write_of_memory {addr : UInt8} (haddr : b.ram.contains addr = true) (value : UInt8) :
    Act.Keeps (Calm b) (Bus.write addr value) := by
  intro b' hcalm
  refine ⟨_, _, run_write b' addr value, ?_⟩
  have hcontains : b'.ram.contains addr = true := by
    rw [hcalm.sameOutline.samePlaces.contains, haddr]
  exact (hcalm.trans (calm_store_of_memory hcontains value)).trans (calm_settle _)

/-- Writes that wait for the terminal's display are calm. -/
theorem keeps_writeCharacter (hb : b.Disjoint) (hsized : b.Sized) {ports : TerminalPorts}
    (hports : TerminalPorts.ofBus? b = some ports) {port : UInt8}
    (hport : port = ports.lcr ∨ port = ports.ldr) (value : UInt8) :
    Act.Keeps (Calm b) (Bus.writeCharacter port value) := by
  intro b' hcalm
  have hports' : TerminalPorts.ofBus? b' = some ports := by
    rw [hcalm.sameOutline.ports_eq, hports]
  obtain ⟨before, m, after, d, hd, -, hlcr, hldr⟩ :=
    exists_display_of_ports (hcalm.sized hsized) hports'
  have hwrite (offset : UInt8) (hoffset : offset < 2) :=
    hd.run_writeCharacter (hcalm.disjoint hb) hoffset value
  have hafter (offset : UInt8) (hoffset : offset < 2) :=
    hcalm.trans (hd.calm_afterWrite hoffset value)
  rcases hport with rfl | rfl
  · rw [hlcr]
    exact ⟨_, _, hwrite Display.controlRegister (by decide), hafter _ (by decide)⟩
  · rw [hldr]
    exact ⟨_, _, hwrite Display.dataRegister (by decide), hafter _ (by decide)⟩

theorem keeps_pollInput (hb : b.Disjoint) (port : UInt8) :
    Act.Keeps (Calm b) (Bus.pollInput port) :=
  (keeps_read hb port).bind fun _ => .pure _

end Lawful

end Bus

end PolledTerminal
