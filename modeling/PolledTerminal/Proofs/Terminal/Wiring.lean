import PolledTerminal.Proofs.Bus.Bystanders
set_option autoImplicit false

/-!
# A terminal's bus

The bus as the terminal sees it: the first display and the first keyboard behind
the terminal's ports.  For everything that the terminal or its host does, this is
what the display and the keyboard become.
-/

namespace PolledTerminal.Bus

open TerminalPeripheral (ofDisplay ofKeyboard)

variable {δ : Type} [TerminalPeripheral δ]

/-- The terminal's ports are those of the first display and the first keyboard of
the bus, and here is the state of both. -/
structure Wired (b : Bus δ) (ports : TerminalPorts) (d : Display) (k : Keyboard) : Prop where
  disjoint : b.Disjoint
  sized : b.Sized
  ports_eq : TerminalPorts.ofBus? b = some ports
  display : b.display? = some d
  keyboard : b.keyboard? = some k

theorem Wired.of_calm {b b' : Bus δ} {ports : TerminalPorts} {d d' : Display} {k k' : Keyboard}
    (h : b.Wired ports d k) (hcalm : Calm b b') (hd : b'.display? = some d')
    (hk : b'.keyboard? = some k') : b'.Wired ports d' k' :=
  ⟨hcalm.disjoint h.disjoint, hcalm.sized h.sized, hcalm.sameOutline.ports_eq.trans h.ports_eq,
    hd, hk⟩

section Lawful

variable [LawfulTerminalPeripheral δ] {b : Bus δ} {ports : TerminalPorts} {d : Display}
  {k : Keyboard}

/-! ## Cycles -/

theorem display?_map_later (n : Nat) (ms : List (Mapping δ)) :
    (ms.map (Mapping.later n)).findSome? (fun m => TerminalPeripheral.display? m.device) =
      (ms.findSome? fun m => TerminalPeripheral.display? m.device).map (Display.tick^[n]) := by
  rw [List.findSome?_map, List.map_findSome?]
  congr 1
  funext m
  exact LawfulTerminalPeripheral.display?_tick_iterate n m.device

theorem keyboard?_map_later (n : Nat) (ms : List (Mapping δ)) :
    (ms.map (Mapping.later n)).findSome? (fun m => TerminalPeripheral.keyboard? m.device) =
      ms.findSome? fun m => TerminalPeripheral.keyboard? m.device := by
  rw [List.findSome?_map]
  congr 1
  funext m
  exact LawfulTerminalPeripheral.keyboard?_tick_iterate n m.device

theorem Wired.settle (h : b.Wired ports d k) : b.settle.Wired ports d.tick k := by
  refine h.of_calm (calm_settle b) ?_ ?_
  · rw [display?, settle_mappings, display?_map_later]
    show b.display?.map (Display.tick^[1]) = _
    rw [h.display]
    rfl
  · rw [keyboard?, settle_mappings, keyboard?_map_later]
    exact h.keyboard

/-! ## The two devices -/

/-- Before the first display there is none to be found. -/
theorem DisplayAt.display?_eq {before after : List (Mapping δ)} {m : Mapping δ}
    (h : b.DisplayAt before m after d) (hfirst : ∀ n ∈ before, n.isDisplay = false) :
    b.display? = some d := by
  have hbefore : before.findSome? (fun n => TerminalPeripheral.display? n.device) = none :=
    List.findSome?_eq_none_iff.mpr fun n hn => Mapping.display?_eq_none (hfirst n hn)
  rw [Bus.display?, h.split, List.findSome?_append, hbefore, Option.none_or, List.findSome?_cons,
    h.device, LawfulTerminalPeripheral.display?_ofDisplay]

/-- Where a display stands there is no keyboard to be found, so it does not matter
which display it is. -/
theorem DisplayAt.keyboard?_eq {before after : List (Mapping δ)} {m : Mapping δ}
    (h : b.DisplayAt before m after d) :
    b.keyboard? = (before ++ after).findSome? fun n => TerminalPeripheral.keyboard? n.device := by
  rw [Bus.keyboard?, h.split, List.findSome?_append, List.findSome?_append, List.findSome?_cons,
    h.device, LawfulTerminalPeripheral.keyboard?_ofDisplay]

theorem KeyboardAt.display?_eq {before after : List (Mapping δ)} {m : Mapping δ}
    (h : b.KeyboardAt before m after k) :
    b.display? = (before ++ after).findSome? fun n => TerminalPeripheral.display? n.device := by
  rw [Bus.display?, h.split, List.findSome?_append, List.findSome?_append, List.findSome?_cons,
    h.device, LawfulTerminalPeripheral.display?_ofKeyboard]

theorem Wired.exists_displayAt (h : b.Wired ports d k) :
    ∃ before m after, b.DisplayAt before m after d ∧ (∀ n ∈ before, n.isDisplay = false) ∧
      ports.lcr = m.base ∧ ports.ldr = m.base + 1 := by
  obtain ⟨before, m, after, d', hd', hfirst, hlcr, hldr⟩ :=
    exists_display_of_ports h.sized h.ports_eq
  have heq : some d' = some d := (hd'.display?_eq hfirst).symm.trans h.display
  cases heq
  exact ⟨before, m, after, hd', hfirst, hlcr.trans (UInt8.add_zero _), hldr⟩

/-- A bus that a terminal has ports on has a first display and a first keyboard. -/
theorem exists_wired (hb : b.Disjoint) (hsized : b.Sized)
    (hports : TerminalPorts.ofBus? b = some ports) : ∃ d k, b.Wired ports d k := by
  obtain ⟨before, m, after, d, hd, hfirst, -, -⟩ := exists_display_of_ports hsized hports
  rcases b.exists_keyboardAt_or_none with ⟨_, _, _, k, hk⟩ | hnone
  · exact ⟨d, k, hb, hsized, hports, hd.display?_eq hfirst, hk.keyboard?_eq⟩
  · unfold TerminalPorts.ofBus? at hports
    obtain ⟨_, -, hports⟩ := Option.bind_eq_some_iff.mp hports
    obtain ⟨_, hbase, -⟩ := Option.bind_eq_some_iff.mp hports
    obtain ⟨n, hfind, -⟩ := Option.map_eq_some_iff.mp hbase
    have hkeyboard : n.isKeyboard = true := List.find?_some hfind
    rw [hnone n (List.mem_of_find?_eq_some hfind)] at hkeyboard
    cases hkeyboard

/-- The data port follows the control port. -/
theorem Wired.ldr_eq (h : b.Wired ports d k) : ports.ldr = ports.lcr + Display.dataRegister := by
  obtain ⟨_, _, _, -, -, hlcr, hldr⟩ := h.exists_displayAt
  rw [hlcr, hldr]
  rfl

theorem Wired.exists_keyboardAt (h : b.Wired ports d k) :
    ∃ before m after, b.KeyboardAt before m after k ∧ m.size = 1 ∧ ports.kdr = m.base := by
  rcases b.exists_keyboardAt_or_none with ⟨before, m, after, k', hk'⟩ | hnone
  · have heq : some k' = some k := hk'.keyboard?_eq.symm.trans h.keyboard
    cases heq
    have hmem : m ∈ b.mappings := by simp [hk'.split]
    have hkeyboard : m.isKeyboard = true := by
      rw [Mapping.isKeyboard, hk'.device, LawfulTerminalPeripheral.keyboard?_ofKeyboard]
      rfl
    have hfind : b.mappings.find? Mapping.isKeyboard = some m :=
      List.find?_eq_some_iff_append.mpr
        ⟨hkeyboard, before, after, hk'.split, fun n hn => by rw [hk'.first n hn]; rfl⟩
    have hbase : b.keyboardBase? = some m.base := congrArg (Option.map Mapping.base) hfind
    refine ⟨before, m, after, hk', (h.sized m hmem).2 hkeyboard, ?_⟩
    have hports := h.ports_eq
    unfold TerminalPorts.ofBus? at hports
    obtain ⟨base, -, hports⟩ := Option.bind_eq_some_iff.mp hports
    rw [hbase] at hports
    cases hports
    exact UInt8.add_zero _
  · have hkeyboard : b.keyboard? = none :=
      List.findSome?_eq_none_iff.mpr fun n hn => Mapping.keyboard?_eq_none (hnone n hn)
    rw [h.keyboard] at hkeyboard
    cases hkeyboard

/-! ## Accesses -/

/-- A read of data memory gives the byte there and lets a cycle pass. -/
theorem Wired.run_read (h : b.Wired ports d k) {addr value : UInt8}
    (hread : b.ram.read? addr = some value) :
    Act.run (Bus.read addr) b = some (.ok value, b.settle) ∧ b.settle.Wired ports d.tick k := by
  refine ⟨?_, h.settle⟩
  rw [Bus.run_read, fetch_of_memory hread]

/-- A character written to one of the display's ports is written when the display is
ready, and the keyboard does not notice. -/
theorem Wired.run_writeCharacter (h : b.Wired ports d k) {offset : UInt8} (hoffset : offset < 2)
    (value : UInt8) :
    ∃ b', Act.run (Bus.writeCharacter (ports.lcr + offset) value) b =
        some (.ok d.busyRemaining.toNat, b') ∧
      b'.Wired ports (d.ready.write offset value).1.tick k ∧
      Passes (d.busyRemaining.toNat + 2) (d.ready.write offset value).2 b b' := by
  obtain ⟨before, m, after, hd, hfirst, hlcr, -⟩ := h.exists_displayAt
  have hpasses := hd.passes_afterWrite hfirst hoffset value
  have hat : (b.afterWrite before m after d offset value).DisplayAt
      (before.map (Mapping.later (d.busyRemaining.toNat + 2)))
      { m with device := ofDisplay (d.ready.write offset value).1.tick }
      (after.map (Mapping.later (d.busyRemaining.toNat + 2)))
      (d.ready.write offset value).1.tick := ⟨rfl, rfl, hd.size⟩
  refine ⟨_, ?_, h.of_calm hpasses.calm ?_ ?_, hpasses⟩
  · rw [hlcr]
    exact hd.run_writeCharacter h.disjoint hoffset value
  · apply hat.display?_eq
    intro n hn
    obtain ⟨n₀, hn₀, rfl⟩ := List.mem_map.mp hn
    rw [Mapping.isDisplay_later]
    exact hfirst n₀ hn₀
  · rw [hat.keyboard?_eq, ← List.map_append, keyboard?_map_later, ← hd.keyboard?_eq]
    exact h.keyboard

/-- Another state of the keyboard is the only thing that changes. -/
theorem Wired.withKeyboard (h : b.Wired ports d k) {before after : List (Mapping δ)}
    {m : Mapping δ} (hk : b.KeyboardAt before m after k) (k' : Keyboard) :
    (b.withKeyboard before m after k').Wired ports d k' := by
  have hat : (b.withKeyboard before m after k').KeyboardAt before
      { m with device := ofKeyboard k' } after k' := ⟨rfl, rfl, hk.first⟩
  refine h.of_calm (hk.calm_withKeyboard k') ?_ hat.keyboard?_eq
  rw [hat.display?_eq, ← hk.display?_eq]
  exact h.display

/-- A read of the keyboard's port takes the next key. -/
theorem Wired.run_readKeyboard (h : b.Wired ports d k) :
    ∃ b', Act.run (Bus.read ports.kdr) b = some (.ok (k.pop.1.getD 0), b') ∧
      b'.Wired ports d.tick k.pop.2 ∧ Passes 1 "" b b' := by
  obtain ⟨before, m, after, hk, hsize, hkdr⟩ := h.exists_keyboardAt
  refine ⟨_, ?_, (h.withKeyboard hk k.pop.2).settle,
    (hk.passes_withKeyboard k.pop.2).trans (passes_settle _)⟩
  rw [hkdr]
  exact hk.run_read h.disjoint hsize

/-- So does a poll of it. -/
theorem Wired.run_pollInput (h : b.Wired ports d k) :
    ∃ b', Act.run (Bus.pollInput ports.kdr) b =
        some (.ok (if k.pop.1.getD 0 = 0 then none else some (k.pop.1.getD 0)), b') ∧
      b'.Wired ports d.tick k.pop.2 ∧ Passes 1 "" b b' := by
  obtain ⟨b', hread, hwired, hpasses⟩ := h.run_readKeyboard
  refine ⟨b', ?_, hwired, hpasses⟩
  show Act.run (Bus.read ports.kdr >>= _) b = _
  rw [Act.run_bind_of_ok hread, Act.run_pure]

/-! ## Changes from outside -/

/-- What the host does to the keyboard. -/
theorem Wired.changeKeyboard (h : b.Wired ports d k) (f : Keyboard → Keyboard) :
    (b.changeKeyboard f).Wired ports d (f k) ∧ Passes 0 "" b (b.changeKeyboard f) := by
  obtain ⟨before, m, after, hk, -, -⟩ := h.exists_keyboardAt
  rw [hk.changeKeyboard_eq f]
  exact ⟨h.withKeyboard hk (f k), hk.passes_withKeyboard (f k)⟩

/-- What is printed of the display changes nothing else about it. -/
theorem Wired.setEcho (h : b.Wired ports d k) (echo : Bool) :
    (b.setEcho echo).Wired ports { d with echo := echo } k ∧ Passes 0 "" b (b.setEcho echo) := by
  obtain ⟨before, m, after, hd, hfirst, -, -⟩ := h.exists_displayAt
  have hchange : b.setEcho echo = { b with
      mappings := before ++ { m with device := ofDisplay { d with echo := echo } } :: after } := by
    have hskip : ∀ n ∈ before, (TerminalPeripheral.display? n.device).map
        (ofDisplay (δ := δ) ∘ fun d => { d with echo := echo }) = none := by
      intro n hn
      rw [Mapping.display?_eq_none (hfirst n hn), Option.map_none]
    rw [Bus.setEcho, changeDisplay, hd.split, replaceFirst_append_of_none _ hskip, replaceFirst,
      hd.device, LawfulTerminalPeripheral.display?_ofDisplay, Option.map_some]
    rfl
  have hcalm : Calm b (b.setEcho echo) := by
    rw [hchange]
    refine Calm.replace hd.split (Mapping.tally_congr ?_ ?_) b.printed
    · rw [hd.device, LawfulTerminalPeripheral.display?_ofDisplay,
        LawfulTerminalPeripheral.display?_ofDisplay]
      rfl
    · rw [hd.device, LawfulTerminalPeripheral.keyboard?_ofDisplay,
        LawfulTerminalPeripheral.keyboard?_ofDisplay]
  have hat : (b.setEcho echo).DisplayAt before
      { m with device := ofDisplay { d with echo := echo } } after { d with echo := echo } := by
    rw [hchange]
    exact ⟨rfl, rfl, hd.size⟩
  refine ⟨h.of_calm hcalm (hat.display?_eq hfirst) ?_, ⟨hcalm, ?_, ?_, ?_, ?_⟩⟩
  · rw [hat.keyboard?_eq, ← hd.keyboard?_eq]
    exact h.keyboard
  · rw [hchange]
  · rw [hchange]
    rfl
  · rw [hchange, String.append_empty]
    rfl
  · rw [hat.bystanders_eq hfirst, ← hd.bystanders_eq hfirst]
    exact (Passes.refl b).bystanders

/-- What is done to the first display is done to it alone. -/
theorem display?_changeDisplay (b : Bus δ) (f : Display → Display) :
    (b.changeDisplay f).display? = b.display?.map f := by
  have hreplace (ms : List (Mapping δ)) :
      (replaceFirst (fun x => (TerminalPeripheral.display? x).map (ofDisplay ∘ f)) ms).findSome?
          (fun m => TerminalPeripheral.display? m.device) =
        (ms.findSome? fun m => TerminalPeripheral.display? m.device).map f := by
    induction ms with
    | nil => rfl
    | cons m ms ih =>
        cases hd : TerminalPeripheral.display? m.device with
        | none => simpa [replaceFirst, hd] using ih
        | some d => simp [replaceFirst, hd]
  exact hreplace b.mappings

/-! ## Overruns -/

omit [LawfulTerminalPeripheral δ] in
/-- Calm changes do not overrun the first display. -/
theorem Calm.overruns_of_display {b' : Bus δ} (h : Calm b b') {d' : Display}
    (hd : b.display? = some d) (hd' : b'.display? = some d') : d'.overruns = d.overruns := by
  have hfirst (c : Bus δ) : c.overruns.findSome? id = c.display?.map Display.overruns := by
    rw [overruns, List.findSome?_map, display?, List.map_findSome?]
    rfl
  have heq := congrArg (List.findSome? id) h.overruns_eq
  rw [hfirst, hfirst, hd, hd'] at heq
  exact Option.some.inj heq

end Lawful

end PolledTerminal.Bus
