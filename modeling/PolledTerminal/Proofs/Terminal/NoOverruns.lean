import PolledTerminal.Proofs.Bus.Overruns
import PolledTerminal.Proofs.Machine.Moves
set_option autoImplicit false

/-!
# The terminal overruns no display

Every write of the terminal waits for the first display, whatever the terminal
was told to act on and whatever has become of its prompt in data memory; so no
run of it overruns a display, and every step of it ends.
-/

namespace PolledTerminal

open TerminalPeripheral (ofDisplay)

variable {δ : Type} [TerminalPeripheral δ]

namespace Terminal

/-- A rig of the terminal after calm changes to its bus. -/
structure CalmRig (b : Bus δ) (ports : TerminalPorts) (r : Rig Terminal δ) : Prop where
  ports_eq : r.program.ports = ports
  calm : Bus.Calm b r.bus

section Rig

variable {b : Bus δ} {ports : TerminalPorts}

/-- What is calm on the bus is calm on the rig. -/
theorem keeps_onBus {α : Type} {a : Act (Bus δ) α} (h : Act.Keeps (Bus.Calm b) a) :
    Act.Keeps (CalmRig b ports) (Rig.onBus a) :=
  h.within (fun _ hr => hr.calm) fun _ _ hr hbus => ⟨hr.ports_eq, hbus⟩

theorem keeps_record (e : TraceEvent) :
    Act.Keeps (CalmRig b ports) (Rig.record e : Act (Rig Terminal δ) Unit) :=
  .ofStep fun _ hr => ⟨hr.ports_eq, hr.calm⟩

theorem keeps_changeProgram {f : Terminal → Terminal} (hf : ∀ t, (f t).ports = t.ports) :
    Act.Keeps (CalmRig b ports) (Rig.changeProgram f : Act (Rig Terminal δ) Unit) :=
  .ofStep fun r hr => ⟨(hf r.program).trans hr.ports_eq, hr.calm⟩

variable [LawfulTerminalPeripheral δ] (hb : b.Disjoint) (hsized : b.Sized)
  (hports : TerminalPorts.ofBus? b = some ports)
include hb hsized hports

theorem keeps_emit {port : UInt8} (hport : port = ports.lcr ∨ port = ports.ldr) (value : UInt8) :
    Act.Keeps (CalmRig b ports) (emit (δ := δ) port value) :=
  (keeps_onBus (Bus.keeps_writeCharacter hb hsized hports hport value)).bind fun _ =>
    keeps_record _

theorem keeps_printFrom (start : UInt8) (cells : Nat) (addr : UInt8) :
    Act.Keeps (CalmRig b ports) (printFrom (δ := δ) ports.ldr start cells addr) := by
  induction cells generalizing addr with
  | zero => exact .throw _
  | succ cells ih =>
      rw [printFrom]
      refine (keeps_onBus (Bus.keeps_read hb addr)).bind fun c => ?_
      by_cases hc : c = 0
      · rw [if_pos hc]
        exact .pure ()
      · rw [if_neg hc]
        exact (keeps_emit hb hsized hports (.inr rfl) c).bind fun _ => ih (addr + 1)

theorem keeps_act {t : Terminal} (ht : t.ports = ports) :
    Act.Keeps (CalmRig b ports) (act (δ := δ) t) := by
  subst ht
  unfold act
  cases Reaction.ofLast t.last with
  | redraw =>
      refine (keeps_emit hb hsized hports (.inl rfl) _).bind fun _ => ?_
      refine (keeps_printFrom hb hsized hports _ _ _).bind fun _ => ?_
      exact keeps_changeProgram fun _ => rfl
  | idle => exact .pure ()
  | echo c =>
      refine (keeps_emit hb hsized hports (.inr rfl) c).bind fun _ => ?_
      exact keeps_changeProgram fun _ => rfl

theorem keeps_step : Act.Keeps (CalmRig b ports) (step (δ := δ)) := by
  refine .get_bind fun r hr => ?_
  refine ((keeps_act hb hsized hports hr.ports_eq).bind fun _ => ?_) r hr
  refine (keeps_onBus (Bus.keeps_pollInput hb _)).bind fun key => ?_
  refine (keeps_record _).bind fun _ => ?_
  exact keeps_changeProgram fun _ => rfl

end Rig

end Terminal

/-! ## Runs -/

/-- A machine that runs the terminal, after calm changes to its bus. -/
structure CalmMachine (b : Bus δ) (ports : TerminalPorts) (m : Machine Terminal δ) : Prop where
  firmware : m.firmware = Terminal.firmware
  rig : Terminal.CalmRig b ports m.rig

/-- The move writes to no device; it may write to data memory. -/
def Move.SparesDevices (b : Bus δ) : Move → Prop
  | .poke addr _ => b.ram.contains addr = true
  | _ => True

namespace CalmMachine

variable {b : Bus δ} {ports : TerminalPorts}

theorem keeps_onBus {α : Type} {a : Act (Bus δ) α} (h : Act.Keeps (Bus.Calm b) a) :
    Act.Keeps (CalmMachine b ports) (Machine.onBus a) :=
  h.within (fun _ hm => hm.rig.calm) fun _ _ hm hbus => ⟨hm.firmware, hm.rig.ports_eq, hbus⟩

variable [LawfulTerminalPeripheral δ]

theorem keeps_typeOn (f : Keyboard → Keyboard) :
    Act.Keeps (CalmMachine b ports) (Machine.typeOn f : Act (Machine Terminal δ) Unit) :=
  .ofStep fun m hm =>
    ⟨hm.firmware, hm.rig.ports_eq, hm.rig.calm.trans (Bus.calm_changeKeyboard m.rig.bus f)⟩

variable (hb : b.Disjoint) (hsized : b.Sized) (hports : TerminalPorts.ofBus? b = some ports)
include hb hsized hports

theorem keeps_step :
    Act.Keeps (CalmMachine b ports) (Machine.step : Act (Machine Terminal δ) Unit) := by
  intro m hm
  have htold : Terminal.CalmRig b ports (m.rig.tell (.stepStarted m.steps)) :=
    ⟨hm.rig.ports_eq, hm.rig.calm⟩
  obtain ⟨answer, rig, hrun, hrig⟩ := Terminal.keeps_step hb hsized hports _ htold
  rw [show Terminal.step = m.firmware.step by rw [hm.firmware]; rfl] at hrun
  exact ⟨answer, _, Machine.run_step hrun, hm.firmware, hrig.ports_eq, hrig.calm⟩

theorem keeps_move {v : Move} (hv : v.SparesDevices b) :
    Act.Keeps (CalmMachine b ports) (Machine.move v : Act (Machine Terminal δ) Unit) := by
  cases v with
  | push key => exact keeps_typeOn _
  | feed keys => exact keeps_typeOn _
  | peek addr => exact (keeps_onBus (Bus.keeps_read hb addr)).bind fun _ => .pure ()
  | poke addr value => exact keeps_onBus (Bus.keeps_write_of_memory hv value)
  | step => exact keeps_step hb hsized hports

end CalmMachine

/-- One character is written to a display: the polls, the one write, and what is
left afterwards. -/
structure Handshake (b : Bus δ) (before : List (Mapping δ)) (m : Mapping δ)
    (after : List (Mapping δ)) (d : Display) (offset value : UInt8) (b' : Bus δ) (d' : Display) :
    Prop where
  /-- the number of busy polls is the answer -/
  answer : Act.run (Bus.writeCharacter (m.base + offset) value) b =
    some (.ok d.busyRemaining.toNat, b')
  busy : ∀ k < d.busyRemaining.toNat,
    Act.run (Bus.outputPort (m.base + offset)).isBusy ((Bus.settle^[k]) b) =
      some (.ok true, (Bus.settle^[k + 1]) b)
  ready : Act.run (Bus.outputPort (m.base + offset)).isBusy
      ((Bus.settle^[d.busyRemaining.toNat]) b) =
    some (.ok false, (Bus.settle^[d.busyRemaining.toNat + 1]) b)
  written : Act.run ((Bus.outputPort (m.base + offset)).write value)
      ((Bus.settle^[d.busyRemaining.toNat + 1]) b) = some (.ok (), b')
  accepted : d.Accepts [⟨offset, value⟩] d'
  overruns : d'.overruns = d.overruns
  writes : d'.writes = d.writes + 1
  /-- the cycle of the write is one of those that the display is busy -/
  busyRemaining : d'.busyRemaining.toNat = d.busyCycles.toNat - 1
  cycles : b'.cycles = b.cycles + (d.busyRemaining.toNat + 2)
  memory : b'.ram = b.ram
  /-- everything else has seen the cycles pass and nothing more -/
  mappings : b'.mappings =
    before.map (Mapping.later (d.busyRemaining.toNat + 2)) ++
      { m with device := ofDisplay d' } ::
        after.map (Mapping.later (d.busyRemaining.toNat + 2))

theorem Handshake.of_displayAt [LawfulTerminalPeripheral δ] {b : Bus δ} (hb : b.Disjoint)
    {before after : List (Mapping δ)} {m : Mapping δ} {d : Display}
    (h : b.DisplayAt before m after d) {offset : UInt8} (hoffset : offset < 2) (value : UInt8) :
    Handshake b before m after d offset value (b.afterWrite before m after d offset value)
      (d.ready.write offset value).1.tick := by
  obtain ⟨hoverruns, hwrites, hbusyCycles, hbusy⟩ :=
    Display.write_of_accepts (Display.accepts_ready hoffset d) value
  refine ⟨h.run_writeCharacter hb hoffset value, ?_, ?_, h.run_write_after_wait hb hoffset value,
    d.accepts_of_wait hoffset value, ?_, ?_, ?_, rfl, rfl, rfl⟩
  · intro k hk
    rw [h.run_poll hb hoffset, decide_eq_true hk]
  · rw [h.run_poll hb hoffset, decide_eq_false (Nat.lt_irrefl _)]
  · rw [Display.tick_overruns, hoverruns]
    rfl
  · rw [Display.tick_writes, hwrites]
    rfl
  · rw [Display.tick_busyRemaining, hbusy]
    rfl

/-- Writing a character waits for exactly the busy time of the display, and the one
write after the wait is accepted; so no run of a terminal overruns a display,
whatever a host types, peeks at or pokes into data memory. -/
theorem writes_wait_and_are_accepted [LawfulTerminalPeripheral δ] {b : Bus δ} (hb : b.Disjoint)
    (hsized : b.Sized) :
    (∀ before m after d, b.mappings = before ++ m :: after → m.device = ofDisplay d →
      ∀ offset < 2, ∀ value, ∃ b' d', Handshake b before m after d offset value b' d') ∧
    ∀ t : Machine Terminal δ, t.bus = b → t.firmware = Terminal.firmware →
      TerminalPorts.ofBus? b = some t.program.ports →
      ∀ moves : List Move, (∀ v ∈ moves, v.SparesDevices b) →
        ∃ answers t', Machine.play moves t = some (answers, t') ∧ t'.bus.overruns = b.overruns := by
  refine ⟨?_, ?_⟩
  · intro before m after d hsplit hdevice offset hoffset value
    have hsize : m.size = 2 := by
      refine (hsized m (by simp [hsplit])).1 ?_
      rw [Mapping.isDisplay, hdevice, LawfulTerminalPeripheral.display?_ofDisplay]
      rfl
    exact ⟨_, _, .of_displayAt hb ⟨hsplit, hdevice, hsize⟩ hoffset value⟩
  · intro t hbus hfirmware hports moves hmoves
    have hcalm : CalmMachine b t.program.ports t :=
      ⟨hfirmware, rfl, by rw [show t.rig.bus = b from hbus]; exact .refl b⟩
    obtain ⟨answers, t', hplay, ht'⟩ := Machine.play_keeps
      (fun v hv => CalmMachine.keeps_move hb hsized hports (hmoves v hv)) hcalm
    exact ⟨answers, t', hplay, ht'.rig.calm.overruns_eq⟩

/-- A display that is busy for two more cycles. -/
def busyDisplay : Display := { Display.new 3 8 with busyRemaining := 2 }

/-- A bus with a keyboard and no display yet. -/
def keyboardBus : Bus Device where
  ram := .zeroed 4 0x10
  mappings := [⟨"keyboard", 0xFE, 1, .keyboard {}⟩]

/-- A bus whose display, behind the keyboard, is busy. -/
def busyBus : Bus Device :=
  { keyboardBus with
    mappings := keyboardBus.mappings ++ [⟨"display", 0xFC, 2, .display busyDisplay⟩] }

/-- A terminal with its ports on that bus, and nothing loaded into data memory. -/
def busyTerminal : Machine Terminal Device where
  firmware := Terminal.firmware
  rig := ⟨{ Terminal.new {} with promptAddr := 0x10 }, busyBus, []⟩

theorem writes_wait_and_are_accepted_busyBus :
    busyBus.Disjoint ∧ busyBus.Sized ∧
    TerminalPorts.ofBus? busyBus = some busyTerminal.program.ports ∧
    (∃ b' d', Handshake busyBus keyboardBus.mappings ⟨"display", 0xFC, 2, .display busyDisplay⟩ []
      busyDisplay 1 0x41 b' d') ∧
    ∃ answers t',
      Machine.play [.poke 0x10 0x3E, .push 0x41, .peek 0xFC, .step, .step] busyTerminal =
        some (answers, t') ∧ t'.bus.overruns = [none, some 0] := by
  have hkeyboard : (Bus.empty (.zeroed 4 0x10)).map "keyboard" 0xFE (.keyboard {}) =
      .ok keyboardBus := rfl
  have hdisplay : keyboardBus.map "display" 0xFC (.display busyDisplay) = .ok busyBus := rfl
  have hdisjoint : busyBus.Disjoint := ((Bus.disjoint_empty _).map hkeyboard).map hdisplay
  have hsized : busyBus.Sized := by
    intro m hm
    rcases List.mem_cons.mp hm with rfl | hm
    · exact ⟨fun h => absurd h (by decide), fun _ => rfl⟩
    · rw [List.mem_singleton.mp hm]
      exact ⟨fun _ => rfl, fun h => absurd h (by decide)⟩
  have hmoves : ∀ v ∈ [.poke 0x10 0x3E, .push 0x41, .peek 0xFC, .step, .step],
      Move.SparesDevices busyBus v := by
    simp only [List.forall_mem_cons, Move.SparesDevices, true_and]
    exact ⟨rfl, by simp⟩
  have h := writes_wait_and_are_accepted hdisjoint hsized
  exact ⟨hdisjoint, hsized, rfl, h.1 _ _ _ _ rfl rfl 1 (by decide) 0x41,
    h.2 busyTerminal rfl rfl rfl _ hmoves⟩

end PolledTerminal
