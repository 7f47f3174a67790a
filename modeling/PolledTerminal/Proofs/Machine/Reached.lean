import PolledTerminal.Proofs.Bus.Becoming
import PolledTerminal.Proofs.Machine.Stepping
import PolledTerminal.Proofs.Program.Starting
import PolledTerminal.Proofs.Terminal.Deeds
import PolledTerminal.Proofs.Terminal.Failing
set_option autoImplicit false

/-!
# What a machine on a board comes to

A board is assembled, a program is put on its bus, and then the machine is stepped, run
and started over while a host types, pokes and changes what the devices print, for as
long as anybody likes.  Through all of it the bus is what has become of the one that was
assembled, for every program that maps no devices of its own.
-/

namespace PolledTerminal

open PolledTerminal.Text (Bytes)

variable {σ δ α β : Type} [TerminalPeripheral δ]

/-! ## Programs -/

namespace Rig

/-- Whatever the action does to the bus, it maps nothing on it. -/
def MapsNothing (a : Act (Rig σ δ) α) : Prop :=
  ∀ r answer r', Act.run a r = some (answer, r') → r.bus.Becomes r'.bus

namespace MapsNothing

/-- Nothing is mapped by accesses. -/
theorem of_logs {start : UInt8} {a : Act (Rig σ δ) α} (ha : Logs start a) : MapsNothing a := by
  intro r answer r' h
  obtain ⟨log, outs, hrecords, -⟩ := ha r answer r' h
  exact hrecords.bus.becomes

theorem bind {a : Act (Rig σ δ) α} {f : α → Act (Rig σ δ) β} (ha : MapsNothing a)
    (hf : ∀ x, MapsNothing (f x)) : MapsNothing (a >>= f) := by
  intro r answer r' h
  rw [Act.run_bind] at h
  split at h
  case h_1 => cases h
  case h_2 x r₁ hfirst => exact (ha r _ r₁ hfirst).trans (hf x r₁ answer r' h)
  case h_3 why r₁ hfirst =>
    cases h
    exact ha r _ r' hfirst

theorem get_bind {f : Rig σ δ → Act (Rig σ δ) α} (hf : ∀ r, MapsNothing (f r)) :
    MapsNothing (MonadState.get >>= f) := by
  intro r answer r' h
  rw [Act.run_bind_of_ok (Act.run_get r)] at h
  exact hf r r answer r' h

theorem record (e : TraceEvent) : MapsNothing (Rig.record e : Act (Rig σ δ) Unit) := by
  intro r answer r' h
  cases h
  exact .same

theorem changeProgram (f : σ → σ) : MapsNothing (Rig.changeProgram f : Act (Rig σ δ) Unit) := by
  intro r answer r' h
  cases h
  exact .same

end MapsNothing

end Rig

theorem Terminal.mapsNothing_step : Rig.MapsNothing (Terminal.firmware (δ := δ)).step := by
  refine .get_bind fun r => ?_
  dsimp only
  rw [act_eq]
  refine (Rig.MapsNothing.bind (.of_logs (logs_output r.program)) fun _ => .changeProgram _).bind
    fun _ => ?_
  have hread : Bus.Logs (Bus.pollInput (δ := δ) r.program.ports.kdr) [] :=
    (Bus.Logs.read _).bind_pure _
  have hpoll : Rig.Logs r.program.promptAddr
      (Rig.onBus (Bus.pollInput r.program.ports.kdr) : Act (Rig Terminal δ) _) := .onBus hread
  refine (Rig.MapsNothing.of_logs hpoll).bind fun _ => ?_
  exact (Rig.MapsNothing.record _).bind fun _ => .changeProgram _

theorem SelfTest.mapsNothing_step : Rig.MapsNothing (SelfTest.firmware (δ := δ)).step :=
  .changeProgram SelfTest.advance

/-! ## Machines -/

namespace Machine

/-- The machine may come about on the board: a program that maps nothing is started on
what has become of the bus that is assembled, and goes on in any way. -/
inductive ReachedOn (b : Board) : Machine σ δ → Prop where
  | new {site bus : Bus δ} {firmware : Firmware σ δ} {program : σ} {m : Machine σ δ}
      (hboard : b.assemble = .ok site) (hbus : site.Becomes bus)
      (hfirmware : Rig.MapsNothing firmware.step)
      (hstart : Machine.new firmware program bus = .ok m) : ReachedOn b m
  /-- a step, whatever comes of it -/
  | step {m m' : Machine σ δ} {answer : Except Fault Unit} (h : ReachedOn b m)
      (hstep : Act.run step m = some (answer, m')) : ReachedOn b m'
  /-- a whole run, whatever ends it -/
  | run {m m' : Machine σ δ} {limits : RunLimits} {clock : Nat → Nat} {reason : StopReason}
      (h : ReachedOn b m) (hrun : m.run limits clock = some (reason, m')) : ReachedOn b m'
  | reset {m : Machine σ δ} (h : ReachedOn b m) : ReachedOn b m.reset
  /-- what the host does to the bus -/
  | host {m : Machine σ δ} {bus : Bus δ} (h : ReachedOn b m) (hbus : m.bus.Becomes bus) :
      ReachedOn b (m.changeBus fun _ => bus)

section Becoming

variable {m m' : Machine σ δ} {answer : Except Fault Unit}

theorem becomes_of_step (hm : Rig.MapsNothing m.firmware.step)
    (h : Act.run step m = some (answer, m')) : m.bus.Becomes m'.bus := by
  obtain ⟨rig, hiterate, rfl⟩ := exists_iteration h
  have hbus : (m.rig.tell (.stepStarted m.steps)).bus.Becomes rig.bus := hm _ _ _ hiterate
  exact hbus

theorem becomes_of_stepMany {n : Nat} (hm : Rig.MapsNothing m.firmware.step)
    (h : Act.run (stepMany n) m = some (answer, m')) : m.bus.Becomes m'.bus := by
  induction n generalizing m with
  | zero =>
      cases h
      exact .same
  | succ n ih =>
      rcases step_of_run_stepMany_succ h with ⟨m₁, hstep, hrest⟩ | ⟨fault, hstep, -⟩
      · have hm₁ : Rig.MapsNothing m₁.firmware.step := (step_frame hstep).1 ▸ hm
        exact (becomes_of_step hm hstep).trans (ih hm₁ hrest)
      · exact becomes_of_step hm hstep

/-- A run is its steps, and what is told of it does not touch the bus. -/
theorem becomes_of_run {limits : RunLimits} {clock : Nat → Nat} {reason : StopReason}
    (hm : Rig.MapsNothing m.firmware.step) (h : m.run limits clock = some (reason, m')) :
    m.bus.Becomes m'.bus := by
  obtain ⟨k, mₖ, hends, rfl⟩ := run_eq_some_iff.mp h
  have hstarted : Rig.MapsNothing (m.tell .started).firmware.step := hm
  have hbus : (m.tell .started).bus.Becomes mₖ.bus := by
    rcases hends.ends with ⟨hsteps, -⟩ | ⟨fault, hsteps, -⟩
    · exact becomes_of_stepMany hstarted hsteps
    · exact becomes_of_stepMany hstarted hsteps
  exact hbus

omit [TerminalPeripheral δ] in
theorem firmware_of_run {limits : RunLimits} {clock : Nat → Nat} {reason : StopReason}
    (h : m.run limits clock = some (reason, m')) : m'.firmware = m.firmware := by
  obtain ⟨k, mₖ, hends, rfl⟩ := run_eq_some_iff.mp h
  exact hends.firmware_eq

/-- Starting a program touches nothing but data memory. -/
theorem becomes_of_new {firmware : Firmware σ δ} {program : σ} {bus : Bus δ}
    (h : Machine.new firmware program bus = .ok m) :
    bus.Becomes m.bus ∧ m.firmware = firmware := by
  obtain ⟨hbase, hsize⟩ := loadSegments_frame bus.ram (firmware.image program)
  unfold Machine.new at h
  dsimp only at h
  rcases hload : loadSegments bus.ram (firmware.image program) with ⟨why | u, ram⟩
  · rw [hload] at h
    cases h
  · rw [hload] at h hbase hsize
    cases h
    exact ⟨.memory .same hbase hsize, rfl⟩

end Becoming

/-- However a machine came about on a board, its bus has become of the one that is
assembled. -/
theorem ReachedOn.exists_becomes {b : Board} {m : Machine σ δ} (h : m.ReachedOn b) :
    Rig.MapsNothing m.firmware.step ∧
      ∃ site : Bus δ, b.assemble = .ok site ∧ site.Becomes m.bus := by
  induction h with
  | new hboard hbus hmaps hstart =>
      obtain ⟨hloaded, hfirmware⟩ := becomes_of_new hstart
      rw [hfirmware]
      exact ⟨hmaps, _, hboard, hbus.trans hloaded⟩
  | step _ hstep ih =>
      obtain ⟨hmaps, site, hboard, hbus⟩ := ih
      rw [(step_frame hstep).1]
      exact ⟨hmaps, site, hboard, hbus.trans (becomes_of_step hmaps hstep)⟩
  | run _ hrun ih =>
      obtain ⟨hmaps, site, hboard, hbus⟩ := ih
      rw [firmware_of_run hrun]
      exact ⟨hmaps, site, hboard, hbus.trans (becomes_of_run hmaps hrun)⟩
  | reset _ ih => exact ih
  | host _ hbus' ih =>
      obtain ⟨hmaps, site, hboard, hbus⟩ := ih
      exact ⟨hmaps, site, hboard, hbus.trans hbus'⟩

end Machine

/-! ## Sessions -/

namespace Session

variable {b : Board} {maxSteps : Option Nat} {s s' : Session δ}

/-- A turn of the loop leaves the machine as it is, or is a step of it. -/
theorem machine_of_loopTurn (h : s.loopTurn maxSteps = some s') :
    s'.machine = s.machine ∨
      ∃ answer, Act.run Machine.step s.machine = some (answer, s'.machine) := by
  unfold loopTurn at h
  split at h
  case h_1 =>
    cases h
    exact .inl rfl
  case h_2 =>
    left
    split_ifs at h <;> cases h <;> rfl
  case h_3 =>
    left
    split_ifs at h <;> cases h <;> rfl
  case h_4 =>
    right
    split at h
    case h_1 => cases h
    case h_2 m hstep =>
      cases h
      exact ⟨.ok (), hstep⟩
    case h_3 why m hstep =>
      cases h
      exact ⟨.error why, hstep⟩

theorem reachedOn_turn {p : Party} (hs : s.machine.ReachedOn b)
    (h : s.turn maxSteps p = some s') : s'.machine.ReachedOn b := by
  cases p with
  | feeder =>
      cases h
      unfold feederTurn
      split
      · exact hs
      · exact hs.host (.keyboard .same _)
  | loop =>
      rcases machine_of_loopTurn h with hsame | ⟨answer, hstep⟩
      · rw [hsame]
        exact hs
      · exact hs.step hstep

/-- However the turns come, a session works on a machine that may come about on the board. -/
theorem reachedOn_follow {schedule : List Party} (hs : s.machine.ReachedOn b)
    (h : Session.follow maxSteps schedule s = some s') : s'.machine.ReachedOn b := by
  induction schedule generalizing s with
  | nil =>
      cases h
      exact hs
  | cons p ps ih =>
      obtain ⟨s₁, hturn, hrest⟩ := Option.bind_eq_some_iff.mp h
      exact ih (reachedOn_turn hs hturn) hrest

end Session

/-- The machine of a run of the program comes about on its board. -/
theorem Program.reachedOn_terminalMachine {b : Board} {bus : Bus Device} {manifest : Manifest}
    {echo : Bool} {keys : Option Bytes} {start : Machine Terminal Device}
    (hboard : b.assemble = .ok bus) (h : terminalMachine manifest bus echo keys = .ok start) :
    start.ReachedOn b := by
  obtain ⟨ports, hports, -⟩ := bind_eq_ok.mp h
  have hofBus : TerminalPorts.ofBus? bus = some ports := by
    unfold portsOf at hports
    split at hports
    case h_1 ports' hsome =>
      cases hports
      exact hsome
    case h_2 => cases hports
  have hbus : bus.Becomes (busFor bus echo keys) := by
    cases keys with
    | none => exact .display .same _
    | some keys => exact .keyboard (.display .same _) _
  rw [terminalMachine_eq manifest hofBus] at h
  exact .new hboard hbus Terminal.mapsNothing_step (mapError_eq_ok.mp h)

end PolledTerminal
