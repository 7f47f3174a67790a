import PolledTerminal.Proofs.Bus.Accesses
import PolledTerminal.Proofs.Machine.Moves
import PolledTerminal.Proofs.Terminal.Reactions
set_option autoImplicit false

/-!
# Steps that fail

A step of the terminal may fail at any access, and at the top of the address space when
its prompt has no end.  Whatever devices there are and wherever its ports lie, what is
left then agrees: the events, the counters and the cycles tell of the same accesses.
-/

namespace PolledTerminal

variable {σ δ α β : Type} [Peripheral δ]

/-! ## Logs on the rig -/

namespace Rig

/-- Only accesses to the bus, and for every write that succeeded the event that tells
it. -/
structure Records (r : Rig σ δ) (log : AccessLog) (outs : List TraceEvent) (r' : Rig σ δ) :
    Prop where
  bus : r.bus.Leads log r'.bus
  program : r'.program = r.program
  told : r'.told = outs.reverse ++ r.told
  outputs : outs.map TraceEvent.output? = log.written.map some

namespace Records

variable {r r' r'' : Rig σ δ} {log log' : AccessLog} {outs outs' : List TraceEvent}

theorem refl (r : Rig σ δ) : r.Records [] [] r := ⟨.nil r.bus, rfl, rfl, rfl⟩

theorem trans (h : r.Records log outs r') (h' : r'.Records log' outs' r'') :
    r.Records (log ++ log') (outs ++ outs') r'' := by
  refine ⟨h.bus.append h'.bus, h'.program.trans h.program, ?_, ?_⟩
  · rw [h'.told, h.told, List.reverse_append, List.append_assoc]
  · rw [List.map_append, h.outputs, h'.outputs, AccessLog.written_append, List.map_append]

end Records

/-- Whenever the action ends, its accesses and its events can be written down: it ends with
the first access that fails, or finds that the string it prints has no end. -/
def Logs (start : UInt8) (a : Act (Rig σ δ) α) : Prop :=
  ∀ r answer r', Act.run a r = some (answer, r') →
    ∃ log outs, r.Records log outs r' ∧
      (log.Answers answer ∨ log.Clean ∧ answer = .error (.unterminated start))

namespace Logs

variable {start : UInt8}

theorem pure (x : α) : Logs start (Pure.pure x : Act (Rig σ δ) α) := by
  intro r answer r' h
  cases h
  exact ⟨[], [], .refl r, .inl .nil⟩

theorem unterminated : Logs start (throw (.unterminated start) : Act (Rig σ δ) α) := by
  intro r answer r' h
  cases h
  exact ⟨[], [], .refl r, .inr ⟨.nil, rfl⟩⟩

theorem bind {a : Act (Rig σ δ) α} {f : α → Act (Rig σ δ) β} (ha : Logs start a)
    (hf : ∀ x, Logs start (f x)) : Logs start (a >>= f) := by
  intro r answer r' h
  rw [Act.run_bind] at h
  split at h
  case h_1 => cases h
  case h_2 x r₁ hfirst =>
    obtain ⟨log, outs, hrecords, hclean | ⟨-, herror⟩⟩ := ha r _ r₁ hfirst
    · obtain ⟨log', outs', hrecords', hends⟩ := hf x r₁ answer r' h
      refine ⟨log ++ log', outs ++ outs', hrecords.trans hrecords', ?_⟩
      rcases hends with hanswers | ⟨hclean', hanswer⟩
      · exact .inl (.append hclean hanswers)
      · exact .inr ⟨AccessLog.Clean.append hclean hclean', hanswer⟩
    · cases herror
  case h_3 why r₁ hfirst =>
    cases h
    obtain ⟨log, outs, hrecords, hfails | ⟨hclean, herror⟩⟩ := ha r _ r' hfirst
    · exact ⟨log, outs, hrecords, .inl hfails⟩
    · cases herror
      exact ⟨log, outs, hrecords, .inr ⟨hclean, rfl⟩⟩

/-- What writes nothing has nothing to tell. -/
theorem onBus {a : Act (Bus δ) α} (ha : Bus.Logs a []) :
    Logs start (Rig.onBus a : Act (Rig σ δ) α) := by
  intro r answer r' h
  obtain ⟨bus, hrun, rfl⟩ := Rig.exists_of_run_onBus h
  obtain ⟨log, hleads, hanswers, hwritten⟩ := ha r.bus answer bus hrun
  have hnone : log.written = [] := by cases answer <;> exact hwritten
  exact ⟨log, [], ⟨hleads, rfl, rfl, by rw [hnone]; rfl⟩, .inl hanswers⟩

end Logs

end Rig

/-! ## Output -/

namespace Terminal

/-- A character that was written is told, and one that could not be is not. -/
theorem logs_emit (start port value : UInt8) : Rig.Logs start (emit (δ := δ) port value) := by
  intro r answer r' h
  rw [emit, Act.run_bind] at h
  split at h
  case h_1 => cases h
  case h_2 spins r₁ hfirst =>
    cases h
    obtain ⟨bus, hrun, rfl⟩ := Rig.exists_of_run_onBus hfirst
    obtain ⟨log, hleads, hclean, hwritten⟩ := Bus.Logs.writeCharacter port value _ _ _ hrun
    exact ⟨log, [.output port value spins], ⟨hleads, rfl, rfl, by rw [hwritten]; rfl⟩, .inl hclean⟩
  case h_3 why r₁ hfirst =>
    cases h
    obtain ⟨bus, hrun, rfl⟩ := Rig.exists_of_run_onBus hfirst
    obtain ⟨log, hleads, hfails, hwritten⟩ := Bus.Logs.writeCharacter port value _ _ _ hrun
    exact ⟨log, [], ⟨hleads, rfl, rfl, by rw [hwritten]; rfl⟩, .inl hfails⟩

theorem logs_printFrom (port start : UInt8) (cells : Nat) (addr : UInt8) :
    Rig.Logs start (printFrom (δ := δ) port start cells addr) := by
  induction cells generalizing addr with
  | zero => exact .unterminated
  | succ cells ih =>
      rw [printFrom]
      refine (Rig.Logs.onBus (.read addr)).bind fun c => ?_
      by_cases hc : c = 0
      · rw [if_pos hc]
        exact .pure ()
      · rw [if_neg hc]
        exact (logs_emit start port c).bind fun _ => ih (addr + 1)

/-- The output of the reaction to the last character. -/
def output (t : Terminal) : Act (Rig Terminal δ) Unit :=
  match Reaction.ofLast t.last with
  | .redraw => do
    emit t.ports.lcr Display.clearScreen
    printString t.ports.ldr t.promptAddr
  | .echo c => emit t.ports.ldr c
  | .idle => return ()

theorem logs_output (t : Terminal) : Rig.Logs t.promptAddr (output (δ := δ) t) := by
  unfold output
  cases Reaction.ofLast t.last with
  | redraw => exact (logs_emit _ _ _).bind fun _ => logs_printFrom _ _ _ _
  | idle => exact .pure ()
  | echo c => exact logs_emit _ _ c

/-- A reaction is counted after its output. -/
theorem act_eq (t : Terminal) :
    act (δ := δ) t = output t >>= fun _ => Rig.changeProgram (Reaction.ofLast t.last).count := by
  unfold act output
  cases Reaction.ofLast t.last with
  | redraw => exact (bind_assoc _ _ _).symm
  | idle => rfl
  | echo c => rfl

/-! ## Failures -/

/-- An iteration fails in its output, which is not counted then, or when it polls the
keyboard after its output has been counted. -/
theorem output_or_poll_fails {r r' : Rig Terminal δ} {why : Fault}
    (h : Act.run step r = some (.error why, r')) :
    Act.run (output r.program) r = some (.error why, r') ∨
      ∃ r₁ bus, Act.run (output r.program) r = some (.ok (), r₁) ∧
        Act.run (Bus.read r.program.ports.kdr) r₁.bus = some (.error why, bus) ∧
        r' = ⟨(Reaction.ofLast r.program.last).count r₁.program, bus, r₁.told⟩ := by
  rw [step, Act.run_bind_of_ok (Act.run_get r)] at h
  dsimp only at h
  rw [act_eq] at h
  rcases houtput : Act.run (output r.program) r with _ | ⟨why' | u, r₁⟩
  · rw [Act.run_bind, Act.run_bind, houtput] at h
    cases h
  · rw [Act.run_bind_of_error (Act.run_bind_of_error houtput _)] at h
    cases h
    exact .inl rfl
  · let r₂ : Rig Terminal δ :=
      { r₁ with program := (Reaction.ofLast r.program.last).count r₁.program }
    have hcounted : Act.run (output r.program >>= fun _ =>
        Rig.changeProgram (Reaction.ofLast r.program.last).count) r = some (.ok (), r₂) :=
      Act.run_bind_of_ok houtput
    rw [Act.run_bind_of_ok hcounted] at h
    rcases hread : Act.run (Bus.read r.program.ports.kdr) r₁.bus with _ | ⟨why' | value, bus⟩
    · cases hread
    · have hpoll : Act.run (Rig.onBus (Bus.pollInput r.program.ports.kdr)) r₂ =
          some (.error why', { r₂ with bus := bus }) :=
        Rig.run_onBus (Act.run_bind_of_error hread _)
      rw [Act.run_bind_of_error hpoll] at h
      cases h
      exact .inr ⟨r₁, bus, rfl, hread, rfl⟩
    · have hpoll : Act.run (Rig.onBus (Bus.pollInput r.program.ports.kdr)) r₂ =
          some (.ok (if value = 0 then none else some value), { r₂ with bus := bus }) :=
        Rig.run_onBus (Act.run_bind_of_ok hread)
      rw [Act.run_bind_of_ok hpoll] at h
      cases h

end Terminal

/-! ## Steps -/

/-- What is left of a step that fails: the accesses it has made, and what agrees with
them. -/
structure FailedStep (m : Machine Terminal δ) (why : Fault) (log : AccessLog)
    (outs : List TraceEvent) (m' : Machine Terminal δ) : Prop where
  bus : m.bus.Leads log m'.bus
  /-- no access follows the one that fails; a string without an end fails by itself -/
  failure : log.FailsLast why ∨ log.Clean ∧ why = .unterminated m.program.promptAddr
  /-- no input is told, and every cycle was an access -/
  events : m'.rig.events =
    m.rig.events ++ .stepStarted m.steps :: (outs ++ [.stepEnded log.length])
  /-- the outputs told are the writes that succeeded, in order -/
  outputs : outs.map TraceEvent.output? = log.written.map some
  steps : m'.steps = m.steps + 1
  /-- the next step acts on the same character -/
  last : m'.program.last = m.program.last
  /-- the reaction is counted just when all its output was made, and only the keyboard could
  not be polled -/
  counted :
    (∃ before r, log = before ++ [(.read m.program.ports.kdr, .error why)] ∧
      Act.run m.program.output (m.rig.tell (.stepStarted m.steps)) = some (.ok (), r) ∧
      m.bus.Leads before r.bus ∧
      m'.program = (Reaction.ofLast m.program.last).count m.program) ∨
    ∃ r, Act.run m.program.output (m.rig.tell (.stepStarted m.steps)) = some (.error why, r) ∧
      m.bus.Leads log r.bus ∧ m'.program = m.program

/-- The end of a step tells how many accesses there were. -/
theorem events_of_leads {m : Machine Terminal δ} {rig : Rig Terminal δ} {log : AccessLog}
    {outs : List TraceEvent} (hleads : m.bus.Leads log rig.bus)
    (htold : rig.told = outs.reverse ++ .stepStarted m.steps :: m.rig.told) :
    (rig.tell (.stepEnded (rig.bus.cycles - m.rig.bus.cycles))).events =
      m.rig.events ++ .stepStarted m.steps :: (outs ++ [.stepEnded log.length]) := by
  have helapsed : rig.bus.cycles - m.rig.bus.cycles = log.length := by
    rw [hleads.cycles_eq]
    exact Nat.add_sub_cancel_left _ _
  rw [Rig.events, Rig.tell, htold, helapsed]
  simp [Rig.events]

/-- Whatever the devices on the bus do, wherever the ports lie and whatever state the
terminal is in: when a step fails, the character to act on, the counters, the events and
the cycles agree with the accesses that were made. -/
theorem failed_step_leaves_consistent_record {m m' : Machine Terminal δ} {why : Fault}
    (hfirmware : m.firmware = Terminal.firmware)
    (h : Act.run Machine.step m = some (.error why, m')) :
    ∃ log outs, FailedStep m why log outs m' := by
  obtain ⟨rig, hiterate, rfl⟩ := Machine.exists_iteration h
  rw [hfirmware] at hiterate
  rcases Terminal.output_or_poll_fails hiterate with houtput | ⟨r₁, bus, houtput, hread, rfl⟩
  · obtain ⟨log, outs, hrecords, hends⟩ := Terminal.logs_output _ _ _ _ houtput
    have hfailure : log.FailsLast why ∨ log.Clean ∧ why = .unterminated m.program.promptAddr := by
      rcases hends with hfails | ⟨hclean, heq⟩
      · exact .inl hfails
      · cases heq
        exact .inr ⟨hclean, rfl⟩
    exact ⟨log, outs, hrecords.bus, hfailure, events_of_leads hrecords.bus hrecords.told,
      hrecords.outputs, rfl, congrArg Terminal.last hrecords.program,
      .inr ⟨rig, houtput, hrecords.bus, hrecords.program⟩⟩
  · obtain ⟨before, outs, hrecords, hclean | ⟨-, herror⟩⟩ := Terminal.logs_output _ _ _ _ houtput
    · have hpoll := Bus.leads_of_read_error hread
      have hleads : m.bus.Leads (before ++ [(.read m.program.ports.kdr, .error why)]) bus :=
        hrecords.bus.append hpoll
      have hprogram : (Reaction.ofLast m.program.last).count r₁.program =
          (Reaction.ofLast m.program.last).count m.program :=
        congrArg (fun t => (Reaction.ofLast m.program.last).count t) hrecords.program
      have hwritten : AccessLog.written
          (before ++ [(.read m.program.ports.kdr, .error why)]) = before.written := by
        rw [AccessLog.written_append]
        exact List.append_nil _
      refine ⟨_, outs, hleads, .inl ⟨before, _, rfl, hclean⟩, events_of_leads hleads hrecords.told,
        ?_, rfl, ?_, .inl ⟨before, r₁, rfl, houtput, hrecords.bus, hprogram⟩⟩
      · rw [hwritten, hrecords.outputs]
      · exact (congrArg Terminal.last hprogram).trans (Reaction.count_last _ _)
    · cases herror

/-- A bus with a display, and nothing where the terminal looks for a keyboard. -/
def keyboardlessBus : Bus Device where
  ram := ⟨0, #[0x3E, 0, 0, 0]⟩
  mappings := [⟨"panel", 0x20, 2, .display (Display.new 2 16)⟩]

/-- A terminal on it. -/
def keyboardlessMachine : Machine Terminal Device where
  firmware := Terminal.firmware
  rig := ⟨Terminal.new ⟨0x10, 0x21, 0x20⟩, keyboardlessBus, []⟩

/-- Its first step shows the prompt and counts the redraw, and then there is no keyboard. -/
theorem failed_step_leaves_consistent_record_keyboardless :
    ∃ m' log outs, Act.run Machine.step keyboardlessMachine = some (.error (.unmapped 0x10), m') ∧
      FailedStep keyboardlessMachine (.unmapped 0x10) log outs m' ∧ m'.program.redraws = 1 := by
  have heval : (Act.run Machine.step keyboardlessMachine).map
      (fun r => (r.1, r.2.program.redraws)) = some (.error (.unmapped 0x10), 1) := by
    decide +kernel
  obtain ⟨⟨answer, m'⟩, hstep, hfacts⟩ := Option.map_eq_some_iff.mp heval
  obtain ⟨rfl, hredraws⟩ : answer = .error (.unmapped 0x10) ∧ m'.program.redraws = 1 := by
    simpa only [Prod.mk.injEq] using hfacts
  obtain ⟨log, outs, hfailed⟩ := failed_step_leaves_consistent_record rfl hstep
  exact ⟨m', log, outs, hstep, hfailed, hredraws⟩

end PolledTerminal
