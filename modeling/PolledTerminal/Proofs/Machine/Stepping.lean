import PolledTerminal.Proofs.Machine.Moves
set_option autoImplicit false

/-!
# Runs as steps

A run takes steps until the first count at which something stops it.  Nothing is
looked at after a step that fails: the run ends there, whatever else would have
stopped it at the count that the step has reached.
-/

namespace PolledTerminal.Machine

variable {σ δ : Type}

/-! ## Steps that follow each other -/

/-- So many steps, each after one that did not fail. -/
def stepMany : Nat → Act (Machine σ δ) Unit
  | 0 => pure ()
  | n + 1 => do
    step
    stepMany n

section StepMany

variable {m m₁ m' : Machine σ δ} {n : Nat} {answer : Except Fault Unit} {fault : Fault}

theorem run_stepMany_succ_of_ok (h : Act.run step m = some (.ok (), m₁)) (n : Nat) :
    Act.run (stepMany (n + 1)) m = Act.run (stepMany n) m₁ := Act.run_bind_of_ok h

theorem run_stepMany_succ_of_error (h : Act.run step m = some (.error fault, m₁)) (n : Nat) :
    Act.run (stepMany (n + 1)) m = some (.error fault, m₁) := by
  rw [stepMany, Act.run_bind, h]

/-- Steps begin with a step, which fails or lets the others follow. -/
theorem step_of_run_stepMany_succ (h : Act.run (stepMany (n + 1)) m = some (answer, m')) :
    (∃ m₁, Act.run step m = some (.ok (), m₁) ∧ Act.run (stepMany n) m₁ = some (answer, m')) ∨
      ∃ fault, Act.run step m = some (.error fault, m') ∧ answer = .error fault := by
  rcases hstep : Act.run step m with _ | ⟨⟨fault⟩ | ⟨⟨⟩⟩, m₁⟩
  · rw [stepMany, Act.run_bind, hstep] at h
    cases h
  · rw [run_stepMany_succ_of_error hstep] at h
    cases h
    exact .inr ⟨fault, rfl, rfl⟩
  · rw [run_stepMany_succ_of_ok hstep] at h
    exact .inl ⟨m₁, rfl, h⟩

theorem run_stepMany_add_of_ok (h : Act.run (stepMany n) m = some (.ok (), m₁)) (k : Nat) :
    Act.run (stepMany (n + k)) m = Act.run (stepMany k) m₁ := by
  induction n generalizing m with
  | zero =>
      cases h
      rw [Nat.zero_add]
  | succ n ih =>
      rcases step_of_run_stepMany_succ h with ⟨m₂, hstep, hrest⟩ | ⟨fault, -, hanswer⟩
      · rw [Nat.succ_add, run_stepMany_succ_of_ok hstep]
        exact ih hrest
      · cases hanswer

theorem step_frame (h : Act.run step m = some (answer, m')) :
    m'.firmware = m.firmware ∧ m'.steps = m.steps + 1 := by
  obtain ⟨rig, -, rfl⟩ := exists_iteration h
  exact ⟨rfl, rfl⟩

theorem firmware_of_run_stepMany (h : Act.run (stepMany n) m = some (answer, m')) :
    m'.firmware = m.firmware := by
  induction n generalizing m with
  | zero =>
      cases h
      rfl
  | succ n ih =>
      rcases step_of_run_stepMany_succ h with ⟨m₁, hstep, hrest⟩ | ⟨fault, hstep, -⟩
      · exact (ih hrest).trans (step_frame hstep).1
      · exact (step_frame hstep).1

end StepMany

/-! ## What stops a run -/

/-- At this count, and at this time, the run has to stop for this reason: the
program comes before the step limit, and that before the time limit. -/
inductive StopsFor (m : Machine σ δ) (limits : RunLimits) (executed elapsed : Nat) :
    StopReason → Prop where
  | finished (h : m.status = .finished) : StopsFor m limits executed elapsed .finished
  | halted {check : Nat} (h : m.status = .halted check) :
      StopsFor m limits executed elapsed .errorHalt
  | maxSteps {max : Nat} (h : m.status = .running) (hmax : limits.maxSteps = some max)
      (hreached : max ≤ executed) : StopsFor m limits executed elapsed .maxSteps
  | wallTime {wall : Nat} (h : m.status = .running)
      (hbelow : ∀ max, limits.maxSteps = some max → executed < max)
      (hwall : limits.wallTime = some wall) (hreached : wall ≤ elapsed) :
      StopsFor m limits executed elapsed .wallTime

section StopsFor

variable {m : Machine σ δ} {limits : RunLimits} {executed elapsed : Nat} {reason : StopReason}

theorem any_reached_iff (limit : Option Nat) (n : Nat) :
    limit.any (· ≤ n) = true ↔ ∃ max, limit = some max ∧ max ≤ n := by
  rw [Option.any_eq_true]
  simp only [decide_eq_true_eq]

theorem stopsHere_eq_some_iff :
    m.stopsHere limits executed elapsed = some reason ↔
      m.StopsFor limits executed elapsed reason := by
  unfold stopsHere
  constructor
  · intro h
    split at h
    case h_1 hstatus =>
      cases h
      exact .finished hstatus
    case h_2 check hstatus =>
      cases h
      exact .halted hstatus
    case h_3 hstatus =>
      split at h
      case isTrue hsteps =>
        obtain ⟨max, hmax, hreached⟩ := (any_reached_iff _ _).mp hsteps
        cases h
        exact .maxSteps hstatus hmax hreached
      case isFalse hsteps =>
        have hbelow : ∀ max, limits.maxSteps = some max → executed < max := by
          intro max hmax
          apply Nat.lt_of_not_le
          intro hreached
          exact hsteps ((any_reached_iff _ _).mpr ⟨max, hmax, hreached⟩)
        split at h
        case isTrue htime =>
          obtain ⟨wall, hwall, hreached⟩ := (any_reached_iff _ _).mp htime
          cases h
          exact .wallTime hstatus hbelow hwall hreached
        case isFalse => cases h
  · intro h
    cases h with
    | finished hstatus => rw [hstatus]
    | halted hstatus => rw [hstatus]
    | maxSteps hstatus hmax hreached =>
        rw [hstatus]
        exact if_pos ((any_reached_iff _ _).mpr ⟨_, hmax, hreached⟩)
    | wallTime hstatus hbelow hwall hreached =>
        have hsteps : ¬ limits.maxSteps.any (· ≤ executed) = true := by
          intro hany
          obtain ⟨max, hmax, hle⟩ := (any_reached_iff _ _).mp hany
          exact absurd (hbelow max hmax) (Nat.not_lt.mpr hle)
        rw [hstatus]
        simp only [if_neg hsteps]
        exact if_pos ((any_reached_iff _ _).mpr ⟨_, hwall, hreached⟩)

theorem stopsHere_eq_none_iff :
    m.stopsHere limits executed elapsed = none ↔
      ∀ reason, ¬ m.StopsFor limits executed elapsed reason := by
  simp only [← stopsHere_eq_some_iff]
  exact Option.eq_none_iff_forall_ne_some

/-- A run that goes on is below its step limit. -/
theorem lt_maxSteps (h : ∀ reason, ¬ m.StopsFor limits executed elapsed reason) {max : Nat}
    (hmax : limits.maxSteps = some max) : executed < max := by
  apply Nat.lt_of_not_le
  intro hreached
  rcases hstatus : m.status with _ | _ | check
  · exact h _ (.maxSteps hstatus hmax hreached)
  · exact h _ (.finished hstatus)
  · exact h _ (.halted hstatus)

end StopsFor

/-! ## Where a run ends -/

/-- With `executed` steps behind it, the run takes `k` more and ends for this reason
in this machine. -/
structure EndsAfter (limits : RunLimits) (clock : Nat → Nat) (executed : Nat) (m : Machine σ δ)
    (k : Nat) (reason : StopReason) (m' : Machine σ δ) : Prop where
  /-- before each of the steps nothing stops the run, and those before it did not fail -/
  goesOn : ∀ j < k, ∃ mj, Act.run (stepMany j) m = some (.ok (), mj) ∧
    ∀ other, ¬ mj.StopsFor limits (executed + j) (clock (executed + j)) other
  /-- after them something does, or the last of them has failed -/
  ends : (Act.run (stepMany k) m = some (.ok (), m') ∧
      m'.StopsFor limits (executed + k) (clock (executed + k)) reason) ∨
    ∃ fault, Act.run (stepMany k) m = some (.error fault, m') ∧ reason = fault.stopReason

section EndsAfter

variable {limits : RunLimits} {clock : Nat → Nat} {executed k : Nat} {m m' : Machine σ δ}
  {reason : StopReason}

theorem endsAfter_zero_iff :
    EndsAfter limits clock executed m 0 reason m' ↔
      m' = m ∧ m.StopsFor limits executed (clock executed) reason := by
  constructor
  · rintro ⟨-, ⟨hrun, hstops⟩ | ⟨fault, hrun, -⟩⟩
    · cases hrun
      exact ⟨rfl, hstops⟩
    · cases hrun
  · rintro ⟨rfl, hstops⟩
    exact ⟨fun j hj => absurd hj (Nat.not_lt_zero j), .inl ⟨rfl, hstops⟩⟩

/-- A run that takes a step goes on from where the step leads, unless it fails. -/
theorem endsAfter_succ_iff :
    EndsAfter limits clock executed m (k + 1) reason m' ↔
      (∀ other, ¬ m.StopsFor limits executed (clock executed) other) ∧
        ((∃ m₁, Act.run step m = some (.ok (), m₁) ∧
            EndsAfter limits clock (executed + 1) m₁ k reason m') ∨
          k = 0 ∧ ∃ fault, Act.run step m = some (.error fault, m') ∧
            reason = fault.stopReason) := by
  have hcount : ∀ j, executed + (j + 1) = executed + 1 + j := fun j => by omega
  constructor
  · rintro ⟨hgoes, hends⟩
    obtain ⟨m₀, hrun₀, hstill⟩ := hgoes 0 k.succ_pos
    cases hrun₀
    refine ⟨hstill, ?_⟩
    rcases hstep : Act.run step m with _ | ⟨⟨fault⟩ | ⟨⟨⟩⟩, m₁⟩
    · rw [stepMany, Act.run_bind, hstep] at hends
      rcases hends with ⟨hrun, -⟩ | ⟨fault, hrun, -⟩ <;> cases hrun
    · right
      rw [run_stepMany_succ_of_error hstep] at hends
      refine ⟨?_, ?_⟩
      · -- had the run gone on, the first step would not have failed
        apply Nat.eq_zero_of_not_pos
        intro hpos
        obtain ⟨m₂, hrun, -⟩ := hgoes 1 (Nat.succ_lt_succ hpos)
        rw [run_stepMany_succ_of_error hstep] at hrun
        cases hrun
      · rcases hends with ⟨hrun, -⟩ | ⟨fault', hrun, hreason⟩
        · cases hrun
        · cases hrun
          exact ⟨fault, rfl, hreason⟩
    · left
      rw [run_stepMany_succ_of_ok hstep, hcount k] at hends
      refine ⟨m₁, rfl, fun j hj => ?_, hends⟩
      have hlater := hgoes (j + 1) (Nat.succ_lt_succ hj)
      rw [run_stepMany_succ_of_ok hstep, hcount j] at hlater
      exact hlater
  · rintro ⟨hstill, ⟨m₁, hstep, hgoes, hends⟩ | ⟨rfl, fault, hstep, hreason⟩⟩
    · refine ⟨fun j hj => ?_, ?_⟩
      · cases j with
        | zero => exact ⟨m, rfl, hstill⟩
        | succ j =>
            rw [run_stepMany_succ_of_ok hstep, hcount j]
            exact hgoes j (Nat.lt_of_succ_lt_succ hj)
      · rw [run_stepMany_succ_of_ok hstep, hcount k]
        exact hends
    · refine ⟨fun j hj => ?_, .inr ⟨fault, run_stepMany_succ_of_error hstep 0, hreason⟩⟩
      cases Nat.lt_one_iff.mp hj
      exact ⟨m, rfl, hstill⟩

/-! ## One turn of the loop -/

/-- What stops a run ends it. -/
theorem runFrom_of_stops (h : m.stopsHere limits executed (clock executed) = some reason) :
    runFrom limits clock executed m = some (reason, m) := by
  rw [runFrom, h]

/-- A step that does not fail is behind the run then. -/
theorem runFrom_of_step {m₁ : Machine σ δ}
    (h : m.stopsHere limits executed (clock executed) = none)
    (hstep : Act.run step m = some (.ok (), m₁)) :
    runFrom limits clock executed m = runFrom limits clock (executed + 1) m₁ := by
  have hstep' : step m = some (.ok (), m₁) := hstep
  rw [runFrom, h, hstep']

/-- A step that fails ends the run. -/
theorem runFrom_of_fault {m₁ : Machine σ δ} {fault : Fault}
    (h : m.stopsHere limits executed (clock executed) = none)
    (hstep : Act.run step m = some (.error fault, m₁)) :
    runFrom limits clock executed m = some (fault.stopReason, m₁) := by
  have hstep' : step m = some (.error fault, m₁) := hstep
  rw [runFrom, h, hstep']

/-- The run loop ends where the steps and the limits say, and only there. -/
theorem runFrom_eq_some_iff :
    runFrom limits clock executed m = some (reason, m') ↔
      ∃ k, EndsAfter limits clock executed m k reason m' := by
  constructor
  · intro h
    refine runFrom.partial_correctness limits clock
      (fun executed m r => ∃ k, EndsAfter limits clock executed m k r.1 r.2) ?_ executed m _ h
    intro rest ih executed m r h
    split at h
    case h_1 reason' hstops =>
      cases h
      exact ⟨0, endsAfter_zero_iff.mpr ⟨rfl, stopsHere_eq_some_iff.mp hstops⟩⟩
    case h_2 hstill =>
      have hgoes := stopsHere_eq_none_iff.mp hstill
      split at h
      case h_1 => cases h
      case h_2 fault m₁ hstep =>
        cases h
        exact ⟨1, endsAfter_succ_iff.mpr ⟨hgoes, .inr ⟨rfl, fault, hstep, rfl⟩⟩⟩
      case h_3 m₁ hstep =>
        obtain ⟨k, hk⟩ := ih _ _ _ h
        exact ⟨k + 1, endsAfter_succ_iff.mpr ⟨hgoes, .inl ⟨m₁, hstep, hk⟩⟩⟩
  · rintro ⟨k, hk⟩
    induction k generalizing executed m with
    | zero =>
        obtain ⟨rfl, hstops⟩ := endsAfter_zero_iff.mp hk
        exact runFrom_of_stops (stopsHere_eq_some_iff.mpr hstops)
    | succ k ih =>
        obtain ⟨hstill, hstep⟩ := endsAfter_succ_iff.mp hk
        have hgoes := stopsHere_eq_none_iff.mpr hstill
        rcases hstep with ⟨m₁, hstep, hrest⟩ | ⟨-, fault, hstep, rfl⟩
        · rw [runFrom_of_step hgoes hstep]
          exact ih hrest
        · exact runFrom_of_fault hgoes hstep

theorem EndsAfter.firmware_eq (h : EndsAfter limits clock executed m k reason m') :
    m'.firmware = m.firmware := by
  rcases h.ends with ⟨hrun, -⟩ | ⟨fault, hrun, -⟩
  · exact firmware_of_run_stepMany hrun
  · exact firmware_of_run_stepMany hrun

/-- Every step of a run is counted, one that fails too. -/
theorem EndsAfter.steps_eq (h : EndsAfter limits clock executed m k reason m') :
    m'.steps = m.steps + k := by
  induction k generalizing executed m with
  | zero =>
      obtain ⟨rfl, -⟩ := endsAfter_zero_iff.mp h
      rfl
  | succ k ih =>
      rcases (endsAfter_succ_iff.mp h).2 with ⟨m₁, hstep, hrest⟩ | ⟨rfl, fault, hstep, -⟩
      · rw [ih hrest, (step_frame hstep).2]
        omega
      · exact (step_frame hstep).2

/-- A failing step included, a run stays within its limit. -/
theorem EndsAfter.le_maxSteps (h : EndsAfter limits clock executed m k reason m') {max : Nat}
    (hmax : limits.maxSteps = some max) : k = 0 ∨ executed + k ≤ max := by
  cases k with
  | zero => exact .inl rfl
  | succ k =>
      obtain ⟨mk, -, hstill⟩ := h.goesOn k (Nat.lt_succ_self k)
      exact .inr (lt_maxSteps hstill hmax)

/-- A limited run ends if the steps do. -/
theorem exists_runFrom_of_maxSteps {max : Nat} (hmax : limits.maxSteps = some max)
    (hsteps : ∀ j mj, Act.run (stepMany j) m = some (.ok (), mj) → Act.run step mj ≠ none) :
    ∃ reason m', runFrom limits clock executed m = some (reason, m') := by
  induction hleft : max - executed generalizing executed m with
  | zero =>
      rcases hstops : m.stopsHere limits executed (clock executed) with _ | reason
      · have hlt := lt_maxSteps (stopsHere_eq_none_iff.mp hstops) hmax
        omega
      · exact ⟨reason, m, runFrom_of_stops hstops⟩
  | succ left ih =>
      rcases hstops : m.stopsHere limits executed (clock executed) with _ | reason
      · rcases hstep : Act.run step m with _ | ⟨⟨fault⟩ | ⟨⟨⟩⟩, m₁⟩
        · exact absurd hstep (hsteps 0 m rfl)
        · exact ⟨_, m₁, runFrom_of_fault hstops hstep⟩
        · rw [runFrom_of_step hstops hstep]
          apply ih
          · intro j mj hrun
            exact hsteps (j + 1) mj ((run_stepMany_succ_of_ok hstep j).trans hrun)
          · omega
      · exact ⟨reason, m, runFrom_of_stops hstops⟩

/-- A whole run ends as its loop does, and tells why. -/
theorem run_eq_some_iff :
    m.run limits clock = some (reason, m') ↔
      ∃ k mₖ, EndsAfter limits clock 0 (m.tell .started) k reason mₖ ∧
        m' = mₖ.tell (.stopped reason) := by
  rw [run, Option.map_eq_some_iff]
  constructor
  · rintro ⟨⟨reason', mₖ⟩, hrun, heq⟩
    cases heq
    obtain ⟨k, hk⟩ := runFrom_eq_some_iff.mp hrun
    exact ⟨k, mₖ, hk, rfl⟩
  · rintro ⟨k, mₖ, hk, rfl⟩
    exact ⟨(reason, mₖ), runFrom_eq_some_iff.mpr ⟨k, hk⟩, rfl⟩

end EndsAfter

end PolledTerminal.Machine
