import PolledTerminal.Proofs.Machine.Recounting
set_option autoImplicit false

/-!
# The law of runs

A run takes steps up to the first count at which something stops it, is told from
its start to its stop, and can be cut in two: a run that its step limit ended goes
on as if there had been one limit for both.
-/

namespace PolledTerminal

namespace Machine

variable {σ δ : Type}

/-! ## Cutting a run in two -/

/-- What a run leads to, apart from the events told. -/
def outcome (run : Option (StopReason × Machine σ δ)) : Option (StopReason × Machine σ δ) :=
  run.map fun r => (r.1, r.2.clearEvents)

/-- Only the number of steps limits the run. -/
def stepLimit (max : Nat) : RunLimits := { maxSteps := some max }

section Cutting

variable {limits : RunLimits} {clock clock' : Nat → Nat} {executed n : Nat} {m mₙ : Machine σ δ}

theorem outcome_run (m : Machine σ δ) (limits : RunLimits) (clock : Nat → Nat) :
    outcome (m.run limits clock) = outcome (runFrom limits clock 0 (m.tell .started)) := by
  rw [outcome, outcome, run, Option.map_map]
  rfl

theorem outcome_runFrom_eq_some_iff {reason : StopReason} {m' : Machine σ δ} :
    outcome (runFrom limits clock executed m) = some (reason, m') ↔
      ∃ k m₁, EndsAfter limits clock executed m k reason m₁ ∧ m₁.clearEvents = m' := by
  rw [outcome, Option.map_eq_some_iff]
  constructor
  · rintro ⟨⟨reason', m₁⟩, hrun, heq⟩
    cases heq
    obtain ⟨k, hk⟩ := runFrom_eq_some_iff.mp hrun
    exact ⟨k, m₁, hk, rfl⟩
  · rintro ⟨k, m₁, hk, rfl⟩
    exact ⟨(reason, m₁), runFrom_eq_some_iff.mpr ⟨k, hk⟩, rfl⟩

/-- What was told before a run does not show in where it leads. -/
theorem outcome_runFrom_withTold (hm : Rig.Advances m.firmware.step) (told : List TraceEvent) :
    outcome (runFrom limits clock executed (m.withTold told)) =
      outcome (runFrom limits clock executed m) := by
  have hm' : Rig.Advances (m.withTold told).firmware.step := hm
  apply Option.ext
  rintro ⟨reason, m'⟩
  rw [outcome_runFrom_eq_some_iff, outcome_runFrom_eq_some_iff]
  constructor
  · rintro ⟨k, m₁, hk, rfl⟩
    obtain ⟨told', hk'⟩ := hk.withTold hm' m.rig.told
    exact ⟨k, _, hk', rfl⟩
  · rintro ⟨k, m₁, hk, rfl⟩
    obtain ⟨told', hk'⟩ := hk.withTold hm told
    exact ⟨k, _, hk', rfl⟩

/-- A run that does not stop on the way is the run from where the way leads. -/
theorem runFrom_of_goesOn
    (hgoes : ∀ j < n, ∃ mj, Act.run (stepMany j) m = some (.ok (), mj) ∧
      ∀ other, ¬ mj.StopsFor limits (executed + j) (clock (executed + j)) other)
    (hrun : Act.run (stepMany n) m = some (.ok (), mₙ)) :
    runFrom limits clock executed m = runFrom limits clock (executed + n) mₙ := by
  induction n generalizing mₙ with
  | zero =>
      cases hrun
      rfl
  | succ n ih =>
      obtain ⟨mj, hj, hstill⟩ := hgoes n (Nat.lt_succ_self n)
      rw [run_stepMany_add_of_ok hj] at hrun
      have hstep : Act.run step mj = some (.ok (), mₙ) := by
        rcases step_of_run_stepMany_succ hrun with ⟨m₁, hone, hnone⟩ | ⟨fault, -, hanswer⟩
        · cases hnone
          exact hone
        · cases hanswer
      rw [ih (fun j hlt => hgoes j (Nat.lt_succ_of_lt hlt)) hj,
        runFrom_of_step (stopsHere_eq_none_iff.mpr hstill) hstep]
      rfl

theorem stopsFor_stepLimit_add {elapsed elapsed' : Nat} {reason : StopReason} (first second : Nat) :
    m.StopsFor (stepLimit (first + second)) (first + executed) elapsed reason ↔
      m.StopsFor (stepLimit second) executed elapsed' reason := by
  rw [← stopsHere_eq_some_iff, ← stopsHere_eq_some_iff]
  simp only [stopsHere, stepLimit, Option.any_some, Option.any_none, Nat.add_le_add_iff_left]
  rfl

/-- With steps taken before, the limit is reached as without them and with that much
less of a limit. -/
theorem endsAfter_stepLimit_add {k : Nat} {reason : StopReason} {m' : Machine σ δ}
    (first second executed : Nat) :
    EndsAfter (stepLimit (first + second)) clock (first + executed) m k reason m' ↔
      EndsAfter (stepLimit second) clock' executed m k reason m' := by
  have hstops : ∀ (mj : Machine σ δ) j other,
      mj.StopsFor (stepLimit (first + second)) (first + executed + j)
          (clock (first + executed + j)) other ↔
        mj.StopsFor (stepLimit second) (executed + j) (clock' (executed + j)) other := by
    intro mj j other
    rw [Nat.add_assoc]
    exact stopsFor_stepLimit_add first second
  constructor
  · rintro ⟨hgoes, hends⟩
    simp only [hstops] at hgoes hends
    exact ⟨hgoes, hends⟩
  · rintro ⟨hgoes, hends⟩
    simp only [← hstops] at hgoes hends
    exact ⟨hgoes, hends⟩

theorem outcome_runFrom_stepLimit_add (first second : Nat) :
    outcome (runFrom (stepLimit (first + second)) clock first m) =
      outcome (runFrom (stepLimit second) clock' 0 m) := by
  apply Option.ext
  rintro ⟨reason, m'⟩
  rw [outcome_runFrom_eq_some_iff, outcome_runFrom_eq_some_iff]
  have hsame : ∀ k m₁, EndsAfter (stepLimit (first + second)) clock (first + 0) m k reason m₁ ↔
      EndsAfter (stepLimit second) clock' 0 m k reason m₁ :=
    fun k m₁ => endsAfter_stepLimit_add first second 0
  simp only [← hsame, Nat.add_zero]

/-- A run that its step limit ended has taken that many steps, and none failed. -/
theorem EndsAfter.eq_maxSteps {max k : Nat} {m' : Machine σ δ}
    (h : EndsAfter (stepLimit max) clock 0 m k .maxSteps m') :
    k = max ∧ Act.run (stepMany k) m = some (.ok (), m') := by
  rcases h.ends with ⟨hrun, hstops⟩ | ⟨fault, -, hreason⟩
  · cases hstops with
    | maxSteps hstatus hmax hreached =>
        cases hmax
        rcases h.le_maxSteps rfl with hzero | hle
        · exact ⟨by omega, hrun⟩
        · exact ⟨by omega, hrun⟩
  · cases fault <;> cases hreason

/-- A longer limit does not stop what a shorter one let go on. -/
theorem goesOn_of_stepLimit {first elapsed elapsed' : Nat} (second : Nat)
    (h : ∀ other, ¬ m.StopsFor (stepLimit first) executed elapsed other) (other : StopReason) :
    ¬ m.StopsFor (stepLimit (first + second)) executed elapsed' other := by
  have hlt := lt_maxSteps h rfl
  intro hstops
  cases hstops with
  | finished hstatus => exact h _ (.finished hstatus)
  | halted hstatus => exact h _ (.halted hstatus)
  | maxSteps hstatus hmax hreached =>
      cases hmax
      omega
  | wallTime hstatus hbelow hwall hreached => cases hwall

/-- A run that its step limit ended, and the one after it, lead where the run with
both limits added leads. -/
theorem outcome_run_run {first second : Nat} {m₁ : Machine σ δ} {clock₁ clock₂ clock₃ : Nat → Nat}
    (hm : Rig.Advances m.firmware.step)
    (h : m.run (stepLimit first) clock₁ = some (.maxSteps, m₁)) :
    outcome (m₁.run (stepLimit second) clock₂) =
      outcome (m.run (stepLimit (first + second)) clock₃) := by
  obtain ⟨k, mₙ, hk, rfl⟩ := run_eq_some_iff.mp h
  obtain ⟨rfl, hsteps⟩ := hk.eq_maxSteps
  have hfirmware : mₙ.firmware = m.firmware := hk.firmware_eq
  have hgoes : ∀ j < k, ∃ mj, Act.run (stepMany j) (m.tell .started) = some (.ok (), mj) ∧
      ∀ other, ¬ mj.StopsFor (stepLimit (k + second)) (0 + j) (clock₃ (0 + j)) other := by
    intro j hj
    obtain ⟨mj, hj, hstill⟩ := hk.goesOn j hj
    exact ⟨mj, hj, goesOn_of_stepLimit second hstill⟩
  have htold : (mₙ.tell (.stopped .maxSteps)).tell .started =
      mₙ.withTold (.started :: .stopped .maxSteps :: mₙ.rig.told) := rfl
  calc outcome ((mₙ.tell (.stopped .maxSteps)).run (stepLimit second) clock₂)
      = outcome (runFrom (stepLimit second) clock₂ 0 mₙ) := by
          rw [outcome_run, htold, outcome_runFrom_withTold (hfirmware ▸ hm)]
    _ = outcome (runFrom (stepLimit (k + second)) clock₃ k mₙ) :=
          (outcome_runFrom_stepLimit_add k second).symm
    _ = outcome (runFrom (stepLimit (k + second)) clock₃ 0 (m.tell .started)) := by
          rw [runFrom_of_goesOn hgoes hsteps, Nat.zero_add]
    _ = outcome (m.run (stepLimit (k + second)) clock₃) := (outcome_run m _ _).symm

end Cutting

/-! ## The law -/

/-- A run of `k` steps, as it was told. -/
structure Ran (m : Machine σ δ) (limits : RunLimits) (clock : Nat → Nat) (k : Nat)
    (reason : StopReason) (m' : Machine σ δ) : Prop where
  /-- the steps end where the run has to stop, for the reason given and told -/
  ends : ∃ mₖ, EndsAfter limits clock 0 (m.tell .started) k reason mₖ ∧
    m' = mₖ.tell (.stopped reason)
  /-- a step that fails is counted too -/
  steps : m'.steps = m.steps + k
  limited : ∀ max, limits.maxSteps = some max → k ≤ max
  /-- one start, each step with its cycles, one stop -/
  told : Rig.Advances m.firmware.step → ∃ tales, tales.length = k ∧
    (m.tell .started).Recounts tales ∧
    m'.rig.events =
      m.rig.events ++ .started :: recount m.steps tales ++ [.stopped reason]

/-- The law of the runs of a machine under limits. -/
structure RunLaw (m : Machine σ δ) (limits : RunLimits) (clock : Nat → Nat) : Prop where
  /-- what a run gives, if it ends -/
  ran : ∀ reason m', m.run limits clock = some (reason, m') ↔ ∃ k, m.Ran limits clock k reason m'
  /-- a limited run of a program whose steps end does end -/
  returns : ∀ max, limits.maxSteps = some max →
    (∀ j mj, Act.run (stepMany j) (m.tell .started) = some (.ok (), mj) →
      Act.run step mj ≠ none) →
    ∃ reason m', m.run limits clock = some (reason, m')
  /-- two runs in turn are one run: they leave the same program, bus and count of steps -/
  composes : Rig.Advances m.firmware.step → ∀ first m₁ clock₁,
    m.run (stepLimit first) clock₁ = some (.maxSteps, m₁) → ∀ second clock₂ clock₃,
      outcome (m₁.run (stepLimit second) clock₂) =
        outcome (m.run (stepLimit (first + second)) clock₃)

theorem EndsAfter.ran {m mₖ : Machine σ δ} {limits : RunLimits} {clock : Nat → Nat} {k : Nat}
    {reason : StopReason} (h : EndsAfter limits clock 0 (m.tell .started) k reason mₖ) :
    m.Ran limits clock k reason (mₖ.tell (.stopped reason)) := by
  refine ⟨⟨mₖ, h, rfl⟩, h.steps_eq, fun max hmax => ?_, fun hm => ?_⟩
  · rcases h.le_maxSteps hmax with hzero | hle
    · omega
    · omega
  · have hm' : Rig.Advances (m.tell .started).firmware.step := hm
    obtain ⟨tales, hlength, hrecounts, hevents⟩ := h.exists_recounts hm'
    refine ⟨tales, hlength, hrecounts, ?_⟩
    have htell : ∀ (n : Machine σ δ) e, (n.tell e).rig.events = n.rig.events ++ [e] :=
      fun n e => List.reverse_cons
    rw [htell, hevents, htell, List.append_assoc m.rig.events]
    rfl

end Machine

open Machine in
/-- Every machine, whatever its program, keeps the law of runs. -/
theorem runs_stop_at_the_first_cause {σ δ : Type} (m : Machine σ δ) (limits : RunLimits)
    (clock : Nat → Nat) : m.RunLaw limits clock := by
  constructor
  case ran =>
    intro reason m'
    rw [run_eq_some_iff]
    constructor
    · rintro ⟨k, mₖ, hk, rfl⟩
      exact ⟨k, hk.ran⟩
    · rintro ⟨k, hran⟩
      obtain ⟨mₖ, hk, hm'⟩ := hran.ends
      exact ⟨k, mₖ, hk, hm'⟩
  case returns =>
    intro max hmax hsteps
    obtain ⟨reason, mₖ, hrun⟩ : ∃ reason mₖ,
        runFrom limits clock 0 (m.tell .started) = some (reason, mₖ) :=
      exists_runFrom_of_maxSteps hmax hsteps
    obtain ⟨k, hk⟩ := runFrom_eq_some_iff.mp hrun
    exact ⟨reason, _, run_eq_some_iff.mpr ⟨k, mₖ, hk, rfl⟩⟩
  case composes =>
    intro hm first m₁ clock₁ h second clock₂ clock₃
    exact outcome_run_run hm h

/-- A self-test on a bus with nothing but data memory. -/
def selfTested : Machine SelfTest Device where
  firmware := SelfTest.firmware
  rig := ⟨SelfTest.new, .empty { base := 0, cells := #[] }, []⟩

theorem selfTested_endsAfter : ∃ m, Machine.EndsAfter (Machine.stepLimit 1) (fun _ => 0) 0
    (selfTested.tell .started) 1 .maxSteps m := by
  refine ⟨_, fun j hj => ?_, .inl ⟨rfl, .maxSteps rfl rfl (Nat.le_refl 1)⟩⟩
  cases Nat.lt_one_iff.mp hj
  exact ⟨_, rfl, Machine.stopsHere_eq_none_iff.mp rfl⟩

open Machine in
/-- One check, then two more, are three checks. -/
theorem runs_stop_at_the_first_cause_selfTested :
    Rig.Advances selfTested.firmware.step ∧
      ∃ m₁, selfTested.run (stepLimit 1) (fun _ => 0) = some (.maxSteps, m₁) ∧
        (∃ reason m', m₁.run (stepLimit 2) (fun _ => 0) = some (reason, m')) ∧
        outcome (m₁.run (stepLimit 2) fun _ => 0) =
          outcome (selfTested.run (stepLimit 3) fun _ => 0) := by
  have hlaw := runs_stop_at_the_first_cause selfTested (stepLimit 1) fun _ => 0
  have hadvances : Rig.Advances selfTested.firmware.step := SelfTest.advances_step
  obtain ⟨mₖ, hk⟩ := selfTested_endsAfter
  have hrun := (hlaw.ran _ _).mpr ⟨1, hk.ran⟩
  refine ⟨hadvances, _, hrun, ?_, hlaw.composes hadvances 1 _ _ hrun 2 _ _⟩
  apply (runs_stop_at_the_first_cause _ (stepLimit 2) _).returns 2 rfl
  intro j mj hj hnone
  have hfirmware : mj.firmware = SelfTest.firmware :=
    (firmware_of_run_stepMany hj).trans hk.firmware_eq
  have hstep : step mj = none := hnone
  rw [step, hfirmware] at hstep
  cases hstep

end PolledTerminal
