import Mathlib.Algebra.GroupWithZero.Nat
import PolledTerminal.Proofs.Machine.Advancing
import PolledTerminal.Proofs.Machine.Stepping
set_option autoImplicit false

/-!
# What a run tells

Observers see each step start and end, with the cycles that it spent, and in
between what the program tells of it.  What was told before a step decides
nothing, so machines that differ in it alone run alike.
-/

namespace PolledTerminal

variable {σ δ : Type}

/-- What observers see of one step: what the program tells, and the cycles spent. -/
structure StepTale where
  told : List TraceEvent
  cycles : Nat
  deriving Repr, Inhabited

/-- The events of steps in order, the first of which has this number. -/
def recount : Nat → List StepTale → List TraceEvent
  | _, [] => []
  | number, tale :: tales =>
    .stepStarted number :: tale.told ++ .stepEnded tale.cycles :: recount (number + 1) tales

namespace Machine

/-! ## One step -/

/-- The machine with other events told before. -/
def withTold (m : Machine σ δ) (told : List TraceEvent) : Machine σ δ :=
  { m with rig := m.rig.withTold told }

/-- The tale of the next step: what the program tells and spends when it takes the
step by itself. -/
def nextTale? (m : Machine σ δ) : Option StepTale :=
  (Act.run m.firmware.step (m.rig.withTold [])).map fun r =>
    ⟨r.2.events, r.2.bus.cycles - m.bus.cycles⟩

/-- A step adds its tale to whatever was told before, and spends the cycles of it. -/
theorem step_of_advances {m m₁ : Machine σ δ} {answer : Except Fault Unit}
    (hm : Rig.Advances m.firmware.step) (h : Act.run step m = some (answer, m₁)) :
    ∃ tale, m.nextTale? = some tale ∧ m₁.bus.cycles = m.bus.cycles + tale.cycles ∧
      m₁.rig.events =
        m.rig.events ++ .stepStarted m.steps :: tale.told ++ [.stepEnded tale.cycles] ∧
      ∀ told, ∃ told', Act.run step (m.withTold told) = some (answer, m₁.withTold told') := by
  have hstep : step m = some (answer, m₁) := h
  rw [step] at hstep
  rcases hrun : m.firmware.step.run (m.rig.tell (.stepStarted m.steps)) with _ | ⟨answer', rig⟩
  · rw [hrun] at hstep
    cases hstep
  · rw [hrun] at hstep
    cases hstep
    have hcycles : m.bus.cycles ≤ rig.bus.cycles := (hm _ _ _ hrun).1
    obtain ⟨new, hnew, htold⟩ := hm.exists_new hrun
    have halone := htold []
    rw [List.append_nil] at halone
    refine ⟨⟨new.reverse, rig.bus.cycles - m.bus.cycles⟩, ?_, ?_, ?_, fun told => ?_⟩
    · have hnext : Act.run m.firmware.step (m.rig.withTold []) = some (answer, rig.withTold new) :=
        halone
      rw [nextTale?, hnext]
      rfl
    · show rig.bus.cycles = m.bus.cycles + (rig.bus.cycles - m.bus.cycles)
      omega
    · show (TraceEvent.stepEnded _ :: rig.told).reverse = m.rig.told.reverse ++ _ ++ _
      rw [hnew]
      simp [Rig.tell, bus]
    · have hother : Act.run (m.withTold told).firmware.step
          ((m.withTold told).rig.tell (.stepStarted (m.withTold told).steps)) =
            some (answer, rig.withTold (new ++ .stepStarted m.steps :: told)) :=
        htold (.stepStarted m.steps :: told)
      exact ⟨.stepEnded (rig.bus.cycles - m.bus.cycles) :: (new ++ .stepStarted m.steps :: told),
        run_step hother⟩

/-! ## A whole run -/

/-- After so many steps of the run, the last of which may have failed, what has
been told and spent is what the tales of these steps say. -/
structure Recounts (m : Machine σ δ) (tales : List StepTale) : Prop where
  tale : ∀ j < tales.length, ∃ mj, Act.run (stepMany j) m = some (.ok (), mj) ∧
    mj.nextTale? = tales[j]?
  told : ∀ j ≤ tales.length, ∃ answer mj, Act.run (stepMany j) m = some (answer, mj) ∧
    mj.rig.events = m.rig.events ++ recount m.steps (tales.take j) ∧
    mj.bus.cycles = m.bus.cycles + ((tales.take j).map StepTale.cycles).sum

theorem Recounts.nil (m : Machine σ δ) : m.Recounts [] := by
  refine ⟨fun j hj => absurd hj (Nat.not_lt_zero j), fun j hj => ?_⟩
  cases Nat.le_zero.mp hj
  exact ⟨.ok (), m, rfl, (List.append_nil _).symm, rfl⟩

/-- A step before the others, or one that fails alone. -/
theorem Recounts.cons {m m₁ : Machine σ δ} {answer : Except Fault Unit} {tales : List StepTale}
    {tale : StepTale} (h : Act.run step m = some (answer, m₁)) (htale : m.nextTale? = some tale)
    (hevents : m₁.rig.events =
      m.rig.events ++ .stepStarted m.steps :: tale.told ++ [.stepEnded tale.cycles])
    (hcycles : m₁.bus.cycles = m.bus.cycles + tale.cycles)
    (hrest : m₁.Recounts tales) (hlast : answer = .ok () ∨ tales = []) :
    m.Recounts (tale :: tales) := by
  have hsteps := (step_frame h).2
  have hlater : ∀ j ≤ tales.length, ∃ answer' mj,
      Act.run (stepMany (j + 1)) m = some (answer', mj) ∧
      mj.rig.events = m₁.rig.events ++ recount m₁.steps (tales.take j) ∧
      mj.bus.cycles = m₁.bus.cycles + ((tales.take j).map StepTale.cycles).sum := by
    intro j hj
    rcases hlast with rfl | rfl
    · rw [run_stepMany_succ_of_ok h]
      exact hrest.told j hj
    · cases Nat.le_zero.mp hj
      refine ⟨answer, m₁, ?_, (List.append_nil _).symm, rfl⟩
      cases answer with
      | error fault => exact run_stepMany_succ_of_error h 0
      | ok => exact run_stepMany_succ_of_ok h 0
  constructor
  · intro j hj
    cases j with
    | zero => exact ⟨m, rfl, htale⟩
    | succ j =>
        have hj' : j < tales.length := Nat.lt_of_succ_lt_succ hj
        obtain rfl : answer = .ok () := by
          rcases hlast with hok | rfl
          · exact hok
          · cases hj'
        rw [run_stepMany_succ_of_ok h]
        exact hrest.tale j hj'
  · intro j hj
    cases j with
    | zero => exact ⟨.ok (), m, rfl, (List.append_nil _).symm, rfl⟩
    | succ j =>
        obtain ⟨answer', mj, hrun, hevents', hcycles'⟩ := hlater j (Nat.le_of_succ_le_succ hj)
        refine ⟨answer', mj, hrun, ?_, ?_⟩
        · rw [hevents', hevents, hsteps, List.take_succ_cons, recount]
          simp only [List.append_assoc, List.cons_append, List.nil_append]
        · rw [hcycles', hcycles, List.take_succ_cons, List.map_cons, List.sum_cons, Nat.add_assoc]

section EndsAfter

variable {limits : RunLimits} {clock : Nat → Nat} {executed k : Nat} {m m' : Machine σ δ}
  {reason : StopReason}

/-- Each step of a run has a tale. -/
theorem EndsAfter.exists_recounts (hm : Rig.Advances m.firmware.step)
    (h : EndsAfter limits clock executed m k reason m') :
    ∃ tales, tales.length = k ∧ m.Recounts tales ∧
      m'.rig.events = m.rig.events ++ recount m.steps tales := by
  induction k generalizing executed m with
  | zero =>
      obtain ⟨rfl, -⟩ := endsAfter_zero_iff.mp h
      exact ⟨[], rfl, .nil m', (List.append_nil _).symm⟩
  | succ k ih =>
      rcases (endsAfter_succ_iff.mp h).2 with ⟨m₁, hstep, hrest⟩ | ⟨rfl, fault, hstep, -⟩
      · obtain ⟨hfirmware, hsteps⟩ := step_frame hstep
        obtain ⟨tale, htale, hcycles, hevents, -⟩ := step_of_advances hm hstep
        obtain ⟨tales, hlength, hrecounts, hevents'⟩ := ih (hfirmware ▸ hm) hrest
        refine ⟨tale :: tales, congrArg (· + 1) hlength,
          .cons hstep htale hevents hcycles hrecounts (.inl rfl), ?_⟩
        rw [hevents', hevents, hsteps, recount]
        simp only [List.append_assoc, List.cons_append, List.nil_append]
      · obtain ⟨tale, htale, hcycles, hevents, -⟩ := step_of_advances hm hstep
        refine ⟨[tale], rfl, .cons hstep htale hevents hcycles (.nil m') (.inr rfl), ?_⟩
        rw [hevents, recount, recount]
        simp only [List.append_assoc, List.cons_append]

theorem stopsFor_withTold_iff {elapsed : Nat} (m : Machine σ δ) (told : List TraceEvent) :
    (m.withTold told).StopsFor limits executed elapsed reason ↔
      m.StopsFor limits executed elapsed reason := by
  rw [← stopsHere_eq_some_iff, ← stopsHere_eq_some_iff]
  rfl

/-- A run ends alike whatever was told before it. -/
theorem EndsAfter.withTold (hm : Rig.Advances m.firmware.step)
    (h : EndsAfter limits clock executed m k reason m') (told : List TraceEvent) :
    ∃ told', EndsAfter limits clock executed (m.withTold told) k reason (m'.withTold told') := by
  induction k generalizing executed m told with
  | zero =>
      obtain ⟨rfl, hstops⟩ := endsAfter_zero_iff.mp h
      exact ⟨told, endsAfter_zero_iff.mpr ⟨rfl, (stopsFor_withTold_iff m' told).mpr hstops⟩⟩
  | succ k ih =>
      obtain ⟨hstill, hrest⟩ := endsAfter_succ_iff.mp h
      have hstill' : ∀ other, ¬ (m.withTold told).StopsFor limits executed (clock executed) other :=
        fun other hstops => hstill other ((stopsFor_withTold_iff m told).mp hstops)
      rcases hrest with ⟨m₁, hstep, hrest⟩ | ⟨rfl, fault, hstep, hreason⟩
      · obtain ⟨-, -, -, -, htold⟩ := step_of_advances hm hstep
        obtain ⟨told₁, hstep'⟩ := htold told
        obtain ⟨told', hrest'⟩ := ih ((step_frame hstep).1 ▸ hm) hrest told₁
        exact ⟨told', endsAfter_succ_iff.mpr ⟨hstill', .inl ⟨_, hstep', hrest'⟩⟩⟩
      · obtain ⟨-, -, -, -, htold⟩ := step_of_advances hm hstep
        obtain ⟨told', hstep'⟩ := htold told
        exact ⟨told', endsAfter_succ_iff.mpr ⟨hstill', .inr ⟨rfl, fault, hstep', hreason⟩⟩⟩

end EndsAfter

end Machine

end PolledTerminal
