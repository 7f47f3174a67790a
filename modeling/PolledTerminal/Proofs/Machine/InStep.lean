import PolledTerminal.Proofs.Machine.Stepping
set_option autoImplicit false

/-!
# Machines in step

Two machines are in step when they look the same to the loop that runs them and stay
so.  Runs of both under one limit and one clock end after as many steps and for the
same reason.
-/

namespace PolledTerminal.Machine

variable {σ δ σ' δ' : Type}

/-- Related machines have the same status, and neither fails at a step or leaves the
relation by it. -/
structure InStep (R : Machine σ δ → Machine σ' δ' → Prop) : Prop where
  status : ∀ {m m'}, R m m' → m'.status = m.status
  started : ∀ {m m'}, R m m' → R (m.tell .started) (m'.tell .started)
  stopped : ∀ {m m'} (reason : StopReason), R m m' →
    R (m.tell (.stopped reason)) (m'.tell (.stopped reason))
  step : ∀ {m m'}, R m m' → ∃ n n', Act.run Machine.step m = some (.ok (), n) ∧
    Act.run Machine.step m' = some (.ok (), n') ∧ R n n'

namespace InStep

variable {R : Machine σ δ → Machine σ' δ' → Prop} {m : Machine σ δ} {m' : Machine σ' δ'}
  {limits : RunLimits} {max : Nat}

/-- What stops one of two machines in step stops the other one too. -/
theorem stopsHere_eq (hR : InStep R) (h : R m m') (limits : RunLimits) (executed elapsed : Nat) :
    m'.stopsHere limits executed elapsed = m.stopsHere limits executed elapsed := by
  rw [stopsHere, stopsHere, hR.status h]

theorem runFrom (hR : InStep R) (h : R m m') (hmax : limits.maxSteps = some max)
    (clock : Nat → Nat) (executed : Nat) :
    ∃ reason n n', Machine.runFrom limits clock executed m = some (reason, n) ∧
      Machine.runFrom limits clock executed m' = some (reason, n') ∧ R n n' := by
  -- Every step that both take brings them closer to the limit.
  induction hleft : max - executed using Nat.strongRecOn generalizing executed m m' with
  | ind left ih =>
      have hstops' := hR.stopsHere_eq h limits executed (clock executed)
      cases hstops : m.stopsHere limits executed (clock executed) with
      | some reason =>
          rw [hstops] at hstops'
          exact ⟨reason, m, m', runFrom_of_stops hstops, runFrom_of_stops hstops', h⟩
      | none =>
          have hbelow : executed < max := lt_maxSteps (stopsHere_eq_none_iff.mp hstops) hmax
          rw [hstops] at hstops'
          obtain ⟨m₁, m₁', hstep, hstep', h₁⟩ := hR.step h
          obtain ⟨reason, n, n', hrest, hrest', hn⟩ :=
            ih (max - (executed + 1)) (by omega) h₁ (executed + 1) rfl
          exact ⟨reason, n, n', (runFrom_of_step hstops hstep).trans hrest,
            (runFrom_of_step hstops' hstep').trans hrest', hn⟩

/-- Whole runs end in step. -/
theorem run (hR : InStep R) (h : R m m') (hmax : limits.maxSteps = some max)
    (clock : Nat → Nat) :
    ∃ reason n n', m.run limits clock = some (reason, n) ∧
      m'.run limits clock = some (reason, n') ∧ R n n' := by
  obtain ⟨reason, n, n', hrun, hrun', hn⟩ := hR.runFrom (hR.started h) hmax clock 0
  refine ⟨reason, _, _, ?_, ?_, hR.stopped reason hn⟩
  · rw [Machine.run, hrun]
    rfl
  · rw [Machine.run, hrun']
    rfl

end InStep

end PolledTerminal.Machine
