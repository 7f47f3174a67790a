import PolledTerminal.SelfTest
import PolledTerminal.Terminal
import PolledTerminal.Proofs.Action
import PolledTerminal.Proofs.Bus.Access
set_option autoImplicit false

/-!
# Programs that only go forward

A program hands its events to the observers and its accesses to the bus.  It can
neither look at what was told before nor take back a cycle, so each of its steps
adds events of its own, and spends cycles, in the same way whatever was told
before.
-/

namespace PolledTerminal

variable {σ δ α β : Type}

/-! ## On the bus -/

namespace Bus

/-- The action gives back no cycles. -/
def Spends (a : Act (Bus δ) α) : Prop :=
  ∀ b answer b', Act.run a b = some (answer, b') → b.cycles ≤ b'.cycles

namespace Spends

theorem pure (x : α) : Spends (Pure.pure x : Act (Bus δ) α) := by
  intro b answer b' h
  cases h
  exact Nat.le_refl _

theorem bind {a : Act (Bus δ) α} {f : α → Act (Bus δ) β} (ha : Spends a)
    (hf : ∀ x, Spends (f x)) : Spends (a >>= f) := by
  intro b answer b' h
  rw [Act.run_bind] at h
  split at h
  case h_1 => cases h
  case h_2 x b₁ hfirst => exact Nat.le_trans (ha _ _ _ hfirst) (hf x _ _ _ h)
  case h_3 why b₁ hfirst =>
    cases h
    exact ha _ _ _ hfirst

theorem get_bind {f : Bus δ → Act (Bus δ) α} (hf : ∀ b, Spends (f b)) :
    Spends (MonadState.get >>= f) := by
  intro b answer b' h
  rw [Act.run_bind_of_ok (Act.run_get b)] at h
  exact hf b _ _ _ h

variable [Peripheral δ]

theorem read (addr : UInt8) : Spends (Bus.read (δ := δ) addr) := by
  intro b answer b' h
  cases h
  show b.cycles ≤ (b.fetch addr).2.cycles + 1
  rw [cycles_fetch]
  exact Nat.le_succ _

theorem write (addr value : UInt8) : Spends (Bus.write (δ := δ) addr value) := by
  intro b answer b' h
  cases h
  show b.cycles ≤ (b.store addr value).2.cycles + 1
  rw [cycles_store]
  exact Nat.le_succ _

/-- Waiting spends a cycle for each poll; it may spend them for ever. -/
theorem writeWhenReady (port value : UInt8) (patience spins : Nat) :
    Spends ((outputPort (δ := δ) port).writeWhenReady value patience spins) := by
  induction patience generalizing spins with
  | zero =>
      intro b answer b' h
      cases h
  | succ patience ih =>
      rw [OutputDevice.writeWhenReady]
      refine ((read port).bind fun status => .pure _).bind fun isBusy => ?_
      cases isBusy with
      | true => exact ih _
      | false => exact (write port value).bind fun _ => .pure spins

theorem writeCharacter (port value : UInt8) : Spends (Bus.writeCharacter (δ := δ) port value) :=
  .get_bind fun _ => writeWhenReady port value _ 0

theorem pollInput (port : UInt8) : Spends (Bus.pollInput (δ := δ) port) :=
  (read port).bind fun _ => .pure _

end Spends

end Bus

/-! ## On the rig -/

namespace Rig

/-- The rig with other events told before. -/
def withTold (r : Rig σ δ) (told : List TraceEvent) : Rig σ δ := { r with told := told }

/-- The action adds its own events to those told before, whatever these are, and
gives back no cycles. -/
def Advances (a : Act (Rig σ δ) α) : Prop :=
  ∀ r answer r', Act.run a r = some (answer, r') →
    r.bus.cycles ≤ r'.bus.cycles ∧
      ∃ new, ∀ told, Act.run a (r.withTold told) = some (answer, r'.withTold (new ++ told))

namespace Advances

/-- The events that the action adds are those it adds to what was really told. -/
theorem exists_new {a : Act (Rig σ δ) α} (ha : Advances a) {r r' : Rig σ δ}
    {answer : Except Fault α} (h : Act.run a r = some (answer, r')) :
    ∃ new, r'.told = new ++ r.told ∧
      ∀ told, Act.run a (r.withTold told) = some (answer, r'.withTold (new ++ told)) := by
  obtain ⟨-, new, htold⟩ := ha r answer r' h
  have hown : some (answer, r') = some (answer, r'.withTold (new ++ r.told)) :=
    h.symm.trans (htold r.told)
  exact ⟨new, congrArg (fun s => s.2.told) (Option.some.inj hown), htold⟩

theorem pure (x : α) : Advances (Pure.pure x : Act (Rig σ δ) α) := by
  intro r answer r' h
  cases h
  exact ⟨Nat.le_refl _, [], fun told => rfl⟩

theorem throw (why : Fault) : Advances (MonadExcept.throw why : Act (Rig σ δ) α) := by
  intro r answer r' h
  cases h
  exact ⟨Nat.le_refl _, [], fun told => rfl⟩

theorem bind {a : Act (Rig σ δ) α} {f : α → Act (Rig σ δ) β} (ha : Advances a)
    (hf : ∀ x, Advances (f x)) : Advances (a >>= f) := by
  intro r answer r' h
  rw [Act.run_bind] at h
  split at h
  case h_1 => cases h
  case h_2 x r₁ hfirst =>
    obtain ⟨hcycles₁, new₁, htold₁⟩ := ha _ _ _ hfirst
    obtain ⟨hcycles, new, htold⟩ := hf x _ _ _ h
    refine ⟨Nat.le_trans hcycles₁ hcycles, new ++ new₁, fun told => ?_⟩
    rw [Act.run_bind_of_ok (htold₁ told), List.append_assoc]
    exact htold (new₁ ++ told)
  case h_3 why r₁ hfirst =>
    cases h
    obtain ⟨hcycles₁, new₁, htold₁⟩ := ha _ _ _ hfirst
    refine ⟨hcycles₁, new₁, fun told => ?_⟩
    rw [Act.run_bind, htold₁ told]

/-- A look at the rig is harmless if what follows does not depend on what was told. -/
theorem get_bind {f : Rig σ δ → Act (Rig σ δ) α} (hf : ∀ r, Advances (f r))
    (hsame : ∀ r told, f (r.withTold told) = f r) : Advances (MonadState.get >>= f) := by
  intro r answer r' h
  rw [Act.run_bind_of_ok (Act.run_get r)] at h
  obtain ⟨hcycles, new, htold⟩ := hf r _ _ _ h
  refine ⟨hcycles, new, fun told => ?_⟩
  rw [Act.run_bind_of_ok (Act.run_get _), hsame]
  exact htold told

theorem record (e : TraceEvent) : Advances (Rig.record e : Act (Rig σ δ) Unit) := by
  intro r answer r' h
  cases h
  exact ⟨Nat.le_refl _, [e], fun told => rfl⟩

theorem changeProgram (f : σ → σ) : Advances (Rig.changeProgram f : Act (Rig σ δ) Unit) := by
  intro r answer r' h
  cases h
  exact ⟨Nat.le_refl _, [], fun told => rfl⟩

theorem onBus {a : Act (Bus δ) α} (ha : Bus.Spends a) :
    Advances (Rig.onBus a : Act (Rig σ δ) α) := by
  intro r answer r' h
  rw [Rig.onBus, Act.run_within] at h
  obtain ⟨⟨answer', bus⟩, hbus, heq⟩ := Option.map_eq_some_iff.mp h
  cases heq
  refine ⟨ha _ _ _ hbus, [], fun told => ?_⟩
  rw [Rig.onBus, Act.run_within]
  show (Act.run a r.bus).map _ = _
  rw [hbus]
  rfl

end Advances

end Rig

/-! ## The two programs -/

namespace Terminal

variable [Peripheral δ]

theorem advances_emit (port value : UInt8) : Rig.Advances (emit (δ := δ) port value) :=
  (Rig.Advances.onBus (.writeCharacter port value)).bind fun _ => .record _

theorem advances_printFrom (port start : UInt8) (cells : Nat) (addr : UInt8) :
    Rig.Advances (printFrom (δ := δ) port start cells addr) := by
  induction cells generalizing addr with
  | zero => exact .throw _
  | succ cells ih =>
      rw [printFrom]
      refine (Rig.Advances.onBus (.read addr)).bind fun c => ?_
      by_cases hc : c = 0
      · rw [if_pos hc]
        exact .pure ()
      · rw [if_neg hc]
        exact (advances_emit port c).bind fun _ => ih (addr + 1)

theorem advances_act (t : Terminal) : Rig.Advances (act (δ := δ) t) := by
  unfold act
  cases Reaction.ofLast t.last with
  | redraw =>
      refine (advances_emit _ _).bind fun _ => ?_
      exact (advances_printFrom _ _ _ _).bind fun _ => .changeProgram _
  | idle => exact .pure ()
  | echo c => exact (advances_emit _ c).bind fun _ => .changeProgram _

theorem advances_step : Rig.Advances (step (δ := δ)) := by
  refine .get_bind (fun r => ?_) fun r told => rfl
  refine (advances_act r.program).bind fun _ => ?_
  refine (Rig.Advances.onBus (.pollInput _)).bind fun key => ?_
  exact (Rig.Advances.record _).bind fun _ => .changeProgram _

end Terminal

theorem SelfTest.advances_step : Rig.Advances (SelfTest.firmware (δ := δ)).step :=
  .changeProgram SelfTest.advance

end PolledTerminal
