import PolledTerminal.Proofs.Machine.Stepping
import PolledTerminal.Proofs.Terminal.History
set_option autoImplicit false

/-!
# Runs of a terminal

When everything is typed beforehand no step finds the keyboard empty while keys
are still to come, so every step acts on the next key for as long as there are
keys.  A terminal goes on for ever; a run that only a step limit can stop ends at
that limit.
-/

namespace PolledTerminal

open PolledTerminal.Text (Bytes)

variable {δ : Type} [TerminalPeripheral δ]

/-! ## Keeping time -/

/-- A beginning that ends just before an element is one shorter than the beginning
that ends with it. -/
theorem append_singleton_eq_take {α : Type} {xs ys zs : List α} {x : α} {n : Nat}
    (hxs : xs = ys ++ [x] ++ zs) (hys : ys = xs.take n) : ys ++ [x] = xs.take (n + 1) := by
  have hlength : ys.length = n := by
    have htake := congrArg List.length hys
    have hwhole := congrArg List.length hxs
    simp only [List.length_take, List.length_append, List.length_singleton] at htake hwhole
    omega
  rw [hxs, ← hlength]
  exact (List.take_left' (by simp)).symm

/-- As many keys have been acted on as steps were taken, or all; and there is a key
to act on unless none is left. -/
structure OnTime (keys : Bytes) (m : Machine Terminal δ) (acted : Bytes) (k : Keyboard) : Prop where
  acted : acted = (carriageReturn :: keys).take m.steps
  waiting : m.program.last = 0 → k.toList = []

namespace History

variable {start m : Machine Terminal δ} {d₀ d : Display} {keys acted : Bytes} {k : Keyboard}

/-- Events that are not writes change nothing. -/
theorem tell (h : History start d₀ keys m acted d k) {e : TraceEvent} (he : e.output? = none) :
    History start d₀ keys (m.tell e) acted d k := by
  have houtputs : (m.rig.tell e).outputs = m.rig.outputs := by
    rw [Rig.outputs_tell, he]
    exact List.append_nil _
  obtain ⟨hwired, hprompt, htext, hfits⟩ := h.ready
  exact ⟨h.firmware, ⟨hwired, hprompt, htext, hfits⟩, h.ports, h.prompt, h.calm, h.nonzero,
    h.queue, h.accepts, houtputs.trans h.outputs, h.redraws, h.echoes, h.fresh, h.stepped⟩

variable [LawfulTerminalPeripheral δ]

/-- A step keeps time. -/
theorem step_onTime (h : History start d₀ keys m acted d k) (htime : OnTime keys m acted k) :
    ∃ m' acted' d' k', Act.run Machine.step m = some (.ok (), m') ∧ m'.steps = m.steps + 1 ∧
      History start d₀ keys m' acted' d' k' ∧ OnTime keys m' acted' k' := by
  obtain ⟨m', d', hrun, hsteps, hlast, h'⟩ := h.step
  refine ⟨m', _, d', _, hrun, hsteps, h', ?_, ?_⟩
  · have hqueue := h.queue
    rw [hsteps]
    by_cases hzero : m.program.last = 0
    · -- No key was left, so there is none that this step could have missed.
      have hall : carriageReturn :: keys = acted := by
        rw [hqueue, hzero, htime.waiting hzero]
        simp [keyOf]
      have hlength : (carriageReturn :: keys).length ≤ m.steps := by
        have htake := congrArg List.length htime.acted
        rw [List.length_take, ← hall] at htake
        omega
      rw [hzero, List.take_of_length_le (by omega), hall]
      exact List.append_nil acted
    · rw [keyOf_of_ne_zero hzero] at hqueue ⊢
      exact append_singleton_eq_take hqueue htime.acted
  · intro hzero
    obtain ⟨hhead, htail, -⟩ := k.pop_eq
    rw [hlast, hhead] at hzero
    rw [htail]
    cases hlist : k.toList with
    | nil => rfl
    | cons key rest =>
        rw [hlist] at hzero
        have hkey : key = 0 := hzero
        have hnonzero := h.waiting_nonzero
        rw [hlist, hkey] at hnonzero
        exact absurd List.mem_cons_self hnonzero

/-! ## Running to the limit -/

variable {limits : RunLimits} {maxSteps : Nat}

omit [LawfulTerminalPeripheral δ] in
/-- Only the step limit stops a terminal. -/
theorem stopsHere_eq (h : History start d₀ keys m acted d k)
    (hmax : limits.maxSteps = some maxSteps) (hwall : limits.wallTime = none)
    (executed elapsed : Nat) :
    m.stopsHere limits executed elapsed =
      if maxSteps ≤ executed then some .maxSteps else none := by
  have hstatus : m.status = .running := by
    unfold Machine.status
    rw [h.firmware]
    rfl
  unfold Machine.stopsHere
  rw [hstatus, hmax, hwall]
  simp

/-- A run with steps to go takes them all. -/
theorem runFrom (h : History start d₀ keys m acted d k) (htime : OnTime keys m acted k)
    (hmax : limits.maxSteps = some maxSteps) (hwall : limits.wallTime = none) (clock : Nat → Nat)
    (hsteps : m.steps ≤ maxSteps) :
    ∃ m' acted' d' k',
      Machine.runFrom limits clock m.steps m = some (.maxSteps, m') ∧
      m'.steps = maxSteps ∧ History start d₀ keys m' acted' d' k' ∧ OnTime keys m' acted' k' := by
  induction hleft : maxSteps - m.steps generalizing m acted d k with
  | zero =>
      have hstops := h.stopsHere_eq hmax hwall m.steps (clock m.steps)
      rw [if_pos (by omega)] at hstops
      exact ⟨m, acted, d, k, Machine.runFrom_of_stops hstops, by omega, h, htime⟩
  | succ left ih =>
      have hstops := h.stopsHere_eq hmax hwall m.steps (clock m.steps)
      rw [if_neg (by omega)] at hstops
      obtain ⟨m₁, acted₁, d₁, k₁, hrun, hsteps₁, h₁, htime₁⟩ := h.step_onTime htime
      rw [Machine.runFrom_of_step hstops hrun, ← hsteps₁]
      exact ih h₁ htime₁ (by omega) (by omega)

/-- A run of a terminal for which everything was typed beforehand. -/
theorem run (h : History start d₀ keys start [] d k) (hlast : start.program.last = carriageReturn)
    (hfresh : start.steps = 0) (hmax : limits.maxSteps = some maxSteps)
    (hwall : limits.wallTime = none) (clock : Nat → Nat) :
    ∃ m d' k', start.run limits clock = some (.maxSteps, m) ∧ m.steps = maxSteps ∧
      History start d₀ keys m ((carriageReturn :: keys).take maxSteps) d' k' := by
  have htold : History start d₀ keys (start.tell .started) [] d k := h.tell rfl
  have htime : OnTime keys (start.tell .started) [] k := by
    refine ⟨?_, ?_⟩
    · show [] = (carriageReturn :: keys).take start.steps
      rw [hfresh, List.take_zero]
    · intro hzero
      have hlast' : (start.tell .started).program.last = carriageReturn := hlast
      rw [hlast'] at hzero
      cases hzero
  have hfresh' : (start.tell .started).steps = 0 := hfresh
  obtain ⟨m, acted, d', k', hrun, hsteps, h', htime'⟩ :=
    htold.runFrom htime hmax hwall clock (hfresh' ▸ Nat.zero_le maxSteps)
  have hacted := htime'.acted
  rw [hsteps] at hacted
  rw [hfresh'] at hrun
  refine ⟨m.tell (.stopped .maxSteps), d', k', ?_, hsteps, ?_⟩
  · unfold Machine.run
    rw [hrun]
    rfl
  · rw [← hacted]
    exact h'.tell rfl

end History

end PolledTerminal
