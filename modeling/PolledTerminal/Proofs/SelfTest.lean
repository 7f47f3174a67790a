import Mathlib.Logic.Function.Iterate
import PolledTerminal.SelfTest
import PolledTerminal.Proofs.Machine.Runs
set_option autoImplicit false

/-!
# The self-test in closed form

Where a self-test stands depends on the first check that fails and on how many
steps it has taken since it started over, and on nothing else: not on what came
before, and not on the bus, which it never touches.  A run ends accordingly.
-/

namespace PolledTerminal

/-! ## The first failure -/

namespace Check

/-- The unit's flags after all of the checks, evaluated in order on one unit that starts
with clear flags. -/
def flagsAfter (cs : List Check) : Alu := cs.foldl (fun alu c => (c.eval.run alu).2) {}

/-- There is a check at this index, and on the flags that those before it have left it
answers otherwise than expected. -/
def failsAt (cs : List Check) (j : Nat) : Bool :=
  cs[j]?.any fun c => (c.eval.run (flagsAfter (cs.take j))).1 != c.expect

/-- The index of the first check that fails. -/
def firstFailure? (cs : List Check) : Option Nat := (List.range cs.length).find? (failsAt cs)

theorem flagsAfter_concat (before : List Check) (c : Check) :
    flagsAfter (before ++ [c]) = (c.eval.run (flagsAfter before)).2 := List.foldl_append

/-- What the program makes of a check. -/
theorem run_passes (c : Check) (alu : Alu) :
    c.passes.run alu = ((c.eval.run alu).1 == c.expect, (c.eval.run alu).2) := rfl

section FirstFailure

variable {cs : List Check} {c : Check} {n j : Nat}

theorem failsAt_eq (h : cs[n]? = some c) :
    failsAt cs n = !(c.passes.run (flagsAfter (cs.take n))).1 := by
  rw [failsAt, h, Option.any_some, run_passes]
  rfl

theorem lt_length_of_failsAt (h : failsAt cs j = true) : j < cs.length := by
  obtain ⟨c, hc, -⟩ := (Option.any_eq_true _ _).mp h
  exact (List.getElem?_eq_some_iff.mp hc).1

/-- The first failure is a failure, and there is none before it. -/
theorem firstFailure?_eq_some_iff :
    firstFailure? cs = some j ↔ failsAt cs j = true ∧ ∀ i < j, failsAt cs i = false := by
  simp only [firstFailure?, List.find?_range_eq_some, List.mem_range, Bool.not_eq_true']
  constructor
  · rintro ⟨hfails, -, hbefore⟩
    exact ⟨hfails, hbefore⟩
  · rintro ⟨hfails, hbefore⟩
    exact ⟨hfails, lt_length_of_failsAt hfails, hbefore⟩

theorem lt_length_of_firstFailure? (h : firstFailure? cs = some j) : j < cs.length :=
  lt_length_of_failsAt (firstFailure?_eq_some_iff.mp h).1

/-- A check that fails, with no failure before it, is the first failure. -/
theorem firstFailure?_eq_some (hearlier : ∀ j, firstFailure? cs = some j → n ≤ j)
    (hfails : failsAt cs n = true) : firstFailure? cs = some n := by
  cases hfirst : firstFailure? cs with
  | none =>
      have hpasses := List.find?_range_eq_none.mp hfirst n (lt_length_of_failsAt hfails)
      rw [hfails] at hpasses
      cases hpasses
  | some j =>
      obtain ⟨-, hbefore⟩ := firstFailure?_eq_some_iff.mp hfirst
      rcases Nat.lt_or_eq_of_le (hearlier j hfirst) with hlt | heq
      · have hpasses := hbefore n hlt
        rw [hfails] at hpasses
        cases hpasses
      · rw [heq]

/-- After a check that passes the first failure is still to come. -/
theorem succ_le_firstFailure? (hearlier : ∀ j, firstFailure? cs = some j → n ≤ j)
    (hpasses : failsAt cs n = false) : ∀ j, firstFailure? cs = some j → n + 1 ≤ j := by
  intro j hj
  rcases Nat.lt_or_eq_of_le (hearlier j hj) with hlt | rfl
  · exact hlt
  · rw [(firstFailure?_eq_some_iff.mp hj).1] at hpasses
    cases hpasses

end FirstFailure

end Check

open Check (firstFailure? flagsAfter)

namespace SelfTest

/-! ## One step after the other -/

/-- The self-test of these checks after `n` steps. -/
inductive Stands (checks : Array Check) (n : Nat) : SelfTest → Prop where
  | running (hnext : n < checks.size)
      (hpassed : ∀ j, firstFailure? checks.toList = some j → n ≤ j) :
      Stands checks n ⟨checks, n, flagsAfter (checks.toList.take n), .running, 0⟩
  | finished {alu : Alu} (hpassed : firstFailure? checks.toList = none) (hall : checks.size ≤ n) :
      Stands checks n ⟨checks, checks.size, alu, .finished, 0⟩
  | halted {j : Nat} {alu : Alu} (hfails : firstFailure? checks.toList = some j)
      (hreached : j < n) :
      Stands checks n ⟨checks, j, alu, .halted j, n - j - 1⟩

variable {checks : Array Check} {n : Nat} {t : SelfTest}

/-- Starting over forgets everything but the checks. -/
theorem stands_reset (t : SelfTest) : Stands t.checks 0 t.reset := by
  rw [reset]
  by_cases hempty : t.checks.isEmpty = true
  · have hnil : t.checks = #[] := Array.isEmpty_iff.mp hempty
    rw [if_pos hempty, hnil]
    exact .finished rfl (Nat.le_refl 0)
  · have hpos : 0 < t.checks.size := by
      rw [Array.size_pos_iff, ne_eq, ← Array.isEmpty_iff]
      exact hempty
    rw [if_neg hempty]
    exact .running hpos fun j _ => Nat.zero_le j

theorem runCheck_eq (t : SelfTest) (c : Check) :
    t.runCheck c =
      if (c.passes.run t.alu).1 then
        { t with
          alu := (c.passes.run t.alu).2
          next := t.next + 1
          status := if t.next + 1 = t.checks.size then .finished else .running }
      else { t with alu := (c.passes.run t.alu).2, status := .halted t.next } := rfl

theorem Stands.runCheck {c : Check} (hc : checks.toList[n]? = some c)
    (hpassed : ∀ j, firstFailure? checks.toList = some j → n ≤ j) :
    Stands checks (n + 1)
      (SelfTest.runCheck ⟨checks, n, flagsAfter (checks.toList.take n), .running, 0⟩ c) := by
  have hn : n < checks.size := by
    obtain ⟨hn, -⟩ := List.getElem?_eq_some_iff.mp hc
    rwa [Array.length_toList] at hn
  have hfails := Check.failsAt_eq hc
  have hflags : (c.passes.run (flagsAfter (checks.toList.take n))).2 =
      flagsAfter (checks.toList.take (n + 1)) := by
    rw [List.take_add_one, hc, Option.toList_some, Check.flagsAfter_concat, Check.run_passes]
  rw [runCheck_eq]
  dsimp only
  rw [hflags]
  cases hok : (c.passes.run (flagsAfter (checks.toList.take n))).1 with
  | false =>
      rw [hok] at hfails
      have hspins : 0 = n + 1 - n - 1 := by omega
      rw [if_neg Bool.false_ne_true, hspins]
      exact .halted (Check.firstFailure?_eq_some hpassed hfails) (Nat.lt_succ_self n)
  | true =>
      rw [hok] at hfails
      have hstill := Check.succ_le_firstFailure? hpassed hfails
      rw [if_pos rfl]
      by_cases hlast : n + 1 = checks.size
      · rw [if_pos hlast, hlast]
        refine .finished ?_ (Nat.le_refl _)
        -- a failure would have to lie behind the last check
        cases hfirst : firstFailure? checks.toList with
        | none => rfl
        | some j =>
            have hlt := Check.lt_length_of_firstFailure? hfirst
            have hle := hstill j hfirst
            rw [Array.length_toList] at hlt
            omega
      · rw [if_neg hlast]
        exact .running (by omega) hstill

/-- What one step makes of where the self-test stands. -/
theorem Stands.advance (h : Stands checks n t) : Stands checks (n + 1) t.advance := by
  cases h with
  | running hnext hpassed =>
      have hnext' : n < checks.toList.length := hnext
      have hc : checks.toList[n]? = some checks.toList[n] := List.getElem?_eq_getElem hnext'
      have hc' : checks[n]? = some checks.toList[n] := by rw [← Array.getElem?_toList, hc]
      unfold SelfTest.advance
      dsimp only
      rw [hc']
      exact .runCheck hc hpassed
  | finished hpassed hall => exact .finished hpassed (Nat.le_succ_of_le hall)
  | @halted j alu hfails hreached =>
      have hspins : n - j - 1 + 1 = n + 1 - j - 1 := by omega
      unfold SelfTest.advance
      dsimp only
      rw [hspins]
      exact .halted hfails (Nat.lt_succ_of_lt hreached)

/-- Whatever came before the self-test started over, after `n` steps it stands where
`n` steps lead. -/
theorem stands_iterate (t : SelfTest) (n : Nat) :
    Stands t.checks n (SelfTest.advance^[n] t.reset) := by
  induction n with
  | zero => exact stands_reset t
  | succ n ih =>
      rw [Function.iterate_succ_apply']
      exact ih.advance

/-! ## The closed form -/

/-- What can be seen of a self-test of these checks after `n` steps. -/
structure ClosedForm (checks : List Check) (n : Nat) (t : SelfTest) : Prop where
  /-- after the step in which a check failed there are only spins -/
  halted : ∀ j, firstFailure? checks = some j → j < n →
    t.status = .halted j ∧ t.passed = j ∧ t.errorSpins = n - j - 1 ∧
      ∃ c, checks[j]? = some c ∧ t.failedCheck = some c
  finished : firstFailure? checks = none → checks.length ≤ n →
    t.status = .finished ∧ t.passed = checks.length ∧ t.errorSpins = 0 ∧ t.failedCheck = none
  running : (∀ j, firstFailure? checks = some j → n ≤ j) →
    (firstFailure? checks = none → n < checks.length) →
    t.status = .running ∧ t.passed = n ∧ t.errorSpins = 0 ∧ t.failedCheck = none
  /-- a check that is to be run is there -/
  inRange : t.status = .running → t.next < t.checks.size
  checks_eq : t.checks.toList = checks

theorem Stands.closedForm (h : Stands checks n t) : ClosedForm checks.toList n t := by
  have hlength : checks.toList.length = checks.size := Array.length_toList
  cases h with
  | running hnext hpassed =>
      refine ⟨?_, ?_, fun _ _ => ⟨rfl, rfl, rfl, rfl⟩, fun _ => hnext, rfl⟩
      · intro j hfails hreached
        have := hpassed j hfails
        omega
      · intro _ hall
        omega
  | finished hpassed hall =>
      refine ⟨?_, fun _ _ => ⟨rfl, hlength.symm, rfl, rfl⟩, ?_, nofun, rfl⟩
      · intro j hfails
        rw [hpassed] at hfails
        cases hfails
      · intro _ hbelow
        have := hbelow hpassed
        omega
  | @halted j alu hfails hreached =>
      refine ⟨?_, ?_, ?_, nofun, rfl⟩
      · intro j' hfails' _
        rw [hfails] at hfails'
        cases hfails'
        have hc := List.getElem?_eq_getElem (Check.lt_length_of_firstFailure? hfails)
        refine ⟨rfl, rfl, rfl, _, hc, ?_⟩
        rw [Array.getElem?_toList] at hc
        exact hc
      · intro hnone
        rw [hfails] at hnone
        cases hnone
      · intro hearlier _
        have := hearlier j hfails
        omega

/-! ## The self-test on a machine -/

variable {δ : Type}

/-- A machine with the self-test on it. -/
def onMachine (t : SelfTest) (bus : Bus δ) (told : List TraceEvent) (steps : Nat) :
    Machine SelfTest δ := ⟨firmware, ⟨t, bus, told⟩, steps⟩

theorem run_step (t : SelfTest) (bus : Bus δ) (told : List TraceEvent) (steps : Nat) :
    ∃ told', Act.run Machine.step (t.onMachine bus told steps) =
      some (.ok (), t.advance.onMachine bus told' (steps + 1)) := ⟨_, rfl⟩

/-- Steps change the self-test and nothing of the bus. -/
theorem run_stepMany (t : SelfTest) (bus : Bus δ) (told : List TraceEvent) (steps n : Nat) :
    ∃ told', Act.run (Machine.stepMany n) (t.onMachine bus told steps) =
      some (.ok (), (SelfTest.advance^[n] t).onMachine bus told' (steps + n)) := by
  induction n generalizing t told steps with
  | zero => exact ⟨told, rfl⟩
  | succ n ih =>
      obtain ⟨told₁, hstep⟩ := run_step t bus told steps
      obtain ⟨told₂, hrest⟩ := ih t.advance told₁ (steps + 1)
      refine ⟨told₂, ?_⟩
      rw [Machine.run_stepMany_succ_of_ok hstep, hrest, Function.iterate_succ_apply,
        Nat.add_right_comm]
      rfl

/-- Why and after how many steps a run of these checks ends, with so many steps at
most. -/
inductive Ends (checks : List Check) (max : Nat) : StopReason → Nat → Prop where
  | halted {j : Nat} (hfails : firstFailure? checks = some j) (hreached : j < max) :
      Ends checks max .errorHalt (j + 1)
  | finished (hpassed : firstFailure? checks = none) (hall : checks.length ≤ max) :
      Ends checks max .finished checks.length
  | limited (hearlier : ∀ j, firstFailure? checks = some j → max ≤ j)
      (hbelow : firstFailure? checks = none → max < checks.length) :
      Ends checks max .maxSteps max

section Run

variable {t : SelfTest} {bus : Bus δ} {clock : Nat → Nat} {max k : Nat} {reason : StopReason}

theorem not_stopsFor_of_running {m : Machine SelfTest δ} {executed elapsed : Nat}
    (hstatus : m.status = .running) (hbelow : executed < max) (other : StopReason) :
    ¬ m.StopsFor (Machine.stepLimit max) executed elapsed other := by
  intro hstops
  cases hstops with
  | finished h =>
      rw [hstatus] at h
      cases h
  | halted h =>
      rw [hstatus] at h
      cases h
  | maxSteps h hmax hreached =>
      cases hmax
      omega
  | wallTime h hbelow hwall hreached => cases hwall

/-- A self-test that runs up to a count and has to stop there has a run of that many
steps. -/
theorem exists_run_of_stopsFor
    (hruns : ∀ i < k, (SelfTest.advance^[i] t.reset).status = .running ∧ i < max)
    (hstops : ∀ told steps, Machine.StopsFor
      ((SelfTest.advance^[k] t.reset).onMachine bus told steps) (Machine.stepLimit max) k (clock k)
      reason) :
    ∃ m', (t.reset.onMachine bus [] 0).run (Machine.stepLimit max) clock = some (reason, m') ∧
      m'.steps = k ∧ m'.bus = bus := by
  obtain ⟨told, hsteps⟩ := run_stepMany t.reset bus [.started] 0 k
  have hends : Machine.EndsAfter (Machine.stepLimit max) clock 0
      ((t.reset.onMachine bus [] 0).tell .started) k reason
      ((SelfTest.advance^[k] t.reset).onMachine bus told (0 + k)) := by
    refine ⟨fun i hi => ?_, .inl ⟨hsteps, ?_⟩⟩
    · obtain ⟨told₁, hearlier⟩ := run_stepMany t.reset bus [.started] 0 i
      obtain ⟨hstatus, hbelow⟩ := hruns i hi
      refine ⟨_, hearlier, ?_⟩
      rw [Nat.zero_add]
      exact not_stopsFor_of_running hstatus hbelow
    · rw [Nat.zero_add]
      exact hstops told _
  refine ⟨_, Machine.run_eq_some_iff.mpr ⟨k, _, hends, rfl⟩, ?_, rfl⟩
  exact Nat.zero_add k

/-- A limited run of a self-test ends as its first failure says. -/
theorem exists_run (t : SelfTest) (bus : Bus δ) (clock : Nat → Nat) (max : Nat) :
    ∃ reason m',
      (t.reset.onMachine bus [] 0).run (Machine.stepLimit max) clock = some (reason, m') ∧
      Ends t.checks.toList max reason m'.steps ∧ m'.bus = bus := by
  have hform (n : Nat) := (stands_iterate t n).closedForm
  have hrunning (i : Nat) (hearlier : ∀ j, firstFailure? t.checks.toList = some j → i ≤ j)
      (hbelow : firstFailure? t.checks.toList = none → i < t.checks.toList.length) :
      (SelfTest.advance^[i] t.reset).status = .running := ((hform i).running hearlier hbelow).1
  by_cases hgoesOn : (∀ j, firstFailure? t.checks.toList = some j → max ≤ j) ∧
      (firstFailure? t.checks.toList = none → max < t.checks.toList.length)
  · obtain ⟨hearlier, hbelow⟩ := hgoesOn
    obtain ⟨m', hrun, hsteps, hbus⟩ : ∃ m', (t.reset.onMachine bus [] 0).run
        (Machine.stepLimit max) clock = some (.maxSteps, m') ∧ m'.steps = max ∧ m'.bus = bus := by
      refine exists_run_of_stopsFor (fun i hi => ⟨hrunning i ?_ ?_, hi⟩) fun told steps => ?_
      · exact fun j hj => Nat.le_trans (Nat.le_of_lt hi) (hearlier j hj)
      · exact fun hnone => Nat.lt_trans hi (hbelow hnone)
      · exact .maxSteps (hrunning max hearlier hbelow) rfl (Nat.le_refl max)
    refine ⟨_, m', hrun, ?_, hbus⟩
    rw [hsteps]
    exact .limited hearlier hbelow
  · cases hfirst : firstFailure? t.checks.toList with
    | some j =>
        have hreached : j < max := by
          rw [hfirst] at hgoesOn
          simpa using hgoesOn
        obtain ⟨m', hrun, hsteps, hbus⟩ : ∃ m', (t.reset.onMachine bus [] 0).run
            (Machine.stepLimit max) clock = some (.errorHalt, m') ∧ m'.steps = j + 1 ∧
              m'.bus = bus := by
          refine exists_run_of_stopsFor (fun i hi => ⟨hrunning i ?_ ?_, by omega⟩)
            fun told steps => ?_
          · rw [hfirst]
            rintro _ ⟨⟩
            exact Nat.le_of_lt_succ hi
          · rw [hfirst]
            exact nofun
          · exact .halted ((hform (j + 1)).halted j hfirst (Nat.lt_succ_self j)).1
        refine ⟨_, m', hrun, ?_, hbus⟩
        rw [hsteps]
        exact .halted hfirst hreached
    | none =>
        have hall : t.checks.toList.length ≤ max := by
          rw [hfirst] at hgoesOn
          simpa using hgoesOn
        obtain ⟨m', hrun, hsteps, hbus⟩ : ∃ m', (t.reset.onMachine bus [] 0).run
            (Machine.stepLimit max) clock = some (.finished, m') ∧
              m'.steps = t.checks.toList.length ∧ m'.bus = bus := by
          refine exists_run_of_stopsFor (fun i hi => ⟨hrunning i ?_ fun _ => hi, by omega⟩)
            fun told steps => ?_
          · rw [hfirst]
            exact nofun
          · exact .finished ((hform _).finished hfirst (Nat.le_refl _)).1
        refine ⟨_, m', hrun, ?_, hbus⟩
        rw [hsteps]
        exact .finished hfirst hall

end Run

end SelfTest

/-- Whatever a self-test and its machine have done before they start over, after any
number of steps the self-test stands where its first failure says, on whatever bus,
which is left as it was; and a limited run of a fresh machine ends accordingly. -/
theorem self_test_stops_at_its_first_failure {δ : Type} (t : SelfTest) :
    (∀ n, ∃ t' : SelfTest, t'.ClosedForm t.checks.toList n ∧
      ∀ (bus : Bus δ) told steps, ∃ told',
        Act.run (Machine.stepMany n) (t.onMachine bus told steps).reset =
          some (.ok (), t'.onMachine bus told' n)) ∧
    ∀ (bus : Bus δ) clock max, ∃ m reason m',
      Machine.new SelfTest.firmware t bus = .ok m ∧
      m.run (Machine.stepLimit max) clock = some (reason, m') ∧
      SelfTest.Ends t.checks.toList max reason m'.steps ∧ m'.bus = bus := by
  constructor
  · intro n
    refine ⟨_, (SelfTest.stands_iterate t n).closedForm, fun bus told steps => ?_⟩
    obtain ⟨told', hrun⟩ := SelfTest.run_stepMany t.reset bus told 0 n
    rw [Nat.zero_add] at hrun
    exact ⟨told', hrun⟩
  · intro bus clock max
    obtain ⟨reason, m', hrun, hends, hbus⟩ := SelfTest.exists_run t bus clock max
    exact ⟨_, reason, m', rfl, hrun, hends, hbus⟩

/-- The checks of the arithmetic all pass. -/
example : Check.firstFailure? Check.arithmetic = none := by decide

end PolledTerminal
