import Mathlib.Algebra.GroupWithZero.Nat
import Mathlib.Data.Nat.Find
import PolledTerminal.Port
import PolledTerminal.Proofs.Action
set_option autoImplicit false

/-!
# Waiting for a device

Writing a character polls an output device until it gives an answer other than busy, and
that answer decides: a device that is ready is written to once, and a failure is passed
on.  This holds of every device, which may answer and change as it likes; what is done to
it is noted down use by use.
-/

namespace PolledTerminal

/-! ## Uses of a device -/

/-- One use of an output device, with its answer. -/
inductive OutputUse where
  | poll (answer : Except Fault Bool)
  | write (value : UInt8) (answer : Except Fault Unit)

namespace OutputUse

/-- The busy flag was looked at. -/
def isPoll : OutputUse → Bool
  | .poll _ => true
  | .write _ _ => false

/-- A poll that found the device busy. -/
def busy : OutputUse := .poll (.ok true)

end OutputUse

/-- The uses of a wait that finds the device busy so many times and then gets this
answer. -/
def pollsUntil (n : Nat) (answer : Except Fault Bool) : List OutputUse :=
  List.replicate n .busy ++ [.poll answer]

/-- No write comes directly after a busy answer, and there is at most one. -/
structure WritesWhenReady (uses : List OutputUse) : Prop where
  notAfterBusy : ∀ before after value answer,
    uses ≠ before ++ .busy :: .write value answer :: after
  atMostOnce : uses.countP (fun use => !use.isPoll) ≤ 1

/-- The action, with a note of its answer behind the notes so far. -/
def Act.noting {σ ν α : Type} (note : Except Fault α → ν) (a : Act σ α) :
    Act (σ × List ν) α := fun s =>
  (Act.run a s.1).map fun r => (r.1, r.2, s.2 ++ [note r.1])

theorem Act.run_noting {σ ν α : Type} (note : Except Fault α → ν) (a : Act σ α) (s : σ)
    (notes : List ν) :
    Act.run (a.noting note) (s, notes) =
      (Act.run a s).map fun r => (r.1, r.2, notes ++ [note r.1]) := rfl

namespace OutputDevice

variable {σ : Type} (device : OutputDevice σ)

/-- The device, with a note of every use. -/
def noted : OutputDevice (σ × List OutputUse) where
  isBusy := device.isBusy.noting .poll
  write value := (device.write value).noting (.write value)

/-- Polled over and over from a state, the device is busy so many times and then gives
another answer, which leaves it in the last state. -/
inductive AnswersAfter : σ → Nat → Except Fault Bool → σ → Prop
  | other {s s' : σ} {answer : Except Fault Bool}
      (hpoll : Act.run device.isBusy s = some (answer, s')) (hother : answer ≠ .ok true) :
      AnswersAfter s 0 answer s'
  | busy {s s' s'' : σ} {n : Nat} {answer : Except Fault Bool}
      (hpoll : Act.run device.isBusy s = some (.ok true, s'))
      (hrest : AnswersAfter s' n answer s'') : AnswersAfter s (n + 1) answer s''

namespace AnswersAfter

variable {device} {s s' : σ} {n : Nat} {answer : Except Fault Bool}

/-- The states that a device goes through while it is polled. -/
theorem of_states (state : Nat → σ)
    (hbusy : ∀ k < n, Act.run device.isBusy (state k) = some (.ok true, state (k + 1)))
    (hpoll : Act.run device.isBusy (state n) = some (answer, state (n + 1)))
    (hother : answer ≠ .ok true) : device.AnswersAfter (state 0) n answer (state (n + 1)) := by
  induction n generalizing state with
  | zero => exact .other hpoll hother
  | succ n ih =>
      exact .busy (hbusy 0 (Nat.zero_lt_succ n))
        (ih (fun k => state (k + 1)) (fun k hk => hbusy (k + 1) (Nat.succ_lt_succ hk)) hpoll)

/-- The answer that decides is ready or a failure. -/
theorem answer_cases (h : device.AnswersAfter s n answer s') :
    answer = .ok false ∨ ∃ why, answer = .error why := by
  induction h with
  | busy _ _ ih => exact ih
  | @other _ _ answer _ hother =>
      rcases answer with why | ⟨⟩ | ⟨⟩
      · exact .inr ⟨why, rfl⟩
      · exact .inl rfl
      · exact absurd rfl hother

/-- The device that is found ready is written to, and the busy polls are counted as far
as they can be counted. -/
theorem run_of_ready (h : device.AnswersAfter s n (.ok false) s') (value : UInt8)
    {patience spins : Nat} (hpatience : n < patience) (hspins : spins ≤ maxSpins) :
    Act.run (device.writeWhenReady value patience spins) s =
      Act.run (do device.write value; return min (spins + n) maxSpins) s' := by
  generalize hanswer : (.ok false : Except Fault Bool) = answer at h
  induction h generalizing patience spins with
  | other hpoll =>
      subst hanswer
      obtain ⟨patience, rfl⟩ := Nat.exists_eq_add_one.mpr hpatience
      rw [writeWhenReady, Act.run_bind_of_ok hpoll, if_neg Bool.false_ne_true, Nat.add_zero,
        Nat.min_eq_left hspins]
  | @busy _ _ _ n _ hpoll _ ih =>
      obtain ⟨patience, rfl⟩ := Nat.exists_eq_add_one.mpr (Nat.zero_lt_of_lt hpatience)
      have hcount : min (min (spins + 1) maxSpins + n) maxSpins =
          min (spins + (n + 1)) maxSpins := by omega
      rw [writeWhenReady, Act.run_bind_of_ok hpoll, if_pos rfl,
        ih (Nat.lt_of_succ_lt_succ hpatience) (Nat.min_le_right _ _) hanswer, hcount]

/-- The failure of a poll is passed on, and nothing is written. -/
theorem run_of_error {why : Fault} (h : device.AnswersAfter s n (.error why) s') (value : UInt8)
    {patience : Nat} (hpatience : n < patience) (spins : Nat) :
    Act.run (device.writeWhenReady value patience spins) s = some (.error why, s') := by
  generalize hanswer : (.error why : Except Fault Bool) = answer at h
  induction h generalizing patience spins with
  | other hpoll =>
      subst hanswer
      obtain ⟨patience, rfl⟩ := Nat.exists_eq_add_one.mpr hpatience
      rw [writeWhenReady, Act.run_bind_of_error hpoll]
  | busy hpoll _ ih =>
      obtain ⟨patience, rfl⟩ := Nat.exists_eq_add_one.mpr (Nat.zero_lt_of_lt hpatience)
      rw [writeWhenReady, Act.run_bind_of_ok hpoll, if_pos rfl]
      exact ih (Nat.lt_of_succ_lt_succ hpatience) _ hanswer

/-- Who gives up before the other answer comes waits for ever. -/
theorem run_of_impatient (h : device.AnswersAfter s n answer s') (value : UInt8)
    {patience : Nat} (hpatience : patience ≤ n) (spins : Nat) :
    Act.run (device.writeWhenReady value patience spins) s = none := by
  induction h generalizing patience spins with
  | other =>
      rw [Nat.le_zero.mp hpatience]
      rfl
  | busy hpoll _ ih =>
      cases patience with
      | zero => rfl
      | succ patience =>
          rw [writeWhenReady, Act.run_bind_of_ok hpoll, if_pos rfl]
          exact ih (Nat.le_of_succ_le_succ hpatience) _

/-- The notes of the polls. -/
theorem noted (h : device.AnswersAfter s n answer s') (notes : List OutputUse) :
    device.noted.AnswersAfter (s, notes) n answer (s', notes ++ pollsUntil n answer) := by
  induction h generalizing notes with
  | other hpoll hother =>
      refine .other ?_ hother
      rw [OutputDevice.noted, Act.run_noting, hpoll]
      rfl
  | @busy s₀ s₁ _ n answer hpoll _ ih =>
      have hbusy : Act.run device.noted.isBusy (s₀, notes) =
          some (.ok true, s₁, notes ++ [.busy]) := by
        rw [OutputDevice.noted, Act.run_noting, hpoll]
        rfl
      have hrest := ih (notes ++ [.busy])
      rw [List.append_assoc] at hrest
      exact .busy hbusy hrest

end AnswersAfter

/-! ## Notes -/

/-- Notes change nothing about a wait. -/
theorem run_writeWhenReady_noted (value : UInt8) (patience spins : Nat) (s : σ)
    (notes : List OutputUse) :
    Act.run (device.writeWhenReady value patience spins) s =
      (Act.run (device.noted.writeWhenReady value patience spins) (s, notes)).map
        fun r => (r.1, r.2.1) := by
  induction patience generalizing spins s notes with
  | zero => rfl
  | succ patience ih =>
      rw [writeWhenReady, writeWhenReady, Act.run_bind, Act.run_bind, noted, Act.run_noting]
      rcases Act.run device.isBusy s with _ | ⟨⟨why⟩ | ⟨isBusy⟩, s₁⟩
      · rfl
      · rfl
      · cases isBusy with
        | true => exact ih _ s₁ _
        | false =>
            dsimp only [Option.map_some]
            rw [if_neg Bool.false_ne_true, if_neg Bool.false_ne_true, Act.run_bind, Act.run_bind,
              Act.run_noting]
            rcases Act.run (device.write value) s₁ with _ | ⟨⟨why⟩ | ⟨⟨⟩⟩, s₂⟩ <;> rfl

variable {device} {s s' : σ} {n : Nat} {answer : Except Fault Bool}

/-- What is noted of a wait for a ready device: the polls, and the write behind them. -/
theorem AnswersAfter.run_noted_of_ready (h : device.AnswersAfter s n (.ok false) s')
    (value : UInt8) {patience : Nat} (hpatience : n < patience) :
    Act.run (device.noted.writeCharacter patience value) (s, []) =
      (Act.run (device.write value) s').map fun r => (r.1.map fun _ => min n maxSpins, r.2,
        pollsUntil n (.ok false) ++ [.write value r.1]) := by
  rw [writeCharacter, (h.noted []).run_of_ready value hpatience (Nat.zero_le _), Nat.zero_add,
    List.nil_append, Act.run_bind, OutputDevice.noted, Act.run_noting]
  rcases Act.run (device.write value) s' with _ | ⟨⟨why⟩ | ⟨⟨⟩⟩, s''⟩ <;> rfl

/-- What is noted of a wait that ends with the failure of a poll: the polls alone. -/
theorem AnswersAfter.run_noted_of_error {why : Fault}
    (h : device.AnswersAfter s n (.error why) s') (value : UInt8) {patience : Nat}
    (hpatience : n < patience) :
    Act.run (device.noted.writeCharacter patience value) (s, []) =
      some (.error why, s', pollsUntil n (.error why)) :=
  (h.noted []).run_of_error value hpatience 0

end OutputDevice

/-! ### What is in the notes -/

theorem countP_isPoll_pollsUntil (n : Nat) (answer : Except Fault Bool) :
    (pollsUntil n answer).countP OutputUse.isPoll = n + 1 := by
  rw [pollsUntil, List.countP_append, List.countP_replicate]
  rfl

theorem isPoll_of_mem_pollsUntil {n : Nat} {answer : Except Fault Bool} {use : OutputUse}
    (h : use ∈ pollsUntil n answer) : use.isPoll = true := by
  rcases List.mem_append.mp h with h | h
  · rw [List.eq_of_mem_replicate h]
    rfl
  · rw [List.mem_singleton.mp h]
    rfl

/-- There is no write among the polls. -/
theorem writesWhenReady_pollsUntil (n : Nat) (answer : Except Fault Bool) :
    WritesWhenReady (pollsUntil n answer) where
  notAfterBusy before after value written heq := by
    have hmem : OutputUse.write value written ∈ pollsUntil n answer := by simp [heq]
    cases isPoll_of_mem_pollsUntil hmem
  atMostOnce := by
    rw [List.countP_eq_zero.mpr fun use huse => by simp [isPoll_of_mem_pollsUntil huse]]
    exact Nat.zero_le 1

/-- The one write comes after the answer that the device is ready. -/
theorem writesWhenReady_concat (n : Nat) (value : UInt8) (outcome : Except Fault Unit) :
    WritesWhenReady (pollsUntil n (.ok false) ++ [.write value outcome]) where
  notAfterBusy before after value' written heq := by
    -- A write that is not the last use stands among the polls; the last one has the
    -- deciding answer in front of it.
    rcases List.eq_nil_or_concat after with rfl | ⟨after, last, rfl⟩
    · have hsame : pollsUntil n (.ok false) ++ [.write value outcome] =
          (before ++ [.busy]) ++ [.write value' written] := by simpa using heq
      obtain ⟨hpolls, -⟩ := List.append_inj' hsame rfl
      obtain ⟨-, hlast⟩ := List.append_inj' hpolls rfl
      simp [OutputUse.busy] at hlast
    · have hsame : pollsUntil n (.ok false) ++ [.write value outcome] =
          (before ++ .busy :: .write value' written :: after) ++ [last] := by simpa using heq
      obtain ⟨hpolls, -⟩ := List.append_inj' hsame rfl
      exact (writesWhenReady_pollsUntil n (.ok false)).notAfterBusy _ _ _ _ hpolls
  atMostOnce := by
    rw [List.countP_append, List.countP_eq_zero.mpr fun use huse => by
      simp [isPoll_of_mem_pollsUntil huse], Nat.zero_add]
    exact List.countP_le_length

/-- The first answer other than busy, and how often the device is busy before. -/
theorem OutputDevice.exists_answersAfter {σ : Type} {device : OutputDevice σ} {state : Nat → σ}
    {answers : Nat → Except Fault Bool}
    (hpolls : ∀ k, Act.run device.isBusy (state k) = some (answers k, state (k + 1)))
    (hother : ∃ k, answers k ≠ .ok true) :
    ∃ n, (∀ k < n, answers k = .ok true) ∧ answers n ≠ .ok true ∧
      device.AnswersAfter (state 0) n (answers n) (state (n + 1)) := by
  classical
  have hbusy (k : Nat) (hk : k < Nat.find hother) : answers k = .ok true :=
    of_not_not (Nat.find_min hother hk)
  exact ⟨Nat.find hother, hbusy, Nat.find_spec hother,
    .of_states state (fun k hk => hbusy k hk ▸ hpolls k) (hpolls _) (Nat.find_spec hother)⟩

/-- Writing a character to a device that gives these answers one after the other, of which
some answer is not busy.  It takes one poll more than there are busy answers before that
one.  If the device is ready it is written to once, right then, and what comes of it is the
number of busy answers, as far as it can be counted, or the fault of the write; if the
poll has failed its fault is passed on, and nothing is written.  No write follows a busy
answer, and there are never two.  All this takes is more patience than there are busy
answers; with less the action does not end. -/
theorem waits_then_writes_once {σ : Type} (device : OutputDevice σ) (value : UInt8)
    (state : Nat → σ) (answers : Nat → Except Fault Bool)
    (hpolls : ∀ k, Act.run device.isBusy (state k) = some (answers k, state (k + 1)))
    (hother : ∃ k, answers k ≠ .ok true) :
    ∃ n, (∀ k < n, answers k = .ok true) ∧ answers n ≠ .ok true ∧
      (∀ patience, n < patience → answers n = .ok false →
        Act.run (device.noted.writeCharacter patience value) (state 0, []) =
          (Act.run (device.write value) (state (n + 1))).map fun r =>
            (r.1.map fun _ => min n (2 ^ 32 - 1), r.2,
              pollsUntil n (.ok false) ++ [.write value r.1])) ∧
      (∀ patience, n < patience → ∀ why, answers n = .error why →
        Act.run (device.noted.writeCharacter patience value) (state 0, []) =
          some (.error why, state (n + 1), pollsUntil n (.error why))) ∧
      (∀ patience result s uses,
        Act.run (device.noted.writeCharacter patience value) (state 0, []) =
          some (result, s, uses) →
        uses.countP OutputUse.isPoll = n + 1 ∧ WritesWhenReady uses) ∧
      (∀ patience, patience ≤ n →
        Act.run (device.noted.writeCharacter patience value) (state 0, []) = none) ∧
      ∀ patience, Act.run (device.writeCharacter patience value) (state 0) =
        (Act.run (device.noted.writeCharacter patience value) (state 0, [])).map
          fun r => (r.1, r.2.1) := by
  obtain ⟨n, hbusy, hdecides, h⟩ := OutputDevice.exists_answersAfter hpolls hother
  have himpatient (patience : Nat) (hle : patience ≤ n) :
      Act.run (device.noted.writeCharacter patience value) (state 0, []) = none :=
    (h.noted []).run_of_impatient value hle 0
  refine ⟨n, hbusy, hdecides, ?_, ?_, ?_, himpatient,
    fun patience => device.run_writeWhenReady_noted value patience 0 (state 0) []⟩
  · intro patience hpatience hready
    rw [hready] at h
    exact h.run_noted_of_ready value hpatience
  · intro patience hpatience why hfails
    rw [hfails] at h
    exact h.run_noted_of_error value hpatience
  · intro patience result s uses hrun
    have hpatience : n < patience := Nat.lt_of_not_le fun hle => by
      rw [himpatient patience hle] at hrun
      cases hrun
    rcases h.answer_cases with hready | ⟨why, hfails⟩
    · rw [hready] at h
      rw [h.run_noted_of_ready value hpatience] at hrun
      obtain ⟨r, -, heq⟩ := Option.map_eq_some_iff.mp hrun
      cases heq
      refine ⟨?_, writesWhenReady_concat n value r.1⟩
      rw [List.countP_append, countP_isPoll_pollsUntil]
      rfl
    · rw [hfails] at h
      rw [h.run_noted_of_error value hpatience] at hrun
      cases hrun
      exact ⟨countP_isPoll_pollsUntil n _, writesWhenReady_pollsUntil n _⟩

/-- The device that gives these answers one after the other; its state counts the polls. -/
def OutputDevice.scripted (answers : Nat → Except Fault Bool)
    (outcome : UInt8 → Except Fault Unit) : OutputDevice Nat where
  isBusy := .ofStep fun polls => (answers polls, polls + 1)
  write value := .ofStep fun polls => (outcome value, polls)

/-- A device that is busy a little longer than can be counted. -/
def busyPastCount : OutputDevice Nat :=
  .scripted (fun k => .ok (decide (k < 2 ^ 32 + 5))) fun _ => .ok ()

/-- A device whose third poll fails. -/
def failsThirdPoll : OutputDevice Nat :=
  .scripted (fun k => if k < 2 then .ok true else .error (.unmapped 0xAB)) fun _ => .ok ()

/-- The count stops where it can go no further, and the character is written all the same;
behind a poll that fails nothing is written. -/
theorem waits_then_writes_once_past_count :
    Act.run (busyPastCount.writeCharacter (2 ^ 32 + 6) 0x41) 0 =
      some (.ok (2 ^ 32 - 1), 2 ^ 32 + 6) ∧
    Act.run (failsThirdPoll.noted.writeCharacter 3 0x41) (0, []) =
      some (.error (.unmapped 0xAB), 3,
        [.poll (.ok true), .poll (.ok true), .poll (.error (.unmapped 0xAB))]) := by
  constructor
  · obtain ⟨n, hbusy, hdecides, hready, -, -, -, hplain⟩ :=
      waits_then_writes_once busyPastCount 0x41 id (fun k => .ok (decide (k < 2 ^ 32 + 5)))
        (fun _ => rfl) ⟨2 ^ 32 + 5, by simp⟩
    have hle : 2 ^ 32 + 5 ≤ n :=
      Nat.le_of_not_lt fun hlt => hdecides (congrArg Except.ok (decide_eq_true hlt))
    have hge : n ≤ 2 ^ 32 + 5 := Nat.le_of_not_lt fun hlt => by simpa using hbusy _ hlt
    obtain rfl : n = 2 ^ 32 + 5 := Nat.le_antisymm hge hle
    refine (hplain _).trans ?_
    rw [hready _ (Nat.lt_add_one _) (by simp), Option.map_map]
    rfl
  · obtain ⟨n, hbusy, hdecides, -, hfails, -⟩ :=
      waits_then_writes_once failsThirdPoll 0x41 id
        (fun k => if k < 2 then .ok true else .error (.unmapped 0xAB)) (fun _ => rfl)
        ⟨2, by simp⟩
    have hle : 2 ≤ n := Nat.le_of_not_lt fun hlt => hdecides (if_pos hlt)
    have hge : n ≤ 2 := Nat.le_of_not_lt fun hlt => by simpa using hbusy _ hlt
    obtain rfl : n = 2 := Nat.le_antisymm hge hle
    exact hfails 3 (Nat.lt_add_one 2) _ rfl

end PolledTerminal
