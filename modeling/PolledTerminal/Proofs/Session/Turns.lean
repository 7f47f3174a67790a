import PolledTerminal.Session
import PolledTerminal.Proofs.Keyboard
import PolledTerminal.Proofs.Terminal.Refinement
set_option autoImplicit false

/-!
# Turns of a session

Whatever order the feeder and the loop take turns in, the keys fed so far and
those still to come are what was typed, and the loop only leaves when it may.
-/

namespace PolledTerminal

open PolledTerminal.Text (Bytes)

/-! ## Keys -/

/-- The keys still to be fed. -/
def Feeder.keysLeft (f : Feeder) : Bytes := (keysAfter f.previous f.rest).filter (· ≠ 0)

/-- The keys that typed bytes amount to; a zero is not a key. -/
def keysOf (typed : Bytes) : Bytes := (Feeder.keysAfter 0 typed).filter (· ≠ 0)

theorem Feeder.turn_of_nil {f : Feeder} (h : f.rest = []) (k : Keyboard) :
    f.turn k = ({ f with closed := true }, k.close) := by
  simp only [turn, h]

/-- A turn takes a byte and types its key, if it has one. -/
theorem Feeder.turn_of_cons {f : Feeder} {b : UInt8} {rest : Bytes} (h : f.rest = b :: rest)
    (k : Keyboard) :
    (f.turn k).1 = { f with rest := rest, previous := b } ∧
      (f.turn k).2.toList = k.toList ++ (keyAfter f.previous b).toList.filter (· ≠ 0) ∧
      (f.turn k).2.closed = k.closed := by
  simp only [turn, h, true_and]
  cases keyAfter f.previous b with
  | none => exact ⟨(List.append_nil _).symm, rfl⟩
  | some key =>
      refine ⟨?_, ?_⟩
      · rw [Keyboard.toList_push]
        by_cases hkey : key = 0 <;> simp [hkey]
      · exact k.closed_push key

/-- What a turn of the feeder that takes a byte adds to the keyboard. -/
theorem Feeder.keysLeft_cons {f : Feeder} {b : UInt8} {rest : Bytes} (h : f.rest = b :: rest) :
    f.keysLeft = (keyAfter f.previous b).toList.filter (· ≠ 0) ++
      ({ f with rest := rest, previous := b } : Feeder).keysLeft := by
  rw [keysLeft, h, keysAfter, List.filter_append, keysLeft]

namespace Session

variable {δ : Type} [TerminalPeripheral δ]

/-- A session that begins: all of the input is still to be fed. -/
def opening (start : Machine Terminal δ) (typed : Bytes) : Session δ where
  machine := start
  feeder := { rest := typed }

/-- The keyboard that the parties share is the one of the history. -/
theorem keyboard_of_history {start : Machine Terminal δ} {d₀ d : Display} {keys acted : Bytes}
    {s : Session δ} {k : Keyboard} (h : History start d₀ keys s.machine acted d k) :
    s.keyboard = k := by
  have hkeyboard : s.machine.bus.keyboard? = some k := h.ready.wired.keyboard
  rw [Session.keyboard, hkeyboard]
  rfl

theorem isIdle_of_history {start : Machine Terminal δ} {d₀ d : Display} {keys acted : Bytes}
    {s : Session δ} {k : Keyboard} (h : History start d₀ keys s.machine acted d k) :
    s.isIdle = true ↔ k.toList = [] ∧ s.machine.program.last = 0 := by
  rw [isIdle, keyboard_of_history h, Bool.and_eq_true, beq_iff_eq, beq_iff_eq, ← k.length_toList,
    List.length_eq_zero_iff]

/-- What every turn keeps, without getting stuck, holds at the end of any schedule. -/
theorem exists_follow {maxSteps : Option Nat} {P : Session δ → Prop}
    (hturn : ∀ {s p}, P s → ∃ s', s.turn maxSteps p = some s' ∧ P s') {s : Session δ} (h : P s)
    (schedule : List Party) : ∃ s', Session.follow maxSteps schedule s = some s' ∧ P s' := by
  induction schedule generalizing s with
  | nil => exact ⟨s, rfl, h⟩
  | cons p ps ih =>
      obtain ⟨s₁, hstep, h₁⟩ := hturn (p := p) h
      obtain ⟨s', hfollow, h'⟩ := ih h₁
      refine ⟨s', ?_, h'⟩
      rw [Session.follow, hstep]
      exact hfollow

/-! ## The invariant -/

/-- The keys fed so far have been acted on or wait, those left will be fed, and
the loop is where it may be. -/
structure Faithful (maxSteps : Option Nat) (start : Machine Terminal δ) (d₀ : Display)
    (typed : Bytes) (s : Session δ) (keys acted : Bytes) (d : Display) (k : Keyboard) : Prop where
  history : History start d₀ keys s.machine acted d k
  fed : keysOf typed = keys ++ s.feeder.keysLeft
  closed : k.closed = s.feeder.closed
  exhausted : s.feeder.closed = true → s.feeder.rest = []
  foundClosed : s.loop = .foundClosed → s.feeder.closed = true
  left : ∀ why, s.loop = .left why →
    why = .stepLimit ∧ maxSteps.isSome = true ∨
    why = .inputClosed ∧ s.feeder.closed = true ∧ k.toList = [] ∧ s.machine.program.last = 0
  within : ∀ limit, maxSteps = some limit → s.machine.steps ≤ limit ∧
    (s.loop = .foundClosed ∨ s.loop = .stepping → s.machine.steps < limit)

/-- What a turn of the loop does, by where the loop is and what it sees. -/
inductive LoopGoes (maxSteps : Option Nat) (start : Machine Terminal δ) (d₀ : Display)
    (s : Session δ) (keys acted : Bytes) (k : Keyboard) : Session δ → Prop where
  | stays {why : Departure} (hloop : s.loop = .left why) :
    LoopGoes maxSteps start d₀ s keys acted k s
  | meetsLimit (hloop : s.loop = .deciding) (hlimit : maxSteps.isSome = true) :
    LoopGoes maxSteps start d₀ s keys acted k { s with loop := .left .stepLimit }
  | findsClosed (hloop : s.loop = .deciding)
    (hbelow : ∀ limit, maxSteps = some limit → s.machine.steps < limit)
    (hclosed : s.feeder.closed = true) :
    LoopGoes maxSteps start d₀ s keys acted k { s with loop := .foundClosed }
  | findsOpen (hloop : s.loop = .deciding)
    (hbelow : ∀ limit, maxSteps = some limit → s.machine.steps < limit)
    (hopen : s.feeder.closed = false) :
    LoopGoes maxSteps start d₀ s keys acted k { s with loop := .stepping }
  | leaves (hloop : s.loop = .foundClosed) (hempty : k.toList = [])
    (hlast : s.machine.program.last = 0) :
    LoopGoes maxSteps start d₀ s keys acted k { s with loop := .left .inputClosed }
  | goesOn (hloop : s.loop = .foundClosed)
    (hbusy : ¬ (k.toList = [] ∧ s.machine.program.last = 0)) :
    LoopGoes maxSteps start d₀ s keys acted k { s with loop := .stepping }
  | steps (hloop : s.loop = .stepping) (m' : Machine Terminal δ) (d' : Display)
    (hsteps : m'.steps = s.machine.steps + 1) (hlast : m'.program.last = k.pop.1.getD 0)
    (hhistory : History start d₀ keys m' (acted ++ keyOf s.machine.program.last) d' k.pop.2) :
    LoopGoes maxSteps start d₀ s keys acted k { s with machine := m', loop := .deciding }

namespace Faithful

variable {maxSteps : Option Nat} {start : Machine Terminal δ} {d₀ d : Display}
  {typed keys acted : Bytes}
  {s : Session δ} {k : Keyboard}

theorem keyboard_eq (h : Faithful maxSteps start d₀ typed s keys acted d k) : s.keyboard = k :=
  keyboard_of_history h.history

theorem isIdle_iff (h : Faithful maxSteps start d₀ typed s keys acted d k) :
    s.isIdle = true ↔ k.toList = [] ∧ s.machine.program.last = 0 :=
  isIdle_of_history h.history

theorem begin (hstart : History start d₀ [] start [] d₀ k) (hsteps : start.steps = 0)
    (hclosed : k.closed = false) :
    Faithful maxSteps start d₀ typed (opening start typed) [] [] d₀ k := by
  refine ⟨hstart, rfl, hclosed, fun h => ?_, fun h => ?_, fun _ h => ?_, fun limit _ => ?_⟩
  · cases h
  · cases h
  · cases h
  · refine ⟨?_, fun h => ?_⟩
    · show start.steps ≤ limit
      omega
    · rcases h with h | h <;> cases h

/-! ## The feeder -/

variable [LawfulTerminalPeripheral δ]

/-- What the feeder types waits behind what waits already. -/
theorem typeOn (h : Faithful maxSteps start d₀ typed s keys acted d k)
    (hopen : s.feeder.closed = false) {f : Feeder} {k' : Keyboard} {more : Bytes}
    (hk : k'.toList = k.toList ++ more) (hmore : 0 ∉ more)
    (hleft : s.feeder.keysLeft = more ++ f.keysLeft) (hclosed : k'.closed = f.closed)
    (hexhausted : f.closed = true → f.rest = []) :
    Faithful maxSteps start d₀ typed
      { s with
        feeder := f
        machine := s.machine.changeBus fun bus => bus.changeKeyboard fun _ => k' }
      (keys ++ more) acted d k' := by
  refine ⟨h.history.typeKeys hk hmore, ?_, hclosed, hexhausted, ?_, ?_, h.within⟩
  · rw [h.fed, hleft, List.append_assoc]
  · intro hloop
    rw [h.foundClosed hloop] at hopen
    cases hopen
  · intro why hwhy
    rcases h.left why hwhy with hlimit | ⟨-, hfed, -⟩
    · exact .inl hlimit
    · rw [hopen] at hfed
      cases hfed

/-- A turn of the feeder. -/
theorem feederTurn (h : Faithful maxSteps start d₀ typed s keys acted d k) :
    ∃ keys' k', Faithful maxSteps start d₀ typed s.feederTurn keys' acted d k' := by
  unfold Session.feederTurn
  cases hopen : s.feeder.closed with
  | true => exact ⟨keys, k, h⟩
  | false =>
      rw [if_neg Bool.false_ne_true, h.keyboard_eq]
      cases hrest : s.feeder.rest with
      | nil =>
          rw [Feeder.turn_of_nil hrest]
          exact ⟨_, _, h.typeOn hopen (List.append_nil _).symm List.not_mem_nil rfl rfl
            fun _ => hrest⟩
      | cons b rest =>
          obtain ⟨hfeeder, htoList, hclosed⟩ := Feeder.turn_of_cons hrest k
          have hleft := Feeder.keysLeft_cons hrest
          have hmore : 0 ∉ (Feeder.keyAfter s.feeder.previous b).toList.filter (· ≠ 0) := by simp
          obtain ⟨f, k', hturn⟩ : ∃ f k', s.feeder.turn k = (f, k') := ⟨_, _, rfl⟩
          rw [hturn] at hfeeder htoList hclosed ⊢
          rw [← hfeeder] at hleft
          have hstill : f.closed = false := by
            rw [show f = _ from hfeeder]
            exact hopen
          refine ⟨_, k', h.typeOn hopen htoList hmore hleft ?_ fun hnow => ?_⟩
          · rw [hstill, ← hopen, ← h.closed]
            exact hclosed
          · rw [hstill] at hnow
            cases hnow

/-! ## The loop -/

omit [LawfulTerminalPeripheral δ] in
/-- The loop went on, to another place. -/
theorem goTo (h : Faithful maxSteps start d₀ typed s keys acted d k) {loop : LoopState}
    (hfound : loop = .foundClosed → s.feeder.closed = true)
    (hleft : ∀ why, loop = .left why →
      why = .stepLimit ∧ maxSteps.isSome = true ∨
      why = .inputClosed ∧ s.feeder.closed = true ∧ k.toList = [] ∧ s.machine.program.last = 0)
    (hwithin : ∀ limit, maxSteps = some limit →
      loop = .foundClosed ∨ loop = .stepping → s.machine.steps < limit) :
    Faithful maxSteps start d₀ typed { s with loop := loop } keys acted d k :=
  ⟨h.history, h.fed, h.closed, h.exhausted, hfound, hleft,
    fun limit hlimit => ⟨(h.within limit hlimit).1, hwithin limit hlimit⟩⟩

/-- A turn of the loop goes well. -/
theorem exists_loopGoes (h : Faithful maxSteps start d₀ typed s keys acted d k) :
    ∃ s', s.loopTurn maxSteps = some s' ∧ LoopGoes maxSteps start d₀ s keys acted k s' := by
  cases hloop : s.loop with
  | left why => exact ⟨s, by rw [Session.loopTurn, hloop], .stays hloop⟩
  | deciding =>
      rw [Session.loopTurn, hloop]
      dsimp only
      by_cases hlimit : s.atLimit maxSteps = true
      · rw [if_pos hlimit]
        refine ⟨_, rfl, .meetsLimit hloop ?_⟩
        cases maxSteps with
        | none => cases hlimit
        | some limit => rfl
      · rw [if_neg hlimit]
        have hbelow : ∀ limit, maxSteps = some limit → s.machine.steps < limit := by
          intro limit hmax
          rw [hmax] at hlimit
          simpa [atLimit] using hlimit
        cases hclosed : s.keyboard.closed with
        | true =>
            rw [if_pos rfl]
            rw [h.keyboard_eq, h.closed] at hclosed
            exact ⟨_, rfl, .findsClosed hloop hbelow hclosed⟩
        | false =>
            rw [if_neg Bool.false_ne_true]
            rw [h.keyboard_eq, h.closed] at hclosed
            exact ⟨_, rfl, .findsOpen hloop hbelow hclosed⟩
  | foundClosed =>
      rw [Session.loopTurn, hloop]
      dsimp only
      by_cases hidle : s.isIdle = true
      · rw [if_pos hidle]
        exact ⟨_, rfl, .leaves hloop (h.isIdle_iff.mp hidle).1 (h.isIdle_iff.mp hidle).2⟩
      · rw [if_neg hidle]
        exact ⟨_, rfl, .goesOn hloop fun hboth => hidle (h.isIdle_iff.mpr hboth)⟩
  | stepping =>
      obtain ⟨m', d', hrun, hsteps, hlast, hhistory⟩ := h.history.step
      rw [show Act.run Machine.step s.machine = Machine.step s.machine from rfl] at hrun
      refine ⟨_, ?_, .steps hloop m' d' hsteps hlast hhistory⟩
      rw [Session.loopTurn, hloop]
      dsimp only
      rw [hrun]

omit [LawfulTerminalPeripheral δ] in
/-- Whatever the loop does, it stays faithful. -/
theorem of_loopGoes (h : Faithful maxSteps start d₀ typed s keys acted d k) {s' : Session δ}
    (hgoes : LoopGoes maxSteps start d₀ s keys acted k s') :
    ∃ acted' d' k', Faithful maxSteps start d₀ typed s' keys acted' d' k' := by
  cases hgoes with
  | stays hloop => exact ⟨acted, d, k, h⟩
  | meetsLimit hloop hlimit =>
      refine ⟨acted, d, k, h.goTo nofun ?_ fun _ _ => nofun⟩
      intro why hwhy
      cases hwhy
      exact .inl ⟨rfl, hlimit⟩
  | findsClosed hloop hbelow hclosed =>
      exact ⟨acted, d, k, h.goTo (fun _ => hclosed) (fun _ => nofun) fun limit hmax _ =>
        hbelow limit hmax⟩
  | findsOpen hloop hbelow hopen =>
      exact ⟨acted, d, k, h.goTo nofun (fun _ => nofun) fun limit hmax _ => hbelow limit hmax⟩
  | leaves hloop hempty hlast =>
      refine ⟨acted, d, k, h.goTo nofun ?_ fun _ _ => nofun⟩
      intro why hwhy
      cases hwhy
      exact .inr ⟨rfl, h.foundClosed hloop, hempty, hlast⟩
  | goesOn hloop hbusy =>
      exact ⟨acted, d, k, h.goTo nofun (fun _ => nofun) fun limit hmax _ =>
        (h.within limit hmax).2 (.inl hloop)⟩
  | steps hloop m' d' hsteps hlast hhistory =>
      refine ⟨_, d', _, hhistory, h.fed, k.pop_eq.2.2.trans h.closed, h.exhausted, nofun, nofun,
        fun limit hmax => ⟨?_, nofun⟩⟩
      have hbelow := (h.within limit hmax).2 (.inr hloop)
      show m'.steps ≤ limit
      omega

/-! ## Schedules -/

theorem turn (h : Faithful maxSteps start d₀ typed s keys acted d k) (p : Party) :
    ∃ s' keys' acted' d' k', s.turn maxSteps p = some s' ∧
      Faithful maxSteps start d₀ typed s' keys' acted' d' k' := by
  cases p with
  | feeder =>
      obtain ⟨keys', k', h'⟩ := h.feederTurn
      exact ⟨_, keys', acted, d, k', rfl, h'⟩
  | loop =>
      obtain ⟨s', hturn, hgoes⟩ := h.exists_loopGoes
      obtain ⟨acted', d', k', h'⟩ := h.of_loopGoes hgoes
      exact ⟨s', keys, acted', d', k', hturn, h'⟩

/-- Every order of turns goes well. -/
theorem follow (h : Faithful maxSteps start d₀ typed s keys acted d k) (schedule : List Party) :
    ∃ s' keys' acted' d' k', Session.follow maxSteps schedule s = some s' ∧
      Faithful maxSteps start d₀ typed s' keys' acted' d' k' := by
  let P (s : Session δ) : Prop :=
    ∃ keys acted d k, Faithful maxSteps start d₀ typed s keys acted d k
  have hturn {s : Session δ} {p : Party} (hs : P s) : ∃ s', s.turn maxSteps p = some s' ∧ P s' := by
    obtain ⟨keys, acted, d, k, hs⟩ := hs
    obtain ⟨s', keys', acted', d', k', hstep, h'⟩ := hs.turn p
    exact ⟨s', hstep, keys', acted', d', k', h'⟩
  obtain ⟨s', hfollow, keys', acted', d', k', h'⟩ :=
    exists_follow hturn ⟨keys, acted, d, k, h⟩ schedule
  exact ⟨s', keys', acted', d', k', hfollow, h'⟩

end Faithful

end Session

end PolledTerminal
