import PolledTerminal.Proofs.Program.Starting
import PolledTerminal.Proofs.Session.Turns
set_option autoImplicit false

/-!
# Sessions act on everything typed

Once the feeder has closed, the loop has a budget of steps that every step
spends, and a rank that every turn of the loop lowers.  So it leaves, whatever
the order of turns, and it does not leave before everything typed has been acted
on.
-/

namespace PolledTerminal

open PolledTerminal.Text (Bytes)

namespace Session

variable {δ : Type} [TerminalPeripheral δ]

/-! ## Budget and rank -/

/-- How many steps the loop may still take once the feeder has closed. -/
def budget (s : Session δ) : Nat :=
  match s.loop with
  | .left _ => 0
  | .stepping => s.keyboard.pending + 1
  | .deciding | .foundClosed => if s.isIdle then 0 else s.keyboard.pending + 1

/-- How many turns the loop may still take once the feeder has closed. -/
def rank (s : Session δ) : Nat :=
  match s.loop with
  | .left _ => 0
  | .deciding => 3 * s.budget + 2
  | .foundClosed => 3 * s.budget + 1
  | .stepping => 3 * s.budget

theorem budget_le (s : Session δ) : s.budget ≤ s.keyboard.pending + 1 := by
  unfold budget
  split
  · exact Nat.zero_le _
  · exact Nat.le_refl _
  · split <;> omega
  · split <;> omega

theorem rank_le (s : Session δ) : s.rank ≤ s.turnsLeft := by
  have hbudget := s.budget_le
  unfold rank turnsLeft
  split <;> omega

/-- The rank is down when the loop has left. -/
theorem isOver_of_rank (s : Session δ) (h : s.rank = 0) : s.isOver = true := by
  cases hloop : s.loop with
  | left why => rw [isOver, hloop]
  | deciding =>
      rw [rank, hloop] at h
      cases h
  | foundClosed =>
      rw [rank, hloop] at h
      cases h
  | stepping =>
      rw [rank, budget, hloop] at h
      cases h

theorem feederTurn_of_closed {s : Session δ} (h : s.feeder.closed = true) : s.feederTurn = s := by
  rw [feederTurn, if_pos h]

/-- A step takes a key or leaves none to act on. -/
theorem budget_after_step {start m' : Machine Terminal δ} {s : Session δ} {d₀ d' : Display}
    {keys acted : Bytes} {k : Keyboard} (hlast : m'.program.last = k.pop.1.getD 0)
    (hhistory : History start d₀ keys m' acted d' k.pop.2) :
    ({ s with machine := m', loop := .deciding } : Session δ).budget ≤ k.pending := by
  let s' : Session δ := { s with machine := m', loop := .deciding }
  have hkeyboard : s'.keyboard = k.pop.2 := keyboard_of_history hhistory
  have hbudget : s'.budget = if s'.isIdle then 0 else s'.keyboard.pending + 1 := rfl
  obtain ⟨hhead, htail, -⟩ := k.pop_eq
  show s'.budget ≤ k.pending
  cases hlist : k.toList with
  | nil =>
      rw [hlist] at hhead htail
      rw [hhead] at hlast
      have hidle : s'.isIdle = true := (isIdle_of_history hhistory).mpr ⟨htail, hlast⟩
      rw [hbudget, if_pos hidle]
      exact Nat.zero_le _
  | cons key rest =>
      have hpending : k.pending = rest.length + 1 := by
        rw [← k.length_toList, hlist, List.length_cons]
      have hpending' : k.pop.2.pending = rest.length := by
        rw [← Keyboard.length_toList, htail, hlist, List.tail_cons]
      rw [hbudget, hkeyboard, hpending, hpending']
      split <;> omega

namespace Faithful

variable {maxSteps : Option Nat} {start : Machine Terminal δ} {d₀ d : Display}
  {typed keys acted : Bytes} {s s' : Session δ} {k : Keyboard}

/-- A turn of the loop spends the steps it takes, and lowers the rank. -/
theorem spends_of_loopGoes (h : Faithful maxSteps start d₀ typed s keys acted d k)
    (hclosed : s.feeder.closed = true) (hgoes : LoopGoes maxSteps start d₀ s keys acted k s') :
    s'.feeder.closed = true ∧ s'.machine.steps + s'.budget ≤ s.machine.steps + s.budget ∧
      s'.rank ≤ s.rank - 1 := by
  cases hgoes with
  | stays hloop =>
      refine ⟨hclosed, Nat.le_refl _, ?_⟩
      rw [rank, hloop]
      exact Nat.zero_le _
  | meetsLimit hloop hlimit => exact ⟨hclosed, Nat.add_le_add_left (Nat.zero_le _) _, Nat.zero_le _⟩
  | findsClosed hloop hbelow hfed =>
      have hbudget : ({ s with loop := .foundClosed } : Session δ).budget = s.budget := by
        rw [budget, budget, hloop]
        rfl
      refine ⟨hclosed, by rw [hbudget], ?_⟩
      rw [rank, rank, hloop, hbudget]
      exact Nat.le_refl _
  | findsOpen hloop hbelow hopen =>
      rw [hclosed] at hopen
      cases hopen
  | leaves hloop hempty hlast =>
      exact ⟨hclosed, Nat.add_le_add_left (Nat.zero_le _) _, Nat.zero_le _⟩
  | goesOn hloop hbusy =>
      have hidle : ¬ s.isIdle = true := fun hidle => hbusy (h.isIdle_iff.mp hidle)
      have hbudget : ({ s with loop := .stepping } : Session δ).budget = s.budget := by
        rw [budget, budget, hloop]
        exact (if_neg hidle).symm
      refine ⟨hclosed, by rw [hbudget], ?_⟩
      rw [rank, rank, hloop, hbudget]
      exact Nat.le_refl _
  | steps hloop m' d' hsteps hlast hhistory =>
      have hafter := budget_after_step (s := s) hlast hhistory
      have hbudget : s.budget = k.pending + 1 := by
        rw [budget, hloop, h.keyboard_eq]
      have hrank : s.rank = 3 * s.budget := by rw [rank, hloop]
      refine ⟨hclosed, ?_, ?_⟩
      · show m'.steps + _ ≤ _
        omega
      · show 3 * _ + 2 ≤ _
        omega

variable [LawfulTerminalPeripheral δ]

/-- Once the feeder has closed, any order of turns stays within the budget, and
enough turns of the loop end the session. -/
theorem follow_closed (h : Faithful maxSteps start d₀ typed s keys acted d k)
    (hclosed : s.feeder.closed = true) (schedule : List Party) :
    ∃ s', Session.follow maxSteps schedule s = some s' ∧
      s'.machine.steps + s'.budget ≤ s.machine.steps + s.budget ∧
      s'.rank ≤ s.rank - schedule.count .loop := by
  induction schedule generalizing s keys acted d k with
  | nil => exact ⟨s, rfl, Nat.le_refl _, Nat.le_refl _⟩
  | cons p ps ih =>
      cases p with
      | feeder =>
          obtain ⟨s', hfollow, hsteps, hrank⟩ := ih h hclosed
          refine ⟨s', ?_, hsteps, ?_⟩
          · rw [Session.follow, Session.turn, feederTurn_of_closed hclosed]
            exact hfollow
          · rwa [List.count_cons_of_ne (by decide)]
      | loop =>
          obtain ⟨s₁, hturn, hgoes⟩ := h.exists_loopGoes
          obtain ⟨acted₁, d₁, k₁, h₁⟩ := h.of_loopGoes hgoes
          obtain ⟨hclosed₁, hsteps₁, hrank₁⟩ := h.spends_of_loopGoes hclosed hgoes
          obtain ⟨s', hfollow, hsteps, hrank⟩ := ih h₁ hclosed₁
          refine ⟨s', ?_, hsteps.trans hsteps₁, ?_⟩
          · rw [Session.follow, Session.turn, hturn]
            exact hfollow
          · rw [List.count_cons_self]
            omega

end Faithful

/-! ## Whole sessions -/

/-- The loop has left because nothing more is typed, and everything typed has been
acted on. -/
structure Completed (prompt : Bytes) (ports : TerminalPorts) (limit : Nat) (d₀ : Display)
    (typed : Bytes) (s : Session δ) : Prop where
  loop : s.loop = .left .inputClosed
  closed : s.feeder.closed = true
  rest : s.feeder.rest = []
  pending : s.keyboard.pending = 0
  last : s.machine.program.last = 0
  acted : ∃ d, HasActedOn prompt ports limit d₀ s.machine (keysOf typed) d

end Session

section Device

variable {b : Board} {bus : Bus Device} {ports : TerminalPorts} {manifest : Manifest}
  {start : Machine Terminal Device} {limit : Nat} {d₀ d : Display} {typed keys acted : Bytes}
  {maxSteps : Option Nat} {s : Session Device} {k : Keyboard}

/-- Without a step limit, there is only one way to leave. -/
theorem Session.Faithful.completed
    (hstart : Program.Starts manifest b bus ports none start limit d₀)
    (h : Session.Faithful none start d₀ typed s keys acted d k) (hover : s.isOver = true) :
    Session.Completed (manifest.terminal ports).prompt ports limit d₀ typed s := by
  cases hloop : s.loop with
  | deciding =>
      rw [Session.isOver, hloop] at hover
      cases hover
  | foundClosed =>
      rw [Session.isOver, hloop] at hover
      cases hover
  | stepping =>
      rw [Session.isOver, hloop] at hover
      cases hover
  | left why =>
      rcases h.left why hloop with ⟨-, hnone⟩ | ⟨rfl, hclosed, hempty, hlast⟩
      · cases hnone
      · have hrest := h.exhausted hclosed
        have hacted : acted ≠ [] := by
          intro hnil
          rw [h.history.fresh hnil] at hlast
          cases hlast
        obtain ⟨keysActed, rfl, hkeys⟩ := h.history.typed_eq hacted
        have hall : keysOf typed = keysActed := by
          rw [h.fed, hkeys, hempty, hlast, Feeder.keysLeft, hrest]
          simp [keyOf, Feeder.keysAfter]
        refine ⟨hloop, hclosed, hrest, ?_, hlast, d, ?_⟩
        · rw [h.keyboard_eq, ← k.length_toList, hempty, List.length_nil]
        · rw [hall]
          exact hstart.hasActedOn h.history

/-- Whatever the order in which the feeder and the loop take turns: without a step
limit the loop leaves only when everything typed has been acted on, and with `p`
keys waiting when the feeder has closed it takes at most `p + 1` more steps and
leaves.  A step limit is kept, and what has been acted on is then the beginning of
what was typed. -/
theorem session_acts_on_everything_typed (hboard : b.assemble = .ok bus)
    (hports : TerminalPorts.ofBus? bus = some ports)
    (hfits : (manifest.terminal ports).PromptFits bus.ram) (echo : Bool) (typed : Bytes) :
    ∃ start limit d₀, Program.terminalMachine manifest bus echo none = .ok start ∧
      start.bus.display? = some d₀ ∧
      (∃ s, b.ofKind? "display" = some s ∧ Board.scrollbackOf s = .ok limit) ∧
      (∀ schedule, ∃ s, Session.follow none schedule (.opening start typed) = some s ∧
        (s.isOver = true →
          Session.Completed (manifest.terminal ports).prompt ports limit d₀ typed s) ∧
        (s.feeder.closed = true → ∀ schedule', ∃ s', Session.follow none schedule' s = some s' ∧
          s'.machine.steps ≤ s.machine.steps + (s.keyboard.pending + 1) ∧
          (s.turnsLeft ≤ schedule'.count .loop → s'.isOver = true))) ∧
      ∀ maxSteps schedule,
        ∃ s, Session.follow (some maxSteps) schedule (.opening start typed) = some s ∧
          s.machine.steps ≤ maxSteps ∧
          (0 < s.machine.steps → ∃ acted d,
            keysOf typed = acted ++ keyOf s.machine.program.last ++ s.keyboard.toList ++
              s.feeder.keysLeft ∧
            HasActedOn (manifest.terminal ports).prompt ports limit d₀ s.machine acted d) := by
  obtain ⟨start, limit, d₀, hmachine, hstart⟩ :=
    Program.terminalMachine_of_fits hboard hports hfits echo none
  have hsteps : start.steps = 0 := by
    obtain ⟨_, -, hstarted⟩ := hstart.started
    exact hstarted.steps
  have hbegin (maxSteps : Option Nat) :
      Session.Faithful maxSteps start d₀ typed (.opening start typed) [] [] d₀ {} :=
    .begin hstart.history hsteps rfl
  refine ⟨start, limit, d₀, hmachine, hstart.history.ready.wired.display, hstart.scrollback, ?_, ?_⟩
  · intro schedule
    obtain ⟨s, _, _, _, _, hfollow, h⟩ := (hbegin none).follow schedule
    refine ⟨s, hfollow, fun hover => h.completed hstart hover, fun hclosed schedule' => ?_⟩
    obtain ⟨s', hfollow', hspent, hrank⟩ := h.follow_closed hclosed schedule'
    have hbudget := s.budget_le
    have hturns := s.rank_le
    refine ⟨s', hfollow', by omega, fun henough => s'.isOver_of_rank (by omega)⟩
  · intro maxSteps schedule
    obtain ⟨s, _, _, d, _, hfollow, h⟩ := (hbegin (some maxSteps)).follow schedule
    refine ⟨s, hfollow, (h.within maxSteps rfl).1, fun hpos => ?_⟩
    obtain ⟨acted, rfl, hkeys⟩ := h.history.typed_eq (h.history.stepped hpos)
    refine ⟨acted, d, ?_, hstart.hasActedOn h.history⟩
    rw [h.fed, hkeys, h.keyboard_eq]

/-- On the stock board, with a letter and Enter typed. -/
theorem session_acts_on_everything_typed_stock :
    ∃ bus : Bus Device, Board.stock.assemble = .ok bus ∧ TerminalPorts.ofBus? bus = some {} ∧
      (({} : Manifest).terminal {}).PromptFits bus.ram ∧
    ∃ start limit d₀, Program.terminalMachine {} bus false none = .ok start ∧
      start.bus.display? = some d₀ ∧
      (∃ s, Board.stock.ofKind? "display" = some s ∧ Board.scrollbackOf s = .ok limit) ∧
      (∀ schedule, ∃ s, Session.follow none schedule (.opening start [0x61, 0x0A]) = some s ∧
        (s.isOver = true →
          Session.Completed (({} : Manifest).terminal {}).prompt {} limit d₀ [0x61, 0x0A] s) ∧
        (s.feeder.closed = true → ∀ schedule', ∃ s', Session.follow none schedule' s = some s' ∧
          s'.machine.steps ≤ s.machine.steps + (s.keyboard.pending + 1) ∧
          (s.turnsLeft ≤ schedule'.count .loop → s'.isOver = true))) ∧
      ∀ maxSteps schedule,
        ∃ s, Session.follow (some maxSteps) schedule (.opening start [0x61, 0x0A]) = some s ∧
          s.machine.steps ≤ maxSteps ∧
          (0 < s.machine.steps → ∃ acted d,
            [0x61, 0x0D] = acted ++ keyOf s.machine.program.last ++ s.keyboard.toList ++
              s.feeder.keysLeft ∧
            HasActedOn (({} : Manifest).terminal {}).prompt {} limit d₀ s.machine acted d) := by
  obtain ⟨bus, hboard, hports, hbase, hram⟩ := Board.stock_assembles
  have hfits : (({} : Manifest).terminal {}).PromptFits bus.ram := by
    rw [Terminal.PromptFits, hbase, hram]
    decide
  exact ⟨bus, hboard, hports, hfits,
    session_acts_on_everything_typed hboard hports hfits false [0x61, 0x0A]⟩

end Device

end PolledTerminal
