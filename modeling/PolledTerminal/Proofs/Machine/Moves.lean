import PolledTerminal.Machine
import PolledTerminal.Proofs.Action
set_option autoImplicit false

/-!
# What a host does with a machine

Between steps the host types on the first keyboard and reads and writes
addresses.  A run is any sequence of such moves and steps; a move that fails is
told and does not end the run.
-/

namespace PolledTerminal

open PolledTerminal.Text (Bytes)

/-- One thing that a host does. -/
inductive Move where
  /-- type one key -/
  | push (key : UInt8)
  /-- type keys -/
  | feed (keys : Bytes)
  | peek (addr : UInt8)
  | poke (addr value : UInt8)
  | step
  deriving DecidableEq, Repr, Inhabited

namespace Move

/-- The bytes that a move types. -/
def typed : Move → Bytes
  | .push key => [key]
  | .feed keys => keys
  | _ => []

/-- The move only types or lets the machine step. -/
def isPlain : Move → Bool
  | .peek _ | .poke _ _ => false
  | _ => true

end Move

/-- The keys that moves type; a zero is not a key. -/
def keysTyped (moves : List Move) : Bytes := (moves.flatMap Move.typed).filter (· ≠ 0)

/-- The steps among moves. -/
def stepsTaken (moves : List Move) : Nat := moves.count .step

theorem keysTyped_append (vs ws : List Move) :
    keysTyped (vs ++ ws) = keysTyped vs ++ keysTyped ws := by
  rw [keysTyped, List.flatMap_append, List.filter_append, keysTyped, keysTyped]

theorem stepsTaken_append (vs ws : List Move) :
    stepsTaken (vs ++ ws) = stepsTaken vs + stepsTaken ws := List.count_append

/-- There are no zeros among the keys. -/
theorem zero_notMem_keysTyped (moves : List Move) : (0 : UInt8) ∉ keysTyped moves := by
  intro h
  have hnonzero := (List.mem_filter.mp h).2
  simp at hnonzero

theorem toList_push_eq (k : Keyboard) (key : UInt8) :
    (k.push key).toList = k.toList ++ keysTyped [.push key] := by
  rw [Keyboard.toList_push]
  by_cases hkey : key = 0 <;> simp [keysTyped, Move.typed, hkey]

theorem toList_feed_eq (k : Keyboard) (keys : Bytes) :
    (k.feed keys).toList = k.toList ++ keysTyped [.feed keys] := by
  rw [Keyboard.toList_feed]
  simp [keysTyped, Move.typed]

namespace Machine

variable {σ δ α : Type}

/-- An action on the bus of a machine. -/
def onBus (a : Act (Bus δ) α) : Act (Machine σ δ) α :=
  a.within Machine.bus fun m bus => m.changeBus fun _ => bus

/-- A step does what the program's iteration does, and is counted and told. -/
theorem run_step {m : Machine σ δ} {answer : Except Fault Unit} {rig : Rig σ δ}
    (h : Act.run m.firmware.step (m.rig.tell (.stepStarted m.steps)) = some (answer, rig)) :
    Act.run step m = some (answer, { m with
      rig := rig.tell (.stepEnded (rig.bus.cycles - m.rig.bus.cycles))
      steps := m.steps + 1 }) := by
  show step m = _
  rw [step, h]

/-- There is no other way to step. -/
theorem exists_iteration {m m' : Machine σ δ} {answer : Except Fault Unit}
    (h : Act.run step m = some (answer, m')) :
    ∃ rig, Act.run m.firmware.step (m.rig.tell (.stepStarted m.steps)) = some (answer, rig) ∧
      m' = { m with
        rig := rig.tell (.stepEnded (rig.bus.cycles - m.rig.bus.cycles))
        steps := m.steps + 1 } := by
  rcases hrun : Act.run m.firmware.step (m.rig.tell (.stepStarted m.steps)) with
    _ | ⟨answer', rig⟩
  · have hstep : step m = some (answer, m') := h
    rw [step, hrun] at hstep
    cases hstep
  · rw [run_step hrun] at h
    cases h
    exact ⟨rig, rfl, rfl⟩

variable [TerminalPeripheral δ]

/-- Do something to the first keyboard. -/
def typeOn (f : Keyboard → Keyboard) : Act (Machine σ δ) Unit :=
  .ofStep fun m => (.ok (), m.changeBus fun bus => bus.changeKeyboard f)

/-- A move of the host. -/
def move : Move → Act (Machine σ δ) Unit
  | .push key => typeOn fun k => k.push key
  | .feed keys => typeOn fun k => k.feed keys
  | .peek addr => do
    let _ ← onBus (Bus.read addr)
    return ()
  | .poke addr value => onBus (Bus.write addr value)
  | .step => step

/-- Moves in order, with what came of each; `none` if one never ends. -/
def play : List Move → Machine σ δ → Option (List (Except Fault Unit) × Machine σ δ)
  | [], m => some ([], m)
  | v :: vs, m =>
    match (move v).run m with
    | none => none
    | some (answer, m) => (play vs m).map fun r => (answer :: r.1, r.2)

theorem play_cons_of_run {v : Move} {m m' : Machine σ δ} {answer : Except Fault Unit}
    (h : (move v).run m = some (answer, m')) (vs : List Move) :
    play (v :: vs) m = (play vs m').map fun r => (answer :: r.1, r.2) := by
  rw [play, h]

/-- What every move keeps, every run keeps; and it ends if every move does. -/
theorem play_keeps {P : Machine σ δ → Prop} {moves : List Move}
    (h : ∀ v ∈ moves, Act.Keeps P (move v)) {m : Machine σ δ} (hm : P m) :
    ∃ answers m', play moves m = some (answers, m') ∧ P m' := by
  induction moves generalizing m with
  | nil => exact ⟨[], m, rfl, hm⟩
  | cons v vs ih =>
      obtain ⟨answer, m₁, hrun, hm₁⟩ := h v List.mem_cons_self m hm
      obtain ⟨answers, m₂, hplay, hm₂⟩ := ih (fun w hw => h w (List.mem_cons_of_mem v hw)) hm₁
      refine ⟨answer :: answers, m₂, ?_, hm₂⟩
      rw [play_cons_of_run hrun, hplay]
      rfl

end Machine

end PolledTerminal
