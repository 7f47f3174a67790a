import PolledTerminal.Port
import PolledTerminal.Proofs.Bus.Calls
set_option autoImplicit false

/-!
# Logs of accesses

All that a program does with a bus is to read and to write it.  What it has done is
written down in a log: every access in order, with what came of it, whatever devices
there are and whether or not they answer.
-/

namespace PolledTerminal

/-- One access to a bus. -/
inductive Access where
  | read (addr : UInt8)
  | write (addr value : UInt8)
  deriving DecidableEq, Repr, Inhabited

/-- The call that the access is. -/
def Access.call {δ : Type} : Access → BusCall δ
  | .read addr => .read addr
  | .write addr value => .write addr value

/-- Accesses in order, with what came of each; a read that succeeds gives a byte. -/
abbrev AccessLog : Type := List (Access × Except Fault (Option UInt8))

namespace AccessLog

/-- Every access has succeeded. -/
def Clean (log : AccessLog) : Prop := ∀ e ∈ log, ∃ x, e.2 = .ok x

/-- The last access has failed for this reason, and no other has. -/
def FailsLast (log : AccessLog) (why : Fault) : Prop :=
  ∃ before access, log = before ++ [(access, .error why)] ∧ Clean before

/-- The port and the value of a write that has succeeded. -/
def written? : Access × Except Fault (Option UInt8) → Option (UInt8 × UInt8)
  | (.write addr value, .ok _) => some (addr, value)
  | _ => none

/-- The writes that have succeeded, in order. -/
def written (log : AccessLog) : List (UInt8 × UInt8) := log.filterMap written?

/-- The log of an action that gives this answer: it ends with the first access that
fails. -/
def Answers {α : Type} (log : AccessLog) : Except Fault α → Prop
  | .ok _ => Clean log
  | .error why => FailsLast log why

theorem Clean.nil : Clean [] := fun _ h => absurd h List.not_mem_nil

theorem Clean.append {log log' : AccessLog} (h : Clean log) (h' : Clean log') :
    Clean (log ++ log') := by
  intro e he
  rcases List.mem_append.mp he with he | he
  · exact h e he
  · exact h' e he

theorem FailsLast.append {log log' : AccessLog} {why : Fault} (h : Clean log)
    (h' : FailsLast log' why) : FailsLast (log ++ log') why := by
  obtain ⟨before, access, rfl, hbefore⟩ := h'
  exact ⟨log ++ before, access, (List.append_assoc _ _ _).symm, h.append hbefore⟩

theorem Answers.append {α : Type} {log log' : AccessLog} {answer : Except Fault α} (h : Clean log)
    (h' : log'.Answers answer) : Answers (log ++ log') answer := by
  cases answer with
  | ok x => exact h.append h'
  | error why => exact FailsLast.append h h'

/-- A single access is the log of its own answer. -/
theorem Answers.single {α : Type} {access : Access} {f : α → Option UInt8}
    (answer : Except Fault α) :
    Answers [(access, answer.map f)] answer := by
  cases answer with
  | ok x =>
      intro e he
      rw [List.mem_singleton.mp he]
      exact ⟨f x, rfl⟩
  | error why => exact ⟨[], access, rfl, .nil⟩

theorem written_append (log log' : AccessLog) :
    written (log ++ log') = written log ++ written log' := List.filterMap_append

end AccessLog

namespace Bus

variable {δ : Type} [Peripheral δ] {b b' b'' : Bus δ} {log log' : AccessLog}

/-- An access, with the byte that a read has found. -/
def access (a : Access) : Act (Bus δ) (Option UInt8) := Bus.call a.call

/-- The accesses of the log, made in order, lead from one bus to the other, and what
came of them is what the log says. -/
def Leads (b : Bus δ) (log : AccessLog) (b' : Bus δ) : Prop :=
  Act.inTurn access (log.map Prod.fst) b = some (log.map Prod.snd, b')

theorem Leads.nil (b : Bus δ) : b.Leads [] b := rfl

theorem Leads.append (h : b.Leads log b') (h' : b'.Leads log' b'') : b.Leads (log ++ log') b'' := by
  rw [Leads, List.map_append, List.map_append]
  exact Act.inTurn_append h h'

theorem leads_read (b : Bus δ) (addr : UInt8) :
    b.Leads [(.read addr, (b.fetch addr).1.map some)] (b.fetch addr).2.settle := by
  have hrun : Act.run (access (.read addr)) b = _ := b.run_call_read addr
  show Act.inTurn access [.read addr] b = _
  rw [Act.inTurn_cons_of_run hrun]
  rfl

theorem leads_of_read_error {addr : UInt8} {why : Fault}
    (h : Act.run (Bus.read addr) b = some (.error why, b')) :
    b.Leads [(.read addr, .error why)] b' := by
  have hleads := b.leads_read addr
  rw [run_read, Option.some.injEq, Prod.mk.injEq] at h
  rwa [h.1, h.2] at hleads

theorem leads_write (b : Bus δ) (addr value : UInt8) :
    b.Leads [(.write addr value, (b.store addr value).1.map fun _ => none)]
      (b.store addr value).2.settle := by
  have hrun : Act.run (access (.write addr value)) b = _ := b.run_call_write addr value
  show Act.inTurn access [.write addr value] b = _
  rw [Act.inTurn_cons_of_run hrun]
  rfl

/-! ## Cycles -/

/-- Every access ends, and takes one cycle, one that fails too. -/
theorem exists_run_access (b : Bus δ) (a : Access) :
    ∃ answer b', Act.run (access a) b = some (answer, b') ∧ b'.cycles = b.cycles + 1 := by
  cases a with
  | read addr =>
      exact ⟨_, _, b.run_call_read addr, congrArg (· + 1) (b.cycles_fetch addr)⟩
  | write addr value =>
      exact ⟨_, _, b.run_call_write addr value, congrArg (· + 1) (b.cycles_store addr value)⟩

theorem Leads.cycles_eq (h : b.Leads log b') : b'.cycles = b.cycles + log.length := by
  induction log generalizing b with
  | nil =>
      cases h
      rfl
  | cons e log ih =>
      obtain ⟨answer, b₁, hrun, hcycles⟩ := b.exists_run_access e.1
      have hlead : Act.inTurn access (e.1 :: log.map Prod.fst) b =
          some (e.2 :: log.map Prod.snd, b') := h
      rw [Act.inTurn_cons_of_run hrun] at hlead
      obtain ⟨⟨answers, b₂⟩, hrest, heq⟩ := Option.map_eq_some_iff.mp hlead
      cases heq
      rw [ih hrest, hcycles, List.length_cons]
      omega

/-! ## Actions -/

/-- Whenever the action ends, its accesses can be written down: it ends with the first that
fails, and has made these writes if none does, but no write otherwise. -/
def Logs {α : Type} (a : Act (Bus δ) α) (written : List (UInt8 × UInt8)) : Prop :=
  ∀ b answer b', Act.run a b = some (answer, b') →
    ∃ log, b.Leads log b' ∧ log.Answers answer ∧
      log.written = match answer with
        | .ok _ => written
        | .error _ => []

namespace Logs

variable {α β : Type} {written : List (UInt8 × UInt8)}

theorem pure (x : α) : Logs (Pure.pure x : Act (Bus δ) α) [] := by
  intro b answer b' h
  cases h
  exact ⟨[], .nil b, .nil, rfl⟩

theorem stall : Logs (Act.stall : Act (Bus δ) α) written := by
  intro b answer b' h
  cases h

theorem get_bind {f : Bus δ → Act (Bus δ) α} (hf : ∀ b, Logs (f b) written) :
    Logs (MonadState.get >>= f) written := by
  intro b answer b' h
  rw [Act.run_bind_of_ok (Act.run_get b)] at h
  exact hf b b answer b' h

/-- What comes before the writes. -/
theorem bind {a : Act (Bus δ) α} {f : α → Act (Bus δ) β} (ha : Logs a [])
    (hf : ∀ x, Logs (f x) written) : Logs (a >>= f) written := by
  intro b answer b' h
  rw [Act.run_bind] at h
  split at h
  case h_1 => cases h
  case h_2 x b₁ hfirst =>
    obtain ⟨log, hleads, hclean, hnone⟩ := ha b _ b₁ hfirst
    obtain ⟨log', hleads', hanswers, hwritten⟩ := hf x b₁ answer b' h
    refine ⟨log ++ log', hleads.append hleads', .append hclean hanswers, ?_⟩
    rw [AccessLog.written_append, hnone, hwritten, List.nil_append]
  case h_3 why b₁ hfirst =>
    cases h
    obtain ⟨log, hleads, hfails, hnone⟩ := ha b _ b' hfirst
    exact ⟨log, hleads, hfails, hnone⟩

/-- What comes behind them. -/
theorem bind_pure {a : Act (Bus δ) α} (ha : Logs a written) (g : α → β) :
    Logs (a >>= fun x => Pure.pure (g x)) written := by
  intro b answer b' h
  rw [Act.run_bind] at h
  split at h
  case h_1 => cases h
  case h_2 x b₁ hfirst =>
    cases h
    exact ha b _ b' hfirst
  case h_3 why b₁ hfirst =>
    cases h
    exact ha b _ b' hfirst

theorem read (addr : UInt8) : Logs (Bus.read (δ := δ) addr) [] := by
  intro b answer b' h
  rw [run_read] at h
  cases h
  refine ⟨_, b.leads_read addr, .single _, ?_⟩
  cases (b.fetch addr).1 <;> rfl

theorem write (addr value : UInt8) : Logs (Bus.write (δ := δ) addr value) [(addr, value)] := by
  intro b answer b' h
  rw [run_write] at h
  cases h
  refine ⟨_, b.leads_write addr value, .single _, ?_⟩
  cases (b.store addr value).1 <;> rfl

/-- However often the port is found busy, there is one write at the end. -/
theorem writeWhenReady (port value : UInt8) (patience spins : Nat) :
    Logs ((outputPort (δ := δ) port).writeWhenReady value patience spins) [(port, value)] := by
  induction patience generalizing spins with
  | zero => exact .stall
  | succ patience ih =>
      rw [OutputDevice.writeWhenReady]
      refine ((read port).bind_pure fun status => status != 0).bind fun isBusy => ?_
      cases isBusy with
      | true => exact ih _
      | false => exact (write port value).bind_pure fun _ => spins

theorem writeCharacter (port value : UInt8) :
    Logs (Bus.writeCharacter (δ := δ) port value) [(port, value)] :=
  .get_bind fun _ => writeWhenReady port value _ 0

end Logs

end Bus

end PolledTerminal
