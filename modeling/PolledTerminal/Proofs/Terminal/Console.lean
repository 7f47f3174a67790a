import Mathlib.Algebra.GroupWithZero.Nat
import PolledTerminal.Proofs.Display.Contents
import PolledTerminal.Proofs.Display.Mirror
import PolledTerminal.Proofs.Machine.Moves
import PolledTerminal.Proofs.Terminal.Reactions
set_option autoImplicit false

/-!
# Consoles

A terminal as one would draw it: the program, its display and its keyboard, without
a bus and addresses between them.  Every operation has a result, and says what it
writes, what it tells, and how many cycles it takes.
-/

namespace PolledTerminal

open PolledTerminal.Text (Bytes)

/-- A terminal with its display and its keyboard, and what has been seen of them. -/
structure Console where
  program : Terminal
  display : Display
  keyboard : Keyboard
  steps : Nat := 0
  /-- the cycles that have passed -/
  cycles : Nat := 0
  /-- the events told, newest first -/
  told : List TraceEvent := []
  /-- what the display has printed -/
  printed : String := ""

namespace Console

/-! ## Operations -/

/-- Tell an event. -/
def tell (c : Console) (e : TraceEvent) : Console := { c with told := e :: c.told }

/-- A cycle passes. -/
def pass (c : Console) : Console :=
  { c with display := c.display.tick, cycles := c.cycles + 1 }

/-- Wait for the display, and write then. -/
def write (c : Console) (w : RegisterWrite) : Console :=
  { c with
    display := (c.display.ready.write w.offset w.value).1.tick
    cycles := c.cycles + (c.display.busyRemaining.toNat + 2)
    told := .output (c.program.ports.lcr + w.offset) w.value c.display.busyRemaining.toNat :: c.told
    printed := c.printed ++ (c.display.ready.write w.offset w.value).2 }

/-- Print a text.  Every character is fetched before it is written, and so is the end
of the text. -/
def print (c : Console) : Bytes → Console
  | [] => c.pass
  | x :: text => (c.pass.write (.character x)).print text

/-- Copy a text to the display: every character is fetched before it is written. -/
def copy (c : Console) : Bytes → Console
  | [] => c
  | x :: text => (c.pass.write (.character x)).copy text

/-- To print a text is to copy it and to fetch the end of it. -/
theorem print_eq (c : Console) (text : Bytes) : c.print text = (c.copy text).pass := by
  induction text generalizing c with
  | nil => rfl
  | cons x text ih => exact ih _

/-- React to a key. -/
def react (c : Console) : Reaction → Console
  | .redraw => (c.write .clear).print c.program.prompt
  | .idle => c
  | .echo x => c.write (.character x)

/-- Change the program's variables. -/
def changeProgram (c : Console) (f : Terminal → Terminal) : Console :=
  { c with program := f c.program }

/-- Act on the last character. -/
def act (c : Console) : Console :=
  (c.react (.ofLast c.program.last)).changeProgram (Reaction.ofLast c.program.last).count

/-- The next key, if there is one. -/
def nextKey (c : Console) : Option UInt8 :=
  if c.keyboard.pop.1.getD 0 = 0 then none else some (c.keyboard.pop.1.getD 0)

/-- Take the next key off the keyboard. -/
def take (c : Console) : Console :=
  { c with display := c.display.tick, keyboard := c.keyboard.pop.2, cycles := c.cycles + 1 }

/-- Poll the keyboard. -/
def poll (c : Console) : Console :=
  (c.take.tell (.input c.program.ports.kdr c.nextKey)).changeProgram fun t =>
    { t with last := c.nextKey.getD 0 }

/-- What one iteration does. -/
def iterate (c : Console) : Console := c.act.poll

/-- One step, told from start to end. -/
def step (c : Console) : Console :=
  { (c.tell (.stepStarted c.steps)).iterate.tell
      (.stepEnded ((c.tell (.stepStarted c.steps)).iterate.cycles - c.cycles)) with
    steps := c.steps + 1 }

/-- Do something to the keyboard. -/
def typeOn (c : Console) (f : Keyboard → Keyboard) : Console :=
  { c with keyboard := f c.keyboard }

/-- What a move does that types or steps; there is no bus for the others. -/
def move (c : Console) : Move → Console
  | .push key => c.typeOn fun k => k.push key
  | .feed keys => c.typeOn fun k => k.feed keys
  | .step => c.step
  | .peek _ | .poke _ _ => c

/-- Moves in order. -/
def play (c : Console) (moves : List Move) : Console := moves.foldl move c

/-! ## Writing -/

/-- The events of writes: for each there is the number of polls that found the display
busy. -/
def writeEvents (ports : TerminalPorts) (ws : List (RegisterWrite × Nat)) : List TraceEvent :=
  ws.map fun w => .output (ports.lcr + w.1.offset) w.1.value w.2

theorem filterMap_output?_writeEvents (ports : TerminalPorts) (ws : List (RegisterWrite × Nat)) :
    (writeEvents ports ws).filterMap TraceEvent.output? =
      (ws.map Prod.fst).map ports.write := by
  rw [writeEvents, List.filterMap_map, List.map_map, ← List.filterMap_eq_map]
  rfl

/-- Only writing, with a number of fetches between. -/
structure Wrote (c : Console) (ws : List (RegisterWrite × Nat)) (fetches : Nat) (c' : Console) :
    Prop where
  program : c'.program = c.program
  keyboard : c'.keyboard = c.keyboard
  steps : c'.steps = c.steps
  accepts : c.display.Accepts (ws.map Prod.fst) c'.display
  echo : c'.display.echo = c.display.echo
  cycles : c'.cycles = c.cycles + (ws.map Prod.snd).sum + 2 * ws.length + fetches
  told : c'.told = (writeEvents c.program.ports ws).reverse ++ c.told
  printed : c'.printed = c.printed ++ if c.display.echo then mirror (ws.map Prod.fst) else ""

namespace Wrote

variable {c c' c'' : Console} {ws vs : List (RegisterWrite × Nat)} {n k : Nat}

theorem refl (c : Console) : Wrote c [] 0 c :=
  ⟨rfl, rfl, rfl, .refl _, rfl, rfl, rfl, by simp⟩

theorem trans (h : Wrote c ws n c') (h' : Wrote c' vs k c'') :
    Wrote c (ws ++ vs) (n + k) c'' := by
  refine ⟨h'.program.trans h.program, h'.keyboard.trans h.keyboard, h'.steps.trans h.steps, ?_,
    h'.echo.trans h.echo, ?_, ?_, ?_⟩
  · rw [List.map_append]
    exact h.accepts.trans h'.accepts
  · rw [h'.cycles, h.cycles, List.map_append, List.sum_append, List.length_append]
    omega
  · rw [h'.told, h.told, h.program, writeEvents, writeEvents, writeEvents, List.map_append,
      List.reverse_append, List.append_assoc]
  · rw [h'.printed, h.printed, h.echo, List.map_append, mirror_append, String.append_assoc]
    cases c.display.echo <;> simp

end Wrote

theorem getD_nextKey (c : Console) : c.nextKey.getD 0 = c.keyboard.pop.1.getD 0 := by
  unfold nextKey
  split
  case isTrue hzero => exact hzero.symm
  case isFalse => rfl

theorem offset_character_lt (x : UInt8) : (RegisterWrite.character x).offset < 2 :=
  show Display.dataRegister < 2 by decide

variable (c : Console)

theorem wrote_pass : Wrote c [] 1 c.pass :=
  ⟨rfl, rfl, rfl, c.display.accepts_tick, c.display.echo_tick, rfl, rfl, by simp [pass]⟩

theorem wrote_write {w : RegisterWrite} (hw : w.offset < 2) :
    Wrote c [(w, c.display.busyRemaining.toNat)] 0 (c.write w) := by
  refine ⟨rfl, rfl, rfl, c.display.accepts_of_wait hw w.value, ?_, ?_, rfl, ?_⟩
  · simp [write, Display.ready]
  · simp [write, Nat.add_assoc]
  · have hprinted := Display.printed_of_accepts (Display.accepts_ready hw c.display) w.value
    simp only [write, List.map_singleton, mirror_singleton, hprinted]
    rfl

theorem wrote_copy (text : Bytes) :
    ∃ ws, ws.map Prod.fst = text.map RegisterWrite.character ∧
      Wrote c ws text.length (c.copy text) := by
  induction text generalizing c with
  | nil => exact ⟨[], rfl, .refl c⟩
  | cons x text ih =>
      obtain ⟨ws, hws, hwrote⟩ := ih (c.pass.write (.character x))
      have hall := (c.wrote_pass.trans (c.pass.wrote_write (offset_character_lt x))).trans hwrote
      refine ⟨_, ?_, by rwa [show 1 + 0 + text.length = (x :: text).length by
        rw [List.length_cons]; omega] at hall⟩
      rw [List.nil_append, List.map_append, hws]
      rfl

theorem wrote_print (text : Bytes) :
    ∃ ws, ws.map Prod.fst = text.map RegisterWrite.character ∧
      Wrote c ws (text.length + 1) (c.print text) := by
  obtain ⟨ws, hws, hwrote⟩ := c.wrote_copy text
  have hall := hwrote.trans (c.copy text).wrote_pass
  rw [List.append_nil, ← print_eq] at hall
  exact ⟨ws, hws, hall⟩

end Console

/-- The fetches of a reaction. -/
def Reaction.fetches (prompt : Bytes) : Reaction → Nat
  | .redraw => prompt.length + 1
  | _ => 0

namespace Console

theorem wrote_react (c : Console) (reaction : Reaction) :
    ∃ ws, ws.map Prod.fst = reaction.writes c.program.prompt ∧
      Wrote c ws (reaction.fetches c.program.prompt) (c.react reaction) := by
  cases reaction with
  | redraw =>
      have hclear := c.wrote_write (w := .clear) (by decide)
      obtain ⟨ws, hws, hprint⟩ := (c.write .clear).wrote_print c.program.prompt
      have hall := hclear.trans hprint
      rw [Nat.zero_add] at hall
      refine ⟨_, ?_, hall⟩
      rw [List.map_append, hws]
      rfl
  | idle => exact ⟨[], rfl, .refl c⟩
  | echo x => exact ⟨_, rfl, c.wrote_write (offset_character_lt x)⟩

/-- Acting on a key leaves the setup alone. -/
theorem setup_act (c : Console) : c.act.program.setup = c.program.setup := by
  obtain ⟨_, -, hreact⟩ := c.wrote_react (Reaction.ofLast c.program.last)
  show ((Reaction.ofLast c.program.last).count (c.react _).program).setup = _
  rw [Reaction.count_setup, hreact.program]

theorem ports_act (c : Console) : c.act.program.ports = c.program.ports :=
  congrArg (·.1) c.setup_act

/-! ## Stepping -/

/-- What a step does after so many fetches and with these writes accepted: it counts
its reaction, and takes the next key. -/
structure Ended (c : Console) (ws : List (RegisterWrite × Nat)) (fetches n : Nat) (c' : Console) :
    Prop where
  program : c'.program =
    { (Reaction.ofLast c.program.last).count c.program with last := c.nextKey.getD 0 }
  keyboard : c'.keyboard = c.keyboard.pop.2
  steps : c'.steps = c.steps + 1
  accepts : c.display.Accepts (ws.map Prod.fst) c'.display
  echo : c'.display.echo = c.display.echo
  /-- every cycle is a poll of the busy flag, one of the two of a write, a fetch, or the
  poll of the keyboard -/
  elapsed : n = (ws.map Prod.snd).sum + 2 * ws.length + fetches + 1
  cycles : c'.cycles = c.cycles + n
  told : c'.told = .stepEnded n :: .input c.program.ports.kdr c.nextKey ::
    ((writeEvents c.program.ports ws).reverse ++ .stepStarted c.steps :: c.told)
  printed : c'.printed = c.printed ++ if c.display.echo then mirror (ws.map Prod.fst) else ""

/-- The end of a step that has led to another console is told. -/
def close (c c' : Console) : Console :=
  { c'.tell (.stepEnded (c'.cycles - c.cycles)) with steps := c.steps + 1 }

/-- After its writes a step only counts its reaction and polls the keyboard. -/
theorem Wrote.ended {c c' : Console} {ws : List (RegisterWrite × Nat)} {fetches : Nat}
    (h : Wrote (c.tell (.stepStarted c.steps)) ws fetches c') :
    Ended c ws fetches (c'.cycles + 1 - c.cycles)
      (c.close (c'.changeProgram (Reaction.ofLast c.program.last).count).poll) := by
  obtain ⟨program', display', keyboard', steps', cycles', told', printed'⟩ := c'
  obtain ⟨hprogram, hkeyboard, -, haccepts, hecho, hcycles, htold, hprinted⟩ := h
  dsimp only [tell] at hprogram hkeyboard haccepts hecho hcycles htold hprinted
  subst hprogram hkeyboard htold hprinted
  have hpolled := haccepts.trans display'.accepts_tick
  rw [List.append_nil] at hpolled
  have hports := Reaction.count_ports c.program (.ofLast c.program.last)
  refine ⟨rfl, rfl, rfl, hpolled, display'.echo_tick.trans hecho, by dsimp only; omega, ?_, ?_,
    rfl⟩
  · show cycles' + 1 = c.cycles + (cycles' + 1 - c.cycles)
    omega
  · show _ :: TraceEvent.input ((Reaction.ofLast c.program.last).count c.program).ports.kdr _ :: _ = _
    rw [hports]
    rfl

/-- What a step does: it has the writes of its reaction accepted, and takes the next
key. -/
structure Stepped (c : Console) (ws : List (RegisterWrite × Nat)) (n : Nat) (c' : Console) :
    Prop extends
    Ended c ws ((Reaction.ofLast c.program.last).fetches c.program.prompt) n c' where
  writes : ws.map Prod.fst = (Reaction.ofLast c.program.last).writes c.program.prompt

theorem stepped_step (c : Console) : ∃ ws n, Stepped c ws n c.step := by
  obtain ⟨ws, hws, hwrote⟩ :=
    (c.tell (.stepStarted c.steps)).wrote_react (.ofLast c.program.last)
  exact ⟨ws, _, hwrote.ended, hws⟩

/-! ## What does not change -/

theorem setup_iterate (c : Console) : c.iterate.program.setup = c.program.setup := c.setup_act

theorem setup_step (c : Console) : c.step.program.setup = c.program.setup :=
  (c.tell (.stepStarted c.steps)).setup_iterate

theorem setup_play (c : Console) (moves : List Move) :
    (c.play moves).program.setup = c.program.setup := by
  induction moves generalizing c with
  | nil => rfl
  | cons v vs ih =>
      have hmove : (c.move v).program.setup = c.program.setup := by
        cases v with
        | step => exact c.setup_step
        | push | feed | peek | poke => rfl
      exact (ih (c.move v)).trans hmove

theorem prompt_play (c : Console) (moves : List Move) :
    (c.play moves).program.prompt = c.program.prompt :=
  congrArg (·.2.1) (c.setup_play moves)

end Console

end PolledTerminal
