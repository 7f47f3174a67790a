import PolledTerminal.Proofs.Program.ScriptedRuns
import PolledTerminal.Proofs.SelfTest
import PolledTerminal.Proofs.Terminal.Mirroring
set_option autoImplicit false

/-!
# Mirroring a scripted run

Whether a scripted run mirrors the first display decides what is printed and nothing
else: the answer and the files are the same, a silent run prints nothing, and a
mirrored one prints what the first display has accepted, whatever other displays
echo.
-/

namespace PolledTerminal

open PolledTerminal.CommandLine (TestOptions)
open PolledTerminal.Text

namespace Program

variable {script : Script} {system : SystemDescription} {bus : Bus Device}

/-! ## What the first display accepts -/

/-- The writes that the first display accepts in the run of a script.  The terminal tells
each of its writes; the self-test does not touch the bus. -/
inductive Shows (script : Script) (system : SystemDescription) (echo : Bool) :
    List RegisterWrite → Prop where
  | terminal {bus : Bus Device} {start m : Machine Terminal Device} {reason : StopReason}
      {d₀ d : Display} {ws : List RegisterWrite}
      (hfirmware : script.inputs.firmware = .terminal)
      (hboard : system.board.assemble = .ok bus)
      (hstart : terminalMachine system.manifest bus echo (some (Utf8.encode script.inputs.keys)) =
        .ok start)
      (hrun : start.run (limitsOf script) (fun _ => 0) = some (reason, m))
      (hbefore : start.bus.display? = some d₀)
      (hafter : m.bus.display? = some d)
      (haccepts : d₀.Accepts ws d)
      (htold : m.rig.outputs = ws.map start.program.ports.write) : Shows script system echo ws
  | selfTest {bus : Bus Device} {start m : Machine SelfTest Device} {reason : StopReason}
      (hfirmware : script.inputs.firmware = .selftest)
      (hboard : system.board.assemble = .ok bus)
      (hstart : selfTestMachine (bus.setEcho echo) = .ok start)
      (hrun : start.run (limitsOf script) (fun _ => 0) = some (reason, m))
      (hbus : m.bus = start.bus) : Shows script system echo []

/-- A run with and without an echo: either it does not begin, and that is the same trouble,
or it leaves the same outcome, and prints what the first display accepts or nothing. -/
def RunsAlike (script : Script) (system : SystemDescription) (w : World) : Prop :=
  (∃ t, ∀ echo, w.carryOut (runScript World.host script system echo) = some (.error t, w) ∧
      ∀ ws, ¬ Shows script system echo ws) ∨
    ∃ outcome ws, ∀ echo, Shows script system echo ws ∧
      w.carryOut (runScript World.host script system echo) = some (.ok outcome,
        { w with printed := (if echo then mirror ws else "") :: w.printed })

/-! ## The terminal -/

section Terminal

variable (hfirmware : script.inputs.firmware = .terminal)
  (hboard : system.board.assemble = .ok bus)

include hfirmware hboard

/-- A terminal that does not start shows nothing. -/
theorem runsAlike_of_error {t : Trouble}
    (hstart : ∀ echo, terminalMachine system.manifest bus echo
      (some (Utf8.encode script.inputs.keys)) = .error t) (w : World) :
    RunsAlike script system w := by
  left
  refine ⟨t, fun echo => ⟨carryOut_runScript_of_error hfirmware hboard (hstart echo) w, ?_⟩⟩
  intro ws hshows
  cases hshows with
  | terminal _ hboard' hstart' =>
      rw [hboard] at hboard'
      cases hboard'
      rw [hstart echo] at hstart'
      cases hstart'
  | selfTest hfirmware' =>
      rw [hfirmware] at hfirmware'
      cases hfirmware'

/-- A terminal that has run from where nothing had been told or printed. -/
theorem shows_and_prints {ports : TerminalPorts} {d : Display} {k : Keyboard} {echo : Bool}
    {start m : Machine Terminal Device} {reason : StopReason} {c : Console}
    {ws : List RegisterWrite}
    (hstart : terminalMachine system.manifest bus echo (some (Utf8.encode script.inputs.keys)) =
      .ok start)
    (hbegin : start.Realizes start.bus
      ((system.manifest.terminal ports).console (d.withEcho echo) k))
    (hprinted : start.bus.printedText = "")
    (hrun : start.run (limitsOf script) (fun _ => 0) = some (reason, m))
    (hend : m.Realizes start.bus c)
    (hshowed : ((system.manifest.terminal ports).console (d.withEcho echo) k).Showed ws c)
    (w : World) :
    Shows script system echo ws ∧
      w.carryOut (runScript World.host script system echo) = some (.ok (Outcome.ofMachine reason m),
        { w with printed := (if echo then mirror ws else "") :: w.printed }) := by
  have hprogram : start.program = { system.manifest.terminal ports with last := carriageReturn } :=
    hbegin.rig.program
  have htext : m.bus.printedText = if echo then mirror ws else "" :=
    hend.printedText_eq hshowed hprinted
  refine ⟨.terminal hfirmware hboard hstart hrun hbegin.rig.wired.display hend.rig.wired.display
    hshowed.accepts ?_, ?_⟩
  · rw [hend.outputs_eq hshowed, hprogram]
  · rw [carryOut_runScript hfirmware hboard hstart hrun, htext]

theorem runsAlike_terminal (w : World) : RunsAlike script system w := by
  cases hports : TerminalPorts.ofBus? bus with
  | none =>
      refine runsAlike_of_error hfirmware hboard (t := .noTerminal) (fun echo => ?_) w
      unfold terminalMachine portsOf
      rw [hports]
      rfl
  | some ports =>
      by_cases hfits : (system.manifest.terminal ports).PromptFits bus.ram
      · right
        obtain ⟨d, hconsoles⟩ := exists_consoles hboard hports hfits
          (some (Utf8.encode script.inputs.keys))
        obtain ⟨quiet, hquiet, hquietConsole, hquietCycles, hquietPrinted⟩ := hconsoles false
        obtain ⟨loud, hloud, hloudConsole, hloudCycles, hloudPrinted⟩ := hconsoles true
        let console (echo : Bool) : Console := (system.manifest.terminal ports).console
          (d.withEcho echo) (keyboardOf (some (Utf8.encode script.inputs.keys)))
        have hbegin : Mirrored quiet.bus loud.bus (console false) (console true) quiet loud :=
          ⟨_, _, [], hquietConsole, hloudConsole, .refl _, .refl _, rfl⟩
        have hinStep : Machine.InStep (Mirrored quiet.bus loud.bus (console false) (console true)) :=
          mirrored_inStep rfl
        have hmax : (limitsOf script).maxSteps = some script.limits.maxSteps := rfl
        obtain ⟨reason, m, m', hrun, hrun', c, c', ws, hm, hm', hc, hc', hsame⟩ :=
          hinStep.run hbegin hmax fun _ => 0
        have halike := hm.alike hm' (hloudCycles.trans hquietCycles.symm) hsame
        refine ⟨Outcome.ofMachine reason m, ws, fun echo => ?_⟩
        cases echo with
        | false =>
            exact shows_and_prints hfirmware hboard hquiet hquietConsole hquietPrinted hrun hm hc w
        | true =>
            rw [← halike.outcome_eq reason]
            exact shows_and_prints hfirmware hboard hloud hloudConsole hloudPrinted hrun' hm' hc' w
      · exact runsAlike_of_error hfirmware hboard
          (fun echo => terminalMachine_of_not_fits hboard hports hfits echo _) w

end Terminal

/-! ## The self-test -/

/-- Two machines with one self-test on their buses. -/
def SameSelfTest {δ δ' : Type} (bus : Bus δ) (bus' : Bus δ') (m : Machine SelfTest δ)
    (m' : Machine SelfTest δ') : Prop :=
  ∃ (t : SelfTest) (told told' : List TraceEvent) (steps : Nat),
    m = t.onMachine bus told steps ∧ m' = t.onMachine bus' told' steps

/-- The self-test does not notice its bus. -/
theorem sameSelfTest_inStep {δ δ' : Type} (bus : Bus δ) (bus' : Bus δ') :
    Machine.InStep (SameSelfTest bus bus') where
  status := by
    rintro m m' ⟨t, told, told', steps, rfl, rfl⟩
    rfl
  started := by
    rintro m m' ⟨t, told, told', steps, rfl, rfl⟩
    exact ⟨t, _, _, steps, rfl, rfl⟩
  stopped := by
    rintro reason m m' ⟨t, told, told', steps, rfl, rfl⟩
    exact ⟨t, _, _, steps, rfl, rfl⟩
  step := by
    rintro m m' ⟨t, told, told', steps, rfl, rfl⟩
    obtain ⟨told₁, hstep⟩ := SelfTest.run_step t bus told steps
    obtain ⟨told₁', hstep'⟩ := SelfTest.run_step t bus' told' steps
    exact ⟨_, _, hstep, hstep', t.advance, told₁, told₁', steps + 1, rfl, rfl⟩

/-- What the self-test leaves behind does not depend on the echo. -/
theorem outcome_setEcho (reason : StopReason) (t : SelfTest) (bus : Bus Device) (echo : Bool)
    (told told' : List TraceEvent) (steps : Nat) :
    Outcome.ofMachine reason (t.onMachine (bus.setEcho echo) told steps) =
      Outcome.ofMachine reason (t.onMachine bus told' steps) := by
  have hdisplay : (t.onMachine (bus.setEcho echo) told steps).bus.display? =
      bus.display?.map (Display.withEcho echo) := Bus.display?_changeDisplay bus _
  have hdisplay' : (t.onMachine bus told' steps).bus.display? = bus.display? := rfl
  rw [Outcome.ofMachine, Outcome.ofMachine, hdisplay, hdisplay']
  cases bus.display? <;> rfl

/-- A self-test that has run on a bus that has printed nothing. -/
theorem selfTest_shows_nothing (hfirmware : script.inputs.firmware = .selftest)
    (hboard : system.board.assemble = .ok bus) {echo : Bool} {reason : StopReason} {t : SelfTest}
    {told : List TraceEvent} {steps : Nat}
    (hrun : (SelfTest.new.reset.onMachine (bus.setEcho echo) [] 0).run (limitsOf script)
      (fun _ => 0) = some (reason, t.onMachine (bus.setEcho echo) told steps)) (w : World) :
    Shows script system echo [] ∧
      w.carryOut (runScript World.host script system echo) =
        some (.ok { Outcome.ofMachine reason (t.onMachine bus [] steps) with
            failedCheck := t.failedCheck.map Check.expr },
          { w with printed := "" :: w.printed }) := by
  have hstart : selfTestMachine (bus.setEcho echo) =
      .ok (SelfTest.new.reset.onMachine (bus.setEcho echo) [] 0) := rfl
  have hprinted : (bus.setEcho echo).printedText = "" := by
    obtain ⟨-, _, -, hbus⟩ := Board.assemble_eq_ok_iff.mp hboard
    show bus.printedText = ""
    rw [hbus]
    rfl
  refine ⟨.selfTest hfirmware hboard hstart hrun rfl, ?_⟩
  unfold runScript
  rw [World.carryOut_bind_of_ok (carryOut_busOf hboard w), hfirmware]
  dsimp only
  rw [hstart, World.carryOut_bind_of_ok (World.carryOut_compute w (.ok _)),
    carryOut_outcomeOf hrun, outcome_setEcho reason t bus echo told [] steps]
  show some (_, { w with printed := (bus.setEcho echo).printedText :: w.printed }) = _
  rw [hprinted]
  rfl

theorem runsAlike_selfTest (hfirmware : script.inputs.firmware = .selftest)
    (hboard : system.board.assemble = .ok bus) (w : World) : RunsAlike script system w := by
  right
  have hmax : (limitsOf script).maxSteps = some script.limits.maxSteps := rfl
  obtain ⟨reason, _, _, hrun, hrun', t, told, told', steps, rfl, rfl⟩ :=
    (sameSelfTest_inStep (bus.setEcho false) (bus.setEcho true)).run
      ⟨SelfTest.new.reset, [], [], 0, rfl, rfl⟩ hmax fun _ => 0
  refine ⟨{ Outcome.ofMachine reason (t.onMachine bus [] steps) with
    failedCheck := t.failedCheck.map Check.expr }, [], fun echo => ?_⟩
  cases echo with
  | false => exact selfTest_shows_nothing hfirmware hboard hrun w
  | true => exact selfTest_shows_nothing hfirmware hboard hrun' w

/-! ## Any script -/

theorem runsAlike (script : Script) (system : SystemDescription) (w : World) :
    RunsAlike script system w := by
  cases hboard : (system.board.assemble : Except BoardFault (Bus Device)) with
  | error why =>
      left
      refine ⟨.board why, fun echo => ⟨?_, ?_⟩⟩
      · have hbus : w.carryOut (liftM (busOf system.board)) = some (.error (.board why), w) := by
          rw [World.carryOut_compute, busOf, hboard]
          rfl
        exact World.carryOut_bind_of_error hbus _
      · intro ws hshows
        cases hshows with
        | terminal _ hboard' => rw [hboard] at hboard'; cases hboard'
        | selfTest _ hboard' => rw [hboard] at hboard'; cases hboard'
  | ok bus =>
      cases hfirmware : script.inputs.firmware with
      | terminal => exact runsAlike_terminal hfirmware hboard w
      | selftest => exact runsAlike_selfTest hfirmware hboard w

/-! ## A whole test -/

/-- A test loads this script and this system. -/
structure Loads (w : World) (options : TestOptions) (script : Script)
    (system : SystemDescription) : Prop where
  scriptLoaded : w.carryOut (Loading.script World.host.readFile options.script) =
    some (.ok script, w)
  systemLoaded : w.carryOut (Loading.system World.host.readFile
    (script.inputs.system.map (FilePath.beside options.script))) = some (.ok system, w)

/-- There is one script and one system to load. -/
theorem Loads.unique {w : World} {options : TestOptions} {script' : Script}
    {system' : SystemDescription} (h : Loads w options script system)
    (h' : Loads w options script' system') : script' = script ∧ system' = system := by
  have hscript := h'.scriptLoaded
  rw [h.scriptLoaded] at hscript
  cases hscript
  have hsystem := h'.systemLoaded
  rw [h.systemLoaded] at hsystem
  cases hsystem
  exact ⟨rfl, rfl⟩

end Program

/-- What is printed last comes last. -/
theorem World.printedText_cons (w : World) (files : FileTree) (typed : Bytes) (text : String) :
    World.printedText ⟨files, typed, text :: w.printed⟩ = w.printedText ++ text := by
  simp [World.printedText, String.join]

/-- Whether a test mirrors the display decides what is printed and nothing else.  Either
it meets the same trouble before anything has run, and nothing is printed; or the answer
and the files are the same, a quiet test prints nothing, and one that is not prints what
the first display has accepted. -/
theorem mirroring_decides_only_what_is_printed (w : World) (options : TestOptions) :
    (∃ t, (∀ quiet, w.execute (.test { options with noDisplayStdout := quiet }) =
        some (.error t, w)) ∧
      ∀ script system, Program.Loads w options script system →
        ∀ echo ws, ¬ Program.Shows script system echo ws) ∨
    ∃ script system answer files ws, Program.Loads w options script system ∧
      ∀ quiet, Program.Shows script system (!quiet) ws ∧
        ∃ w', w.execute (.test { options with noDisplayStdout := quiet }) = some (answer, w') ∧
          w'.files = files ∧ w'.printedText = w.printedText ++ if quiet then "" else mirror ws := by
  obtain ⟨⟨t⟩ | ⟨script⟩, hscript⟩ := World.exists_carryOut_file w .script Script.read
    (fun script => script.validate.mapError .script) options.script
  · refine .inl ⟨t, fun quiet => World.carryOut_bind_of_error hscript _, ?_⟩
    intro script system hloads
    have hloaded := hloads.scriptLoaded
    rw [Loading.script, hscript] at hloaded
    cases hloaded
  obtain ⟨⟨t⟩ | ⟨system⟩, hsystem⟩ := World.exists_carryOut_system w
    (script.inputs.system.map (FilePath.beside options.script))
  · refine .inl ⟨t, fun quiet => ?_, ?_⟩
    · exact (World.carryOut_bind_of_ok hscript _).trans (World.carryOut_bind_of_error hsystem _)
    · intro script' system hloads
      have hloaded := hloads.scriptLoaded
      rw [Loading.script, hscript] at hloaded
      cases hloaded
      have hsystem' := hloads.systemLoaded
      rw [hsystem] at hsystem'
      cases hsystem'
  have hloads : Program.Loads w options script system := ⟨hscript, hsystem⟩
  have hexecute (quiet : Bool) :=
    @Program.execute_test _ w { options with noDisplayStdout := quiet } _ hscript hsystem
  rcases Program.runsAlike script system w with ⟨t, herror⟩ | ⟨outcome, ws, hruns⟩
  · refine .inl ⟨t, fun quiet => ?_, ?_⟩
    · rw [hexecute quiet]
      exact World.carryOut_bind_of_error (herror (!quiet)).1 _
    · intro script' system' hloads' echo ws
      obtain ⟨rfl, rfl⟩ := hloads.unique hloads'
      exact (herror echo).2 ws
  · let report : TestReport := ⟨options.script,
      script.inputs.system.map (FilePath.beside options.script), script, outcome⟩
    obtain ⟨answer, w₁, hconclude, -⟩ := World.onlyWrites_conclude report options.outputDir w
    refine .inr ⟨script, system, answer, w₁.files, ws, hloads, fun quiet => ?_⟩
    obtain ⟨hshows, hrun⟩ := hruns (!quiet)
    refine ⟨hshows, { w₁ with printed := (if !quiet then mirror ws else "") :: w.printed }, ?_, rfl,
      ?_⟩
    · have hsilent := World.silent_conclude report options.outputDir w
        ((if !quiet then mirror ws else "") :: w.printed)
      rw [hconclude] at hsilent
      rw [hexecute quiet, World.carryOut_bind_of_ok hrun]
      exact hsilent
    · rw [World.printedText_cons]
      cases quiet <;> rfl

end PolledTerminal
