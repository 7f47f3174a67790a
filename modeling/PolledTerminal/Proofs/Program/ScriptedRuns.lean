import PolledTerminal.Proofs.Program.Concluding
import PolledTerminal.Proofs.Program.Starting
import PolledTerminal.Proofs.Terminal.Runs
import PolledTerminal.Proofs.Terminal.Screen
set_option autoImplicit false

/-!
# Scripted runs of the terminal

A script for the terminal that only its steps limit runs for just these steps.
The last step reads a key without acting on it, so what the run reports has been
made by one key less than it has steps.
-/

namespace PolledTerminal

open PolledTerminal.CommandLine (TestOptions)
open PolledTerminal.Text

/-! ## Prompts -/

/-- A prompt that a manifest may name has no zeros to leave out. -/
theorem Manifest.prompt_of_valid {manifest : Manifest} (h : manifest.validate = .ok ())
    (ports : TerminalPorts) :
    (manifest.terminal ports).prompt = Utf8.encode manifest.prompt := by
  have hnul : manifest.prompt.toList.any (·.toNat = 0) = false := by
    unfold validate at h
    by_cases hany : manifest.prompt.toList.any (·.toNat = 0) = true
    · rw [if_pos hany] at h
      cases h
    · simpa using hany
  have hfilter : manifest.prompt.toList.filter (· ≠ '\x00') = manifest.prompt.toList := by
    apply List.filter_eq_self.mpr
    intro c hc
    rw [List.any_eq_false] at hnul
    have hne := hnul c hc
    apply decide_eq_true
    rintro rfl
    exact hne rfl
  have hoctets := Utf8.filter_ne_flatMap_encodeChar (a := '\x00') (by decide) manifest.prompt.toList
  rw [hfilter] at hoctets
  exact hoctets

namespace Program

/-! ## Running a script -/

/-- The keys that a run with so many steps acts on. -/
def keysWithin (keys : String) (steps : Nat) : Bytes :=
  ((Utf8.encode keys).filter (· ≠ 0)).take (steps - 1)

/-- A run has ended at the step limit of its script, and what it reports has been
made by the prompt and by the keys that there were steps for. -/
structure RanToLimit (manifest : Manifest) (ports : TerminalPorts) (limit : Nat) (script : Script)
    (start m : Machine Terminal Device) (d₀ d : Display) (outcome : Outcome) : Prop where
  ran : start.run (limitsOf script) (fun _ => 0) = some (.maxSteps, m)
  reported : outcome = Outcome.ofMachine .maxSteps m
  steps : outcome.steps = script.limits.maxSteps
  acted : HasActedOn (Utf8.encode manifest.prompt) ports limit d₀ m
    (keysWithin script.inputs.keys script.limits.maxSteps) d
  transcript : outcome.transcriptText = Utf8.decodeLossy ((shownBytes
    (reactions (Utf8.encode manifest.prompt) (carriageReturn ::
      keysWithin script.inputs.keys script.limits.maxSteps))).rtake limit)
  screen : outcome.screenText = Utf8.decodeLossy ((shownBytes (sinceClear
    (reactions (Utf8.encode manifest.prompt) (carriageReturn ::
      keysWithin script.inputs.keys script.limits.maxSteps)))).rtake limit)
  line : ((Utf8.encode script.inputs.keys).filter (· ≠ 0)).length < script.limits.maxSteps →
    (Utf8.encode manifest.prompt).length + (Utf8.encode (lastLine script.inputs.keys)).length ≤
      limit →
    outcome.screenText = manifest.prompt ++ lastLine script.inputs.keys

theorem maxSteps_pos {script : Script} (h : script.validate = .ok ()) :
    0 < script.limits.maxSteps := by
  unfold Script.validate at h
  apply Nat.pos_of_ne_zero
  intro hzero
  simp only [hzero, if_true] at h
  split at h
  · cases h
  · split at h
    · cases h
    · split at h <;> cases h

variable {b : Board} {bus : Bus Device} {ports : TerminalPorts} {manifest : Manifest}
  {script : Script}

/-- A terminal that has been started for a script runs to the limit. -/
theorem Starts.ranToLimit (hmanifest : manifest.validate = .ok ())
    (hscript : script.validate = .ok ()) (hwall : script.limits.wallTime = none)
    {start : Machine Terminal Device} {limit : Nat} {d₀ : Display}
    (h : Starts manifest b bus ports (some (Utf8.encode script.inputs.keys)) start limit d₀) :
    ∃ m d, RanToLimit manifest ports limit script start m d₀ d (Outcome.ofMachine .maxSteps m) := by
  obtain ⟨n, hn⟩ := Nat.exists_eq_add_one.mpr (maxSteps_pos hscript)
  obtain ⟨_, -, hstarted⟩ := h.started
  have hlast : start.program.last = carriageReturn := by rw [hstarted.program]
  have hmax : (limitsOf script).maxSteps = some script.limits.maxSteps := rfl
  obtain ⟨m, d, k, hrun, hsteps, hhistory⟩ :=
    h.history.run hlast hstarted.steps hmax hwall fun _ => 0
  rw [toList_keyboardOf, hn, List.take_succ_cons] at hhistory
  have hacted := h.hasActedOn hhistory
  rw [Manifest.prompt_of_valid hmanifest] at hacted
  have hkeys : keysWithin script.inputs.keys script.limits.maxSteps =
      ((Utf8.encode script.inputs.keys).filter (· ≠ 0)).take n := by
    rw [keysWithin, hn, Nat.add_sub_cancel]
  have htranscript : (Outcome.ofMachine .maxSteps m).transcript = d.transcript.toList := by
    unfold Outcome.ofMachine
    rw [hacted.display]
    rfl
  have hscreen : (Outcome.ofMachine .maxSteps m).screen = d.screen.toList := by
    unfold Outcome.ofMachine
    rw [hacted.display]
    rfl
  refine ⟨m, d, hrun, rfl, hsteps, ?_, ?_, ?_, ?_⟩
  · rw [hkeys]
    exact hacted
  · rw [hkeys, Outcome.transcriptText, htranscript, hacted.records.transcript]
    rfl
  · rw [hkeys, Outcome.screenText, hscreen, hacted.records.screen]
    rfl
  · intro henough hfits
    have hall : ((Utf8.encode script.inputs.keys).filter (· ≠ 0)).take n =
        (Utf8.encode script.inputs.keys).filter (· ≠ 0) := List.take_of_length_le (by omega)
    have hrecords := hacted.records
    rw [Option.getD_some, hall] at hrecords
    rw [Outcome.screenText, hscreen]
    exact hrecords.screenText hfits

theorem carryOut_busOf {board : Board} (hboard : board.assemble = .ok bus) (w : World) :
    w.carryOut (liftM (busOf board)) = some (.ok bus, w) := by
  rw [World.carryOut_compute, busOf, hboard]
  rfl

/-- A run that ends leaves an outcome, and what it has printed. -/
theorem carryOut_outcomeOf {σ : Type} {start m : Machine σ Device} {limits : RunLimits}
    {reason : StopReason} (hrun : start.run limits (fun _ => 0) = some (reason, m))
    (failedCheck : σ → Option String) (w : World) :
    w.carryOut (outcomeOf World.host start limits failedCheck) =
      some (.ok { Outcome.ofMachine reason m with failedCheck := failedCheck m.program },
        { w with printed := m.bus.printedText :: w.printed }) := by
  have hhost : w.carryOut (liftM (World.host.run start limits)) = some (.ok (reason, m), w) := by
    have hlift : (World.host.run start limits).run w = some ((reason, m), w) := by
      show (start.run limits fun _ => 0).bind _ = _
      rw [hrun]
      rfl
    rw [World.carryOut_lift, hlift]
    rfl
  unfold outcomeOf
  rw [World.carryOut_bind_of_ok hhost]
  rfl

/-- Carrying out the script of a terminal that starts. -/
theorem carryOut_runScript {system : SystemDescription}
    (hfirmware : script.inputs.firmware = .terminal) (hboard : system.board.assemble = .ok bus)
    {echo : Bool} {start m : Machine Terminal Device}
    (hstart : terminalMachine system.manifest bus echo (some (Utf8.encode script.inputs.keys)) =
      .ok start)
    {reason : StopReason} (hrun : start.run (limitsOf script) (fun _ => 0) = some (reason, m))
    (w : World) :
    w.carryOut (runScript World.host script system echo) =
      some (.ok (Outcome.ofMachine reason m),
        { w with printed := m.bus.printedText :: w.printed }) := by
  unfold runScript
  rw [World.carryOut_bind_of_ok (carryOut_busOf hboard w), hfirmware]
  dsimp only
  rw [hstart, World.carryOut_bind_of_ok (World.carryOut_compute w (.ok start)),
    carryOut_outcomeOf hrun]
  rfl

/-- Carrying out the script of a terminal that does not start. -/
theorem carryOut_runScript_of_error {system : SystemDescription}
    (hfirmware : script.inputs.firmware = .terminal) (hboard : system.board.assemble = .ok bus)
    {echo : Bool} {t : Trouble}
    (hstart : terminalMachine system.manifest bus echo (some (Utf8.encode script.inputs.keys)) =
      .error t)
    (w : World) :
    w.carryOut (runScript World.host script system echo) = some (.error t, w) := by
  unfold runScript
  rw [World.carryOut_bind_of_ok (carryOut_busOf hboard w), hfirmware]
  dsimp only
  rw [hstart, World.carryOut_bind_of_error (World.carryOut_compute w (.error t))]

/-- After loading, a script is run and its report is concluded. -/
theorem execute_test {w : World} {options : TestOptions} {system : SystemDescription}
    (hscript : w.carryOut (Loading.script World.host.readFile options.script) =
      some (.ok script, w))
    (hsystem : w.carryOut (Loading.system World.host.readFile
      (script.inputs.system.map (FilePath.beside options.script))) = some (.ok system, w)) :
    w.execute (.test options) = w.carryOut (do
      let outcome ← runScript World.host script system (!options.noDisplayStdout)
      conclude World.host ⟨options.script,
        script.inputs.system.map (FilePath.beside options.script), script, outcome⟩
        options.outputDir) := by
  show w.carryOut (runTest World.host options) = _
  unfold runTest
  rw [World.carryOut_bind_of_ok hscript, World.carryOut_bind_of_ok hsystem]

/-- Testing a script has started the terminal of the system, run it to the limit,
and then concluded the report, whose result document tells of this run. -/
def TestedToLimit (w : World) (options : TestOptions) (script : Script) (system : SystemDescription)
    (bus : Bus Device) (ports : TerminalPorts) : Prop :=
  ∃ start m limit d₀ d outcome printed,
    terminalMachine system.manifest bus (!options.noDisplayStdout)
      (some (Utf8.encode script.inputs.keys)) = .ok start ∧
    start.bus.display? = some d₀ ∧
    (∃ s, system.board.ofKind? "display" = some s ∧ Board.scrollbackOf s = .ok limit) ∧
    RanToLimit system.manifest ports limit script start m d₀ d outcome ∧
    w.execute (.test options) = World.carryOut { w with printed := printed :: w.printed }
      (conclude World.host ⟨options.script,
        script.inputs.system.map (FilePath.beside options.script), script, outcome⟩
        options.outputDir) ∧
    ∀ code w', w.execute (.test options) = some (.ok code, w') → ∀ dir ∈ options.outputDir,
      ∃ document markup, Written dir document markup w.files w'.files ∧ document.TellsOf outcome

/-- A test that got as far as its report can only fail to write it. -/
theorem TestedToLimit.error {w w' : World} {options : TestOptions} {system : SystemDescription}
    (h : TestedToLimit w options script system bus ports) {t : Trouble}
    (herror : w.execute (.test options) = some (.error t, w')) :
    ∃ output path why, t = .writing output path why := by
  obtain ⟨_, _, _, _, _, outcome, printed, -, -, -, -, hconclude, -⟩ := h
  obtain ⟨answer, w₁, hends, honly⟩ := World.onlyWrites_conclude ⟨options.script,
    script.inputs.system.map (FilePath.beside options.script), script, outcome⟩
    options.outputDir { w with printed := printed :: w.printed }
  rw [hconclude, hends] at herror
  cases herror
  exact honly t rfl

end Program

/-- Testing a script for the terminal that only its step limit stops: when the
prompt and its zero do not lie inside data memory this is the trouble, and nothing
has been printed or written; otherwise the run ends at the limit, without an
overrun, and reports what the prompt and the keys that there were steps for have
left on the display. -/
theorem scripted_terminal_runs_to_its_limit {w : World} {options : TestOptions} {script : Script}
    {system : SystemDescription}
    (hscript : w.carryOut (Loading.script World.host.readFile options.script) =
      some (.ok script, w))
    (hsystem : w.carryOut (Loading.system World.host.readFile
      (script.inputs.system.map (FilePath.beside options.script))) = some (.ok system, w))
    (hfirmware : script.inputs.firmware = .terminal) (hwall : script.limits.wallTime = none)
    {bus : Bus Device} (hboard : system.board.assemble = .ok bus) {ports : TerminalPorts}
    (hports : TerminalPorts.ofBus? bus = some ports) :
    (∀ w', w.execute (.test options) = some (.error (.machine
        (.outOfRange system.manifest.promptAddr
          ((Utf8.encode system.manifest.prompt).length + 1))), w') ↔
      ¬ (system.manifest.terminal ports).PromptFits bus.ram ∧ w' = w) ∧
    ((system.manifest.terminal ports).PromptFits bus.ram →
      Program.TestedToLimit w options script system bus ports) := by
  obtain ⟨hvalid, -⟩ := World.validate_of_script hscript
  obtain ⟨hmanifest, -⟩ := World.validate_of_system hsystem
  have hexecute := Program.execute_test hscript hsystem
  have hruns (hfits : (system.manifest.terminal ports).PromptFits bus.ram) :
      Program.TestedToLimit w options script system bus ports := by
    obtain ⟨start, limit, d₀, hmachine, hstarts⟩ := Program.terminalMachine_of_fits hboard hports
      hfits (!options.noDisplayStdout) (some (Utf8.encode script.inputs.keys))
    obtain ⟨m, d, hran⟩ := hstarts.ranToLimit hmanifest hvalid hwall
    have hrun := Program.carryOut_runScript hfirmware hboard hmachine hran.ran w
    rw [World.carryOut_bind_of_ok hrun] at hexecute
    refine ⟨start, m, limit, d₀, d, _, m.bus.printedText, hmachine,
      hstarts.history.ready.wired.display, hstarts.scrollback, hran, hexecute, ?_⟩
    intro code w' hok dir hdir
    rw [hexecute] at hok
    obtain ⟨-, hwritten⟩ := Program.conclude_eq_ok hok
    exact ⟨_, _, hwritten dir hdir, TestReport.tellsOf_json _⟩
  have hfails (hfits : ¬ (system.manifest.terminal ports).PromptFits bus.ram) :
      w.execute (.test options) = some (.error (.machine (.outOfRange system.manifest.promptAddr
        ((Utf8.encode system.manifest.prompt).length + 1))), w) := by
    have hmachine := Program.terminalMachine_of_not_fits hboard hports hfits
      (!options.noDisplayStdout) (some (Utf8.encode script.inputs.keys))
    have hrun := Program.carryOut_runScript_of_error hfirmware hboard hmachine w
    rw [Manifest.prompt_of_valid hmanifest] at hrun
    rw [hexecute, World.carryOut_bind_of_error hrun]
  refine ⟨?_, hruns⟩
  intro w'
  constructor
  · intro herror
    by_cases hfits : (system.manifest.terminal ports).PromptFits bus.ram
    · obtain ⟨_, _, _, heq⟩ := (hruns hfits).error herror
      cases heq
    · rw [hfails hfits] at herror
      exact ⟨hfits, (Prod.mk.inj (Option.some.inj herror)).2.symm⟩
  · rintro ⟨hfits, rfl⟩
    exact hfails hfits

/-- On the stock system: one key and two steps. -/
theorem scripted_terminal_runs_to_its_limit_stock :
    ∃ (w : World) (script : Script) (bus : Bus Device),
      w.carryOut (Loading.script World.host.readFile "echo.yaml") = some (.ok script, w) ∧
      w.carryOut (Loading.system World.host.readFile
        (script.inputs.system.map (FilePath.beside "echo.yaml"))) = some (.ok {}, w) ∧
      script.inputs.firmware = .terminal ∧ script.limits.wallTime = none ∧
      Board.stock.assemble = .ok bus ∧ TerminalPorts.ofBus? bus = some {} ∧
      (({} : Manifest).terminal {}).PromptFits bus.ram ∧
      (∀ w', w.execute (.test { script := "echo.yaml" }) =
          some (.error (.machine (.outOfRange ({} : Manifest).promptAddr
            ((Utf8.encode ({} : Manifest).prompt).length + 1))), w') ↔
        ¬ (({} : Manifest).terminal {}).PromptFits bus.ram ∧ w' = w) ∧
      ((({} : Manifest).terminal {}).PromptFits bus.ram →
        Program.TestedToLimit w { script := "echo.yaml" } script {} bus {}) := by
  obtain ⟨bus, hboard, hports, hbase, hram⟩ := Board.stock_assembles
  have hfits : (({} : Manifest).terminal {}).PromptFits bus.ram := by
    rw [Terminal.PromptFits, hbase, hram]
    decide
  obtain ⟨script, hscript⟩ : ∃ s : Script, s = ⟨"1.0", { keys := "a" }, { maxSteps := 2 }, []⟩ :=
    ⟨_, rfl⟩
  obtain ⟨w, hread⟩ : ∃ w : World, (Loading.parse .script "echo.yaml" Script.read
      (w.files.contents "echo.yaml")).toOption = some script := by
    refine ⟨{ files := ({} : FileTree).addFile "echo.yaml" (Utf8.encode
      "schema_version: '1.0'\ninputs: \x7bkeys: a\x7d\nlimits: \x7bmax_steps: 2\x7d\n") }, ?_⟩
    rw [hscript]
    decide +kernel
  have hfirmware : script.inputs.firmware = .terminal := by rw [hscript]
  have hwall : script.limits.wallTime = none := by rw [hscript]
  have hloaded : w.carryOut (Loading.script World.host.readFile "echo.yaml") =
      some (.ok script, w) := World.carryOut_script hread (by rw [hscript]; rfl)
  have hsystem : w.carryOut (Loading.system World.host.readFile
      (script.inputs.system.map (FilePath.beside "echo.yaml"))) = some (.ok {}, w) := by
    rw [hscript]
    rfl
  have hruns := @scripted_terminal_runs_to_its_limit w { script := "echo.yaml" } script {} hloaded
    hsystem hfirmware hwall bus hboard {} hports
  exact ⟨w, script, bus, hloaded, hsystem, hfirmware, hwall, hboard, hports, hfits, hruns⟩

end PolledTerminal
