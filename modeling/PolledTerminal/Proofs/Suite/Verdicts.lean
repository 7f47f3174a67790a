import PolledTerminal.Proofs.Program.Concluding
import PolledTerminal.Proofs.Suite.Assertions
import PolledTerminal.Proofs.Suite.Document
set_option autoImplicit false

/-!
# The verdicts of a test

A test tells three times how it went: by its exit code, by the status in its
result document, and by the failures that its suite counts.  All three come down
to the assertions and to how the run stopped.
-/

namespace PolledTerminal

open PolledTerminal.Text

/-! ## The exit code -/

/-- The ends of the runs that went wrong. -/
def StopReason.wrongEnds : List StopReason := [.portViolation, .memoryFault, .errorHalt]

theorem StopReason.isAbnormal_iff (reason : StopReason) :
    reason.isAbnormal = true ↔ reason ∈ wrongEnds := by
  cases reason <;> decide

namespace TestReport

/-- Every assertion is true of the run, and if the run went wrong the script says how
it ends. -/
structure IsAsExpected (r : TestReport) : Prop where
  assertions : ∀ a ∈ r.script.assertions, a.IsTrueOf r.outcome
  stop : r.outcome.stopReason ∈ StopReason.wrongEnds →
    ∃ reason, Assertion.stopsWith reason ∈ r.script.assertions

theorem any_expectsStop {as : List Assertion} :
    as.any Assertion.expectsStop = true ↔ ∃ reason, Assertion.stopsWith reason ∈ as := by
  rw [List.any_eq_true]
  constructor
  · rintro ⟨a, ha, hstop⟩
    cases a with
    | stopsWith reason => exact ⟨reason, ha⟩
    | displayContains | screenEquals => cases hstop
  · rintro ⟨reason, ha⟩
    exact ⟨_, ha, rfl⟩

theorem unexpectedStop_iff (r : TestReport) :
    r.unexpectedStop = true ↔ r.outcome.stopReason ∈ StopReason.wrongEnds ∧
      ∀ reason, Assertion.stopsWith reason ∉ r.script.assertions := by
  rw [unexpectedStop, Bool.and_eq_true, Bool.not_eq_true', ← Bool.not_eq_true, any_expectsStop,
    not_exists, StopReason.isAbnormal_iff]

theorem passed_iff (r : TestReport) : r.passed = true ↔ r.IsAsExpected := by
  have hresults : r.results.all Prod.snd = true ↔
      ∀ a ∈ r.script.assertions, a.IsTrueOf r.outcome := by
    simp [results, Assertion.holds_iff]
  have hstop : r.unexpectedStop = false ↔ (r.outcome.stopReason ∈ StopReason.wrongEnds →
      ∃ reason, Assertion.stopsWith reason ∈ r.script.assertions) := by
    rw [← Bool.not_eq_true, unexpectedStop_iff, not_and, not_forall]
    simp only [not_not]
  rw [passed, Bool.and_eq_true, Bool.not_eq_true', hresults, hstop]
  exact ⟨fun h => ⟨h.1, h.2⟩, fun h => ⟨h.assertions, h.stop⟩⟩

theorem exitCode_eq_zero_iff (r : TestReport) : r.exitCode = 0 ↔ r.IsAsExpected := by
  rw [← passed_iff, exitCode]
  cases r.passed <;> decide

/-- A run that went wrong is as expected only if the script names this end. -/
theorem IsAsExpected.stopsWith_mem {r : TestReport} (h : r.IsAsExpected)
    (hwrong : r.outcome.stopReason ∈ StopReason.wrongEnds) :
    Assertion.stopsWith r.outcome.stopReason ∈ r.script.assertions := by
  obtain ⟨reason, hmem⟩ := h.stop hwrong
  have hreason : r.outcome.stopReason = reason := h.assertions _ hmem
  rwa [hreason]

end TestReport

/-! ## The result document -/

/-- The second text is the first with something behind it. -/
def Extends (s t : String) : Prop := ∃ rest, t = s ++ rest

namespace Extends

theorem append (s rest : String) : Extends s (s ++ rest) := ⟨rest, rfl⟩

theorem trans {s t u : String} (h₁ : Extends s t) (h₂ : Extends t u) : Extends s u := by
  obtain ⟨rest₁, rfl⟩ := h₁
  obtain ⟨rest₂, rfl⟩ := h₂
  exact ⟨rest₁ ++ rest₂, String.append_assoc⟩

/-- Put more behind. -/
theorem more {s t : String} (h : Extends s t) (rest : String) : Extends s (t ++ rest) :=
  h.trans (.append t rest)

/-- Texts of one length start a text in one way. -/
theorem eq_of_length_eq {p q t : String} (hp : Extends p t) (hq : Extends q t)
    (hlength : p.toList.length = q.toList.length) : p = q := by
  obtain ⟨rest, rfl⟩ := hp
  obtain ⟨rest', heq⟩ := hq
  have hlist := congrArg String.toList heq
  rw [String.toList_append, String.toList_append] at hlist
  exact String.toList_inj.mp (List.append_inj_left hlist hlength)

end Extends

namespace Json

mutual

/-- Writing a document keeps the text before it. -/
theorem extends_prettyAfter (depth : Nat) (out : String) :
    ∀ j : Json, Extends out (prettyAfter depth out j)
  | .arr [] => .append out "[]"
  | .arr (j :: js) =>
    (((Extends.append out "[").trans (extends_prettyItems _ _ (j :: js))).more _).more "]"
  | .obj [] => .append out "\x7b\x7d"
  | .obj (m :: ms) =>
    (((Extends.append out "\x7b").trans (extends_prettyMembers _ _ (m :: ms))).more _).more "\x7d"
  | .null => .append out _
  | .bool _ => .append out _
  | .int _ => .append out _
  | .real _ => .append out _
  | .str _ => .append out _

theorem extends_prettyItems (depth : Nat) (out : String) :
    ∀ js : List Json, Extends out (prettyItems depth out js)
  | [] => ⟨"", String.append_empty.symm⟩
  | [j] => (Extends.append out _).trans (extends_prettyAfter _ _ j)
  | j :: k :: js =>
    (((Extends.append out _).trans (extends_prettyAfter _ _ j)).more ",").trans
      (extends_prettyItems _ _ (k :: js))

theorem extends_prettyMembers (depth : Nat) (out : String) :
    ∀ ms : List (String × Json), Extends out (prettyMembers depth out ms)
  | [] => ⟨"", String.append_empty.symm⟩
  | [(_, j)] =>
    ((((Extends.append out _).more _).more ": ").trans (extends_prettyAfter _ _ j))
  | (_, j) :: m :: ms =>
    ((((Extends.append out _).more _).more ": ").trans (extends_prettyAfter _ _ j)).more ","
      |>.trans (extends_prettyMembers _ _ (m :: ms))

end

/-- An object starts with its first member. -/
theorem extends_pretty_obj (k : String) (j : Json) (m : String × Json)
    (ms : List (String × Json)) :
    Extends (prettyAfter 1 ("\x7b\n  " ++ quote k ++ ": ") j ++ ",")
      (pretty (.obj ((k, j) :: m :: ms))) := by
  have hopen : "" ++ "\x7b" ++ newline 1 = "\x7b\n  " := by decide
  rw [pretty, prettyAfter, prettyMembers, hopen]
  · exact ((extends_prettyMembers 1 _ (m :: ms)).more _).more _
  · exact List.cons_ne_nil m ms

end Json

namespace TestReport

/-- The result document starts with the status. -/
theorem extends_pretty_json (r : TestReport) :
    Extends ("\x7b\n  " ++ Json.quote "status" ++ ": " ++ Json.quote r.status ++ ",")
      r.json.pretty :=
  Json.extends_pretty_obj "status" (.str r.status) _ _

/-- The text of the result document up to its status tells whether the test
passed. -/
theorem extends_pass_iff (r : TestReport) :
    Extends "\x7b\n  \"status\": \"pass\"," r.json.pretty ↔ r.IsAsExpected := by
  have hstatus := r.extends_pretty_json
  rw [status] at hstatus
  rw [← passed_iff]
  cases hpassed : r.passed with
  | true =>
      rw [hpassed] at hstatus
      exact iff_of_true hstatus rfl
  | false =>
      rw [hpassed] at hstatus
      refine iff_of_false (fun hpass => ?_) (by decide)
      exact absurd (hpass.eq_of_length_eq hstatus (by decide)) (by decide)

end TestReport

/-! ## The failures of the suite -/

namespace TestSuite

theorem failures_eq_zero_iff (r : TestReport) :
    (ofReport r).failures = 0 ↔ r.IsAsExpected := by
  have hresults : (r.results.countP fun x => !x.2) = 0 ↔ r.results.all Prod.snd = true := by
    simp [List.countP_eq_zero]
  have hfailures : (ofReport r).failures =
      (r.results.countP fun x => !x.2) + r.unexpectedStop.toNat := rfl
  rw [hfailures, Nat.add_eq_zero_iff, hresults, Bool.toNat_eq_zero, ← TestReport.passed_iff,
    TestReport.passed, Bool.and_eq_true, Bool.not_eq_true']

theorem toString_eq_zero_iff (n : Nat) : toString n = "0" ↔ n = 0 := by
  refine ⟨fun h => ?_, fun h => by rw [h]; rfl⟩
  have hdigits := congrArg (fun s : String => Nat.ofDigitChars 10 s.toList 0) h
  simp only [Nat.toString_eq_repr, Nat.toList_repr, Nat.ofDigitChars_ten_toDigits] at hdigits
  exact hdigits.trans (by decide)

/-- The count that a suite's document tells is zero exactly if the test passed. -/
theorem attribute?_failures_eq_zero_iff (r : TestReport) :
    (ofReport r).element.tag.attribute? "failures" = some "0" ↔ r.IsAsExpected := by
  have hcount : (ofReport r).element.tag.attribute? "failures"
      = some (toString (ofReport r).failures) := rfl
  rw [hcount, Option.some_inj, ← failures_eq_zero_iff, toString_eq_zero_iff]

end TestSuite

/-- The three verdicts of a test agree, whatever the script asserts and however
the run has ended: the exit code is zero, the result document starts with the
status of a pass and the suite's document counts no failures exactly if every
assertion is true of the run and the script of a run that went wrong says how it ends.  So
such a run passes only if the script names the end that it had, and the suite
shows an unexpected stop before the assertions exactly if the run went wrong and
the script names no end.  If documents are wanted, these two are what the files of the
directory hold in the end. -/
theorem test_verdicts_agree {r : TestReport} {outputDir : Option String} {w w' : World}
    {code : Nat} (h : w.carryOut (Program.conclude World.host r outputDir) = some (.ok code, w')) :
    (∀ dir ∈ outputDir,
      Program.Written dir r.json (TestSuite.ofReport r).markup w.files w'.files) ∧
    (code = 0 ↔ r.IsAsExpected) ∧
    (Extends "\x7b\n  \"status\": \"pass\"," r.json.pretty ↔ r.IsAsExpected) ∧
    (code = 0 → r.outcome.stopReason ∈ StopReason.wrongEnds →
      Assertion.stopsWith r.outcome.stopReason ∈ r.script.assertions) ∧
    ∃ suite, Markup.read? (TestSuite.ofReport r).markup = some suite ∧
      (suite.tag.attribute? "failures" = some "0" ↔ r.IsAsExpected) ∧
      ShowsResults r.unexpectedStop r.results suite ∧
      (r.unexpectedStop = true ↔ r.outcome.stopReason ∈ StopReason.wrongEnds ∧
        ∀ reason, Assertion.stopsWith reason ∉ r.script.assertions) := by
  obtain ⟨rfl, hwritten⟩ := Program.conclude_eq_ok h
  have hlegal := TestSuite.isLegal_ofResults r.outcome r.unexpectedStop r.results
  refine ⟨hwritten, r.exitCode_eq_zero_iff, r.extends_pass_iff, ?_, _,
    TestSuite.read?_markup hlegal, TestSuite.attribute?_failures_eq_zero_iff r,
    TestSuite.showsResults_ofResults r.outcome r.unexpectedStop r.results, r.unexpectedStop_iff⟩
  intro hcode hwrong
  exact (r.exitCode_eq_zero_iff.mp hcode).stopsWith_mem hwrong

/-- A run that halts on an error, which its script expects. -/
def expectedHalt : TestReport where
  scriptPath := "halt.yaml"
  systemPath := none
  script := ⟨"1.0", { firmware := .selftest }, { maxSteps := 9 }, [.stopsWith .errorHalt]⟩
  outcome := { stopReason := .errorHalt, steps := 3, cycles := 3 }

/-- The halt is as expected, and the documents that tell so have been written. -/
theorem test_verdicts_agree_expected_halt :
    ∃ w', World.carryOut {} (Program.conclude World.host expectedHalt (some "out")) =
        some (.ok 0, w') ∧
      Program.Written "out" expectedHalt.json (TestSuite.ofReport expectedHalt).markup
        {} w'.files ∧
      expectedHalt.IsAsExpected := by
  have hcode : (World.carryOut {} (Program.conclude World.host expectedHalt (some "out"))).bind
      (fun p => p.1.toOption) = some 0 := by decide +kernel
  obtain ⟨⟨answer, w'⟩, hrun, hanswer⟩ := Option.bind_eq_some_iff.mp hcode
  cases answer with
  | error t => cases hanswer
  | ok code =>
      cases hanswer
      have hagree := test_verdicts_agree hrun
      exact ⟨w', hrun, hagree.1 "out" rfl, hagree.2.1.mp rfl⟩

end PolledTerminal
