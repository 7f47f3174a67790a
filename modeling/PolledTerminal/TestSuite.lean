import PolledTerminal.Report
set_option autoImplicit false

/-!
# Test-suite documents

A report as the markup document that build servers read: a suite of cases, each
with a name and, if it failed, the reason.
-/

namespace PolledTerminal

open PolledTerminal.Text

/-- A case of a suite; `failure` is why it failed. -/
structure TestCase where
  name : String
  failure : Option String := none
  deriving DecidableEq, Repr, Inhabited

/-- A named list of cases, with the counts that stand at its head. -/
structure TestSuite where
  name : String
  tests : Nat
  failures : Nat
  cases : List TestCase
  deriving DecidableEq, Repr, Inhabited

/-- The case failed. -/
def TestCase.hasFailed (c : TestCase) : Bool := c.failure.isSome

namespace TestSuite

/-- An attribute of an element. -/
def attributeText (name value : String) : String := name ++ "=\"" ++ Markup.encode value ++ "\""

/-- The element of a case. -/
def caseElement (c : TestCase) : String :=
  let start := "  <testcase " ++ attributeText "name" c.name
  match c.failure with
  | none => start ++ "/>\n"
  | some reason =>
    start ++ ">\n    <failure " ++ attributeText "message" reason ++ "/>\n  </testcase>\n"

/-- The document of a suite. -/
def markup (s : TestSuite) : String :=
  "<?xml version=\"1.0\" encoding=\"UTF-8\"?>\n"
    ++ "<testsuite " ++ attributeText "name" s.name
    ++ " " ++ attributeText "tests" (toString s.tests)
    ++ " " ++ attributeText "failures" (toString s.failures) ++ ">\n"
    ++ String.join (s.cases.map caseElement)
    ++ "</testsuite>\n"

/-- The suite's name in reports. -/
def reportName : String := "puc8term"

/-- The case of an assertion. -/
def caseOf (o : Outcome) (a : Assertion) (holds : Bool) : TestCase where
  name := a.describe
  failure := if holds then none else some ("stop reason " ++ o.stopReason.label)

/-- The case of a run that went wrong unexpectedly. -/
def stopCase (o : Outcome) : TestCase where
  name := "stop_reason"
  failure := some ("unexpected stop reason " ++ o.stopReason.label)

/-- The suite of assertions that held or not on a run: the unexpected stop, if
there is one, then the assertions in order.  The counts are taken of the results. -/
def ofResults (o : Outcome) (unexpected : Bool) (results : List (Assertion × Bool)) :
    TestSuite where
  name := reportName
  tests := results.length + unexpected.toNat
  failures := results.countP (fun r => !r.2) + unexpected.toNat
  cases :=
    (if unexpected then [stopCase o] else [])
      ++ results.map fun (a, holds) => caseOf o a holds

/-- The suite of a report. -/
def ofReport (r : TestReport) : TestSuite := ofResults r.outcome r.unexpectedStop r.results

end TestSuite

end PolledTerminal
