import Mathlib.Data.List.Forall2
import PolledTerminal.Proofs.Suite.Reader
import PolledTerminal.TestSuite
set_option autoImplicit false

/-!
# Test-suite documents read back

The document of a suite is a heading and one element, with an element for each
case.  The escapes leave nothing in a name or a reason that ends an attribute or
starts a tag, so the reader finds the cases that were written.
-/

namespace PolledTerminal

open PolledTerminal.Text
open PolledTerminal.Text.Markup (Attribute Tag Element Reader Carries)

/-! ## Elements of a suite -/

/-- The element of a case. -/
def TestCase.element (c : TestCase) : Element :=
  .mk (Tag.plus ⟨"testcase", []⟩ "name" c.name)
    (c.failure.toList.map fun reason => .mk (Tag.plus ⟨"failure", []⟩ "message" reason) [])

namespace TestSuite

/-- The start tag of a suite. -/
def tag (s : TestSuite) : Tag :=
  ((Tag.plus ⟨"testsuite", []⟩ "name" s.name).plus "tests" (toString s.tests)).plus
    "failures" (toString s.failures)

/-- The element of a suite. -/
def element (s : TestSuite) : Element := .mk s.tag (s.cases.map TestCase.element)

end TestSuite

/-! ## Reading a suite -/

/-- The text may stand in a document. -/
def IsLegalText (s : String) : Prop := s.toList.all Markup.isLegal = true

instance (s : String) : Decidable (IsLegalText s) :=
  inferInstanceAs (Decidable (s.toList.all Markup.isLegal = true))

theorem IsLegalText.append {s t : String} (hs : IsLegalText s) (ht : IsLegalText t) :
    IsLegalText (s ++ t) := by
  rw [IsLegalText, String.toList_append, List.all_append, hs, ht]
  rfl

theorem isLegalText_quoted (s : String) : IsLegalText (Quoted.encode s) :=
  List.all_eq_true.mpr fun _ => Markup.isLegal_of_mem_quoted

/-- The texts of a case may stand in a document. -/
structure TestCase.IsLegal (c : TestCase) : Prop where
  name : IsLegalText c.name
  failure : ∀ reason ∈ c.failure, IsLegalText reason

/-- The texts of a suite may stand in a document. -/
structure TestSuite.IsLegal (s : TestSuite) : Prop where
  name : IsLegalText s.name
  cases : ∀ c ∈ s.cases, c.IsLegal

theorem isLegalText_toString (n : Nat) : IsLegalText (toString n) := by
  refine List.all_eq_true.mpr fun c hc => ?_
  rw [Nat.toString_eq_repr, Nat.toList_repr] at hc
  have hdigit := Nat.isDigit_of_mem_toDigits (by decide) (by decide) hc
  exact Markup.isLegal_of_isAlphanum (by rw [Char.isAlphanum, hdigit, Bool.or_true])

namespace TestSuite

section

variable {t : Tag} {unfinished : List (Tag × List Element)} {root : Option Element}

theorem carries_attributeText (name : String) {value : String} (hname : Markup.isName name = true)
    (hnew : ∀ x ∈ t.attributes, x.name ≠ name) (hlegal : IsLegalText value) :
    Carries ⟨.within t, unfinished, root⟩ (attributeText name value).toList
      ⟨.valued (t.plus name value), unfinished, root⟩ := by
  have htext : (attributeText name value).toList
      = name.toList ++ (['=', '"'] ++ ((Markup.encode value).toList ++ ['"'])) := by
    simp [attributeText]
  rw [htext]
  exact Markup.carries_attribute hname hnew hlegal

theorem carries_caseElement {c : TestCase} (h : c.IsLegal) {es : List Element} :
    Carries ⟨.between, (t, es) :: unfinished, root⟩ (caseElement c).toList
      ⟨.between, (t, es ++ [c.element]) :: unfinished, root⟩ := by
  have hopen : Carries ⟨.between, (t, es) :: unfinished, root⟩ "  <testcase ".toList
      ⟨.within ⟨"testcase", []⟩, (t, es) :: unfinished, root⟩ := .of_plain rfl (by decide)
  have hname := hopen.append (carries_attributeText "name" (by decide) (by simp) h.name)
  unfold caseElement TestCase.element
  cases hfailure : c.failure with
  | none => exact hname.append (.of_lines ['/', '>'] [] rfl rfl rfl (by decide))
  | some reason =>
      have hinside := hname.append (t := ">\n    <failure ")
        (.of_lines ['>'] "    <failure ".toList rfl rfl rfl (by decide))
      have hreason := hinside.append
        (carries_attributeText "message" (by decide) (by simp) (h.failure reason hfailure))
      exact hreason.append
        ((Carries.of_lines ['/', '>'] "  </testcase>".toList rfl rfl rfl (by decide)).trans
          (.newline rfl))

theorem carries_caseElements {cs : List TestCase} (h : ∀ c ∈ cs, c.IsLegal) (es : List Element) :
    Carries ⟨.between, (t, es) :: unfinished, root⟩ (String.join (cs.map caseElement)).toList
      ⟨.between, (t, es ++ cs.map TestCase.element) :: unfinished, root⟩ := by
  rw [String.toList_join, List.flatMap_map]
  induction cs generalizing es with
  | nil => simpa using Carries.of_plain rfl (by simp)
  | cons c cs ih =>
      have hrest := ih (fun d hd => h d (List.mem_cons_of_mem c hd)) (es ++ [c.element])
      rw [List.append_assoc, List.singleton_append] at hrest
      exact (carries_caseElement (h c List.mem_cons_self)).trans hrest

end

/-- The reader takes the whole document of a suite and is left with its element. -/
theorem carries_markup {s : TestSuite} (h : s.IsLegal) :
    Carries Reader.start s.markup.toList ⟨.between, [], some s.element⟩ := by
  have hheading : Carries Reader.start "<?xml version=\"1.0\" encoding=\"UTF-8\"?>\n".toList
      ⟨.between, [], none⟩ := .of_lines Markup.heading [] rfl rfl rfl (by decide)
  have hopen : Carries ⟨.between, [], none⟩ "<testsuite ".toList
      ⟨.within ⟨"testsuite", []⟩, [], none⟩ := .of_plain rfl (by decide)
  have hspace (t : Tag) : Carries ⟨.valued t, [], none⟩ " ".toList ⟨.within t, [], none⟩ :=
    .of_plain rfl (by decide)
  have hclose (t : Tag) : Carries ⟨.valued t, [], none⟩ ">\n".toList
      ⟨.between, [(t, [])], none⟩ := .of_lines ['>'] [] rfl rfl rfl (by decide)
  have hend (es : List Element) : Carries ⟨.between, [(s.tag, es)], none⟩ "</testsuite>\n".toList
      ⟨.between, [], some (.mk s.tag es)⟩ :=
    .of_lines "</testsuite>".toList [] rfl rfl rfl (by decide)
  have hname := (hheading.append hopen).append
    (carries_attributeText "name" (by decide) (by simp) h.name)
  have htests := (hname.append (hspace _)).append
    (carries_attributeText "tests" (by decide) (by simp [Tag.plus])
      (isLegalText_toString s.tests))
  have hfailures := (htests.append (hspace _)).append
    (carries_attributeText "failures" (by decide) (by simp [Tag.plus])
      (isLegalText_toString s.failures))
  exact ((hfailures.append (hclose _)).append (carries_caseElements h.cases [])).append (hend _)

theorem read?_markup {s : TestSuite} (h : s.IsLegal) : Markup.read? s.markup = some s.element := by
  rw [Markup.read?, (carries_markup h).reads]
  rfl

end TestSuite

/-! ## What the element says -/

namespace TestCase

/-- The element is one of a case with this name, which failed or not. -/
structure IsElement (name : String) (failed : Prop) (e : Element) : Prop where
  tag : e.tag.name = "testcase"
  name : e.tag.attribute? "name" = some name
  failure : (∃ x ∈ e.children, x.tag.name = "failure") ↔ failed

theorem isElement_element (c : TestCase) {failed : Prop} (h : c.failure.isSome = true ↔ failed) :
    IsElement c.name failed c.element where
  tag := rfl
  name := rfl
  failure := by
    rw [← h]
    cases hfailure : c.failure <;>
      simp [element, hfailure, Element.children, Element.tag, Tag.plus]

/-- Nothing is inside what is inside a case. -/
theorem all_element (c : TestCase) : c.element.all = c.element :: c.element.children := by
  rw [element]
  cases c.failure <;> rfl

theorem isEscaped_of_mem_all (c : TestCase) {e : Element} (he : e ∈ c.element.all) :
    e.tag.IsEscaped := by
  rw [all_element] at he
  rcases List.mem_cons.mp he with rfl | he
  · exact Tag.isEscaped_nil.plus _ _
  · obtain ⟨reason, -, rfl⟩ := List.mem_map.mp he
    exact Tag.isEscaped_nil.plus _ _

theorem count_testcase (c : TestCase) : c.element.count "testcase" = 1 := by
  rw [Element.count, all_element, element]
  cases c.failure <;> simp [Element.children, Element.tag, Tag.plus]

theorem count_failure (c : TestCase) :
    c.element.count "failure" = if c.hasFailed then 1 else 0 := by
  rw [Element.count, all_element, element, hasFailed]
  cases c.failure <;> simp [Element.children, Element.tag, Tag.plus]

end TestCase

namespace TestSuite

/-- Elements of a suite are inside its cases: where a case has one of a name or
none, there are as many as there are cases that have one. -/
theorem count_element (s : TestSuite) {name : String} {p : TestCase → Bool}
    (hname : name ≠ "testsuite") (hp : ∀ c, c.element.count name = if p c then 1 else 0) :
    s.element.count name = s.cases.countP p := by
  have hcases (cs : List TestCase) :
      ((Element.allOf (cs.map TestCase.element)).countP fun e => e.tag.name = name)
        = cs.countP p := by
    induction cs with
    | nil => rfl
    | cons c cs ih =>
        rw [List.map_cons, Element.allOf, List.countP_append, ← Element.count, hp, ih,
          List.countP_cons, Nat.add_comm]
  have hself : s.element.count name =
      (Element.allOf (s.cases.map TestCase.element)).countP fun e => e.tag.name = name :=
    List.countP_cons_of_neg fun heq => hname (of_decide_eq_true heq).symm
  rw [hself, hcases]

/-- The counts at the head of the suite are those of its cases. -/
structure CountsCases (s : TestSuite) : Prop where
  tests : s.tests = s.cases.length
  failures : s.failures = s.cases.countP TestCase.hasFailed

/-- The attributes of a suite with the right counts tell how many elements there are for
cases and how many for failures. -/
theorem attribute?_tag {s : TestSuite} (h : s.CountsCases) :
    s.tag.attribute? "tests" = some (toString (s.element.count "testcase")) ∧
      s.tag.attribute? "failures" = some (toString (s.element.count "failure")) := by
  have htests : s.element.count "testcase" = s.tests := by
    rw [count_element s (p := fun _ => true) (by decide) TestCase.count_testcase, List.countP_true,
      h.tests]
  have hfailures : s.element.count "failure" = s.failures := by
    rw [count_element s (by decide) TestCase.count_failure, h.failures]
  rw [htests, hfailures]
  exact ⟨rfl, rfl⟩

/-- Every value in a suite's element was written escaped. -/
theorem isEscaped_of_mem_all (s : TestSuite) {e : Element} (he : e ∈ s.element.all) :
    e.tag.IsEscaped := by
  rcases List.mem_cons.mp he with rfl | he
  · exact ((Tag.isEscaped_nil.plus _ _).plus _ _).plus _ _
  · rw [Element.allOf_eq_flatMap] at he
    obtain ⟨e', hmem, he⟩ := List.mem_flatMap.mp he
    obtain ⟨c, -, rfl⟩ := List.mem_map.mp hmem
    exact c.isEscaped_of_mem_all he

end TestSuite

/-! ## The suite of some results -/

namespace StopReason

theorem isLegalText_label (r : StopReason) : IsLegalText r.label := by
  cases r <;> decide

theorem label_injective : Function.Injective label := by
  intro r s
  cases r <;> cases s <;> decide

end StopReason

namespace Assertion

theorem isLegalText_describe (a : Assertion) : IsLegalText a.describe := by
  cases a with
  | displayContains text => exact IsLegalText.append (by decide) (isLegalText_quoted text)
  | screenEquals text => exact IsLegalText.append (by decide) (isLegalText_quoted text)
  | stopsWith reason => exact IsLegalText.append (by decide) reason.isLegalText_label

theorem head?_append {s t : String} {c : Char} (h : s.toList.head? = some c) :
    (s ++ t).toList.head? = some c := by
  rw [String.toList_append, List.head?_append, h, Option.some_or]

/-- The kinds of assertion differ in the first character of their names. -/
theorem head?_describe (a : Assertion) :
    a.describe.toList.head? = some (match a with
      | .displayContains _ => 'd'
      | .screenEquals _ => 's'
      | .stopsWith _ => 'e') := by
  cases a with
  | displayContains => exact head?_append rfl
  | screenEquals => exact head?_append rfl
  | stopsWith => exact head?_append rfl

/-- Different assertions have different names. -/
theorem eq_of_describe_eq {a b : Assertion} (h : a.describe = b.describe) : a = b := by
  have hhead := congrArg (fun s => s.toList.head?) h
  simp only [head?_describe] at hhead
  cases a with
  | displayContains text =>
      cases b with
      | displayContains text' =>
          rw [Quoted.encode_injective ((String.append_right_inj _).mp h)]
      | screenEquals | stopsWith => cases hhead
  | screenEquals text =>
      cases b with
      | screenEquals text' => rw [Quoted.encode_injective ((String.append_right_inj _).mp h)]
      | displayContains | stopsWith => cases hhead
  | stopsWith reason =>
      cases b with
      | stopsWith reason' => rw [StopReason.label_injective ((String.append_right_inj _).mp h)]
      | displayContains | screenEquals => cases hhead

end Assertion

namespace TestSuite

theorem isLegal_stopCase (o : Outcome) : (stopCase o).IsLegal where
  name := show IsLegalText "stop_reason" by decide
  failure := by
    rintro _ ⟨⟩
    exact .append (by decide) o.stopReason.isLegalText_label

theorem isLegal_caseOf (o : Outcome) (a : Assertion) (holds : Bool) :
    (caseOf o a holds).IsLegal where
  name := a.isLegalText_describe
  failure := by
    cases holds with
    | true => rintro _ ⟨⟩
    | false =>
        rintro _ ⟨⟩
        exact .append (by decide) o.stopReason.isLegalText_label

/-- What is true of all cases: of the unexpected stop, if there is one, and of the
case of each assertion. -/
theorem forall_mem_cases_ofResults {o : Outcome} {unexpected : Bool}
    {results : List (Assertion × Bool)} {p : TestCase → Prop} :
    (∀ c ∈ (ofResults o unexpected results).cases, p c) ↔
      (unexpected = true → p (stopCase o)) ∧ ∀ x ∈ results, p (caseOf o x.1 x.2) := by
  rw [ofResults, List.forall_mem_append, List.forall_mem_map]
  refine and_congr_left fun _ => ?_
  cases unexpected with
  | true => exact List.forall_mem_singleton.trans (by simp)
  | false => exact iff_of_true (fun _ hc => absurd hc List.not_mem_nil) (by simp)

theorem isLegal_ofResults (o : Outcome) (unexpected : Bool) (results : List (Assertion × Bool)) :
    (ofResults o unexpected results).IsLegal where
  name := show IsLegalText reportName by decide
  cases := forall_mem_cases_ofResults.mpr
    ⟨fun _ => isLegal_stopCase o, fun x _ => isLegal_caseOf o x.1 x.2⟩

theorem hasFailed_caseOf (o : Outcome) (a : Assertion) (holds : Bool) :
    (caseOf o a holds).hasFailed = !holds := by
  cases holds <;> rfl

/-- The results and the unexpected stop are counted as often as they have cases. -/
theorem countsCases_ofResults (o : Outcome) (unexpected : Bool)
    (results : List (Assertion × Bool)) : (ofResults o unexpected results).CountsCases where
  tests := by
    have hstop : (if unexpected then [stopCase o] else []).length = unexpected.toNat := by
      cases unexpected <;> rfl
    show _ = List.length (_ ++ _)
    rw [List.length_append, List.length_map, hstop, Nat.add_comm]
    rfl
  failures := by
    have hstop : (if unexpected then [stopCase o] else []).countP TestCase.hasFailed =
        unexpected.toNat := by
      cases unexpected <;> rfl
    show _ = List.countP _ (_ ++ _)
    rw [List.countP_append, hstop, List.countP_map, Nat.add_comm]
    refine congrArg (· + unexpected.toNat) (List.countP_congr fun r _ => ?_)
    show (!r.2) = true ↔ (caseOf o r.1 r.2).hasFailed = true
    rw [hasFailed_caseOf]

end TestSuite

/-- The element shows results: a failed case of the unexpected stop first, if
there was one, and then a case for each assertion in order, under the assertion's
name and failed exactly if the assertion does not hold. -/
def ShowsResults (unexpected : Bool) (results : List (Assertion × Bool)) (suite : Element) :
    Prop :=
  ∃ stops cases, suite.children = stops ++ cases ∧
    (if unexpected then ∃ e, stops = [e] ∧ TestCase.IsElement "stop_reason" True e
      else stops = []) ∧
    List.Forall₂ (fun e (a, holds) => TestCase.IsElement a.describe (holds = false) e) cases results

theorem TestSuite.showsResults_ofResults (o : Outcome) (unexpected : Bool)
    (results : List (Assertion × Bool)) :
    ShowsResults unexpected results (ofResults o unexpected results).element := by
  refine ⟨_, _, List.map_append, ?_, ?_⟩
  · cases unexpected with
    | true => exact ⟨_, rfl, (stopCase o).isElement_element (iff_of_true rfl trivial)⟩
    | false => rfl
  · refine List.forall₂_map_left_iff.mpr (List.forall₂_map_left_iff.mpr
      (List.forall₂_same.mpr fun ⟨a, holds⟩ _ => ?_))
    exact (caseOf o a holds).isElement_element (by cases holds <;> simp [caseOf])

/-- The document of a test suite is well formed and reads back as the results it
was made from, whatever texts the assertions hold.  Its control characters are
newlines between tags, its ampersands start references, and what is written for
an attribute has no angle bracket and no quote.  Its counts are those of the
cases and failures inside it.  Different assertions have different names. -/
theorem suite_documents_read_back (o : Outcome) (unexpected : Bool)
    (results : List (Assertion × Bool)) :
    let text := (TestSuite.ofResults o unexpected results).markup
    (∀ before c after, text.toList = before ++ c :: after → Markup.isControl c = true →
      c = '\n' ∧ Markup.EndsBetweenTags before) ∧
    (∀ before after, text.toList = before ++ '&' :: after →
      ∃ c, Markup.encodeChar c ≠ [c] ∧ Markup.encodeChar c <+: '&' :: after) ∧
    (∃ suite, Markup.read? text = some suite ∧ suite.tag.name = "testsuite" ∧
      (∀ e ∈ suite.all, ∀ x ∈ e.tag.attributes, x.written = Markup.encode x.value ∧
        ∀ c ∈ x.written.toList, c ≠ '<' ∧ c ≠ '>' ∧ c ≠ '"') ∧
      suite.tag.attribute? "tests" = some (toString (suite.count "testcase")) ∧
      suite.tag.attribute? "failures" = some (toString (suite.count "failure")) ∧
      ShowsResults unexpected results suite) ∧
    ∀ a b : Assertion, a ≠ b → a.describe ≠ b.describe := by
  intro text
  have hlegal := TestSuite.isLegal_ofResults o unexpected results
  have hcarries := TestSuite.carries_markup hlegal
  have hcounts := TestSuite.attribute?_tag (TestSuite.countsCases_ofResults o unexpected results)
  refine ⟨hcarries.newlines, hcarries.references, ⟨_, TestSuite.read?_markup hlegal, rfl, ?_,
    hcounts.1, hcounts.2, TestSuite.showsResults_ofResults o unexpected results⟩, ?_⟩
  · intro e he x hx
    have hwritten := TestSuite.isEscaped_of_mem_all _ he x hx
    refine ⟨hwritten, fun c hc => ?_⟩
    have hsafe := Markup.isSafe_of_mem_encode (hwritten ▸ hc)
    exact ⟨hsafe.ne_less, hsafe.ne_greater, hsafe.ne_quote⟩
  · intro a b hne heq
    exact hne (Assertion.eq_of_describe_eq heq)

end PolledTerminal
