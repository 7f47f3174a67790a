import PolledTerminal.Proofs.Text.Lossy
import PolledTerminal.Report
set_option autoImplicit false

/-!
# What assertions on the display decide

Assertions are compared with the text that a run's octets show, in which pieces
that are no characters are replaced.  An assertion whose text has no replacement
character is nevertheless one about the octets themselves, whatever they are.
-/

namespace PolledTerminal

open PolledTerminal.Text

namespace Assertion

theorem occursIn_iff (part cs : List Char) : occursIn part cs = true ↔ part <:+: cs := by
  induction cs with
  | nil => rw [occursIn, List.isEmpty_iff, List.infix_nil]
  | cons c cs ih =>
      rw [occursIn, Bool.or_eq_true, ih, List.isPrefixOf_iff_prefix, List.infix_cons_iff]

/-- What an assertion says of a run. -/
def IsTrueOf (o : Outcome) : Assertion → Prop
  | .displayContains text => text.toList <:+: o.transcriptText.toList
  | .screenEquals text => o.screenText = text
  | .stopsWith reason => o.stopReason = reason

theorem holds_iff (o : Outcome) (a : Assertion) : a.holds o = true ↔ a.IsTrueOf o := by
  cases a with
  | displayContains text => exact occursIn_iff _ _
  | screenEquals text => exact beq_iff_eq
  | stopsWith reason => exact beq_iff_eq

variable (o : Outcome) (s : String)

theorem holds_displayContains_iff :
    (displayContains s).holds o = true ↔ s.toList <:+: Utf8.decodeLossyChars o.transcript := by
  rw [holds, occursIn_iff, Outcome.transcriptText, Utf8.decodeLossy, String.toList_ofList]

theorem holds_screenEquals_iff :
    (screenEquals s).holds o = true ↔ Utf8.decodeLossyChars o.screen = s.toList := by
  rw [holds, beq_iff_eq, ← String.toList_inj, Outcome.screenText, Utf8.decodeLossy,
    String.toList_ofList]

end Assertion

/-- Whatever octets a display took, valid or not, an assertion that the display contains
a text without replacement characters holds exactly when the octets of that text stand
together in the transcript, and an assertion that the screen is such a text holds exactly
when the screen has these octets and no others. -/
theorem assertions_decide_the_octets (o : Outcome) {s : String} (hs : '\uFFFD' ∉ s.toList) :
    ((Assertion.displayContains s).holds o = true ↔ Utf8.encode s <:+: o.transcript) ∧
      ((Assertion.screenEquals s).holds o = true ↔ o.screen = Utf8.encode s) := by
  constructor
  · rw [Assertion.holds_displayContains_iff, Utf8.infix_decodeLossyChars_iff hs, Utf8.encode]
  · rw [Assertion.holds_screenEquals_iff, Utf8.decodeLossyChars_eq_iff hs, Utf8.encode]

/-- A run cut off inside a character, behind a character that was cut off before. -/
def cutOutcome : Outcome where
  stopReason := .maxSteps
  steps := 7
  cycles := 19
  transcript := [0xE2, 0x82, 0xC3, 0xA9, 0x21, 0xF0, 0x9F]
  screen := [0xC3, 0xA9, 0x21, 0xF0, 0x9F]

theorem assertions_decide_the_octets_cut :
    '\uFFFD' ∉ "é!".toList ∧ (Assertion.displayContains "é!").holds cutOutcome = true ∧
      (Assertion.screenEquals "é!").holds cutOutcome = false := by
  have hs : '\uFFFD' ∉ "é!".toList := by decide
  obtain ⟨hcontains, hequals⟩ := assertions_decide_the_octets cutOutcome hs
  refine ⟨hs, hcontains.mpr ⟨[0xE2, 0x82], [0xF0, 0x9F], by decide⟩, ?_⟩
  rw [← Bool.not_eq_true, hequals]
  decide

end PolledTerminal
