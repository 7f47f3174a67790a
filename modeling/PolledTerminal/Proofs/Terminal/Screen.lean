import PolledTerminal.Proofs.Display.Contents
import PolledTerminal.Proofs.Terminal.Reactions
import PolledTerminal.Proofs.Text.Utf8
set_option autoImplicit false

/-!
# The screen of a terminal

Since the screen was last emptied the terminal has shown the prompt and the keys
after the last carriage return.  When both fit, the screen reads as the text of
the prompt and of these keys, although keys arrive octet by octet.
-/

namespace PolledTerminal

open PolledTerminal.Text

/-- A redraw leaves the prompt alone on the screen. -/
theorem sinceClear_append_redraw (ws : List RegisterWrite) (prompt : Bytes) :
    sinceClear (ws ++ Reaction.redraw.writes prompt) = prompt.map .character := by
  rw [Reaction.writes, List.append_cons, sinceClear_append_of_not_mem (clear_notMem_characters _),
    sinceClear_append_clear, List.nil_append]

theorem reactions_singleton (prompt : Bytes) (key : UInt8) :
    reactions prompt [key] = (Reaction.ofLast key).writes prompt :=
  List.flatMap_singleton _ _

/-- Since the screen was emptied: the prompt, and the keys after the last carriage
return. -/
theorem shownBytes_sinceClear_reactions (prompt : Bytes) {keys : Bytes} (hzero : 0 ∉ keys) :
    shownBytes (sinceClear (reactions prompt (carriageReturn :: keys))) =
      prompt ++ keys.rtakeWhile (· ≠ carriageReturn) := by
  induction keys using List.reverseRecOn with
  | nil =>
      rw [reactions_singleton, ← List.nil_append (Reaction.writes _ _)]
      show shownBytes (sinceClear ([] ++ Reaction.redraw.writes prompt)) = _
      rw [sinceClear_append_redraw, shownBytes_characters]
      exact (List.append_nil prompt).symm
  | append_singleton keys key ih =>
      rw [← List.cons_append, reactions_append, reactions_singleton]
      by_cases hkey : key = carriageReturn
      · subst hkey
        show shownBytes (sinceClear (_ ++ Reaction.redraw.writes prompt)) = _
        rw [sinceClear_append_redraw, shownBytes_characters,
          List.rtakeWhile_concat_neg _ _ _ (by simp), List.append_nil]
      · have hne : key ≠ 0 := fun heq => hzero (by simp [heq])
        have hzero' : 0 ∉ keys := fun hmem => hzero (List.mem_append_left _ hmem)
        have hwrites : (Reaction.ofLast key).writes prompt = [key].map .character := by
          rw [Reaction.ofLast, if_neg hkey, if_neg hne]
          rfl
        rw [hwrites, sinceClear_append_of_not_mem (clear_notMem_characters _), shownBytes_append,
          shownBytes_characters, ih hzero', List.append_assoc,
          List.rtakeWhile_concat_pos _ _ _ (by simpa using hkey)]

/-! ## As text -/

/-- The text of the keys after the last carriage return; a zero is not a key. -/
def lastLine (keys : String) : String :=
  String.ofList ((keys.toList.filter (· ≠ '\x00')).rtakeWhile (· ≠ '\r'))

theorem encode_lastLine (keys : String) :
    Utf8.encode (lastLine keys) =
      ((Utf8.encode keys).filter (· ≠ 0)).rtakeWhile (· ≠ carriageReturn) := by
  have hfilter := Utf8.filter_ne_flatMap_encodeChar (a := '\x00') (by decide) keys.toList
  have hline := Utf8.rtakeWhile_ne_flatMap_encodeChar (a := '\r') (by decide)
    (keys.toList.filter (· ≠ '\x00'))
  rw [lastLine, Utf8.encode, String.toList_ofList, ← hline, ← hfilter]
  rfl

/-- A prompt and a last line that fit read as the texts they are. -/
theorem Display.Records.screenText {limit : Nat} {d : Display} {prompt keys : String}
    (h : d.Records limit (reactions (Utf8.encode prompt)
      (carriageReturn :: (Utf8.encode keys).filter (· ≠ 0))))
    (hfits : (Utf8.encode prompt).length + (Utf8.encode (lastLine keys)).length ≤ limit) :
    d.screenText = prompt ++ lastLine keys := by
  have hbytes : d.screen.toList = Utf8.encode (prompt ++ lastLine keys) := by
    have hencode : Utf8.encode (prompt ++ lastLine keys) =
        Utf8.encode prompt ++ Utf8.encode (lastLine keys) := by
      rw [Utf8.encode, String.toList_append, List.flatMap_append]
      rfl
    rw [h.screen, shownBytes_sinceClear_reactions _ (by simp), ← encode_lastLine, ← hencode]
    exact rtake_of_length_le (by rwa [hencode, List.length_append])
  rw [Display.screenText, hbytes, Utf8.encode, Utf8.decodeLossy_flatMap_encodeChar,
    String.ofList_toList]

end PolledTerminal
