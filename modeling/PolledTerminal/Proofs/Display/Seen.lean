import PolledTerminal.Proofs.Display.Contents
import PolledTerminal.Proofs.Display.Mirror
import PolledTerminal.Proofs.Text.Lossy
set_option autoImplicit false

/-!
# What is seen and what is held

A display prints each byte as the character of its number and reads the bytes that it
holds together as one text.  The two are the same where no byte is part of a longer
character, and only there.
-/

namespace PolledTerminal

open PolledTerminal.Text

/-! ## Up to the last clear and since -/

/-- The writes up to the last one that empties the screen. -/
def upToClear (ws : List RegisterWrite) : List RegisterWrite := ws.rdropWhile (· ≠ .clear)

theorem upToClear_append_sinceClear (ws : List RegisterWrite) :
    upToClear ws ++ sinceClear ws = ws := List.rdropWhile_append_rtakeWhile

/-- They end with it, if there is one. -/
theorem upToClear_eq (ws : List RegisterWrite) :
    upToClear ws = [] ∨ ∃ vs, upToClear ws = vs ++ [.clear] := by
  induction ws using List.reverseRecOn with
  | nil => exact .inl rfl
  | append_singleton ws w ih =>
      by_cases hw : w = .clear
      · exact .inr ⟨ws, by rw [hw]; exact List.rdropWhile_concat_neg _ _ _ (by simp)⟩
      · rw [upToClear, List.rdropWhile_concat_pos _ _ _ (by simpa using hw)]
        exact ih

theorem clear_notMem_sinceClear (ws : List RegisterWrite) : RegisterWrite.clear ∉ sinceClear ws := by
  intro hmem
  simpa using List.mem_rtakeWhile_imp hmem

/-! ## Byte by byte -/

/-- Without a clear the bytes are printed one by one. -/
theorem mirror_of_clear_notMem {ws : List RegisterWrite} (h : RegisterWrite.clear ∉ ws) :
    mirror ws = String.ofList (Utf8.octetChars (shownBytes ws)) := by
  induction ws with
  | nil => rfl
  | cons w ws ih =>
      have hw : w ≠ .clear := fun heq => h (heq ▸ List.mem_cons_self)
      have hws := ih fun hmem => h (List.mem_cons_of_mem w hmem)
      rw [← List.singleton_append, mirror_append, mirror_singleton, shownBytes_append, hws,
        RegisterWrite.mirrored, if_neg hw]
      cases hshown : w.shown? with
      | none => simp [shownBytes, hshown]
      | some b => simp [shownBytes, hshown, Utf8.octetChars]

/-- So are those since the last clear. -/
theorem mirror_sinceClear (ws : List RegisterWrite) :
    mirror (sinceClear ws) = String.ofList (Utf8.octetChars (shownBytes (sinceClear ws))) :=
  mirror_of_clear_notMem (clear_notMem_sinceClear ws)

/-- As long as nothing has dropped out, what was printed since the last clear is what the
display shows just when every byte is below 0x80. -/
theorem Display.Records.mirror_eq_screenText_iff {limit : Nat} {d : Display}
    {ws : List RegisterWrite} (h : d.Records limit ws)
    (hlength : (shownBytes (sinceClear ws)).length ≤ limit) :
    mirror (sinceClear ws) = d.screenText ↔ ∀ b ∈ shownBytes (sinceClear ws), b.toNat < 0x80 := by
  rw [← Utf8.decodeLossyChars_eq_octetChars_iff, mirror_sinceClear, Display.screenText, h.screen,
    rtake_of_length_le hlength, Utf8.decodeLossy, String.ofList_inj]
  exact eq_comm

end PolledTerminal
