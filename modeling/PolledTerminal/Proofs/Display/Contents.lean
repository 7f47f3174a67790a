import PolledTerminal.Proofs.Display.History
set_option autoImplicit false

/-!
# What a display shows

Two scrollbacks with different rules for clearing, and two counters, are all
determined by the accepted writes: `Records` says how, and every access keeps it.
-/

namespace PolledTerminal.Display

/-- The display shows what it has to show after it has accepted these writes
and no others since it was new. -/
structure Records (limit : Nat) (d : Display) (ws : List RegisterWrite) : Prop where
  transcriptLimit : d.transcript.limit = limit
  screenLimit : d.screen.limit = limit
  transcript : d.transcript.toList = (shownBytes ws).rtake limit
  screen : d.screen.toList = (shownBytes (sinceClear ws)).rtake limit
  clears : d.clears = ws.count .clear
  writes : d.writes = ws.length

namespace Records

variable {limit : Nat} {d : Display} {ws : List RegisterWrite}

/-- Only what is shown and counted matters, not how long the display stays busy. -/
theorem congr {d' : Display} (h : Records limit d ws) (htranscript : d'.transcript = d.transcript)
    (hscreen : d'.screen = d.screen) (hclears : d'.clears = d.clears)
    (hwrites : d'.writes = d.writes) : Records limit d' ws := by
  refine ⟨?_, ?_, ?_, ?_, ?_, ?_⟩
  · rw [htranscript]; exact h.transcriptLimit
  · rw [hscreen]; exact h.screenLimit
  · rw [htranscript]; exact h.transcript
  · rw [hscreen]; exact h.screen
  · rw [hclears]; exact h.clears
  · rw [hwrites]; exact h.writes

theorem new (busyCycles : UInt32) (scrollback : Nat) :
    Records (max scrollback 1) (Display.new busyCycles scrollback) [] :=
  ⟨rfl, rfl, by simp [Display.new, shownBytes], by simp [Display.new, sinceClear, shownBytes],
    rfl, rfl⟩

theorem accept_clear (h : Records limit d ws) :
    Records limit (accept (d.control clearScreen)).1 (ws ++ [.clear]) := by
  simp only [accept, control, if_true]
  refine ⟨h.transcriptLimit, h.screenLimit, ?_, ?_, ?_, ?_⟩
  · rw [h.transcript]
    simp [shownBytes, RegisterWrite.shown?, RegisterWrite.clear, controlRegister, dataRegister]
  · simp [shownBytes]
  · simp [h.clears]
  · simp [h.writes]

/-- A control code that is not a clear is accepted and does nothing. -/
theorem accept_control (h : Records limit d ws) {code : UInt8} (hcode : code ≠ clearScreen) :
    Records limit (accept (d.control code)).1 (ws ++ [⟨controlRegister, code⟩]) := by
  have hne : (⟨controlRegister, code⟩ : RegisterWrite) ≠ .clear := by
    simp [RegisterWrite.clear, hcode]
  have hshown : shownBytes [⟨controlRegister, code⟩] = [] := by
    simp [shownBytes, RegisterWrite.shown?, controlRegister, dataRegister]
  simp only [accept, control, if_neg hcode]
  refine ⟨h.transcriptLimit, h.screenLimit, ?_, ?_, ?_, ?_⟩
  · rw [shownBytes_append, hshown, List.append_nil]
    exact h.transcript
  · rw [sinceClear_append_of_ne hne, shownBytes_append, hshown, List.append_nil]
    exact h.screen
  · rw [List.count_append, List.count_singleton, if_neg (by simpa using hne)]
    exact h.clears
  · simp [h.writes]

theorem accept_character (h : Records limit d ws) (c : UInt8) :
    Records limit (accept (d.character c)).1 (ws ++ [.character c]) := by
  have hne : RegisterWrite.character c ≠ .clear := by
    simp [RegisterWrite.character, RegisterWrite.clear, controlRegister, dataRegister]
  have hshown : shownBytes [RegisterWrite.character c] = [c] := rfl
  simp only [accept, Display.character]
  refine ⟨?_, ?_, ?_, ?_, ?_, ?_⟩
  · rw [Scrollback.limit_push]; exact h.transcriptLimit
  · rw [Scrollback.limit_push]; exact h.screenLimit
  · rw [Scrollback.toList_push_rtake, h.transcript, h.transcriptLimit,
      rtake_rtake_append_singleton, shownBytes_append, hshown]
  · rw [Scrollback.toList_push_rtake, h.screen, h.screenLimit, rtake_rtake_append_singleton,
      sinceClear_append_of_ne hne, shownBytes_append, hshown]
  · rw [List.count_append, List.count_singleton, if_neg (by simpa using hne)]
    exact h.clears
  · simp [h.writes]

/-- Every access keeps the record, with the write it was accepted for. -/
theorem access (h : Records limit d ws) (a : DisplayAccess) :
    Records limit (d.access a) (ws ++ d.acceptedBy a) := by
  cases a with
  | read offset =>
      rw [acceptedBy, List.append_nil]
      exact h
  | tick =>
      rw [acceptedBy, List.append_nil]
      simp only [Display.access, tick]
      split
      · exact h
      · exact h.congr rfl rfl rfl rfl
  | write offset value =>
      simp only [Display.access, acceptedBy, Display.write, accepts]
      by_cases hbusy : d.isBusy = true
      · simp only [hbusy, Bool.not_true, Bool.false_and, Bool.false_eq_true, if_false, if_true,
          List.append_nil]
        exact h.congr rfl rfl rfl rfl
      · have hfree : d.isBusy = false := by simpa using hbusy
        simp only [hfree, Bool.not_false, Bool.true_and, Bool.false_eq_true, if_false,
          Bool.or_eq_true, beq_iff_eq]
        by_cases hcontrol : offset = controlRegister
        · subst hcontrol
          simp only [true_or, if_true]
          by_cases hcode : value = clearScreen
          · subst hcode
            exact h.accept_clear
          · exact h.accept_control hcode
        · by_cases hdata : offset = dataRegister
          · subst hdata
            simp only [or_true, if_true, if_neg hcontrol]
            exact h.accept_character value
          · simp only [hcontrol, hdata, or_self, if_false, List.append_nil]
            exact h

theorem after (h : Records limit d ws) (accesses : List DisplayAccess) :
    Records limit (d.after accesses) (ws ++ d.accepted accesses) := by
  induction accesses generalizing d ws with
  | nil =>
      rw [accepted, List.append_nil]
      exact h
  | cons a as ih =>
      rw [accepted, ← List.append_assoc]
      exact ih (h.access a)

theorem of_accepts {d' : Display} {vs : List RegisterWrite} (h : Records limit d ws)
    (haccepts : d.Accepts vs d') : Records limit d' (ws ++ vs) := by
  obtain ⟨accesses, rfl, rfl⟩ := haccepts
  exact h.after accesses

end Records

end PolledTerminal.Display
