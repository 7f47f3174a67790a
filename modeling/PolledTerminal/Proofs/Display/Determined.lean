import PolledTerminal.Peripheral
import PolledTerminal.Proofs.Display.Busy
import PolledTerminal.Proofs.Display.Contents
set_option autoImplicit false

/-!
# A display is determined by its history

Two scrollbacks, three counters and one countdown for both registers, and all of
them are functions of what the bus has done to the display.  The countdown is read
off the last accepted write and the cycles since it; the counters and the
scrollbacks are read off the writes that were accepted, and off those that came
too early.
-/

namespace PolledTerminal

namespace Display

/-! ## Accesses in the order of arrival -/

theorem after_concat (d : Display) (as : List DisplayAccess) (a : DisplayAccess) :
    d.after (as ++ [a]) = (d.after as).access a := by
  simp only [after, List.foldl_concat]

theorem accepts_iff (d : Display) (offset : UInt8) :
    d.accepts offset = true ↔ (offset = 0 ∨ offset = 1) ∧ d.isBusy = false := by
  simp only [accepts, Bool.and_eq_true, Bool.not_eq_true', Bool.or_eq_true, beq_iff_eq,
    controlRegister, dataRegister]
  exact and_comm

/-- A write that is not accepted is counted if it came too early, and that is all. -/
theorem write_of_not_accepts {d : Display} {offset : UInt8} (h : ¬ d.accepts offset = true)
    (value : UInt8) :
    d.write offset value =
      ({ d with overruns := d.overruns + if d.isBusy then 1 else 0 }, "") := by
  rw [write]
  split
  case isTrue hbusy => rfl
  case isFalse hbusy =>
    have hfree : d.isBusy = false := by simpa using hbusy
    have hneither := fun ho => h ((d.accepts_iff offset).mpr ⟨ho, hfree⟩)
    obtain ⟨hcontrol, hdata⟩ := not_or.mp hneither
    rw [if_neg, if_neg]
    · rfl
    · exact hdata
    · exact hcontrol

theorem read_eq (d : Display) (offset : UInt8) :
    d.read offset = if (offset = 0 ∨ offset = 1) ∧ d.isBusy = true then 1 else 0 := by
  simp only [read, status, Bool.or_eq_true, decide_eq_true_eq]
  rw [ite_and]
  rfl

/-- The counter of writes moves with the accepted writes, and with no others. -/
theorem write_writes (d : Display) (offset value : UInt8) :
    (d.write offset value).1.writes = d.writes + if d.accepts offset then 1 else 0 := by
  by_cases h : d.accepts offset = true
  · rw [(write_of_accepts h value).2.1, if_pos h]
  · rw [write_of_not_accepts h, if_neg h]
    rfl

@[simp] theorem access_busyCycles (d : Display) (a : DisplayAccess) :
    (d.access a).busyCycles = d.busyCycles := by
  cases a with
  | read offset => rfl
  | tick => exact tick_busyCycles d
  | write offset value =>
      by_cases h : d.accepts offset = true
      · exact (write_of_accepts h value).2.2.1
      · rw [access, write_of_not_accepts h]

@[simp] theorem after_busyCycles (d : Display) (accesses : List DisplayAccess) :
    (d.after accesses).busyCycles = d.busyCycles := by
  induction accesses using List.reverseRecOn with
  | nil => rfl
  | append_singleton as a ih => rw [after_concat, access_busyCycles, ih]

/-! ## Busy since the last accepted write -/

/-- Among accesses there is a write that the display accepted, with fewer than
`cycles` bus cycles after it. -/
def WrittenWithin (d : Display) (accesses : List DisplayAccess) (cycles : Nat) : Prop :=
  ∃ before offset value later, accesses = before ++ .write offset value :: later ∧
    (d.after before).accepts offset = true ∧ later.count .tick < cycles

theorem not_writtenWithin_nil (d : Display) (cycles : Nat) : ¬ d.WrittenWithin [] cycles := by
  rintro ⟨before, offset, value, later, h, -, -⟩
  simp at h

theorem WrittenWithin.pos {d : Display} {accesses : List DisplayAccess} {cycles : Nat}
    (h : d.WrittenWithin accesses cycles) : 0 < cycles := by
  obtain ⟨before, offset, value, later, -, -, hlater⟩ := h
  exact Nat.zero_lt_of_lt hlater

/-- One more access either is such a write itself, or it leaves the earlier ones the
cycles that it does not take. -/
theorem writtenWithin_concat (d : Display) (as : List DisplayAccess) (a : DisplayAccess)
    (cycles : Nat) :
    d.WrittenWithin (as ++ [a]) cycles ↔
      (∃ offset value, a = .write offset value ∧ (d.after as).accepts offset = true ∧ 0 < cycles) ∨
        d.WrittenWithin as (cycles - [a].count .tick) := by
  constructor
  · rintro ⟨before, offset, value, later, heq, haccepts, hlater⟩
    rcases List.eq_nil_or_concat later with rfl | ⟨later', b, rfl⟩
    · obtain ⟨rfl, rfl⟩ := List.append_singleton_inj.mp heq
      exact .inl ⟨offset, value, rfl, haccepts, Nat.zero_lt_of_lt hlater⟩
    · rw [List.concat_eq_append, ← List.cons_append, ← List.append_assoc] at heq
      obtain ⟨rfl, rfl⟩ := List.append_singleton_inj.mp heq
      rw [List.concat_eq_append, List.count_append] at hlater
      exact .inr ⟨before, offset, value, later', rfl, haccepts, by omega⟩
  · rintro (⟨offset, value, rfl, haccepts, hpos⟩ |
      ⟨before, offset, value, later, rfl, haccepts, hlater⟩)
    · exact ⟨as, offset, value, [], rfl, haccepts, hpos⟩
    · refine ⟨before, offset, value, later ++ [a], by simp, haccepts, ?_⟩
      rw [List.count_append]
      omega

/-- The countdown of a display that was not busy at first: more than `n` cycles
remain when the last accepted write has so much left. -/
theorem lt_busyRemaining_iff {d : Display} (h : d.busyRemaining.toNat = 0)
    (accesses : List DisplayAccess) (n : Nat) :
    n < (d.after accesses).busyRemaining.toNat ↔
      d.WrittenWithin accesses (d.busyCycles.toNat - n) := by
  -- one cycle moves `n`, so the induction is for all of them
  induction accesses using List.reverseRecOn generalizing n with
  | nil =>
      have hnone := d.not_writtenWithin_nil (d.busyCycles.toNat - n)
      simp only [after, List.foldl_nil, h, Nat.not_lt_zero, hnone]
  | append_singleton as a ih =>
      rw [after_concat, writtenWithin_concat]
      cases a with
      | read offset =>
          have hstill : [DisplayAccess.read offset].count .tick = 0 := rfl
          simp only [access, hstill, Nat.sub_zero, reduceCtorEq, false_and, exists_false, false_or]
          exact ih n
      | tick =>
          have hone : [DisplayAccess.tick].count .tick = 1 := rfl
          simp only [access, tick_busyRemaining, hone, reduceCtorEq, false_and, exists_false,
            false_or]
          rw [Nat.sub_sub, ← ih (n + 1)]
          omega
      | write offset value =>
          have hstill : [DisplayAccess.write offset value].count .tick = 0 := rfl
          simp only [access, hstill, Nat.sub_zero]
          by_cases haccepts : (d.after as).accepts offset = true
          · have hbusy := (write_of_accepts haccepts value).2.2.2
            rw [hbusy, after_busyCycles]
            constructor
            · intro hlt
              exact .inl ⟨offset, value, rfl, haccepts, Nat.sub_pos_of_lt hlt⟩
            · rintro (⟨-, -, -, -, hpos⟩ | hwritten)
              · exact Nat.lt_of_sub_pos hpos
              · exact Nat.lt_of_sub_pos hwritten.pos
          · rw [write_of_not_accepts haccepts, ih n]
            refine ⟨.inr, ?_⟩
            rintro (⟨offset', value', heq, haccepts', -⟩ | hwritten)
            · cases heq
              exact absurd haccepts' haccepts
            · exact hwritten

/-- A display is busy when it has accepted a write less than its busy time ago. -/
theorem isBusy_after_iff {d : Display} (h : d.busyRemaining.toNat = 0)
    (accesses : List DisplayAccess) :
    (d.after accesses).isBusy = true ↔ d.WrittenWithin accesses d.busyCycles.toNat := by
  rw [isBusy_iff, lt_busyRemaining_iff h, Nat.sub_zero]

/-! ## Writes that came too early -/

/-- The write of an access, if the display is busy then. -/
def missedBy (d : Display) : DisplayAccess → List RegisterWrite
  | .read _ => []
  | .write offset value => if d.isBusy then [⟨offset, value⟩] else []
  | .tick => []

/-- The writes among accesses that come while the display is busy, in order. -/
def missed : Display → List DisplayAccess → List RegisterWrite
  | _, [] => []
  | d, a :: as => d.missedBy a ++ missed (d.access a) as

theorem access_overruns (d : Display) (a : DisplayAccess) :
    (d.access a).overruns = d.overruns + (d.missedBy a).length := by
  cases a with
  | read offset => rfl
  | tick => exact d.tick_overruns
  | write offset value =>
      by_cases h : d.accepts offset = true
      · have hfree := ((d.accepts_iff offset).mp h).2
        rw [access, (write_of_accepts h value).1, missedBy, hfree]
        rfl
      · rw [access, write_of_not_accepts h, missedBy]
        cases d.isBusy <;> rfl

theorem after_overruns (d : Display) (accesses : List DisplayAccess) :
    (d.after accesses).overruns = d.overruns + (d.missed accesses).length := by
  induction accesses generalizing d with
  | nil => rfl
  | cons a as ih =>
      calc ((d.access a).after as).overruns
          = (d.access a).overruns + ((d.access a).missed as).length := ih _
        _ = d.overruns + (d.missed (a :: as)).length := by
            rw [access_overruns, missed, List.length_append, Nat.add_assoc]

/-! ## The screen and the transcript -/

/-- Of two lists, one at the end of the other, the newest elements are too. -/
theorem rtake_suffix_rtake {α : Type} {xs ys : List α} (h : xs <:+ ys) (n : Nat) :
    xs.rtake n <:+ ys.rtake n := by
  have hxs : xs.rtake n <:+ ys := (List.drop_suffix _ _).trans h
  have hys : ys.rtake n <:+ ys := List.drop_suffix _ _
  apply List.suffix_of_suffix_length_le hxs hys
  have hle := h.length_le
  simp only [List.rtake, List.length_drop]
  omega

namespace Records

variable {limit : Nat} {d : Display} {ws : List RegisterWrite}

theorem screen_suffix_transcript (h : Records limit d ws) :
    d.screen.toList <:+ d.transcript.toList := by
  rw [h.screen, h.transcript]
  apply rtake_suffix_rtake
  exact (List.rtakeWhile_suffix _ ws).filterMap RegisterWrite.shown?

theorem length_transcript_le (h : Records limit d ws) : d.transcript.toList.length ≤ limit := by
  rw [← h.transcriptLimit]
  exact d.transcript.length_toList_le

theorem length_screen_le (h : Records limit d ws) : d.screen.toList.length ≤ limit := by
  rw [← h.screenLimit]
  exact d.screen.length_toList_le

end Records

end Display

/-! ## The device on the bus -/

namespace Device

/-- A device after an access. -/
def access (device : Device) : DisplayAccess → Device
  | .read offset => (Peripheral.read device offset).2
  | .write offset value => (Peripheral.write device offset value).2.1
  | .tick => Peripheral.tick device

/-- A device after accesses in order. -/
def after (device : Device) (accesses : List DisplayAccess) : Device :=
  accesses.foldl access device

theorem after_display (d : Display) (accesses : List DisplayAccess) :
    (Device.display d).after accesses = .display (d.after accesses) := by
  induction accesses generalizing d with
  | nil => rfl
  | cons a as ih =>
      have hstep : (Device.display d).access a = .display (d.access a) := by cases a <;> rfl
      simp only [after, Display.after, List.foldl_cons, hstep] at ih ⊢
      exact ih _

end Device

/-- What a display has become since it was new, and how it answers next, said by its
history alone. -/
structure Display.FollowsHistory (busyCycles : UInt32) (scrollback : Nat)
    (accesses : List DisplayAccess) (d : Display) : Prop where
  /-- busy for as long as the last accepted write keeps it so -/
  busy : d.isBusy = true ↔
    (Display.new busyCycles scrollback).WrittenWithin accesses busyCycles.toNat
  /-- both registers accept writes, when the display is not busy -/
  accepts : ∀ offset, d.accepts offset = true ↔ (offset = 0 ∨ offset = 1) ∧ d.isBusy = false
  /-- no write fails; one is counted if it is accepted -/
  write : ∀ offset value,
    Peripheral.write (Device.display d) offset value =
        (.ok (), .display (d.write offset value).1, (d.write offset value).2) ∧
      (d.write offset value).1.writes = d.writes + if d.accepts offset then 1 else 0
  /-- a write that is not accepted is an overrun if the display is busy, and nothing else -/
  refuses : ∀ offset value, ¬ d.accepts offset = true →
    d.write offset value = ({ d with overruns := d.overruns + if d.isBusy then 1 else 0 }, "")
  /-- both registers read as the status, and reading changes nothing -/
  read : ∀ offset, Peripheral.read (Device.display d) offset =
    (.ok (if (offset = 0 ∨ offset = 1) ∧ d.isBusy = true then 1 else 0), .display d)
  /-- the scrollbacks and the counters of what was accepted -/
  records : Records (max scrollback 1) d ((Display.new busyCycles scrollback).accepted accesses)
  overruns : d.overruns = ((Display.new busyCycles scrollback).missed accesses).length
  screenInTranscript : d.screen.toList <:+ d.transcript.toList
  bounded : d.screen.toList.length ≤ max scrollback 1 ∧
    d.transcript.toList.length ≤ max scrollback 1

/-- After any accesses a display that was new is what its history says: the
countdown, the contents and the counters, and how it answers next. -/
theorem display_follows_its_history (busyCycles : UInt32) (scrollback : Nat)
    (accesses : List DisplayAccess) :
    ∃ d, (Device.display (.new busyCycles scrollback)).after accesses = .display d ∧
      d.FollowsHistory busyCycles scrollback accesses := by
  have hrecords := (Display.Records.new busyCycles scrollback).after accesses
  rw [List.nil_append] at hrecords
  refine ⟨_, Device.after_display _ accesses, ?_⟩
  constructor
  case busy => exact Display.isBusy_after_iff rfl accesses
  case accepts => exact Display.accepts_iff _
  case write => exact fun offset value => ⟨rfl, Display.write_writes _ offset value⟩
  case refuses => exact fun offset value h => Display.write_of_not_accepts h value
  case read =>
    intro offset
    show (Except.ok (Display.read _ offset), _) = _
    rw [Display.read_eq]
  case records => exact hrecords
  case overruns =>
    rw [Display.after_overruns]
    exact Nat.zero_add _
  case screenInTranscript => exact hrecords.screen_suffix_transcript
  case bounded => exact ⟨hrecords.length_screen_le, hrecords.length_transcript_le⟩

end PolledTerminal
