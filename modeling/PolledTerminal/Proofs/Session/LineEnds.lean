import PolledTerminal.Proofs.Session.Turns
set_option autoImplicit false

/-!
# Line ends

The feeder looks at one byte and remembers the one before.  What it types is
nevertheless a replacement in the whole text: every carriage return with a line feed
right behind it is one carriage return, every other line feed is one as well, and
zeros are left out last, so that a zero between the two keeps them apart.
-/

namespace PolledTerminal

open PolledTerminal.Text (Bytes)
open PolledTerminal.Keyboard (Use Served)

/-! ## The whole text -/

/-- Every carriage return with a line feed right behind it, as a carriage return alone. -/
def joinPairs : Bytes → Bytes
  | a :: b :: bs =>
    if a = carriageReturn ∧ b = lineFeed then carriageReturn :: joinPairs bs
    else a :: joinPairs (b :: bs)
  | bs => bs

/-- The keys of a whole text. -/
def enteredKeys (typed : Bytes) : Bytes :=
  ((joinPairs typed).map fun b => if b = lineFeed then carriageReturn else b).filter (· ≠ 0)

/-! ## Byte by byte -/

namespace Feeder

theorem keyAfter_of_ne_lineFeed {previous b : UInt8} (h : b ≠ lineFeed) :
    keyAfter previous b = some b := if_neg h

theorem keyAfter_lineFeed {previous : UInt8} (h : previous ≠ carriageReturn) :
    keyAfter previous lineFeed = some carriageReturn := if_neg h

theorem keyAfter_pair : keyAfter carriageReturn lineFeed = none := rfl

/-- Where no pair is cut, a byte has the key that it has in the whole text. -/
theorem keyAfter_eq {previous b : UInt8} (h : ¬ (previous = carriageReturn ∧ b = lineFeed)) :
    keyAfter previous b = some (if b = lineFeed then carriageReturn else b) := by
  by_cases hb : b = lineFeed
  · rw [if_pos hb, hb]
    exact keyAfter_lineFeed fun hprevious => h ⟨hprevious, hb⟩
  · rw [if_neg hb, keyAfter_of_ne_lineFeed hb]

/-- At the start nothing is remembered. -/
theorem keyAfter_zero (b : UInt8) :
    keyAfter 0 b = some (if b = lineFeed then carriageReturn else b) :=
  keyAfter_eq fun hpair => by cases hpair.1

/-- Keys depend on the bytes before only through the last of them. -/
theorem keysAfter_append (previous : UInt8) (xs ys : Bytes) :
    keysAfter previous (xs ++ ys) =
      keysAfter previous xs ++ keysAfter (xs.getLast?.getD previous) ys := by
  induction xs generalizing previous with
  | nil => rfl
  | cons x xs ih =>
      rw [List.cons_append, keysAfter, keysAfter, ih, List.append_assoc, List.getLast?_cons,
        Option.getD_some]

/-- Only a carriage return that is remembered makes a difference, and only to a line feed. -/
theorem keysAfter_congr {previous : UInt8} {bs : Bytes}
    (h : ¬ (previous = carriageReturn ∧ bs.head? = some lineFeed)) :
    keysAfter previous bs = keysAfter 0 bs := by
  cases bs with
  | nil => rfl
  | cons b bs =>
      have hb : ¬ (previous = carriageReturn ∧ b = lineFeed) := by simpa using h
      rw [keysAfter, keysAfter, keyAfter_eq hb, keyAfter_zero]

/-- The keys of the bytes one by one are those of the whole text. -/
theorem keysAfter_eq (bs : Bytes) :
    keysAfter 0 bs = (joinPairs bs).map fun b => if b = lineFeed then carriageReturn else b := by
  induction bs using joinPairs.induct with
  | case1 a b bs hpair ih =>
      -- the pair has one key, and after a line feed the rest is as at the start
      obtain ⟨rfl, rfl⟩ := hpair
      have hrest : keysAfter lineFeed bs = keysAfter 0 bs := keysAfter_congr fun h => by cases h.1
      rw [joinPairs, if_pos ⟨rfl, rfl⟩, List.map_cons, ← ih, ← hrest]
      rfl
  | case2 a b bs hpair ih =>
      have hrest : keysAfter a (b :: bs) = keysAfter 0 (b :: bs) :=
        keysAfter_congr (by simpa using hpair)
      rw [joinPairs, if_neg hpair, List.map_cons, ← ih, ← hrest, keysAfter, keyAfter_zero]
      rfl
  | case3 bs hshort =>
      rcases bs with _ | ⟨a, _ | ⟨b, bs⟩⟩
      · rfl
      · show keysAfter 0 [a] = [if a = lineFeed then carriageReturn else a]
        rw [keysAfter, keyAfter_zero]
        rfl
      · exact absurd rfl (hshort a b bs)

end Feeder

/-- The keys that typed bytes amount to are those of the whole text. -/
theorem keysOf_eq (typed : Bytes) : keysOf typed = enteredKeys typed := by
  rw [keysOf, Feeder.keysAfter_eq, enteredKeys]

/-! ## Splitting -/

section Splitting

variable (before after : Bytes)

theorem keysOf_append : keysOf (before ++ after) = keysOf before ++
    (Feeder.keysAfter (before.getLast?.getD 0) after).filter (· ≠ 0) := by
  rw [keysOf, Feeder.keysAfter_append, List.filter_append, keysOf]

/-- One more byte adds the key that it has after the byte before it. -/
theorem keysOf_concat (b : UInt8) : keysOf (before ++ [b]) =
    keysOf before ++ (Feeder.keyAfter (before.getLast?.getD 0) b).toList.filter (· ≠ 0) := by
  rw [keysOf_append, Feeder.keysAfter, Feeder.keysAfter, List.append_nil]

/-- A text may be cut anywhere but between a carriage return and a line feed. -/
theorem enteredKeys_append {before after : Bytes}
    (h : ¬ (before.getLast? = some carriageReturn ∧ after.head? = some lineFeed)) :
    enteredKeys (before ++ after) = enteredKeys before ++ enteredKeys after := by
  have hcut : ¬ (before.getLast?.getD 0 = carriageReturn ∧ after.head? = some lineFeed) := by
    rintro ⟨hlast, hhead⟩
    refine h ⟨?_, hhead⟩
    cases hbefore : before.getLast? with
    | none =>
        rw [hbefore] at hlast
        cases hlast
    | some b =>
        rw [hbefore] at hlast
        exact congrArg some hlast
  rw [← keysOf_eq, ← keysOf_eq, ← keysOf_eq, keysOf_append, Feeder.keysAfter_congr hcut]
  rfl

/-- Both bytes of a pair are one carriage return, wherever it stands. -/
theorem enteredKeys_pair : enteredKeys (before ++ [carriageReturn, lineFeed] ++ after) =
    enteredKeys before ++ [carriageReturn] ++ enteredKeys after := by
  rw [enteredKeys_append (by simp [carriageReturn, lineFeed]),
    enteredKeys_append (by simp [carriageReturn, lineFeed])]
  rfl

/-- A zero keeps a carriage return and a line feed apart. -/
theorem enteredKeys_zero_between :
    enteredKeys (before ++ [carriageReturn, 0, lineFeed] ++ after) =
      enteredKeys before ++ [carriageReturn, carriageReturn] ++ enteredKeys after := by
  rw [enteredKeys_append (by simp [carriageReturn, lineFeed]),
    enteredKeys_append (by simp [carriageReturn, lineFeed])]
  rfl

theorem enteredKeys_two_lineFeeds {before : Bytes} (h : before.getLast? ≠ some carriageReturn) :
    enteredKeys (before ++ [lineFeed, lineFeed] ++ after) =
      enteredKeys before ++ [carriageReturn, carriageReturn] ++ enteredKeys after := by
  rw [enteredKeys_append (by simp [carriageReturn, lineFeed]), enteredKeys_append (by simp [h])]
  rfl

theorem enteredKeys_two_returns {after : Bytes} (h : after.head? ≠ some lineFeed) :
    enteredKeys (before ++ [carriageReturn, carriageReturn] ++ after) =
      enteredKeys before ++ [carriageReturn, carriageReturn] ++ enteredKeys after := by
  rw [enteredKeys_append (by simp [h]), enteredKeys_append (by simp [carriageReturn, lineFeed])]
  rfl

end Splitting

/-! ## What the keys are -/

theorem lineFeed_notMem_enteredKeys (typed : Bytes) : lineFeed ∉ enteredKeys typed := by
  intro hmem
  obtain ⟨b, -, hb⟩ := List.mem_map.mp (List.mem_filter.mp hmem).1
  split at hb
  case isTrue => cases hb
  case isFalse hne => exact hne hb

theorem zero_notMem_enteredKeys (typed : Bytes) : 0 ∉ enteredKeys typed := by
  simp [enteredKeys]

/-- The byte has a part neither in the ends of lines nor in being idle. -/
def isPlainByte (b : UInt8) : Bool := b ≠ 0 ∧ b ≠ carriageReturn ∧ b ≠ lineFeed

theorem filter_isPlainByte_keyAfter (previous b : UInt8) :
    (Feeder.keyAfter previous b).toList.filter isPlainByte = [b].filter isPlainByte := by
  by_cases hb : b = lineFeed
  · subst hb
    by_cases hprevious : previous = carriageReturn
    · rw [hprevious, Feeder.keyAfter_pair]
      rfl
    · rw [Feeder.keyAfter_lineFeed hprevious]
      rfl
  · rw [Feeder.keyAfter_of_ne_lineFeed hb]
    rfl

/-- All bytes but those that end lines and the zeros are keys, once and in order. -/
theorem filter_isPlainByte_enteredKeys (typed : Bytes) :
    (enteredKeys typed).filter isPlainByte = typed.filter isPlainByte := by
  have hplain (bs : Bytes) : (bs.filter (· ≠ 0)).filter isPlainByte = bs.filter isPlainByte := by
    rw [List.filter_filter]
    apply List.filter_congr
    intro b _
    cases hb : isPlainByte b with
    | false => rfl
    | true =>
        have hne : b ≠ 0 := (of_decide_eq_true hb).1
        simpa using hne
  rw [← keysOf_eq, keysOf, hplain]
  induction typed using List.reverseRecOn with
  | nil => rfl
  | append_singleton typed b ih =>
      rw [Feeder.keysAfter_append, List.filter_append, ih, List.filter_append, Feeder.keysAfter,
        Feeder.keysAfter, List.append_nil, filter_isPlainByte_keyAfter]

/-! ## The feeder at work -/

/-- A turn of the feeder, or a use of the keyboard by the machine. -/
def Feeder.share (r : Feeder × Served) : Option Use → Feeder × Served
  | none => ((r.1.turn r.2.keyboard).1, { r.2 with keyboard := (r.1.turn r.2.keyboard).2 })
  | some u => (r.1, r.2.use u)

/-- A feeder of these bytes with a new keyboard, after turns and uses in order. -/
def Feeder.work (typed : Bytes) (schedule : List (Option Use)) : Feeder × Served :=
  schedule.foldl Feeder.share ({ rest := typed }, {})

/-- Where the feeder is after so many turns, whatever the machine has taken since. -/
structure Feeder.HasFed (typed : Bytes) (turns : Nat) (r : Feeder × Served) : Prop where
  rest : r.1.rest = typed.drop turns
  previous : r.1.previous = (typed.take turns).getLast?.getD 0
  queue : r.2.delivered ++ r.2.keyboard.toList = keysOf (typed.take turns)
  closed : r.2.keyboard.closed = true ↔ typed.length < turns

namespace Feeder.HasFed

variable {typed : Bytes} {turns : Nat} {r : Feeder × Served}

theorem turn (h : HasFed typed turns r) : HasFed typed (turns + 1) (share r none) := by
  cases hrest : r.1.rest with
  | nil =>
      have hdone : typed.length ≤ turns := List.drop_eq_nil_iff.mp (h.rest.symm.trans hrest)
      have hturn := turn_of_nil hrest r.2.keyboard
      have htake : typed.take (turns + 1) = typed.take turns := by
        rw [List.take_of_length_le hdone, List.take_of_length_le (by omega)]
      refine ⟨?_, ?_, ?_, ?_⟩
      · show (r.1.turn r.2.keyboard).1.rest = _
        rw [hturn, List.drop_of_length_le (by omega)]
        exact hrest
      · show (r.1.turn r.2.keyboard).1.previous = _
        rw [hturn, htake]
        exact h.previous
      · show r.2.delivered ++ (r.1.turn r.2.keyboard).2.toList = _
        rw [hturn, htake]
        exact h.queue
      · show (r.1.turn r.2.keyboard).2.closed = true ↔ _
        rw [hturn]
        exact iff_of_true rfl (by omega)
  | cons b rest =>
      obtain ⟨hfeeder, htoList, hclosed⟩ := turn_of_cons hrest r.2.keyboard
      have hdrop : typed.drop turns = b :: rest := h.rest.symm.trans hrest
      have hlt : turns < typed.length := by
        refine Nat.lt_of_not_le fun hle => ?_
        rw [List.drop_eq_nil_iff.mpr hle] at hdrop
        cases hdrop
      have htake : typed.take (turns + 1) = typed.take turns ++ [b] := by
        rw [List.take_add, hdrop]
        rfl
      refine ⟨?_, ?_, ?_, ?_⟩
      · show (r.1.turn r.2.keyboard).1.rest = _
        rw [hfeeder, ← List.drop_drop, hdrop]
        rfl
      · show (r.1.turn r.2.keyboard).1.previous = _
        rw [hfeeder, htake, List.getLast?_concat]
        rfl
      · show r.2.delivered ++ (r.1.turn r.2.keyboard).2.toList = _
        rw [htoList, ← List.append_assoc, h.queue, htake, keysOf_concat, ← h.previous]
      · show (r.1.turn r.2.keyboard).2.closed = true ↔ _
        rw [hclosed, h.closed]
        omega

/-- What the machine takes does not concern the feeder. -/
theorem use (h : HasFed typed turns r) {u : Use} (hu : u.isPolling = true) :
    HasFed typed turns (share r (some u)) := by
  have hnonzero : 0 ∉ r.2.keyboard.toList := fun hmem => by
    have hkey := h.queue ▸ List.mem_append_right r.2.delivered hmem
    simp [keysOf] at hkey
  have htyped : u.typed = [] := by cases u <;> first | rfl | cases hu
  have hclose : u ≠ .close := fun hu' => by
    rw [hu'] at hu
    cases hu
  refine ⟨h.rest, h.previous, ?_, ?_⟩
  · show r.2.delivered ++ (r.2.keyboard.use u).1.toList ++ (r.2.keyboard.use u).2.toList = _
    rw [List.append_assoc, Keyboard.use_append hnonzero, htyped]
    exact (congrArg (r.2.delivered ++ ·) (List.append_nil _)).trans h.queue
  · show (r.2.keyboard.use u).2.closed = true ↔ _
    rw [Keyboard.closed_use, h.closed]
    exact or_iff_left hclose

theorem work {schedule : List (Option Use)}
    (hpolling : ∀ u, some u ∈ schedule → u.isPolling = true) :
    HasFed typed (schedule.count none) (Feeder.work typed schedule) := by
  induction schedule using List.reverseRecOn with
  | nil => exact ⟨rfl, rfl, rfl, by simp [Feeder.work]⟩
  | append_singleton schedule entry ih =>
      have h := ih fun u hu => hpolling u (List.mem_append_left _ hu)
      have hwork : Feeder.work typed (schedule ++ [entry]) =
          share (Feeder.work typed schedule) entry := by
        rw [Feeder.work, List.foldl_append]
        rfl
      rw [hwork, List.count_append]
      cases entry with
      | none => exact h.turn
      | some u => exact h.use (hpolling u (by simp))

end Feeder.HasFed

/-- These are the keys of these bytes. -/
structure Enters (typed keys : Bytes) : Prop where
  whole : keys = enteredKeys typed
  noLineFeed : lineFeed ∉ keys
  noZero : 0 ∉ keys
  /-- bytes that neither end lines nor are zero are delivered once and in order -/
  plain : keys.filter isPlainByte = typed.filter isPlainByte

theorem enters_keysOf (typed : Bytes) : Enters typed (keysOf typed) := by
  rw [keysOf_eq]
  exact ⟨rfl, lineFeed_notMem_enteredKeys typed, zero_notMem_enteredKeys typed,
    filter_isPlainByte_enteredKeys typed⟩

/-- Whatever the machine takes in between, what the feeder has typed after some turns are
the keys of the bytes taken so far, as in the whole text, and the keyboard is closed one
turn after the last byte.  Wherever they stand in a text, a carriage return and a line
feed are one carriage return; two of a kind are two, and so are the two with a zero
between. -/
theorem line_ends_are_typed_once (typed : Bytes) {schedule : List (Option Use)}
    (hpolling : ∀ u, some u ∈ schedule → u.isPolling = true) :
    Enters (typed.take (schedule.count none))
        ((Feeder.work typed schedule).2.delivered ++
          (Feeder.work typed schedule).2.keyboard.toList) ∧
      ((Feeder.work typed schedule).2.keyboard.closed = true ↔
        typed.length < schedule.count none) ∧
      ∀ before after,
        enteredKeys (before ++ [carriageReturn, lineFeed] ++ after) =
          enteredKeys before ++ [carriageReturn] ++ enteredKeys after ∧
        enteredKeys (before ++ [carriageReturn, 0, lineFeed] ++ after) =
          enteredKeys before ++ [carriageReturn, carriageReturn] ++ enteredKeys after ∧
        (before.getLast? ≠ some carriageReturn →
          enteredKeys (before ++ [lineFeed, lineFeed] ++ after) =
            enteredKeys before ++ [carriageReturn, carriageReturn] ++ enteredKeys after) ∧
        (after.head? ≠ some lineFeed →
          enteredKeys (before ++ [carriageReturn, carriageReturn] ++ after) =
            enteredKeys before ++ [carriageReturn, carriageReturn] ++ enteredKeys after) := by
  have hfed : Feeder.HasFed typed (schedule.count none) (Feeder.work typed schedule) :=
    .work hpolling
  refine ⟨?_, hfed.closed, fun before after => ⟨enteredKeys_pair before after,
    enteredKeys_zero_between before after, enteredKeys_two_lineFeeds after,
    enteredKeys_two_returns before⟩⟩
  rw [hfed.queue]
  exact enters_keysOf _

/-- Five turns of the feeder, with two polls in between. -/
def polledSchedule : List (Option Use) :=
  [none, none, some (.read 0), none, some (.read 0), none, none]

/-- Of a letter, a pair and a line feed alone, the letter and one carriage return have been
taken, and another one waits. -/
theorem line_ends_are_typed_once_polled :
    (∀ u, some u ∈ polledSchedule → u.isPolling = true) ∧
      Enters [0x61, 0x0D, 0x0A, 0x0A] ([0x61, 0x0D] ++ [0x0D]) ∧
      (Feeder.work [0x61, 0x0D, 0x0A, 0x0A] polledSchedule).2.keyboard.closed = true := by
  have hpolling : ∀ u, some u ∈ polledSchedule → u.isPolling = true := by
    have hentries : ∀ entry ∈ polledSchedule, entry = none ∨ entry = some (.read 0) := by decide
    intro u hu
    rcases hentries (some u) hu with hnone | hread
    · cases hnone
    · cases hread
      rfl
  obtain ⟨henters, hclosed, -⟩ := line_ends_are_typed_once [0x61, 0x0D, 0x0A, 0x0A] hpolling
  exact ⟨hpolling, henters, hclosed.mpr (by decide)⟩

end PolledTerminal
