import Mathlib.Data.List.Induction
import PolledTerminal.Proofs.Bus.Keyboards
set_option autoImplicit false

/-!
# The queue of a keyboard

Whoever types and the machine that polls use one keyboard in any order.  What has
been delivered and what still waits are together the keys that were typed, in order,
so zero always means that nothing waits; and a keyboard is drained just when it has
been closed and everything typed has been delivered.
-/

namespace PolledTerminal

open PolledTerminal.Text (Bytes)

namespace Keyboard

/-! ## Uses -/

/-- One use of a keyboard: those who type push, feed and close, and the machine does the
rest. -/
inductive Use where
  | push (key : UInt8)
  | feed (keys : Bytes)
  | close
  /-- take the next key without a register -/
  | pop
  | read (offset : UInt8)
  | write (offset value : UInt8)
  | tick
  deriving DecidableEq, Repr, Inhabited

/-- The bytes that a use types. -/
def Use.typed : Use → Bytes
  | .push key => [key]
  | .feed keys => keys
  | _ => []

/-- The use is the machine's, and not that of someone who types. -/
def Use.isPolling : Use → Bool
  | .push _ | .feed _ | .close => false
  | _ => true

/-- The keys that uses type; a zero is not a key. -/
def keysUsed (uses : List Use) : Bytes := (uses.flatMap Use.typed).filter (· ≠ 0)

/-- The key that the value of a register stands for. -/
def heard (value : UInt8) : Option UInt8 := if value = 0 then none else some value

/-- The keyboard after the bus has done something to it as one of its devices. -/
def asDevice (k : Keyboard) (f : Device → Device) : Keyboard := (f (.keyboard k)).keyboard?.getD k

/-- What a use gives, and the keyboard after it. -/
def use (k : Keyboard) : Use → Option UInt8 × Keyboard
  | .push key => (none, k.push key)
  | .feed keys => (none, k.feed keys)
  | .close => (none, k.close)
  | .pop => k.pop
  | .read offset => (heard (k.read offset).1, (k.read offset).2)
  | .write offset value => (none, k.asDevice fun x => (x.write offset value).2.1)
  | .tick => (none, k.asDevice Device.tick)

/-- A keyboard and the keys that it has delivered, oldest first. -/
structure Served where
  keyboard : Keyboard := {}
  delivered : Bytes := []

/-- One more use. -/
def Served.use (s : Served) (u : Use) : Served where
  keyboard := (s.keyboard.use u).2
  delivered := s.delivered ++ (s.keyboard.use u).1.toList

/-- A new keyboard after uses in order. -/
def serve (uses : List Use) : Served := uses.foldl Served.use {}

theorem serve_concat (uses : List Use) (u : Use) : serve (uses ++ [u]) = (serve uses).use u := by
  rw [serve, List.foldl_append]
  rfl

theorem keysUsed_concat (uses : List Use) (u : Use) :
    keysUsed (uses ++ [u]) = keysUsed uses ++ u.typed.filter (· ≠ 0) := by
  rw [keysUsed, List.flatMap_append, List.filter_append, List.flatMap_singleton, keysUsed]

/-- There are no zeros among the keys. -/
theorem zero_notMem_keysUsed (uses : List Use) : 0 ∉ keysUsed uses := by
  simp [keysUsed]

/-! ## One use -/

/-- To feed keys is to push them one by one. -/
theorem feed_eq_foldl_push (k : Keyboard) (keys : Bytes) : k.feed keys = keys.foldl push k := by
  induction keys generalizing k with
  | nil => rfl
  | cons key keys ih =>
      rw [List.foldl_cons, ← ih, feed, feed, push]
      by_cases hkey : key = 0
      · rw [if_pos hkey, List.filter_cons_of_neg (by simpa using hkey)]
      · rw [if_neg hkey, List.filter_cons_of_pos (by simpa using hkey), List.reverse_cons,
          List.append_assoc]
        rfl

theorem closed_push (k : Keyboard) (key : UInt8) : (k.push key).closed = k.closed := by
  unfold push
  split <;> rfl

theorem isDrained_iff (k : Keyboard) : k.isDrained = true ↔ k.closed = true ∧ k.toList = [] := by
  simp [isDrained, toList, and_assoc]

/-- Without zeros among the keys, zero is read just when no key waits. -/
theorem read_eq_zero_iff {k : Keyboard} (h : 0 ∉ k.toList) :
    (k.read dataRegister).1 = 0 ↔ k.toList = [] := by
  show k.pop.1.getD 0 = 0 ↔ _
  rw [k.pop_eq.1]
  cases hlist : k.toList with
  | nil => simp
  | cons key rest =>
      rw [hlist] at h
      simpa using Ne.symm (List.ne_of_not_mem_cons h)

/-- What a poll of the register hears is the next key. -/
theorem heard_read {k : Keyboard} (h : 0 ∉ k.toList) :
    heard (k.read dataRegister).1 = k.toList.head? := by
  show (if k.pop.1.getD 0 = 0 then none else some (k.pop.1.getD 0)) = _
  rw [k.pop_eq.1]
  cases hlist : k.toList with
  | nil => rfl
  | cons key rest =>
      rw [hlist] at h
      exact if_neg (Ne.symm (List.ne_of_not_mem_cons h))

theorem read_of_ne {offset : UInt8} (h : offset ≠ dataRegister) (k : Keyboard) :
    k.read offset = (0, k) := if_neg h

/-- Taking a key moves it from those that wait to those delivered. -/
theorem pop_append (k : Keyboard) : k.pop.1.toList ++ k.pop.2.toList = k.toList := by
  obtain ⟨hhead, htail, -⟩ := k.pop_eq
  rw [hhead, htail]
  cases k.toList <;> rfl

/-- What a use does to the queue: what was delivered and what waits after it are what
waited before it and the keys that were typed. -/
theorem use_append {k : Keyboard} (h : 0 ∉ k.toList) (u : Use) :
    (k.use u).1.toList ++ (k.use u).2.toList = k.toList ++ u.typed.filter (· ≠ 0) := by
  cases u with
  | push key =>
      show (k.push key).toList = _
      rw [toList_push]
      by_cases hkey : key = 0 <;> simp [Use.typed, hkey]
  | feed keys => exact k.toList_feed keys
  | close => exact (List.append_nil _).symm
  | pop => exact k.pop_append.trans (List.append_nil _).symm
  | read offset =>
      by_cases hoffset : offset = dataRegister
      · subst hoffset
        show (heard _).toList ++ k.pop.2.toList = k.toList ++ []
        rw [heard_read h, ← k.pop_eq.1, k.pop_append, List.append_nil]
      · show (heard (k.read offset).1).toList ++ (k.read offset).2.toList = k.toList ++ []
        rw [read_of_ne hoffset, List.append_nil]
        rfl
  | write offset value => exact (List.append_nil _).symm
  | tick => exact (List.append_nil _).symm

theorem closed_use (k : Keyboard) (u : Use) :
    (k.use u).2.closed = true ↔ k.closed = true ∨ u = .close := by
  have hpop : k.pop.2.closed = k.closed := k.pop_eq.2.2
  cases u with
  | push key => simp [use, closed_push]
  | feed keys => simp [use, feed]
  | close => simp [use, close]
  | pop => simp [use, hpop]
  | read offset =>
      by_cases hoffset : offset = dataRegister
      · have hread : (k.read offset).2.closed = k.closed := by
          rw [hoffset]
          exact hpop
        simp [use, hread]
      · simp [use, read_of_ne hoffset]
  | write offset value => simp [use, asDevice, Device.write, Device.keyboard?]
  | tick => simp [use, asDevice, Device.tick, Device.keyboard?]

/-! ## All uses -/

/-- The queue after uses of it, and whether it is closed. -/
theorem serve_eq (uses : List Use) :
    (serve uses).delivered ++ (serve uses).keyboard.toList = keysUsed uses ∧
      ((serve uses).keyboard.closed = true ↔ .close ∈ uses) := by
  induction uses using List.reverseRecOn with
  | nil => exact ⟨rfl, by simp [serve]⟩
  | append_singleton uses u ih =>
      obtain ⟨hqueue, hclosed⟩ := ih
      have hnonzero : 0 ∉ (serve uses).keyboard.toList := fun hmem =>
        zero_notMem_keysUsed uses (hqueue ▸ List.mem_append_right _ hmem)
      rw [serve_concat, keysUsed_concat]
      refine ⟨?_, ?_⟩
      · show (serve uses).delivered ++ ((serve uses).keyboard.use u).1.toList ++
          ((serve uses).keyboard.use u).2.toList = _
        rw [List.append_assoc, use_append hnonzero, ← List.append_assoc, hqueue]
      · show ((serve uses).keyboard.use u).2.closed = true ↔ _
        rw [closed_use, hclosed, List.mem_append, List.mem_singleton]
        exact or_congr_right eq_comm

theorem zero_notMem_serve (uses : List Use) : 0 ∉ (serve uses).keyboard.toList := fun hmem =>
  zero_notMem_keysUsed uses ((serve_eq uses).1 ▸ List.mem_append_right _ hmem)

/-- Nothing waits just when everything typed has been delivered. -/
theorem toList_serve_eq_nil_iff (uses : List Use) :
    (serve uses).keyboard.toList = [] ↔ (serve uses).delivered = keysUsed uses := by
  rw [← (serve_eq uses).1]
  exact List.append_right_eq_self.symm.trans eq_comm

/-! ## What uses amount to -/

/-- A keyboard that has been used in this way delivers every key once and in order. -/
structure DeliversInOrder (uses : List Use) : Prop where
  queue : (serve uses).delivered ++ (serve uses).keyboard.toList = keysUsed uses
  /-- zero is read just when no key waits -/
  idle : ((serve uses).keyboard.read dataRegister).1 = 0 ↔ (serve uses).keyboard.toList = []
  /-- a poll of the keyboard's port, on whatever bus, gives the next key and takes it -/
  polled : ∀ {δ : Type} [TerminalPeripheral δ] [LawfulTerminalPeripheral δ] {b : Bus δ}
    {before after : List (Mapping δ)} {m : Mapping δ}, b.Disjoint →
    b.KeyboardAt before m after (serve uses).keyboard → m.size = 1 →
    Act.run (Bus.inputPort m.base).tryRead b = some (.ok (serve uses).keyboard.toList.head?,
      (b.withKeyboard before m after (serve uses).keyboard.pop.2).settle)
  /-- other registers, writes and cycles take nothing -/
  aside : ∀ offset value, (offset ≠ dataRegister →
      Device.read (.keyboard (serve uses).keyboard) offset =
        (.ok 0, .keyboard (serve uses).keyboard)) ∧
    Device.write (.keyboard (serve uses).keyboard) offset value =
      (.ok (), .keyboard (serve uses).keyboard, "") ∧
    Device.tick (.keyboard (serve uses).keyboard) = .keyboard (serve uses).keyboard
  closing : (serve (uses ++ [.close])).keyboard.toList = (serve uses).keyboard.toList
  drained : (serve uses).keyboard.isDrained = true ↔
    .close ∈ uses ∧ (serve uses).delivered = keysUsed uses
  /-- the queue may be looked at later than the closing -/
  drainedLater : ∀ more,
    (serve uses).keyboard.closed = true ∧ (serve (uses ++ more)).keyboard.pending = 0 ↔
      .close ∈ uses ∧ (serve (uses ++ more)).delivered = keysUsed (uses ++ more)

end Keyboard

open Keyboard in
/-- However typing and polling come one after the other, a keyboard delivers the keys
typed in their order and each of them once; to feed keys is to push them one by one. -/
theorem keyboard_delivers_in_order :
    (∀ (k : Keyboard) (keys : Bytes), k.feed keys = keys.foldl push k) ∧
      ∀ uses, DeliversInOrder uses := by
  refine ⟨feed_eq_foldl_push, fun uses => ?_⟩
  obtain ⟨hqueue, hclosed⟩ := serve_eq uses
  have hnonzero := zero_notMem_serve uses
  refine ⟨hqueue, read_eq_zero_iff hnonzero, ?_, fun offset value => ⟨fun hoffset => ?_, rfl, rfl⟩,
    by rw [serve_concat]; rfl, ?_, fun more => ?_⟩
  · intro δ _ _ b before after m hdisjoint hkeyboard hsize
    have hpoll := hkeyboard.run_pollInput hdisjoint hsize
    have hkey := heard_read hnonzero
    rw [← hkey]
    exact hpoll
  · show (Except.ok ((serve uses).keyboard.read offset).1,
      Device.keyboard ((serve uses).keyboard.read offset).2) = _
    rw [read_of_ne hoffset]
  · rw [isDrained_iff, hclosed, toList_serve_eq_nil_iff]
  · rw [hclosed, ← length_toList, List.length_eq_zero_iff, toList_serve_eq_nil_iff]

end PolledTerminal
