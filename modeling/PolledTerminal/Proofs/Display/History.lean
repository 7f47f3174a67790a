import Mathlib.Data.List.DropRight
import Mathlib.Logic.Function.Iterate
import PolledTerminal.Display
set_option autoImplicit false

/-!
# The history of a display

What the bus does to a display, which of its writes the display accepts, and
what it shows as a function of the accepted writes alone: the newest characters
of all, and the newest of those since the last clear.
-/

namespace PolledTerminal

open PolledTerminal.Text (Bytes)

/-! ## Keeping the newest bytes -/

/-- Whatever was dropped before is not among the newest after one more. -/
theorem rtake_rtake_append_singleton {α : Type} (xs : List α) (x : α) (n : Nat) :
    (xs.rtake n ++ [x]).rtake n = (xs ++ [x]).rtake n := by
  cases n with
  | zero => simp
  | succ n =>
      rw [List.rtake_concat_succ, List.rtake_concat_succ]
      simp [List.rtake_eq_reverse_take_reverse, List.take_take]

theorem rtake_of_length_le {α : Type} {xs : List α} {n : Nat} (h : xs.length ≤ n) :
    xs.rtake n = xs := by
  rw [List.rtake, Nat.sub_eq_zero_of_le h, List.drop_zero]

theorem Scrollback.toList_push_rtake (s : Scrollback) (b : UInt8) :
    (s.push b).toList = (s.toList ++ [b]).rtake s.limit := s.toList_push b

@[simp] theorem Scrollback.limit_empty (limit : Nat) : (Scrollback.empty limit).limit = limit := rfl

/-! ## Writes to registers -/

/-- A value written to the register at an offset. -/
structure RegisterWrite where
  offset : UInt8
  value : UInt8
  deriving DecidableEq, Repr, Inhabited

namespace RegisterWrite

/-- The write that empties the screen. -/
def clear : RegisterWrite := ⟨Display.controlRegister, Display.clearScreen⟩

/-- The write that shows a character. -/
def character (c : UInt8) : RegisterWrite := ⟨Display.dataRegister, c⟩

/-- The byte that a write shows, if it shows one. -/
def shown? (w : RegisterWrite) : Option UInt8 :=
  if w.offset = Display.dataRegister then some w.value else none

end RegisterWrite

/-- The bytes that writes show, in order. -/
def shownBytes (ws : List RegisterWrite) : Bytes := ws.filterMap RegisterWrite.shown?

/-- The writes since the last one that empties the screen. -/
def sinceClear (ws : List RegisterWrite) : List RegisterWrite := ws.rtakeWhile (· ≠ .clear)

@[simp] theorem shownBytes_append (ws vs : List RegisterWrite) :
    shownBytes (ws ++ vs) = shownBytes ws ++ shownBytes vs :=
  List.filterMap_append

@[simp] theorem shownBytes_characters (cs : Bytes) :
    shownBytes (cs.map RegisterWrite.character) = cs := by
  induction cs with
  | nil => rfl
  | cons c cs ih =>
      simp only [shownBytes] at ih
      simp [shownBytes, ih, RegisterWrite.shown?, RegisterWrite.character]

theorem clear_notMem_characters (cs : Bytes) :
    RegisterWrite.clear ∉ cs.map RegisterWrite.character := by
  intro hmem
  obtain ⟨c, -, heq⟩ := List.mem_map.mp hmem
  cases heq

@[simp] theorem sinceClear_append_clear (ws : List RegisterWrite) :
    sinceClear (ws ++ [.clear]) = [] := by
  simp [sinceClear]

theorem sinceClear_append_of_ne {w : RegisterWrite} (h : w ≠ .clear) (ws : List RegisterWrite) :
    sinceClear (ws ++ [w]) = sinceClear ws ++ [w] := by
  simp [sinceClear, h]

/-- Writes none of which clears stand behind those that stood there before. -/
theorem sinceClear_append_of_not_mem {vs : List RegisterWrite} (h : RegisterWrite.clear ∉ vs)
    (ws : List RegisterWrite) : sinceClear (ws ++ vs) = sinceClear ws ++ vs := by
  induction vs using List.reverseRecOn with
  | nil => simp
  | append_singleton vs v ih =>
      have hv : v ≠ .clear := fun heq => h (by simp [heq])
      have hvs : RegisterWrite.clear ∉ vs := fun hmem => h (List.mem_append_left _ hmem)
      rw [← List.append_assoc, sinceClear_append_of_ne hv, ih hvs, List.append_assoc]

/-! ## Accesses -/

/-- What the bus does to a display. -/
inductive DisplayAccess where
  | read (offset : UInt8)
  | write (offset value : UInt8)
  | tick
  deriving DecidableEq, Repr, Inhabited

namespace Display

/-- The display after an access. -/
def access (d : Display) : DisplayAccess → Display
  | .read _ => d
  | .write offset value => (d.write offset value).1
  | .tick => d.tick

/-- The display accepts a write at an offset now. -/
def accepts (d : Display) (offset : UInt8) : Bool :=
  !d.isBusy && (offset == controlRegister || offset == dataRegister)

/-- The write of an access, if the display accepts it. -/
def acceptedBy (d : Display) : DisplayAccess → List RegisterWrite
  | .read _ => []
  | .write offset value => if d.accepts offset then [⟨offset, value⟩] else []
  | .tick => []

/-- The display after accesses in order. -/
def after (d : Display) (accesses : List DisplayAccess) : Display := accesses.foldl access d

/-- The writes that the display accepts among accesses, in order. -/
def accepted : Display → List DisplayAccess → List RegisterWrite
  | _, [] => []
  | d, a :: as => d.acceptedBy a ++ accepted (d.access a) as

/-- Accesses lead from one display to another, and `ws` are the writes among
them that were accepted. -/
def Accepts (d : Display) (ws : List RegisterWrite) (d' : Display) : Prop :=
  ∃ accesses, d.after accesses = d' ∧ d.accepted accesses = ws

theorem accepted_append (d : Display) (as bs : List DisplayAccess) :
    d.accepted (as ++ bs) = d.accepted as ++ (d.after as).accepted bs := by
  induction as generalizing d with
  | nil => rfl
  | cons a as ih =>
      rw [List.cons_append, accepted, accepted, ih, List.append_assoc]
      rfl

theorem Accepts.refl (d : Display) : d.Accepts [] d := ⟨[], rfl, rfl⟩

theorem Accepts.trans {d d' d'' : Display} {ws vs : List RegisterWrite} (h : d.Accepts ws d')
    (h' : d'.Accepts vs d'') : d.Accepts (ws ++ vs) d'' := by
  obtain ⟨as, rfl, rfl⟩ := h
  obtain ⟨bs, rfl, rfl⟩ := h'
  exact ⟨as ++ bs, by simp [after], accepted_append d as bs⟩

theorem accepts_of_access (d : Display) (a : DisplayAccess) :
    d.Accepts (d.acceptedBy a) (d.access a) :=
  ⟨[a], rfl, by simp [accepted]⟩

theorem accepts_tick (d : Display) : d.Accepts [] d.tick := d.accepts_of_access .tick

end Display

end PolledTerminal
