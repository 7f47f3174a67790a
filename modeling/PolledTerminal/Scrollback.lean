import PolledTerminal.Text.Utf8
set_option autoImplicit false

/-!
# Scrollback

A line of bytes that keeps only the newest.  The bytes are held newest first
beside their number, so that adding one touches the rest only when the oldest
has to go; `toList` is the view in the order of arrival, and `toList_push` says
what adding does to it.
-/

namespace PolledTerminal

open PolledTerminal.Text (Bytes)

/-- At most `limit` bytes, the newest that were pushed. -/
structure Scrollback where
  limit : Nat
  newest : Bytes := []
  size : Nat := 0
  size_eq : size = newest.length := by rfl
  size_le : size ≤ limit := by exact Nat.zero_le _

namespace Scrollback

/-- No bytes yet. -/
def empty (limit : Nat) : Scrollback := { limit := limit }

/-- The bytes in the order of arrival. -/
def toList (s : Scrollback) : Bytes := s.newest.reverse

/-- Add a byte; when all places are taken the oldest goes. -/
def push (s : Scrollback) (b : UInt8) : Scrollback :=
  if h : s.size < s.limit then
    { limit := s.limit, newest := b :: s.newest, size := s.size + 1,
      size_eq := by simp [s.size_eq], size_le := h }
  else
    { limit := s.limit, newest := (b :: s.newest).take s.limit, size := s.limit,
      size_eq := by
        have h₁ := s.size_eq
        have h₂ := s.size_le
        rw [List.length_take, List.length_cons]
        omega
      size_le := Nat.le_refl _ }

@[simp] theorem toList_empty (limit : Nat) : (empty limit).toList = [] := rfl

@[simp] theorem limit_push (s : Scrollback) (b : UInt8) : (s.push b).limit = s.limit := by
  unfold push; split <;> rfl

theorem length_toList_le (s : Scrollback) : s.toList.length ≤ s.limit := by
  rw [toList, List.length_reverse, ← s.size_eq]; exact s.size_le

/-- Adding a byte keeps the last `limit` of the bytes and it. -/
theorem toList_push (s : Scrollback) (b : UInt8) :
    (s.push b).toList = (s.toList ++ [b]).drop ((s.toList ++ [b]).length - s.limit) := by
  have hn := s.size_eq
  have hl := s.size_le
  unfold push
  split
  case isTrue h =>
    have : (s.toList ++ [b]).length - s.limit = 0 := by
      simp only [toList, List.length_append, List.length_reverse, List.length_singleton]; omega
    rw [this, List.drop_zero]
    simp [toList]
  case isFalse h =>
    simp only [toList]
    rw [List.reverse_take, List.reverse_cons]
    simp

end Scrollback

end PolledTerminal
