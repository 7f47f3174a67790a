import PolledTerminal.Proofs.Bus.Overruns
set_option autoImplicit false

/-!
# Bystanders

A bus may have more displays and keyboards than the first ones, and other devices
too.  Whatever is done with the first display and the first keyboard, the others
only see the cycles pass.
-/

namespace PolledTerminal

open TerminalPeripheral (ofDisplay ofKeyboard)

/-- It does not matter which of two kinds is taken out of a list first. -/
theorem eraseP_comm {α : Type} {p q : α → Bool} (h : ∀ x, p x = true → q x = false)
    (xs : List α) : (xs.eraseP p).eraseP q = (xs.eraseP q).eraseP p := by
  induction xs with
  | nil => rfl
  | cons x xs ih =>
      by_cases hp : p x = true
      · have hq : ¬ q x = true := by rw [h x hp]; exact Bool.false_ne_true
        rw [List.eraseP_cons_of_pos hp, List.eraseP_cons_of_neg hq, List.eraseP_cons_of_pos hp]
      · rw [List.eraseP_cons_of_neg hp]
        by_cases hq : q x = true
        · rw [List.eraseP_cons_of_pos hq, List.eraseP_cons_of_pos hq]
        · rw [List.eraseP_cons_of_neg hq, List.eraseP_cons_of_neg hq, List.eraseP_cons_of_neg hp,
            ih]

variable {δ : Type}

namespace Bus

/-- What is printed last comes last. -/
theorem printedText_cons (b : Bus δ) (text : String) :
    ({ b with printed := text :: b.printed } : Bus δ).printedText = b.printedText ++ text := by
  simp [printedText, String.join]

variable [TerminalPeripheral δ]

/-- The mappings but for the first display and the first keyboard. -/
def bystanders (b : Bus δ) : List (Mapping δ) :=
  (b.mappings.eraseP Mapping.isDisplay).eraseP Mapping.isKeyboard

/-- So many cycles pass in which the first display and the first keyboard are used,
and this text is printed: data memory stays as it is, and the other devices see the
cycles and no more. -/
structure Passes (elapsed : Nat) (text : String) (b b' : Bus δ) : Prop where
  calm : Calm b b'
  ram : b'.ram = b.ram
  cycles : b'.cycles = b.cycles + elapsed
  printed : b'.printedText = b.printedText ++ text
  bystanders : b'.bystanders = b.bystanders.map (Mapping.later elapsed)

namespace Passes

variable {b b' b'' : Bus δ} {n k : Nat} {text text' : String}

theorem refl (b : Bus δ) : Passes 0 "" b b :=
  ⟨.refl b, rfl, rfl, String.append_empty.symm,
    ((List.map_congr_left fun m _ => m.later_zero).trans (List.map_id' _)).symm⟩

theorem trans (h : Passes n text b b') (h' : Passes k text' b' b'') :
    Passes (n + k) (text ++ text') b b'' := by
  refine ⟨h.calm.trans h'.calm, h'.ram.trans h.ram, ?_, ?_, ?_⟩
  · rw [h'.cycles, h.cycles, Nat.add_assoc]
  · rw [h'.printed, h.printed, String.append_assoc]
  · rw [h'.bystanders, h.bystanders, List.map_map]
    exact List.map_congr_left fun m _ => m.later_later n k

end Passes

section Lawful

variable [LawfulTerminalPeripheral δ] {b : Bus δ} {before after : List (Mapping δ)}
  {m : Mapping δ} {d : Display} {k : Keyboard}

/-! ## Cycles -/

theorem isKeyboard_of_isDisplay {m : Mapping δ} (h : m.isDisplay = true) :
    m.isKeyboard = false := by
  obtain ⟨d, hd⟩ := Option.isSome_iff_exists.mp h
  rw [Mapping.isKeyboard, LawfulTerminalPeripheral.display?_eq_some_iff.mp hd,
    LawfulTerminalPeripheral.keyboard?_ofDisplay]
  rfl

theorem eraseP_isDisplay_map_later (n : Nat) (ms : List (Mapping δ)) :
    (ms.map (Mapping.later n)).eraseP Mapping.isDisplay =
      (ms.eraseP Mapping.isDisplay).map (Mapping.later n) := by
  have hkind : Mapping.isDisplay ∘ Mapping.later (δ := δ) n = Mapping.isDisplay :=
    funext fun m => m.isDisplay_later n
  rw [List.eraseP_map, hkind]

theorem eraseP_isKeyboard_map_later (n : Nat) (ms : List (Mapping δ)) :
    (ms.map (Mapping.later n)).eraseP Mapping.isKeyboard =
      (ms.eraseP Mapping.isKeyboard).map (Mapping.later n) := by
  have hkind : Mapping.isKeyboard ∘ Mapping.later (δ := δ) n = Mapping.isKeyboard :=
    funext fun m => by
      rw [Function.comp_apply, Mapping.isKeyboard, Mapping.later,
        LawfulTerminalPeripheral.keyboard?_tick_iterate, ← Mapping.isKeyboard]
  rw [List.eraseP_map, hkind]

theorem passes_settle (b : Bus δ) : Passes 1 "" b b.settle := by
  refine ⟨calm_settle b, rfl, rfl, String.append_empty.symm, ?_⟩
  rw [bystanders, settle_mappings, eraseP_isDisplay_map_later, eraseP_isKeyboard_map_later,
    ← bystanders]

/-! ## The first display and the first keyboard -/

/-- Without the first display. -/
theorem DisplayAt.eraseP_eq (h : b.DisplayAt before m after d)
    (hfirst : ∀ n ∈ before, n.isDisplay = false) :
    b.mappings.eraseP Mapping.isDisplay = before ++ after := by
  have hm : m.isDisplay = true := by
    rw [Mapping.isDisplay, h.device, LawfulTerminalPeripheral.display?_ofDisplay]
    rfl
  rw [h.split, List.eraseP_append_right _ fun n hn => by rw [hfirst n hn]; exact Bool.false_ne_true,
    List.eraseP_cons_of_pos hm]

theorem DisplayAt.bystanders_eq (h : b.DisplayAt before m after d)
    (hfirst : ∀ n ∈ before, n.isDisplay = false) :
    b.bystanders = (before ++ after).eraseP Mapping.isKeyboard := by
  rw [bystanders, h.eraseP_eq hfirst]

theorem KeyboardAt.bystanders_eq (h : b.KeyboardAt before m after k) :
    b.bystanders = (before ++ after).eraseP Mapping.isDisplay := by
  have hm : m.isKeyboard = true := by
    rw [Mapping.isKeyboard, h.device, LawfulTerminalPeripheral.keyboard?_ofKeyboard]
    rfl
  rw [bystanders, eraseP_comm (fun _ => isKeyboard_of_isDisplay), h.split,
    List.eraseP_append_right _ fun n hn => by rw [h.first n hn]; exact Bool.false_ne_true,
    List.eraseP_cons_of_pos hm]

/-- A write that has waited for the first display. -/
theorem DisplayAt.passes_afterWrite (h : b.DisplayAt before m after d)
    (hfirst : ∀ n ∈ before, n.isDisplay = false) {offset : UInt8} (hoffset : offset < 2)
    (value : UInt8) :
    Passes (d.busyRemaining.toNat + 2) (d.ready.write offset value).2 b
      (b.afterWrite before m after d offset value) := by
  have hat : (b.afterWrite before m after d offset value).DisplayAt
      (before.map (Mapping.later (d.busyRemaining.toNat + 2)))
      { m with device := ofDisplay (d.ready.write offset value).1.tick }
      (after.map (Mapping.later (d.busyRemaining.toNat + 2)))
      (d.ready.write offset value).1.tick := ⟨rfl, rfl, h.size⟩
  refine ⟨h.calm_afterWrite hoffset value, rfl, rfl, printedText_cons b _, ?_⟩
  rw [hat.bystanders_eq, ← List.map_append, eraseP_isKeyboard_map_later, h.bystanders_eq hfirst]
  intro n hn
  obtain ⟨n₀, hn₀, rfl⟩ := List.mem_map.mp hn
  rw [Mapping.isDisplay_later, hfirst n₀ hn₀]

/-- Another state of the first keyboard, at once. -/
theorem KeyboardAt.passes_withKeyboard (h : b.KeyboardAt before m after k) (k' : Keyboard) :
    Passes 0 "" b (b.withKeyboard before m after k') := by
  have hat : (b.withKeyboard before m after k').KeyboardAt before
      { m with device := ofKeyboard k' } after k' := ⟨rfl, rfl, h.first⟩
  refine ⟨h.calm_withKeyboard k', rfl, rfl, String.append_empty.symm, ?_⟩
  rw [hat.bystanders_eq, ← h.bystanders_eq]
  exact (Passes.refl b).bystanders

end Lawful

end Bus

end PolledTerminal
