import PolledTerminal.Proofs.Bus.Accesses
import PolledTerminal.Proofs.Bus.Outlines
set_option autoImplicit false

/-!
# What becomes of a bus

After a bus has been assembled nothing more is mapped on it.  Everything else may happen,
in any order and however each of it ends: accesses, cycles without one, keys typed on the
first keyboard, changes to the first display, other bytes in data memory.  All the same
every mapping stays where it is and what it is.
-/

namespace PolledTerminal.Bus

open TerminalPeripheral (ofDisplay display? keyboard?)

variable {δ : Type} [TerminalPeripheral δ] {b b' b'' : Bus δ}

/-- What a bus may become when nothing is mapped on it any more. -/
inductive Becomes (b : Bus δ) : Bus δ → Prop where
  | same : Becomes b b
  /-- an access that fails takes its cycle too -/
  | read {b' : Bus δ} (h : Becomes b b') (addr : UInt8) : Becomes b (b'.fetch addr).2.settle
  | write {b' : Bus δ} (h : Becomes b b') (addr value : UInt8) :
      Becomes b (b'.store addr value).2.settle
  | tick {b' : Bus δ} (h : Becomes b b') : Becomes b b'.tick
  | keyboard {b' : Bus δ} (h : Becomes b b') (f : Keyboard → Keyboard) :
      Becomes b (b'.changeKeyboard f)
  | display {b' : Bus δ} (h : Becomes b b') (f : Display → Display) :
      Becomes b (b'.changeDisplay f)
  | memory {b' : Bus δ} (h : Becomes b b') {ram : DataMemory} (hbase : ram.base = b'.ram.base)
      (hsize : ram.cells.size = b'.ram.cells.size) : Becomes b { b' with ram := ram }

theorem Becomes.trans (h : Becomes b b') (h' : Becomes b' b'') : Becomes b b'' := by
  induction h' with
  | same => exact h
  | read _ addr ih => exact ih.read addr
  | write _ addr value ih => exact ih.write addr value
  | tick _ ih => exact ih.tick
  | keyboard _ f ih => exact ih.keyboard f
  | display _ f ih => exact ih.display f
  | memory _ hbase hsize ih => exact ih.memory hbase hsize

/-! ## Accesses -/

theorem becomes_of_run_access {a : Access} {answer : Except Fault (Option UInt8)}
    (h : Act.run (access a) b = some (answer, b')) : Becomes b b' := by
  cases a with
  | read addr =>
      cases (b.run_call_read addr).symm.trans h
      exact .read .same addr
  | write addr value =>
      cases (b.run_call_write addr value).symm.trans h
      exact .write .same addr value

theorem Leads.becomes {log : AccessLog} (h : b.Leads log b') : Becomes b b' := by
  induction log generalizing b with
  | nil =>
      cases h
      exact .same
  | cons e log ih =>
      obtain ⟨answer, b₁, hrun, -⟩ := b.exists_run_access e.1
      have hlead : Act.inTurn access (e.1 :: log.map Prod.fst) b =
          some (e.2 :: log.map Prod.snd, b') := h
      rw [Act.inTurn_cons_of_run hrun] at hlead
      obtain ⟨⟨answers, b₂⟩, hrest, heq⟩ := Option.map_eq_some_iff.mp hlead
      cases heq
      exact (becomes_of_run_access hrun).trans (ih hrest)

/-! ## Outlines -/

/-- Changing the first device that can be changed moves no mapping, if the change moves
none. -/
theorem map_outline_replaceFirst {change? : δ → Option δ}
    (h : ∀ (m : Mapping δ) device, change? m.device = some device →
      ({ m with device := device } : Mapping δ).outline = m.outline) (ms : List (Mapping δ)) :
    (replaceFirst change? ms).map Mapping.outline = ms.map Mapping.outline := by
  induction ms with
  | nil => rfl
  | cons m ms ih =>
      rw [replaceFirst]
      split
      case h_1 device hchange => rw [List.map_cons, List.map_cons, h m device hchange]
      case h_2 => rw [List.map_cons, List.map_cons, ih]

section Lawful

variable [LawfulTerminalPeripheral δ]

/-- Another display in the place of a display. -/
theorem sameOutline_changeDisplay (b : Bus δ) (f : Display → Display) :
    SameOutline b (b.changeDisplay f) := by
  refine ⟨rfl, rfl, map_outline_replaceFirst ?_ b.mappings⟩
  intro m device hchange
  obtain ⟨d, hd, rfl⟩ := Option.map_eq_some_iff.mp hchange
  have hdevice : m.device = ofDisplay d := LawfulTerminalPeripheral.display?_eq_some_iff.mp hd
  simp [Mapping.outline, Mapping.place, Mapping.isDisplay, Mapping.isKeyboard, hdevice]

/-- Whatever becomes of a disjoint bus, everything stays where it is and what it is. -/
theorem Becomes.sameOutline (hb : b.Disjoint) (h : Becomes b b') : SameOutline b b' := by
  induction h with
  | same => exact .refl b
  | read _ addr ih =>
      exact ih.trans ((calm_fetch (ih.disjoint hb) addr).trans (calm_settle _)).sameOutline
  | write _ addr value ih =>
      have hstored := sameOutline_store (ih.disjoint hb) addr value
      exact (ih.trans hstored).trans (calm_settle _).sameOutline
  | @tick b₁ _ ih => exact ih.trans ⟨rfl, rfl, (calm_settle b₁).sameOutline.outlines⟩
  | keyboard _ f ih => exact ih.trans (calm_changeKeyboard _ f).sameOutline
  | display _ f ih => exact ih.trans (sameOutline_changeDisplay _ f)
  | memory _ hbase hsize ih => exact ih.trans ⟨hbase, hsize, rfl⟩

end Lawful

end PolledTerminal.Bus
