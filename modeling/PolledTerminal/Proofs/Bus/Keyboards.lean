import PolledTerminal.Port
import PolledTerminal.Proofs.Bus.Devices
set_option autoImplicit false

/-!
# The keyboard of a bus

The host types on the first keyboard and the terminal polls the port of the
first keyboard, so both work on one queue.
-/

namespace PolledTerminal

open TerminalPeripheral (ofKeyboard)

variable {δ : Type} [TerminalPeripheral δ]

namespace Bus

/-- The first keyboard stands between other mappings. -/
structure KeyboardAt (b : Bus δ) (before : List (Mapping δ)) (m : Mapping δ)
    (after : List (Mapping δ)) (k : Keyboard) : Prop where
  split : b.mappings = before ++ m :: after
  device : m.device = ofKeyboard k
  first : ∀ n ∈ before, n.isKeyboard = false

/-- The bus with another keyboard in the place of one. -/
def withKeyboard (b : Bus δ) (before : List (Mapping δ)) (m : Mapping δ) (after : List (Mapping δ))
    (k : Keyboard) : Bus δ :=
  { b with mappings := before ++ { m with device := ofKeyboard k } :: after }

omit [TerminalPeripheral δ] in
theorem replaceFirst_append_of_none (change? : δ → Option δ) {before : List (Mapping δ)}
    (h : ∀ n ∈ before, change? n.device = none) (rest : List (Mapping δ)) :
    replaceFirst change? (before ++ rest) = before ++ replaceFirst change? rest := by
  induction before with
  | nil => rfl
  | cons m ms ih =>
      have hm : change? m.device = none := h m List.mem_cons_self
      have hms := ih fun n hn => h n (List.mem_cons_of_mem m hn)
      simp only [List.cons_append, replaceFirst, hm, hms]

section Lawful

variable [LawfulTerminalPeripheral δ] {b : Bus δ} {before after : List (Mapping δ)}
  {m : Mapping δ} {k : Keyboard}

/-- A bus has a first keyboard or none at all. -/
theorem exists_keyboardAt_or_none (b : Bus δ) :
    (∃ before m after k, b.KeyboardAt before m after k) ∨
      ∀ m ∈ b.mappings, m.isKeyboard = false := by
  cases hfind : b.mappings.find? Mapping.isKeyboard with
  | none =>
      refine .inr fun m hm => ?_
      simpa using List.find?_eq_none.mp hfind m hm
  | some m =>
      obtain ⟨hsome, before, after, hsplit, hbefore⟩ := List.find?_eq_some_iff_append.mp hfind
      obtain ⟨k, hk⟩ := Option.isSome_iff_exists.mp hsome
      have hdevice := LawfulTerminalPeripheral.keyboard?_eq_some_iff.mp hk
      exact .inl ⟨before, m, after, k, hsplit, hdevice, by simpa using hbefore⟩

theorem KeyboardAt.keyboard?_eq (h : b.KeyboardAt before m after k) : b.keyboard? = some k := by
  have hbefore : before.findSome? (fun n => TerminalPeripheral.keyboard? n.device) = none :=
    List.findSome?_eq_none_iff.mpr fun n hn => Mapping.keyboard?_eq_none (h.first n hn)
  rw [Bus.keyboard?, h.split, List.findSome?_append, hbefore, Option.none_or,
    List.findSome?_cons, h.device, LawfulTerminalPeripheral.keyboard?_ofKeyboard]

/-- What is done to the keyboard of a bus is done to the first one. -/
theorem KeyboardAt.changeKeyboard_eq (h : b.KeyboardAt before m after k)
    (f : Keyboard → Keyboard) : b.changeKeyboard f = b.withKeyboard before m after (f k) := by
  have hbefore : ∀ n ∈ before,
      (TerminalPeripheral.keyboard? n.device).map (ofKeyboard (δ := δ) ∘ f) = none := by
    intro n hn
    rw [Mapping.keyboard?_eq_none (h.first n hn), Option.map_none]
  rw [changeKeyboard, h.split, replaceFirst_append_of_none _ hbefore, replaceFirst, h.device,
    LawfulTerminalPeripheral.keyboard?_ofKeyboard, Option.map_some, withKeyboard]
  rfl

omit [LawfulTerminalPeripheral δ] in
/-- Without a keyboard there is nothing to change. -/
theorem changeKeyboard_of_none (h : ∀ m ∈ b.mappings, m.isKeyboard = false)
    (f : Keyboard → Keyboard) : b.changeKeyboard f = b := by
  have hnone : ∀ n ∈ b.mappings,
      (TerminalPeripheral.keyboard? n.device).map (ofKeyboard (δ := δ) ∘ f) = none := by
    intro n hn
    rw [Mapping.keyboard?_eq_none (h n hn), Option.map_none]
  have hsame := replaceFirst_append_of_none
    (fun x => (TerminalPeripheral.keyboard? x).map (ofKeyboard ∘ f)) hnone []
  rw [List.append_nil, replaceFirst, List.append_nil] at hsame
  rw [changeKeyboard, hsame]

/-! ## Polling -/

/-- A read of the keyboard's port takes the next key, and gives zero if there is none. -/
theorem KeyboardAt.run_read (hb : b.Disjoint) (h : b.KeyboardAt before m after k)
    (hsize : m.size = 1) :
    Act.run (Bus.read m.base) b =
      some (.ok (k.pop.1.getD 0), (b.withKeyboard before m after k.pop.2).settle) := by
  have hmem : m ∈ b.mappings := by simp [h.split]
  have hoffset : (0 : UInt8) < m.size := by
    rw [hsize]
    decide
  have hport : m.contains m.base = true := by
    have hcontains := Mapping.contains_port (hb.fits m hmem) hoffset
    rwa [UInt8.add_zero] at hcontains
  have hread : k.read 0 = (k.pop.1.getD 0, k.pop.2) := rfl
  have hfetch := fetch_of_owner hb h.split hport
  rw [UInt8.sub_self, h.device, LawfulTerminalPeripheral.read_ofKeyboard, hread] at hfetch
  rw [Bus.run_read, hfetch, withKeyboard]

/-- So does a poll. -/
theorem KeyboardAt.run_pollInput (hb : b.Disjoint) (h : b.KeyboardAt before m after k)
    (hsize : m.size = 1) :
    Act.run (Bus.pollInput m.base) b =
      some (.ok (if k.pop.1.getD 0 = 0 then none else some (k.pop.1.getD 0)),
        (b.withKeyboard before m after k.pop.2).settle) := by
  show Act.run (Bus.read m.base >>= _) b = _
  rw [Act.run_bind_of_ok (h.run_read hb hsize), Act.run_pure]

end Lawful

end Bus

end PolledTerminal
