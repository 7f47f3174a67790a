import Mathlib.Logic.Function.Iterate
import PolledTerminal.Proofs.Action
import PolledTerminal.Proofs.Bus.Layout
import PolledTerminal.Proofs.DataMemory
set_option autoImplicit false

/-!
# What an access does

On a disjoint bus an access is decided by the one owner of its address: data
memory, a mapping, or nobody.  Here is what a read and a write do in each case,
and what the cycles that pass do to the mappings.
-/

namespace PolledTerminal

variable {δ : Type}

section Peripheral

variable [Peripheral δ]

/-! ## Cycles -/

/-- A mapping after its device has seen so many cycles pass. -/
def Mapping.later (cycles : Nat) (m : Mapping δ) : Mapping δ :=
  { m with device := (Peripheral.tick^[cycles]) m.device }

@[simp] theorem Mapping.later_zero (m : Mapping δ) : m.later 0 = m := rfl

@[simp] theorem Mapping.later_later (m : Mapping δ) (n k : Nat) :
    (m.later n).later k = m.later (n + k) := by
  simp only [Mapping.later]
  rw [Nat.add_comm n k, Function.iterate_add_apply]

@[simp] theorem Mapping.base_later (m : Mapping δ) (n : Nat) : (m.later n).base = m.base := rfl

@[simp] theorem Mapping.place_later (m : Mapping δ) (n : Nat) : (m.later n).place = m.place := rfl

namespace Bus

@[simp] theorem settle_ram (b : Bus δ) : b.settle.ram = b.ram := rfl

@[simp] theorem settle_cycles (b : Bus δ) : b.settle.cycles = b.cycles + 1 := rfl

@[simp] theorem settle_printed (b : Bus δ) : b.settle.printed = b.printed := rfl

@[simp] theorem settle_mappings (b : Bus δ) :
    b.settle.mappings = b.mappings.map (Mapping.later 1) := rfl

/-- Cycles that pass without an access touch nothing but the devices and the
count. -/
theorem iterate_settle (b : Bus δ) (n : Nat) :
    (Bus.settle^[n]) b =
      { b with mappings := b.mappings.map (Mapping.later n), cycles := b.cycles + n } := by
  induction n with
  | zero =>
      have hid : b.mappings.map (Mapping.later 0) = b.mappings :=
        (List.map_congr_left fun m _ => m.later_zero).trans (List.map_id' b.mappings)
      rw [Function.iterate_zero, id_eq, hid]
      rfl
  | succ n ih =>
      rw [Function.iterate_succ_apply', ih]
      simp only [settle, tick, List.map_map, Bus.mk.injEq, true_and]
      refine ⟨?_, rfl, trivial⟩
      apply List.map_congr_left
      intro m _
      exact m.later_later n 1

theorem samePlaces_settle (b : Bus δ) : SamePlaces b b.settle := by
  refine ⟨rfl, rfl, ?_⟩
  rw [settle_mappings, List.map_map]
  rfl

theorem Disjoint.settle {b : Bus δ} (hb : b.Disjoint) : b.settle.Disjoint :=
  hb.of_samePlaces (samePlaces_settle b)

theorem Disjoint.iterate_settle {b : Bus δ} (hb : b.Disjoint) (n : Nat) :
    ((Bus.settle^[n]) b).Disjoint := by
  induction n with
  | zero => exact hb
  | succ n ih =>
      rw [Function.iterate_succ_apply']
      exact ih.settle

end Bus

end Peripheral

/-! ## Finding the owner -/

namespace Bus

variable {α : Type}

/-- Mappings that do not answer are passed over. -/
theorem askFirst_append_of_not_contains {addr : UInt8} {ask : δ → UInt8 → α × δ}
    {before : List (Mapping δ)} (h : ∀ m ∈ before, m.contains addr = false)
    (rest : List (Mapping δ)) :
    askFirst addr ask (before ++ rest) =
      (askFirst addr ask rest).map fun r => (r.1, before ++ r.2) := by
  induction before with
  | nil => cases hrest : askFirst addr ask rest <;> simp [hrest]
  | cons m ms ih =>
      have hm : m.contains addr = false := h m List.mem_cons_self
      have hms := ih fun n hn => h n (List.mem_cons_of_mem m hn)
      simp only [List.cons_append, askFirst, hm, hms, Bool.false_eq_true, if_false,
        Option.map_map]
      rfl

theorem askFirst_of_owner {addr : UInt8} (ask : δ → UInt8 → α × δ)
    {before after : List (Mapping δ)} {m : Mapping δ}
    (hbefore : ∀ n ∈ before, n.contains addr = false) (haddr : m.contains addr = true) :
    askFirst addr ask (before ++ m :: after) =
      some ((ask m.device (addr - m.base)).1,
        before ++ { m with device := (ask m.device (addr - m.base)).2 } :: after) := by
  rw [askFirst_append_of_not_contains hbefore]
  simp [askFirst, haddr]

theorem askFirst_of_unowned {addr : UInt8} (ask : δ → UInt8 → α × δ) {mappings : List (Mapping δ)}
    (h : ∀ m ∈ mappings, m.contains addr = false) : askFirst addr ask mappings = none := by
  rw [← List.append_nil mappings, askFirst_append_of_not_contains h]
  rfl

/-- A mapping that answers an address stands between the mappings before and
after it. -/
theorem exists_owner_or_unowned (b : Bus δ) (addr : UInt8) :
    (∃ before m after, b.mappings = before ++ m :: after ∧ m.contains addr = true) ∨
      ∀ m ∈ b.mappings, m.contains addr = false := by
  by_cases h : ∃ m ∈ b.mappings, m.contains addr = true
  · obtain ⟨m, hm, haddr⟩ := h
    obtain ⟨before, after, hsplit⟩ := List.append_of_mem hm
    exact .inl ⟨before, m, after, hsplit, haddr⟩
  · refine .inr fun m hm => ?_
    cases haddr : m.contains addr with
    | false => rfl
    | true => exact absurd ⟨m, hm, haddr⟩ h

/-! ## Reading and writing -/

section Peripheral

variable [Peripheral δ]

theorem run_read (b : Bus δ) (addr : UInt8) :
    Act.run (Bus.read addr) b = some ((b.fetch addr).1, (b.fetch addr).2.settle) := rfl

theorem run_write (b : Bus δ) (addr value : UInt8) :
    Act.run (Bus.write addr value) b =
      some ((b.store addr value).1, (b.store addr value).2.settle) := rfl

theorem cycles_fetch (b : Bus δ) (addr : UInt8) : (b.fetch addr).2.cycles = b.cycles := by
  unfold fetch
  split
  · rfl
  · split <;> rfl

theorem cycles_store (b : Bus δ) (addr value : UInt8) :
    (b.store addr value).2.cycles = b.cycles := by
  unfold store
  split
  · rfl
  · dsimp only
    split <;> rfl

theorem fetch_of_memory {b : Bus δ} {addr value : UInt8} (h : b.ram.read? addr = some value) :
    b.fetch addr = (.ok value, b) := by
  simp [fetch, h]

theorem fetch_of_owner {b : Bus δ} (hb : b.Disjoint) {before after : List (Mapping δ)}
    {m : Mapping δ} (hsplit : b.mappings = before ++ m :: after) {addr : UInt8}
    (haddr : m.contains addr = true) :
    b.fetch addr =
      ((Peripheral.read m.device (addr - m.base)).1,
        { b with mappings := before ++
            { m with device := (Peripheral.read m.device (addr - m.base)).2 } :: after }) := by
  have hmem : m ∈ b.mappings := by simp [hsplit]
  have hram : b.ram.read? addr = none :=
    (DataMemory.read?_eq_none_iff _ _).mpr (hb.offMemory m hmem addr haddr)
  have hbefore := hb.not_contains_before hsplit haddr
  simp only [fetch, hram, hsplit, askFirst_of_owner Peripheral.read hbefore haddr]

theorem fetch_of_unowned {b : Bus δ} {addr : UInt8} (hram : b.ram.contains addr = false)
    (h : ∀ m ∈ b.mappings, m.contains addr = false) :
    b.fetch addr = (.error (.unmapped addr), b) := by
  simp only [fetch, (DataMemory.read?_eq_none_iff _ _).mpr hram,
    askFirst_of_unowned Peripheral.read h]

theorem store_of_memory {b : Bus δ} {addr value : UInt8} {ram : DataMemory}
    (h : b.ram.write? addr value = some ram) :
    b.store addr value = (.ok (), { b with ram := ram }) := by
  simp [store, h]

theorem store_of_owner {b : Bus δ} (hb : b.Disjoint) {before after : List (Mapping δ)}
    {m : Mapping δ} (hsplit : b.mappings = before ++ m :: after) {addr : UInt8} (value : UInt8)
    (haddr : m.contains addr = true) :
    b.store addr value =
      ((Peripheral.write m.device (addr - m.base) value).1,
        { b with
          mappings := before ++
            { m with device := (Peripheral.write m.device (addr - m.base) value).2.1 } :: after
          printed := (Peripheral.write m.device (addr - m.base) value).2.2 :: b.printed }) := by
  have hmem : m ∈ b.mappings := by simp [hsplit]
  have hram : b.ram.write? addr value = none :=
    (DataMemory.write?_eq_none_iff _ _ _).mpr (hb.offMemory m hmem addr haddr)
  have hbefore := hb.not_contains_before hsplit haddr
  simp only [store, hram, hsplit]
  rw [askFirst_of_owner _ hbefore haddr]

end Peripheral

end Bus

end PolledTerminal
