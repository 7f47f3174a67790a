import PolledTerminal.Proofs.Bus.Calls
set_option autoImplicit false

/-!
# The order of mapping

Buses that differ in the order of their mappings only answer every access alike
and stay that way; and devices that can all be mapped in one order can be mapped
in any other.
-/

namespace PolledTerminal

variable {δ : Type}

namespace Bus

/-- The same bus, but for the order in which devices were mapped. -/
structure SameButOrder (b c : Bus δ) : Prop where
  ram : c.ram = b.ram
  mappings : b.mappings.Perm c.mappings
  cycles : c.cycles = b.cycles
  printed : c.printed = b.printed

namespace SameButOrder

variable {b c b' : Bus δ}

theorem refl (b : Bus δ) : SameButOrder b b := ⟨rfl, .refl _, rfl, rfl⟩

theorem trans (h : SameButOrder b c) (h' : SameButOrder c b') : SameButOrder b b' :=
  ⟨h'.ram.trans h.ram, h.mappings.trans h'.mappings, h'.cycles.trans h.cycles,
    h'.printed.trans h.printed⟩

theorem disjoint (h : SameButOrder b c) (hb : b.Disjoint) : c.Disjoint := by
  refine ⟨?_, ?_, ?_⟩
  · intro m hm
    exact hb.fits m (h.mappings.mem_iff.mpr hm)
  · refine (h.mappings.pairwise_iff ?_).mp hb.apart
    intro m n hmn addr haddr
    cases hm : m.contains addr with
    | false => rfl
    | true =>
        rw [hmn addr hm] at haddr
        cases haddr
  · intro m hm
    rw [h.ram]
    exact hb.offMemory m (h.mappings.mem_iff.mpr hm)

/-- The owner of an address stands on both buses, between other mappings. -/
theorem exists_split (h : SameButOrder b c) {before after : List (Mapping δ)} {m : Mapping δ}
    (hsplit : b.mappings = before ++ m :: after) :
    ∃ before' after', c.mappings = before' ++ m :: after' ∧
      ∀ n, (before ++ n :: after).Perm (before' ++ n :: after') := by
  have hmem : m ∈ c.mappings := h.mappings.mem_iff.mp (by simp [hsplit])
  obtain ⟨before', after', hsplit'⟩ := List.append_of_mem hmem
  refine ⟨before', after', hsplit', ?_⟩
  have hothers : (m :: (before ++ after)).Perm (m :: (before' ++ after')) := by
    have hperm := h.mappings
    rw [hsplit, hsplit'] at hperm
    exact (List.perm_middle.symm.trans hperm).trans List.perm_middle
  intro n
  exact List.perm_middle.trans ((hothers.cons_inv.cons n).trans List.perm_middle.symm)

theorem unowned (h : SameButOrder b c) {addr : UInt8}
    (hb : ∀ m ∈ b.mappings, m.contains addr = false) : ∀ m ∈ c.mappings, m.contains addr = false :=
  fun m hm => hb m (h.mappings.mem_iff.mpr hm)

/-- One more mapping on both buses. -/
theorem withMapping (h : SameButOrder b c) (m : Mapping δ) :
    SameButOrder (b.withMapping m) (c.withMapping m) :=
  ⟨h.ram, h.mappings.append_right _, h.cycles, h.printed⟩

/-- A range is as free on the one bus as on the other. -/
theorem obstacle?_eq_none (h : SameButOrder b c) {base size : UInt8}
    (hb : b.obstacle? base size = none) : c.obstacle? base size = none := by
  rw [obstacle?_eq_none_iff] at hb ⊢
  obtain ⟨hfits, hmemory, hclear⟩ := hb
  refine ⟨hfits, ?_, ?_⟩
  · rw [h.ram]
    exact hmemory
  · intro m hm
    exact hclear m (h.mappings.mem_iff.mpr hm)

end SameButOrder

variable [Peripheral δ]

namespace SameButOrder

variable {b c b' : Bus δ}

theorem settle (h : SameButOrder b c) : SameButOrder b.settle c.settle :=
  ⟨h.ram, h.mappings.map _, congrArg (· + 1) h.cycles, h.printed⟩

/-- A read finds the same on both buses. -/
theorem fetch (h : SameButOrder b c) (hb : b.Disjoint) (addr : UInt8) :
    (c.fetch addr).1 = (b.fetch addr).1 ∧ SameButOrder (b.fetch addr).2 (c.fetch addr).2 := by
  cases hread : b.ram.read? addr with
  | some value =>
      have hread' : c.ram.read? addr = some value := by rw [h.ram, hread]
      rw [fetch_of_memory hread, fetch_of_memory hread']
      exact ⟨rfl, h⟩
  | none =>
      have hram := (DataMemory.read?_eq_none_iff _ _).mp hread
      have hram' : c.ram.contains addr = false := by rw [h.ram, hram]
      rcases b.exists_owner_or_unowned addr with ⟨before, m, after, hsplit, haddr⟩ | hunowned
      · obtain ⟨before', after', hsplit', hperm⟩ := h.exists_split hsplit
        rw [fetch_of_owner hb hsplit haddr, fetch_of_owner (h.disjoint hb) hsplit' haddr]
        exact ⟨rfl, h.ram, hperm _, h.cycles, h.printed⟩
      · rw [fetch_of_unowned hram hunowned, fetch_of_unowned hram' (h.unowned hunowned)]
        exact ⟨rfl, h⟩

/-- A write does the same on both buses. -/
theorem store (h : SameButOrder b c) (hb : b.Disjoint) (addr value : UInt8) :
    (c.store addr value).1 = (b.store addr value).1 ∧
      SameButOrder (b.store addr value).2 (c.store addr value).2 := by
  cases hwrite : b.ram.write? addr value with
  | some ram =>
      have hwrite' : c.ram.write? addr value = some ram := by rw [h.ram, hwrite]
      rw [store_of_memory hwrite, store_of_memory hwrite']
      exact ⟨rfl, rfl, h.mappings, h.cycles, h.printed⟩
  | none =>
      have hram := (DataMemory.write?_eq_none_iff _ _ _).mp hwrite
      have hram' : c.ram.contains addr = false := by rw [h.ram, hram]
      rcases b.exists_owner_or_unowned addr with ⟨before, m, after, hsplit, haddr⟩ | hunowned
      · obtain ⟨before', after', hsplit', hperm⟩ := h.exists_split hsplit
        rw [store_of_owner hb hsplit value haddr,
          store_of_owner (h.disjoint hb) hsplit' value haddr, h.printed]
        exact ⟨rfl, h.ram, hperm _, h.cycles, rfl⟩
      · rw [store_of_unowned hram hunowned, store_of_unowned hram' (h.unowned hunowned)]
        exact ⟨rfl, h⟩

/-! ## Accesses -/

/-- An access is answered alike on both buses. -/
theorem run_call (h : SameButOrder b c) (hb : b.Disjoint) {call : BusCall δ}
    (hcall : call.isAccess = true) :
    ∃ answer b' c', Act.run (Bus.call call) b = some (answer, b') ∧
      Act.run (Bus.call call) c = some (answer, c') ∧ b'.Disjoint ∧ SameButOrder b' c' := by
  cases call with
  | map name base device => cases hcall
  | read addr =>
      obtain ⟨hanswer, hsame⟩ := h.fetch hb addr
      refine ⟨_, _, _, run_call_read b addr, ?_, ?_, hsame.settle⟩
      · rw [run_call_read, hanswer]
      · exact (hb.of_samePlaces (samePlaces_fetch hb addr)).settle
  | write addr value =>
      obtain ⟨hanswer, hsame⟩ := h.store hb addr value
      refine ⟨_, _, _, run_call_write b addr value, ?_, ?_, hsame.settle⟩
      · rw [run_call_write, hanswer]
      · exact (hb.of_samePlaces (samePlaces_store hb addr value)).settle

/-- Accesses in turn are answered alike on both buses. -/
theorem accesses (h : SameButOrder b c) (hb : b.Disjoint) {calls : List (BusCall δ)}
    (hcalls : ∀ call ∈ calls, call.isAccess = true) :
    ∃ answers b' c', Act.inTurn Bus.call calls b = some (answers, b') ∧
      Act.inTurn Bus.call calls c = some (answers, c') ∧ SameButOrder b' c' := by
  induction calls generalizing b c with
  | nil => exact ⟨[], b, c, rfl, rfl, h⟩
  | cons call calls ih =>
      obtain ⟨answer, b₁, c₁, hrun, hrun', hb₁, h₁⟩ :=
        h.run_call hb (hcalls call List.mem_cons_self)
      obtain ⟨answers, b', c', hrest, hrest', h'⟩ :=
        ih h₁ hb₁ fun d hd => hcalls d (List.mem_cons_of_mem call hd)
      refine ⟨answer :: answers, b', c', ?_, ?_, h'⟩
      · rw [Act.inTurn_cons_of_run hrun, hrest]
        rfl
      · rw [Act.inTurn_cons_of_run hrun', hrest']
        rfl

end SameButOrder

/-! ## Mapping in another order -/

/-- Devices that have all been mapped, one after the other. -/
inductive MapsAll : Bus δ → List (BusCall δ) → Bus δ → Prop
  | nil (b : Bus δ) : MapsAll b [] b
  | cons {b b₁ b' : Bus δ} {name : String} {base : UInt8} {device : δ} {calls : List (BusCall δ)}
      (hmap : b.map name base device = .ok b₁) (hrest : MapsAll b₁ calls b') :
      MapsAll b (.map name base device :: calls) b'

namespace MapsAll

variable {b c b' : Bus δ} {calls calls' : List (BusCall δ)}

/-- Calls that map and are all answered without a fault have mapped everything. -/
theorem of_inTurn (hcalls : ∀ call ∈ calls, call.isAccess = false)
    (h : Act.inTurn Bus.call calls b = some (List.replicate calls.length (.ok none), b')) :
    MapsAll b calls b' := by
  induction calls generalizing b with
  | nil =>
      cases h
      exact .nil _
  | cons call calls ih =>
      have hcall := hcalls call List.mem_cons_self
      cases call with
      | read addr => cases hcall
      | write addr value => cases hcall
      | map name base device =>
          cases hmap : b.map name base device with
          | ok b₁ =>
              rw [Act.inTurn_cons_of_run (run_call_map_of_ok hmap)] at h
              obtain ⟨⟨answers, b₂⟩, hrest, heq⟩ := Option.map_eq_some_iff.mp h
              simp only [List.length_cons, List.replicate_succ, Prod.mk.injEq, List.cons.injEq,
                true_and] at heq
              obtain ⟨rfl, rfl⟩ := heq
              exact .cons hmap (ih (fun d hd => hcalls d (List.mem_cons_of_mem _ hd)) hrest)
          | error why =>
              rw [Act.inTurn_cons_of_run (run_call_map_of_error hmap)] at h
              obtain ⟨⟨answers, b₂⟩, -, heq⟩ := Option.map_eq_some_iff.mp h
              simp [List.replicate_succ] at heq

theorem inTurn (h : MapsAll b calls b') :
    Act.inTurn Bus.call calls b = some (List.replicate calls.length (.ok none), b') := by
  induction h with
  | nil b => rfl
  | cons hmap hrest ih =>
      rw [Act.inTurn_cons_of_run (run_call_map_of_ok hmap), ih]
      rfl

theorem disjoint (h : MapsAll b calls b') (hb : b.Disjoint) : b'.Disjoint := by
  induction h with
  | nil b => exact hb
  | cons hmap hrest ih => exact ih (hb.map hmap)

/-- What can be mapped on a bus can be mapped on one that differs in order only. -/
theorem map_of_sameButOrder {b₁ : Bus δ} (h : SameButOrder b c) {name : String} {base : UInt8}
    {device : δ} (hmap : b.map name base device = .ok b₁) :
    ∃ c₁, c.map name base device = .ok c₁ ∧ SameButOrder b₁ c₁ := by
  obtain ⟨hnone, rfl⟩ := map_eq_ok hmap
  exact ⟨_, map_of_none (h.obstacle?_eq_none hnone) name, h.withMapping _⟩

theorem of_sameButOrder (h : MapsAll b calls b') (hsame : SameButOrder b c) :
    ∃ c', MapsAll c calls c' ∧ SameButOrder b' c' := by
  induction h generalizing c with
  | nil b => exact ⟨c, .nil c, hsame⟩
  | cons hmap hrest ih =>
      obtain ⟨c₁, hmap', hsame₁⟩ := map_of_sameButOrder hsame hmap
      obtain ⟨c', hrest', hsame'⟩ := ih hsame₁
      exact ⟨c', .cons hmap' hrest', hsame'⟩

/-- Two devices that can be mapped one after the other can be mapped the other way
round: what does not overlap is not overlapped. -/
theorem map_swap {b₁ b₂ : Bus δ} {name name' : String} {base base' : UInt8} {device device' : δ}
    (h : b.map name base device = .ok b₁) (h' : b₁.map name' base' device' = .ok b₂) :
    ∃ c₁ c₂, b.map name' base' device' = .ok c₁ ∧ c₁.map name base device = .ok c₂ ∧
      SameButOrder b₂ c₂ := by
  obtain ⟨hnone, rfl⟩ := map_eq_ok h
  obtain ⟨hnone', rfl⟩ := map_eq_ok h'
  obtain ⟨hfits, hmemory, hclear⟩ := (obstacle?_eq_none_iff _ _ _).mp hnone
  obtain ⟨hfits', hmemory', hclear'⟩ := (obstacle?_eq_none_iff _ _ _).mp hnone'
  have hfirst : b.obstacle? base' (Peripheral.registerCount device') = none := by
    refine (obstacle?_eq_none_iff _ _ _).mpr ⟨hfits', hmemory', ?_⟩
    intro m hm
    exact hclear' m (List.mem_append_left _ hm)
  have hsecond : (b.withMapping (.ofDevice name' base' device')).obstacle? base
      (Peripheral.registerCount device) = none := by
    refine (obstacle?_eq_none_iff _ _ _).mpr ⟨hfits, hmemory, ?_⟩
    intro m hm
    rcases List.mem_append.mp hm with hm | hm
    · exact hclear m hm
    · have hapart := hclear' _ (List.mem_append_right _ (List.mem_singleton.mpr rfl))
      rw [List.mem_singleton.mp hm, Mapping.overlaps, Bool.and_comm]
      exact hapart
  refine ⟨_, _, map_of_none hfirst name', map_of_none hsecond name, rfl, ?_, rfl, rfl⟩
  simp only [Bus.withMapping, List.append_assoc]
  exact List.Perm.append_left b.mappings (List.Perm.swap _ _ [])

/-- The order in which devices are mapped changes the order of the mappings only. -/
theorem perm (hperm : calls.Perm calls') (h : MapsAll b calls b') :
    ∃ c', MapsAll b calls' c' ∧ SameButOrder b' c' := by
  induction hperm generalizing b b' with
  | nil => exact ⟨b', h, .refl b'⟩
  | cons call hperm ih =>
      cases h with
      | cons hmap hrest =>
          obtain ⟨c', hrest', hsame⟩ := ih hrest
          exact ⟨c', .cons hmap hrest', hsame⟩
  | swap call call' calls =>
      cases h with
      | cons hmap hrest =>
          cases hrest with
          | cons hmap' hrest =>
              obtain ⟨c₁, c₂, hfirst, hsecond, hsame⟩ := map_swap hmap hmap'
              obtain ⟨c', hrest', hsame'⟩ := hrest.of_sameButOrder hsame
              exact ⟨c', .cons hfirst (.cons hsecond hrest'), hsame'⟩
  | trans hperm hperm' ih ih' =>
      obtain ⟨c₁, h₁, hsame₁⟩ := ih h
      obtain ⟨c₂, h₂, hsame₂⟩ := ih' h₁
      exact ⟨c₂, h₂, hsame₁.trans hsame₂⟩

end MapsAll

end Bus

end PolledTerminal
