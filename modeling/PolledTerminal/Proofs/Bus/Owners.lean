import PolledTerminal.Proofs.Bus.Reordering
set_option autoImplicit false

/-!
# Owners of addresses

Every address has one owner, which alone decides every access of it: the cell of
data memory, a mapped device, or nobody.  The owner is all that an access touches;
apart from it the bus only sees the cycle pass, whether or not the access fails.
-/

namespace PolledTerminal

variable {δ : Type}

/-- Who answers an address. -/
inductive Owner where
  | memory
  /-- the mapping at this position -/
  | mapping (i : Nat)
  | nobody
  deriving DecidableEq, Repr

/-- The address is this owner's. -/
def Bus.Owns (b : Bus δ) (addr : UInt8) : Owner → Prop
  | .memory => b.ram.contains addr = true
  | .mapping i => ∃ m, b.mappings[i]? = some m ∧ m.contains addr = true
  | .nobody => b.ram.contains addr = false ∧ ∀ m ∈ b.mappings, m.contains addr = false

namespace Bus.Disjoint

variable {b : Bus δ} {addr : UInt8}

/-- No two mappings answer one address. -/
theorem position_eq (hb : b.Disjoint) {i j : Nat} {m n : Mapping δ} (hi : b.mappings[i]? = some m)
    (hj : b.mappings[j]? = some n) (hm : m.contains addr = true) (hn : n.contains addr = true) :
    i = j := by
  obtain ⟨hilt, rfl⟩ := List.getElem?_eq_some_iff.mp hi
  obtain ⟨hjlt, rfl⟩ := List.getElem?_eq_some_iff.mp hj
  rcases Nat.lt_trichotomy i j with hlt | heq | hlt
  · have hnot := List.pairwise_iff_getElem.mp hb.apart i j hilt hjlt hlt addr hm
    rw [hn] at hnot
    cases hnot
  · exact heq
  · have hnot := List.pairwise_iff_getElem.mp hb.apart j i hjlt hilt hlt addr hn
    rw [hm] at hnot
    cases hnot

theorem eq_of_contains (hb : b.Disjoint) {m n : Mapping δ} (hm : m ∈ b.mappings)
    (hn : n ∈ b.mappings) (hmaddr : m.contains addr = true) (hnaddr : n.contains addr = true) :
    m = n := by
  obtain ⟨i, hi⟩ := List.mem_iff_getElem?.mp hm
  obtain ⟨j, hj⟩ := List.mem_iff_getElem?.mp hn
  have hposition := hb.position_eq hi hj hmaddr hnaddr
  rw [hposition, hj] at hi
  exact (Option.some.inj hi).symm

theorem owner_unique (hb : b.Disjoint) {o o' : Owner} (h : b.Owns addr o) (h' : b.Owns addr o') :
    o = o' := by
  have hoff {i : Nat} (hi : b.Owns addr (.mapping i)) : b.ram.contains addr = false := by
    obtain ⟨m, hm, haddr⟩ := hi
    exact hb.offMemory m (List.mem_of_getElem? hm) addr haddr
  have howned {i : Nat} (hi : b.Owns addr (.mapping i)) : ¬ b.Owns addr .nobody := by
    obtain ⟨m, hm, haddr⟩ := hi
    rintro ⟨-, hnone⟩
    rw [hnone m (List.mem_of_getElem? hm)] at haddr
    cases haddr
  cases o with
  | memory =>
      cases o' with
      | memory => rfl
      | mapping j => exact absurd h (by simp [Bus.Owns, hoff h'])
      | nobody => exact absurd h (by simp [Bus.Owns, h'.1])
  | mapping i =>
      cases o' with
      | memory => exact absurd h' (by simp [Bus.Owns, hoff h])
      | mapping j =>
          obtain ⟨m, hm, haddr⟩ := h
          obtain ⟨n, hn, haddr'⟩ := h'
          rw [hb.position_eq hm hn haddr haddr']
      | nobody => exact absurd h' (howned h)
  | nobody =>
      cases o' with
      | memory => exact absurd h' (by simp [Bus.Owns, h.1])
      | mapping j => exact absurd h (howned h')
      | nobody => rfl

theorem existsUnique_owner (hb : b.Disjoint) (addr : UInt8) : ∃! o, b.Owns addr o := by
  have hexists : ∃ o, b.Owns addr o := by
    by_cases hram : b.ram.contains addr = true
    · exact ⟨.memory, hram⟩
    · rcases b.exists_owner_or_unowned addr with ⟨before, m, after, hsplit, haddr⟩ | hunowned
      · exact ⟨.mapping before.length, m, by simp [hsplit], haddr⟩
      · exact ⟨.nobody, by simpa using hram, hunowned⟩
  obtain ⟨o, ho⟩ := hexists
  exact ⟨o, ho, fun o' ho' => hb.owner_unique ho' ho⟩

end Bus.Disjoint

/-- The offset of an address from the base of a mapping that answers it is one of
the registers of its device. -/
theorem Mapping.offset_of_contains {m : Mapping δ} {addr : UInt8} (h : m.contains addr = true) :
    addr.toNat = m.base.toNat + (addr - m.base).toNat ∧ addr - m.base < m.size := by
  rw [Mapping.contains_iff] at h
  have hle : m.base ≤ addr := UInt8.le_iff_toNat_le.mpr h.1
  have hoffset : (addr - m.base).toNat = addr.toNat - m.base.toNat := UInt8.toNat_sub_of_le _ _ hle
  refine ⟨by omega, ?_⟩
  rw [UInt8.lt_iff_toNat_lt, hoffset]
  omega

section Peripheral

variable [Peripheral δ]

/-! ## One access -/

/-- The bus after the cycle of an access that has left these mappings: the cycle is
counted, and every device, the accessed one too, has seen it pass. -/
def Bus.cyclePassed (b : Bus δ) (mappings : List (Mapping δ)) : Bus δ :=
  { b with mappings := mappings.map (Mapping.later 1), cycles := b.cycles + 1 }

/-- The mappings when one of them has another device. -/
def Bus.replaceDevice (b : Bus δ) (i : Nat) (m : Mapping δ) (device : δ) : List (Mapping δ) :=
  b.mappings.set i { m with device := device }

/-- A read is decided by the owner of the address. -/
structure Bus.ReadsFromOwner (b : Bus δ) (addr : UInt8) : Prop where
  memory : b.Owns addr .memory → ∃ value, b.ram.read? addr = some value ∧
    Act.run (Bus.read addr) b = some (.ok value, b.cyclePassed b.mappings)
  device : ∀ i m, b.mappings[i]? = some m → m.contains addr = true →
    Act.run (Bus.read addr) b = some ((Peripheral.read m.device (addr - m.base)).1,
      b.cyclePassed (b.replaceDevice i m (Peripheral.read m.device (addr - m.base)).2))
  nobody : b.Owns addr .nobody →
    Act.run (Bus.read addr) b = some (.error (.unmapped addr), b.cyclePassed b.mappings)

/-- A write is decided by the owner of the address. -/
structure Bus.WritesToOwner (b : Bus δ) (addr value : UInt8) : Prop where
  memory : b.Owns addr .memory → ∃ ram, b.ram.Stores addr value ram ∧
    Act.run (Bus.write addr value) b = some (.ok (), { b.cyclePassed b.mappings with ram := ram })
  device : ∀ i m, b.mappings[i]? = some m → m.contains addr = true →
    Act.run (Bus.write addr value) b = some ((Peripheral.write m.device (addr - m.base) value).1,
      { b.cyclePassed
          (b.replaceDevice i m (Peripheral.write m.device (addr - m.base) value).2.1) with
        printed := (Peripheral.write m.device (addr - m.base) value).2.2 :: b.printed })
  nobody : b.Owns addr .nobody →
    Act.run (Bus.write addr value) b = some (.error (.unmapped addr), b.cyclePassed b.mappings)

omit [Peripheral δ] in
/-- What stands before and after a position. -/
theorem Bus.exists_split_of_getElem? {b : Bus δ} {i : Nat} {m : Mapping δ}
    (h : b.mappings[i]? = some m) :
    ∃ before after, b.mappings = before ++ m :: after ∧
      ∀ device, b.replaceDevice i m device = before ++ { m with device := device } :: after := by
  obtain ⟨hi, rfl⟩ := List.getElem?_eq_some_iff.mp h
  refine ⟨b.mappings.take i, b.mappings.drop (i + 1), ?_, ?_⟩
  · rw [← List.drop_eq_getElem_cons hi, List.take_append_drop]
  · intro device
    exact List.set_eq_take_append_cons_drop.trans (if_pos hi)

theorem Bus.Disjoint.readsFromOwner {b : Bus δ} (hb : b.Disjoint) (addr : UInt8) :
    b.ReadsFromOwner addr := by
  refine ⟨?_, ?_, ?_⟩
  · intro hram
    have hcontains : b.ram.contains addr = true := hram
    cases hread : b.ram.read? addr with
    | none =>
        rw [(DataMemory.read?_eq_none_iff _ _).mp hread] at hcontains
        cases hcontains
    | some value =>
        refine ⟨value, rfl, ?_⟩
        rw [Bus.run_read, Bus.fetch_of_memory hread]
        rfl
  · intro i m hm haddr
    obtain ⟨before, after, hsplit, hreplace⟩ := Bus.exists_split_of_getElem? hm
    rw [Bus.run_read, Bus.fetch_of_owner hb hsplit haddr, hreplace]
    rfl
  · rintro ⟨hram, hunowned⟩
    rw [Bus.run_read, Bus.fetch_of_unowned hram hunowned]
    rfl

theorem Bus.Disjoint.writesToOwner {b : Bus δ} (hb : b.Disjoint) (addr value : UInt8) :
    b.WritesToOwner addr value := by
  refine ⟨?_, ?_, ?_⟩
  · intro hram
    obtain ⟨ram, hwrite, hstores⟩ := DataMemory.exists_stores hram value
    refine ⟨ram, hstores, ?_⟩
    rw [Bus.run_write, Bus.store_of_memory hwrite]
    rfl
  · intro i m hm haddr
    obtain ⟨before, after, hsplit, hreplace⟩ := Bus.exists_split_of_getElem? hm
    rw [Bus.run_write, Bus.store_of_owner hb hsplit value haddr, hreplace]
    rfl
  · rintro ⟨hram, hunowned⟩
    rw [Bus.run_write, Bus.store_of_unowned hram hunowned]
    rfl

/-- The owner of an address decides its accesses; a device is asked for the register
at the offset of the address. -/
structure Bus.DecidedByOwner (b : Bus δ) (addr : UInt8) : Prop where
  owner : ∃! o, b.Owns addr o
  offset : ∀ m ∈ b.mappings, m.contains addr = true →
    addr.toNat = m.base.toNat + (addr - m.base).toNat ∧ addr - m.base < m.size
  reads : b.ReadsFromOwner addr
  writes : ∀ value, b.WritesToOwner addr value

theorem Bus.Disjoint.decidedByOwner {b : Bus δ} (hb : b.Disjoint) (addr : UInt8) :
    b.DecidedByOwner addr :=
  ⟨hb.existsUnique_owner addr, fun _ _ => Mapping.offset_of_contains, hb.readsFromOwner addr,
    hb.writesToOwner addr⟩

/-- The buses answer all accesses alike, and differ in the order of their mappings
only, for as long as they are accessed. -/
def Bus.AnswersAlike (b c : Bus δ) : Prop :=
  ∀ accesses : List (BusCall δ), (∀ a ∈ accesses, a.isAccess = true) →
    ∃ answers b' c', Act.inTurn Bus.call accesses b = some (answers, b') ∧
      Act.inTurn Bus.call accesses c = some (answers, c') ∧ Bus.SameButOrder b' c'

/-- Whatever has been asked of a bus, every access is decided by the one owner of its
address, and the order in which devices were mapped decides nothing. -/
theorem accesses_are_decided_by_owners (ram : DataMemory) :
    (∀ calls : List (BusCall δ),
      ∃ answers b, Act.inTurn Bus.call calls (.empty ram) = some (answers, b) ∧
        (∀ m ∈ b.mappings, ∃ c ∈ calls, c.mapping?.map Mapping.place = some m.place) ∧
        (∀ addr, b.DecidedByOwner addr) ∧
        ∀ c, Bus.SameButOrder b c → b.AnswersAlike c) ∧
    ∀ (maps maps' : List (BusCall δ)) (b : Bus δ), maps.Perm maps' →
      (∀ c ∈ maps, c.isAccess = false) →
      Act.inTurn Bus.call maps (.empty ram) =
        some (List.replicate maps.length (.ok none), b) →
      ∃ c, Act.inTurn Bus.call maps' (.empty ram) =
          some (List.replicate maps.length (.ok none), c) ∧
        Bus.SameButOrder b c ∧ b.AnswersAlike c := by
  refine ⟨?_, ?_⟩
  · intro calls
    obtain ⟨answers, b, hruns, hb⟩ := Bus.LaidOut.of_calls ram calls
    refine ⟨answers, b, hruns, hb.placed, hb.disjoint.decidedByOwner, ?_⟩
    intro c hsame accesses haccesses
    exact hsame.accesses hb.disjoint haccesses
  · intro maps maps' b hperm hmaps hruns
    have hall := Bus.MapsAll.of_inTurn hmaps hruns
    obtain ⟨c, hall', hsame⟩ := hall.perm hperm
    have hb : b.Disjoint := hall.disjoint (Bus.disjoint_empty ram)
    refine ⟨c, ?_, hsame, fun accesses haccesses => hsame.accesses hb haccesses⟩
    rw [hperm.length_eq]
    exact hall'.inTurn

end Peripheral

/-- A display, then a keyboard. -/
def displayFirst : List (BusCall Device) :=
  [.map "display" 0xFC (.display (.new 4 8)), .map "keyboard" 0xFE (.keyboard {})]

/-- The same keyboard, then the same display. -/
def keyboardFirst : List (BusCall Device) :=
  [.map "keyboard" 0xFE (.keyboard {}), .map "display" 0xFC (.display (.new 4 8))]

/-- A display and a keyboard, mapped in either order. -/
theorem accesses_are_decided_by_owners_swapped :
    displayFirst.Perm keyboardFirst ∧ (∀ c ∈ displayFirst, c.isAccess = false) ∧
    ∃ b c,
      Act.inTurn Bus.call displayFirst (.empty (.zeroed 4 0x10)) =
        some ([.ok none, .ok none], b) ∧
      Act.inTurn Bus.call keyboardFirst (.empty (.zeroed 4 0x10)) =
        some ([.ok none, .ok none], c) ∧
      Bus.SameButOrder b c ∧ b.AnswersAlike c := by
  have hperm : displayFirst.Perm keyboardFirst := List.Perm.swap _ _ []
  have hmaps : ∀ c ∈ displayFirst, c.isAccess = false := by
    simp [displayFirst, BusCall.isAccess]
  obtain ⟨b, hruns⟩ : ∃ b : Bus Device,
      Act.inTurn Bus.call displayFirst (.empty (.zeroed 4 0x10)) =
        some ([.ok none, .ok none], b) := ⟨_, rfl⟩
  obtain ⟨c, hruns', hsame⟩ :=
    (accesses_are_decided_by_owners (.zeroed 4 0x10)).2 _ _ b hperm hmaps hruns
  exact ⟨hperm, hmaps, b, c, hruns, hruns', hsame⟩

end PolledTerminal
