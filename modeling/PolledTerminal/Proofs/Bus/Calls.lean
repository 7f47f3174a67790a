import PolledTerminal.Proofs.Bus.Access
set_option autoImplicit false

/-!
# Calls on a bus

Devices are mapped and addresses are accessed in any order; a call that fails is
told and does not end the sequence.  Whatever the calls are, every mapping lies
where it was asked for, with as many ports as its device decoded then, and no
address is answered twice.
-/

namespace PolledTerminal

variable {δ : Type}

/-- The mapping of a device at a base port. -/
def Mapping.ofDevice [Peripheral δ] (name : String) (base : UInt8) (device : δ) : Mapping δ :=
  ⟨name, base, Peripheral.registerCount device, device⟩

/-- One thing that is asked of a bus. -/
inductive BusCall (δ : Type) where
  | map (name : String) (base : UInt8) (device : δ)
  | read (addr : UInt8)
  | write (addr value : UInt8)

namespace BusCall

/-- The call is an access, and maps nothing. -/
def isAccess : BusCall δ → Bool
  | .map .. => false
  | _ => true

/-- The device that is to be mapped decodes a port. -/
def DecodesPort [Peripheral δ] : BusCall δ → Prop
  | .map _ _ device => 0 < Peripheral.registerCount device
  | _ => True

/-- The mapping that is asked for, if one is. -/
def mapping? [Peripheral δ] : BusCall δ → Option (Mapping δ)
  | .map name base device => some (.ofDevice name base device)
  | _ => none

end BusCall

namespace Bus

/-- The bus with one more mapping, behind the others. -/
def withMapping (b : Bus δ) (m : Mapping δ) : Bus δ := { b with mappings := b.mappings ++ [m] }

variable [Peripheral δ]

/-- A call, with the byte that a read has found.  A device that cannot be mapped
leaves the bus as it is. -/
def call : BusCall δ → Act (Bus δ) (Option UInt8)
  | .map name base device => .ofStep fun b =>
    match b.map name base device with
    | .ok b' => (.ok none, b')
    | .error why => (.error why, b)
  | .read addr => do return some (← Bus.read addr)
  | .write addr value => do
    Bus.write addr value
    return none

/-- Where nothing is in the way a device is mapped. -/
theorem map_of_none {b : Bus δ} {base : UInt8} {device : δ}
    (h : b.obstacle? base (Peripheral.registerCount device) = none) (name : String) :
    b.map name base device = .ok (b.withMapping (.ofDevice name base device)) := by
  rw [Bus.map, h]
  rfl

/-! ## One call -/

theorem run_call_map_of_ok {b b' : Bus δ} {name : String} {base : UInt8} {device : δ}
    (h : b.map name base device = .ok b') :
    Act.run (call (.map name base device)) b = some (.ok none, b') := by
  rw [call, Act.run_ofStep, h]

theorem run_call_map_of_error {b : Bus δ} {name : String} {base : UInt8} {device : δ} {why : Fault}
    (h : b.map name base device = .error why) :
    Act.run (call (.map name base device)) b = some (.error why, b) := by
  rw [call, Act.run_ofStep, h]

theorem run_call_read (b : Bus δ) (addr : UInt8) :
    Act.run (call (.read addr)) b = some ((b.fetch addr).1.map some, (b.fetch addr).2.settle) := by
  rw [call, Act.run_bind, run_read]
  cases (b.fetch addr).1 <;> rfl

theorem run_call_write (b : Bus δ) (addr value : UInt8) :
    Act.run (call (.write addr value)) b =
      some ((b.store addr value).1.map fun _ => none, (b.store addr value).2.settle) := by
  rw [call, Act.run_bind, run_write]
  cases (b.store addr value).1 <;> rfl

/-! ## Places -/

omit [Peripheral δ] in
/-- Another device in the place of one moves nothing. -/
theorem SamePlaces.replace {b : Bus δ} {before after : List (Mapping δ)} {m : Mapping δ}
    (hsplit : b.mappings = before ++ m :: after) (device : δ) (printed : List String) :
    SamePlaces b { b with
      mappings := before ++ { m with device := device } :: after, printed := printed } := by
  refine ⟨rfl, rfl, ?_⟩
  simp only [hsplit, List.map_append, List.map_cons]
  rfl

theorem samePlaces_fetch {b : Bus δ} (hb : b.Disjoint) (addr : UInt8) :
    SamePlaces b (b.fetch addr).2 := by
  cases hread : b.ram.read? addr with
  | some value =>
      rw [fetch_of_memory hread]
      exact .refl b
  | none =>
      rcases b.exists_owner_or_unowned addr with ⟨before, m, after, hsplit, haddr⟩ | hunowned
      · rw [fetch_of_owner hb hsplit haddr]
        exact .replace hsplit _ b.printed
      · rw [fetch_of_unowned ((DataMemory.read?_eq_none_iff _ _).mp hread) hunowned]
        exact .refl b

theorem store_of_unowned {b : Bus δ} {addr : UInt8} (hram : b.ram.contains addr = false)
    (h : ∀ m ∈ b.mappings, m.contains addr = false) (value : UInt8) :
    b.store addr value = (.error (.unmapped addr), b) := by
  simp only [store, (DataMemory.write?_eq_none_iff _ _ _).mpr hram, askFirst_of_unowned _ h]

theorem samePlaces_store {b : Bus δ} (hb : b.Disjoint) (addr value : UInt8) :
    SamePlaces b (b.store addr value).2 := by
  by_cases hram : b.ram.contains addr = true
  · obtain ⟨ram, hwrite, hstores⟩ := DataMemory.exists_stores hram value
    rw [store_of_memory hwrite]
    exact ⟨hstores.base, hstores.size, rfl⟩
  · rcases b.exists_owner_or_unowned addr with ⟨before, m, after, hsplit, haddr⟩ | hunowned
    · rw [store_of_owner hb hsplit value haddr]
      exact .replace hsplit _ _
    · rw [store_of_unowned (by simpa using hram) hunowned]
      exact .refl b

/-! ## Sequences of calls -/

/-- A bus that calls have led to, from data memory alone. -/
structure LaidOut (ram : DataMemory) (calls : List (BusCall δ)) (b : Bus δ) : Prop where
  disjoint : b.Disjoint
  ramBase : b.ram.base = ram.base
  ramSize : b.ram.cells.size = ram.cells.size
  /-- every mapping lies where a call has asked for it -/
  placed : ∀ m ∈ b.mappings, ∃ c ∈ calls, c.mapping?.map Mapping.place = some m.place

namespace LaidOut

variable {ram : DataMemory} {calls : List (BusCall δ)} {b b' : Bus δ}

theorem empty (ram : DataMemory) (calls : List (BusCall δ)) :
    LaidOut ram calls (Bus.empty ram) :=
  ⟨disjoint_empty ram, rfl, rfl, by simp [Bus.empty]⟩

theorem of_samePlaces (h : LaidOut ram calls b) (hsame : SamePlaces b b') :
    LaidOut ram calls b' := by
  refine ⟨h.disjoint.of_samePlaces hsame, hsame.ramBase.trans h.ramBase,
    hsame.ramSize.trans h.ramSize, ?_⟩
  intro m' hm'
  obtain ⟨m, hm, hplace⟩ := hsame.exists_mapping hm'
  rw [← hplace]
  exact h.placed m hm

theorem of_map (h : LaidOut ram calls b) {name : String} {base : UInt8} {device : δ}
    (hmem : .map name base device ∈ calls) (hmap : b.map name base device = .ok b') :
    LaidOut ram calls b' := by
  obtain ⟨-, hb'⟩ := map_eq_ok hmap
  refine ⟨h.disjoint.map hmap, ?_, ?_, ?_⟩
  · rw [hb']
    exact h.ramBase
  · rw [hb']
    exact h.ramSize
  · intro m hm
    rw [hb'] at hm
    rcases List.mem_append.mp hm with hm | hm
    · exact h.placed m hm
    · rw [List.mem_singleton.mp hm]
      exact ⟨_, hmem, rfl⟩

/-- Every call keeps the layout, also one that fails. -/
theorem keeps_call {c : BusCall δ} (hc : c ∈ calls) :
    Act.Keeps (LaidOut ram calls) (Bus.call c) := by
  intro b hb
  cases c with
  | map name base device =>
      cases hmap : b.map name base device with
      | ok b' => exact ⟨_, _, run_call_map_of_ok hmap, hb.of_map hc hmap⟩
      | error why => exact ⟨_, _, run_call_map_of_error hmap, hb⟩
  | read addr =>
      refine ⟨_, _, run_call_read b addr, hb.of_samePlaces ?_⟩
      exact (samePlaces_fetch hb.disjoint addr).trans (samePlaces_settle _)
  | write addr value =>
      refine ⟨_, _, run_call_write b addr value, hb.of_samePlaces ?_⟩
      exact (samePlaces_store hb.disjoint addr value).trans (samePlaces_settle _)

/-- All calls in turn end, whatever comes of each. -/
theorem of_calls (ram : DataMemory) (calls : List (BusCall δ)) :
    ∃ answers b, Act.inTurn Bus.call calls (Bus.empty ram) = some (answers, b) ∧
      LaidOut ram calls b :=
  Act.Keeps.inTurn (fun _ hc => keeps_call hc) (empty ram calls)

/-- When everything that is to be mapped decodes a port, every mapping has one. -/
theorem size_pos (h : LaidOut ram calls b) (hcalls : ∀ c ∈ calls, c.DecodesPort) {m : Mapping δ}
    (hm : m ∈ b.mappings) : 0 < m.size := by
  obtain ⟨c, hc, hplace⟩ := h.placed m hm
  have hpos := hcalls c hc
  cases c with
  | map name base device =>
      simp only [BusCall.mapping?, Mapping.ofDevice, Option.map_some, Mapping.place,
        Option.some.injEq, Prod.mk.injEq] at hplace
      rw [← hplace.2.2]
      exact hpos
  | read addr => cases hplace
  | write addr value => cases hplace

end LaidOut

end Bus

end PolledTerminal
