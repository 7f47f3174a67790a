import PolledTerminal.Proofs.Board.Acceptance
import PolledTerminal.Proofs.Size
set_option autoImplicit false

/-!
# Data memory that does not fit

Whether data memory fits the address space is decided on the sum of its base and its
size, which is a sum of 64 bits.  The sum breaks the assembly down where it leaves them,
and this needs nothing more than a size that was cut off at the greatest and a base above
zero; every other board is assembled or told what is wrong with it.
-/

namespace PolledTerminal

namespace Board

/-- Reading the sizes in the texts of the board gives sizes or faults that can be told. -/
structure SizesReadable (b : Board) : Prop where
  memory : Size.parse b.ram.size ≠ .error .cutCharacter
  scrollbacks : ∀ s ∈ b.devices, s.kind = "display" → ∀ text, s.text? "scrollback" = some text →
    Size.parse text ≠ .error .cutCharacter

/-! ## Faults that can be told -/

/-- Where there is no result there is a fault that can be told. -/
def Told {α : Type} (x : Except BoardFault α) : Prop :=
  ∀ why, x = .error why → why.breaksDown = false

section Told

variable {α β ε : Type}

theorem told_ok (a : α) : Told (.ok a) := nofun

theorem told_error {why : BoardFault} (h : why.breaksDown = false) :
    Told (.error why : Except BoardFault α) := by
  rintro _ ⟨⟩
  exact h

theorem Told.bind {x : Except BoardFault α} {f : α → Except BoardFault β} (hx : Told x)
    (hf : ∀ a, x = .ok a → Told (f a)) : Told (x >>= f) := by
  cases x with
  | error why => exact told_error (hx why rfl)
  | ok a => exact hf a rfl

theorem told_mapError {x : Except ε α} {f : ε → BoardFault}
    (h : ∀ e, x = .error e → (f e).breaksDown = false) : Told (x.mapError f) := by
  cases x with
  | error e => exact told_error (h e rfl)
  | ok a => exact told_ok a

end Told

theorem breaksDown_ramSize (name : String) {why : Size.Fault} (h : why ≠ .cutCharacter) :
    (BoardFault.ramSize name why).breaksDown = false := by
  cases why <;> first | rfl | exact absurd rfl h

theorem breaksDown_scrollback (id : String) {why : Size.Fault} (h : why ≠ .cutCharacter) :
    (BoardFault.scrollback id why).breaksDown = false := by
  cases why <;> first | rfl | exact absurd rfl h

theorem told_scrollbackOf {s : DeviceSpec}
    (h : ∀ text, s.text? "scrollback" = some text → Size.parse text ≠ .error .cutCharacter) :
    Told (scrollbackOf s) := by
  unfold scrollbackOf
  cases htext : s.text? "scrollback" with
  | none => exact told_ok defaultScrollback
  | some text =>
      have hread : Told ((Size.parse text).mapError (.scrollback s.id)) := by
        refine told_mapError fun why hwhy => ?_
        exact breaksDown_scrollback s.id fun hcut => h text htext (hcut ▸ hwhy)
      refine hread.bind fun size _ => ?_
      dsimp only
      split
      · exact told_error rfl
      · exact told_ok size

theorem told_displayOf {s : DeviceSpec}
    (h : ∀ text, s.text? "scrollback" = some text → Size.parse text ≠ .error .cutCharacter) :
    Told (displayOf s) := by
  unfold displayOf
  dsimp only
  split
  · exact told_error rfl
  · exact (told_scrollbackOf h).bind fun size _ => told_ok _

section Devices

variable {δ : Type} [TerminalPeripheral δ]

theorem told_deviceOf {s : DeviceSpec} (h : s.kind = "display" → ∀ text,
    s.text? "scrollback" = some text → Size.parse text ≠ .error .cutCharacter) :
    Told (deviceOf (δ := δ) s) := by
  unfold deviceOf
  split
  · exact told_ok _
  · split
    case isTrue hdisplay =>
      have hd := told_displayOf (h hdisplay)
      cases hs : displayOf s with
      | error why => exact told_error (hd why hs)
      | ok d => exact told_ok _
    case isFalse => exact told_ok _

/-- Mapping the devices ends in a bus or in a fault that can be told. -/
theorem told_mapAll (bus : Bus δ) {specs : List DeviceSpec}
    (h : ∀ s ∈ specs, s.kind = "display" → ∀ text, s.text? "scrollback" = some text →
      Size.parse text ≠ .error .cutCharacter) : Told (mapAll bus specs) := by
  induction specs generalizing bus with
  | nil => exact told_ok bus
  | cons s specs ih =>
      have hrest (bus : Bus δ) := ih bus fun t ht => h t (.tail s ht)
      refine (told_deviceOf (h s List.mem_cons_self)).bind fun device _ => ?_
      cases device with
      | none => exact hrest bus
      | some device => exact (told_mapError fun _ _ => rfl).bind fun bus' _ => hrest bus'

end Devices

/-! ## The guard of data memory -/

section Memory

variable {b : Board} {size : Nat}

theorem memoryOf_of_unreadable {why : Size.Fault} (h : Size.parse b.ram.size = .error why) :
    b.memoryOf = .error (.ramSize b.name why) := by
  rw [memoryOf, h]
  rfl

theorem memoryOf_of_overflow (h : Size.parse b.ram.size = .ok size)
    (hover : 2 ^ 64 ≤ b.ram.base.toNat + size) : b.memoryOf = .error .ramEndOverflow := by
  rw [memoryOf, h]
  exact if_pos hover

theorem memoryOf_of_tooLarge (h : Size.parse b.ram.size = .ok size)
    (hword : b.ram.base.toNat + size < 2 ^ 64) (htop : 0x100 < b.ram.base.toNat + size) :
    b.memoryOf = .error (.ramTooLarge b.ram.base size) := by
  rw [memoryOf, h]
  exact (if_neg (Nat.not_le.mpr hword)).trans (if_pos htop)

/-- Below the greatest size there is none that a base could lift out of the word. -/
theorem overflows_iff (h : Size.parse b.ram.size = .ok size) :
    2 ^ 64 ≤ b.ram.base.toNat + size ↔ size = Size.greatest ∧ b.ram.base ≠ 0 := by
  have hbase : b.ram.base.toNat < 2 ^ 8 := b.ram.base.toNat_lt
  have hzero : b.ram.base ≠ 0 ↔ b.ram.base.toNat ≠ 0 := not_congr UInt8.toNat_inj.symm
  have hgreatest : Size.greatest = 2 ^ 64 - 1 := rfl
  rw [hzero]
  rcases Size.eq_greatest_or_le h with rfl | hle <;> omega

end Memory

section Assembly

variable {δ : Type} [TerminalPeripheral δ] {b : Board}

theorem assemble_of_memoryOf_error {why : BoardFault} (h : b.memoryOf = .error why) :
    (b.assemble : Except BoardFault (Bus δ)) = .error why := by
  rw [assemble, h]
  rfl

/-- With data memory made, what is left of the assembly can be told. -/
theorem told_assemble_of_memoryOf_ok (hb : b.SizesReadable) {ram : DataMemory}
    (h : b.memoryOf = .ok ram) : Told (b.assemble : Except BoardFault (Bus δ)) := by
  rw [assemble, h]
  exact told_mapAll _ hb.scrollbacks

theorem memoryOf_of_assemble [LawfulTerminalPeripheral δ] {bus : Bus δ}
    (h : b.assemble = .ok bus) : b.memoryOf = .ok bus.ram := by
  obtain ⟨ram, hram, hmapped⟩ := bind_eq_ok.mp h
  rw [hram, (maps_of_mapAll hmapped).ram]
  rfl

/-- Data memory that does not fit is told, unless its end leaves the word. -/
theorem assemble_of_oversized {size : Nat} (hsize : Size.parse b.ram.size = .ok size)
    (htop : 0x100 < b.ram.base.toNat + size) :
    (b.assemble : Except BoardFault (Bus δ)) = .error
      (if size = Size.greatest ∧ b.ram.base ≠ 0 then .ramEndOverflow
        else .ramTooLarge b.ram.base size) := by
  split
  case isTrue hover =>
    exact assemble_of_memoryOf_error (memoryOf_of_overflow hsize ((overflows_iff hsize).mpr hover))
  case isFalse hword =>
    rw [← overflows_iff hsize, Nat.not_le] at hword
    exact assemble_of_memoryOf_error (memoryOf_of_tooLarge hsize hword htop)

/-- The assembly breaks down just when the end of data memory leaves the word. -/
theorem breaksDown_iff (hb : b.SizesReadable) {why : BoardFault}
    (h : (b.assemble : Except BoardFault (Bus δ)) = .error why) :
    why.breaksDown = true ↔ Size.parse b.ram.size = .ok Size.greatest ∧ b.ram.base ≠ 0 := by
  cases hsize : Size.parse b.ram.size with
  | error fault =>
      rw [assemble_of_memoryOf_error (memoryOf_of_unreadable hsize)] at h
      cases h
      have htold := breaksDown_ramSize b.name fun hfault => hb.memory (hfault ▸ hsize)
      simp [htold]
  | ok size =>
      rw [Except.ok.injEq]
      by_cases htop : 0x100 < b.ram.base.toNat + size
      · rw [assemble_of_oversized hsize htop] at h
        cases h
        split
        case isTrue hover => exact iff_of_true rfl hover
        case isFalse hword => exact iff_of_false Bool.false_ne_true hword
      · have hram := memoryOf_eq_ok_iff.mpr ⟨size, hsize, Nat.not_lt.mp htop, rfl⟩
        have hsmall : size ≠ Size.greatest := by
          rintro rfl
          exact htop (Nat.lt_of_lt_of_le (by decide) (Nat.le_add_left _ _))
        simp [told_assemble_of_memoryOf_ok hb hram why h, hsmall]

end Assembly

end Board

/-- Whatever the base and the size of data memory, a board whose sizes can be read is
assembled, or it is told what is wrong; data memory of more than the address space has is
never made.  One case is left: a size that was cut off at the greatest, with a base above
zero, breaks the assembly down, because the sum that should show it is out of range
itself. -/
theorem oversized_memory_breaks_down {δ : Type} [TerminalPeripheral δ]
    [LawfulTerminalPeripheral δ] (b : Board) (h : b.SizesReadable) :
    (∀ why, Size.parse b.ram.size = .error why →
      (b.assemble : Except BoardFault (Bus δ)) = .error (.ramSize b.name why)) ∧
    (∀ size, Size.parse b.ram.size = .ok size → 0x100 < b.ram.base.toNat + size →
      (b.assemble : Except BoardFault (Bus δ)) = .error
        (if size = Size.greatest ∧ b.ram.base ≠ 0 then .ramEndOverflow
          else .ramTooLarge b.ram.base size)) ∧
    (∀ why, (b.assemble : Except BoardFault (Bus δ)) = .error why → (why.breaksDown = true ↔
      Size.parse b.ram.size = .ok Size.greatest ∧ b.ram.base ≠ 0)) ∧
    (∀ ram, b.memoryOf = .ok ram → ram.limit ≤ 0x100) ∧
    ∀ bus : Bus δ, b.assemble = .ok bus → b.memoryOf = .ok bus.ram := by
  refine ⟨fun why hwhy => ?_, fun size hsize htop => ?_, fun why hwhy => ?_, fun ram hram => ?_,
    fun bus hbus => ?_⟩
  · exact Board.assemble_of_memoryOf_error (Board.memoryOf_of_unreadable hwhy)
  · exact Board.assemble_of_oversized hsize htop
  · exact Board.breaksDown_iff h hwhy
  · obtain ⟨-, -, -, hlimit⟩ := Board.memoryOf_eq_ok hram
    exact hlimit
  · exact Board.memoryOf_of_assemble hbus

/-- A board of this data memory and one display. -/
def memoryBoard (base : UInt8) (size : String) : Board where
  name := "memory"
  ram := { base := base, size := size }
  devices := [
    { id := "display", kind := "display", basePort := 0xFC,
      settings := [("scrollback", .text "1KiB")] }]

theorem sizesReadable_memoryBoard (base : UInt8) {size : String}
    (h : Size.parse size ≠ .error .cutCharacter) : (memoryBoard base size).SizesReadable where
  memory := h
  scrollbacks s hs _ text htext := by
    rw [List.mem_singleton.mp hs] at htext
    cases htext
    decide +kernel

/-- A kibibyte does not fit behind `0xF0`, and the greatest size does not fit at all; both
are told where the base is zero. -/
theorem oversized_memory_breaks_down_too_large :
    ((memoryBoard 0xF0 "1KiB").assemble : Except BoardFault (Bus Device)) =
      .error (.ramTooLarge 0xF0 1024) ∧
    ((memoryBoard 0 "20EiB").assemble : Except BoardFault (Bus Device)) =
      .error (.ramTooLarge 0 (2 ^ 64 - 1)) := by
  have hkibi : Size.parse "1KiB" = .ok 1024 := by decide +kernel
  have hlarge : Size.parse "20EiB" = .ok Size.greatest := by decide +kernel
  obtain ⟨-, hkibiTold, -⟩ := oversized_memory_breaks_down (δ := Device) (memoryBoard 0xF0 "1KiB")
    (sizesReadable_memoryBoard 0xF0 (by rw [hkibi]; exact nofun))
  obtain ⟨-, hlargeTold, -⟩ := oversized_memory_breaks_down (δ := Device) (memoryBoard 0 "20EiB")
    (sizesReadable_memoryBoard 0 (by rw [hlarge]; exact nofun))
  exact ⟨hkibiTold 1024 hkibi (by decide), hlargeTold Size.greatest hlarge (by decide)⟩

/-- The greatest size behind `0x01` is far more than the address space has, and instead of
being told it breaks the assembly down. -/
theorem end_of_memory_leaves_the_word :
    Size.parse "16EiB" = .ok (2 ^ 64 - 1) ∧ (memoryBoard 1 "16EiB").SizesReadable ∧
    0x100 < (1 : UInt8).toNat + (2 ^ 64 - 1) ∧
    ((memoryBoard 1 "16EiB").assemble : Except BoardFault (Bus Device)) =
      .error .ramEndOverflow ∧
    BoardFault.ramEndOverflow.breaksDown = true := by
  have hsize : Size.parse "16EiB" = .ok Size.greatest := by decide +kernel
  refine ⟨hsize, sizesReadable_memoryBoard 1 (by rw [hsize]; exact nofun), by decide, ?_, rfl⟩
  exact Board.assemble_of_memoryOf_error (Board.memoryOf_of_overflow hsize (by decide))

end PolledTerminal
