import PolledTerminal.Proofs.Bus.Outlines
import PolledTerminal.Proofs.Terminal.NoOverruns
import PolledTerminal.Proofs.Terminal.Wiring
set_option autoImplicit false

/-!
# Hosts that may do anything

A host may also load images into data memory, and write to the devices as it likes,
busy or not.  A terminal then still has its ports in place, and every deed ends.
-/

namespace PolledTerminal

variable {δ : Type}

/-- One thing that a host does to a machine: a move, or loading an image. -/
inductive Deed where
  | move (v : Move)
  | load (image : DataImage)
  deriving DecidableEq, Repr, Inhabited

/-- A deed of the host. -/
def Machine.deed {σ : Type} [TerminalPeripheral δ] : Deed → Act (Machine σ δ) Unit
  | .move v => move v
  | .load image => loadImage image

/-- Loading moves no cell of data memory, also when a segment does not fit. -/
theorem Machine.loadSegments_frame (ram : DataMemory) (image : DataImage) :
    (loadSegments ram image).2.base = ram.base ∧
      (loadSegments ram image).2.cells.size = ram.cells.size := by
  induction image generalizing ram with
  | nil => exact ⟨rfl, rfl⟩
  | cons s ss ih =>
      rw [loadSegments]
      cases hload : ram.load? s with
      | none => exact ⟨rfl, rfl⟩
      | some ram' =>
          unfold DataMemory.load? at hload
          split at hload
          case isFalse => cases hload
          case isTrue =>
              cases hload
              obtain ⟨hbase, hsize⟩ := ih { ram with
                cells := DataMemory.storeAt ram.cells (s.addr.toNat - ram.base.toNat) s.bytes }
              exact ⟨hbase, hsize.trans (DataMemory.size_storeAt _ _ _)⟩

variable [TerminalPeripheral δ]

/-- A machine that runs the terminal at its ports on a bus that is laid out like
another one. -/
structure Stationed (site : Bus δ) (m : Machine Terminal δ) : Prop where
  firmware : m.firmware = Terminal.firmware
  outline : Bus.SameOutline site m.bus
  ports : TerminalPorts.ofBus? site = some m.program.ports

namespace Stationed

variable {site : Bus δ} {m : Machine Terminal δ}

/-- A machine that has just been started is stationed. -/
theorem of_new {t : Terminal} {start : Machine Terminal δ}
    (hports : TerminalPorts.ofBus? site = some t.ports)
    (h : Machine.new Terminal.firmware t site = .ok start) : Stationed site start := by
  unfold Machine.new at h
  have hframe := Machine.loadSegments_frame site.ram ((Terminal.firmware (δ := δ)).image t)
  rcases hload : Machine.loadSegments site.ram ((Terminal.firmware (δ := δ)).image t)
    with ⟨why | u, ram⟩
  · simp only [hload] at h
    cases h
  · rw [hload] at h hframe
    cases h
    exact ⟨rfl, ⟨hframe.1, hframe.2, rfl⟩, hports⟩

theorem keeps_onBus {α : Type} {a : Act (Bus δ) α} (h : Act.Keeps (Bus.SameOutline site) a) :
    Act.Keeps (Stationed site) (Machine.onBus a) :=
  h.within (fun _ hm => hm.outline) fun _ _ hm hbus => ⟨hm.firmware, hbus, hm.ports⟩

variable [LawfulTerminalPeripheral δ]

theorem exists_wired (h : Stationed site m) (hsite : site.Disjoint) (hsized : site.Sized) :
    ∃ d k, m.bus.Wired m.program.ports d k :=
  Bus.exists_wired (h.outline.disjoint hsite) (h.outline.sized hsized)
    (h.outline.ports_eq.trans h.ports)

/-! ## Deeds -/

theorem keeps_typeOn (f : Keyboard → Keyboard) :
    Act.Keeps (Stationed site) (Machine.typeOn f : Act (Machine Terminal δ) Unit) :=
  .ofStep fun m hm => ⟨hm.firmware,
    hm.outline.trans (Bus.calm_changeKeyboard m.rig.bus f).sameOutline, hm.ports⟩

omit [LawfulTerminalPeripheral δ] in
theorem keeps_loadImage (image : DataImage) :
    Act.Keeps (Stationed site) (Machine.loadImage image : Act (Machine Terminal δ) Unit) :=
  .ofStep fun m hm => by
    obtain ⟨hbase, hsize⟩ := Machine.loadSegments_frame m.bus.ram image
    exact ⟨hm.firmware, hm.outline.trans ⟨hbase, hsize, rfl⟩, hm.ports⟩

theorem keeps_step (hsite : site.Disjoint) (hsized : site.Sized) :
    Act.Keeps (Stationed site) (Machine.step : Act (Machine Terminal δ) Unit) := by
  intro m hm
  have hcalm : CalmMachine m.bus m.program.ports m := ⟨hm.firmware, rfl, .refl m.bus⟩
  obtain ⟨answer, m', hrun, hfirmware, hports, hcalm'⟩ :=
    CalmMachine.keeps_step (hm.outline.disjoint hsite) (hm.outline.sized hsized)
      (hm.outline.ports_eq.trans hm.ports) m hcalm
  refine ⟨answer, m', hrun, hfirmware, hm.outline.trans hcalm'.sameOutline, ?_⟩
  rw [hm.ports, ← hports]
  rfl

/-- Whatever the host does, the terminal stays stationed, and the deed ends. -/
theorem keeps_deed (hsite : site.Disjoint) (hsized : site.Sized) (deed : Deed) :
    Act.Keeps (Stationed site) (Machine.deed deed : Act (Machine Terminal δ) Unit) := by
  cases deed with
  | load image => exact keeps_loadImage image
  | move v =>
      cases v with
      | push key => exact keeps_typeOn _
      | feed keys => exact keeps_typeOn _
      | peek addr => exact (keeps_onBus (Bus.keeps_outline_read hsite addr)).bind fun _ => .pure ()
      | poke addr value => exact keeps_onBus (Bus.keeps_outline_write hsite addr value)
      | step => exact keeps_step hsite hsized

end Stationed

end PolledTerminal
