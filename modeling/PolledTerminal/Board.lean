import PolledTerminal.Yaml.Freedom
import PolledTerminal.Yaml.Record
set_option autoImplicit false

/-!
# Boards

The description of a board: its data memory and the devices on it.  A device
has settings, which are free values under names; each kind of device looks for
the names that it knows.
-/

namespace PolledTerminal

open PolledTerminal.Yaml (Field RecordForm Reading Site Value)

/-- Where data memory is, and its size as text, such as `240B`. -/
structure MemoryRange where
  base : UInt8
  size : String
  deriving Repr, Inhabited

/-- A device as a board describes it. -/
structure DeviceSpec where
  id : String
  /-- what kind of device it is -/
  kind : String
  basePort : UInt8
  settings : List (String × Value) := []
  deriving Repr, Inhabited

namespace DeviceSpec

/-- The value of a setting. -/
def setting? (d : DeviceSpec) (name : String) : Option Value :=
  (d.settings.find? fun s => s.1 = name).map Prod.snd

/-- A setting that is an unsigned number. -/
def natural? (d : DeviceSpec) (name : String) : Option Nat := d.setting? name >>= Value.natural?

/-- A setting that is a text. -/
def text? (d : DeviceSpec) (name : String) : Option String := d.setting? name >>= Value.text?

/-- A setting that is a truth value. -/
def bool? (d : DeviceSpec) (name : String) : Option Bool := d.setting? name >>= Value.bool?

end DeviceSpec

/-- The description of a board. -/
structure Board where
  name : String
  ram : MemoryRange
  devices : List DeviceSpec
  deriving Repr, Inhabited

namespace Board

/-- The first device of a kind. -/
def ofKind? (b : Board) (kind : String) : Option DeviceSpec :=
  b.devices.find? fun d => d.kind = kind

/-- The board of a system that names none: 240 bytes of data memory, and a
display and a keyboard at the top of the address space. -/
def stock : Board where
  name := "puc8"
  ram := { base := 0, size := "240B" }
  devices := [
    { id := "display", kind := "display", basePort := 0xFC,
      settings := [("busy_cycles", .natural 4), ("scrollback", .text "4KiB")] },
    { id := "keyboard", kind := "keyboard", basePort := 0xFE }]

/-! ## Reading -/

/-- Data memory while it is read. -/
structure RangeDraft where
  base : Option UInt8 := none
  size : Option String := none

/-- The form of data memory. -/
def rangeForm : RecordForm RangeDraft where
  wanted := "struct MemoryRange"
  fields := [
    .of "base" RangeDraft.base (fun d a => { d with base := some a }) Site.byte,
    .of "size" RangeDraft.size (fun d a => { d with size := some a }) Site.text]

/-- Read data memory. -/
def readRange (p : Site) : Reading MemoryRange := do
  let d ← rangeForm.read {} p
  return { base := ← p.required "base" d.base, size := ← p.required "size" d.size }

/-- A device while it is read. -/
structure DeviceDraft where
  id : Option String := none
  kind : Option String := none
  basePort : Option UInt8 := none
  settings : Option (List (String × Value)) := none

/-- Settings may be anything; each key of a mapping stands once. -/
def settingFreedom : Yaml.Freedom where
  wanted := "any YAML value"
  keepsTags := true
  repeatsKeys := false

/-- The form of a device. -/
def deviceForm : RecordForm DeviceDraft where
  wanted := "struct PeripheralConfig"
  fields := [
    .of "id" DeviceDraft.id (fun d a => { d with id := some a }) Site.text,
    .of "type" DeviceDraft.kind (fun d a => { d with kind := some a }) Site.text,
    .of "base_port" DeviceDraft.basePort (fun d a => { d with basePort := some a }) Site.byte,
    .of "config" DeviceDraft.settings (fun d a => { d with settings := some a })
      (Site.named settingFreedom.read)]

/-- Read a device. -/
def readDevice (p : Site) : Reading DeviceSpec := do
  let d ← deviceForm.read {} p
  return {
    id := ← p.required "id" d.id
    kind := ← p.required "type" d.kind
    basePort := ← p.required "base_port" d.basePort
    settings := d.settings.getD [] }

/-- A board while it is read. -/
structure Draft where
  name : Option String := none
  ram : Option MemoryRange := none
  devices : Option (List DeviceSpec) := none

/-- The form of a board. -/
def form : RecordForm Draft where
  wanted := "struct BoardDescriptor"
  fields := [
    .of "name" Draft.name (fun d a => { d with name := some a }) Site.text,
    .of "ram" Draft.ram (fun d a => { d with ram := some a }) readRange,
    .of "peripherals" Draft.devices (fun d a => { d with devices := some a })
      (Site.list readDevice)]

/-- Read a board. -/
def read (p : Site) : Reading Board := do
  let d ← form.read {} p
  return {
    name := ← p.required "name" d.name
    ram := ← p.required "ram" d.ram
    devices := ← p.required "peripherals" d.devices }

end Board

end PolledTerminal
