import PolledTerminal.Terminal
import PolledTerminal.Yaml.Record
set_option autoImplicit false

/-!
# System manifests

A manifest names a system, the file that describes its board, and the prompt of
its terminal with the address of the prompt in data memory.
-/

namespace PolledTerminal

open PolledTerminal.Yaml (Field RecordForm Reading Site)

/-- A system. -/
structure Manifest where
  name : String := "terminal"
  /-- the board's file, relative to the manifest -/
  board : String := ""
  prompt : String := Terminal.defaultPrompt
  promptAddr : UInt8 := 0
  deriving DecidableEq, Repr, Inhabited

namespace Manifest

/-! ## Validity -/

/-- Why a manifest cannot be used. -/
inductive Fault where
  /-- the prompt holds the character that would end it -/
  | promptWithNul
  | promptNotAscii (prompt : String)
  deriving DecidableEq, Repr, Inhabited

/-- The sentence that tells the fault. -/
def Fault.message : Fault → String
  | .promptWithNul => "Prompt may not contain a NUL byte (it terminates the string)"
  | .promptNotAscii prompt => "Prompt must be ASCII, got " ++ Text.Quoted.encode prompt

/-- Check what the form of a manifest leaves open. -/
def validate (m : Manifest) : Except Fault Unit :=
  if m.prompt.toList.any (·.toNat = 0) then .error .promptWithNul
  else if m.prompt.toList.all (·.toNat < 0x80) then .ok ()
  else .error (.promptNotAscii m.prompt)

/-! ## Reading -/

/-- A manifest while it is read. -/
structure Draft where
  name : Option String := none
  board : Option String := none
  prompt : Option String := none
  promptAddr : Option UInt8 := none

/-- The form of a manifest. -/
def form : RecordForm Draft where
  wanted := "struct SystemManifest"
  fields := [
    .of "name" Draft.name (fun d a => { d with name := some a }) Site.text,
    .of "board" Draft.board (fun d a => { d with board := some a }) Site.text,
    .of "prompt" Draft.prompt (fun d a => { d with prompt := some a }) Site.text,
    .of "prompt_addr" Draft.promptAddr (fun d a => { d with promptAddr := some a }) Site.byte]

/-- Read a manifest. -/
def read (p : Site) : Reading Manifest := do
  let d ← form.read {} p
  return {
    name := ← p.required "name" d.name
    board := ← p.required "board" d.board
    prompt := d.prompt.getD Terminal.defaultPrompt
    promptAddr := d.promptAddr.getD 0 }

/-- The terminal of a system. -/
def terminal (m : Manifest) (ports : TerminalPorts) : Terminal :=
  (Terminal.new ports).withPrompt (Text.Utf8.encode m.prompt) m.promptAddr

end Manifest

end PolledTerminal
