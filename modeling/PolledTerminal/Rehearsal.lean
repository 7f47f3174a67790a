import PolledTerminal.Program
set_option autoImplicit false

/-!
# Rehearsals

The program on a host that is a value: a file tree, what the user will type, and
what has been printed.  No time passes, and the user types everything before the
terminal takes its first step.  A program that never ends has no result.
-/

namespace PolledTerminal

open PolledTerminal.CommandLine (Command)
open PolledTerminal.Text (Bytes)

/-- Everything outside the program. -/
structure World where
  files : FileTree := {}
  /-- what the user will type -/
  typed : Bytes := []
  /-- what has been printed, newest first -/
  printed : List String := []
  deriving Repr, Inhabited

/-- An action on the world. -/
abbrev Rehearsed : Type → Type := StateT World Option

namespace World

/-- The text that has been printed. -/
def printedText (w : World) : String := String.join w.printed.reverse

/-- Change the file tree, if it can be changed. -/
def changeFiles (f : FileTree → Except FileFault FileTree) : Rehearsed (Except FileFault Unit) := do
  let w ← get
  match f w.files with
  | .ok files =>
    set { w with files := files }
    return .ok ()
  | .error why => return .error why

/-- The host. -/
def host : Host Rehearsed where
  readFile path := do return (← get).files.contents path
  writeFile path text := changeFiles fun t => t.writeFile path (Text.Utf8.encode text)
  createDirectories path := changeFiles fun t => t.createDirectories path
  print text := modify fun w => { w with printed := text :: w.printed }
  run machine limits := StateT.lift (machine.run limits fun _ => 0)
  converse machine maxSteps := do
    let w ← get
    let session : Session Device := { machine := machine, feeder := { rest := w.typed } }
    let session ← StateT.lift (session.converse maxSteps)
    return session.machine

/-- Carry out a command in the world. -/
def execute (w : World) (command : Command) : Option (Except Trouble Nat × World) :=
  (Program.execute host command).run.run w

end World

end PolledTerminal
