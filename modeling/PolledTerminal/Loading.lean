import PolledTerminal.Assembly
import PolledTerminal.FileTree
import PolledTerminal.Manifest
import PolledTerminal.Script
set_option autoImplicit false

/-!
# Loading descriptions from files

Manifests, boards and scripts are files, read through whatever the host of the
program gives for reading one.  A manifest names its board, and both are loaded
together; a system that names no manifest is the stock system.
-/

namespace PolledTerminal

open PolledTerminal.Text (Bytes)
open PolledTerminal.Yaml (Document ReadFault Reading Site)

/-- What a file describes. -/
inductive FileKind where
  | board
  | manifest
  | script
  deriving DecidableEq, Repr, Inhabited

/-- The file in words. -/
def FileKind.words : FileKind → String
  | .board => "board descriptor"
  | .manifest => "system manifest"
  | .script => "test script"

/-- The contents of the file in words. -/
def FileKind.contents : FileKind → String
  | .board => "Board Descriptor"
  | .manifest => "System Manifest"
  | .script => "Test Script YAML"

/-- What is being written when writing fails. -/
inductive Output where
  | snapshot
  | directory
  | artifact
  deriving DecidableEq, Repr, Inhabited

/-- The output in words. -/
def Output.words : Output → String
  | .snapshot => "Failed to write snapshot to "
  | .directory => "Failed to create output directory "
  | .artifact => "Failed to write "

/-- Why the program gives up. -/
inductive Trouble where
  | opening (kind : FileKind) (path : String) (why : FileFault)
  /-- the file opened and could not be read -/
  | reading (kind : FileKind) (why : FileFault)
  | document (kind : FileKind) (why : ReadFault)
  | manifest (why : Manifest.Fault)
  | script (why : Script.Fault)
  | board (why : BoardFault)
  /-- the board lacks a display or a keyboard -/
  | noTerminal
  | machine (why : Fault)
  | writing (output : Output) (path : String) (why : FileFault)
  deriving Repr, Inhabited

/-- What the trouble is. -/
def Trouble.explain : Trouble → Explanation
  | .opening kind path why =>
    ⟨"Failed to open " ++ kind.words ++ " at " ++ Text.Quoted.encode path, why.message⟩
  | .reading kind why => ⟨"Failed to parse " ++ kind.contents, why.message⟩
  | .document kind why => ⟨"Failed to parse " ++ kind.contents, why.message⟩
  | .manifest why => ⟨why.message, none⟩
  | .script why => ⟨why.message, none⟩
  | .board why => why.explain
  | .noTerminal => ⟨"The terminal needs a display and a keyboard on the board", none⟩
  | .machine why => ⟨why.message, none⟩
  | .writing output path why => ⟨output.words ++ Text.Quoted.encode path, why.message⟩

/-- The program breaks down instead of explaining the trouble. -/
def Trouble.breaksDown : Trouble → Bool
  | .board why => why.breaksDown
  | _ => false

/-- The exit code of a program that gives up. -/
def Trouble.exitCode (t : Trouble) : Nat := if t.breaksDown then 101 else 1

/-- A system: its manifest and its board. -/
structure SystemDescription where
  manifest : Manifest := {}
  board : Board := .stock
  deriving Repr, Inhabited

namespace Loading

variable {m : Type → Type} [Monad m] {α : Type}

/-- How the host reads a file. -/
abbrev FileReader (m : Type → Type) : Type := String → m (Except ReadFailure Bytes)

/-- What a file's contents describe. -/
def parse (kind : FileKind) (path : String) (read : Site → Reading α) :
    Except ReadFailure Bytes → Except Trouble α
  | .error (.opening why) => .error (.opening kind path why)
  | .error (.reading why) => .error (.reading kind why)
  | .ok bytes => ((Document.ofBytes bytes).read read).mapError (.document kind)

/-- Load what a file describes, if it passes a check. -/
def file (reader : FileReader m) (kind : FileKind) (read : Site → Reading α)
    (check : α → Except Trouble Unit) (path : String) : ExceptT Trouble m α := do
  let contents ← reader path
  let a ← parse kind path read contents
  check a
  return a

/-- Load a board. -/
def board (reader : FileReader m) (path : String) : ExceptT Trouble m Board :=
  file reader .board Board.read (fun _ => .ok ()) path

/-- Load a manifest that can be used. -/
def manifest (reader : FileReader m) (path : String) : ExceptT Trouble m Manifest :=
  file reader .manifest Manifest.read (fun manifest => manifest.validate.mapError .manifest) path

/-- Load a script that can be used. -/
def script (reader : FileReader m) (path : String) : ExceptT Trouble m Script :=
  file reader .script Script.read (fun script => script.validate.mapError .script) path

/-- Load a manifest and its board, or take the stock system. -/
def system (reader : FileReader m) : Option String → ExceptT Trouble m SystemDescription
  | none => return {}
  | some path => do
    let manifest ← manifest reader path
    let board ← board reader (FilePath.beside path manifest.board)
    return { manifest := manifest, board := board }

end Loading

end PolledTerminal
