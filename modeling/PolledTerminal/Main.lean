import PolledTerminal.Program
set_option autoImplicit false

/-!
# The executable

The program on the real system: files, the clock, and a user who types while the
terminal runs.
-/

namespace PolledTerminal.Executable

open PolledTerminal.Text (Bytes)

/-- The fault behind a refusal of the system. -/
def fileFault : IO.Error → FileFault
  | .noFileOrDirectory _ _ _ => .notFound
  | .alreadyExists _ 17 _ => .alreadyExists
  | .inappropriateType _ 20 _ => .notDirectory
  | .inappropriateType _ 21 _ => .isDirectory
  | e => .other (toString e)

/-- Do something with files. -/
def guarded (action : IO Unit) : IO (Except FileFault Unit) := do
  try
    action
    return .ok ()
  catch e => return .error (fileFault e)

/-- The contents of a file. -/
def readFile (path : String) : IO (Except ReadFailure Bytes) := do
  let opened : Except FileFault IO.FS.Handle ←
    try
      let handle ← IO.FS.Handle.mk path .read
      pure (.ok handle)
    catch e => pure (.error (fileFault e))
  match opened with
  | .error why => return .error (.opening why)
  | .ok handle =>
    try
      return .ok (← handle.readBinToEnd).toList
    catch e => return .error (.reading (fileFault e))

/-- Print at once. -/
def print (text : String) : IO Unit := do
  unless text.isEmpty do
    let out ← IO.getStdout
    out.putStr text
    out.flush

/-- Print what devices have printed, and forget the events told so far. -/
def settle {σ : Type} (m : Machine σ Device) : IO (Machine σ Device) := do
  print m.bus.printedText
  return (m.changeBus Bus.clearPrinted).clearEvents

/-- A program that polls for ever. -/
partial def waitForever : IO Empty := do
  IO.sleep 1000
  waitForever

/-- Step a machine by the clock until something stops the run. -/
partial def run {σ : Type} (limits : RunLimits) (start executed : Nat) (m : Machine σ Device) :
    IO (StopReason × Machine σ Device) := do
  let elapsed := (← IO.monoMsNow) - start
  match m.stopsHere limits executed elapsed with
  | some reason => return (reason, m)
  | none =>
    match Machine.step m with
    | none => return nomatch ← waitForever
    | some (.error fault, m) => return (fault.stopReason, ← settle m)
    | some (.ok (), m) => run limits start (executed + 1) (← settle m)

/-- What the user has typed and not been taken yet, and whether that is all. -/
abbrev Typed : Type := IO.Ref (Bytes × Bool)

/-- Take what the user types, as it comes. -/
partial def listen (typed : Typed) : IO Unit := do
  let bytes ← try (← IO.getStdin).read 1 catch _ => pure ByteArray.empty
  if bytes.isEmpty then typed.modify fun t => (t.1, true)
  else
    typed.modify fun t => (t.1 ++ bytes.toList, t.2)
    listen typed

/-- Let the feeder take its turns for what has been typed. -/
def feed (typed : Typed) (s : Session Device) : IO (Session Device) := do
  let (bytes, ended) ← typed.modifyGet fun t => (t, ([], t.2))
  let s := { s with feeder := { s.feeder with rest := bytes } }
  let turns := bytes.length + (if ended then 1 else 0)
  return (List.range turns).foldl (fun s _ => s.feederTurn) s

/-- Let the parties take turns until the loop leaves. -/
partial def converse (typed : Typed) (maxSteps : Option Nat) (s : Session Device) :
    IO (Session Device) := do
  if s.isOver then return s
  let s ← feed typed s
  match s.loopTurn maxSteps with
  | none => return nomatch ← waitForever
  | some s =>
    let s := { s with machine := ← settle s.machine }
    if s.keyboard.pending = 0 && !s.keyboard.closed then IO.sleep 1
    converse typed maxSteps s

/-- The host. -/
def host : Host IO where
  readFile := readFile
  writeFile path text := guarded (IO.FS.writeFile path text)
  createDirectories path := guarded (IO.FS.createDirAll path)
  print := print
  run machine limits := do run limits (← IO.monoMsNow) 0 machine
  converse machine maxSteps := do
    let typed : Typed ← IO.mkRef ([], false)
    let _ ← IO.asTask (listen typed) .dedicated
    let session ← converse typed maxSteps { machine := machine, feeder := { rest := [] } }
    return session.machine

/-- How the program is used. -/
def usage : String :=
  "Usage: puc8term [--system FILE] [--max-steps N] [--snapshot FILE] [--no-display-stdout]\n"
    ++ "                [--selftest] [--trace]\n"
    ++ "       puc8term test --script FILE [--output-dir DIR] [--no-display-stdout] [--trace]\n"

end PolledTerminal.Executable

open PolledTerminal in
/-- Carry out the command of the command line. -/
def main (args : List String) : IO UInt32 := do
  match CommandLine.parse args with
  | .error fault =>
    if fault.exitCode = 0 then IO.print Executable.usage else IO.eprint Executable.usage
    return UInt32.ofNat fault.exitCode
  | .ok command =>
    match ← (Program.execute Executable.host command).run with
    | .ok code => return UInt32.ofNat code
    | .error trouble =>
      unless trouble.breaksDown do IO.eprint trouble.explain.report
      return UInt32.ofNat trouble.exitCode
