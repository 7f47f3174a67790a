set_option autoImplicit false

/-!
# The command line

Without a command the program runs interactively; the command `test` runs a
script.  Options are long (`--system x`, `--system=x`) or short (`-s x`, `-sx`,
`-s=x`), short ones may stand together (`-ts x`), and `--` ends them.  Options
of the interactive run and commands exclude each other.

The line is read from left to right and the first fault counts.  A value is
looked at when the next option comes or the line ends, which is why a fault in
what follows may win over one in the value.
-/

namespace PolledTerminal.CommandLine

/-- Why a command line gives no command. -/
inductive UsageFault where
  | unknownArgument
  | invalidSubcommand
  /-- a value is missing or empty -/
  | invalidValue
  /-- a value is not a number -/
  | valueValidation
  /-- an option given twice, or an option beside a command -/
  | argumentConflict
  | missingRequiredArgument
  /-- a flag was given a value -/
  | tooManyValues
  /-- the line asks for help -/
  | displayHelp
  /-- the line asks for the version -/
  | displayVersion
  deriving DecidableEq, Repr, Inhabited

/-- The exit code: asking for help or the version is no failure. -/
def UsageFault.exitCode : UsageFault → Nat
  | .displayHelp | .displayVersion => 0
  | _ => 2

/-- The options of an interactive run. -/
structure RunOptions where
  /-- the manifest's file -/
  system : Option String := none
  maxSteps : Option Nat := none
  /-- where the snapshot goes -/
  snapshot : Option String := none
  noDisplayStdout : Bool := false
  selftest : Bool := false
  trace : Bool := false
  deriving DecidableEq, Repr, Inhabited

/-- The options of a scripted run. -/
structure TestOptions where
  script : String
  /-- where the result and the report go -/
  outputDir : Option String := none
  noDisplayStdout : Bool := false
  trace : Bool := false
  deriving DecidableEq, Repr, Inhabited

/-- What the program is asked to do. -/
inductive Command where
  | run (options : RunOptions)
  | test (options : TestOptions)
  deriving DecidableEq, Repr, Inhabited

/-! ## Options -/

/-- What an option does to options of type `σ`. -/
inductive Effect (σ : Type) where
  | flag (isSet : σ → Bool) (set : σ → σ)
  | value (isSet : σ → Bool) (set : σ → String → Except UsageFault σ)
  | help
  | version

/-- An option. -/
structure OptionSpec (σ : Type) where
  long : String
  short : Option Char := none
  effect : Effect σ

/-- The options that a command line has given so far. -/
structure Progress (σ : Type) where
  options : σ
  /-- an option that takes a value, and the value once it has come -/
  pending : Option ((σ → Bool) × (σ → String → Except UsageFault σ) × Option String) := none
  /-- some option has been given -/
  anyOption : Bool := false
  /-- `--` has ended the options -/
  ended : Bool := false

namespace Progress

variable {σ : Type}

/-- Give an option its value. -/
def assign (p : Progress σ) (isSet : σ → Bool) (set : σ → String → Except UsageFault σ)
    (value : String) : Except UsageFault (Progress σ) := do
  if isSet p.options then throw .argumentConflict
  return { p with options := ← set p.options value }

/-- Look at the pending value. -/
def settle (p : Progress σ) : Except UsageFault (Progress σ) :=
  match p.pending with
  | none => .ok p
  | some (_, _, none) => .error .invalidValue
  | some (isSet, set, some value) => ({ p with pending := none } : Progress σ).assign isSet set value

/-- The next word is a value. -/
def awaitsValue (p : Progress σ) : Bool :=
  !p.ended && (match p.pending with
    | some (_, _, none) => true
    | _ => false)

/-- The value has come. -/
def takeValue (p : Progress σ) (value : String) : Progress σ :=
  { p with pending := p.pending.map fun o => (o.1, o.2.1, some value) }

/-- Act on an option; `attached` is a value written together with it. -/
def act (p : Progress σ) (effect : Effect σ) (attached : Option String) :
    Except UsageFault (Progress σ) :=
  match effect, attached with
  | .value isSet set, some value => do (← p.settle).assign isSet set value
  | .value isSet set, none => do return { ← p.settle with pending := some (isSet, set, none) }
  | _, some _ => .error .tooManyValues
  | .flag isSet set, none => do
    let p ← p.settle
    if isSet p.options then throw .argumentConflict
    return { p with options := set p.options }
  | .help, none => do
    let _ ← p.settle
    throw .displayHelp
  | .version, none => do
    let _ ← p.settle
    throw .displayVersion

/-- A long option, without its dashes. -/
def long (specs : List (OptionSpec σ)) (p : Progress σ) (word : List Char) :
    Except UsageFault (Progress σ) :=
  let name := String.ofList (word.takeWhile (· ≠ '='))
  let attached := match word.dropWhile (· ≠ '=') with
    | _ :: value => some (String.ofList value)
    | [] => none
  match specs.find? fun o => o.long = name with
  | none => .error .unknownArgument
  | some o => ({ p with anyOption := true } : Progress σ).act o.effect attached

/-- Short options, without their dash; the value of one is the rest, after an
equals sign if there is one. -/
def short (specs : List (OptionSpec σ)) (p : Progress σ) : List Char → Except UsageFault (Progress σ)
  | [] => .ok p
  | c :: rest =>
    match specs.find? fun o => o.short = some c with
    | none => .error .unknownArgument
    | some o =>
      let p := { p with anyOption := true }
      match o.effect, rest with
      | .value _ _, [] => p.act o.effect none
      | .value _ _, '=' :: value => p.act o.effect (some (String.ofList value))
      | .value _ _, value => p.act o.effect (some (String.ofList value))
      | _, _ => do
        let p ← p.act o.effect none
        p.short specs rest

/-- One word of the line; `stray` is the fault of one that nothing asks for. -/
def word (specs : List (OptionSpec σ)) (stray : Progress σ → String → UsageFault)
    (p : Progress σ) (arg : String) : Except UsageFault (Progress σ) :=
  if p.ended then .error (stray p arg)
  else match arg.toList with
  | ['-', '-'] => .ok { p with ended := true }
  | '-' :: '-' :: name => p.long specs name
  | '-' :: c :: cs => p.short specs (c :: cs)
  | _ => if p.awaitsValue then .ok (p.takeValue arg) else .error (stray p arg)

end Progress

/-! ## Values -/

/-- A path is any text but the empty one. -/
def pathValue (text : String) : Except UsageFault String :=
  if text.isEmpty then .error .invalidValue else .ok text

/-- A decimal number of 64 bits, with a plus sign or without. -/
def countValue (text : String) : Except UsageFault Nat :=
  let digits := match text.toList with
    | '+' :: cs => cs
    | cs => cs
  if digits.isEmpty || !digits.all (fun c => '0' ≤ c && c ≤ '9') then .error .valueValidation
  else
    let n := digits.foldl (fun n c => 10 * n + (c.toNat - '0'.toNat)) 0
    if n < Nat.pow 2 64 then .ok n else .error .valueValidation

/-! ## The two grammars -/

/-- Help is asked for anywhere. -/
def helpSpec {σ : Type} : OptionSpec σ where
  long := "help"
  short := some 'h'
  effect := .help

/-- The options of an interactive run. -/
def runSpecs : List (OptionSpec RunOptions) := [
  { long := "system", short := some 's',
    effect := .value (·.system.isSome) fun o v => do
      return { o with system := some (← pathValue v) } },
  { long := "max-steps",
    effect := .value (·.maxSteps.isSome) fun o v => do
      return { o with maxSteps := some (← countValue v) } },
  { long := "snapshot",
    effect := .value (·.snapshot.isSome) fun o v => do
      return { o with snapshot := some (← pathValue v) } },
  { long := "no-display-stdout",
    effect := .flag (·.noDisplayStdout) fun o => { o with noDisplayStdout := true } },
  { long := "selftest", effect := .flag (·.selftest) fun o => { o with selftest := true } },
  { long := "trace", short := some 't',
    effect := .flag (·.trace) fun o => { o with trace := true } },
  helpSpec,
  { long := "version", short := some 'V', effect := .version }]

/-- The options of a scripted run while they are read. -/
structure TestDraft where
  script : Option String := none
  outputDir : Option String := none
  noDisplayStdout : Bool := false
  trace : Bool := false

/-- The options of a scripted run. -/
def testSpecs : List (OptionSpec TestDraft) := [
  { long := "script",
    effect := .value (·.script.isSome) fun o v => do
      return { o with script := some (← pathValue v) } },
  { long := "output-dir",
    effect := .value (·.outputDir.isSome) fun o v => do
      return { o with outputDir := some (← pathValue v) } },
  { long := "no-display-stdout",
    effect := .flag (·.noDisplayStdout) fun o => { o with noDisplayStdout := true } },
  { long := "trace", short := some 't',
    effect := .flag (·.trace) fun o => { o with trace := true } },
  helpSpec]

/-! ## Reading the line -/

/-- The words that name commands. -/
def commandNames : List String := ["test", "help"]

/-- The fault of a word outside a command: no command after options, and none
behind `--`. -/
def strayWord (p : Progress RunOptions) (arg : String) : UsageFault :=
  if p.anyOption then .argumentConflict
  else if p.ended && arg ∈ commandNames then .unknownArgument
  else .invalidSubcommand

/-- The words after `test`. -/
def parseTest (p : Progress TestDraft) : List String → Except UsageFault Command
  | [] => do
    let o := (← p.settle).options
    match o.script with
    | none => throw .missingRequiredArgument
    | some script =>
      return .test {
        script := script
        outputDir := o.outputDir
        noDisplayStdout := o.noDisplayStdout
        trace := o.trace }
  | arg :: args => do
    let p ← p.word testSpecs (fun _ _ => .unknownArgument) arg
    parseTest p args

/-- The words after `help` name a command. -/
def parseHelp : List String → UsageFault
  | [] => .displayHelp
  | [name] => if name ∈ commandNames then .displayHelp else .invalidSubcommand
  | _ => .invalidSubcommand

/-- The words of the line: a command stands in front of every option. -/
def parseRun (p : Progress RunOptions) : List String → Except UsageFault Command
  | [] => do return .run (← p.settle).options
  | arg :: args =>
    if arg = "test" ∧ !p.ended ∧ !p.anyOption then parseTest { options := {} } args
    else if arg = "help" ∧ !p.ended ∧ !p.anyOption then .error (parseHelp args)
    else do
      let p ← p.word runSpecs strayWord arg
      parseRun p args

/-- The command of a command line, without the program's name. -/
def parse (args : List String) : Except UsageFault Command := parseRun { options := {} } args

end PolledTerminal.CommandLine
