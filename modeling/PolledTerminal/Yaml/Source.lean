import PolledTerminal.Text.Utf8
set_option autoImplicit false

/-!
# YAML: the characters of a stream

A stream is UTF-8 and holds printable characters only.  The cursor walks over
its characters and knows its line and column; everything that reads a stream is
an action on the cursor that may meet a fault.  Loops over the stream are
bounded by its length, which the cursor carries.
-/

namespace PolledTerminal.Yaml

open PolledTerminal.Text

/-- What can be wrong with a stream. -/
inductive Problem where
  /-- the octets are not UTF-8, or hold a character that may not stand in a stream -/
  | encoding
  /-- the stream ends inside a construct -/
  | endOfStream
  /-- a character that cannot stand where it stands -/
  | character
  /-- a tab where only spaces indent -/
  | tab
  /-- a key without its colon -/
  | missingColon
  /-- an entry, key or value where none may stand -/
  | misplaced
  /-- a directive that is unknown, malformed or given twice -/
  | directive
  /-- a tag whose handle was never declared -/
  | tagHandle
  /-- a token that the structure does not allow here -/
  | unexpectedToken
  /-- an alias to a name that was never given -/
  | unknownAnchor
  /-- more than one document -/
  | manyDocuments
  /-- collections nested too deeply -/
  | depth
  /-- aliases repeated too often -/
  | repetition
  deriving DecidableEq, Repr, Inhabited

/-- The sentence that tells the problem. -/
def Problem.message : Problem → String
  | .encoding => "the stream is not printable UTF-8 text"
  | .endOfStream => "found unexpected end of stream"
  | .character => "found character that cannot stand here"
  | .tab => "found a tab character where an indentation space is expected"
  | .missingColon => "could not find expected ':'"
  | .misplaced => "entries, keys and values are not allowed in this context"
  | .directive => "found a directive that cannot be used"
  | .tagHandle => "found undefined tag handle"
  | .unexpectedToken => "did not find expected node content or indicator"
  | .unknownAnchor => "unknown anchor"
  | .manyDocuments => "deserializing from YAML containing more than one document is not supported"
  | .depth => "recursion limit exceeded"
  | .repetition => "repetition limit exceeded"

/-! ## Characters -/

/-- Characters that may stand in a stream. -/
def isPrintable (c : Char) : Bool :=
  let n := c.toNat
  n = 0x09 || n = 0x0A || n = 0x0D || (0x20 ≤ n && n ≤ 0x7E) || n = 0x85
    || (0xA0 ≤ n && n ≤ 0xD7FF) || (0xE000 ≤ n && n ≤ 0xFFFD) || 0x10000 ≤ n

/-- The characters of a stream. -/
def decode? (bs : Bytes) : Option (List Char) :=
  match Utf8.decode? bs with
  | some cs => if cs.all isPrintable then some cs else none
  | none => none

/-- A line break: carriage return, line feed, next line, or a separator. -/
def isBreakChar (c : Char) : Bool :=
  c = '\n' || c = '\r' || c = '\u0085' || c = '\u2028' || c = '\u2029'

/-- A space or a tab. -/
def isBlankChar (c : Char) : Bool := c = ' ' || c = '\t'

/-- A letter or digit of ASCII, `_` or `-`. -/
def isWordChar (c : Char) : Bool :=
  ('0' ≤ c && c ≤ '9') || ('A' ≤ c && c ≤ 'Z') || ('a' ≤ c && c ≤ 'z') || c = '_' || c = '-'

/-- A decimal digit. -/
def isDigitChar (c : Char) : Bool := '0' ≤ c && c ≤ '9'

/-- The end of the stream or a line break. -/
def isBreakOrEnd : Option Char → Bool
  | none => true
  | some c => isBreakChar c

/-- The end of the stream, a line break, a space or a tab. -/
def isGapOrEnd : Option Char → Bool
  | none => true
  | some c => isBlankChar c || isBreakChar c

/-! ## The cursor -/

/-- A place in a stream: what follows, and where it is. -/
structure Cursor where
  rest : List Char
  /-- the length of the whole stream, which bounds every loop over it -/
  size : Nat
  index : Nat := 0
  line : Nat := 0
  column : Nat := 0
  deriving Repr, Inhabited

/-- The start of a stream. -/
def Cursor.start (cs : List Char) : Cursor := { rest := cs, size := cs.length }

/-- An action on the cursor. -/
abbrev Scan : Type → Type := StateT Cursor (Except Problem)

namespace Scan

/-- The character so many places ahead; `none` at the end of the stream. -/
def peekAt (i : Nat) : Scan (Option Char) := do
  return (← get).rest[i]?

/-- The next character; `none` at the end of the stream. -/
def peek : Scan (Option Char) := do
  return (← get).rest.head?

/-- The next character is this one. -/
def looksAt (c : Char) : Scan Bool := do
  return (← peek) == some c

/-- The column of the cursor. -/
def column : Scan Nat := do
  return (← get).column

/-- A bound for loops over the stream. -/
def bound : Scan Nat := do
  return (← get).size + 1

/-- Pass over characters of the line. -/
def skip (n : Nat) : Scan Unit :=
  modify fun c =>
    { c with rest := c.rest.drop n, index := c.index + n, column := c.column + n }

/-- The next characters with a property, none of which breaks the line. -/
def takeWhile (p : Char → Bool) : Scan (List Char) := do
  let cs := (← get).rest.takeWhile p
  skip cs.length
  return cs

/-- Pass over spaces and tabs. -/
def skipBlanks : Scan Unit := do
  let _ ← takeWhile isBlankChar

/-- Pass over a comment, up to the end of the line. -/
def skipComment : Scan Unit := do
  if ← looksAt '#' then
    let _ ← takeWhile fun c => !isBreakChar c

/-- Pass over a line break, if there is one, and give what it stands for: a line
feed, or the separator itself. -/
def takeBreak : Scan (List Char) := do
  let newline (n : Nat) : Scan Unit :=
    modify fun c =>
      { c with rest := c.rest.drop n, index := c.index + n, column := 0, line := c.line + 1 }
  match (← get).rest with
  | '\r' :: '\n' :: _ => do newline 2; return ['\n']
  | c :: _ =>
    if c = '\r' || c = '\n' || c = '\u0085' then do newline 1; return ['\n']
    else if isBreakChar c then do newline 1; return [c]
    else return []
  | [] => return []

/-- The cursor stands at `---` or `...` at the start of a line, with a gap after
it. -/
def atDocumentMark : Scan Bool := do
  let c ← get
  return c.column == 0 && (match c.rest with
    | '-' :: '-' :: '-' :: rest => isGapOrEnd rest.head?
    | '.' :: '.' :: '.' :: rest => isGapOrEnd rest.head?
    | _ => false)

end Scan

end PolledTerminal.Yaml
