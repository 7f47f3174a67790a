import PolledTerminal.Yaml.Token
set_option autoImplicit false

/-!
# YAML: the stream of tokens

Tokens are read on demand.  Indentation opens and closes blocks: a column deeper
than the current block opens one where an entry or a key stands, and a shallower
one closes blocks.  A key may turn out to be one only at its colon; until then
its place among the tokens is remembered, one possible key for each level of
flow collections, and a token at such a place is not given away.

A possible key lies on one line and within 1024 characters.  In a block, a text
that starts where the block's keys start has to be one.
-/

namespace PolledTerminal.Yaml

/-- A place where a key may have started. -/
structure PossibleKey where
  /-- it has to be a key -/
  required : Bool
  /-- the number of the token it starts with -/
  number : Nat
  index : Nat
  line : Nat
  column : Nat
  deriving DecidableEq, Repr, Inhabited

/-- A stream on its way to tokens. -/
structure TokenStream where
  cursor : Cursor
  started : Bool := false
  ended : Bool := false
  /-- tokens read and not yet given away -/
  queue : List Token := []
  /-- how many tokens have been given away -/
  given : Nat := 0
  /-- the column of the current block; `-1` outside all blocks -/
  indent : Int := -1
  /-- the columns of the blocks around it, innermost first -/
  outer : List Int := []
  /-- a key may start here -/
  keyAllowed : Bool := true
  /-- the possible key of each flow level, innermost first -/
  keys : List (Option PossibleKey) := [none]
  flowLevel : Nat := 0
  deriving Repr, Inhabited

/-- An action on a stream of tokens. -/
abbrev Fetch : Type → Type := StateT TokenStream (Except Problem)

namespace Fetch

/-- Read characters. -/
def scan {α : Type} (a : Scan α) : Fetch α := do
  let s ← get
  let (x, cursor) ← (a.run s.cursor : Except Problem (α × Cursor))
  set { s with cursor := cursor }
  return x

/-- Put a token behind those already read. -/
def enqueue (t : Token) : Fetch Unit := modify fun s => { s with queue := s.queue ++ [t] }

/-- Put a token before the one of this number. -/
def insertAt (number : Nat) (t : Token) : Fetch Unit :=
  modify fun s =>
    let place := number - s.given
    { s with queue := s.queue.take place ++ t :: s.queue.drop place }

/-- Inside a flow collection. -/
def inFlow : Fetch Bool := do
  return (← get).flowLevel != 0

/-- Allow or forbid a key at the next token. -/
def allowKey (allowed : Bool) : Fetch Unit := modify fun s => { s with keyAllowed := allowed }

/-! ## Possible keys -/

/-- The key can no longer be one: it is on an earlier line or too long ago. -/
def isStale (c : Cursor) (k : PossibleKey) : Bool := k.line < c.line || k.index + 1024 < c.index

/-- Forget the keys that are stale. -/
def forgetStale : Fetch Unit := do
  let s ← get
  if s.keys.any fun k => k.any fun k => isStale s.cursor k && k.required then throw .missingColon
  set { s with keys := s.keys.map (Option.filter fun k => !isStale s.cursor k) }

/-- Set the possible key of the current level. -/
def setKey (k : Option PossibleKey) : Fetch Unit :=
  modify fun s => { s with keys := match s.keys with
    | [] => [k]
    | _ :: rest => k :: rest }

/-- The possible key of the current level. -/
def currentKey : Fetch (Option PossibleKey) := do
  return ((← get).keys.head?).join

/-- Give up the possible key of the current level. -/
def removeKey : Fetch Unit := do
  if (← currentKey).any fun k => k.required then throw .missingColon
  setKey none

/-- Remember that a key may start with the next token. -/
def saveKey : Fetch Unit := do
  let s ← get
  if s.keyAllowed then
    removeKey
    setKey (some {
      required := s.flowLevel == 0 && s.indent == (s.cursor.column : Int)
      number := s.given + s.queue.length
      index := s.cursor.index
      line := s.cursor.line
      column := s.cursor.column })

/-! ## Blocks -/

/-- Open a block at a column deeper than the current one, before the token of
this number or behind all. -/
def openBlock (column : Nat) (number : Option Nat) (t : Token) : Fetch Unit := do
  let s ← get
  if s.flowLevel == 0 && s.indent < (column : Int) then
    set { s with indent := (column : Int), outer := s.indent :: s.outer }
    match number with
    | some number => insertAt number t
    | none => enqueue t

/-- The blocks deeper than a column, closed: how many, and what is left. -/
def closing (column : Int) : Int → List Int → Nat → Nat × Int × List Int
  | indent, [], count => (count, indent, [])
  | indent, i :: is, count =>
    if column < indent then closing column i is (count + 1) else (count, indent, i :: is)

/-- Close the blocks deeper than a column. -/
def closeBlocks (column : Int) : Fetch Unit := do
  let s ← get
  if s.flowLevel == 0 then
    let (count, indent, outer) := closing column s.indent s.outer 0
    set { s with
      indent := indent
      outer := outer
      queue := s.queue ++ List.replicate count Token.blockEnd }

/-! ## One token -/

/-- Pass over blanks, comments and line breaks.  A tab passes only where no key
may start; in a block, a new line lets a key start. -/
def skipToToken : Nat → Fetch Unit
  | 0 => return ()
  | fuel + 1 => do
    let s ← get
    if s.cursor.column == 0 && s.cursor.rest.head? == some '\uFEFF' then scan (Scan.skip 1)
    let tabs := s.flowLevel != 0 || !s.keyAllowed
    let _ ← scan (Scan.takeWhile fun c => c == ' ' || (tabs && c == '\t'))
    scan Scan.skipComment
    if (← scan Scan.peek).any isBreakChar then
      let _ ← scan Scan.takeBreak
      unless ← inFlow do allowKey true
      skipToToken fuel

/-- A token of so many characters. -/
def indicator (width : Nat) (t : Token) : Fetch Unit := do
  scan (Scan.skip width)
  enqueue t

/-- A token outside all blocks. -/
def topLevel (a : Fetch Unit) : Fetch Unit := do
  closeBlocks (-1)
  removeKey
  allowKey false
  a

/-- The end of the stream. -/
def fetchEnd : Fetch Unit := do
  topLevel (enqueue .streamEnd)
  modify fun s => { s with ended := true }

/-- The start of a flow collection, which may itself be a key. -/
def fetchFlowStart (t : Token) : Fetch Unit := do
  saveKey
  modify fun s => { s with keys := none :: s.keys, flowLevel := s.flowLevel + 1, keyAllowed := true }
  indicator 1 t

/-- The end of a flow collection. -/
def fetchFlowEnd (t : Token) : Fetch Unit := do
  removeKey
  modify fun s =>
    if s.flowLevel == 0 then s
    else { s with keys := s.keys.tail, flowLevel := s.flowLevel - 1 }
  allowKey false
  indicator 1 t

/-- A comma. -/
def fetchFlowEntry : Fetch Unit := do
  removeKey
  allowKey true
  indicator 1 .flowEntry

/-- A dash, which opens a block of entries where it is deeper. -/
def fetchBlockEntry : Fetch Unit := do
  let s ← get
  if s.flowLevel == 0 then
    unless s.keyAllowed do throw .misplaced
    openBlock s.cursor.column none .blockSequenceStart
  removeKey
  allowKey true
  indicator 1 .blockEntry

/-- A question mark, which opens a block of keys where it is deeper. -/
def fetchKey : Fetch Unit := do
  let s ← get
  if s.flowLevel == 0 then
    unless s.keyAllowed do throw .misplaced
    openBlock s.cursor.column none .blockMappingStart
  removeKey
  allowKey (s.flowLevel == 0)
  indicator 1 .key

/-- A colon: what may have been a key is one, and opens a block of keys where it
is deeper. -/
def fetchValue : Fetch Unit := do
  match ← currentKey with
  | some k =>
    insertAt k.number .key
    openBlock k.column (some k.number) .blockMappingStart
    setKey none
    allowKey false
  | none =>
    let s ← get
    if s.flowLevel == 0 then
      unless s.keyAllowed do throw .misplaced
      openBlock s.cursor.column none .blockMappingStart
    allowKey (s.flowLevel == 0)
  indicator 1 .value

/-- A token that may start a key and after which none may start. -/
def fetchContent (a : Scan Token) : Fetch Unit := do
  saveKey
  allowKey false
  enqueue (← scan a)

/-- A block scalar. -/
def fetchBlockScalar (literal : Bool) : Fetch Unit := do
  removeKey
  allowKey true
  let text ← scan (takeBlock literal (← get).indent)
  enqueue (.scalar text (if literal then .literal else .folded))

/-- A plain scalar; a line break in the gap after it lets a key start. -/
def fetchPlain : Fetch Unit := do
  saveKey
  allowKey false
  let s ← get
  let (text, broken) ← scan (takePlain (s.flowLevel != 0) (s.indent + 1).toNat)
  enqueue (.scalar text .plain)
  if broken then allowKey true

/-- Characters that start a token other than a plain scalar, at least where a gap
follows. -/
def isIndicatorChar (c : Char) : Bool :=
  c ∈ ['-', '?', ':', ',', '[', ']', '{', '}', '#', '&', '*', '!', '|', '>', '\'', '"', '%', '@',
    '\x60']

/-- The next token, by its first characters. -/
def fetchByChar (c : Char) (next : Option Char) : Fetch Unit := do
  let s ← get
  let flow := s.flowLevel != 0
  if s.cursor.column == 0 && c == '%' then
    topLevel (do enqueue (← scan takeDirective))
  else if ← scan Scan.atDocumentMark then
    topLevel (indicator 3 (if c == '-' then .documentStart else .documentEnd))
  else if c == '[' then fetchFlowStart .flowSequenceStart
  else if c == '{' then fetchFlowStart .flowMappingStart
  else if c == ']' then fetchFlowEnd .flowSequenceEnd
  else if c == '}' then fetchFlowEnd .flowMappingEnd
  else if c == ',' then fetchFlowEntry
  else if c == '-' && isGapOrEnd next then fetchBlockEntry
  else if c == '?' && (flow || isGapOrEnd next) then fetchKey
  else if c == ':' && (flow || isGapOrEnd next) then fetchValue
  else if c == '*' then fetchContent (return .alias (← takeName))
  else if c == '&' then fetchContent (return .anchor (← takeName))
  else if c == '!' then fetchContent (takeTag flow)
  else if c == '|' && !flow then fetchBlockScalar true
  else if c == '>' && !flow then fetchBlockScalar false
  else if c == '\'' then fetchContent (return .scalar (← takeQuoted true) .singleQuoted)
  else if c == '"' then fetchContent (return .scalar (← takeQuoted false) .doubleQuoted)
  else if !(isBlankChar c || isIndicatorChar c)
      || (c == '-' && !next.any isBlankChar)
      || (!flow && (c == '?' || c == ':') && !isGapOrEnd next) then fetchPlain
  else throw .character

/-- Read tokens up to the next one, and it. -/
def fetchNext : Fetch Unit := do
  let s ← get
  if !s.started then
    set { s with started := true, queue := s.queue ++ [Token.streamStart] }
  else
    skipToToken (s.cursor.size + 1)
    forgetStale
    closeBlocks (← scan Scan.column)
    match ← scan Scan.peek with
    | none => fetchEnd
    | some c => fetchByChar c (← scan (Scan.peekAt 1))

/-- The first token read may still turn out to stand behind a key indicator. -/
def isFrontOpen (s : TokenStream) : Bool := s.keys.any fun k => k.any fun k => k.number == s.given

/-- Read until the first token can be given away. -/
def fill : Nat → Fetch Unit
  | 0 => return ()
  | fuel + 1 => do
    unless (← get).queue.isEmpty do forgetStale
    let s ← get
    if s.queue.isEmpty || isFrontOpen s then
      fetchNext
      fill fuel

/-- Give away the next token. -/
def next : Fetch (Option Token) := do
  let s ← get
  if s.ended && s.queue.isEmpty then return none
  fill (s.cursor.size + 8)
  let s ← get
  match s.queue with
  | [] => return none
  | t :: ts =>
    set { s with queue := ts, given := s.given + 1 }
    return some t

end Fetch

/-- The tokens of a stream, and the problem that ends them early. -/
structure Tokens where
  list : List Token
  problem : Option Problem := none
  deriving Repr, Inhabited

namespace Tokens

/-- Collect tokens, newest first in `done`. -/
def collect : Nat → List Token → TokenStream → Tokens
  | 0, done, _ => ⟨done.reverse, none⟩
  | fuel + 1, done, s =>
    match Fetch.next.run s with
    | .error problem => ⟨done.reverse, some problem⟩
    | .ok (none, _) => ⟨done.reverse, none⟩
    | .ok (some t, s) => collect fuel (t :: done) s

/-- The tokens of some characters.  No character gives more than four. -/
def ofChars (cs : List Char) : Tokens :=
  collect (4 * cs.length + 16) [] { cursor := .start cs }

end Tokens

end PolledTerminal.Yaml
