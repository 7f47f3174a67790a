import PolledTerminal.Yaml.Source
set_option autoImplicit false

/-!
# YAML: the text of scalars

The three ways to write a scalar: plain, between quotes, and as a block.  In
plain and quoted text a gap that holds a line break is folded: one break becomes
a space, and of more than one the first is dropped.  Text is gathered newest
character first.
-/

namespace PolledTerminal.Yaml

open Scan

/-- A gap inside a scalar: the blanks before its first line break, or that break
and those after it. -/
structure Gap where
  blanks : List Char := []
  /-- a line break has been passed, or was escaped -/
  broken : Bool := false
  first : List Char := []
  /-- the breaks after the first, newest first -/
  later : List Char := []

/-- Append what the gap stands for to the text before it, newest first. -/
def Gap.fold (g : Gap) (text : List Char) : List Char :=
  if g.broken then
    if g.first = ['\n'] then
      if g.later.isEmpty then ' ' :: text else g.later ++ text
    else g.later ++ (g.first.reverse ++ text)
  else g.blanks ++ text

/-- Pass over blanks and line breaks.  In a plain scalar, tabs may not indent a
further line less than `indent`; `none` allows tabs everywhere. -/
def takeGap (indent : Option Nat) : Nat → Gap → Scan Gap
  | 0, g => return g
  | fuel + 1, g => do
    match ← peek with
    | none => return g
    | some c =>
      if isBlankChar c then
        if g.broken && c == '\t' && indent.any ((← column) < ·) then throw .tab
        skip 1
        takeGap indent fuel (if g.broken then g else { g with blanks := c :: g.blanks })
      else if isBreakChar c then
        let br ← takeBreak
        takeGap indent fuel (if g.broken then { g with later := br ++ g.later }
          else { blanks := [], broken := true, first := br })
      else return g

/-! ## Plain scalars -/

/-- A character that ends a plain scalar inside a flow collection. -/
def isFlowIndicator (c : Char) : Bool := c ∈ [',', '[', ']', '{', '}']

/-- Pass over the characters of a plain scalar up to a gap or an indicator; the
gap before them counts once a character follows it. -/
def takePlainWord (inFlow : Bool) : Nat → Gap → List Char → Scan (Gap × List Char)
  | 0, g, text => return (g, text)
  | fuel + 1, g, text => do
    match ← peek with
    | none => return (g, text)
    | some c =>
      if isBlankChar c || isBreakChar c then return (g, text)
      let next ← peekAt 1
      if inFlow && c == ':' && next.any (fun d => d == '?' || isFlowIndicator d) then throw .character
      if (c == ':' && isGapOrEnd next) || (inFlow && isFlowIndicator c) then return (g, text)
      skip 1
      takePlainWord inFlow fuel {} (c :: g.fold text)

/-- A plain scalar whose further lines are indented by `indent` at least, and
whether its last gap held a line break. -/
def takePlainFrom (inFlow : Bool) (indent : Nat) : Nat → Gap → List Char → Scan (List Char × Bool)
  | 0, g, text => return (text, g.broken)
  | fuel + 1, g, text => do
    if ← atDocumentMark then return (text, g.broken)
    if ← looksAt '#' then return (text, g.broken)
    let (g, text) ← takePlainWord inFlow (← bound) g text
    let next ← peek
    if next.isNone || !isGapOrEnd next then return (text, g.broken)
    let g ← takeGap (some indent) (← bound) g
    if !inFlow && (← column) < indent then return (text, g.broken)
    takePlainFrom inFlow indent fuel g text

/-- A plain scalar. -/
def takePlain (inFlow : Bool) (indent : Nat) : Scan (String × Bool) := do
  let (text, broken) ← takePlainFrom inFlow indent (← bound) {} []
  return (String.ofList text.reverse, broken)

/-! ## Quoted scalars -/

/-- The character that a one-letter escape stands for. -/
def escape? (c : Char) : Option Char :=
  match c with
  | '0' => some '\x00'
  | 'a' => some '\x07'
  | 'b' => some '\x08'
  | 't' => some '\t'
  | '\t' => some '\t'
  | 'n' => some '\n'
  | 'v' => some '\x0b'
  | 'f' => some '\x0c'
  | 'r' => some '\r'
  | 'e' => some '\x1b'
  | ' ' => some ' '
  | '"' => some '"'
  | '/' => some '/'
  | '\\' => some '\\'
  | 'N' => some '\u0085'
  | '_' => some '\u00a0'
  | 'L' => some '\u2028'
  | 'P' => some '\u2029'
  | _ => none

/-- How many hexadecimal digits follow a numeric escape. -/
def escapeWidth? (c : Char) : Option Nat :=
  match c with
  | 'x' => some 2
  | 'u' => some 4
  | 'U' => some 8
  | _ => none

/-- The number of so many hexadecimal digits. -/
def takeHex : Nat → Nat → Scan Nat
  | 0, value => return value
  | n + 1, value => do
    match (← peek).bind Text.Hex.value? with
    | some d => do
      skip 1
      takeHex n (value * 16 + d)
    | none => throw .character

/-- The character after a backslash that has been passed. -/
def takeEscape : Scan Char := do
  match ← peek with
  | none => throw .character
  | some c =>
    skip 1
    match escape? c, escapeWidth? c with
    | some d, _ => return d
    | none, some width =>
      let n ← takeHex width 0
      if n.isValidChar then return Char.ofNat n
      else throw .character
    | none, none => throw .character

/-- Pass over quoted characters up to a gap, the end quote, or an escaped line
break; the latter starts a gap. -/
def takeQuotedWord (single : Bool) : Nat → List Char → Scan (Gap × List Char)
  | 0, text => return ({}, text)
  | fuel + 1, text => do
    match ← peek with
    | none => return ({}, text)
    | some c =>
      if isBlankChar c || isBreakChar c then return ({}, text)
      if single then
        if c == '\'' then
          if (← peekAt 1) == some '\'' then
            skip 2
            takeQuotedWord single fuel ('\'' :: text)
          else return ({}, text)
        else
          skip 1
          takeQuotedWord single fuel (c :: text)
      else if c == '"' then return ({}, text)
      else if c == '\\' then
        skip 1
        if (← peek).any isBreakChar then
          let _ ← takeBreak
          return ({ broken := true }, text)
        else
          let d ← takeEscape
          takeQuotedWord single fuel (d :: text)
      else
        skip 1
        takeQuotedWord single fuel (c :: text)

/-- A quoted scalar after its opening quote. -/
def takeQuotedFrom (single : Bool) : Nat → List Char → Scan (List Char)
  | 0, _ => throw .endOfStream
  | fuel + 1, text => do
    if ← atDocumentMark then throw .unexpectedToken
    if (← peek).isNone then throw .endOfStream
    let (g, text) ← takeQuotedWord single (← bound) text
    if ← looksAt (if single then '\'' else '"') then
      skip 1
      return text
    let g ← takeGap none (← bound) g
    takeQuotedFrom single fuel (g.fold text)

/-- A quoted scalar. -/
def takeQuoted (single : Bool) : Scan String := do
  skip 1
  let text ← takeQuotedFrom single (← bound) []
  return String.ofList text.reverse

/-! ## Block scalars -/

/-- What becomes of the line breaks at the end of a block. -/
inductive Chomping where
  | strip
  | clip
  | keep
  deriving DecidableEq, Repr, Inhabited

/-- A chomping indicator. -/
def takeChomping : Scan (Option Chomping) := do
  match ← peek with
  | some '+' => do skip 1; return some .keep
  | some '-' => do skip 1; return some .strip
  | _ => return none

/-- An indentation indicator. -/
def takeIncrement : Scan (Option Nat) := do
  match ← peek with
  | some c =>
    if isDigitChar c then
      if c == '0' then throw .character
      skip 1
      return some (c.toNat - 0x30)
    else return none
  | none => return none

/-- The two indicators of a block, in either order. -/
def takeBlockHeader : Scan (Chomping × Option Nat) := do
  match ← takeChomping with
  | some chomping => return (chomping, ← takeIncrement)
  | none =>
    match ← takeIncrement with
    | some increment => return ((← takeChomping).getD .clip, some increment)
    | none => return (.clip, none)

/-- Pass over indentation and empty lines; gives the line breaks, newest first,
and the widest indentation seen.  Without a fixed `indent` all spaces indent. -/
def takeBlockBreaks (indent : Option Nat) : Nat → Nat → List Char → Scan (List Char × Nat)
  | 0, widest, breaks => return (breaks, widest)
  | fuel + 1, widest, breaks => do
    let here ← column
    let spaces := (← get).rest.takeWhile (· == ' ')
    let count := match indent with
      | none => spaces.length
      | some n => min spaces.length (n - here)
    skip count
    let here ← column
    let widest := max widest here
    if indent.all (here < ·) && (← looksAt '\t') then throw .tab
    if (← peek).any isBreakChar then
      let br ← takeBreak
      takeBlockBreaks indent fuel widest (br ++ breaks)
    else return (breaks, widest)

/-- The lines of a block, each indented by `indent`.  `first` is the break before
the line, `later` the empty lines after that break, newest first; `spaced` says
that the line before starts with a blank. -/
def takeBlockLines (literal : Bool) (indent : Nat) :
    Nat → List Char → List Char → List Char → Bool → Scan (List Char × List Char × List Char)
  | 0, text, first, later, _ => return (text, first, later)
  | fuel + 1, text, first, later, spaced => do
    let next ← peek
    if (← column) != indent || next.isNone then return (text, first, later)
    let blank := next.any isBlankChar
    let text :=
      if !literal && first == ['\n'] && !spaced && !blank then
        if later.isEmpty then ' ' :: text else text
      else first.reverse ++ text
    let text := later ++ text
    let line ← takeWhile fun c => !isBreakChar c
    let first ← takeBreak
    let (later, _) ← takeBlockBreaks (some indent) (← bound) 0 []
    takeBlockLines literal indent fuel (line.reverse ++ text) first later blank

/-- A block scalar inside a block that is indented by `parent`. -/
def takeBlock (literal : Bool) (parent : Int) : Scan String := do
  skip 1
  let (chomping, increment) ← takeBlockHeader
  skipBlanks
  skipComment
  unless isBreakOrEnd (← peek) do throw .character
  let _ ← takeBreak
  let fixed := increment.map fun n => (max parent 0).toNat + n
  let (later, widest) ← takeBlockBreaks fixed (← bound) 0 []
  let indent := fixed.getD (max widest (max (parent + 1).toNat 1))
  let (text, first, later) ← takeBlockLines literal indent (← bound) [] [] later false
  let text := if chomping = .strip then text else first.reverse ++ text
  let text := if chomping = .keep then later ++ text else text
  return String.ofList text.reverse

end PolledTerminal.Yaml
