import PolledTerminal.Yaml.ScalarText
set_option autoImplicit false

/-!
# YAML: tokens

The words of a stream and how a single one is read.  Names and tags are read
here; the tag of a node is kept as octets, because escapes in it may spell any.
-/

namespace PolledTerminal.Yaml

open Scan
open PolledTerminal.Text (Bytes)

/-- How a scalar is written. -/
inductive ScalarStyle where
  | plain
  | singleQuoted
  | doubleQuoted
  | literal
  | folded
  deriving DecidableEq, Repr, Inhabited

/-- A word of a stream. -/
inductive Token where
  | streamStart
  | streamEnd
  | versionDirective (major minor : Nat)
  | tagDirective (handle : String) (start : Bytes)
  | documentStart
  | documentEnd
  | blockSequenceStart
  | blockMappingStart
  | blockEnd
  | flowSequenceStart
  | flowSequenceEnd
  | flowMappingStart
  | flowMappingEnd
  | blockEntry
  | flowEntry
  | key
  | value
  | alias (name : String)
  | anchor (name : String)
  | tag (handle : String) (suffix : Bytes)
  | scalar (text : String) (style : ScalarStyle)
  deriving DecidableEq, Repr, Inhabited

/-! ## Names -/

/-- The name after `&` or `*`, followed by a gap or an indicator. -/
def takeName : Scan String := do
  skip 1
  let name ← takeWhile isWordChar
  let next ← peek
  unless isGapOrEnd next || next.any (· ∈ ['?', ':', ',', ']', '}', '%', '@', '\x60']) do
    throw .character
  if name.isEmpty then throw .character
  return String.ofList name

/-! ## Tags -/

/-- How many octets the character with this first octet has; zero for none. -/
def octetWidth (b : Nat) : Nat :=
  if b < 0x80 then 1
  else if b / 0x20 = 6 then 2
  else if b / 0x10 = 14 then 3
  else if b / 8 = 30 then 4
  else 0

/-- One octet written as `%` and two hexadecimal digits. -/
def takeEscapedOctet : Scan Nat := do
  unless ← looksAt '%' do throw .character
  skip 1
  takeHex 2 0

/-- So many continuation octets, each escaped. -/
def takeContinuation : Nat → Bytes → Scan Bytes
  | 0, octets => return octets
  | n + 1, octets => do
    let b ← takeEscapedOctet
    if b / 0x40 ≠ 2 then throw .character
    takeContinuation n (UInt8.ofNat b :: octets)

/-- The escaped octets of one character, newest first. -/
def takeEscapedChar (octets : Bytes) : Scan Bytes := do
  let b ← takeEscapedOctet
  let width := octetWidth b
  if width = 0 then throw .character
  takeContinuation (width - 1) (UInt8.ofNat b :: octets)

/-- A character of a tag; between `<` and `>` also the flow indicators that an
address may hold. -/
def isTagChar (verbatim : Bool) (c : Char) : Bool :=
  isWordChar c
    || c ∈ [';', '/', '?', ':', '@', '&', '=', '+', '$', '.', '%', '!', '~', '*', '\'', '(', ')']
    || (verbatim && c ∈ [',', '[', ']'])

/-- The characters of a tag as octets, newest first. -/
def takeTagOctets (verbatim : Bool) : Nat → Bytes → Scan Bytes
  | 0, octets => return octets
  | fuel + 1, octets => do
    match ← peek with
    | none => return octets
    | some c =>
      if !isTagChar verbatim c then return octets
      else if c == '%' then takeTagOctets verbatim fuel (← takeEscapedChar octets)
      else
        skip 1
        takeTagOctets verbatim fuel (UInt8.ofNat c.toNat :: octets)

/-- The rest of a tag after `head`, whose leading `!` is not kept; together they
are not empty. -/
def takeTagRest (verbatim : Bool) (head : List Char) : Scan Bytes := do
  let kept : Bytes := (head.drop 1).map fun c => UInt8.ofNat c.toNat
  let octets ← takeTagOctets verbatim (← bound) kept.reverse
  if head.isEmpty && octets.isEmpty then throw .character
  return octets.reverse

/-- `!`, word characters, and `!` again if it is there. -/
def takeHandle : Scan (List Char) := do
  unless ← looksAt '!' do throw .character
  skip 1
  let word ← takeWhile isWordChar
  if ← looksAt '!' then
    skip 1
    return '!' :: word ++ ['!']
  else return '!' :: word

/-- The handle and suffix of a node's tag.  Without a handle of its own a tag has
the handle `!`; a verbatim tag, and the lone `!`, have the empty handle. -/
def takeTagParts : Scan (String × Bytes) := do
  if (← peekAt 1) == some '<' then
    skip 2
    let suffix ← takeTagRest true []
    unless ← looksAt '>' do throw .character
    skip 1
    return ("", suffix)
  else
    let handle ← takeHandle
    if 2 ≤ handle.length && handle.getLast? == some '!' then
      return (String.ofList handle, ← takeTagRest false [])
    else
      let suffix ← takeTagRest false handle
      if suffix.isEmpty then return ("", [0x21]) else return ("!", suffix)

/-- A node's tag, with a gap after it, or a comma inside a flow collection. -/
def takeTag (inFlow : Bool) : Scan Token := do
  let (handle, suffix) ← takeTagParts
  let next ← peek
  unless (inFlow && next == some ',') || isGapOrEnd next do throw .character
  return .tag handle suffix

/-! ## Directives -/

/-- A number of at most nine digits. -/
def takeVersionNumber : Scan Nat := do
  let ds ← takeWhile isDigitChar
  if ds.isEmpty || 9 < ds.length then throw .directive
  return ds.foldl (fun n c => n * 10 + (c.toNat - 0x30)) 0

/-- The version after `%YAML`. -/
def takeVersion : Scan Token := do
  skipBlanks
  let major ← takeVersionNumber
  unless ← looksAt '.' do throw .directive
  skip 1
  return .versionDirective major (← takeVersionNumber)

/-- The handle and what it stands for after `%TAG`. -/
def takeTagDirective : Scan Token := do
  skipBlanks
  let handle ← takeHandle
  unless handle = ['!'] || (2 ≤ handle.length && handle.getLast? == some '!') do throw .directive
  unless (← peek).any isBlankChar do throw .directive
  skipBlanks
  let start ← takeTagRest true []
  unless isGapOrEnd (← peek) do throw .directive
  return .tagDirective (String.ofList handle) start

/-- A directive and the line it stands on. -/
def takeDirective : Scan Token := do
  skip 1
  let name ← takeWhile isWordChar
  if name.isEmpty || !isGapOrEnd (← peek) then throw .directive
  let token ← match String.ofList name with
    | "YAML" => takeVersion
    | "TAG" => takeTagDirective
    | _ => throw .directive
  skipBlanks
  skipComment
  unless isBreakOrEnd (← peek) do throw .directive
  let _ ← takeBreak
  return token

end PolledTerminal.Yaml
