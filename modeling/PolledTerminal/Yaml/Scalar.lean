import PolledTerminal.Yaml.Node
import PolledTerminal.Number.Shortest
import PolledTerminal.Text.Quoted
set_option autoImplicit false

/-!
# YAML: what a scalar is

A plain scalar is null, a truth value, an integer, a decimal number, or text,
and the first of these that its spelling allows.  Scalars written in another way
are text.  A tag of the core schema asks for one of the kinds; a tag of the
document's own leaves the kind to the spelling.
-/

namespace PolledTerminal.Yaml

open PolledTerminal.Text (Bytes)

/-- A scalar as a value. -/
inductive Typed where
  | null
  | bool (b : Bool)
  /-- an integer without a minus sign -/
  | natural (n : Nat)
  /-- a minus sign and the number behind it -/
  | negative (n : Nat)
  | real (x : Binary64)
  | text (s : String)
  deriving Repr, Inhabited

/-! ## Tags -/

/-- A tag of the core schema. -/
def coreTag (name : String) : Bytes := Text.Utf8.encode ("tag:yaml.org,2002:" ++ name)

/-- The name of a tag of the document's own, which starts with `!`. -/
def localTag? : Option Bytes → Option String
  | some (0x21 :: rest) =>
    let name : Bytes := if rest.isEmpty then [0x21] else rest
    (Text.Utf8.decode? name).map String.ofList
  | _ => none

/-! ## Spellings -/

/-- A spelling of null; the empty scalar is null as well, but is not spelled. -/
def isNullText (s : String) : Bool := s ∈ ["null", "Null", "NULL", "~"]

/-- A spelling of a truth value. -/
def boolOfText? (s : String) : Option Bool :=
  if s ∈ ["true", "True", "TRUE"] then some true
  else if s ∈ ["false", "False", "FALSE"] then some false
  else none

/-- Digits after a leading zero, behind an optional sign: text, not a number. -/
def isZeroLed (cs : List Char) : Bool :=
  let digits := match cs with
    | '-' :: rest => rest
    | '+' :: rest => rest
    | cs => cs
  match digits with
  | '0' :: c :: rest => (c :: rest).all isDigitChar
  | _ => false

/-- The number of digits in a base, at least one. -/
def ofDigits? (base : Nat) (cs : List Char) : Option Nat :=
  if cs.isEmpty then none
  else cs.foldl (fun n c => do
    let n ← n
    let d ← Text.Hex.value? c
    if d < base then some (n * base + d) else none) (some 0)

/-- Digits behind `0x`, `0o` or `0b`, or decimal digits. -/
def magnitude? (cs : List Char) : Option Nat :=
  match cs with
  | '0' :: 'x' :: rest => ofDigits? 16 rest
  | '0' :: 'o' :: rest => ofDigits? 8 rest
  | '0' :: 'b' :: rest => ofDigits? 2 rest
  | cs => if isZeroLed cs then none else ofDigits? 10 cs

/-- A number without a minus sign. -/
def unsignedOfText? : List Char → Option Nat
  | '+' :: cs => magnitude? cs
  | cs => magnitude? cs

/-- A number behind a minus sign. -/
def negativeOfText? : List Char → Option Nat
  | '-' :: cs => magnitude? cs
  | _ => none

/-- An integer that 128 bits hold. -/
def intOfText? (cs : List Char) : Option Typed :=
  match unsignedOfText? cs with
  | some n => if n < Nat.pow 2 128 then some (.natural n) else none
  | none =>
    match negativeOfText? cs with
    | some n => if n ≤ Nat.pow 2 127 then some (.negative n) else none
    | none => none

/-- A decimal number, an infinity, or not a number. -/
def realOfText? (cs : List Char) : Option Binary64 :=
  let unsigned := match cs with
    | '+' :: rest => rest
    | cs => cs
  if String.ofList unsigned ∈ [".inf", ".Inf", ".INF"] then some (.infinite false)
  else if String.ofList cs ∈ ["-.inf", "-.Inf", "-.INF"] then some (.infinite true)
  else if String.ofList cs ∈ [".nan", ".NaN", ".NAN"] then some .nan
  else
    let signs := match cs with
      | '+' :: '+' :: _ => true
      | '+' :: '-' :: _ => true
      | _ => false
    if signs then none else (Binary64.ofText? cs).filter Binary64.isFinite

/-- The value of a plain spelling. -/
def typedOfText (s : String) : Typed :=
  let cs := s.toList
  if cs.isEmpty || isNullText s then .null
  else match boolOfText? s with
  | some b => .bool b
  | none =>
    match intOfText? cs with
    | some n => n
    | none =>
      if isZeroLed cs then .text s
      else match realOfText? cs with
      | some x => .real x
      | none => .text s

/-! ## Values -/

/-- A scalar whose tag asks for another kind than its spelling has. -/
structure WrongKind where
  text : String
  /-- the kind that the tag asks for -/
  wanted : String
  deriving Repr, Inhabited

/-- The value of a scalar.  When the tag has already been used for something,
`tagUsed`, only the way of writing counts. -/
def typedOfScalar (tag : Option Bytes) (text : String) (style : ScalarStyle) (tagUsed : Bool) :
    Except WrongKind Typed :=
  let bySpelling : Typed := if style = .plain then typedOfText text else .text text
  match tag with
  | none => .ok bySpelling
  | some t =>
    if tagUsed then .ok bySpelling
    else if t = coreTag "bool" then
      match boolOfText? text with
      | some b => .ok (.bool b)
      | none => .error ⟨text, "a boolean"⟩
    else if t = coreTag "int" then
      match intOfText? text.toList with
      | some n => .ok n
      | none => .error ⟨text, "an integer"⟩
    else if t = coreTag "float" then
      match realOfText? text.toList with
      | some x => .ok (.real x)
      | none => .error ⟨text, "a float"⟩
    else if t = coreTag "null" then
      if isNullText text then .ok .null else .error ⟨text, "null"⟩
    else if t.head? = some 0x21 then .ok bySpelling
    else .ok (.text text)

/-- The value is an integer that 64 bits do not hold. -/
def Typed.isWide : Typed → Bool
  | .natural n => Nat.pow 2 64 ≤ n
  | .negative n => Nat.pow 2 63 < n
  | _ => false

/-- An integer in ticks, and how many bits hold it where 64 do not. -/
def describeInteger (digits : String) (isWide : Bool) (width : String) : String :=
  "integer \x60" ++ digits ++ "\x60" ++ (if isWide then " as " ++ width else "")

/-- The value as messages tell it. -/
def Typed.describe : Typed → String
  | .null => "unit value"
  | .bool b => "boolean \x60" ++ toString b ++ "\x60"
  | .natural n => describeInteger (toString n) (Typed.natural n).isWide "u128"
  | .negative n => describeInteger (toString (-(n : Int))) (Typed.negative n).isWide "i128"
  | .real x => "floating point \x60" ++ x.messageText ++ "\x60"
  | .text s => "string " ++ Text.Quoted.encode s

end PolledTerminal.Yaml
