import PolledTerminal.Text.Utf8
import PolledTerminal.Number.Shortest
set_option autoImplicit false

/-!
# JSON documents

Snapshots and test results leave the program as JSON.  An object is a list of
members in the order in which they are written; a member's name is written once.
-/

namespace PolledTerminal

/-- A JSON document. -/
inductive Json where
  | null
  | bool (b : Bool)
  | int (n : Int)
  | real (x : Binary64)
  | str (s : String)
  | arr (items : List Json)
  | obj (members : List (String × Json))
  deriving Repr, Inhabited

namespace Json

/-- A natural number. -/
def nat (n : Nat) : Json := .int n

/-- An octet. -/
def byte (b : UInt8) : Json := .int b.toNat

/-- A value that may be absent. -/
def opt {α : Type} (f : α → Json) : Option α → Json
  | none => .null
  | some a => f a

/-- One character inside a JSON string. -/
def encodeChar (c : Char) : List Char :=
  if c = '"' then ['\\', '"']
  else if c = '\\' then ['\\', '\\']
  else if c = '\n' then ['\\', 'n']
  else if c = '\r' then ['\\', 'r']
  else if c = '\t' then ['\\', 't']
  else if c = '\x08' then ['\\', 'b']
  else if c = '\x0c' then ['\\', 'f']
  else if c.toNat < 0x20 then
    ['\\', 'u', '0', '0', Text.Hex.digit false (c.toNat / 16), Text.Hex.digit false (c.toNat % 16)]
  else [c]

/-- A string in quotes. -/
def quote (s : String) : String :=
  String.ofList ('"' :: s.toList.flatMap encodeChar ++ ['"'])

/-- The text of a number, of `null` or of a truth value; a number that is not
finite has no JSON form and is written `null`. -/
def scalarText : Json → String
  | .bool true => "true"
  | .bool false => "false"
  | .int n => toString n
  | .real x => if x.isFinite then x.documentText else "null"
  | .str s => quote s
  | _ => "null"

/-! ## Written forms

Each writer appends to the text before it, so a long document is written in one
pass. -/

mutual

/-- Append the document, on one line. -/
def compactAfter (out : String) : Json → String
  | .arr items => compactItems (out ++ "[") items ++ "]"
  | .obj members => compactMembers (out ++ "\x7b") members ++ "\x7d"
  | j => out ++ scalarText j

/-- Append items with commas between them. -/
def compactItems (out : String) : List Json → String
  | [] => out
  | [j] => compactAfter out j
  | j :: js => compactItems (compactAfter out j ++ ",") js

/-- Append members with commas between them. -/
def compactMembers (out : String) : List (String × Json) → String
  | [] => out
  | [(k, j)] => compactAfter (out ++ quote k ++ ":") j
  | (k, j) :: ms => compactMembers (compactAfter (out ++ quote k ++ ":") j ++ ",") ms

end

/-- The document on one line. -/
def compact (j : Json) : String := compactAfter "" j

/-- A new line, indented by `depth` steps of two spaces. -/
def newline (depth : Nat) : String := String.ofList ('\n' :: List.replicate (2 * depth) ' ')

mutual

/-- Append the document, one item or member a line. -/
def prettyAfter (depth : Nat) (out : String) : Json → String
  | .arr [] => out ++ "[]"
  | .arr (j :: js) => prettyItems (depth + 1) (out ++ "[") (j :: js) ++ newline depth ++ "]"
  | .obj [] => out ++ "\x7b\x7d"
  | .obj (m :: ms) => prettyMembers (depth + 1) (out ++ "\x7b") (m :: ms) ++ newline depth ++ "\x7d"
  | j => out ++ scalarText j

/-- Append items, each on its line. -/
def prettyItems (depth : Nat) (out : String) : List Json → String
  | [] => out
  | [j] => prettyAfter depth (out ++ newline depth) j
  | j :: js => prettyItems depth (prettyAfter depth (out ++ newline depth) j ++ ",") js

/-- Append members, each on its line. -/
def prettyMembers (depth : Nat) (out : String) : List (String × Json) → String
  | [] => out
  | [(k, j)] => prettyAfter depth (out ++ newline depth ++ quote k ++ ": ") j
  | (k, j) :: ms =>
    prettyMembers depth (prettyAfter depth (out ++ newline depth ++ quote k ++ ": ") j ++ ",") ms

end

/-- The document, indented. -/
def pretty (j : Json) : String := prettyAfter 0 "" j

/-! ## Objects -/

/-- Put a member into a list of members: the last one written under a name
stays, in the place of the first. -/
def putMember (name : String) (value : Json) : List (String × Json) → List (String × Json)
  | [] => [(name, value)]
  | (k, v) :: ms => if k = name then (name, value) :: ms else (k, v) :: putMember name value ms

/-- The object of a list of members in which a name may come up again. -/
def ofMembers (members : List (String × Json)) : Json :=
  .obj (members.foldl (fun done m => putMember m.1 m.2 done) [])

end Json

end PolledTerminal
