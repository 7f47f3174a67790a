import PolledTerminal.Yaml.Value
import PolledTerminal.Text.Quoted
set_option autoImplicit false

/-!
# YAML: why a document is not what was asked for

A document may be in order and still not have the asked shape.  A mismatch says
what was found and what was wanted, and the path says where.
-/

namespace PolledTerminal.Yaml

/-! ## Places -/

/-- One step into a document. -/
inductive PathStep where
  | key (name : String)
  /-- below a key that is not a scalar -/
  | unnamed
  | index (i : Nat)
  deriving DecidableEq, Repr, Inhabited

/-- A place in a document, innermost step first; the root is empty. -/
abbrev Path : Type := List PathStep

/-- The text of a path, such as `peripherals[0].config`. -/
def Path.text : Path → String
  | [] => ""
  | .index i :: outer => Path.text outer ++ "[" ++ toString i ++ "]"
  | .key name :: [] => name
  | .key name :: outer => Path.text outer ++ "." ++ name
  | .unnamed :: [] => "?"
  | .unnamed :: outer => Path.text outer ++ ".?"

/-! ## Mismatches -/

/-- What stood in the document. -/
inductive Found where
  | scalar (t : Typed)
  | sequence
  | mapping
  deriving Repr, Inhabited

/-- What stood in the document, in words. -/
def Found.describe : Found → String
  | .scalar t => t.describe
  | .sequence => "sequence"
  | .mapping => "map"

/-- Why what stands at a place is not what was asked for. -/
inductive Mismatch where
  /-- a value of another kind -/
  | kind (found : Found) (wanted : String)
  /-- a value of the right kind that cannot be used -/
  | value (found : Typed) (wanted : String)
  | missingField (name : String)
  | repeatedField (name : String)
  | unknownField (name : String) (known : List String)
  | unknownVariant (name : String) (known : List String)
  | repeatedKey (key : Value)
  /-- a tag of the document's own where none is looked at -/
  | taggedContent
  /-- no form of this choice fits -/
  | noForm (choice : String)
  deriving Repr, Inhabited

namespace Mismatch

/-- A name between ticks. -/
def ticked (name : String) : String := "\x60" ++ name ++ "\x60"

/-- The names that were possible. -/
def alternatives : List String → String
  | [] => "nothing"
  | [a] => ticked a
  | [a, b] => ticked a ++ " or " ++ ticked b
  | names => "one of " ++ ", ".intercalate (names.map ticked)

/-- Which key came up again. -/
def describeKey : Value → String
  | .null => "with null key"
  | .bool b => "with key " ++ ticked (toString b)
  | .natural n => "with key " ++ toString n
  | .negative n => "with key " ++ toString (-(n : Int))
  | .real x => "with key " ++ x.documentText
  | .text s => "with key " ++ Text.Quoted.encode s
  | .sequence _ | .mapping _ | .tagged _ _ => "in YAML map"

/-- The sentence that tells the mismatch. -/
def message : Mismatch → String
  | .kind found wanted => "invalid type: " ++ found.describe ++ ", expected " ++ wanted
  | .value found wanted => "invalid value: " ++ found.describe ++ ", expected " ++ wanted
  | .missingField name => "missing field " ++ ticked name
  | .repeatedField name => "duplicate field " ++ ticked name
  | .unknownField name known =>
    "unknown field " ++ ticked name ++ ", expected " ++ alternatives known
  | .unknownVariant name known =>
    "unknown variant " ++ ticked name ++ ", expected " ++ alternatives known
  | .repeatedKey key => "duplicate entry " ++ describeKey key
  | .taggedContent => "untagged and internally tagged enums do not support enum input"
  | .noForm choice => "data did not match any variant of untagged enum " ++ choice

end Mismatch

/-- Why a document could not be read. -/
inductive ReadFault where
  /-- the document is not in order -/
  | problem (p : Problem)
  /-- the document is in order and not what was asked for -/
  | mismatch (path : Path) (m : Mismatch)
  deriving Repr, Inhabited

/-- The sentence that tells the fault, with the place in front. -/
def ReadFault.message : ReadFault → String
  | .problem p => p.message
  | .mismatch [] m => m.message
  | .mismatch path m => path.text ++ ": " ++ m.message

end PolledTerminal.Yaml
