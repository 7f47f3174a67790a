import PolledTerminal.Yaml.Reading
set_option autoImplicit false

/-!
# YAML: records and variants

A record is read from a mapping whose keys name its fields.  Fields are read in
the order in which they stand; a field that comes up again is refused, and a
field that is not known is passed over or, where the record is strict, refused.
What is missing shows when the mapping has been read.
-/

namespace PolledTerminal.Yaml

/-! ## Passing over -/

namespace Site

open Reading

mutual

/-- Nothing in the node is cut off. -/
def isWhole : Node → Bool
  | .scalar _ _ _ => true
  | .alias _ => true
  | .cut => false
  | .sequence _ nodes => areWhole nodes
  | .mapping _ pairs => pairsAreWhole pairs

/-- Nothing in the nodes is cut off. -/
def areWhole : List Node → Bool
  | [] => true
  | n :: ns => isWhole n && areWhole ns

/-- Nothing in the pairs is cut off. -/
def pairsAreWhole : List (Node × Node) → Bool
  | [] => true
  | (k, v) :: ps => isWhole k && isWhole v && pairsAreWhole ps

end

/-- Pass over a value without looking at what it is. -/
def ignore (p : Site) : Reading Unit :=
  if isWhole p.node then return () else breakOff

end Site

/-! ## Records -/

/-- A field of a record of type `σ` that is filled while it is read. -/
structure Field (σ : Type) where
  name : String
  /-- the field has been read -/
  isRead : σ → Bool
  read : Site → σ → Reading σ

/-- A field that `read` reads and `set` puts into the record. -/
def Field.of {σ α : Type} (name : String) (get : σ → Option α) (set : σ → α → σ)
    (read : Site → Reading α) : Field σ where
  name := name
  isRead s := (get s).isSome
  read p s := set s <$> read p

/-- The form of a record: what messages call it, its fields, and whether other
fields are refused. -/
structure RecordForm (σ : Type) where
  wanted : String
  fields : List (Field σ)
  strict : Bool := false

namespace RecordForm

open Reading

variable {σ α : Type}

/-- Read one field. -/
def readField (form : RecordForm σ) (path : Path) (k v : Site) (s : σ) : Reading σ := do
  let name ← k.textAs "field identifier"
  match form.fields.find? fun f => f.name = name with
  | some f => if f.isRead s then refuse path (.repeatedField name) else f.read v s
  | none =>
    if form.strict then refuse path (.unknownField name (form.fields.map Field.name))
    else do
      v.ignore
      return s

/-- Read fields in the order of the text. -/
def readFields (form : RecordForm σ) (path : Path) : List (Site × Site) → σ → Reading σ
  | [], s => return s
  | (k, v) :: rest, s => do
    let s ← form.readField path k v s
    form.readFields path rest s

/-- Read the record, starting from no fields. -/
def read (form : RecordForm σ) (start : σ) (p : Site) : Reading σ := do
  form.readFields p.path (← p.pairs form.wanted) start

end RecordForm

/-- A field that must have been there. -/
def Site.required {α : Type} (p : Site) (name : String) : Option α → Reading α
  | some a => return a
  | none => Reading.refuse p.path (.missingField name)

/-! ## Variants -/

namespace Site

open Reading

variable {α : Type}

/-- The variant of a name. -/
def variantNamed (variants : List (String × α)) (path : Path) (name : String) : Reading α :=
  match variants.find? fun v => v.1 = name with
  | some v => return v.2
  | none => refuse path (.unknownVariant name (variants.map Prod.fst))

/-- The node is a plain scalar that is empty or null. -/
def isUnit : Node → Bool
  | .scalar _ text .plain => text.isEmpty || isNullText text
  | _ => false

/-- One of some variants without content: its name, or a tag of its name on
nothing.  An unknown tag is told of the collection that holds it. -/
def variant (variants : List (String × α)) (p : Site) : Reading α := do
  let p ← p.follow
  match localTag? (tagOf p.node), p.node with
  | some name, node =>
    let a ← variantNamed variants p.path.tail name
    if isUnit node then return a else p.refuseKind "unit"
  | none, .scalar _ text _ => variantNamed variants p.path text
  | none, .sequence _ _ => refuse p.path (.kind .sequence "a YAML tag starting with '!'")
  | none, _ => refuse p.path (.kind .mapping "a YAML tag starting with '!'")

end Site

end PolledTerminal.Yaml
