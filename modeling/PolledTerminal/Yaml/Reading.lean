import PolledTerminal.Yaml.Mismatch
import PolledTerminal.Yaml.Node
set_option autoImplicit false

/-!
# YAML: reading what was asked for

Reading walks over a document in the order of its text, so the first thing that
is wrong is the one that is told, be it a mismatch or the place where the
document breaks off.  Aliases are followed on the way, each time at a cost, and
collections open inside each other up to a limit.

What is read is a site: a node, the path to it, and how many collections may
still open there.  An empty plain scalar, or a stream without a document, is an
empty collection wherever a collection is asked for.
-/

namespace PolledTerminal.Yaml

/-- Reading knows the document and counts the aliases followed. -/
abbrev Reading : Type → Type := ReaderT Document (StateT Nat (Except ReadFault))

/-- A node, where it stands, and how deep. -/
structure Site where
  node : Node
  path : Path := []
  /-- how many collections may still open, this one included -/
  depth : Nat := 128

namespace Reading

variable {α : Type}

/-- Refuse what stands at a path. -/
def refuse (path : Path) (m : Mismatch) : Reading α := throw (.mismatch path m)

/-- The document ends here, whatever ended it. -/
def breakOff : Reading α := do
  throw (.problem ((← read).problem.getD .endOfStream))

/-- Count one alias that is followed. -/
def countFollow : Reading Unit := do
  let count ← get
  if (← read).followLimit < count + 1 then throw (.problem .repetition)
  set (count + 1)

end Reading

namespace Site

open Reading

variable {α : Type}

/-! ## Sites inside sites -/

/-- The place with aliases followed: a scalar or a collection. -/
def follow (p : Site) : Reading Site :=
  match p.node with
  | .alias id => do
    countFollow
    match (← read).anchored? id with
    | some node => return { p with node := node }
    | none => throw (.problem .unknownAnchor)
  | .cut => breakOff
  | _ => return p

/-- The tag on a node. -/
def tagOf : Node → Option Text.Bytes
  | .scalar tag _ _ => tag
  | .sequence tag _ => tag
  | .mapping tag _ => tag
  | .alias _ | .cut => none

/-- Refuse what stands here because something else is wanted. -/
def refuseKind (p : Site) (wanted : String) : Reading α :=
  match p.node with
  | .scalar tag text style =>
    match typedOfScalar tag text style false with
    | .ok t => refuse p.path (.kind (.scalar t) wanted)
    | .error w => refuse p.path (.value (.text w.text) w.wanted)
  | .sequence _ _ => refuse p.path (.kind .sequence wanted)
  | .mapping _ _ => refuse p.path (.kind .mapping wanted)
  | .alias _ | .cut => breakOff

/-- How many collections may open inside this one. -/
def innerDepth (p : Site) : Reading Nat :=
  match p.depth with
  | 0 => throw (.problem .depth)
  | depth + 1 => return depth

/-- A plain scalar without text. -/
def isEmptyScalar : Node → Bool
  | .scalar _ text .plain => text.isEmpty
  | _ => false

/-- The places of a sequence. -/
def items (p : Site) (wanted : String) : Reading (List Site) := do
  let p ← p.follow
  match p.node with
  | .sequence _ nodes =>
    let depth ← p.innerDepth
    return nodes.mapIdx fun i node => ⟨node, .index i :: p.path, depth⟩
  | node => if isEmptyScalar node then return [] else p.refuseKind wanted

/-- The step to the value under a key. -/
def stepOf : Node → PathStep
  | .scalar _ text _ => .key text
  | _ => .unnamed

/-- The places of a mapping's keys and values; a key stands where its mapping
does. -/
def pairs (p : Site) (wanted : String) : Reading (List (Site × Site)) := do
  let p ← p.follow
  match p.node with
  | .mapping _ nodes =>
    let depth ← p.innerDepth
    return nodes.map fun (k, v) => (⟨k, p.path, depth⟩, ⟨v, stepOf k :: p.path, depth⟩)
  | node => if isEmptyScalar node then return [] else p.refuseKind wanted

/-! ## Scalars -/

/-- The text of a scalar, whatever its kind. -/
def textAs (wanted : String) (p : Site) : Reading String := do
  let p ← p.follow
  match p.node with
  | .scalar _ text _ => return text
  | _ => p.refuseKind wanted

/-- A text. -/
def text (p : Site) : Reading String := p.textAs "a string"

/-- The unsigned number of 64 bits that a scalar spells. -/
def naturalOf? : Node → Option Nat
  | .scalar tag text style =>
    if style = .plain || (style = .literal && tag == some (coreTag "int")) then
      (unsignedOfText? text.toList).filter (· < Nat.pow 2 64)
    else none
  | _ => none

/-- An unsigned number below a limit. -/
def unsigned (limit : Nat) (wanted : String) (p : Site) : Reading Nat := do
  let p ← p.follow
  match naturalOf? p.node with
  | some n => if n < limit then return n else refuse p.path (.value (.natural n) wanted)
  | none => p.refuseKind wanted

/-- A byte. -/
def byte (p : Site) : Reading UInt8 := UInt8.ofNat <$> p.unsigned 256 "u8"

/-- A count of 64 bits. -/
def count (p : Site) : Reading Nat := p.unsigned (Nat.pow 2 64) "u64"

/-- The node says that there is nothing; an error is a null that is not spelled
as one. -/
def isNothing : Node → Except WrongKind Bool
  | .scalar (some tag) text .plain =>
    if tag ≠ coreTag "null" then .ok false
    else if isNullText text then .ok true
    else .error ⟨text, "null"⟩
  | .scalar none text .plain => .ok (text.isEmpty || isNullText text)
  | _ => .ok false

/-- What `read` reads, or nothing.  A bad null is told of the collection that
holds it. -/
def optional (read : Site → Reading α) (p : Site) : Reading (Option α) := do
  let p ← p.follow
  match isNothing p.node with
  | .ok true => return none
  | .ok false => some <$> read p
  | .error w => refuse p.path.tail (.value (.text w.text) w.wanted)

/-! ## Collections -/

/-- A sequence of what `read` reads. -/
def list (read : Site → Reading α) (p : Site) : Reading (List α) := do
  (← p.items "a sequence").mapM read

/-- Put a value under a name, over an older one. -/
def put (name : String) (value : α) : List (String × α) → List (String × α)
  | [] => [(name, value)]
  | (n, v) :: rest => if n = name then (name, value) :: rest else (n, v) :: put name value rest

/-- Read pairs into named values; the last of a name stays. -/
def namedFrom (read : Site → Reading α) :
    List (Site × Site) → List (String × α) → Reading (List (String × α))
  | [], done => return done
  | (k, v) :: rest, done => do
    let name ← k.text
    let value ← read v
    namedFrom read rest (put name value done)

/-- A mapping from names to what `read` reads. -/
def named (read : Site → Reading α) (p : Site) : Reading (List (String × α)) := do
  namedFrom read (← p.pairs "a map") []

end Site

/-! ## Documents -/

/-- Read a whole document: nothing may be wrong behind what was read either. -/
def Document.read {α : Type} (d : Document) (read : Site → Reading α) : Except ReadFault α :=
  let root : Site := { node := d.root.getD (.scalar none "" .plain) }
  match ((read root).run d).run 0 with
  | .error fault => .error fault
  | .ok (a, _) =>
    match d.problem with
    | some problem => .error (.problem problem)
    | none => .ok a

end PolledTerminal.Yaml
