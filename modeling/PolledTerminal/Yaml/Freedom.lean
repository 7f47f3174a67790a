import PolledTerminal.Yaml.Reading
set_option autoImplicit false

/-!
# YAML: reading free values

A free value is whatever a node says by itself.  How free it is says whether
tags of the document's own and repeated keys may stand in it.
-/

namespace PolledTerminal.Yaml

/-- How free a value is. -/
structure Freedom where
  /-- what messages call it -/
  wanted : String
  /-- tags of the document's own stay on the value; otherwise they are refused -/
  keepsTags : Bool
  /-- a mapping may have a key more than once -/
  repeatsKeys : Bool

namespace Freedom

open Reading

/-- A scalar as a value. -/
def ofTyped (freedom : Freedom) (path : Path) (t : Typed) : Reading Value :=
  if t.isWide then refuse path (.kind (.scalar t) freedom.wanted)
  else match t with
  | .null => return .null
  | .bool b => return .bool b
  | .natural n => return .natural n
  | .negative n => return .negative n
  | .real x => return .real x
  | .text s => return .text s

/-- Read pairs, each key before its value. -/
def readPairs (freedom : Freedom) (inner : Site → Reading Value) (path : Path) :
    List (Site × Site) → List (Value × Value) → Reading (List (Value × Value))
  | [], done => return done.reverse
  | (k, v) :: rest, done => do
    let key ← inner k
    if !freedom.repeatsKeys && done.any (fun pair => key.same pair.1) then
      refuse path (.repeatedKey key)
    let value ← inner v
    readPairs freedom inner path rest ((key, value) :: done)

/-- The value of a scalar or a collection, where `inner` reads what is inside. -/
def readContent (freedom : Freedom) (inner : Site → Reading Value) (p : Site)
    (tagUsed : Bool) : Reading Value :=
  match p.node with
  | .scalar tag text style =>
    match typedOfScalar tag text style tagUsed with
    | .ok t => freedom.ofTyped p.path t
    | .error w => refuse p.path (.value (.text w.text) w.wanted)
  | .sequence _ _ => do
    let values ← (← p.items freedom.wanted).mapM inner
    return .sequence values
  | .mapping _ _ => do
    let values ← freedom.readPairs inner p.path (← p.pairs freedom.wanted) []
    return .mapping values
  | .alias _ | .cut => breakOff

/-- The value at a place, with at most so many values around each other. -/
def readWithin (freedom : Freedom) : Nat → Site → Reading Value
  | 0, _ => throw (.problem .depth)
  | depth + 1, p => do
    let p ← p.follow
    match localTag? (Site.tagOf p.node) with
    | none => freedom.readContent (freedom.readWithin depth) p false
    | some name =>
      if freedom.keepsTags then
        let value ← freedom.readContent (freedom.readWithin depth) p true
        return .tagged name value
      else refuse p.path .taggedContent

/-- The value at a place. -/
def read (freedom : Freedom) (p : Site) : Reading Value := freedom.readWithin (p.depth + 1) p

end Freedom

end PolledTerminal.Yaml
