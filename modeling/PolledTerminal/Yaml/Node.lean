import PolledTerminal.Yaml.Event
set_option autoImplicit false

/-!
# YAML: documents as trees

A document is a tree of nodes whose aliases refer to other nodes of it.  A
document that breaks off is still a tree: `cut` stands where it broke off, at
the end of every collection that was open there.  Whoever reads the tree in
order thus meets whatever is wrong in the order in which it stands in the text.

Anchors are numbered by the names given so far, so a name given again takes a
new number but counts once.  Where two nodes come to have one number, every
alias to it is an alias to the later of them.
-/

namespace PolledTerminal.Yaml

open PolledTerminal.Text (Bytes)

/-- A piece of a document. -/
inductive Node where
  | scalar (tag : Option Bytes) (text : String) (style : ScalarStyle)
  | sequence (tag : Option Bytes) (items : List Node)
  | mapping (tag : Option Bytes) (pairs : List (Node × Node))
  | alias (id : Nat)
  /-- the document broke off here -/
  | cut
  deriving Repr, Inhabited

/-- A document, or as much of it as there is. -/
structure Document where
  /-- `none` in a stream without documents -/
  root : Option Node
  /-- the node of each anchor number -/
  anchors : List (Nat × Node) := []
  /-- how often aliases may be followed -/
  followLimit : Nat := 0
  /-- what breaks the document off or follows it -/
  problem : Option Problem := none
  deriving Repr, Inhabited

/-- A document being built. -/
structure Builder where
  /-- the open collections, innermost first: where each started, its tag, and the
  nodes in it, newest first -/
  frames : List (Nat × Bool × Option Bytes × List Node) := []
  root : Option Node := none
  /-- anchor names and their numbers, newest first -/
  names : List (String × Nat) := []
  /-- how many different names there are -/
  nameCount : Nat := 0
  /-- for each number, where its node starts; newest first -/
  starts : List (Nat × Nat) := []
  /-- the anchored nodes that are complete, by where they start -/
  nodes : List (Nat × Node) := []
  problem : Option Problem := none

namespace Builder

/-- Pair the nodes of a mapping; one without a value has lost it to a cut. -/
def pairUp : List Node → List (Node × Node)
  | k :: v :: rest => (k, v) :: pairUp rest
  | [.cut] => [(.cut, .cut)]
  | [k] => [(k, .cut)]
  | [] => []

/-- A collection of these nodes, given newest first. -/
def collection (isMapping : Bool) (tag : Option Bytes) (newest : List Node) : Node :=
  if isMapping then .mapping tag (pairUp newest.reverse) else .sequence tag newest.reverse

/-- Give an anchor to the node that starts here. -/
def name (b : Builder) (start : Nat) : Option String → Builder
  | none => b
  | some anchor =>
    { b with
      starts := (b.nameCount, start) :: b.starts
      names := (anchor, b.nameCount) :: b.names
      nameCount := if b.names.any fun n => n.1 == anchor then b.nameCount else b.nameCount + 1 }

/-- Put a complete node, started at `start`, where it belongs. -/
def add (b : Builder) (start : Nat) (n : Node) : Builder :=
  let b := if b.starts.any fun s => s.2 == start then { b with nodes := (start, n) :: b.nodes } else b
  match b.frames with
  | [] => { b with root := some (b.root.getD n) }
  | (s, m, tag, newest) :: rest => { b with frames := (s, m, tag, n :: newest) :: rest }

/-- Open a collection. -/
def openFrame (b : Builder) (start : Nat) (isMapping : Bool) (p : Properties) : Builder :=
  let b := b.name start p.anchor
  { b with frames := (start, isMapping, p.tag, []) :: b.frames }

/-- Close the innermost collection. -/
def closeFrame (b : Builder) : Builder :=
  match b.frames with
  | [] => b
  | (start, isMapping, tag, newest) :: rest =>
    ({ b with frames := rest } : Builder).add start (collection isMapping tag newest)

/-- Close every open collection with a cut. -/
def breakOff : Nat → Builder → Builder
  | 0, b => b
  | fuel + 1, b =>
    match b.frames with
    | [] => b
    | (start, isMapping, tag, newest) :: rest =>
      breakOff fuel
        (({ b with frames := rest } : Builder).add start
          (collection isMapping tag (.cut :: newest)))

/-- Build one event in; `start` is its number among the events. -/
def event (b : Builder) (start : Nat) : Event → Except Problem Builder
  | .alias name =>
    match b.names.find? fun n => n.1 == name with
    | some (_, id) => .ok (b.add start (.alias id))
    | none => .error .unknownAnchor
  | .scalar p text style => .ok ((b.name start p.anchor).add start (.scalar p.tag text style))
  | .sequenceStart p => .ok (b.openFrame start false p)
  | .mappingStart p => .ok (b.openFrame start true p)
  | .sequenceEnd | .mappingEnd => .ok b.closeFrame
  | .documentStart | .documentEnd | .streamEnd => .ok b

/-- Build all events in, up to an alias to nothing. -/
def events (b : Builder) (start : Nat) : List Event → Builder
  | [] => b
  | e :: es =>
    match b.event start e with
    | .ok b => b.events (start + 1) es
    | .error problem => { b with problem := some problem }

end Builder

namespace Document

/-- How often aliases may be followed, for each event of the document. -/
def followsPerEvent : Nat := 100

/-- The document of these events. -/
def ofEvents (d : DocumentEvents) : Document :=
  let b := ({} : Builder).events 0 d.list
  let problem := b.problem <|> d.problem
  let b := b.breakOff (b.frames.length + 1)
  let root := if problem.isSome then some (b.root.getD .cut) else b.root
  { root := root
    anchors := b.starts.filterMap fun (id, start) =>
      (b.nodes.find? fun n => n.1 == start).map fun n => (id, n.2)
    followLimit := followsPerEvent * d.list.length
    problem := problem }

/-- The document of some octets. -/
def ofBytes (bs : Bytes) : Document :=
  match decode? bs with
  | some cs => ofEvents (.ofTokens (.ofChars cs))
  | none => { root := some .cut, problem := some .encoding }

/-- The node of an anchor number. -/
def anchored? (d : Document) (id : Nat) : Option Node :=
  (d.anchors.find? fun a => a.1 == id).map Prod.snd

end Document

end PolledTerminal.Yaml
