import PolledTerminal.Yaml.TokenStream
set_option autoImplicit false

/-!
# YAML: the structure of a document

Tokens become events: the start and end of documents and collections, and the
scalars and aliases inside them.  A reader is always at one place of the
grammar; a place that contains others is left on a stack while those are read.
Where a value may be left out and is, it is the empty plain scalar.
-/

namespace PolledTerminal.Yaml

open PolledTerminal.Text (Bytes)

/-- What a node is marked with before its content. -/
structure Properties where
  anchor : Option String := none
  tag : Option Bytes := none
  deriving DecidableEq, Repr, Inhabited

/-- A piece of a document's structure. -/
inductive Event where
  | documentStart
  | documentEnd
  | streamEnd
  | alias (name : String)
  | scalar (properties : Properties) (text : String) (style : ScalarStyle)
  | sequenceStart (properties : Properties)
  | sequenceEnd
  | mappingStart (properties : Properties)
  | mappingEnd
  deriving DecidableEq, Repr, Inhabited

/-- The empty plain scalar. -/
def Event.emptyScalar (p : Properties) : Event := .scalar p "" .plain

/-- A place of the grammar. -/
inductive Place where
  | firstDocument
  | document
  | documentContent
  | documentEnd
  | blockNode
  | blockEntryFirst
  | blockEntry
  | indentlessEntry
  | blockKeyFirst
  | blockKey
  | blockValue
  | flowEntryFirst
  | flowEntry
  | flowPairKey
  | flowPairValue
  | flowPairEnd
  | flowKeyFirst
  | flowKey
  | flowValue
  | flowNoValue
  | finished
  deriving DecidableEq, Repr, Inhabited

/-- The tokens left, where the reader is, and the tag handles declared. -/
structure EventStream where
  tokens : Tokens
  place : Place := .firstDocument
  stack : List Place := []
  handles : List (String × Bytes) := []
  deriving Repr, Inhabited

/-- An action on a stream of events. -/
abbrev Structure : Type → Type := StateT EventStream (Except Problem)

namespace Structure

/-- The next token. -/
def peek : Structure Token := do
  let s ← get
  match s.tokens.list, s.tokens.problem with
  | t :: _, _ => return t
  | [], some problem => throw problem
  | [], none => throw .endOfStream

/-- Pass over the next token. -/
def skip : Structure Unit :=
  modify fun s => { s with tokens := { s.tokens with list := s.tokens.list.tail } }

/-- Pass over the next token and look at the one after it. -/
def skipAndPeek : Structure Token := do
  skip
  peek

/-- Go on at a place. -/
def goTo (p : Place) : Structure Unit := modify fun s => { s with place := p }

/-- Come back to a place after the node that is read next. -/
def comeBack (p : Place) : Structure Unit := modify fun s => { s with stack := p :: s.stack }

/-- Go on where the last place was left. -/
def leave : Structure Unit :=
  modify fun s => match s.stack with
    | p :: ps => { s with place := p, stack := ps }
    | [] => { s with place := .finished }

/-- An empty scalar, then on at a place. -/
def emptyThen (p : Place) : Structure Event := do
  goTo p
  return .emptyScalar {}

/-- Pass over the next token, leave the place and give an event. -/
def closeWith (e : Event) : Structure Event := do
  skip
  leave
  return e

/-! ## Nodes -/

/-- An anchor, if one is here. -/
def takeAnchor : Structure (Option String) := do
  match ← peek with
  | .anchor name => do skip; return some name
  | _ => return none

/-- A tag, if one is here, as handle and suffix. -/
def takeTag : Structure (Option (String × Bytes)) := do
  match ← peek with
  | .tag handle suffix => do skip; return some (handle, suffix)
  | _ => return none

/-- The full tag of a handle and a suffix. -/
def resolveTag (handle : String) (suffix : Bytes) : Structure Bytes := do
  if handle.isEmpty then return suffix
  match (← get).handles.find? fun h => h.1 == handle with
  | some (_, start) => return start ++ suffix
  | none => throw .tagHandle

/-- An anchor and a tag, in either order. -/
def takeProperties : Structure Properties := do
  let anchor ← takeAnchor
  let parts ← takeTag
  let anchor ← if anchor.isNone && parts.isSome then takeAnchor else pure anchor
  match parts with
  | some (handle, suffix) => return ⟨anchor, some (← resolveTag handle suffix)⟩
  | none => return ⟨anchor, none⟩

/-- A node.  In a block its content may be a block; with `indentless`, entries
may stand at the column of their key.  A tag `!` on a scalar says nothing. -/
def node (block indentless : Bool) : Structure Event := do
  if let .alias name := ← peek then
    leave
    skip
    return .alias name
  let p ← takeProperties
  match ← peek with
  | .blockEntry =>
    if indentless then
      goTo .indentlessEntry
      return .sequenceStart p
    else absent p
  | .scalar text style => do
    leave
    skip
    return .scalar (if p.tag = some [0x21] then { p with tag := none } else p) text style
  | .flowSequenceStart => do goTo .flowEntryFirst; return .sequenceStart p
  | .flowMappingStart => do goTo .flowKeyFirst; return .mappingStart p
  | .blockSequenceStart =>
    if block then
      goTo .blockEntryFirst
      return .sequenceStart p
    else absent p
  | .blockMappingStart =>
    if block then
      goTo .blockKeyFirst
      return .mappingStart p
    else absent p
  | _ => absent p
where
  /-- A node without content has to have properties. -/
  absent (p : Properties) : Structure Event := do
    if p.anchor.isNone && p.tag.isNone then throw .unexpectedToken
    leave
    return .emptyScalar p

/-- A node after which a place goes on. -/
def nodeThen (p : Place) (block indentless : Bool) : Structure Event := do
  comeBack p
  node block indentless

/-! ## Documents -/

/-- The handles that every document has. -/
def standardHandles : List (String × Bytes) :=
  [("!", [0x21]), ("!!", Text.Utf8.encode "tag:yaml.org,2002:")]

/-- Directives before a document: at most one version, of the first edition, and
at most one meaning for each handle. -/
def takeDirectives : Nat → Bool → List (String × Bytes) → Structure (List (String × Bytes))
  | 0, _, handles => return handles
  | fuel + 1, versioned, handles => do
    match ← peek with
    | .versionDirective major minor =>
      if versioned || major ≠ 1 || (minor ≠ 1 && minor ≠ 2) then throw .directive
      skip
      takeDirectives fuel true handles
    | .tagDirective handle start =>
      if handles.any fun h => h.1 == handle then throw .directive
      skip
      takeDirectives fuel versioned (handles ++ [(handle, start)])
    | _ => return handles

/-- Declare the handles of a document. -/
def declare (handles : List (String × Bytes)) : Structure Unit :=
  modify fun s => { s with
    handles := handles ++ standardHandles.filter fun h => !handles.any fun g => g.1 == h.1 }

/-- Pass over marks that end a document. -/
def skipDocumentEnds : Nat → Structure Unit
  | 0 => return ()
  | fuel + 1 => do
    if (← peek) == .documentEnd then
      skip
      skipDocumentEnds fuel

/-- How many tokens are left. -/
def left : Structure Nat := do
  return (← get).tokens.list.length

/-- The start of a document; all but the first need a mark. -/
def documentStart (first : Bool) : Structure Event := do
  unless first do skipDocumentEnds (← left)
  let implicit : Bool := match ← peek with
    | .versionDirective _ _ | .tagDirective _ _ | .documentStart | .streamEnd => false
    | _ => first
  if implicit then
    declare []
    comeBack .documentEnd
    goTo .blockNode
    return .documentStart
  else if (← peek) == .streamEnd then
    goTo .finished
    skip
    return .streamEnd
  else
    declare (← takeDirectives (← left) false [])
    unless (← peek) == .documentStart do throw .unexpectedToken
    comeBack .documentEnd
    goTo .documentContent
    skip
    return .documentStart

/-- The content after the mark of a document. -/
def documentContent : Structure Event := do
  match ← peek with
  | .versionDirective _ _ | .tagDirective _ _ | .documentStart | .documentEnd | .streamEnd => do
    leave
    return .emptyScalar {}
  | _ => node true false

/-- The end of a document. -/
def documentEnd : Structure Event := do
  if (← peek) == .documentEnd then skip
  modify fun s => { s with handles := [] }
  goTo .document
  return .documentEnd

/-! ## Collections -/

/-- An entry of a block, or its end. -/
def blockEntry : Structure Event := do
  match ← peek with
  | .blockEntry =>
    match ← skipAndPeek with
    | .blockEntry | .blockEnd => emptyThen .blockEntry
    | _ => nodeThen .blockEntry true false
  | .blockEnd => closeWith .sequenceEnd
  | _ => throw .unexpectedToken

/-- An entry at the column of a key, or the end of such entries. -/
def indentlessEntry : Structure Event := do
  match ← peek with
  | .blockEntry =>
    match ← skipAndPeek with
    | .blockEntry | .key | .value | .blockEnd => emptyThen .indentlessEntry
    | _ => nodeThen .indentlessEntry true false
  | _ => do leave; return .sequenceEnd

/-- A key of a block, or its end. -/
def blockKey : Structure Event := do
  match ← peek with
  | .key =>
    match ← skipAndPeek with
    | .key | .value | .blockEnd => emptyThen .blockValue
    | _ => nodeThen .blockValue true true
  | .blockEnd => closeWith .mappingEnd
  | _ => throw .unexpectedToken

/-- The value of a key of a block. -/
def blockValue : Structure Event := do
  match ← peek with
  | .value =>
    match ← skipAndPeek with
    | .key | .value | .blockEnd => emptyThen .blockKey
    | _ => nodeThen .blockKey true true
  | _ => emptyThen .blockKey

/-- Before an item of a flow collection that is not the first, a comma. -/
def comma (first : Bool) (close : Token) : Structure Unit := do
  unless first do
    let t ← peek
    if t == .flowEntry then skip
    else if t != close then throw .unexpectedToken

/-- An entry of a flow sequence, or its end; an entry may be a single pair. -/
def flowEntry (first : Bool) : Structure Event := do
  comma first .flowSequenceEnd
  match ← peek with
  | .flowSequenceEnd => closeWith .sequenceEnd
  | .key => do
    skip
    goTo .flowPairKey
    return .mappingStart {}
  | _ => nodeThen .flowEntry false false

/-- The key of a single pair.  Where the key is left out, the token that shows it
is passed over. -/
def flowPairKey : Structure Event := do
  match ← peek with
  | .value | .flowEntry | .flowSequenceEnd => do
    skip
    emptyThen .flowPairValue
  | _ => nodeThen .flowPairValue false false

/-- The value of a single pair. -/
def flowPairValue : Structure Event := do
  match ← peek with
  | .value =>
    match ← skipAndPeek with
    | .flowEntry | .flowSequenceEnd => emptyThen .flowPairEnd
    | _ => nodeThen .flowPairEnd false false
  | _ => emptyThen .flowPairEnd

/-- A key of a flow mapping, or its end. -/
def flowKey (first : Bool) : Structure Event := do
  comma first .flowMappingEnd
  match ← peek with
  | .flowMappingEnd => closeWith .mappingEnd
  | .key =>
    match ← skipAndPeek with
    | .value | .flowEntry | .flowMappingEnd => emptyThen .flowValue
    | _ => nodeThen .flowValue false false
  | _ => nodeThen .flowNoValue false false

/-- The value of a key of a flow mapping. -/
def flowValue : Structure Event := do
  match ← peek with
  | .value =>
    match ← skipAndPeek with
    | .flowEntry | .flowMappingEnd => emptyThen .flowKey
    | _ => nodeThen .flowKey false false
  | _ => emptyThen .flowKey

/-- The next event. -/
def next : Structure Event := do
  match (← get).place with
  | .firstDocument => documentStart true
  | .document => documentStart false
  | .documentContent => documentContent
  | .documentEnd => documentEnd
  | .blockNode => node true false
  | .blockEntryFirst => do skip; blockEntry
  | .blockEntry => blockEntry
  | .indentlessEntry => indentlessEntry
  | .blockKeyFirst => do skip; blockKey
  | .blockKey => blockKey
  | .blockValue => blockValue
  | .flowEntryFirst => do skip; flowEntry true
  | .flowEntry => flowEntry false
  | .flowPairKey => flowPairKey
  | .flowPairValue => flowPairValue
  | .flowPairEnd => do
    goTo .flowEntry
    return .mappingEnd
  | .flowKeyFirst => do skip; flowKey true
  | .flowKey => flowKey false
  | .flowValue => flowValue
  | .flowNoValue => emptyThen .flowKey
  | .finished => return .streamEnd

end Structure

/-- The first document of a stream: its events, and the problem that ends the
document early or follows it. -/
structure DocumentEvents where
  list : List Event
  problem : Option Problem := none
  deriving Repr, Inhabited

namespace DocumentEvents

/-- What follows the end of a document: nothing, or one document too many. -/
def afterEnd (s : EventStream) : Option Problem :=
  match Structure.next.run s with
  | .ok (.streamEnd, _) => none
  | _ => some .manyDocuments

/-- Collect events up to the end of the document, newest first in `done`. -/
def collect : Nat → List Event → EventStream → DocumentEvents
  | 0, done, _ => ⟨done.reverse, some .endOfStream⟩
  | fuel + 1, done, s =>
    match Structure.next.run s with
    | .error problem => ⟨done.reverse, some problem⟩
    | .ok (.documentStart, s) => collect fuel done s
    | .ok (.documentEnd, s) => ⟨done.reverse, afterEnd s⟩
    | .ok (.streamEnd, _) => ⟨done.reverse, none⟩
    | .ok (e, s) => collect fuel (e :: done) s

/-- The events of a stream's first document.  No token gives more than four. -/
def ofTokens (tokens : Tokens) : DocumentEvents :=
  collect (4 * tokens.list.length + 8) []
    { tokens := { tokens with list := tokens.list.tail } }

end DocumentEvents

end PolledTerminal.Yaml
