import Mathlib.Data.List.Forall2
import PolledTerminal.Yaml.Freedom
set_option autoImplicit false

/-!
# What a document holds

Reading walks through a document with a count of the aliases followed, and it stops at the
first thing that is wrong.  What it has read when it gets through depends on neither: a
place holds a scalar, items or pairs, an alias stands for its node, and these are views of
the document that need no reading.  Each way of reading is shown to give only what its
view shows.
-/

namespace PolledTerminal.Yaml

/-! ## Views -/

namespace Document

variable (d : Document)

/-- The outermost node; where there is no document it is as if it were empty. -/
def top : Node := d.root.getD (.scalar none "" .plain)

/-- The node itself, or the one that it is an alias of. -/
def shown? : Node → Option Node
  | .alias id => d.anchored? id
  | node => some node

theorem shown?_of_ne_alias {node : Node} (h : ∀ id, node ≠ .alias id) :
    d.shown? node = some node := by
  unfold shown?
  split
  case h_1 id => exact absurd rfl (h id)
  case h_2 => rfl

/-- The text of a scalar, whatever its kind. -/
def name? (node : Node) : Option String :=
  match d.shown? node with
  | some (.scalar _ text _) => some text
  | _ => none

/-- The text of a scalar that is a text. -/
def text? (node : Node) : Option String :=
  match d.shown? node with
  | some (.scalar tag text style) =>
    match typedOfScalar tag text style false with
    | .ok (.text s) => some s
    | _ => none
  | _ => none

/-- The items of a sequence; nothing at all counts as none. -/
def items? (node : Node) : Option (List Node) :=
  match d.shown? node with
  | some (.sequence _ items) => some items
  | some node => if Site.isEmptyScalar node then some [] else none
  | none => none

/-- The pairs of a mapping; nothing at all counts as none. -/
def pairs? (node : Node) : Option (List (Node × Node)) :=
  match d.shown? node with
  | some (.mapping _ pairs) => some pairs
  | some node => if Site.isEmptyScalar node then some [] else none
  | none => none

/-- The value that stands first under a name. -/
def under? (pairs : List (Node × Node)) (name : String) : Option Node :=
  (pairs.find? fun pair => d.name? pair.1 = some name).map Prod.snd

end Document

/-! ## What reading gives -/

namespace Reading

variable {α β : Type} {d : Document}

/-- Reading in the document can give this, after some number of aliases. -/
def Gives (d : Document) (x : Reading α) (a : α) : Prop :=
  ∃ count count', (x.run d).run count = .ok (a, count')

theorem gives_pure {a b : α} (h : Gives d (pure a) b) : b = a := by
  obtain ⟨count, count', h⟩ := h
  cases h
  rfl

theorem not_gives_throw {why : ReadFault} {a : α} : ¬ Gives d (throw why) a := by
  rintro ⟨count, count', h⟩
  cases h

theorem not_gives_refuse {path : Path} {m : Mismatch} {a : α} : ¬ Gives d (refuse path m) a :=
  not_gives_throw

theorem gives_bind {x : Reading α} {f : α → Reading β} {b : β} (h : Gives d (x >>= f) b) :
    ∃ a, Gives d x a ∧ Gives d (f a) b := by
  obtain ⟨count, count', h⟩ := h
  rw [ReaderT.run_bind, StateT.run_bind] at h
  cases hx : (x.run d).run count with
  | error why =>
      rw [hx] at h
      cases h
  | ok step =>
      rw [hx] at h
      exact ⟨step.1, ⟨count, step.2, hx⟩, step.2, count', h⟩

theorem gives_map {x : Reading α} {f : α → β} {b : β} (h : Gives d (f <$> x) b) :
    ∃ a, Gives d x a ∧ b = f a := by
  rw [map_eq_pure_bind] at h
  obtain ⟨a, ha, hb⟩ := gives_bind h
  exact ⟨a, ha, gives_pure hb⟩

theorem not_gives_breakOff {a : α} : ¬ Gives d (breakOff : Reading α) a := by
  intro h
  obtain ⟨_, -, h⟩ := gives_bind h
  exact not_gives_throw h

theorem gives_read {d' : Document} (h : Gives d (read : Reading Document) d') : d' = d := by
  obtain ⟨count, count', h⟩ := h
  cases h
  rfl

/-- Everything is read, in order. -/
theorem gives_mapM {f : α → Reading β} {as : List α} {bs : List β}
    (h : Gives d (as.mapM f) bs) : List.Forall₂ (fun a b => Gives d (f a) b) as bs := by
  induction as generalizing bs with
  | nil =>
      rw [List.mapM_nil] at h
      rw [gives_pure h]
      exact .nil
  | cons a as ih =>
      rw [List.mapM_cons] at h
      obtain ⟨b, hb, h⟩ := gives_bind h
      obtain ⟨rest, hrest, h⟩ := gives_bind h
      rw [gives_pure h]
      exact .cons hb (ih hrest)

end Reading

open Reading

/-! ## Places -/

namespace Site

variable {α : Type} {d : Document} {p : Site}

theorem not_gives_refuseKind {wanted : String} {a : α} :
    ¬ Gives d (p.refuseKind wanted : Reading α) a := by
  unfold refuseKind
  intro h
  split at h
  · split at h <;> exact not_gives_refuse h
  · exact not_gives_refuse h
  · exact not_gives_refuse h
  · exact not_gives_breakOff h
  · exact not_gives_breakOff h

theorem gives_follow {q : Site} (h : Gives d p.follow q) :
    d.shown? p.node = some q.node := by
  unfold follow at h
  split at h
  case h_1 id hnode =>
    obtain ⟨_, -, h⟩ := gives_bind h
    obtain ⟨d', hd, h⟩ := gives_bind h
    rw [gives_read hd] at h
    rw [hnode]
    show d.anchored? id = _
    split at h
    case h_1 node hanchor =>
      rw [hanchor, gives_pure h]
    case h_2 => exact absurd h not_gives_throw
  case h_2 => exact absurd h not_gives_breakOff
  case h_3 hnot _ =>
    rw [gives_pure h]
    exact d.shown?_of_ne_alias hnot

theorem gives_textAs {wanted : String} {text : String} (h : Gives d (p.textAs wanted) text) :
    d.name? p.node = some text := by
  obtain ⟨q, hq, h⟩ := gives_bind h
  rw [Document.name?, gives_follow hq]
  split at h
  case h_1 hnode =>
    rw [hnode, gives_pure h]
  case h_2 => exact absurd h not_gives_refuseKind

theorem gives_items {wanted : String} {sites : List Site} (h : Gives d (p.items wanted) sites) :
    d.items? p.node = some (sites.map Site.node) := by
  obtain ⟨q, hq, h⟩ := gives_bind h
  rw [Document.items?, gives_follow hq]
  split at h
  case h_1 tag nodes hnode =>
    obtain ⟨depth, -, h⟩ := gives_bind h
    rw [gives_pure h, hnode]
    exact congrArg some (List.ext_getElem (by simp) (by simp))
  case h_2 hnot =>
    by_cases hempty : isEmptyScalar q.node
    · rw [if_pos hempty] at h
      rw [gives_pure h]
      simp [hempty]
    · rw [if_neg hempty] at h
      exact absurd h not_gives_refuseKind

theorem gives_pairs {wanted : String} {sites : List (Site × Site)}
    (h : Gives d (p.pairs wanted) sites) :
    d.pairs? p.node = some (sites.map fun pair => (pair.1.node, pair.2.node)) := by
  obtain ⟨q, hq, h⟩ := gives_bind h
  rw [Document.pairs?, gives_follow hq]
  split at h
  case h_1 tag nodes hnode =>
    obtain ⟨depth, -, h⟩ := gives_bind h
    rw [gives_pure h, hnode, List.map_map]
    exact congrArg some (List.map_id nodes).symm
  case h_2 hnot =>
    by_cases hempty : isEmptyScalar q.node
    · rw [if_pos hempty] at h
      rw [gives_pure h]
      simp [hempty]
    · rw [if_neg hempty] at h
      exact absurd h not_gives_refuseKind

/-- The items of a list are read in order. -/
theorem gives_list {β : Type} {read : Site → Reading β} {as : List β}
    (h : Gives d (p.list read) as) : ∃ sites : List Site,
      d.items? p.node = some (sites.map Site.node) ∧
      List.Forall₂ (fun site a => Gives d (read site) a) sites as := by
  obtain ⟨sites, hsites, h⟩ := gives_bind h
  exact ⟨sites, gives_items hsites, gives_mapM h⟩

end Site

/-- A document is read from its outermost node. -/
theorem Document.gives_of_read {α : Type} {d : Document} {read : Site → Reading α} {a : α}
    (h : d.read read = .ok a) : Gives d (read { node := d.top }) a := by
  unfold Document.read at h
  dsimp only at h
  split at h
  case h_1 => cases h
  case h_2 b count hread =>
    split at h
    · cases h
    · cases h
      exact ⟨0, count, hread⟩

/-! ## Free values -/

/-- The value of a scalar. -/
def Typed.value : Typed → Value
  | .null => .null
  | .bool b => .bool b
  | .natural n => .natural n
  | .negative n => .negative n
  | .real x => .real x
  | .text s => .text s

/-- What a node says by itself, where no tags of the document's own are kept. -/
inductive Document.Says (d : Document) : Node → Value → Prop where
  | scalar {node : Node} {tag : Option Text.Bytes} {text : String} {style : ScalarStyle}
      {t : Typed} (shown : d.shown? node = some (.scalar tag text style))
      (typed : typedOfScalar tag text style false = .ok t) : Says d node t.value
  | sequence {node : Node} {tag : Option Text.Bytes} {items : List Node} {values : List Value}
      (shown : d.shown? node = some (.sequence tag items))
      (said : List.Forall₂ (Says d) items values) : Says d node (.sequence values)
  | mapping {node : Node} {tag : Option Text.Bytes} {pairs : List (Node × Node)}
      {values : List (Value × Value)} (shown : d.shown? node = some (.mapping tag pairs))
      (keys : List.Forall₂ (Says d) (pairs.map Prod.fst) (values.map Prod.fst))
      (said : List.Forall₂ (Says d) (pairs.map Prod.snd) (values.map Prod.snd)) :
      Says d node (.mapping values)

namespace Document.Says

variable {d : Document} {node : Node}

theorem text?_eq {s : String} (h : d.Says node (.text s)) : d.text? node = some s := by
  generalize hv : Value.text s = v at h
  cases h with
  | @scalar _ tag text style t shown typed =>
      have ht : t = .text s := by cases t <;> cases hv; rfl
      simp [text?, shown, typed, ht]
  | sequence => cases hv
  | mapping => cases hv

/-- A text says nothing else. -/
theorem eq_text {s : String} {v : Value} (h : d.Says node v) (htext : d.text? node = some s) :
    v = .text s := by
  unfold text? at htext
  cases h with
  | scalar shown typed =>
      rw [shown] at htext
      dsimp only at htext
      rw [typed] at htext
      split at htext
      case h_1 heq =>
        cases heq
        cases htext
        rfl
      case h_2 => cases htext
  | sequence shown =>
      rw [shown] at htext
      cases htext
  | mapping shown =>
      rw [shown] at htext
      cases htext

/-- A mapping of one pair is said by a mapping of one pair. -/
theorem exists_pair {k v : Value} (h : d.Says node (.mapping [(k, v)])) :
    ∃ tag key value, d.shown? node = some (.mapping tag [(key, value)]) ∧ d.Says key k ∧
      d.Says value v := by
  generalize hw : Value.mapping [(k, v)] = w at h
  cases h with
  | @scalar _ tag text style t => cases t <;> cases hw
  | sequence => cases hw
  | @mapping _ tag pairs values shown keys said =>
      cases hw
      match pairs, keys, said with
      | [(key, value)], .cons hkey .nil, .cons hvalue .nil =>
        exact ⟨tag, key, value, shown, hkey, hvalue⟩

/-- A sequence of one item is said by a sequence of one item. -/
theorem exists_item {v : Value} (h : d.Says node (.sequence [v])) :
    ∃ tag item, d.shown? node = some (.sequence tag [item]) ∧ d.Says item v := by
  generalize hw : Value.sequence [v] = w at h
  cases h with
  | @scalar _ tag text style t => cases t <;> cases hw
  | mapping => cases hw
  | @sequence _ tag items values shown said =>
      cases hw
      match items, said with
      | [item], .cons hitem .nil => exact ⟨tag, item, shown, hitem⟩

end Document.Says

namespace Freedom

variable {d : Document} {freedom : Freedom} {p : Site} {v : Value}

theorem gives_ofTyped {path : Path} {t : Typed} (h : Gives d (freedom.ofTyped path t) v) :
    v = t.value := by
  unfold ofTyped at h
  split at h
  · exact absurd h not_gives_refuse
  · cases t <;> exact gives_pure h

/-- Pairs are read in order, behind those that are done. -/
theorem gives_readPairs {inner : Site → Reading Value} {path : Path}
    {sites : List (Site × Site)} {done values : List (Value × Value)}
    (h : Gives d (freedom.readPairs inner path sites done) values) :
    ∃ new, values = done.reverse ++ new ∧
      List.Forall₂ (fun q v => Gives d (inner q) v) (sites.map Prod.fst) (new.map Prod.fst) ∧
      List.Forall₂ (fun q v => Gives d (inner q) v) (sites.map Prod.snd) (new.map Prod.snd) := by
  induction sites generalizing done with
  | nil => exact ⟨[], by rw [gives_pure h, List.append_nil], .nil, .nil⟩
  | cons site sites ih =>
      obtain ⟨key, hkey, h⟩ := gives_bind h
      have hrest : ∃ value, Gives d (inner site.2) value ∧
          Gives d (freedom.readPairs inner path sites ((key, value) :: done)) values := by
        dsimp only at h
        split at h
        · obtain ⟨_, hrefused, -⟩ := gives_bind h
          exact absurd hrefused not_gives_refuse
        · exact gives_bind h
      obtain ⟨value, hvalue, h⟩ := hrest
      obtain ⟨new, rfl, hkeys, hvalues⟩ := ih h
      refine ⟨(key, value) :: new, ?_, .cons hkey hkeys, .cons hvalue hvalues⟩
      rw [List.reverse_cons, List.append_assoc]
      rfl

/-- What is read is what the node says, whatever it is read for. -/
theorem says_of_gives_readWithin (hfree : freedom.keepsTags = false) {depth : Nat}
    (h : Gives d (freedom.readWithin depth p) v) : d.Says p.node v := by
  induction depth generalizing p v with
  | zero => exact absurd h not_gives_throw
  | succ depth ih =>
      obtain ⟨q, hq, h⟩ := gives_bind h
      have hshown := Site.gives_follow hq
      split at h
      case h_2 =>
        rw [hfree] at h
        exact absurd h not_gives_refuse
      case h_1 =>
        unfold readContent at h
        split at h
        case h_1 tag text style hnode =>
          rw [hnode] at hshown
          split at h
          case h_1 t ht =>
            rw [gives_ofTyped h]
            exact .scalar hshown ht
          case h_2 => exact absurd h not_gives_refuse
        case h_2 tag items hnode =>
          obtain ⟨sites, hsites, h⟩ := gives_bind h
          obtain ⟨values, hvalues, h⟩ := gives_bind h
          have hitems := Site.gives_items hsites
          rw [hnode] at hshown hitems
          cases hitems
          rw [gives_pure h]
          refine .sequence hshown (List.forall₂_map_left_iff.mpr ?_)
          exact (gives_mapM hvalues).imp fun _ _ => ih
        case h_3 tag pairs hnode =>
          obtain ⟨sites, hsites, h⟩ := gives_bind h
          obtain ⟨values, hvalues, h⟩ := gives_bind h
          have hpairs := Site.gives_pairs hsites
          rw [hnode] at hshown hpairs
          cases hpairs
          obtain ⟨new, rfl, hkeys, hsaid⟩ := gives_readPairs hvalues
          rw [gives_pure h]
          refine .mapping hshown ?_ ?_
          · simpa [List.forall₂_map_left_iff] using hkeys.imp fun _ _ => ih
          · simpa [List.forall₂_map_left_iff] using hsaid.imp fun _ _ => ih
        case h_4 => exact absurd h not_gives_breakOff
        case h_5 => exact absurd h not_gives_breakOff

end Freedom

end PolledTerminal.Yaml
