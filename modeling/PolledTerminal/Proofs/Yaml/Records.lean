import PolledTerminal.Proofs.Yaml.Contents
import PolledTerminal.Yaml.Record
set_option autoImplicit false

/-!
# What strict records take

A strict record takes each pair of its mapping into a field, and none twice.  So once it
has been read the names that stand in the mapping are names of its fields, all different,
and each field holds what was read from under its name.
-/

namespace PolledTerminal.Yaml

open Reading

/-- The keys are all different, and all among these names. -/
def Document.OnlyNames (d : Document) (names : List String) (pairs : List (Node × Node)) : Prop :=
  ∃ keys, pairs.map (fun pair => d.name? pair.1) = keys.map some ∧ keys.Nodup ∧ keys ⊆ names

/-- The nodes of the pairs at these places. -/
def nodesOf (sites : List (Site × Site)) : List (Node × Node) :=
  sites.map fun pair => (pair.1.node, pair.2.node)

section Under

variable {d : Document} {k v : Site} {rest : List (Site × Site)} {name other : String}

theorem under?_nodesOf_cons (h : d.name? k.node = some name) :
    d.under? (nodesOf ((k, v) :: rest)) name = some v.node := by
  rw [nodesOf, List.map_cons, Document.under?, List.find?_cons_of_pos (by simpa using h)]
  rfl

theorem under?_nodesOf_cons_of_ne (h : d.name? k.node = some other) (hne : other ≠ name) :
    d.under? (nodesOf ((k, v) :: rest)) name = d.under? (nodesOf rest) name := by
  rw [nodesOf, List.map_cons, Document.under?, List.find?_cons_of_neg (by simpa [h] using hne)]
  rfl

end Under

theorem gives_required {α : Type} {d : Document} {p : Site} {name : String} {x : Option α} {a : α}
    (h : Gives d (p.required name x) a) : x = some a := by
  cases x with
  | none => exact absurd h not_gives_refuse
  | some b => rw [gives_pure h]

namespace RecordForm

variable {σ α : Type} {d : Document} {form : RecordForm σ} {sites : List (Site × Site)} {s s' : σ}

/-- The pairs were read one after the other, each into a field that had not been read. -/
inductive Fills (d : Document) (form : RecordForm σ) : List (Site × Site) → σ → σ → Prop where
  | nil (s : σ) : Fills d form [] s s
  | cons {k v : Site} {rest : List (Site × Site)} {s s₁ s' : σ} {f : Field σ}
      (known : f ∈ form.fields) (named : d.name? k.node = some f.name)
      (fresh : f.isRead s = false) (read : Gives d (f.read v s) s₁)
      (fills : Fills d form rest s₁ s') : Fills d form ((k, v) :: rest) s s'

theorem fills_of_gives_readFields (hstrict : form.strict = true) {path : Path}
    (h : Gives d (form.readFields path sites s) s') : Fills d form sites s s' := by
  induction sites generalizing s with
  | nil =>
      rw [gives_pure h]
      exact .nil s
  | cons site rest ih =>
      obtain ⟨k, v⟩ := site
      obtain ⟨s₁, hfield, hrest⟩ := gives_bind h
      obtain ⟨name, hname, hfield⟩ := gives_bind hfield
      split at hfield
      case h_1 f hfound =>
        have hf : f.name = name := by simpa using List.find?_some hfound
        split at hfield
        case isTrue => exact absurd hfield not_gives_refuse
        case isFalse hfresh =>
          exact .cons (List.mem_of_find?_eq_some hfound) (hf ▸ Site.gives_textAs hname)
            (Bool.eq_false_iff.mpr hfresh) hfield (ih hrest)
      case h_2 =>
        rw [if_pos hstrict] at hfield
        exact absurd hfield not_gives_refuse

/-- A field leaves what its setting leaves. -/
theorem leaves_of {β : Type} {name : String} {get : σ → Option α} {set : σ → α → σ}
    {read : Site → Reading α} {part : σ → β} (h : ∀ s a, part (set s a) = part s) (v : Site)
    (s s' : σ) (hread : Gives d ((Field.of name get set read).read v s) s') :
    part s' = part s := by
  obtain ⟨a, -, rfl⟩ := gives_map hread
  exact h s a

/-- What is read into a strict record fills it from the pairs of the place. -/
theorem fills_of_gives_read (hstrict : form.strict = true) {p : Site}
    (h : Gives d (form.read s p) s') :
    ∃ sites, d.pairs? p.node = some (nodesOf sites) ∧ Fills d form sites s s' := by
  obtain ⟨sites, hsites, h⟩ := gives_bind h
  exact ⟨sites, Site.gives_pairs hsites, fills_of_gives_readFields hstrict h⟩

/-- Reading a field marks it as read, and no other. -/
def Independent (d : Document) (form : RecordForm σ) : Prop :=
  ∀ f ∈ form.fields, ∀ v s s', Gives d (f.read v s) s' →
    ∀ g ∈ form.fields, g.isRead s' = (g.isRead s || g.name == f.name)

/-- The names that stand in the pairs are names of fields that were still to be read, all
different. -/
theorem Fills.exists_keys (hind : form.Independent d) (h : Fills d form sites s s') :
    ∃ keys : List String, (nodesOf sites).map (fun pair => d.name? pair.1) = keys.map some ∧
      keys.Nodup ∧ ∀ key ∈ keys, ∃ f ∈ form.fields, f.name = key ∧ f.isRead s = false := by
  induction h with
  | nil => exact ⟨[], rfl, .nil, nofun⟩
  | @cons k v rest s s₁ s' f known named fresh read _ ih =>
      obtain ⟨keys, hkeys, hnodup, hfresh⟩ := ih
      have hmarks := hind f known v s s₁ read
      refine ⟨f.name :: keys, ?_, List.nodup_cons.mpr ⟨?_, hnodup⟩, ?_⟩
      · rw [List.map_cons, ← hkeys, ← named]
        rfl
      · intro hagain
        obtain ⟨g, hg, hname, hread⟩ := hfresh f.name hagain
        rw [hmarks g hg, hname, beq_self_eq_true, Bool.or_true] at hread
        cases hread
      · intro key hkey
        rcases List.mem_cons.mp hkey with rfl | hkey
        · exact ⟨f, known, rfl, fresh⟩
        · obtain ⟨g, hg, hname, hread⟩ := hfresh key hkey
          rw [hmarks g hg, Bool.or_eq_false_iff] at hread
          exact ⟨g, hg, hname, hread.1⟩

/-- A name does not stand in the pairs when its field had been read before them. -/
theorem Fills.under?_eq_none (hind : form.Independent d) (h : Fills d form sites s s')
    {name : String} (hread : ∀ f ∈ form.fields, f.name = name → f.isRead s = true) :
    d.under? (nodesOf sites) name = none := by
  obtain ⟨keys, hkeys, -, hfresh⟩ := h.exists_keys hind
  rw [Document.under?, Option.map_eq_none_iff, List.find?_eq_none]
  intro pair hpair hname
  have hmem : some name ∈ keys.map some := by
    rw [← hkeys, ← of_decide_eq_true hname]
    exact List.mem_map_of_mem hpair
  obtain ⟨key, hkey, hsame⟩ := List.mem_map.mp hmem
  cases hsame
  obtain ⟨f, hf, hfname, hunread⟩ := hfresh name hkey
  rw [hread f hf hfname] at hunread
  cases hunread

theorem Fills.onlyNames (hind : form.Independent d) (h : Fills d form sites s s') :
    d.OnlyNames (form.fields.map Field.name) (nodesOf sites) := by
  obtain ⟨keys, hkeys, hnodup, hknown⟩ := h.exists_keys hind
  refine ⟨keys, hkeys, hnodup, fun key hkey => ?_⟩
  obtain ⟨f, hf, rfl, -⟩ := hknown key hkey
  exact List.mem_map_of_mem hf

/-! ## What a field holds -/

/-- The fields of this name are read by `read` into the part that `get` gets, and the
others leave it. -/
structure Column (d : Document) (form : RecordForm σ) (name : String) (get : σ → Option α)
    (read : Site → Reading α) : Prop where
  sets : ∀ f ∈ form.fields, f.name = name → ∀ v s s', Gives d (f.read v s) s' →
    ∃ a, Gives d (read v) a ∧ get s' = some a
  keeps : ∀ f ∈ form.fields, f.name ≠ name → ∀ v s s', Gives d (f.read v s) s' → get s' = get s

variable {name : String} {get : σ → Option α} {read : Site → Reading α}

/-- A field has a part for itself when the other fields have other names and leave it. -/
theorem Column.of_fields (set : σ → α → σ) (hget : ∀ s a, get (set s a) = some a)
    (h : ∀ f ∈ form.fields, f = .of name get set read ∨
      f.name ≠ name ∧ ∀ v s s', Gives d (f.read v s) s' → get s' = get s) :
    Column d form name get read where
  sets f hf hname v s s' hread := by
    rcases h f hf with rfl | ⟨hother, -⟩
    · obtain ⟨a, ha, rfl⟩ := gives_map hread
      exact ⟨a, ha, hget s a⟩
    · exact absurd hname hother
  keeps f hf hname v s s' hread := by
    rcases h f hf with rfl | ⟨-, hleaves⟩
    · exact absurd rfl hname
    · exact hleaves v s s' hread

/-- A part keeps what it had when its name does not stand in the pairs, and otherwise has
what was read from under the name. -/
theorem Fills.column (hind : form.Independent d) (hcol : Column d form name get read)
    (h : Fills d form sites s s') :
    (d.under? (nodesOf sites) name = none ∧ get s' = get s) ∨
    ∃ v a, d.under? (nodesOf sites) name = some v.node ∧ Gives d (read v) a ∧
      get s' = some a := by
  induction h with
  | nil s => exact .inl ⟨rfl, rfl⟩
  | @cons k v rest s s₁ s' f known named fresh read fills ih =>
      by_cases hname : f.name = name
      · obtain ⟨a, ha, hget⟩ := hcol.sets f known hname v s s₁ read
        have hrest : d.under? (nodesOf rest) name = none := by
          refine fills.under?_eq_none hind fun g hg hgname => ?_
          rw [hind f known v s s₁ read g hg, hgname, hname, beq_self_eq_true, Bool.or_true]
        refine .inr ⟨v, a, ?_, ha, ?_⟩
        · rw [← hname]
          exact under?_nodesOf_cons named
        · rcases ih with ⟨-, hkept⟩ | ⟨v', a', hunder, -⟩
          · rw [hkept, hget]
          · rw [hrest] at hunder
            cases hunder
      · rw [under?_nodesOf_cons_of_ne named hname, ← hcol.keeps f known hname v s s₁ read]
        exact ih

/-- What a part has come to have was read from under its name. -/
theorem Fills.exists_under (hind : form.Independent d) (hcol : Column d form name get read)
    (h : Fills d form sites s s') (hstart : get s = none) {a : α} (ha : get s' = some a) :
    ∃ v, d.under? (nodesOf sites) name = some v.node ∧ Gives d (read v) a := by
  rcases h.column hind hcol with ⟨-, hkept⟩ | ⟨v, b, hunder, hb, hget⟩
  · rw [hkept, hstart] at ha
    cases ha
  · rw [hget] at ha
    cases ha
    exact ⟨v, hunder, hb⟩

end RecordForm

end PolledTerminal.Yaml
