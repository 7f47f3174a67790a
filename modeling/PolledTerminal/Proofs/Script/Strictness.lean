import PolledTerminal.Proofs.Program.Rehearsed
import PolledTerminal.Proofs.Yaml.Records
set_option autoImplicit false

/-!
# Scripts are read strictly

A misspelt field of a script that was passed over would be a check that always holds.
Nothing is passed over: in an accepted script every key of its mappings is the name of a
field and stands there once, and every entry of its assertions is one assertion.
-/

namespace PolledTerminal

open PolledTerminal.Yaml (Document Node Reading RecordForm Site Value nodesOf)
open PolledTerminal.Yaml.Reading

namespace Script

/-! ## Acceptance -/

/-- The document is that of a script that can be used. -/
def Accepts (d : Document) (s : Script) : Prop := d.read read = .ok s ∧ s.validate = .ok ()

/-- A script is loaded from a file just when the document of its bytes is accepted. -/
theorem exists_carryOut_script_iff {w : World} {path : String} {s : Script} :
    (∃ w', w.carryOut (Loading.script World.host.readFile path) = some (.ok s, w')) ↔
      ∃ bytes, w.files.contents path = .ok bytes ∧ Accepts (.ofBytes bytes) s := by
  unfold Loading.script
  rw [World.carryOut_file]
  constructor
  · rintro ⟨w', h⟩
    obtain ⟨a, ha, h⟩ := bind_eq_ok.mp (Prod.mk.inj (Option.some.inj h)).1
    obtain ⟨_, hcheck, h⟩ := bind_eq_ok.mp h
    cases h
    cases hcontents : w.files.contents path with
    | error why =>
        rw [hcontents] at ha
        cases why <;> cases ha
    | ok bytes =>
        rw [hcontents] at ha
        exact ⟨bytes, rfl, mapError_eq_ok.mp ha, mapError_eq_ok.mp hcheck⟩
  · rintro ⟨bytes, hcontents, hread, hvalid⟩
    rw [hcontents, Loading.parse, mapError_eq_ok.mpr hread]
    refine ⟨w, ?_⟩
    show some (s.validate.mapError Trouble.script >>= fun _ => pure s, w) = _
    rw [hvalid]
    rfl

/-- What validation checks. -/
structure IsValid (s : Script) : Prop where
  version : s.schemaVersion = "1.0"
  system : ∀ path, s.inputs.system = some path → Text.Blank.trim path.toList ≠ []
  keys : s.inputs.firmware = .selftest → s.inputs.keys = ""
  steps : 1 ≤ s.limits.maxSteps

theorem isValid_of_validate {s : Script} (h : s.validate = .ok ()) : s.IsValid := by
  unfold validate at h
  split at h
  case isTrue => cases h
  case isFalse hversion =>
  split at h
  case isTrue => cases h
  case isFalse hsystem =>
  split at h
  case isTrue => cases h
  case isFalse hkeys =>
  split at h
  case isTrue => cases h
  case isFalse hsteps =>
  refine ⟨not_not.mp hversion, fun path hpath hblank => hsystem ?_, fun hselftest => ?_,
    Nat.pos_of_ne_zero hsteps⟩
  · rw [hpath, Option.any_some, hblank]
    rfl
  · by_contra hne
    exact hkeys ⟨hselftest, hne⟩

/-! ## Mappings

Every field of a form has a part of the draft for itself, so what has been read can be told
from the draft: which fields, and what stood under the names of some. -/

/-- The mappings of a script that name fields. -/
inductive Part where
  | document
  | inputs
  | limits
  deriving DecidableEq, Repr

namespace Part

/-- The names of a mapping's fields. -/
def names : Part → List String
  | .document => ["schema_version", "inputs", "limits", "assertions"]
  | .inputs => ["firmware", "system", "keys"]
  | .limits => ["max_steps", "wall_time_ms"]

/-- The pairs of the mapping in a document. -/
def pairs? (d : Document) : Part → Option (List (Node × Node))
  | .document => d.pairs? d.top
  | .inputs => do d.pairs? (← d.under? (← d.pairs? d.top) "inputs")
  | .limits => do d.pairs? (← d.under? (← d.pairs? d.top) "limits")

end Part

section Forms

variable {d : Document} {p : Site}

theorem independent_inputsForm : inputsForm.Independent d := by
  intro f hf v s s' h g hg
  simp only [inputsForm, List.mem_cons, List.not_mem_nil, or_false] at hf hg
  rcases hf with rfl | rfl | rfl <;> obtain ⟨a, -, rfl⟩ := gives_map h <;>
    rcases hg with rfl | rfl | rfl <;> simp [Yaml.Field.of]

theorem independent_limitsForm : limitsForm.Independent d := by
  intro f hf v s s' h g hg
  simp only [limitsForm, List.mem_cons, List.not_mem_nil, or_false] at hf hg
  rcases hf with rfl | rfl <;> obtain ⟨a, -, rfl⟩ := gives_map h <;>
    rcases hg with rfl | rfl <;> simp [Yaml.Field.of]

theorem independent_form : form.Independent d := by
  intro f hf v s s' h g hg
  simp only [form, List.mem_cons, List.not_mem_nil, or_false] at hf hg
  rcases hf with rfl | rfl | rfl | rfl <;> obtain ⟨a, -, rfl⟩ := gives_map h <;>
    rcases hg with rfl | rfl | rfl | rfl <;> simp [Yaml.Field.of]

theorem column_inputs : RecordForm.Column d form "inputs" Draft.inputs readInputs := by
  refine .of_fields (fun draft a => { draft with inputs := some a }) (fun _ _ => rfl) fun f hf => ?_
  simp only [form, List.mem_cons, List.not_mem_nil, or_false] at hf
  rcases hf with rfl | rfl | rfl | rfl
  · exact .inr ⟨by decide, RecordForm.leaves_of fun _ _ => rfl⟩
  · exact .inl rfl
  · exact .inr ⟨by decide, RecordForm.leaves_of fun _ _ => rfl⟩
  · exact .inr ⟨by decide, RecordForm.leaves_of fun _ _ => rfl⟩

theorem column_limits : RecordForm.Column d form "limits" Draft.limits readLimits := by
  refine .of_fields (fun draft a => { draft with limits := some a }) (fun _ _ => rfl) fun f hf => ?_
  simp only [form, List.mem_cons, List.not_mem_nil, or_false] at hf
  rcases hf with rfl | rfl | rfl | rfl
  · exact .inr ⟨by decide, RecordForm.leaves_of fun _ _ => rfl⟩
  · exact .inr ⟨by decide, RecordForm.leaves_of fun _ _ => rfl⟩
  · exact .inl rfl
  · exact .inr ⟨by decide, RecordForm.leaves_of fun _ _ => rfl⟩

theorem column_assertions :
    RecordForm.Column d form "assertions" Draft.assertions (Site.list readAssertion) := by
  refine .of_fields (fun draft a => { draft with assertions := some a }) (fun _ _ => rfl) fun f hf => ?_
  simp only [form, List.mem_cons, List.not_mem_nil, or_false] at hf
  rcases hf with rfl | rfl | rfl | rfl
  · exact .inr ⟨by decide, RecordForm.leaves_of fun _ _ => rfl⟩
  · exact .inr ⟨by decide, RecordForm.leaves_of fun _ _ => rfl⟩
  · exact .inr ⟨by decide, RecordForm.leaves_of fun _ _ => rfl⟩
  · exact .inl rfl

theorem onlyNames_of_gives_readInputs {inputs : Inputs} (h : Gives d (readInputs p) inputs) :
    ∃ pairs, d.pairs? p.node = some pairs ∧ d.OnlyNames Part.inputs.names pairs := by
  obtain ⟨draft, hdraft, -⟩ := gives_bind h
  obtain ⟨sites, hsites, hfills⟩ := RecordForm.fills_of_gives_read rfl hdraft
  exact ⟨_, hsites, hfills.onlyNames independent_inputsForm⟩

theorem onlyNames_of_gives_readLimits {limits : Limits} (h : Gives d (readLimits p) limits) :
    ∃ pairs, d.pairs? p.node = some pairs ∧ d.OnlyNames Part.limits.names pairs := by
  obtain ⟨draft, hdraft, -⟩ := gives_bind h
  obtain ⟨sites, hsites, hfills⟩ := RecordForm.fills_of_gives_read rfl hdraft
  exact ⟨_, hsites, hfills.onlyNames independent_limitsForm⟩

end Forms

/-! ## Assertions -/

/-- The entries of a script's assertions; none where it has no assertions. -/
def entries? (d : Document) : Option (List Node) := do
  let pairs ← d.pairs? d.top
  match d.under? pairs "assertions" with
  | some node => d.items? node
  | none => some []

/-- The node says a stop reason: its name, or its name or number in a mapping to nothing. -/
def SaysReason (d : Document) (node : Node) (reason : StopReason) : Prop :=
  d.text? node = some reason.key ∨ ∃ k, d.Says node (.mapping [(k, .null)]) ∧
    (k = .text reason.key ∨ ∃ i, k = .natural i ∧ StopReason.all[i]? = some reason)

/-- An entry is the assertion: a mapping of one pair or a sequence of one item, and where
the key is the name of a kind, an assertion of this kind with the value under it. -/
structure Asserts (d : Document) (entry : Node) (a : Assertion) : Prop where
  single : (∃ tag k v, d.shown? entry = some (.mapping tag [(k, v)])) ∨
    ∃ tag v, d.shown? entry = some (.sequence tag [v])
  displayContains : ∀ tag k v, d.shown? entry = some (.mapping tag [(k, v)]) →
    d.text? k = some "display_contains" →
      ∃ text, d.text? v = some text ∧ a = .displayContains text
  screenEquals : ∀ tag k v, d.shown? entry = some (.mapping tag [(k, v)]) →
    d.text? k = some "screen_equals" → ∃ text, d.text? v = some text ∧ a = .screenEquals text
  stopsWith : ∀ tag k v, d.shown? entry = some (.mapping tag [(k, v)]) →
    d.text? k = some "expected_stop_reason" →
      ∃ reason, SaysReason d v reason ∧ a = .stopsWith reason

section Assertions

variable {d : Document} {v w : Value} {a : Assertion} {name : String}

theorem soleField?_eq_some (h : soleField? name v = some w) :
    (∃ k, v = .mapping [(k, w)]) ∨ v = .sequence [w] := by
  unfold soleField? at h
  split at h
  case h_1 k u =>
    split at h
    · cases h
      exact .inl ⟨k, rfl⟩
    · cases h
  case h_2 u =>
    cases h
    exact .inr rfl
  case h_3 => cases h

/-- Whatever the form, there is one pair or one item. -/
theorem single_of_assertionOf? (h : assertionOf? v = some a) :
    (∃ k w, v = .mapping [(k, w)]) ∨ ∃ w, v = .sequence [w] := by
  have hsole : ∃ name w, soleField? name v = some w := by
    unfold assertionOf? at h
    cases hdisplay : soleField? "display_contains" v with
    | some w => exact ⟨_, w, hdisplay⟩
    | none =>
        cases hscreen : soleField? "screen_equals" v with
        | some w => exact ⟨_, w, hscreen⟩
        | none =>
            cases hstop : soleField? "expected_stop_reason" v with
            | some w => exact ⟨_, w, hstop⟩
            | none =>
                rw [hdisplay, hscreen, hstop] at h
                cases h
  obtain ⟨name, w, hw⟩ := hsole
  rcases soleField?_eq_some hw with ⟨k, hk⟩ | hw
  · exact .inl ⟨k, w, hk⟩
  · exact .inr ⟨w, hw⟩

/-- A pair whose key is a text is the field of this name and of no other. -/
theorem soleField?_text (name s : String) (w : Value) :
    soleField? name (.mapping [(.text s, w)]) = if name = s then some w else none := by
  by_cases h : name = s <;> simp [soleField?, nameOf?, h]

theorem textOnly?_eq_some {text : String} (h : textOnly? w = some text) : w = .text text := by
  cases w <;> cases h
  rfl

theorem assertionOf?_displayContains
    (h : assertionOf? (.mapping [(.text "display_contains", w)]) = some a) :
    ∃ text, w = .text text ∧ a = .displayContains text := by
  obtain ⟨text, htext, rfl⟩ : ∃ text, textOnly? w = some text ∧ .displayContains text = a := by
    simpa [assertionOf?, soleField?_text] using h
  exact ⟨text, textOnly?_eq_some htext, rfl⟩

theorem assertionOf?_screenEquals
    (h : assertionOf? (.mapping [(.text "screen_equals", w)]) = some a) :
    ∃ text, w = .text text ∧ a = .screenEquals text := by
  obtain ⟨text, htext, rfl⟩ : ∃ text, textOnly? w = some text ∧ .screenEquals text = a := by
    simpa [assertionOf?, soleField?_text] using h
  exact ⟨text, textOnly?_eq_some htext, rfl⟩

theorem assertionOf?_stopsWith
    (h : assertionOf? (.mapping [(.text "expected_stop_reason", w)]) = some a) :
    ∃ reason, stopReasonOf? w = some reason ∧ a = .stopsWith reason := by
  obtain ⟨reason, hreason, rfl⟩ : ∃ reason, stopReasonOf? w = some reason ∧
      .stopsWith reason = a := by
    simpa [assertionOf?, soleField?_text] using h
  exact ⟨reason, hreason, rfl⟩

/-- A name is told by itself or by its number. -/
theorem nameOf?_eq_some {names : List String} {k : Value} {i : Nat}
    (h : nameOf? names k = some i) : (∃ s, k = .text s ∧ names[i]? = some s) ∨ k = .natural i := by
  cases k with
  | text s =>
      obtain ⟨hi, hs, -⟩ := List.findIdx?_eq_some_iff_getElem.mp h
      exact .inl ⟨s, rfl, List.getElem?_eq_some_iff.mpr ⟨hi, of_decide_eq_true hs⟩⟩
  | natural n =>
      obtain ⟨-, hn⟩ := Option.ite_none_right_eq_some.mp h
      cases hn
      exact .inr rfl
  | _ => cases h

theorem key_of_ofKey? {s : String} {reason : StopReason}
    (h : StopReason.ofKey? s = some reason) : reason.key = s := by
  simpa using List.find?_some h

theorem saysReason_of_stopReasonOf? {node : Node} {reason : StopReason} (hsaid : d.Says node w)
    (h : stopReasonOf? w = some reason) : SaysReason d node reason := by
  unfold stopReasonOf? at h
  split at h
  case h_1 s =>
    rw [← key_of_ofKey? h] at hsaid
    exact .inl hsaid.text?_eq
  case h_2 k =>
    refine .inr ⟨k, hsaid, ?_⟩
    obtain ⟨i, hi, hreason⟩ := Option.bind_eq_some_iff.mp h
    rcases nameOf?_eq_some hi with ⟨s, rfl, hs⟩ | rfl
    · rw [List.getElem?_map, hreason] at hs
      cases hs
      exact .inl rfl
    · exact .inr ⟨i, rfl, hreason⟩
  case h_3 => cases h

/-- Where an entry is one pair, its assertion is that of the key's name and the value. -/
theorem exists_assertionOf?_of_pair {entry k value : Node} {tag : Option Text.Bytes}
    (hsaid : d.Says entry v) (h : assertionOf? v = some a)
    (hshown : d.shown? entry = some (.mapping tag [(k, value)])) (hk : d.text? k = some name) :
    ∃ w, d.Says value w ∧ assertionOf? (.mapping [(.text name, w)]) = some a := by
  rcases single_of_assertionOf? h with ⟨key, w, rfl⟩ | ⟨w, rfl⟩
  · obtain ⟨_, _, _, hshown', hkey, hvalue⟩ := hsaid.exists_pair
    rw [hshown] at hshown'
    cases hshown'
    rw [hkey.eq_text hk] at h
    exact ⟨w, hvalue, h⟩
  · obtain ⟨_, _, hshown', -⟩ := hsaid.exists_item
    rw [hshown] at hshown'
    cases hshown'

theorem asserts_of_said {entry : Node} (hsaid : d.Says entry v) (h : assertionOf? v = some a) :
    Asserts d entry a where
  single := by
    rcases single_of_assertionOf? h with ⟨k, w, rfl⟩ | ⟨w, rfl⟩
    · obtain ⟨tag, key, value, hshown, -⟩ := hsaid.exists_pair
      exact .inl ⟨tag, key, value, hshown⟩
    · obtain ⟨tag, item, hshown, -⟩ := hsaid.exists_item
      exact .inr ⟨tag, item, hshown⟩
  displayContains tag k value hshown hk := by
    obtain ⟨w, hw, ha⟩ := exists_assertionOf?_of_pair hsaid h hshown hk
    obtain ⟨text, rfl, rfl⟩ := assertionOf?_displayContains ha
    exact ⟨text, hw.text?_eq, rfl⟩
  screenEquals tag k value hshown hk := by
    obtain ⟨w, hw, ha⟩ := exists_assertionOf?_of_pair hsaid h hshown hk
    obtain ⟨text, rfl, rfl⟩ := assertionOf?_screenEquals ha
    exact ⟨text, hw.text?_eq, rfl⟩
  stopsWith tag k value hshown hk := by
    obtain ⟨w, hw, ha⟩ := exists_assertionOf?_of_pair hsaid h hshown hk
    obtain ⟨reason, hreason, rfl⟩ := assertionOf?_stopsWith ha
    exact ⟨reason, saysReason_of_stopReasonOf? hw hreason, rfl⟩

theorem asserts_of_gives_readAssertion {p : Site} (h : Gives d (readAssertion p) a) :
    Asserts d p.node a := by
  obtain ⟨v, hv, h⟩ := gives_bind h
  split at h
  case h_1 b hb =>
    rw [gives_pure h]
    exact asserts_of_said (Yaml.Freedom.says_of_gives_readWithin rfl hv) hb
  case h_2 => exact absurd h not_gives_refuse

theorem asserts_of_gives_list {p : Site} {as : List Assertion}
    (h : Gives d (p.list readAssertion) as) :
    ∃ entries, d.items? p.node = some entries ∧ List.Forall₂ (Asserts d) entries as := by
  obtain ⟨sites, hsites, has⟩ := Site.gives_list h
  refine ⟨_, hsites, List.forall₂_map_left_iff.mpr ?_⟩
  exact has.imp fun _ _ => asserts_of_gives_readAssertion

end Assertions

/-! ## Scripts -/

/-- Everything in the document is what the script was read from. -/
structure IsStrict (d : Document) (s : Script) : Prop where
  names : ∀ part : Part, ∃ pairs, part.pairs? d = some pairs ∧ d.OnlyNames part.names pairs
  assertions : ∃ entries, entries? d = some entries ∧ List.Forall₂ (Asserts d) entries s.assertions
  valid : s.IsValid

section Scripts

variable {d d' : Document} {s : Script}

theorem isStrict_of_accepts (h : Accepts d s) : IsStrict d s := by
  obtain ⟨hread, hvalid⟩ := h
  obtain ⟨draft, hdraft, hrest⟩ := gives_bind (Document.gives_of_read hread)
  obtain ⟨version, hversion, hrest⟩ := gives_bind hrest
  obtain ⟨inputs, hinputs, hrest⟩ := gives_bind hrest
  obtain ⟨limits, hlimits, hrest⟩ := gives_bind hrest
  obtain rfl := gives_pure hrest
  obtain ⟨sites, hsites, hfills⟩ := RecordForm.fills_of_gives_read rfl hdraft
  obtain ⟨inputsSite, hunderInputs, hreadInputs⟩ :=
    hfills.exists_under independent_form column_inputs rfl (Yaml.gives_required hinputs)
  obtain ⟨limitsSite, hunderLimits, hreadLimits⟩ :=
    hfills.exists_under independent_form column_limits rfl (Yaml.gives_required hlimits)
  have htop : d.pairs? d.top = some (nodesOf sites) := hsites
  refine ⟨fun part => ?_, ?_, isValid_of_validate hvalid⟩
  · cases part with
    | document => exact ⟨_, htop, hfills.onlyNames independent_form⟩
    | inputs =>
        obtain ⟨pairs, hpairs, hnames⟩ := onlyNames_of_gives_readInputs hreadInputs
        exact ⟨pairs, by simp [Part.pairs?, htop, hunderInputs, hpairs], hnames⟩
    | limits =>
        obtain ⟨pairs, hpairs, hnames⟩ := onlyNames_of_gives_readLimits hreadLimits
        exact ⟨pairs, by simp [Part.pairs?, htop, hunderLimits, hpairs], hnames⟩
  · rcases hfills.column independent_form column_assertions with
      ⟨hunder, hkept⟩ | ⟨v, as, hunder, has, hget⟩
    · have hnone : draft.assertions = none := hkept
      refine ⟨[], by simp [entries?, htop, hunder], ?_⟩
      rw [hnone]
      exact .nil
    · obtain ⟨entries, hentries, hall⟩ := asserts_of_gives_list has
      refine ⟨entries, by simp [entries?, htop, hunder, hentries], ?_⟩
      rw [hget]
      exact hall

/-! ## Additions -/

/-- The second document has one pair more than the first in this mapping. -/
def Part.Gains (part : Part) (d d' : Document) (k v : Node) : Prop :=
  ∃ before after, part.pairs? d = some (before ++ after) ∧
    part.pairs? d' = some (before ++ (k, v) :: after)

/-- The second document has one pair more than the first in one of its assertions. -/
def EntryGains (d d' : Document) (k v : Node) : Prop :=
  ∃ before after entry entry' tag pair, entries? d = some (before ++ entry :: after) ∧
    entries? d' = some (before ++ entry' :: after) ∧
    d.shown? entry = some (.mapping tag [pair]) ∧
    (d'.shown? entry' = some (.mapping tag [pair, (k, v)]) ∨
      d'.shown? entry' = some (.mapping tag [(k, v), pair]))

theorem not_accepts_of_gains {part : Part} {k v : Node} (h : part.Gains d d' k v)
    (hk : ∀ name ∈ part.names, d'.name? k ≠ some name) (s : Script) : ¬ Accepts d' s := by
  intro haccepts
  obtain ⟨before, after, -, hpairs⟩ := h
  obtain ⟨pairs, hpairs', keys, hkeys, -, hnames⟩ := (isStrict_of_accepts haccepts).names part
  rw [hpairs] at hpairs'
  cases hpairs'
  have hmem : d'.name? k ∈ keys.map some := by
    rw [← hkeys]
    exact List.mem_map_of_mem (List.mem_append_right before List.mem_cons_self)
  obtain ⟨name, hname, hsame⟩ := List.mem_map.mp hmem
  exact hk name (hnames hname) hsame.symm

theorem not_accepts_of_entryGains {k v : Node} (h : EntryGains d d' k v) (s : Script) :
    ¬ Accepts d' s := by
  intro haccepts
  obtain ⟨before, after, entry, entry', tag, pair, -, hentries, -, hentry'⟩ := h
  obtain ⟨entries, hentries', hall⟩ := (isStrict_of_accepts haccepts).assertions
  rw [hentries] at hentries'
  cases hentries'
  have hrest := List.forall₂_drop before.length hall
  rw [List.drop_left] at hrest
  obtain ⟨a, _, ha, -⟩ := List.forall₂_cons_left_iff.mp hrest
  obtain ⟨p, q, htwo⟩ : ∃ p q, d'.shown? entry' = some (.mapping tag [p, q]) := by
    rcases hentry' with hbehind | hbefore
    · exact ⟨_, _, hbehind⟩
    · exact ⟨_, _, hbefore⟩
  rcases ha.single with ⟨_, _, _, hshown⟩ | ⟨_, _, hshown⟩
  · rw [htwo] at hshown
    cases hshown
  · rw [htwo] at hshown
    cases hshown

end Scripts

end Script

open Script in
/-- Scripts are read strictly.  A file is loaded just when the document of its bytes is
accepted.  In an accepted document every key of the outermost mapping, of the inputs and
of the limits names a field and stands there once, the assertions are those of the entries
one by one, and the script is valid.  With one more pair whose key is no field's name, or
with a second pair in an assertion, the document is not accepted any more. -/
theorem scripts_are_read_strictly :
    (∀ (w : World) (path : String) (s : Script),
      (∃ w', w.carryOut (Loading.script World.host.readFile path) = some (.ok s, w')) ↔
        ∃ bytes, w.files.contents path = .ok bytes ∧ Accepts (.ofBytes bytes) s) ∧
    ∀ (d : Document) (s : Script), Accepts d s → IsStrict d s ∧
      (∀ (part : Part) (d' : Document) (k v : Node), part.Gains d d' k v →
        (∀ name ∈ part.names, d'.name? k ≠ some name) → ∀ s', ¬ Accepts d' s') ∧
      ∀ (d' : Document) (k v : Node), EntryGains d d' k v → ∀ s', ¬ Accepts d' s' := by
  refine ⟨fun w path s => exists_carryOut_script_iff, fun d s h => ⟨?_, ?_, ?_⟩⟩
  · exact isStrict_of_accepts h
  · intro part d' k v hgains hk s'
    exact not_accepts_of_gains hgains hk s'
  · intro d' k v hgains s'
    exact not_accepts_of_entryGains hgains s'

namespace Script

/-- A document with these inputs and one assertion of these pairs. -/
def documentWith (inputs assertion : List (Node × Node)) : Document where
  root := some (.mapping none [
    (.scalar none "schema_version" .plain, .scalar none "1.0" .doubleQuoted),
    (.scalar none "inputs" .plain, .mapping none inputs),
    (.scalar none "limits" .plain,
      .mapping none [(.scalar none "max_steps" .plain, .scalar none "3" .plain)]),
    (.scalar none "assertions" .plain, .sequence none [.mapping none assertion])])

/-- The keys that are typed. -/
def keysEntry : Node × Node := (.scalar none "keys" .plain, .scalar none "ok" .plain)

/-- The screen that is expected. -/
def screenEntry : Node × Node :=
  (.scalar none "screen_equals" .plain, .scalar none "# ok" .doubleQuoted)

/-- A misspelt name. -/
def misspeltEntry : Node × Node :=
  (.scalar none "screen_equal" .plain, .scalar none "# no" .doubleQuoted)

/-- The script that these keys and this screen make. -/
def okScript : Script where
  schemaVersion := "1.0"
  inputs := { keys := "ok" }
  limits := { maxSteps := 3 }
  assertions := [.screenEquals "# ok"]

end Script

open Script in
/-- The document is accepted with its one assertion; with a misspelt name among the inputs or
in the assertion it is not. -/
theorem scripts_are_read_strictly_misspelt :
    Accepts (documentWith [keysEntry] [screenEntry]) okScript ∧
    IsStrict (documentWith [keysEntry] [screenEntry]) okScript ∧
    (∀ s, ¬ Accepts (documentWith [keysEntry, misspeltEntry] [screenEntry]) s) ∧
    ∀ s, ¬ Accepts (documentWith [keysEntry] [screenEntry, misspeltEntry]) s := by
  have haccepts : Accepts (documentWith [keysEntry] [screenEntry]) okScript := ⟨rfl, rfl⟩
  obtain ⟨-, hall⟩ := scripts_are_read_strictly
  obtain ⟨hstrict, hpart, hentry⟩ := hall _ _ haccepts
  refine ⟨haccepts, hstrict, hpart .inputs _ misspeltEntry.1 misspeltEntry.2 ?_ ?_,
    hentry _ misspeltEntry.1 misspeltEntry.2 ?_⟩
  · exact ⟨[keysEntry], [], rfl, rfl⟩
  · decide
  · exact ⟨[], [], _, _, none, screenEntry, rfl, rfl, rfl, .inl rfl⟩

end PolledTerminal
