import PolledTerminal.Proofs.Text.Escapes
set_option autoImplicit false

/-!
# A reader of markup

A document is a heading and one element, and an element is a start tag with
attributes, the elements inside it and an end tag.  The reader goes over a
document one character at a time: it knows where in a tag it is and which
elements are open.  It takes less than the format allows, there is no text
outside tags and attributes stand between double quotes, so what it takes is
well formed.
-/

namespace PolledTerminal.Text.Markup

/-! ## Documents -/

/-- An attribute: its value, and what was written for it. -/
structure Attribute where
  name : String
  value : String
  written : String
  deriving DecidableEq, Repr, Inhabited

/-- What a start tag says. -/
structure Tag where
  name : String
  attributes : List Attribute := []
  deriving DecidableEq, Repr, Inhabited

/-- An element: its start tag and the elements inside it. -/
inductive Element where
  | mk (tag : Tag) (children : List Element)
  deriving Inhabited

/-- The value under a name. -/
def Tag.attribute? (t : Tag) (name : String) : Option String :=
  (t.attributes.find? fun x => x.name = name).map Attribute.value

namespace Element

/-- The start tag. -/
def tag : Element → Tag
  | .mk t _ => t

/-- The elements directly inside. -/
def children : Element → List Element
  | .mk _ es => es

mutual

/-- The element and all that are inside it, in the order of their start tags. -/
def all : Element → List Element
  | .mk t es => .mk t es :: allOf es

/-- Some elements and all that are inside them. -/
def allOf : List Element → List Element
  | [] => []
  | e :: es => all e ++ allOf es

end

theorem allOf_eq_flatMap (es : List Element) : allOf es = es.flatMap all := by
  induction es with
  | nil => rfl
  | cons e es ih => rw [allOf, ih, List.flatMap_cons]

/-- How many elements have this name, from the element itself down. -/
def count (e : Element) (name : String) : Nat := e.all.countP fun x => x.tag.name = name

end Element

/-! ## Places in a document -/

/-- Where in a document a reader is, and what it has read of the tag there. -/
inductive Place where
  /-- in the heading, with this much of it to come -/
  | heading (left : List Char)
  /-- between tags -/
  | between
  /-- behind the bracket that opens a tag -/
  | opened
  /-- in the name of an end tag -/
  | closing (name : List Char)
  /-- in the name of a start tag -/
  | naming (name : List Char)
  /-- behind a blank in a start tag -/
  | within (tag : Tag)
  /-- in the name of an attribute -/
  | attribute (tag : Tag) (name : List Char)
  /-- behind the equals sign of an attribute -/
  | equals (tag : Tag) (name : List Char)
  /-- in the value of an attribute -/
  | value (tag : Tag) (name written : List Char)
  /-- behind the value of an attribute -/
  | valued (tag : Tag)
  /-- behind the slash of a tag without content -/
  | slashed (tag : Tag)
  deriving DecidableEq, Repr, Inhabited

/-- The heading of every document. -/
def heading : List Char := "<?xml version=\"1.0\" encoding=\"UTF-8\"?>".toList

/-- White space of the format. -/
def isSpace (c : Char) : Bool := c = ' ' || c = '\t' || c = '\n' || c = '\r'

/-- A name may start with the character. -/
def isNameStart (c : Char) : Bool := c.isAlpha || c = '_'

/-- A name may go on with the character. -/
def isNameChar (c : Char) : Bool := c.isAlphanum || c = '_' || c = '-' || c = '.'

/-- The text is a name. -/
def isName (s : String) : Bool :=
  match s.toList with
  | c :: cs => isNameStart c && cs.all isNameChar
  | [] => false

/-- Put an attribute at the end; a name stands once, and a value has to be one. -/
def Tag.add? (t : Tag) (name written : String) : Option Tag :=
  if t.attributes.any fun x => x.name = name then none
  else (decode? written).map fun value =>
    { t with attributes := t.attributes ++ [⟨name, value, written⟩] }

/-! ## Reading -/

/-- A reader: its place, the open elements with what is inside them so far, the
innermost first, and the document's element once it is complete. -/
structure Reader where
  place : Place
  unfinished : List (Tag × List Element)
  root : Option Element

namespace Reader

/-- The reader at another place. -/
def moveTo (r : Reader) (p : Place) : Reader := { r with place := p }

/-- Start an element. -/
def enter (r : Reader) (t : Tag) : Reader :=
  { r with place := .between, unfinished := (t, []) :: r.unfinished }

/-- Put a complete element where it belongs: inside the innermost open one, or
as the only one of the document. -/
def put? (r : Reader) (e : Element) : Option Reader :=
  match r.unfinished with
  | (t, es) :: outer => some { r with place := .between, unfinished := (t, es ++ [e]) :: outer }
  | [] => if r.root.isNone then some ⟨.between, [], some e⟩ else none

/-- End the innermost open element, which has to have this name. -/
def leave? (r : Reader) (name : String) : Option Reader :=
  match r.unfinished with
  | (t, es) :: outer =>
    if t.name = name then { r with unfinished := outer }.put? (.mk t es) else none
  | [] => none

/-- What may stand behind a name or a value in a start tag. -/
def after? (r : Reader) (t : Tag) (c : Char) : Option Reader :=
  if c = '>' then some (r.enter t)
  else if c = '/' then some (r.moveTo (.slashed t))
  else if isSpace c then some (r.moveTo (.within t))
  else none

/-- Read a character. -/
def step? (r : Reader) (c : Char) : Option Reader :=
  match r.place with
  | .heading [] => none
  | .heading (d :: left) =>
    if c = d then some (r.moveTo (if left.isEmpty then .between else .heading left)) else none
  | .between =>
    if c = '<' then some (r.moveTo .opened) else if isSpace c then some r else none
  | .opened =>
    if c = '/' then some (r.moveTo (.closing []))
    else if isNameStart c then some (r.moveTo (.naming [c]))
    else none
  | .closing name =>
    if c = '>' then r.leave? (String.ofList name)
    else if isNameChar c then some (r.moveTo (.closing (name ++ [c])))
    else none
  | .naming name =>
    if isNameChar c then some (r.moveTo (.naming (name ++ [c])))
    else r.after? ⟨String.ofList name, []⟩ c
  | .within t =>
    if isNameStart c then some (r.moveTo (.attribute t [c])) else r.after? t c
  | .attribute t name =>
    if c = '=' then some (r.moveTo (.equals t name))
    else if isNameChar c then some (r.moveTo (.attribute t (name ++ [c])))
    else none
  | .equals t name =>
    if c = '"' then some (r.moveTo (.value t name [])) else none
  | .value t name written =>
    if c = '"' then
      (t.add? (String.ofList name) (String.ofList written)).map fun t => r.moveTo (.valued t)
    else some (r.moveTo (.value t name (written ++ [c])))
  | .valued t => r.after? t c
  | .slashed t => if c = '>' then r.put? (.mk t []) else none

/-- Read some characters. -/
def readAll? (r : Reader) (cs : List Char) : Option Reader := cs.foldlM step? r

/-- The reader before a document. -/
def start : Reader := ⟨.heading heading, [], none⟩

end Reader

/-- The element of a document: all open elements have ended, and so has the last
tag. -/
def read? (s : String) : Option Element := do
  let r ← Reader.start.readAll? s.toList
  if r.place = .between ∧ r.unfinished.isEmpty then r.root else none

/-- The characters lead a reader from the start of a document to a place between
tags. -/
def EndsBetweenTags (cs : List Char) : Prop :=
  ∃ r, Reader.start.readAll? cs = some r ∧ r.place = .between

/-! ## Pieces of a document -/

/-- The characters lead from one reader to another; their only control
characters are newlines between tags, and their ampersands start references. -/
structure Carries (r : Reader) (cs : List Char) (r' : Reader) : Prop where
  reads : r.readAll? cs = some r'
  newlines : ∀ before c after, cs = before ++ c :: after → isControl c = true →
    c = '\n' ∧ ∃ m, r.readAll? before = some m ∧ m.place = .between
  references : ReferencesOnly cs

/-- The character is no control character and starts no reference. -/
def isPlain (c : Char) : Bool := !isControl c && c ≠ '&'

theorem Reader.readAll?_append (r : Reader) (cs ds : List Char) :
    r.readAll? (cs ++ ds) = (r.readAll? cs).bind fun m => m.readAll? ds :=
  List.foldlM_append

theorem Reader.readAll?_cons (r : Reader) (c : Char) (cs : List Char) :
    r.readAll? (c :: cs) = (r.step? c).bind fun m => m.readAll? cs :=
  List.foldlM_cons

theorem Reader.readAll?_of_step {r m : Reader} {c : Char} (h : r.step? c = some m)
    (cs : List Char) : r.readAll? (c :: cs) = m.readAll? cs := by
  rw [readAll?_cons, h, Option.bind_some]

namespace Carries

variable {r m r' : Reader} {cs ds : List Char}

theorem trans (h₁ : Carries r cs m) (h₂ : Carries m ds r') : Carries r (cs ++ ds) r' where
  reads := by rw [Reader.readAll?_append, h₁.reads, Option.bind_some, h₂.reads]
  references := h₁.references.append h₂.references
  newlines := by
    intro before c after h hcontrol
    rcases List.append_eq_append_iff.mp h with ⟨front, rfl, hrest⟩ | ⟨front, hfront, hrest⟩
    · obtain ⟨rfl, k, hk, hplace⟩ := h₂.newlines front c after hrest hcontrol
      exact ⟨rfl, k, by rw [Reader.readAll?_append, h₁.reads, Option.bind_some, hk], hplace⟩
    · cases front with
      | nil =>
          obtain ⟨rfl, k, hk, hplace⟩ := h₂.newlines [] c after hrest.symm hcontrol
          rw [List.append_nil] at hfront
          exact ⟨rfl, k, by rw [← hfront, h₁.reads, ← hk]; rfl, hplace⟩
      | cons a front =>
          obtain ⟨rfl, -⟩ := List.cons.inj hrest
          exact h₁.newlines before c front hfront hcontrol

/-- Two texts one after the other. -/
theorem append {s t : String} (h₁ : Carries r s.toList m) (h₂ : Carries m t.toList r') :
    Carries r (s ++ t).toList r' := by
  rw [String.toList_append]
  exact h₁.trans h₂

/-- A piece without control characters. -/
theorem of_quiet (hreads : r.readAll? cs = some r') (hquiet : ∀ c ∈ cs, isControl c = false)
    (hreferences : ReferencesOnly cs) : Carries r cs r' where
  reads := hreads
  references := hreferences
  newlines := by
    rintro before c after rfl hcontrol
    rw [hquiet c (List.mem_append_right _ List.mem_cons_self)] at hcontrol
    cases hcontrol

/-- A plain piece only has to be read. -/
theorem of_plain (hreads : r.readAll? cs = some r') (hplain : cs.all isPlain = true) :
    Carries r cs r' := by
  rw [List.all_eq_true] at hplain
  refine of_quiet hreads (fun c hc => ?_)
    (referencesOnly_of_not_mem fun h => absurd (hplain '&' h) (by decide))
  have hc := hplain c hc
  rw [isPlain, Bool.and_eq_true, Bool.not_eq_true'] at hc
  exact hc.1

theorem newline (hplace : r.place = .between) : Carries r ['\n'] r where
  reads := by
    have hstep : r.step? '\n' = some r := by
      rw [Reader.step?, hplace]
      rfl
    rw [Reader.readAll?_of_step hstep]
    rfl
  references := referencesOnly_of_not_mem (by decide)
  newlines := by
    intro before c after h _
    cases before with
    | nil =>
        obtain ⟨rfl, -⟩ := List.cons.inj h
        exact ⟨rfl, r, rfl, hplace⟩
    | cons a before => exact absurd (List.cons.inj h).2.symm (by simp)

/-- Two plain pieces on different lines. -/
theorem of_lines (cs ds : List Char) (h₁ : r.readAll? cs = some m) (hplace : m.place = .between)
    (h₂ : m.readAll? ds = some r') (hplain : (cs ++ ds).all isPlain = true) :
    Carries r (cs ++ '\n' :: ds) r' := by
  rw [List.all_append, Bool.and_eq_true] at hplain
  exact (of_plain h₁ hplain.1).trans ((newline hplace).trans (of_plain h₂ hplain.2))

end Carries

/-! ### Attributes -/

/-- The tag with one more attribute, escaped. -/
def Tag.plus (t : Tag) (name value : String) : Tag :=
  { t with attributes := t.attributes ++ [⟨name, value, encode value⟩] }

/-- What was written for the values of a tag is escaped. -/
def Tag.IsEscaped (t : Tag) : Prop := ∀ x ∈ t.attributes, x.written = encode x.value

theorem Tag.isEscaped_nil {name : String} : Tag.IsEscaped ⟨name, []⟩ :=
  fun _ hx => absurd hx List.not_mem_nil

theorem Tag.IsEscaped.plus {t : Tag} (h : t.IsEscaped) (name value : String) :
    (t.plus name value).IsEscaped := by
  intro x hx
  rcases List.mem_append.mp hx with hx | hx
  · exact h x hx
  · rw [List.mem_singleton.mp hx]

theorem Tag.add?_encode {t : Tag} {name value : String}
    (hnew : ∀ x ∈ t.attributes, x.name ≠ name) (hlegal : value.toList.all isLegal = true) :
    t.add? name (encode value) = some (t.plus name value) := by
  have hnone : (t.attributes.any fun x => x.name = name) = false := by
    simpa using hnew
  rw [add?, hnone, decode?_encode (List.all_eq_true.mp hlegal)]
  rfl

section

variable {t : Tag} {unfinished : List (Tag × List Element)} {root : Option Element}

theorem readAll?_attribute {cs : List Char} (h : ∀ c ∈ cs, isNameChar c = true)
    (seen : List Char) :
    Reader.readAll? ⟨.attribute t seen, unfinished, root⟩ cs
      = some ⟨.attribute t (seen ++ cs), unfinished, root⟩ := by
  induction cs generalizing seen with
  | nil => rw [List.append_nil]; rfl
  | cons c cs ih =>
      have hc := h c List.mem_cons_self
      have hne : c ≠ '=' := fun heq => absurd (heq ▸ hc) (by decide)
      have hstep : Reader.step? ⟨.attribute t seen, unfinished, root⟩ c
          = some ⟨.attribute t (seen ++ [c]), unfinished, root⟩ := by
        simp [Reader.step?, hne, hc, Reader.moveTo]
      rw [Reader.readAll?_of_step hstep, ih fun d hd => h d (List.mem_cons_of_mem c hd),
        List.append_assoc, List.singleton_append]

theorem readAll?_value {cs : List Char} (h : '"' ∉ cs) (name written : List Char) :
    Reader.readAll? ⟨.value t name written, unfinished, root⟩ cs
      = some ⟨.value t name (written ++ cs), unfinished, root⟩ := by
  induction cs generalizing written with
  | nil => rw [List.append_nil]; rfl
  | cons c cs ih =>
      rw [List.mem_cons, not_or] at h
      have hstep : Reader.step? ⟨.value t name written, unfinished, root⟩ c
          = some ⟨.value t name (written ++ [c]), unfinished, root⟩ := by
        simp [Reader.step?, Ne.symm h.1, Reader.moveTo]
      rw [Reader.readAll?_of_step hstep, ih h.2, List.append_assoc, List.singleton_append]

theorem isNameChar_of_isNameStart {c : Char} (h : isNameStart c = true) : isNameChar c = true := by
  simp only [isNameStart, isNameChar, Char.isAlphanum, Bool.or_eq_true] at h ⊢
  rcases h with h | h
  · exact .inl (.inl (.inl (.inl h)))
  · exact .inl (.inl (.inr h))

theorem isPlain_of_isNameChar {c : Char} (h : isNameChar c = true) : isPlain c = true := by
  have hne : c ≠ '&' := fun heq => absurd (heq ▸ h) (by decide)
  simp only [isNameChar, Bool.or_eq_true, decide_eq_true_eq] at h
  rcases h with ((h | rfl) | rfl) | rfl
  · simp [isPlain, (isSafe_of_isAlphanum h).not_control, hne]
  all_goals decide

theorem carries_name {name : String} (hname : isName name = true) :
    Carries ⟨.within t, unfinished, root⟩ name.toList
      ⟨.attribute t name.toList, unfinished, root⟩ := by
  unfold isName at hname
  split at hname
  case h_1 c cs heq =>
      rw [Bool.and_eq_true, List.all_eq_true] at hname
      rw [heq]
      have hstep : Reader.step? ⟨.within t, unfinished, root⟩ c
          = some ⟨.attribute t [c], unfinished, root⟩ := by
        simp [Reader.step?, hname.1, Reader.moveTo]
      refine .of_plain ?_ (List.all_eq_true.mpr (List.forall_mem_cons.mpr ⟨?_, fun d hd => ?_⟩))
      · rw [Reader.readAll?_of_step hstep, readAll?_attribute hname.2]
        rfl
      · exact isPlain_of_isNameChar (isNameChar_of_isNameStart hname.1)
      · exact isPlain_of_isNameChar (hname.2 d hd)
  case h_2 => cases hname

/-- An attribute that was escaped is read back. -/
theorem carries_attribute {name value : String} (hname : isName name = true)
    (hnew : ∀ x ∈ t.attributes, x.name ≠ name) (hlegal : value.toList.all isLegal = true) :
    Carries ⟨.within t, unfinished, root⟩
      (name.toList ++ (['=', '"'] ++ ((encode value).toList ++ ['"'])))
      ⟨.valued (t.plus name value), unfinished, root⟩ := by
  have hsafe : ∀ c ∈ (encode value).toList, IsSafe c := fun c => isSafe_of_mem_encode
  have hquote : '"' ∉ (encode value).toList := fun h => (hsafe '"' h).ne_quote rfl
  have hread : Reader.readAll? ⟨.value t name.toList [], unfinished, root⟩ (encode value).toList
      = some ⟨.value t name.toList ([] ++ (encode value).toList), unfinished, root⟩ :=
    readAll?_value hquote name.toList []
  rw [List.nil_append] at hread
  have hvalue := Carries.of_quiet hread (fun c hc => (hsafe c hc).not_control)
    (referencesOnly_encode value)
  have hend : Carries ⟨.value t name.toList (encode value).toList, unfinished, root⟩ ['"']
      ⟨.valued (t.plus name value), unfinished, root⟩ := by
    refine .of_plain ?_ (by decide)
    have hstep : Reader.step? ⟨.value t name.toList (encode value).toList, unfinished, root⟩ '"'
        = some ⟨.valued (t.plus name value), unfinished, root⟩ := by
      simp [Reader.step?, Tag.add?_encode hnew hlegal, Reader.moveTo]
    rw [Reader.readAll?_of_step hstep]
    rfl
  have hequals : Carries ⟨.attribute t name.toList, unfinished, root⟩ ['=', '"']
      ⟨.value t name.toList [], unfinished, root⟩ := .of_plain rfl (by decide)
  exact (carries_name hname).trans (hequals.trans (hvalue.trans hend))

end

end PolledTerminal.Text.Markup
