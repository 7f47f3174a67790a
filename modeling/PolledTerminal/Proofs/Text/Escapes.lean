import Mathlib.Tactic.SplitIfs
import PolledTerminal.Text.Quoted
set_option autoImplicit false

/-!
# Reading back what was escaped

Both escapes turn a text into pieces, one for each character, and no piece is
the beginning of another.  So one piece can be read off the front of whatever
comes behind it, and two texts with the same escaped form are the same text.
-/

namespace PolledTerminal.Text

/-! ## Hexadecimal numerals -/

namespace Hex

/-- The number of a numeral, at least one digit. -/
def number? (cs : List Char) : Option Nat :=
  if cs.isEmpty then none else cs.foldlM (fun n c => (value? c).map (n * 16 + ·)) 0

theorem value?_digit : ∀ (upper : Bool), ∀ n < 16, value? (digit upper n) = some n := by decide

theorem foldlM_digitsAux (upper : Bool) {fuel n : Nat} (h : n < fuel) (acc : List Char) :
    (digitsAux upper fuel n acc).foldlM (fun n c => (value? c).map (n * 16 + ·)) 0
      = acc.foldlM (fun n c => (value? c).map (n * 16 + ·)) n := by
  fun_induction digitsAux upper fuel n acc with
  | case1 => omega
  | case2 => rfl
  | case3 fuel n acc ih =>
      have hvalue := value?_digit upper ((n + 1) % 16) (Nat.mod_lt _ (by decide))
      rw [ih (by omega), List.foldlM_cons, hvalue]
      simp only [Option.map_some, Option.bind_eq_bind, Option.bind_some, Nat.div_add_mod']

theorem digitsAux_eq_append (upper : Bool) (fuel n : Nat) (acc : List Char) :
    ∃ ds, digitsAux upper fuel n acc = ds ++ acc ∧ (0 < n → 0 < fuel → ds ≠ []) ∧
      ∀ c ∈ ds, ∃ k < 16, c = digit upper k := by
  fun_induction digitsAux upper fuel n acc with
  | case1 => exact ⟨[], rfl, by simp, by simp⟩
  | case2 => exact ⟨[], rfl, by simp, by simp⟩
  | case3 fuel n acc ih =>
      obtain ⟨ds, happ, -, hdigits⟩ := ih
      refine ⟨ds ++ [digit upper ((n + 1) % 16)], by simp [happ], by simp, fun c hc => ?_⟩
      rcases List.mem_append.mp hc with hc | hc
      · exact hdigits c hc
      · exact ⟨_, Nat.mod_lt _ (by decide), List.mem_singleton.mp hc⟩

/-- Every character of a numeral is a digit. -/
theorem isSome_value?_of_mem_numeral {upper : Bool} {n : Nat} {c : Char}
    (hc : c ∈ (numeral upper n).toList) : (value? c).isSome = true := by
  unfold numeral at hc
  split at hc
  · obtain rfl : c = '0' := by simpa using hc
    decide
  · obtain ⟨ds, happ, -, hdigits⟩ := digitsAux_eq_append upper (n + 1) n []
    rw [String.toList_ofList, happ, List.append_nil] at hc
    obtain ⟨k, hk, rfl⟩ := hdigits c hc
    rw [value?_digit upper k hk, Option.isSome_some]

theorem number?_numeral (upper : Bool) (n : Nat) : number? (numeral upper n).toList = some n := by
  unfold numeral
  split
  case isTrue h => rw [h]; rfl
  case isFalse h =>
    obtain ⟨ds, happ, hne, -⟩ := digitsAux_eq_append upper (n + 1) n []
    have hdigits : digitsAux upper (n + 1) n [] ≠ [] := by
      rw [happ, List.append_nil]
      exact hne (by omega) (by omega)
    rw [String.toList_ofList, number?, if_neg (by simpa using hdigits),
      foldlM_digitsAux upper (Nat.lt_succ_self n)]
    rfl

/-- A digit is a decimal digit or a letter. -/
theorem isAlphanum_of_isSome_value? {c : Char} (h : (value? c).isSome = true) :
    c.isAlphanum = true := by
  delta Char.isAlphanum Char.isAlpha Char.isUpper Char.isLower Char.isDigit
  simp only [Bool.or_eq_true, Bool.and_eq_true, decide_eq_true_eq]
  unfold value? at h
  split at h
  case isTrue hc =>
    simp only [Bool.and_eq_true, decide_eq_true_eq, Char.le_def] at hc
    exact .inr hc
  split at h
  case isTrue hc =>
    simp only [Bool.and_eq_true, decide_eq_true_eq, Char.le_def] at hc
    exact .inl (.inr ⟨hc.1, UInt32.le_trans hc.2 (by decide)⟩)
  split at h
  case isTrue hc =>
    simp only [Bool.and_eq_true, decide_eq_true_eq, Char.le_def] at hc
    exact .inl (.inl ⟨hc.1, UInt32.le_trans hc.2 (by decide)⟩)
  · cases h

end Hex

/-! ## Between quotes -/

namespace Quoted

/-- What a backslash and the characters behind it stand for, and the rest. -/
def escaped? : List Char → Option (Char × List Char)
  | '0' :: r => some ('\x00', r)
  | 't' :: r => some ('\t', r)
  | 'n' :: r => some ('\n', r)
  | 'r' :: r => some ('\r', r)
  | '"' :: r => some ('"', r)
  | '\\' :: r => some ('\\', r)
  | 'u' :: '\x7b' :: r =>
    (Hex.number? (r.takeWhile (· ≠ '\x7d'))).map fun n =>
      (Char.ofNat n, (r.dropWhile (· ≠ '\x7d')).tail)
  | _ => none

/-- The first character of what stands between quotes, and the rest. -/
def next? : List Char → Option (Char × List Char)
  | [] => none
  | c :: r => if c = '\\' then escaped? r else some (c, r)

theorem escaped?_numeral (c : Char) (r : List Char) :
    escaped? (['u', '\x7b'] ++ (Hex.numeral false c.toNat).toList ++ ['\x7d'] ++ r)
      = some (c, r) := by
  have hdigits : ∀ d ∈ (Hex.numeral false c.toNat).toList, decide (d ≠ '\x7d') = true := by
    intro d hd
    have hvalue := Hex.isSome_value?_of_mem_numeral hd
    refine decide_eq_true fun hbrace => ?_
    rw [hbrace] at hvalue
    exact absurd hvalue (by decide)
  simp only [List.cons_append, List.nil_append, List.append_assoc, escaped?]
  rw [List.takeWhile_append_of_pos hdigits, List.dropWhile_append_of_pos hdigits]
  simp [Hex.number?_numeral, Char.ofNat_toNat]

/-- A character's piece is read off the front of anything. -/
theorem next?_encodeChar (c : Char) (r : List Char) :
    next? (encodeChar c ++ r) = some (c, r) := by
  unfold encodeChar
  split_ifs with h₀ h₁ h₂ h₃ h₄ h₅
  · rw [h₀]; rfl
  · rw [h₁]; rfl
  · rw [h₂]; rfl
  · rw [h₃]; rfl
  · rw [h₄]; rfl
  · rw [h₅]; rfl
  · exact escaped?_numeral c r
  · exact if_neg h₅

theorem encodeChar_ne_nil (c : Char) : encodeChar c ≠ [] := by
  intro h
  have := next?_encodeChar c []
  rw [h] at this
  cases this

theorem flatMap_encodeChar_injective :
    ∀ {s t : List Char}, s.flatMap encodeChar = t.flatMap encodeChar → s = t
  | [], [], _ => rfl
  | [], d :: t, h => by
      rw [List.flatMap_nil, List.flatMap_cons] at h
      exact absurd (List.append_eq_nil_iff.mp h.symm).1 (encodeChar_ne_nil d)
  | c :: s, [], h => by
      rw [List.flatMap_nil, List.flatMap_cons] at h
      exact absurd (List.append_eq_nil_iff.mp h).1 (encodeChar_ne_nil c)
  | c :: s, d :: t, h => by
      rw [List.flatMap_cons, List.flatMap_cons] at h
      have hnext := next?_encodeChar c (s.flatMap encodeChar)
      rw [h, next?_encodeChar] at hnext
      obtain ⟨rfl, hrest⟩ := Prod.mk.inj (Option.some.inj hnext)
      rw [flatMap_encodeChar_injective hrest.symm]

/-- Different texts have different quoted forms. -/
theorem encode_injective : Function.Injective encode := by
  intro s t h
  have hlist := congrArg String.toList h
  simp only [encode, String.toList_ofList, List.cons_append, List.cons.injEq, true_and,
    List.append_cancel_right_eq] at hlist
  exact String.toList_inj.mp (flatMap_encodeChar_injective hlist)

end Quoted

/-! ## In attributes -/

namespace Markup

/-- The character may stand in a document at all. -/
def isLegal (c : Char) : Bool :=
  c = '\t' || c = '\n' || c = '\r' || (0x20 ≤ c.toNat && c.toNat < 0xFFFE) || 0xFFFF < c.toNat

/-- The character that a reference stands for, by what is between `&` and `;`. -/
def referenced? : List Char → Option Char
  | ['a', 'm', 'p'] => some '&'
  | ['l', 't'] => some '<'
  | ['g', 't'] => some '>'
  | ['q', 'u', 'o', 't'] => some '"'
  | ['a', 'p', 'o', 's'] => some '\''
  | '#' :: 'x' :: digits => (Hex.number? digits).map Char.ofNat
  | _ => none

/-- Read the value of an attribute; `reference` is what has come of a reference
that is not complete. -/
def decodeFrom (reference : Option (List Char)) : List Char → Option (List Char)
  | [] => if reference.isNone then some [] else none
  | c :: cs =>
    match reference with
    | none =>
      if c = '&' then decodeFrom (some []) cs
      else if c = '<' || isControl c || !isLegal c then none
      else (decodeFrom none cs).map (c :: ·)
    | some name =>
      if c = ';' then do
        let d ← referenced? name
        if isLegal d then (decodeFrom none cs).map (d :: ·) else none
      else decodeFrom (some (name ++ [c])) cs

/-- The value of an attribute that is written like this. -/
def decode? (written : String) : Option String :=
  (decodeFrom none written.toList).map String.ofList

/-! ### Safe characters -/

/-- The character may stand in a value as it is, apart from the ampersand. -/
structure IsSafe (c : Char) : Prop where
  not_control : isControl c = false
  ne_less : c ≠ '<'
  ne_greater : c ≠ '>'
  ne_quote : c ≠ '"'

instance (c : Char) : Decidable (IsSafe c) :=
  decidable_of_iff (isControl c = false ∧ c ≠ '<' ∧ c ≠ '>' ∧ c ≠ '"')
    ⟨fun ⟨h₁, h₂, h₃, h₄⟩ => ⟨h₁, h₂, h₃, h₄⟩, fun ⟨h₁, h₂, h₃, h₄⟩ => ⟨h₁, h₂, h₃, h₄⟩⟩

theorem toNat_of_isAlphanum {c : Char} (h : c.isAlphanum = true) :
    0x30 ≤ c.toNat ∧ c.toNat ≤ 0x7A := by
  delta Char.isAlphanum Char.isAlpha Char.isUpper Char.isLower Char.isDigit at h
  simp only [Bool.or_eq_true, Bool.and_eq_true, decide_eq_true_eq, UInt32.le_iff_toNat_le,
    Char.reduceVal, UInt32.reduceToNat] at h
  have hval : c.toNat = c.val.toNat := rfl
  omega

theorem isSafe_of_isAlphanum {c : Char} (h : c.isAlphanum = true) : IsSafe c := by
  have hrange := toNat_of_isAlphanum h
  refine ⟨?_, ?_, ?_, ?_⟩
  · simp only [isControl, Bool.or_eq_false_iff, Bool.and_eq_false_iff, decide_eq_false_iff_not]
    omega
  all_goals
    rintro rfl
    exact absurd h (by decide)

/-! ### One character -/

/-- The character may stand between the marks of a reference. -/
def isReferencePart (c : Char) : Bool := c.isAlphanum || c = '#'

/-- A character is written as itself, or as a reference that stands for it. -/
theorem encodeChar_cases (c : Char) :
    (encodeChar c = [c] ∧ c ≠ '&' ∧ IsSafe c) ∨
      ∃ name, encodeChar c = '&' :: name ++ [';'] ∧ referenced? name = some c ∧
        name.all isReferencePart = true := by
  unfold encodeChar
  split_ifs with h₀ h₁ h₂ h₃ h₄ h₅
  · exact .inr ⟨"amp".toList, rfl, by rw [h₀]; rfl, by decide⟩
  · exact .inr ⟨"lt".toList, rfl, by rw [h₁]; rfl, by decide⟩
  · exact .inr ⟨"gt".toList, rfl, by rw [h₂]; rfl, by decide⟩
  · exact .inr ⟨"quot".toList, rfl, by rw [h₃]; rfl, by decide⟩
  · exact .inr ⟨"apos".toList, rfl, by rw [h₄]; rfl, by decide⟩
  · refine .inr ⟨'#' :: 'x' :: (Hex.numeral true c.toNat).toList, rfl, ?_, ?_⟩
    · rw [referenced?, Hex.number?_numeral, Option.map_some, Char.ofNat_toNat]
    · refine List.all_eq_true.mpr (List.forall_mem_cons.mpr ⟨rfl, List.forall_mem_cons.mpr
        ⟨rfl, fun d hd => ?_⟩⟩)
      have hdigit := Hex.isAlphanum_of_isSome_value? (Hex.isSome_value?_of_mem_numeral hd)
      rw [isReferencePart, hdigit, Bool.true_or]
  · exact .inl ⟨rfl, h₀, by simpa using h₅, h₁, h₂, h₃⟩

theorem isSafe_of_mem_encodeChar {c d : Char} (hd : d ∈ encodeChar c) : IsSafe d := by
  rcases encodeChar_cases c with ⟨heq, -, hsafe⟩ | ⟨name, heq, -, hparts⟩
  · rw [heq, List.mem_singleton] at hd
    exact hd ▸ hsafe
  · rw [heq] at hd
    simp only [List.cons_append, List.mem_cons, List.mem_append, List.not_mem_nil, or_false] at hd
    rcases hd with rfl | hd | rfl
    · decide
    · have hpart := List.all_eq_true.mp hparts d hd
      rw [isReferencePart, Bool.or_eq_true, decide_eq_true_eq] at hpart
      rcases hpart with hd | rfl
      · exact isSafe_of_isAlphanum hd
      · decide
    · decide

/-- An escaped text has no control character, no angle bracket and no quote. -/
theorem isSafe_of_mem_encode {s : String} {d : Char} (hd : d ∈ (encode s).toList) : IsSafe d := by
  rw [encode, String.toList_ofList] at hd
  obtain ⟨c, -, hd⟩ := List.mem_flatMap.mp hd
  exact isSafe_of_mem_encodeChar hd

/-! ### Ampersands -/

/-- Every ampersand starts a reference that stands for a character. -/
def ReferencesOnly (cs : List Char) : Prop :=
  ∀ before after, cs = before ++ '&' :: after →
    ∃ c, encodeChar c ≠ [c] ∧ encodeChar c <+: '&' :: after

theorem referencesOnly_of_not_mem {cs : List Char} (h : '&' ∉ cs) : ReferencesOnly cs := by
  rintro before after rfl
  exact absurd (List.mem_append_right _ List.mem_cons_self) h

theorem ReferencesOnly.append {cs ds : List Char} (hcs : ReferencesOnly cs)
    (hds : ReferencesOnly ds) : ReferencesOnly (cs ++ ds) := by
  intro before after h
  rcases List.append_eq_append_iff.mp h with ⟨front, -, hrest⟩ | ⟨front, hfront, hrest⟩
  · exact hds front after hrest
  · cases front with
    | nil => exact hds [] after hrest.symm
    | cons a front =>
        obtain ⟨rfl, rfl⟩ := List.cons.inj hrest
        obtain ⟨c, hne, hprefix⟩ := hcs before front hfront
        exact ⟨c, hne, hprefix.trans (List.prefix_append ('&' :: front) ds)⟩

theorem referencesOnly_encodeChar (c : Char) : ReferencesOnly (encodeChar c) := by
  rcases encodeChar_cases c with ⟨heq, hne, -⟩ | ⟨name, heq, -, hparts⟩
  · rw [heq]
    exact referencesOnly_of_not_mem (by simpa using hne.symm)
  · intro before after h
    cases before with
    | nil => exact ⟨c, by simp [heq], h ▸ List.prefix_rfl⟩
    | cons a before =>
        rw [heq, List.cons_append, List.cons_append] at h
        have hmem : '&' ∈ name ++ [';'] := by
          rw [(List.cons.inj h).2]
          exact List.mem_append_right _ List.mem_cons_self
        have hmem : '&' ∈ name := by simpa using hmem
        exact absurd (List.all_eq_true.mp hparts '&' hmem) (by decide)

theorem referencesOnly_encode (s : String) : ReferencesOnly (encode s).toList := by
  rw [encode, String.toList_ofList]
  induction s.toList with
  | nil => exact referencesOnly_of_not_mem List.not_mem_nil
  | cons c cs ih => exact (referencesOnly_encodeChar c).append ih

/-! ### Reading back -/

theorem decodeFrom_reference {name : List Char} (h : ';' ∉ name) (seen r : List Char) :
    decodeFrom (some seen) (name ++ ';' :: r)
      = (referenced? (seen ++ name)).bind fun d =>
          if isLegal d then (decodeFrom none r).map (d :: ·) else none := by
  induction name generalizing seen with
  | nil => simp [decodeFrom]
  | cons c name ih =>
      rw [List.mem_cons, not_or] at h
      rw [List.cons_append, decodeFrom, if_neg (Ne.symm h.1), ih h.2, List.append_assoc,
        List.singleton_append]

/-- A character's piece is read off the front of anything. -/
theorem decodeFrom_encodeChar {c : Char} (hlegal : isLegal c = true) (r : List Char) :
    decodeFrom none (encodeChar c ++ r) = (decodeFrom none r).map (c :: ·) := by
  rcases encodeChar_cases c with ⟨heq, hne, hsafe⟩ | ⟨name, heq, hstands, hparts⟩
  · rw [heq, List.singleton_append, decodeFrom]
    simp [hne, hsafe.ne_less, hsafe.not_control, hlegal]
  · have hend : ';' ∉ name := fun hmem =>
      absurd (List.all_eq_true.mp hparts ';' hmem) (by decide)
    rw [heq, List.append_assoc, List.cons_append, List.singleton_append, decodeFrom, if_pos rfl,
      decodeFrom_reference hend, List.nil_append, hstands, Option.bind_some, if_pos hlegal]

/-- What was escaped is read back. -/
theorem decode?_encode {s : String} (hlegal : ∀ c ∈ s.toList, isLegal c = true) :
    decode? (encode s) = some s := by
  have hread : ∀ cs : List Char, (∀ c ∈ cs, isLegal c = true) →
      decodeFrom none (cs.flatMap encodeChar) = some cs := by
    intro cs hcs
    induction cs with
    | nil => rfl
    | cons c cs ih =>
        rw [List.flatMap_cons, decodeFrom_encodeChar (hcs c List.mem_cons_self),
          ih fun d hd => hcs d (List.mem_cons_of_mem c hd), Option.map_some]
  rw [decode?, encode, String.toList_ofList, hread _ hlegal, Option.map_some,
    String.ofList_toList]

example : encode "x\r<\"y\"" = "x&#xD;&lt;&quot;y&quot;" := by decide

/-! ### Legal texts -/

theorem isLegal_of_isAlphanum {c : Char} (h : c.isAlphanum = true) : isLegal c = true := by
  have hrange := toNat_of_isAlphanum h
  simp only [isLegal, Bool.or_eq_true, Bool.and_eq_true, decide_eq_true_eq]
  omega

/-- What may not stand in a document leaves no mark. -/
theorem isUnseen_of_isLegal_eq_false {c : Char} (h : isLegal c = false) :
    Unseen.isUnseen c = true := by
  simp only [isLegal, Bool.or_eq_false_iff, Bool.and_eq_false_iff, decide_eq_false_iff_not] at h
  have hcases : c.toNat ≤ 0x1F ∨ c.toNat = '\uFFFE'.toNat ∨ c.toNat = '\uFFFF'.toNat := by
    simp only [Char.reduceToNat]
    omega
  rcases hcases with hlow | hfirst | hsecond
  · rw [Unseen.isUnseen, Unseen.ranges, Ranges.has, if_pos hlow]
    exact decide_eq_true (Nat.zero_le _)
  · rw [Char.toNat_inj.mp hfirst]
    decide +kernel
  · rw [Char.toNat_inj.mp hsecond]
    decide +kernel

theorem isLegal_of_mem_quotedChar {c d : Char} (hd : d ∈ Quoted.encodeChar c) :
    isLegal d = true := by
  have hshort : ∀ piece : List Char, piece.all isLegal = true → d ∈ piece → isLegal d = true :=
    fun piece hpiece hd => List.all_eq_true.mp hpiece d hd
  unfold Quoted.encodeChar at hd
  split_ifs at hd with h₀ h₁ h₂ h₃ h₄ h₅ hunseen
  · exact hshort _ (by decide) hd
  · exact hshort _ (by decide) hd
  · exact hshort _ (by decide) hd
  · exact hshort _ (by decide) hd
  · exact hshort _ (by decide) hd
  · exact hshort _ (by decide) hd
  · rcases List.mem_append.mp hd with hd | hd
    · rcases List.mem_append.mp hd with hd | hd
      · exact hshort _ (by decide) hd
      · exact isLegal_of_isAlphanum
          (Hex.isAlphanum_of_isSome_value? (Hex.isSome_value?_of_mem_numeral hd))
    · exact hshort _ (by decide) hd
  · rw [List.mem_singleton.mp hd]
    cases hlegal : isLegal c with
    | true => rfl
    | false =>
        rw [isUnseen_of_isLegal_eq_false hlegal, Bool.true_or] at hunseen
        exact absurd rfl hunseen

/-- A quoted text may stand in a document. -/
theorem isLegal_of_mem_quoted {s : String} {d : Char} (hd : d ∈ (Quoted.encode s).toList) :
    isLegal d = true := by
  rw [Quoted.encode, String.toList_ofList] at hd
  simp only [List.cons_append, List.mem_cons, List.mem_append, List.not_mem_nil, or_false] at hd
  rcases hd with rfl | hd | rfl
  · decide
  · obtain ⟨c, -, hd⟩ := List.mem_flatMap.mp hd
    exact isLegal_of_mem_quotedChar hd
  · decide

end Markup

end PolledTerminal.Text
