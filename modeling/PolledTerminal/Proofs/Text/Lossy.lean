import PolledTerminal.Proofs.Text.Utf8
set_option autoImplicit false

/-!
# What any octets show

Whatever octets are read as text, they fall into the octets of characters and
into pieces of which each shows as one replacement character.  A text without
replacement characters can therefore come only from its own octets, standing
together; and where these stand together they are read as that text, because no
piece before them takes the first of them in.
-/

namespace PolledTerminal.Text.Utf8

/-! ## Pieces -/

/-- The octets fall into pieces that show these characters, one for each. -/
inductive Shows : Bytes → List Char → Prop where
  | nil : Shows [] []
  | character (c : Char) {bs : Bytes} {cs : List Char} (h : Shows bs cs) :
      Shows (encodeChar c ++ bs) (c :: cs)
  /-- octets that are no character are replaced together -/
  | replaced {piece bs : Bytes} {cs : List Char} (hpiece : piece ≠ []) (h : Shows bs cs) :
      Shows (piece ++ bs) ('\uFFFD' :: cs)

namespace Shows

variable {bs : Bytes} {cs ds : List Char}

theorem append {bs' : Bytes} {cs' : List Char} (h : Shows bs cs) (h' : Shows bs' cs') :
    Shows (bs ++ bs') (cs ++ cs') := by
  induction h with
  | nil => exact h'
  | character c _ ih =>
      rw [List.append_assoc]
      exact .character c ih
  | replaced hpiece _ ih =>
      rw [List.append_assoc]
      exact .replaced hpiece ih

/-- Where the characters are cut the octets can be cut. -/
theorem exists_append (h : Shows bs (cs ++ ds)) :
    ∃ xs ys, bs = xs ++ ys ∧ Shows xs cs ∧ Shows ys ds := by
  induction cs generalizing bs with
  | nil => exact ⟨[], bs, rfl, .nil, h⟩
  | cons c cs ih =>
      cases h with
      | character _ h =>
          obtain ⟨xs, ys, rfl, hxs, hys⟩ := ih h
          exact ⟨_, ys, (List.append_assoc _ _ _).symm, .character c hxs, hys⟩
      | replaced hpiece h =>
          obtain ⟨xs, ys, rfl, hxs, hys⟩ := ih h
          exact ⟨_, ys, (List.append_assoc _ _ _).symm, .replaced hpiece hxs, hys⟩

/-- Where nothing is replaced there are only characters. -/
theorem eq_encode (h : Shows bs cs) (hcs : '\uFFFD' ∉ cs) : bs = cs.flatMap encodeChar := by
  induction h with
  | nil => rfl
  | character c _ ih =>
      rw [List.flatMap_cons, ← ih fun hmem => hcs (List.mem_cons_of_mem c hmem)]
  | replaced => exact absurd List.mem_cons_self hcs

end Shows

/-! ## Characters that are started -/

/-- So many octets and one more, the first of them within bounds, complete a
character whose octets begin with those held. -/
def Completes : Nat → Nat → UInt8 → UInt8 → Bytes → Prop
  | 0, value, lo, hi, held => ∀ b : UInt8, lo.toNat ≤ b.toNat → b.toNat ≤ hi.toNat →
      encodeChar (Char.ofNat (value * 0x40 + (b.toNat - 0x80))) = held ++ [b]
  | more + 1, value, lo, hi, held => ∀ b : UInt8, lo.toNat ≤ b.toNat → b.toNat ≤ hi.toNat →
      Completes more (value * 0x40 + (b.toNat - 0x80)) 0x80 0xBF (held ++ [b])

/-- These are the octets of what is started. -/
def Partial.Holds : Partial → Bytes → Prop
  | .idle, held => held = []
  | .started value need lo hi, held => held ≠ [] ∧ 0x80 ≤ lo.toNat ∧ hi.toNat ≤ 0xBF ∧
      ∃ more, need = more + 1 ∧ Completes more value lo hi held

theorem toNat_ofNat_of_isValidChar {n : Nat} (h : n.isValidChar) : (Char.ofNat n).toNat = n := by
  unfold Char.ofNat
  rw [dif_pos h]
  rfl

/-- An octet that continues a character is given by its lowest six bits. -/
theorem continuation_eq {b : UInt8} {n : Nat} (hb : b.toNat = 0x80 + n % 0x40) :
    continuation n = b :=
  UInt8.toNat_inj.mp ((toNat_continuation n).trans hb.symm)

theorem ofNat_eq {b : UInt8} {n : Nat} (h : b.toNat = n) : UInt8.ofNat n = b := by
  rw [← h]
  exact UInt8.ofNat_toNat

section Completes

variable {a lo hi : UInt8} {value : Nat} (hlo : 0x80 ≤ lo.toNat) (hhi : hi.toNat ≤ 0xBF)
include hlo hhi

theorem completes_two (ha : a.toNat = 0xC0 + value) (hlow : 2 ≤ value) (hhigh : value < 0x20) :
    Completes 0 value lo hi [a] := by
  intro b hb hb'
  have htoNat : (Char.ofNat (value * 0x40 + (b.toNat - 0x80))).toNat = _ :=
    toNat_ofNat_of_isValidChar (.inl (by omega))
  rw [encodeChar_two (by omega) (by omega), htoNat, ofNat_eq (b := a) (by omega),
    continuation_eq (b := b) (by omega)]
  rfl

/-- Three octets make a character of three octets, if it is not one of two or half of
another. -/
theorem completes_three (ha : a.toNat = 0xE0 + value) (hvalue : value < 0x10)
    (hlow : value = 0 → 0xA0 ≤ lo.toNat) (hhalf : value = 0xD → hi.toNat ≤ 0x9F) :
    Completes 1 value lo hi [a] := by
  intro b hb hb' c (hc : 0x80 ≤ c.toNat) (hc' : c.toNat ≤ 0xBF)
  have htoNat : (Char.ofNat ((value * 0x40 + (b.toNat - 0x80)) * 0x40 + (c.toNat - 0x80))).toNat =
      _ := toNat_ofNat_of_isValidChar (by rw [Nat.isValidChar]; omega)
  rw [encodeChar_three (by omega) (by omega), htoNat, ofNat_eq (b := a) (by omega),
    continuation_eq (b := b) (by omega), continuation_eq (b := c) (by omega)]
  rfl

/-- Four octets make a character of four octets, if it is not one of three or beyond
the last. -/
theorem completes_four (ha : a.toNat = 0xF0 + value) (hvalue : value ≤ 4)
    (hlow : value = 0 → 0x90 ≤ lo.toNat) (hlast : value = 4 → hi.toNat ≤ 0x8F) :
    Completes 2 value lo hi [a] := by
  intro b hb hb' c (hc : 0x80 ≤ c.toNat) (hc' : c.toNat ≤ 0xBF) d (hd : 0x80 ≤ d.toNat)
    (hd' : d.toNat ≤ 0xBF)
  have htoNat : (Char.ofNat (((value * 0x40 + (b.toNat - 0x80)) * 0x40 + (c.toNat - 0x80)) * 0x40 +
      (d.toNat - 0x80))).toNat = _ :=
    toNat_ofNat_of_isValidChar (by rw [Nat.isValidChar]; omega)
  rw [encodeChar_four (by omega), htoNat, ofNat_eq (b := a) (by omega),
    continuation_eq (b := b) (by omega), continuation_eq (b := c) (by omega),
    continuation_eq (b := d) (by omega)]
  rfl

end Completes

theorem encodeChar_of_lead {b : UInt8} {c : Char} (h : lead b = some (.inl c)) :
    encodeChar c = [b] := by
  simp only [lead] at h
  split_ifs at h with hone <;> cases h
  have htoNat := toNat_ofNat_of_isValidChar (n := b.toNat) (.inl (by omega))
  rw [encodeChar_one (by omega), htoNat, UInt8.ofNat_toNat]

theorem holds_of_lead {b : UInt8} {p : Partial} (h : lead b = some (.inr p)) : p.Holds [b] := by
  have hb := b.toNat_lt
  simp only [lead] at h
  split_ifs at h <;> cases h <;> refine ⟨List.cons_ne_nil _ _, by decide, by decide, ?_⟩
  · exact ⟨0, rfl, completes_two (by decide) (by decide) (by omega) (by omega) (by omega)⟩
  · exact ⟨1, rfl, completes_three (by decide) (by decide) (by omega) (by omega) (by decide)
      (by omega)⟩
  · exact ⟨1, rfl, completes_three (by decide) (by decide) (by omega) (by omega) (by omega)
      (by decide)⟩
  · exact ⟨1, rfl, completes_three (by decide) (by decide) (by omega) (by omega) (by omega)
      (by omega)⟩
  · exact ⟨2, rfl, completes_four (by decide) (by decide) (by omega) (by omega) (by decide)
      (by omega)⟩
  · exact ⟨2, rfl, completes_four (by decide) (by decide) (by omega) (by omega) (by omega)
      (by omega)⟩
  · exact ⟨2, rfl, completes_four (by decide) (by decide) (by omega) (by omega) (by omega)
      (by decide)⟩

/-! ## One octet -/

/-- An octet that a started character refuses replaces it and is read afresh. -/
theorem octet_refused (value need : Nat) {lo hi b : UInt8}
    (h : b.toNat < lo.toNat ∨ hi.toNat < b.toNat) :
    octet (.started value need lo hi) b =
      ((octet .idle b).1 ++ ['\uFFFD'], (octet .idle b).2) := by
  have houtside : ¬((lo ≤ b && b ≤ hi) = true) := by
    simp only [UInt8.le_iff_toNat_le, Bool.and_eq_true, decide_eq_true_eq]
    omega
  simp only [octet, if_neg houtside]
  rcases lead b with _ | c | q <;> rfl

theorem octet_taken {value need : Nat} {lo hi b : UInt8} (hlo : lo.toNat ≤ b.toNat)
    (hhi : b.toNat ≤ hi.toNat) :
    octet (.started value need lo hi) b =
      if need ≤ 1 then ([Char.ofNat (value * 0x40 + (b.toNat - 0x80))], .idle)
      else ([], .started (value * 0x40 + (b.toNat - 0x80)) (need - 1) 0x80 0xBF) := by
  have hinside : (lo ≤ b && b ≤ hi) = true := by
    simp only [UInt8.le_iff_toNat_le, hlo, hhi, decide_true, Bool.and_self]
  simp only [octet, hinside, if_true]

/-- An octet read afresh is a character, starts one, or is replaced. -/
theorem shows_octet_idle (b : UInt8) :
    ∃ xs ys, [b] = xs ++ ys ∧ Shows xs (octet .idle b).1.reverse ∧ (octet .idle b).2.Holds ys := by
  cases hlead : lead b with
  | none =>
      refine ⟨[b], [], rfl, ?_, ?_⟩
      · simpa [octet, hlead] using Shows.replaced (List.cons_ne_nil b []) .nil
      · simp [octet, hlead, Partial.Holds]
  | some what =>
      cases what with
      | inl c =>
          refine ⟨[b], [], rfl, ?_, ?_⟩
          · simpa [octet, hlead, encodeChar_of_lead hlead] using Shows.character c .nil
          · simp [octet, hlead, Partial.Holds]
      | inr q =>
          refine ⟨[], [b], rfl, ?_, ?_⟩
          · simpa [octet, hlead] using Shows.nil
          · simpa [octet, hlead] using holds_of_lead hlead

/-- Of what is held and one octet a part is settled, and the rest is held. -/
theorem shows_octet {p : Partial} {held : Bytes} (hp : p.Holds held) (b : UInt8) :
    ∃ xs ys, held ++ [b] = xs ++ ys ∧ Shows xs (octet p b).1.reverse ∧ (octet p b).2.Holds ys := by
  obtain ⟨xs, ys, hcut, hshows, hholds⟩ := shows_octet_idle b
  cases p with
  | idle =>
      subst hp
      exact ⟨xs, ys, hcut, hshows, hholds⟩
  | started value need lo hi =>
      obtain ⟨hheld, hlo, hhi, more, rfl, hcompletes⟩ := hp
      by_cases hinside : lo.toNat ≤ b.toNat ∧ b.toNat ≤ hi.toNat
      · rw [octet_taken hinside.1 hinside.2]
        cases more with
        | zero =>
            refine ⟨held ++ [b], [], (List.append_nil _).symm, ?_, rfl⟩
            rw [← hcompletes b hinside.1 hinside.2]
            simpa using Shows.character _ .nil
        | succ more =>
            refine ⟨[], held ++ [b], rfl, .nil, by simp, by decide, by decide, more, rfl, ?_⟩
            exact hcompletes b hinside.1 hinside.2
      · rw [octet_refused _ _ (by omega)]
        refine ⟨held ++ xs, ys, by rw [hcut, List.append_assoc], ?_, hholds⟩
        simpa using Shows.replaced hheld hshows

/-! ## Many octets -/

theorem drive_cons (settled : List Char) (p : Partial) (b : UInt8) (bs : Bytes) :
    drive settled p (b :: bs) = drive ((octet p b).1 ++ settled) (octet p b).2 bs := rfl

/-- However octets are begun, those before the rest are settled but for what is held. -/
theorem exists_drive_append {p : Partial} {held : Bytes} (hp : p.Holds held)
    (settled : List Char) (before : Bytes) :
    ∃ xs ys cs q, held ++ before = xs ++ ys ∧ Shows xs cs ∧ q.Holds ys ∧
      ∀ rest, drive settled p (before ++ rest) = drive (cs.reverse ++ settled) q rest := by
  induction before generalizing p held settled with
  | nil => exact ⟨[], held, [], p, List.append_nil held, .nil, hp, fun _ => rfl⟩
  | cons b before ih =>
      obtain ⟨xs, ys, hcut, hshows, hholds⟩ := shows_octet hp b
      obtain ⟨xs', ys', cs, q, hcut', hshows', hholds', hdrive⟩ :=
        ih hholds ((octet p b).1 ++ settled)
      refine ⟨xs ++ xs', ys', (octet p b).1.reverse ++ cs, q, ?_, hshows.append hshows', hholds',
        fun rest => ?_⟩
      · rw [List.append_assoc, ← hcut', ← List.append_assoc, ← hcut, List.append_assoc,
          List.singleton_append]
      · rw [List.cons_append, drive_cons, hdrive, List.reverse_append, List.reverse_reverse,
          List.append_assoc]

theorem shows_decodeLossyChars (bs : Bytes) : Shows bs (decodeLossyChars bs) := by
  obtain ⟨xs, ys, cs, q, hcut, hshows, hholds, hdrive⟩ :=
    exists_drive_append (p := .idle) rfl [] bs
  have hdecode := hdrive []
  rw [List.append_nil, List.append_nil] at hdecode
  rw [decodeLossyChars, hdecode, show bs = xs ++ ys from hcut]
  cases q with
  | idle =>
      rw [show ys = [] from hholds, List.append_nil]
      simpa [drive] using hshows
  | started =>
      have hpiece := hshows.append (.replaced hholds.1 .nil)
      simpa [drive] using hpiece

/-! ## Texts in octets -/

/-- The first octet of a character continues no other. -/
theorem exists_encodeChar_eq_cons (c : Char) :
    ∃ b bs, encodeChar c = b :: bs ∧ (b.toNat < 0x80 ∨ 0xBF < b.toNat) := by
  have hvalid := toNat_valid c
  by_cases h₁ : c.toNat < 0x80
  · refine ⟨_, _, encodeChar_one h₁, .inl ?_⟩
    rwa [toNat_ofNat_of_lt (by omega)]
  by_cases h₂ : c.toNat < 0x800
  · refine ⟨_, _, encodeChar_two (by omega) h₂, .inr ?_⟩
    rw [toNat_ofNat_of_lt (by omega)]
    omega
  by_cases h₃ : c.toNat < 0x10000
  · refine ⟨_, _, encodeChar_three (by omega) h₃, .inr ?_⟩
    rw [toNat_ofNat_of_lt (by omega)]
    omega
  · refine ⟨_, _, encodeChar_four (by omega), .inr ?_⟩
    rw [toNat_ofNat_of_lt (by omega)]
    omega

theorem drive_flatMap_encodeChar_append (settled cs : List Char) (rest : Bytes) :
    drive settled .idle (cs.flatMap encodeChar ++ rest) =
      drive (cs.reverse ++ settled) .idle rest := by
  induction cs generalizing settled with
  | nil => rfl
  | cons c cs ih =>
      rw [List.flatMap_cons, List.append_assoc, drive_encodeChar_append, ih, List.reverse_cons,
        List.append_assoc]
      rfl

/-- Whatever is started, a text behind it is read as that text. -/
theorem exists_drive_flatMap_encodeChar {p : Partial} {held : Bytes} (hp : p.Holds held)
    (settled : List Char) (c : Char) (cs : List Char) :
    ∃ settled', ∀ rest, drive settled p ((c :: cs).flatMap encodeChar ++ rest) =
      drive ((c :: cs).reverse ++ settled') .idle rest := by
  cases p with
  | idle => exact ⟨settled, fun rest => drive_flatMap_encodeChar_append settled (c :: cs) rest⟩
  | started value need lo hi =>
      -- the character that is started does not take the first octet in
      refine ⟨'\uFFFD' :: settled, fun rest => ?_⟩
      obtain ⟨b, bs, hc, hb⟩ := exists_encodeChar_eq_cons c
      obtain ⟨-, hlo, hhi, -⟩ := hp
      have houtside : b.toNat < lo.toNat ∨ hi.toNat < b.toNat := by omega
      have hrefused := octet_refused value need houtside
      rw [← drive_flatMap_encodeChar_append, List.flatMap_cons, hc, List.cons_append,
        List.cons_append, drive_cons, drive_cons, hrefused, List.append_assoc,
        List.singleton_append]

theorem exists_drive_eq_append (settled : List Char) (p : Partial) (bs : Bytes) :
    ∃ later, drive settled p bs = later ++ settled := by
  induction bs generalizing settled p with
  | nil =>
      by_cases hp : p = .idle
      · exact ⟨[], if_pos hp⟩
      · exact ⟨['\uFFFD'], if_neg hp⟩
  | cons b bs ih =>
      obtain ⟨later, hlater⟩ := ih ((octet p b).1 ++ settled) (octet p b).2
      exact ⟨later ++ (octet p b).1, by rw [drive_cons, hlater, List.append_assoc]⟩

variable {cs : List Char} {bs : Bytes}

/-- A text that nothing replaced stands in what octets show as its octets stand among
them. -/
theorem infix_decodeLossyChars_iff (hcs : '\uFFFD' ∉ cs) :
    cs <:+: decodeLossyChars bs ↔ cs.flatMap encodeChar <:+: bs := by
  constructor
  · rintro ⟨before, after, hdecode⟩
    have hshows := shows_decodeLossyChars bs
    rw [← hdecode] at hshows
    obtain ⟨xs, zs, rfl, hxs, -⟩ := hshows.exists_append
    obtain ⟨xs, ys, rfl, -, hys⟩ := hxs.exists_append
    exact ⟨xs, zs, by rw [← hys.eq_encode hcs]⟩
  · rintro ⟨before, after, rfl⟩
    cases cs with
    | nil => exact List.nil_infix
    | cons c cs =>
        obtain ⟨_, _, shown, q, _, _, hholds, hdrive⟩ :=
          exists_drive_append (p := .idle) rfl [] before
        obtain ⟨settled, hsettled⟩ :=
          exists_drive_flatMap_encodeChar hholds (shown.reverse ++ []) c cs
        obtain ⟨later, hlater⟩ := exists_drive_eq_append ((c :: cs).reverse ++ settled) .idle after
        refine ⟨settled.reverse, later.reverse, ?_⟩
        rw [decodeLossyChars, List.append_assoc before, hdrive, hsettled, hlater]
        simp

theorem decodeLossyChars_eq_iff (hcs : '\uFFFD' ∉ cs) :
    decodeLossyChars bs = cs ↔ bs = cs.flatMap encodeChar := by
  constructor
  · intro hdecode
    have hshows := shows_decodeLossyChars bs
    rw [hdecode] at hshows
    exact hshows.eq_encode hcs
  · rintro rfl
    rw [decodeLossyChars, drive_flatMap_encodeChar, List.append_nil, List.reverse_reverse]

/-! ## Octets one by one -/

/-- Each octet as the character of its number. -/
def octetChars (bs : Bytes) : List Char := bs.map fun b => Char.ofNat b.toNat

theorem toNat_octetChar (b : UInt8) : (Char.ofNat b.toNat).toNat = b.toNat := by
  have hb := b.toNat_lt
  exact toNat_ofNat_of_isValidChar (.inl (by omega))

/-- No octet is as high as the replacement character. -/
theorem replacement_notMem_octetChars (bs : Bytes) : '\uFFFD' ∉ octetChars bs := by
  intro hmem
  obtain ⟨b, -, hb⟩ := List.mem_map.mp hmem
  have hnumber := congrArg Char.toNat hb
  rw [toNat_octetChar, show ('\uFFFD' : Char).toNat = 0xFFFD from rfl] at hnumber
  have hlt := b.toNat_lt
  omega

theorem length_encodeChar_octetChar (b : UInt8) :
    (encodeChar (Char.ofNat b.toNat)).length = if 0x80 ≤ b.toNat then 2 else 1 := by
  have hb := b.toNat_lt
  have hnumber := toNat_octetChar b
  by_cases hhigh : 0x80 ≤ b.toNat
  · rw [if_pos hhigh, encodeChar_two (by omega) (by omega)]
    rfl
  · rw [if_neg hhigh, encodeChar_one (by omega)]
    rfl

/-- Every octet from 0x80 on takes one more. -/
theorem length_flatMap_octetChars (bs : Bytes) :
    ((octetChars bs).flatMap encodeChar).length = bs.length + bs.countP fun b => 0x80 ≤ b.toNat := by
  induction bs with
  | nil => rfl
  | cons b bs ih =>
      rw [octetChars, List.map_cons, List.flatMap_cons, List.length_append,
        length_encodeChar_octetChar, ← octetChars, ih, List.length_cons, List.countP_cons]
      simp only [decide_eq_true_eq]
      split <;> omega

theorem flatMap_octetChars_of_lt {bs : Bytes} (h : ∀ b ∈ bs, b.toNat < 0x80) :
    (octetChars bs).flatMap encodeChar = bs := by
  induction bs with
  | nil => rfl
  | cons b bs ih =>
      have hb := h b List.mem_cons_self
      rw [octetChars, List.map_cons, List.flatMap_cons, ← octetChars,
        ih fun c hc => h c (List.mem_cons_of_mem b hc),
        encodeChar_one (by rwa [toNat_octetChar]), toNat_octetChar, UInt8.ofNat_toNat]
      rfl

/-- Octets are read as text one by one just when all of them are below 0x80. -/
theorem decodeLossyChars_eq_octetChars_iff (bs : Bytes) :
    decodeLossyChars bs = octetChars bs ↔ ∀ b ∈ bs, b.toNat < 0x80 := by
  rw [decodeLossyChars_eq_iff (replacement_notMem_octetChars bs)]
  constructor
  · intro hsame b hb
    have hlength := congrArg List.length hsame
    rw [length_flatMap_octetChars] at hlength
    have hnone : (bs.countP fun b => 0x80 ≤ b.toNat) = 0 := by omega
    simpa using List.countP_eq_zero.mp hnone b hb
  · exact fun hlow => (flatMap_octetChars_of_lt hlow).symm

end PolledTerminal.Text.Utf8
