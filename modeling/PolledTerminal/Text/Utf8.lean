set_option autoImplicit false

/-!
# Text: UTF-8

Text travels through the terminal as octets, one at a time, and is only read as
characters at the edges: configuration files on the way in, the screen on the
way out.  The octet machine below reads one octet at a time and keeps what a
started character still needs.  An octet that the started character refuses ends
it, as *one* replacement character, and is then read afresh; so every maximal
prefix of a character that never completes shows as exactly one U+FFFD.
-/

namespace PolledTerminal.Text

/-- Octets, the currency of ports, files and streams. -/
abbrev Bytes : Type := List UInt8

namespace Utf8

/-- The octets of one character. -/
def encodeChar (c : Char) : Bytes :=
  let n := c.toNat
  let low (shift : Nat) : UInt8 := UInt8.ofNat (0x80 + (n >>> shift) % 0x40)
  if n < 0x80 then [UInt8.ofNat n]
  else if n < 0x800 then [UInt8.ofNat (0xC0 + n >>> 6), low 0]
  else if n < 0x10000 then [UInt8.ofNat (0xE0 + n >>> 12), low 6, low 0]
  else [UInt8.ofNat (0xF0 + n >>> 18), low 12, low 6, low 0]

/-- The octets of a text. -/
def encode (s : String) : Bytes := s.toList.flatMap encodeChar

/-- What the octet machine holds between two octets. -/
inductive Partial where
  /-- no character is started -/
  | idle
  /-- `need` more octets complete a character; the next lies in `[lo, hi]` -/
  | started (value need : Nat) (lo hi : UInt8)
  deriving DecidableEq, Repr, Inhabited

/-- What one octet does when no character is started: a character, the start of
one, or nothing that can start a character (`none`). -/
def lead (b : UInt8) : Option (Char ⊕ Partial) :=
  let n := b.toNat
  if n < 0x80 then some (.inl (Char.ofNat n))
  else if n < 0xC2 then none
  else if n < 0xE0 then some (.inr (.started (n - 0xC0) 1 0x80 0xBF))
  else if n = 0xE0 then some (.inr (.started 0 2 0xA0 0xBF))
  else if n = 0xED then some (.inr (.started 0xD 2 0x80 0x9F))
  else if n < 0xF0 then some (.inr (.started (n - 0xE0) 2 0x80 0xBF))
  else if n = 0xF0 then some (.inr (.started 0 3 0x90 0xBF))
  else if n < 0xF4 then some (.inr (.started (n - 0xF0) 3 0x80 0xBF))
  else if n = 0xF4 then some (.inr (.started 4 3 0x80 0x8F))
  else none

/-- One octet: the characters it settles, newest first, and what is started
after it.  A refused octet settles U+FFFD before it is read afresh. -/
def octet (p : Partial) (b : UInt8) : List Char × Partial :=
  let afresh (before : List Char) : List Char × Partial :=
    match lead b with
    | none => ('\uFFFD' :: before, .idle)
    | some (.inl c) => (c :: before, .idle)
    | some (.inr q) => (before, q)
  match p with
  | .idle => afresh []
  | .started value need lo hi =>
    if lo ≤ b && b ≤ hi then
      let value := value * 0x40 + (b.toNat - 0x80)
      if need ≤ 1 then ([Char.ofNat value], .idle)
      else ([], .started value (need - 1) 0x80 0xBF)
    else afresh ['\uFFFD']

/-- Run the machine; `settled` holds the characters so far, newest first. -/
def drive (settled : List Char) (p : Partial) : Bytes → List Char
  | [] => if p = .idle then settled else '\uFFFD' :: settled
  | b :: bs =>
    let (cs, q) := octet p b
    drive (cs ++ settled) q bs

/-- The characters of any octets, each maximal invalid prefix as one U+FFFD. -/
def decodeLossyChars (bs : Bytes) : List Char := (drive [] .idle bs).reverse

/-- The text of any octets, each maximal invalid prefix as one U+FFFD. -/
def decodeLossy (bs : Bytes) : String := String.ofList (decodeLossyChars bs)

/-- The characters of well-formed octets: those that read back as the octets
they came from. -/
def decode? (bs : Bytes) : Option (List Char) :=
  let cs := decodeLossyChars bs
  if cs.flatMap encodeChar = bs then some cs else none

end Utf8

/-! ## Hexadecimal -/

namespace Hex

/-- One hexadecimal digit, below sixteen. -/
def digit (upper : Bool) (n : Nat) : Char :=
  if n < 10 then Char.ofNat (0x30 + n)
  else Char.ofNat ((if upper then 0x37 else 0x57) + n)

/-- The digits of `n`, most significant first, none for zero. -/
def digitsAux (upper : Bool) : Nat → Nat → List Char → List Char
  | 0, _, acc => acc
  | _ + 1, 0, acc => acc
  | fuel + 1, n + 1, acc =>
    digitsAux upper fuel ((n + 1) / 16) (digit upper ((n + 1) % 16) :: acc)

/-- The shortest hexadecimal numeral of `n`. -/
def numeral (upper : Bool) (n : Nat) : String :=
  if n = 0 then "0" else String.ofList (digitsAux upper (n + 1) n [])

/-- Two lowercase digits of an octet. -/
def octet (b : UInt8) : String :=
  String.ofList [digit false (b.toNat / 16), digit false (b.toNat % 16)]

/-- Two lowercase digits for each octet. -/
def octets (bs : Bytes) : String :=
  String.ofList (bs.flatMap fun b => [digit false (b.toNat / 16), digit false (b.toNat % 16)])

/-- An address as messages show it: `0x` and two lowercase digits. -/
def address (a : UInt8) : String := "0x" ++ octet a

/-- The value of a hexadecimal digit. -/
def value? (c : Char) : Option Nat :=
  if '0' ≤ c && c ≤ '9' then some (c.toNat - 0x30)
  else if 'a' ≤ c && c ≤ 'f' then some (c.toNat - 0x57)
  else if 'A' ≤ c && c ≤ 'F' then some (c.toNat - 0x37)
  else none

end Hex

end PolledTerminal.Text
