import PolledTerminal.Text.Utf8
import PolledTerminal.Text.Unseen
import PolledTerminal.Text.Extending
set_option autoImplicit false

/-!
# Text: quoted and escaped forms

Two written forms of text that stands inside other text.  `Quoted` puts it
between double quotes so that a message shows where it starts and ends and which
unseen characters it holds.  `Markup` makes it safe inside an XML attribute.
-/

namespace PolledTerminal.Text

namespace Quoted

/-- One character between the quotes: the six short escapes, `\u` and the
hexadecimal number for what cannot be seen, and all else as it is. -/
def encodeChar (c : Char) : List Char :=
  if c = '\x00' then ['\\', '0']
  else if c = '\t' then ['\\', 't']
  else if c = '\n' then ['\\', 'n']
  else if c = '\r' then ['\\', 'r']
  else if c = '"' then ['\\', '"']
  else if c = '\\' then ['\\', '\\']
  else if Unseen.isUnseen c || Extending.isExtending c then
    ['\\', 'u', '\x7b'] ++ (Hex.numeral false c.toNat).toList ++ ['\x7d']
  else [c]

/-- The text in double quotes. -/
def encode (s : String) : String :=
  String.ofList ('"' :: s.toList.flatMap encodeChar ++ ['"'])

end Quoted

namespace Markup

/-- A control character, of either control block. -/
def isControl (c : Char) : Bool := c.toNat < 0x20 || (0x7F ≤ c.toNat && c.toNat < 0xA0)

/-- One character inside an attribute: the five named entities, a hexadecimal
reference for a control, and all else as it is. -/
def encodeChar (c : Char) : List Char :=
  if c = '&' then "&amp;".toList
  else if c = '<' then "&lt;".toList
  else if c = '>' then "&gt;".toList
  else if c = '"' then "&quot;".toList
  else if c = '\'' then "&apos;".toList
  else if isControl c then ['&', '#', 'x'] ++ (Hex.numeral true c.toNat).toList ++ [';']
  else [c]

/-- The text as the value of an attribute. -/
def encode (s : String) : String := String.ofList (s.toList.flatMap encodeChar)

end Markup

end PolledTerminal.Text
