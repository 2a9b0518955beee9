import Spool.Text.Glyphless
import Spool.Text.Utf8

/-!
# Escaped text

Text between double quotes, with everything that could not be read back off a line of print escaped.
Characters beyond ASCII are shown as they are if they have a glyph. Two styles differ in the ASCII
range: bytes are shown with their unprintable ones in hexadecimal and apostrophes escaped, text with
its unprintable characters by code point and apostrophes as they are.
-/

namespace Spool.Text

/-- Digits to base 16, lower case, no leading zero. -/
def hexDigits (n : Nat) : String := String.ofList (Nat.toDigits 16 n)

/-- A byte as two hexadecimal digits. -/
def hexByte (x : UInt8) : String :=
  (if x < 16 then "0" else "") ++ hexDigits x.toNat

/-- A code point between braces. -/
def codePoint (c : Char) : String := "\\u\x7b" ++ hexDigits c.toNat ++ "\x7d"

structure EscapeStyle where
  /-- How an ASCII character without a glyph is shown, short forms apart. -/
  control : Char → String
  apostrophe : String

def EscapeStyle.bytes : EscapeStyle where
  control c := "\\x" ++ hexByte c.toNat.toUInt8
  apostrophe := "\\'"

def EscapeStyle.text : EscapeStyle where
  control := codePoint
  apostrophe := "'"

def EscapeStyle.char (style : EscapeStyle) (c : Char) : String :=
  if c = '\x00' then "\\0"
  else if c = '\t' then "\\t"
  else if c = '\n' then "\\n"
  else if c = '\r' then "\\r"
  else if c = '"' then "\\\""
  else if c = '\\' then "\\\\"
  else if c = '\'' then style.apostrophe
  else if c < ' ' ∨ c = '\x7f' then style.control c
  else if glyphless c then codePoint c
  else c.toString

def EscapeStyle.glyph (style : EscapeStyle) : Glyph → String
  | .char c => style.char c
  | .stray x => "\\x" ++ hexByte x

/-- A byte string as quoted text. -/
def quoteBytes (b : ByteArray) : String :=
  "\"" ++ String.join ((glyphs b).map EscapeStyle.bytes.glyph) ++ "\""

/-- A text as quoted text. -/
def quoteText (s : String) : String :=
  "\"" ++ String.join (s.toList.map EscapeStyle.text.char) ++ "\""

end Spool.Text
