/-!
# Bytes as text, lossless

A byte string read as UTF-8 where it is UTF-8. Where no character starts, the one byte stands for
itself and reading goes on behind it, so every byte string has exactly one reading and nothing of it
is lost.
-/

namespace Spool.Text

inductive Glyph where
  | char (c : Char)
  /-- A byte that belongs to no well-formed character. -/
  | stray (x : UInt8)
  deriving DecidableEq, Repr

/-- The characters and stray bytes of a byte string. -/
def glyphs (b : ByteArray) : List Glyph :=
  go 0
where
  go (i : Nat) : List Glyph :=
    if h : i < b.size then
      match b.utf8DecodeChar? i with
      | some c => .char c :: go (i + c.utf8Size)
      | none => .stray b[i] :: go (i + 1)
    else []
  termination_by b.size - i
  decreasing_by
    · have := c.utf8Size_pos; omega
    · omega

end Spool.Text
