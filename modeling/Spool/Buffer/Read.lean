import Spool.Buffer.Lemmas
import Spool.Buffer.Transfer

/-!
# Reading by extent

Readers that repeat the two primitives until they have what they want: `readExact` and `readToEnd`
repeat `read`, the readers up to a delimiter repeat looking at the unread bytes and consuming them.
A reader that fails has consumed what it looked at.
-/

namespace Spool.Buffer

/-- Reads exactly `want` bytes. When fewer are unread they are consumed all the same. -/
def readExact (b : Buffer) (want : Nat) : Outcome (Except IoError ByteArray) :=
  go b want .empty
where
  go (b : Buffer) (want : Nat) (got : ByteArray) : Outcome (Except IoError ByteArray) :=
    if want = 0 then ⟨.ok got, b, []⟩
    else if b.len = 0 then ⟨.error .unexpectedEnd, b, []⟩
    else go (b.read want).after (want - min want b.len) (got ++ (b.read want).answer)
  termination_by want
  decreasing_by omega

theorem len_read_lt {b : Buffer} {most : Nat} (hm : 0 < most) (hb : b.len ≠ 0) :
    (b.read most).after.len < b.len := by
  simp [read]; omega

/-- Reads until nothing is unread, `window` bytes at a time (one byte for window 0). -/
def readWindows (window : Nat) (b : Buffer) (got : ByteArray) : Outcome ByteArray :=
  if b.len = 0 then ⟨got, b, []⟩
  else readWindows window (b.read (max window 1)).after (got ++ (b.read (max window 1)).answer)
termination_by b.len
decreasing_by exact len_read_lt (by omega) (by assumption)

def readToEnd (b : Buffer) : Outcome ByteArray := readWindows 4096 b .empty

/-- Reads through the first `delimiter`, or to the end if there is none. -/
def readUntil (b : Buffer) (delimiter : UInt8) : Outcome ByteArray :=
  go b .empty
where
  go (b : Buffer) (got : ByteArray) : Outcome ByteArray :=
    match b.unread.findIdx? (· == delimiter) with
    | some i => ⟨got ++ b.unread.take (i + 1), b.consume (i + 1), []⟩
    | none =>
      if b.len = 0 then ⟨got, b, []⟩
      else go (b.consume b.len) (got ++ b.unread)
  termination_by b.len
  decreasing_by simp; omega

/-- As `readUntil`, keeping only the number of bytes. -/
def skipUntil (b : Buffer) (delimiter : UInt8) : Outcome Nat :=
  (b.readUntil delimiter).map ByteArray.size

/-! ## Text -/

def lineFeed : UInt8 := 10

/-- The text that the bytes encode, if they are UTF-8. -/
def decodeText (bytes : ByteArray) : Except IoError String :=
  match String.fromUTF8? bytes with
  | some s => .ok s
  | none => .error .invalidText

/-- Reads through the next line feed. -/
def readLine (b : Buffer) : Outcome (Except IoError String) :=
  (b.readUntil lineFeed).map decodeText

def readToString (b : Buffer) : Outcome (Except IoError String) :=
  b.readToEnd.map decodeText

end Spool.Buffer
