import Spool.Buffer.Basic
import Spool.Text.Escape

/-!
# Buffers as text

A buffer as it is shown to a developer: its cursors, its capacity, and the unread bytes as escaped
text; on one line, or with one field to a line.
-/

namespace Spool.Buffer

/-- The fields shown, in order. -/
def shownFields (b : Buffer) : List (String × String) :=
  [("read", toString b.readAt), ("write", toString b.writeAt),
    ("capacity", toString b.capacity), ("unread", Text.quoteBytes b.unread)]

def debug (b : Buffer) : String :=
  "StagingBuffer \x7b " ++ ", ".intercalate (b.shownFields.map fun f => f.1 ++ ": " ++ f.2) ++
    " \x7d"

def debugLines (b : Buffer) : String :=
  "StagingBuffer \x7b\n" ++
    String.join (b.shownFields.map fun f => "    " ++ f.1 ++ ": " ++ f.2 ++ ",\n")
    ++ "\x7d"

end Spool.Buffer
