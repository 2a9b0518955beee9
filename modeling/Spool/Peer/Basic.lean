import Spool.Allocation

/-!
# Sources and sinks

The peers of a buffer, as state transformers. A source is offered a slice to write into and reports
a count or an error; a sink is offered bytes and reports how many it took. Neither is trusted: a
source may scribble on the slice and then fail, and either may report a count that is not true.
-/

namespace Spool

/-- An error of a peer's own, passed on untouched. -/
structure Fault where
  kind : String
  message : String
  deriving DecidableEq, Repr

/-- Why a transfer failed. -/
inductive IoError where
  /-- No room could be made. -/
  | allocation (e : AllocationError)
  /-- A source reported more bytes than it was offered space for. -/
  | overreport (claimed offered : Nat)
  /-- Fewer bytes were unread than the reader insists on. -/
  | unexpectedEnd
  /-- Bytes to be read as text are not UTF-8. -/
  | invalidText
  | fault (f : Fault)
  deriving DecidableEq, Repr

namespace IoError

/-- The name of the class an error belongs to. -/
def kind : IoError → String
  | allocation _ => "OutOfMemory"
  | overreport .. => "InvalidData"
  | unexpectedEnd => "UnexpectedEof"
  | invalidText => "InvalidData"
  | fault f => f.kind

def message : IoError → String
  | allocation e => e.message
  | overreport claimed offered =>
    s!"reader returned {claimed} bytes into a {offered}-byte slice"
  | unexpectedEnd => "failed to fill whole buffer"
  | invalidText => "stream did not contain valid UTF-8"
  | fault f => f.message

end IoError

/-- What a source did in one call. -/
structure Pull where
  /-- The slice as the source left it. What this does not cover stays as it was offered. -/
  slice : ByteArray
  answer : Except IoError Nat

/-- A producer with state `σ`. It is given the slice it may write to. -/
abbrev Source (σ : Type) := σ → ByteArray → Pull × σ

/-- A consumer with state `τ`. It is given the bytes on offer. -/
abbrev Sink (τ : Type) := τ → ByteArray → Except IoError Nat × τ

/-- `source`, keeping the slices it was offered, in order. -/
def Source.watched {σ : Type} (source : Source σ) : Source (σ × List ByteArray) :=
  fun s offered => ((source s.1 offered).1, (source s.1 offered).2, s.2 ++ [offered])

/-- `sink`, keeping the bytes it was offered, in order. -/
def Sink.watched {τ : Type} (sink : Sink τ) : Sink (τ × List ByteArray) :=
  fun t offered => ((sink t.1 offered).1, (sink t.1 offered).2, t.2 ++ [offered])

end Spool
