import Spool.Peer.Basic

/-!
# Scripted peers

A `Feeder` is a source that hands out given data, a `Collector` a sink that keeps what it accepts.
Both can be limited per call, and both can be made to report something other than what they did.
-/

namespace Spool

/-- What a scripted peer reports after moving its bytes. -/
inductive Report where
  /-- The number of bytes it moved. -/
  | honest
  | fault (f : Fault)
  | claim (n : Nat)
  /-- This many more than it was offered. -/
  | beyond (n : Nat)
  deriving DecidableEq, Repr

def Report.answer (r : Report) (moved offered : Nat) : Except IoError Nat :=
  match r with
  | honest => .ok moved
  | fault f => .error (.fault f)
  | claim n => .ok n
  | beyond n => .ok (offered + n)

structure Feeder where
  data : ByteArray := .empty
  /-- The most bytes it hands out in one call. -/
  most : Option Nat := none
  report : Report := .honest

/-- Hands out the next bytes, also when it is about to report an error. -/
def Feeder.source : Source Feeder := fun f offered =>
  let k := min (min f.data.size offered.size) (f.most.getD offered.size)
  (⟨f.data.take k, f.report.answer k offered.size⟩, { f with data := f.data.drop k })

structure Collector where
  got : ByteArray := .empty
  /-- The most bytes it accepts in one call. -/
  most : Option Nat := none
  report : Report := .honest

/-- Accepts the first of the bytes offered, unless it is about to report an error. -/
def Collector.sink : Sink Collector := fun c offered =>
  match c.report with
  | .fault f => (.error (.fault f), c)
  | r =>
    let k := min offered.size (c.most.getD offered.size)
    (r.answer k offered.size, { c with got := c.got ++ offered.take k })

end Spool
