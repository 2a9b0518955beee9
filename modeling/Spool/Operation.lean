import Spool.Buffer.Transfer

/-!
# Operations

The calls on one buffer as data, with their answers, and runs of them. A peer takes part in a run as
what it does in that one call, so a peer with a memory is a run of different calls. Each call of a
run has an allocator of its own: the same size may be granted now and refused later.
-/

namespace Spool

inductive Operation where
  | append (data : ByteArray)
  | makeRoom (n : Nat)
  | writeSpare (start : Nat) (data : ByteArray)
  | commit (n : Nat)
  | consume (n : Nat)
  | clear
  | shrink (n : Nat)
  | write (data : ByteArray)
  | writeAll (data : ByteArray)
  | read (target : ByteArray)
  | fill (source : ByteArray → Pull)
  | drain (sink : ByteArray → Except IoError Nat)

inductive Answer where
  | done
  | room (r : Except AllocationError Relocation)
  /-- The number of bytes that fit into the free space. -/
  | copied (n : Nat)
  | committed (r : Except Overrun Unit)
  | shrunk (r : Except AllocationError Unit)
  | count (r : Except IoError Nat)
  | written (r : Except IoError Unit)
  /-- The number of bytes read, and the target after it. -/
  | read (n : Nat) (target : ByteArray)

/-- Performs one call. -/
def Operation.perform (alloc : Allocator) (b : Buffer) : Operation → Outcome Answer
  | append data => (b.append alloc data).map .room
  | makeRoom n => (b.makeRoom alloc n).map .room
  | writeSpare start data => ⟨.copied (b.spareRoom start data.size), b.writeSpare start data, []⟩
  | commit n => (b.commit n).map .committed
  | consume n => ⟨.done, b.consume n, []⟩
  | clear => ⟨.done, b.clear, []⟩
  | shrink n => (b.shrink alloc n).map .shrunk
  | write data => (b.write alloc data).map .count
  | writeAll data => (b.writeAll alloc data).map .written
  | read target => (b.readInto target).map fun r => .read r.1 r.2
  | fill source => (b.fill alloc (fun _ offered => (source offered, ())) ()).1.map .count
  | drain sink => (b.drain (fun _ offered => (sink offered, ())) ()).1.map .count

/-- Performs the calls in order, each with its own allocator: the answers, the buffer after the last
one, and all events. -/
def Operation.run (b : Buffer) : List (Allocator × Operation) → Outcome (List Answer)
  | [] => ⟨[], b, []⟩
  | (alloc, op) :: rest =>
    let first := op.perform alloc b
    let others := run first.after rest
    ⟨first.answer :: others.answer, others.after, first.events ++ others.events⟩

end Spool
