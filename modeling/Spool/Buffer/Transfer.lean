import Spool.Buffer.Basic
import Spool.Peer.Basic

/-!
# Transfers

Bytes move between a buffer and its peers: `fill` pulls once from a source into the free space,
`drain` pushes the unread bytes once to a sink. A buffer is itself a sink, by appending, and a
source, by handing out its unread bytes, so two buffers can be joined.

What a fill reserved stays reserved when the source fails, and nothing it wrote counts as unread
then. What a drain offered stays unread when the sink fails.
-/

namespace Spool.Buffer

/-! ## Producing and consuming by hand -/

/-- Appends `data` and reports its size. -/
def write (alloc : Allocator) (b : Buffer) (data : ByteArray) : Outcome (Except IoError Nat) :=
  (b.append alloc data).map fun
    | .error e => .error (.allocation e)
    | .ok _ => .ok data.size

/-- Writes all of `data`; one write takes everything, and no data needs none. -/
def writeAll (alloc : Allocator) (b : Buffer) (data : ByteArray) :
    Outcome (Except IoError Unit) :=
  if data.size = 0 then ⟨.ok (), b, []⟩
  else (b.write alloc data).map fun
    | .error e => .error e
    | .ok _ => .ok ()

/-- Writes the first of several byte strings that is not empty, or nothing. -/
def writeGathered (alloc : Allocator) (b : Buffer) (data : List ByteArray) :
    Outcome (Except IoError Nat) :=
  b.write alloc ((data.find? (·.size ≠ 0)).getD .empty)

/-- Takes up to `most` bytes off the front. -/
def read (b : Buffer) (most : Nat) : Outcome ByteArray :=
  ⟨b.unread.take most, b.consume (min most b.len), []⟩

/-- Reads over the front of `target`: the number of bytes read, and the target after it. -/
def readInto (b : Buffer) (target : ByteArray) : Outcome (Nat × ByteArray) :=
  (b.read target.size).map fun got => (got.size, target.overwrite 0 got)

/-- Reads into the first of several targets that is not empty. -/
def readScattered (b : Buffer) : List ByteArray → Outcome (Nat × List ByteArray)
  | [] => ⟨(0, []), b, []⟩
  | t :: ts =>
    if t.size = 0 then (b.readScattered ts).map fun r => (r.1, t :: r.2)
    else (b.readInto t).map fun r => (r.1, r.2 :: ts)

/-! ## Peers -/

/-- Pulls once from a source: room is made first, then all the free space is offered. -/
def fill {σ : Type} (alloc : Allocator) (source : Source σ) (s : σ) (b : Buffer) :
    Outcome (Except IoError Nat) × σ :=
  let room := b.makeRoom alloc b.options.fillRoom
  match room.answer with
  | .error e => (⟨.error (.allocation e), room.after, room.events⟩, s)
  | .ok _ =>
    let pull := source s room.after.free
    let written := room.after.writeSpare 0 pull.1.slice
    match pull.1.answer with
    | .error e => (⟨.error e, written, room.events⟩, pull.2)
    | .ok n =>
      if written.trailing < n then
        (⟨.error (.overreport n written.trailing), written, room.events⟩, pull.2)
      else (⟨.ok n, written.accept n, room.events⟩, pull.2)

/-- Pushes the unread bytes once to a sink and consumes as many as it reports. A sink is not
called for nothing. -/
def drain {τ : Type} (sink : Sink τ) (t : τ) (b : Buffer) : Outcome (Except IoError Nat) × τ :=
  if b.isEmpty then (⟨.ok 0, b, []⟩, t)
  else
    let push := sink t b.unread
    match push.1 with
    | .error e => (⟨.error e, b, []⟩, push.2)
    | .ok n => (⟨.ok n, b.consume n, []⟩, push.2)

/-- A buffer as a source: each call reads from it. -/
def source : Source Buffer := fun b offered =>
  let r := b.readInto offered
  (⟨r.answer.2, .ok r.answer.1⟩, r.after)

/-- A buffer as a sink: each call writes to it. The events it emits are kept beside it. -/
def sink (alloc : Allocator) : Sink (Buffer × List Event) := fun t offered =>
  let r := t.1.write alloc offered
  (r.answer, r.after, t.2 ++ r.events)

end Spool.Buffer
