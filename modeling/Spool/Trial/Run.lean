import Spool.Trial.Program
import Spool.Buffer.Basic

/-!
# Running trials

A trial runs its commands on a buffer and on a plain queue of bytes side by side. After each command
the measures of the buffer have to add up, an empty buffer has to stand at the front of its region,
and the unread bytes have to be the queue. The first violation ends the trial.
-/

namespace Spool.Trial

/-- The steps of a trial that need memory. -/
inductive Request where
  | create
  | append
  | makeRoom
  | shrink
  deriving DecidableEq, Repr

def Request.text : Request → String
  | create => "small region"
  | append => "append"
  | makeRoom => "reserve"
  | shrink => "shrink"

inductive Violation where
  | refused (request : Request) (e : AllocationError)
  /-- A compaction changed the capacity. -/
  | compactionResized
  /-- Less room was made than asked for. -/
  | roomMissing
  | overrun (o : Overrun)
  /-- The measures do not add up to the capacity. -/
  | measures
  /-- An empty buffer has not gone back to the front. -/
  | notRewound
  /-- The unread bytes are not the queue. -/
  | contents
  deriving DecidableEq, Repr

def Violation.message : Violation → String
  | refused request e => s!"{request.text}: {e.message}"
  | compactionResized => "compaction changed the capacity"
  | roomMissing => "less room than asked for"
  | overrun o => o.message
  | measures => "the measures do not add up"
  | notRewound => "an empty buffer is not rewound"
  | contents => "the unread bytes differ from the queue"

/-- A buffer and the queue it is compared with. -/
structure Pair where
  buffer : Buffer
  queue : ByteArray

/-- The first check that fails after a command. -/
def Pair.violation? (p : Pair) : Option Violation :=
  if p.buffer.len + p.buffer.leading + p.buffer.trailing ≠ p.buffer.capacity then some .measures
  else if p.buffer.isEmpty ∧ p.buffer.leading ≠ 0 then some .notRewound
  else if p.buffer.unread ≠ p.queue then some .contents
  else none

/-- One command on both sides, with the events of the buffer. -/
def Pair.apply (alloc : Allocator) (p : Pair) : Command → Except Violation Pair × List Event
  | .append data =>
    let r := p.buffer.append alloc data.toByteArray
    match r.answer with
    | .error e => (.error (.refused .append e), r.events)
    | .ok (.compacted _) =>
      if r.after.capacity = p.buffer.capacity then
        (.ok ⟨r.after, p.queue ++ data.toByteArray⟩, r.events)
      else (.error .compactionResized, r.events)
    | .ok _ => (.ok ⟨r.after, p.queue ++ data.toByteArray⟩, r.events)
  | .consume n => (.ok ⟨p.buffer.consume n.toNat, p.queue.drop n.toNat⟩, [])
  | .drain => (.ok ⟨p.buffer.consume p.buffer.len, .empty⟩, [])
  | .makeRoom n =>
    let r := p.buffer.makeRoom alloc n.toNat
    match r.answer with
    | .error e => (.error (.refused .makeRoom e), r.events)
    | .ok _ =>
      if n.toNat ≤ r.after.trailing then (.ok ⟨r.after, p.queue⟩, r.events)
      else (.error .roomMissing, r.events)
  | .commit n fill =>
    let data := ByteArray.replicate (min n.toNat p.buffer.trailing) fill
    let r := (p.buffer.writeSpare 0 data).commit data.size
    match r.answer with
    | .error o => (.error (.overrun o), r.events)
    | .ok _ => (.ok ⟨r.after, p.queue ++ data⟩, r.events)
  | .shrink n =>
    let r := p.buffer.shrink alloc n.toNat
    match r.answer with
    | .error e => (.error (.refused .shrink e), r.events)
    | .ok _ => (.ok ⟨r.after, p.queue⟩, r.events)
  | .clear => (.ok ⟨p.buffer.clear, .empty⟩, [])

/-- The commands in order, up to the first violation, with all events. -/
def Pair.run (alloc : Allocator) (p : Pair) : List Command → Except Violation Pair × List Event
  | [] => (.ok p, [])
  | c :: cs =>
    let r := p.apply alloc c
    match r.1 with
    | .error v => (.error v, r.2)
    | .ok q =>
      match q.violation? with
      | some v => (.error v, r.2)
      | none =>
        let rest := q.run alloc cs
        (rest.1, r.2 ++ rest.2)

/-- The whole trial: the violation that ended it, if there was one, and all events. -/
def Program.run (alloc : Allocator) (p : Program) : Except Violation Unit × List Event :=
  match Buffer.create alloc p.options with
  | .error e => (.error (.refused .create e), [])
  | .ok b =>
    let r := Pair.run alloc ⟨b, .empty⟩ p.commands
    (r.1.map fun _ => (), r.2)

end Spool.Trial
