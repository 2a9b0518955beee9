import Spool.Proofs.Window
import Spool.Trial.Run

/-!
# Trials on windows

A trial with a window in place of the buffer, in machine words and checked slices throughout: in the
calls, in what the trial itself cuts out of the spare slice and out of the queue, and in its checks.
Where one of these traps, so does the trial. Each command has an allocator of its own here; the
trials on buffers are extended likewise (`Program.runWith`).
-/

namespace Spool.Trial

/-! ## Allocators that change -/

/-- The commands in order, each with the allocator of its turn, up to the first violation. -/
def Pair.runWith (alloc : Nat → Allocator) (p : Pair) :
    List Command → Except Violation Pair × List Event
  | [] => (.ok p, [])
  | c :: cs =>
    let r := p.apply (alloc 0) c
    match r.1 with
    | .error v => (.error v, r.2)
    | .ok q =>
      match q.violation? with
      | some v => (.error v, r.2)
      | none =>
        let rest := q.runWith (fun i => alloc (i + 1)) cs
        (rest.1, r.2 ++ rest.2)

/-- The whole trial: the first allocator is asked for the buffer, the others by the commands. -/
def Program.runWith (alloc : Nat → Allocator) (p : Program) : Except Violation Unit × List Event :=
  match Buffer.create (alloc 0) p.options with
  | .error e => (.error (.refused .create e), [])
  | .ok b =>
    let r := Pair.runWith (fun i => alloc (i + 1)) ⟨b, .empty⟩ p.commands
    (r.1.map fun _ => (), r.2)

/-! ## Windows under trial -/

/-- A window and the queue it is compared with. -/
structure WindowPair where
  window : Window
  queue : ByteArray

namespace WindowPair

/-- The first check that fails after a command. -/
def violation? (p : WindowPair) : Except Trap (Option Violation) := do
  let len ← p.window.len
  let front ← Word.add len p.window.leading
  let trailing ← p.window.trailing
  let whole ← Word.add front trailing
  if whole ≠ p.window.capacity then return some .measures
  else if p.window.isEmpty ∧ p.window.leading ≠ 0 then return some .notRewound
  else
    let unread ← p.window.peek
    return if unread ≠ p.queue then some .contents else none

/-- One command on both sides, with the events of the window. -/
def apply (alloc : Allocator) (p : WindowPair) :
    Command → Except Trap (Except Violation WindowPair × List Event)
  | .append data => do
    let r ← p.window.append alloc data.toByteArray
    match r.answer with
    | .error e => return (.error (.refused .append e), r.events)
    | .ok (.compacted _) =>
      if r.after.capacity = p.window.capacity then
        return (.ok ⟨r.after, p.queue ++ data.toByteArray⟩, r.events)
      else return (.error .compactionResized, r.events)
    | .ok _ => return (.ok ⟨r.after, p.queue ++ data.toByteArray⟩, r.events)
  | .consume n => do
    let window ← p.window.consume n.toNat
    let queue ← Slice.cut p.queue (min n.toNat p.queue.size) p.queue.size
    return (.ok ⟨window, queue⟩, [])
  | .drain => do
    let len ← p.window.len
    let window ← p.window.consume len
    return (.ok ⟨window, .empty⟩, [])
  | .makeRoom n => do
    let r ← p.window.makeRoom alloc n.toNat
    match r.answer with
    | .error e => return (.error (.refused .makeRoom e), r.events)
    | .ok _ =>
      let trailing ← r.after.trailing
      if n.toNat ≤ trailing then return (.ok ⟨r.after, p.queue⟩, r.events)
      else return (.error .roomMissing, r.events)
  | .commit n fill => do
    let trailing ← p.window.trailing
    let spare ← p.window.spare
    let front ← Slice.cut spare 0 (min n.toNat trailing)
    let data := ByteArray.replicate front.size fill
    let written ← p.window.writeSpare 0 data
    let window ← written.after.commit (min n.toNat trailing)
    return (.ok ⟨window, p.queue ++ data⟩, [])
  | .shrink n => do
    let r ← p.window.shrink alloc n.toNat
    match r.answer with
    | .error e => return (.error (.refused .shrink e), r.events)
    | .ok _ => return (.ok ⟨r.after, p.queue⟩, r.events)
  | .clear => return (.ok ⟨p.window.clear, .empty⟩, [])

def runWith (alloc : Nat → Allocator) (p : WindowPair) :
    List Command → Except Trap (Except Violation WindowPair × List Event)
  | [] => return (.ok p, [])
  | c :: cs => do
    let r ← p.apply (alloc 0) c
    match r.1 with
    | .error v => return (.error v, r.2)
    | .ok q =>
      match ← q.violation? with
      | some v => return (.error v, r.2)
      | none =>
        let rest ← q.runWith (fun i => alloc (i + 1)) cs
        return (rest.1, r.2 ++ rest.2)

end WindowPair

/-- The whole trial on a window. -/
def Program.runOnWindow (alloc : Nat → Allocator) (p : Program) :
    Except Trap (Except Violation Unit × List Event) :=
  match Window.create (alloc 0) p.options with
  | .error e => return (.error (.refused .create e), [])
  | .ok w => do
    let r ← WindowPair.runWith (fun i => alloc (i + 1)) ⟨w, .empty⟩ p.commands
    return (r.1.map fun _ => (), r.2)

end Spool.Trial
