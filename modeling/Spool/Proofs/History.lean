import Spool.Operation
import Spool.Proofs.Exits

/-!
# Histories

A run seen call by call. A `Step` is a call together with the buffer it meets; its outcome follows
from these, and so does what its peer was offered. `Performs` gathers the exits of all operations:
what holds of every step is proved by cases on it. `history` lists the steps of a run, and
`Reachable o` holds of the buffers that runs of a fresh buffer with options `o` lead to.
-/

namespace Spool

/-! ## Watching peers -/

theorem Buffer.fill_watched {σ : Type} (alloc : Allocator) (source : Source σ) (s : σ)
    (seen : List ByteArray) (b : Buffer) :
    (b.fill alloc source.watched (s, seen)).1 = (b.fill alloc source s).1 := by
  unfold fill
  dsimp only [Source.watched]
  split
  · rfl
  · split
    · rfl
    · split <;> rfl

theorem Buffer.drain_watched {τ : Type} (sink : Sink τ) (t : τ) (seen : List ByteArray)
    (b : Buffer) : (b.drain sink.watched (t, seen)).1 = (b.drain sink t).1 := by
  unfold drain
  dsimp only [Sink.watched]
  split
  · rfl
  · split <;> rfl

/-! ## Steps -/

/-- A call, by its allocator and its operation, and the buffer it is made on. -/
structure Step where
  before : Buffer
  alloc : Allocator
  operation : Operation

namespace Step

def call (s : Step) : Allocator × Operation := (s.alloc, s.operation)

def outcome (s : Step) : Outcome Answer := s.operation.perform s.alloc s.before

/-- What the peer of the call was offered; nothing if it was not called, or if there is none. -/
def offered (s : Step) : List ByteArray :=
  match s.operation with
  | .fill source =>
    (s.before.fill s.alloc (Source.watched fun _ slice => (source slice, ())) ((), [])).2.2
  | .drain sink => (s.before.drain (Sink.watched fun _ bytes => (sink bytes, ())) ((), [])).2.2
  | _ => []

end Step

/-- The ways in which the call of an operation on `b` can end: what the peer was offered, and the
outcome. -/
inductive Performs (alloc : Allocator) (b : Buffer) :
    Operation → List ByteArray → Outcome Answer → Prop where
  | append {data : ByteArray} {out : Outcome (Except AllocationError Relocation)}
      (exits : b.Appends alloc data out) : Performs alloc b (.append data) [] (out.map .room)
  | makeRoom {n : Nat} {out : Outcome (Except AllocationError Relocation)}
      (exits : b.MakesRoom alloc n out) : Performs alloc b (.makeRoom n) [] (out.map .room)
  | writeSpare {start : Nat} {data : ByteArray} : Performs alloc b (.writeSpare start data) []
      ⟨.copied (min data.size (b.trailing - start)), b.writeSpare start data, []⟩
  | commit {n : Nat} (within : n ≤ b.trailing) :
      Performs alloc b (.commit n) [] ⟨.committed (.ok ()), b.accept n, []⟩
  | overrun {n : Nat} (past : b.trailing < n) :
      Performs alloc b (.commit n) [] ⟨.committed (.error ⟨n, b.trailing⟩), b, []⟩
  | consume {n : Nat} : Performs alloc b (.consume n) [] ⟨.done, b.consume n, []⟩
  | clear : Performs alloc b .clear [] ⟨.done, b.clear, []⟩
  | shrink {n : Nat} {out : Outcome (Except AllocationError Unit)}
      (exits : b.Shrinks alloc n out) : Performs alloc b (.shrink n) [] (out.map .shrunk)
  | write {data : ByteArray} {out : Outcome (Except AllocationError Relocation)}
      (exits : b.Appends alloc data out) : Performs alloc b (.write data) []
        (out.map fun r => .count ((r.mapError .allocation).map fun _ => data.size))
  | writeAll {data : ByteArray} {out : Outcome (Except AllocationError Relocation)}
      (exits : b.Appends alloc data out) : Performs alloc b (.writeAll data) []
        (out.map fun r => .written ((r.mapError .allocation).map fun _ => ()))
  | read {target : ByteArray} : Performs alloc b (.read target) []
      ⟨.read (b.read target.size).answer.size (target.overwrite 0 (b.read target.size).answer),
        (b.read target.size).after, []⟩
  | fill {source : ByteArray → Pull} {out : Outcome (Except IoError Nat) × Unit × List ByteArray}
      (exits : b.Fills alloc (Source.watched fun _ slice => (source slice, ())) ((), []) out) :
      Performs alloc b (.fill source) out.2.2 (out.1.map .count)
  | drain {sink : ByteArray → Except IoError Nat}
      {out : Outcome (Except IoError Nat) × Unit × List ByteArray}
      (exits : b.Drains (Sink.watched fun _ bytes => (sink bytes, ())) ((), []) out) :
      Performs alloc b (.drain sink) out.2.2 (out.1.map .count)

theorem Step.performs (s : Step) :
    Performs s.alloc s.before s.operation s.offered s.outcome := by
  obtain ⟨b, alloc, op⟩ := s
  unfold Step.outcome
  cases op with
  | append data => exact .append (b.appends alloc data)
  | makeRoom n => exact .makeRoom (b.makesRoom alloc n)
  | writeSpare start data => exact .writeSpare
  | commit n =>
    simp only [Operation.perform, Outcome.map, Buffer.commit]
    split
    · next within => exact .commit within
    · next past => exact .overrun (Nat.lt_of_not_le past)
  | consume n => exact .consume
  | clear => exact .clear
  | shrink n => exact .shrink (b.shrinks alloc n)
  | write data =>
    rw [Operation.perform, Buffer.write_eq_map_append]
    exact .write (b.appends alloc data)
  | writeAll data =>
    rw [Operation.perform, Buffer.writeAll_eq_map_append]
    exact .writeAll (b.appends alloc data)
  | read target => exact .read
  | fill source =>
    rw [Operation.perform, ← Buffer.fill_watched _ _ _ []]
    exact .fill (b.fills ..)
  | drain sink =>
    rw [Operation.perform, ← Buffer.drain_watched _ _ []]
    exact .drain (b.drains ..)

/-! ## Runs -/

namespace Operation

def history (b : Buffer) : List (Allocator × Operation) → List Step
  | [] => []
  | (alloc, op) :: rest => ⟨b, alloc, op⟩ :: history (op.perform alloc b).after rest

variable (b : Buffer) (calls : List (Allocator × Operation))

@[simp] theorem map_call_history : (history b calls).map Step.call = calls := by
  induction calls generalizing b with
  | nil => rfl
  | cons c rest ih => rw [history, List.map_cons, ih]; rfl

theorem events_run : (run b calls).events = (history b calls).flatMap (·.outcome.events) := by
  induction calls generalizing b with
  | nil => rfl
  | cons c rest ih => simp only [run, history, List.flatMap_cons, ih]; rfl

theorem after_run_append (more : List (Allocator × Operation)) :
    (run b (calls ++ more)).after = (run (run b calls).after more).after := by
  induction calls generalizing b with
  | nil => rfl
  | cons c rest ih => exact ih _

end Operation

/-- The buffers that runs of a fresh buffer with options `o` lead to. -/
inductive Reachable (o : Options) : Buffer → Prop where
  | created {alloc : Allocator} {b : Buffer} : Buffer.create alloc o = .ok b → Reachable o b
  | performed {b : Buffer} (alloc : Allocator) (op : Operation) :
      Reachable o b → Reachable o (op.perform alloc b).after

theorem Reachable.run {o : Options} {b : Buffer} (h : Reachable o b)
    (calls : List (Allocator × Operation)) : Reachable o (Operation.run b calls).after := by
  induction calls generalizing b with
  | nil => exact h
  | cons c rest ih => exact ih (h.performed c.1 c.2)

theorem reachable_iff_run {o : Options} {b : Buffer} :
    Reachable o b ↔ ∃ alloc fresh calls, Buffer.create alloc o = .ok fresh ∧
      (Operation.run fresh calls).after = b := by
  constructor
  · intro h
    induction h with
    | created created => exact ⟨_, _, [], created, rfl⟩
    | performed alloc op _ ih =>
      obtain ⟨first, fresh, calls, created, rfl⟩ := ih
      refine ⟨first, fresh, calls ++ [(alloc, op)], created, ?_⟩
      rw [Operation.after_run_append]
      rfl
  · rintro ⟨alloc, fresh, calls, created, rfl⟩
    exact (Reachable.created created).run calls

end Spool
