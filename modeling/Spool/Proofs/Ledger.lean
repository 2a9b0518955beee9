import Mathlib.Algebra.GroupWithZero.Nat
import Spool.Proofs.History

/-!
# The books of a buffer

Each call enters bytes and takes bytes off; what it has entered and what it reports as taken off is
read off its answer. The books are kept by the step (`Performs.balance`), and so by the run: the
bytes entered are the bytes taken off and the bytes still unread. A drain is the one call that can
report more than it took off, as it hands on what its sink claims. Main statement: the reports add
up exactly if no drain of the run does.
-/

namespace Spool

open Buffer

/-- The bytes that a call has entered, by its answer. A call that failed has entered none. -/
@[simp] def Operation.entered : Operation → Answer → Nat
  | .append data, .room (.ok _) => data.size
  | .write data, .count (.ok _) => data.size
  | .writeAll data, .written (.ok _) => data.size
  | .commit n, .committed (.ok _) => n
  | .fill _, .count (.ok n) => n
  | _, _ => 0

/-- The bytes that a call reports as taken off a buffer with `len` bytes unread. -/
@[simp] def Operation.reported (len : Nat) : Operation → Answer → Nat
  | .consume n, _ => min n len
  | .clear, _ => len
  | .read _, .read n _ => n
  | .drain _, .count (.ok n) => n
  | _, _ => 0

namespace Step

def entered (s : Step) : Nat := s.operation.entered s.outcome.answer

def reported (s : Step) : Nat := s.operation.reported s.before.len s.outcome.answer

/-- The bytes that the call took off: no more than there were. -/
def taken (s : Step) : Nat := min s.reported s.before.len

/-- A drain whose sink claims more bytes than were unread. -/
def Overdraws (s : Step) : Prop :=
  ∃ sink n, s.operation = .drain sink ∧ s.outcome.answer = .count (.ok n) ∧ s.before.len < n

end Step

/-! ## One step -/

variable {alloc : Allocator} {b : Buffer} {op : Operation} {offered : List ByteArray}
  {out : Outcome Answer}

theorem Buffer.len_accept {n : Nat} (within : n ≤ b.trailing) : (b.accept n).len = b.len + n := by
  have : n ≤ b.free.size := within
  simp only [len, unread_accept, ByteArray.size_append, ByteArray.size_take]
  omega

theorem Buffer.len_writeSpare (start : Nat) (data : ByteArray) :
    (b.writeSpare start data).len = b.len := rfl

theorem Buffer.MakesRoom.len {n : Nat} {room : Outcome (Except AllocationError Relocation)}
    (h : b.MakesRoom alloc n room) : room.after.len = b.len :=
  congrArg ByteArray.size h.unread

theorem Buffer.Shrinks.len {n : Nat} {out : Outcome (Except AllocationError Unit)}
    (h : b.Shrinks alloc n out) : out.after.len = b.len := by
  cases h <;> rfl

/-- Room made, bytes written to the front of it and `k` of them accepted: `k` bytes more. -/
theorem Buffer.MakesRoom.len_accept {n k : Nat} (data : ByteArray)
    {room : Outcome (Except AllocationError Relocation)} (h : b.MakesRoom alloc n room)
    (within : k ≤ room.after.trailing) :
    ((room.after.writeSpare 0 data).accept k).len = b.len + k := by
  rw [Buffer.len_accept (by rwa [trailing_writeSpare]), len_writeSpare, h.len]

/-- What a call leaves unread and what it took off are what was unread and what it entered. -/
theorem Performs.balance (h : Performs alloc b op offered out) :
    out.after.len + min (op.reported b.len out.answer) b.len = b.len + op.entered out.answer := by
  cases h with
  | @append data _ exits | @write data _ exits | @writeAll data _ exits =>
    -- the three differ in their answers only
    cases exits with
    | refused =>
      show b.len + min 0 b.len = b.len + 0
      omega
    | @added room r made ok =>
      show ((room.after.writeSpare 0 data).accept data.size).len + min 0 b.len = b.len + data.size
      rw [made.len_accept _ (made.le_trailing ok), Nat.zero_min, Nat.add_zero]
  | makeRoom exits => simp [exits.len]
  | writeSpare => simp [len_writeSpare]
  | commit within => simp [Buffer.len_accept within]
  | overrun => simp
  | consume =>
    simp only [Operation.reported, Operation.entered, len_consume]
    omega
  | clear => simp
  | shrink exits => simp [exits.len]
  | @read target =>
    have : b.unread.size = b.len := rfl
    simp only [Operation.reported, Operation.entered, Buffer.read, len_consume, ByteArray.size_take]
    omega
  | fill exits =>
    cases exits with
    | refused => simp
    | failed made | overreported made => simp [len_writeSpare, made.len]
    | accepted made ok claims within => simp [made.len_accept _ within]
  | drain exits =>
    cases exits with
    | nothing empty => simp [empty]
    | failed => simp
    | taken some claims =>
      simp only [Outcome.answer_map, Outcome.after_map, Operation.reported, Operation.entered,
        len_consume]
      omega

/-- A call reports more than there was to take only by handing on the claim of a sink. -/
theorem Performs.lt_reported_iff (h : Performs alloc b op offered out) :
    b.len < op.reported b.len out.answer ↔
      ∃ sink n, op = .drain sink ∧ out.answer = .count (.ok n) ∧ b.len < n := by
  constructor
  · intro more
    cases h with
    | drain exits =>
      cases exits with
      | nothing => exact absurd more (Nat.not_lt_zero _)
      | failed => exact absurd more (Nat.not_lt_zero _)
      | taken some claims => exact ⟨_, _, rfl, rfl, more⟩
    | consume => exact absurd more (Nat.not_lt.2 (Nat.min_le_right _ _))
    | clear => exact absurd more (Nat.lt_irrefl _)
    | @read target =>
      have : (b.unread.take target.size).size ≤ b.len := by
        rw [ByteArray.size_take]
        exact Nat.min_le_right _ _
      exact absurd more (Nat.not_lt.2 this)
    | _ => exact absurd more (Nat.not_lt_zero _)
  · rintro ⟨sink, n, rfl, answer, more⟩
    rwa [answer]

namespace Step

theorem balance (s : Step) : s.outcome.after.len + s.taken = s.before.len + s.entered :=
  s.performs.balance

theorem overdraws_iff (s : Step) : s.Overdraws ↔ s.before.len < s.reported :=
  s.performs.lt_reported_iff.symm

/-- What a fill reports has entered. -/
theorem len_of_fill {s : Step} {source : ByteArray → Pull} {n : Nat}
    (fill : s.operation = .fill source) (answer : s.outcome.answer = .count (.ok n)) :
    s.outcome.after.len = s.before.len + n := by
  have := s.balance
  simpa [entered, taken, reported, fill, answer] using this

/-- Of what a drain reports, as much has left as there was. -/
theorem len_of_drain {s : Step} {sink : ByteArray → Except IoError Nat} {n : Nat}
    (drain : s.operation = .drain sink) (answer : s.outcome.answer = .count (.ok n)) :
    s.outcome.after.len + min n s.before.len = s.before.len := by
  have := s.balance
  simpa [entered, taken, reported, drain, answer] using this

end Step

/-! ## Runs -/

theorem balance_run (b : Buffer) (calls : List (Allocator × Operation)) :
    (Operation.run b calls).after.len + ((Operation.history b calls).map Step.taken).sum =
      b.len + ((Operation.history b calls).map Step.entered).sum := by
  induction calls generalizing b with
  | nil => rfl
  | cons c rest ih =>
    have first := Step.balance ⟨b, c.1, c.2⟩
    have others := ih (c.2.perform c.1 b).after
    simp only [Operation.history, Operation.run, List.map_cons, List.sum_cons]
    simp only [Step.outcome] at first
    omega

theorem sum_taken_le (steps : List Step) :
    (steps.map Step.taken).sum ≤ (steps.map Step.reported).sum := by
  induction steps with
  | nil => exact Nat.le_refl 0
  | cons s rest ih => exact Nat.add_le_add (Nat.min_le_left _ _) ih

theorem sum_reported_eq_iff (steps : List Step) :
    (steps.map Step.reported).sum = (steps.map Step.taken).sum ↔ ∀ s ∈ steps, ¬ s.Overdraws := by
  induction steps with
  | nil => simp
  | cons s rest ih =>
    have := sum_taken_le rest
    have fair : s.reported = s.taken ↔ ¬ s.Overdraws := by
      rw [s.overdraws_iff, Step.taken]
      omega
    have less : s.taken ≤ s.reported := Nat.min_le_left _ _
    rw [List.forall_mem_cons, ← fair, ← ih, List.map_cons, List.map_cons, List.sum_cons,
      List.sum_cons]
    omega

/-- Over a run of a fresh buffer the bytes entered are those taken off and those still unread.
The reports of the calls add up to this exactly if no sink claimed more than it was offered; a fill
never reports more than has entered. -/
theorem books_balance {alloc : Allocator} {o : Options} {b : Buffer}
    (created : Buffer.create alloc o = .ok b) (calls : List (Allocator × Operation)) :
    ((Operation.history b calls).map Step.entered).sum =
      ((Operation.history b calls).map Step.taken).sum + (Operation.run b calls).after.len ∧
    (((Operation.history b calls).map Step.entered).sum =
      ((Operation.history b calls).map Step.reported).sum + (Operation.run b calls).after.len ↔
        ∀ s ∈ Operation.history b calls, ¬ s.Overdraws) ∧
    ∀ s ∈ Operation.history b calls, ∀ n, s.outcome.answer = .count (.ok n) →
      (∀ source, s.operation = .fill source → s.outcome.after.len = s.before.len + n) ∧
      (∀ sink, s.operation = .drain sink →
        s.outcome.after.len + min n s.before.len = s.before.len) := by
  have empty : b.len = 0 := by
    obtain ⟨-, rfl⟩ := Buffer.create_eq_ok_iff.1 created
    rfl
  have total := balance_run b calls
  refine ⟨by omega, ?_, fun s _ n answer =>
    ⟨fun _ fill => s.len_of_fill fill answer, fun _ drain => s.len_of_drain drain answer⟩⟩
  rw [← sum_reported_eq_iff]
  omega

/-- A source that claims too much enters nothing, and a sink that claims all it is offered overdraws
nothing: the reports add up. -/
theorem books_balance_of_four :
    Buffer.create (.upTo 16) { initialCapacity := 4, readSize := 1 } =
      .ok ⟨.empty, .empty, ⟨#[0, 0, 0, 0]⟩, { initialCapacity := 4, readSize := 1 }⟩ ∧
    ((Operation.history ⟨.empty, .empty, ⟨#[0, 0, 0, 0]⟩, { initialCapacity := 4, readSize := 1 }⟩
      [(.upTo 16, .append ⟨#[1, 2, 3]⟩),
        (.upTo 16, .fill fun slice => ⟨slice, .ok (slice.size + 1)⟩),
        (.upTo 16, .drain fun bytes => .ok bytes.size), (.upTo 16, .consume 9)]).map
          Step.entered).sum = 3 := by
  have created : Buffer.create (.upTo 16) { initialCapacity := 4, readSize := 1 } =
      .ok ⟨.empty, .empty, ⟨#[0, 0, 0, 0]⟩, { initialCapacity := 4, readSize := 1 }⟩ := rfl
  refine ⟨created, ((books_balance created _).2.1.2 ?_).trans rfl⟩
  simp only [Operation.history, List.forall_mem_cons, Step.overdraws_iff]
  decide

/-- A sink that is offered two bytes and claims five: the drain reports three that never were. -/
theorem overdrawn_books :
    Buffer.create (.upTo 16) { initialCapacity := 4 } =
      .ok ⟨.empty, .empty, ⟨#[0, 0, 0, 0]⟩, { initialCapacity := 4 }⟩ ∧
    ((Operation.history ⟨.empty, .empty, ⟨#[0, 0, 0, 0]⟩, { initialCapacity := 4 }⟩
      [(.upTo 16, .append ⟨#[1, 2]⟩), (.upTo 16, .drain fun _ => .ok 5)]).map Step.entered).sum ≠
    ((Operation.history ⟨.empty, .empty, ⟨#[0, 0, 0, 0]⟩, { initialCapacity := 4 }⟩
      [(.upTo 16, .append ⟨#[1, 2]⟩), (.upTo 16, .drain fun _ => .ok 5)]).map Step.reported).sum +
    (Operation.run ⟨.empty, .empty, ⟨#[0, 0, 0, 0]⟩, { initialCapacity := 4 }⟩
      [(.upTo 16, .append ⟨#[1, 2]⟩), (.upTo 16, .drain fun _ => .ok 5)]).after.len :=
  ⟨rfl, by decide⟩

end Spool
