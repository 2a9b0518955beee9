import Spool.Proofs.History

/-!
# A buffer is a queue of bytes

The unread bytes behave as an unbounded queue, whatever becomes of the region they lie in.
`QueueStep` is the queue's side of each call: which answers it can get, and what the queue is after
each. `KeepsTo` follows a queue through a history, comparing it with all that the buffer shows after
every step. Main statement: every history of a fresh buffer keeps to the queue that is empty at
first.
-/

namespace Spool

namespace Buffer

/-- The unread bytes, front first. -/
def contents (b : Buffer) : List UInt8 := b.unread.data.toList

/-- All that `b` shows of its unread bytes agrees with the queue `q`. -/
structure Shows (b : Buffer) (q : List UInt8) : Prop where
  unread : b.unread.data.toList = q
  len : b.len = q.length
  isEmpty : b.isEmpty = true ↔ q = []
  available : available (some b) = q.length

theorem length_contents (b : Buffer) : b.contents.length = b.len := by
  simp [contents, len]

theorem contents_eq_nil_iff (b : Buffer) : b.contents = [] ↔ b.len = 0 := by
  rw [← List.length_eq_zero_iff, length_contents]

theorem contents_ne_nil_iff (b : Buffer) : b.contents ≠ [] ↔ 0 < b.len := by
  rw [ne_eq, contents_eq_nil_iff, Nat.pos_iff_ne_zero]

theorem shows_contents (b : Buffer) : b.Shows b.contents where
  unread := rfl
  len := b.length_contents.symm
  isEmpty := by rw [contents_eq_nil_iff, Buffer.isEmpty, beq_iff_eq]
  available := b.length_contents.symm

end Buffer

/-- The call of an operation on `b` whose unread bytes are `q`, the peer being offered the slices in
the list, is answered, and the queue is then the last argument. -/
inductive QueueStep (alloc : Allocator) (b : Buffer) (q : List UInt8) :
    Operation → List ByteArray → Answer → List UInt8 → Prop where
  | append {data : ByteArray} {r : Relocation} (room : ∀ e, ¬ b.Refuses alloc data.size e) :
      QueueStep alloc b q (.append data) [] (.room (.ok r)) (q ++ data.data.toList)
  | appendRefused {data : ByteArray} {e : AllocationError} (refuses : b.Refuses alloc data.size e) :
      QueueStep alloc b q (.append data) [] (.room (.error e)) q
  | makeRoom {n : Nat} {r : Relocation} (room : ∀ e, ¬ b.Refuses alloc n e) :
      QueueStep alloc b q (.makeRoom n) [] (.room (.ok r)) q
  | makeRoomRefused {n : Nat} {e : AllocationError} (refuses : b.Refuses alloc n e) :
      QueueStep alloc b q (.makeRoom n) [] (.room (.error e)) q
  | writeSpare {start : Nat} {data : ByteArray} :
      QueueStep alloc b q (.writeSpare start data) []
        (.copied (min data.size (b.trailing - start))) q
  | commit {n : Nat} (within : n ≤ b.trailing) :
      QueueStep alloc b q (.commit n) [] (.committed (.ok ())) (q ++ b.free.data.toList.take n)
  | overrun {n : Nat} (past : b.trailing < n) :
      QueueStep alloc b q (.commit n) [] (.committed (.error ⟨n, b.trailing⟩)) q
  | consume {n : Nat} : QueueStep alloc b q (.consume n) [] .done (q.drop n)
  | clear : QueueStep alloc b q .clear [] .done []
  | shrink {n : Nat}
      (granted : max n q.length < b.capacity → alloc.grants (max n q.length) = true) :
      QueueStep alloc b q (.shrink n) [] (.shrunk (.ok ())) q
  | shrinkRefused {n : Nat} {e : AllocationError} (loose : max n q.length < b.capacity)
      (refused : alloc.allocate (max n q.length) = .error e) :
      QueueStep alloc b q (.shrink n) [] (.shrunk (.error e)) q
  | write {data : ByteArray} (room : ∀ e, ¬ b.Refuses alloc data.size e) :
      QueueStep alloc b q (.write data) [] (.count (.ok data.size)) (q ++ data.data.toList)
  | writeRefused {data : ByteArray} {e : AllocationError} (refuses : b.Refuses alloc data.size e) :
      QueueStep alloc b q (.write data) [] (.count (.error (.allocation e))) q
  | writeAll {data : ByteArray} (room : ∀ e, ¬ b.Refuses alloc data.size e) :
      QueueStep alloc b q (.writeAll data) [] (.written (.ok ())) (q ++ data.data.toList)
  | writeAllRefused {data : ByteArray} {e : AllocationError}
      (refuses : b.Refuses alloc data.size e) :
      QueueStep alloc b q (.writeAll data) [] (.written (.error (.allocation e))) q
  | read {target got : ByteArray} (front : got.data.toList =
        q.take target.size ++ target.data.toList.drop (min target.size q.length)) :
      QueueStep alloc b q (.read target) [] (.read (min target.size q.length) got)
        (q.drop target.size)
  | fill {source : ByteArray → Pull} {slice : ByteArray} {n : Nat}
      (room : ∀ e, ¬ b.Refuses alloc b.options.fillRoom e)
      (claims : (source slice).answer = .ok n) (within : n ≤ slice.size) :
      QueueStep alloc b q (.fill source) [slice] (.count (.ok n))
        (q ++ (slice.overwrite 0 (source slice).slice).data.toList.take n)
  | fillRefused {source : ByteArray → Pull} {e : AllocationError}
      (refuses : b.Refuses alloc b.options.fillRoom e) :
      QueueStep alloc b q (.fill source) [] (.count (.error (.allocation e))) q
  | fillFailed {source : ByteArray → Pull} {slice : ByteArray} {e : IoError}
      (room : ∀ e, ¬ b.Refuses alloc b.options.fillRoom e)
      (fails : (source slice).answer = .error e) :
      QueueStep alloc b q (.fill source) [slice] (.count (.error e)) q
  | fillOverreported {source : ByteArray → Pull} {slice : ByteArray} {n : Nat}
      (room : ∀ e, ¬ b.Refuses alloc b.options.fillRoom e)
      (claims : (source slice).answer = .ok n) (past : slice.size < n) :
      QueueStep alloc b q (.fill source) [slice] (.count (.error (.overreport n slice.size))) q
  | drain {sink : ByteArray → Except IoError Nat} {bytes : ByteArray} {n : Nat}
      (all : bytes.data.toList = q) (some : q ≠ []) (claims : sink bytes = .ok n) :
      QueueStep alloc b q (.drain sink) [bytes] (.count (.ok n)) (q.drop n)
  | drainNothing {sink : ByteArray → Except IoError Nat} (empty : q = []) :
      QueueStep alloc b q (.drain sink) [] (.count (.ok 0)) q
  | drainFailed {sink : ByteArray → Except IoError Nat} {bytes : ByteArray} {e : IoError}
      (all : bytes.data.toList = q) (some : q ≠ []) (fails : sink bytes = .error e) :
      QueueStep alloc b q (.drain sink) [bytes] (.count (.error e)) q

/-- A queue that is `q` at first goes through the steps, and the buffer shows it after each. -/
inductive KeepsTo : List UInt8 → List Step → Prop where
  | nil (q : List UInt8) : KeepsTo q []
  | cons {q q' : List UInt8} {s : Step} {rest : List Step}
      (step : QueueStep s.alloc s.before q s.operation s.offered s.outcome.answer q')
      (shows : s.outcome.after.Shows q') (others : KeepsTo q' rest) : KeepsTo q (s :: rest)

/-! ## Each step -/

namespace Buffer

variable {alloc : Allocator} {b : Buffer}

theorem contents_consume (b : Buffer) (n : Nat) : (b.consume n).contents = b.contents.drop n := by
  simp [contents]

theorem contents_read (b : Buffer) (most : Nat) :
    (b.read most).after.contents = b.contents.drop most := by
  rw [Buffer.read, contents_consume, List.drop_eq_drop_iff, length_contents]
  omega

theorem size_read (b : Buffer) (most : Nat) :
    (b.read most).answer.size = min most b.contents.length := by
  rw [length_contents]
  exact ByteArray.size_take ..

/-- What is read goes over the front of the target and leaves the rest of it alone. -/
theorem overwrite_read (b : Buffer) (target : ByteArray) :
    (target.overwrite 0 (b.read target.size).answer).data.toList =
      b.contents.take target.size ++
        target.data.toList.drop (min target.size b.contents.length) := by
  rw [ByteArray.toList_data_overwrite, size_read]
  simp [Buffer.read, Buffer.contents, List.take_take]

theorem contents_writeSpare (b : Buffer) (start : Nat) (data : ByteArray) :
    (b.writeSpare start data).contents = b.contents := rfl

theorem contents_accept (b : Buffer) (n : Nat) :
    (b.accept n).contents = b.contents ++ b.free.data.toList.take n := by
  simp [contents]

theorem MakesRoom.contents {n : Nat} {room : Outcome (Except AllocationError Relocation)}
    (h : b.MakesRoom alloc n room) : room.after.contents = b.contents := by
  rw [Buffer.contents, h.unread]; rfl

theorem contents_accept_writeSpare {data : ByteArray} (fits : data.size ≤ b.trailing) :
    ((b.writeSpare 0 data).accept data.size).contents = b.contents ++ data.data.toList := by
  rw [accept_writeSpare b fits, Buffer.contents]
  simp [Buffer.contents]

/-- An append puts its data behind all that was there. -/
theorem contents_append {data : ByteArray} {room : Outcome (Except AllocationError Relocation)}
    {r : Relocation} (made : b.MakesRoom alloc data.size room) (ok : room.answer = .ok r) :
    ((room.after.writeSpare 0 data).accept data.size).contents =
      b.contents ++ data.data.toList := by
  rw [contents_accept_writeSpare (made.le_trailing ok), made.contents]

end Buffer

open Buffer in
/-- Every way in which a call can end is a step of the queue. -/
theorem Performs.queueStep {alloc : Allocator} {b : Buffer} {op : Operation}
    {offered : List ByteArray} {out : Outcome Answer} (h : Performs alloc b op offered out) :
    QueueStep alloc b b.contents op offered out.answer out.after.contents := by
  cases h with
  | append exits =>
    cases exits with
    | refused refuses => exact .appendRefused refuses
    | added made ok =>
      rw [Outcome.map, contents_append made ok]
      exact .append (made.not_refuses ok)
  | @makeRoom n out exits =>
    rw [Outcome.map, exits.contents]
    cases answer : out.answer with
    | ok r => exact .makeRoom (exits.not_refuses answer)
    | error e => exact .makeRoomRefused (exits.refuses answer)
  | writeSpare => exact .writeSpare
  | commit within =>
    rw [contents_accept]
    exact .commit within
  | overrun past => exact .overrun past
  | consume =>
    rw [contents_consume]
    exact .consume
  | clear => exact .clear
  | shrink exits =>
    cases exits with
    | kept fits =>
      rw [← length_contents] at fits
      exact .shrink fun loose => absurd fits (Nat.not_le.2 loose)
    | moved _ granted =>
      rw [← length_contents] at granted
      exact .shrink fun _ => granted
    | refused loose refused =>
      rw [← length_contents] at loose refused
      exact .shrinkRefused loose refused
  | write exits =>
    cases exits with
    | refused refuses => exact .writeRefused refuses
    | added made ok =>
      rw [Outcome.map, contents_append made ok]
      exact .write (made.not_refuses ok)
  | writeAll exits =>
    cases exits with
    | refused refuses => exact .writeAllRefused refuses
    | added made ok =>
      rw [Outcome.map, contents_append made ok]
      exact .writeAll (made.not_refuses ok)
  | @read target =>
    rw [contents_read, size_read]
    exact .read (b.overwrite_read target)
  | fill exits =>
    cases exits with
    | refused refuses => exact .fillRefused refuses
    | failed made ok fails =>
      rw [Outcome.map, contents_writeSpare, made.contents]
      exact .fillFailed (made.not_refuses ok) fails
    | overreported made ok claims past =>
      rw [Outcome.map, contents_writeSpare, made.contents]
      exact .fillOverreported (made.not_refuses ok) claims past
    | accepted made ok claims within =>
      rw [Outcome.map, contents_accept, contents_writeSpare, made.contents]
      exact .fill (made.not_refuses ok) claims within
  | drain exits =>
    cases exits with
    | nothing empty => exact .drainNothing (b.contents_eq_nil_iff.2 empty)
    | failed some fails => exact .drainFailed rfl (b.contents_ne_nil_iff.2 some) fails
    | taken some claims =>
      rw [Outcome.map, contents_consume]
      exact .drain rfl (b.contents_ne_nil_iff.2 some) claims

/-! ## Whole runs -/

theorem keepsTo_of_contents (b : Buffer) (calls : List (Allocator × Operation)) :
    KeepsTo b.contents (Operation.history b calls) := by
  induction calls generalizing b with
  | nil => exact .nil _
  | cons c rest ih =>
    have step := (Step.performs ⟨b, c.1, c.2⟩).queueStep
    exact .cons step (Buffer.shows_contents _) (ih _)

/-- Every history of a fresh buffer keeps to a queue of bytes, which is empty at first. -/
theorem keepsTo_history {alloc : Allocator} {o : Options} {b : Buffer}
    (created : Buffer.create alloc o = .ok b) (calls : List (Allocator × Operation)) :
    b.Shows [] ∧ KeepsTo [] (Operation.history b calls) := by
  have empty : b.contents = [] := by
    obtain ⟨-, rfl⟩ := Buffer.create_eq_ok_iff.1 created
    rfl
  rw [← empty]
  exact ⟨b.shows_contents, keepsTo_of_contents b calls⟩

/-- Growing, moving to the front, a refusal, a source that reports too much, and a drain. -/
theorem keepsTo_history_of_four :
    Buffer.create (.upTo 16) { initialCapacity := 4 } =
      .ok ⟨.empty, .empty, ⟨#[0, 0, 0, 0]⟩, { initialCapacity := 4 }⟩ ∧
    (Buffer.mk .empty .empty ⟨#[0, 0, 0, 0]⟩ { initialCapacity := 4 }).Shows [] ∧
    KeepsTo [] (Operation.history ⟨.empty, .empty, ⟨#[0, 0, 0, 0]⟩, { initialCapacity := 4 }⟩
      [(.upTo 16, .append ⟨#[1, 2, 3]⟩), (.upTo 16, .consume 2), (.upTo 16, .append ⟨#[4, 5]⟩),
        (.upTo 16, .append ⟨#[6, 7, 8]⟩), (.upTo 16, .append ⟨#[9, 9, 9, 9, 9, 9]⟩),
        (.upTo 64000, .fill fun slice => ⟨slice, .ok (slice.size + 1)⟩),
        (.upTo 16, .drain fun bytes => .ok bytes.size)]) := by
  have created : Buffer.create (.upTo 16) { initialCapacity := 4 } =
      .ok ⟨.empty, .empty, ⟨#[0, 0, 0, 0]⟩, { initialCapacity := 4 }⟩ := rfl
  exact ⟨created, keepsTo_history created _⟩

end Spool
