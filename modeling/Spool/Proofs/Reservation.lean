import Spool.Operation
import Spool.Proofs.Exits
import Spool.Proofs.Reading

/-!
# A reservation is a promise

Room for `n` bytes, once made, is there until `n` bytes were added: whatever adds no more than that,
and whatever is taken off or asked for in between, is done in place and without asking for memory.
`Drawn` says what may become of a buffer in the meantime and how much of the promise is then left;
`Drawn.left_le_trailing` is the invariant. Main statement: at every such moment every call within
what is left ends in the same way, whatever there is of memory, and that way is a success.
-/

namespace Spool

/-- The bytes that a call of the operation adds if it succeeds. -/
def Operation.adds : Operation → Nat
  | .append data | .write data | .writeAll data => data.size
  | .commit n => n
  | _ => 0

/-- The operation adds no more than `left` bytes and asks for no more room, and it neither fills the
buffer from a source nor shrinks it. -/
def Operation.Within (left : Nat) : Operation → Prop
  | .append data | .write data | .writeAll data => data.size ≤ left
  | .commit n | .makeRoom n => n ≤ left
  | .writeSpare _ _ | .consume _ | .clear | .read _ | .drain _ => True
  | .shrink _ | .fill _ => False

/-- The answer of an operation that is within a promise, where the promise settles it. -/
def Operation.promised : Operation → Option Answer
  | .append _ | .makeRoom _ => some (.room (.ok .inPlace))
  | .write data => some (.count (.ok data.size))
  | .writeAll _ => some (.written (.ok ()))
  | .commit _ => some (.committed (.ok ()))
  | _ => none

/-- What may become of `b`, in which there is room for `n` bytes, by calls that keep within the room
and by readers, and how much of the room is then left. -/
inductive Drawn (n : Nat) (b : Buffer) : (left : Nat) → Buffer → Prop where
  | start : Drawn n b n b
  | call {left : Nat} {c : Buffer} (drawn : Drawn n b left c) (alloc : Allocator) {op : Operation}
      (within : op.Within left) : Drawn n b (left - op.adds) (op.perform alloc c).after
  | reading {left : Nat} {c : Buffer} (drawn : Drawn n b left c) (r : Reading) :
      Drawn n b left (r.perform c).after

/-! ## Calls within the room -/

namespace Buffer

variable {alloc : Allocator} {b : Buffer} {n : Nat}

theorem makeRoom_of_le (h : n ≤ b.trailing) : b.makeRoom alloc n = ⟨.ok .inPlace, b, []⟩ := by
  rw [makeRoom, if_pos h]

theorem append_of_le {data : ByteArray} (h : data.size ≤ b.trailing) :
    b.append alloc data =
      ⟨.ok .inPlace, (b.writeSpare 0 data).accept data.size, []⟩ := by
  rw [accept_writeSpare b h, append]
  split
  · next none =>
    obtain rfl := ByteArray.size_eq_zero_iff.1 none
    simp
  · simp only [makeRoom_of_le h]

@[simp] theorem trailing_accept (b : Buffer) (n : Nat) : (b.accept n).trailing = b.trailing - n :=
  ByteArray.size_drop b.free n

theorem trailing_clear (b : Buffer) : b.clear.trailing = b.capacity := size_region b

/-- Taking bytes off costs no room; taking the last one off even wins some. -/
theorem trailing_le_consume (b : Buffer) (n : Nat) : b.trailing ≤ (b.consume n).trailing := by
  have hcap : b.capacity = b.leading + b.len + b.trailing := rfl
  by_cases zero : n = 0
  · exact Nat.le_of_eq (by rw [zero, consume_zero])
  · rcases Nat.lt_or_ge n b.len with lt | le
    · exact Nat.le_of_eq (congrArg trailing (consume_of_lt b lt)).symm
    · rw [consume_of_le b n zero le, trailing_clear]
      omega

/-- The number of bytes that a sink says it took. -/
def reported : Except IoError Nat → Nat
  | .ok n => n
  | .error _ => 0

/-- A drain consumes what the sink says, and that is all it does. -/
theorem Drains.took {τ : Type} {sink : Sink τ} {t : τ} {out : Outcome (Except IoError Nat) × τ}
    (h : b.Drains sink t out) : b.Took (reported out.1.answer) out.1 := by
  cases h with
  | nothing | failed => exact b.took_zero _
  | taken => exact ⟨rfl, rfl⟩

end Buffer

open Buffer

/-- The call is made in place: whatever there is of memory, it answers `a` and leaves `d` behind,
with the same region and with the room it did not use up, and it emits nothing. -/
structure InPlace (op : Operation) (left : Nat) (c : Buffer) (a : Answer) (d : Buffer) : Prop where
  perform : ∀ alloc, op.perform alloc c = ⟨a, d, []⟩
  promised : ∀ p, op.promised = some p → a = p
  capacity : d.capacity = c.capacity
  room : left - op.adds ≤ d.trailing

section

variable {op : Operation} {left : Nat} {c : Buffer} {a : Answer}

/-- Data written to the front of the room and accepted uses up as much of it. -/
theorem InPlace.of_append {data : ByteArray} (room : left ≤ c.trailing)
    (adds : op.adds = data.size) (promised : op.promised = some a)
    (perform : ∀ alloc, op.perform alloc c = ⟨a, (c.writeSpare 0 data).accept data.size, []⟩) :
    InPlace op left c a ((c.writeSpare 0 data).accept data.size) where
  perform := perform
  promised p h := Option.some.inj (promised.symm.trans h)
  capacity := by rw [capacity_accept, capacity_writeSpare]
  room := by
    rw [adds, trailing_accept, trailing_writeSpare]
    exact Nat.sub_le_sub_right room data.size

/-- Taking bytes off is done in place; nothing is promised of its answer. -/
theorem InPlace.of_took {n : Nat} {out : Outcome Answer} (room : left ≤ c.trailing)
    (promised : op.promised = none) (took : c.Took n out)
    (perform : ∀ alloc, op.perform alloc c = out) :
    InPlace op left c out.answer out.after where
  perform alloc := by rw [perform, ← took.2]
  promised p h := by rw [promised] at h; cases h
  capacity := by rw [took.1, capacity_consume]
  room := by
    have := c.trailing_le_consume n
    rw [took.1]
    omega

theorem Operation.Within.inPlace (h : op.Within left) (room : left ≤ c.trailing) :
    ∃ a d, InPlace op left c a d := by
  cases op with
  | append data =>
    refine ⟨_, _, .of_append room rfl rfl fun alloc => ?_⟩
    rw [perform, append_of_le (Nat.le_trans h room)]
    rfl
  | write data =>
    refine ⟨_, _, .of_append room rfl rfl fun alloc => ?_⟩
    rw [perform, write_eq_map_append, append_of_le (Nat.le_trans h room)]
    rfl
  | writeAll data =>
    refine ⟨_, _, .of_append room rfl rfl fun alloc => ?_⟩
    rw [perform, writeAll_eq_map_append, append_of_le (Nat.le_trans h room)]
    rfl
  | makeRoom n =>
    refine ⟨.room (.ok .inPlace), c, fun alloc => ?_, fun p h => Option.some.inj h, rfl, room⟩
    rw [perform, makeRoom_of_le (Nat.le_trans h room)]
    rfl
  | writeSpare start data =>
    refine ⟨_, _, fun _ => rfl, fun _ h => (nomatch h), c.capacity_writeSpare start data, ?_⟩
    rwa [trailing_writeSpare]
  | commit n =>
    refine ⟨.committed (.ok ()), c.accept n, fun alloc => ?_, fun p h => Option.some.inj h,
      c.capacity_accept n, ?_⟩
    · rw [perform, Buffer.commit, if_pos (Nat.le_trans h room)]
      rfl
    · rw [trailing_accept]
      exact Nat.sub_le_sub_right room n
  | consume n => exact ⟨_, _, .of_took room rfl ⟨rfl, rfl⟩ fun _ => rfl⟩
  | clear =>
    have hcap : c.capacity = c.leading + c.len + c.trailing := rfl
    refine ⟨_, _, fun _ => rfl, fun _ h => (nomatch h), c.capacity_clear, ?_⟩
    rw [trailing_clear]
    omega
  | read target => exact ⟨_, _, .of_took room rfl ⟨rfl, rfl⟩ fun _ => rfl⟩
  | drain sink =>
    have took := (c.drains (fun _ bytes => (sink bytes, ())) ()).took
    exact ⟨_, _, .of_took room rfl took.map fun _ => rfl⟩
  | shrink n | fill source => exact absurd h id

end

/-! ## Promises -/

/-- The capacity stays, and what is left of the room is there. -/
theorem Drawn.left_le_trailing {n left : Nat} {b c : Buffer} (h : Drawn n b left c)
    (room : n ≤ b.trailing) : c.capacity = b.capacity ∧ left ≤ c.trailing := by
  induction h with
  | start => exact ⟨rfl, room⟩
  | call drawn alloc within ih =>
    obtain ⟨a, d, inPlace⟩ := within.inPlace ih.2
    rw [inPlace.perform alloc]
    exact ⟨inPlace.capacity.trans ih.1, inPlace.room⟩
  | @reading left c drawn r ih =>
    obtain ⟨k, -, after, -⟩ := Reading.took c r
    rw [after, capacity_consume]
    exact ⟨ih.1, Nat.le_trans ih.2 (c.trailing_le_consume k)⟩

/-- After room was made for `n` bytes, for as long as no more than `n` are added and asked for, the
capacity stays, appends and reservations are made in place, commits are accepted, nothing is emitted
and what there is of memory makes no difference. -/
theorem makeRoom_is_promise {alloc : Allocator} {b : Buffer} {n : Nat} {r : Relocation}
    (made : (b.makeRoom alloc n).answer = .ok r) {left : Nat} {c : Buffer}
    (drawn : Drawn n (b.makeRoom alloc n).after left c) :
    c.capacity = (b.makeRoom alloc n).after.capacity ∧ left ≤ c.trailing ∧
    (∀ op : Operation, op.Within left → ∃ a d, (∀ alloc, op.perform alloc c = ⟨a, d, []⟩) ∧
      (∀ p, op.promised = some p → a = p) ∧ d.capacity = c.capacity) ∧
    ∀ r : Reading, (r.perform c).after.capacity = c.capacity ∧ (r.perform c).events = [] := by
  obtain ⟨capacity, room⟩ := drawn.left_le_trailing ((b.makesRoom alloc n).le_trailing made)
  refine ⟨capacity, room, fun op within => ?_, fun r => ?_⟩
  · obtain ⟨a, d, inPlace⟩ := within.inPlace room
    exact ⟨a, d, inPlace.perform, inPlace.promised, inPlace.capacity⟩
  · obtain ⟨k, -, after, events⟩ := Reading.took c r
    exact ⟨by rw [after, capacity_consume], events⟩

/-- Room for three bytes is made by moving one to the front. After one more was appended and all
were drained and read there is room for two, for which no memory is needed. -/
theorem makeRoom_is_promise_of_three :
    ((Buffer.mk ⟨#[8]⟩ ⟨#[9]⟩ ⟨#[0, 0]⟩ {}).makeRoom (.upTo 0) 3).answer = .ok (.compacted 1) ∧
    Drawn 3 ((Buffer.mk ⟨#[8]⟩ ⟨#[9]⟩ ⟨#[0, 0]⟩ {}).makeRoom (.upTo 0) 3).after 2
      ⟨.empty, .empty, ⟨#[9, 7, 0, 0]⟩, {}⟩ ∧
    ((Operation.makeRoom 2).perform (.upTo 0) ⟨.empty, .empty, ⟨#[9, 7, 0, 0]⟩, {}⟩).answer =
      .room (.ok .inPlace) := by
  have made : ((Buffer.mk ⟨#[8]⟩ ⟨#[9]⟩ ⟨#[0, 0]⟩ {}).makeRoom (.upTo 0) 3).answer =
      .ok (.compacted 1) := rfl
  have drawn : Drawn 3 ((Buffer.mk ⟨#[8]⟩ ⟨#[9]⟩ ⟨#[0, 0]⟩ {}).makeRoom (.upTo 0) 3).after 2
      ⟨.empty, .empty, ⟨#[9, 7, 0, 0]⟩, {}⟩ := by
    have appends : (Operation.append ⟨#[7]⟩).Within 3 := Nat.le_add_left 1 2
    have drains : (Operation.drain fun _ => .ok 1).Within 2 := trivial
    exact ((Drawn.start.call (.upTo 0) appends).call (.upTo 0) drains).reading
      (.scattered [⟨#[0]⟩])
  obtain ⟨-, -, calls, -⟩ := makeRoom_is_promise made drawn
  obtain ⟨a, d, perform, promised, -⟩ := calls (.makeRoom 2) (Nat.le_refl 2)
  refine ⟨made, drawn, ?_⟩
  rw [perform (.upTo 0), promised _ rfl]

end Spool
