import Spool.Proofs.Queue

/-!
# Two buffers joined

Bytes enter a `Pipe` at its back buffer and leave it at its front buffer. They cross over in two
ways: the front is filled from the back (`pull`), or the back is drained into the front (`push`). In
either one buffer is the peer of the other, so that what becomes of its region does so in the middle
of the other's call. `Performs` gathers the exits of the calls, and `Flow` is what they mean for the
bytes on their way. Main statement: these are a queue through every history of a pipe, and no call
loses, repeats or reorders any of them.
-/

namespace Spool

/-! ## Buffers as peers -/

namespace Buffer

/-- A buffer as a source hands out as many bytes as there are and as there is space for. -/
theorem source_eq (b : Buffer) (slice : ByteArray) : b.source slice =
    (⟨slice.overwrite 0 (b.unread.take slice.size), .ok (min slice.size b.len)⟩,
      b.consume (min slice.size b.len)) := by
  simp [source, readInto, read, len]

/-- A buffer as a sink takes all it is offered, or nothing for want of room. -/
theorem sink_eq (alloc : Allocator) (b : Buffer) (es : List Event) (bytes : ByteArray) :
    sink alloc (b, es) bytes =
      (((b.append alloc bytes).answer.mapError .allocation).map fun _ => bytes.size,
        (b.append alloc bytes).after, es ++ (b.append alloc bytes).events) := by
  unfold sink
  rw [write_eq_map_append]
  rfl

end Buffer

/-! ## Pipes -/

structure Pipe where
  front : Buffer
  back : Buffer

namespace Pipe

inductive Call where
  /-- Fills the front from the back. -/
  | pull
  /-- Drains the back into the front. -/
  | push
  | append (data : ByteArray)
  | consume (n : Nat)

structure Result where
  answer : Answer
  after : Pipe
  events : List Event

/-- Performs one call. Of the two buffers at most one asks for memory in it. -/
def perform (alloc : Allocator) (p : Pipe) : Call → Result
  | .pull =>
    let filled := p.front.fill alloc Buffer.source p.back
    ⟨.count filled.1.answer, ⟨filled.1.after, filled.2⟩, filled.1.events⟩
  | .push =>
    let drained := p.back.drain (Buffer.sink alloc) (p.front, [])
    ⟨.count drained.1.answer, ⟨drained.2.1, drained.1.after⟩, drained.2.2 ++ drained.1.events⟩
  | .append data =>
    let added := p.back.append alloc data
    ⟨.room added.answer, ⟨p.front, added.after⟩, added.events⟩
  | .consume n => ⟨.done, ⟨p.front.consume n, p.back⟩, []⟩

/-- The bytes on their way, those that leave first in front. -/
def queue (p : Pipe) : List UInt8 := p.front.contents ++ p.back.contents

/-- A call, by its allocator and what is asked for, and the pipe it is made on. -/
structure Turn where
  before : Pipe
  alloc : Allocator
  call : Call

namespace Turn

def result (t : Turn) : Result := t.before.perform t.alloc t.call

/-- The bytes that come in. -/
def entered (t : Turn) : List UInt8 :=
  match t.call, t.result.answer with
  | .append data, .room (.ok _) => data.data.toList
  | _, _ => []

/-- The bytes that go out. -/
def left (t : Turn) : List UInt8 :=
  match t.call with
  | .consume n => t.before.front.contents.take n
  | _ => []

end Turn

/-- The turns of the calls in order, each with its own allocator. -/
def history (p : Pipe) : List (Allocator × Call) → List Turn
  | [] => []
  | (alloc, c) :: rest => ⟨p, alloc, c⟩ :: history (p.perform alloc c).after rest

/-- The pipe after the calls in order. -/
def run (p : Pipe) : List (Allocator × Call) → Pipe
  | [] => p
  | (alloc, c) :: rest => run (p.perform alloc c).after rest

/-- The call on `p`, whose bytes are the queue `q`, is answered, and leaves behind a pipe and a
queue. -/
inductive Flow (alloc : Allocator) (p : Pipe) (q : List UInt8) :
    Call → Answer → Pipe → List UInt8 → Prop where
  | pulled {p' : Pipe} {n : Nat}
      (room : ∀ e, ¬ p.front.Refuses alloc p.front.options.fillRoom e)
      (moves : n = min p.back.len
        (p.front.makeRoom alloc p.front.options.fillRoom).after.trailing)
      (none : n = 0 ↔ p.back.len = 0)
      (front : p'.front.contents = p.front.contents ++ p.back.contents.take n)
      (back : p'.back.contents = p.back.contents.drop n) :
      Flow alloc p q .pull (.count (.ok n)) p' q
  | pullRefused {e : AllocationError}
      (refuses : p.front.Refuses alloc p.front.options.fillRoom e) :
      Flow alloc p q .pull (.count (.error (.allocation e))) p q
  | pushed {p' : Pipe} (room : ∀ e, ¬ p.front.Refuses alloc p.back.len e)
      (front : p'.front.contents = p.front.contents ++ p.back.contents)
      (back : p'.back.contents = []) : Flow alloc p q .push (.count (.ok p.back.len)) p' q
  | pushRefused {e : AllocationError} (refuses : p.front.Refuses alloc p.back.len e) :
      Flow alloc p q .push (.count (.error (.allocation e))) p q
  | appended {data : ByteArray} {r : Relocation} {p' : Pipe}
      (room : ∀ e, ¬ p.back.Refuses alloc data.size e) (front : p'.front = p.front) :
      Flow alloc p q (.append data) (.room (.ok r)) p' (q ++ data.data.toList)
  | appendRefused {data : ByteArray} {e : AllocationError}
      (refuses : p.back.Refuses alloc data.size e) :
      Flow alloc p q (.append data) (.room (.error e)) p q
  | consumed {n : Nat} {p' : Pipe} (back : p'.back = p.back) :
      Flow alloc p q (.consume n) .done p' (q.drop (min n p.front.len))

/-- A queue that is `q` at first goes through the turns, and is what the pipe holds after each. -/
inductive Flows : List UInt8 → List Turn → Prop where
  | nil (q : List UInt8) : Flows q []
  | cons {q q' : List UInt8} {t : Turn} {rest : List Turn}
      (step : Flow t.alloc t.before q t.call t.result.answer t.result.after q')
      (holds : t.result.after.queue = q') (others : Flows q' rest) : Flows q (t :: rest)

/-! ## Exits -/

/-- The first `n` bytes of the back go behind those of the front, for which `room` is the buffer
that room has been made in. -/
def cross (p : Pipe) (room : Buffer) (n : Nat) : Pipe :=
  ⟨(room.writeSpare 0 (p.back.unread.take n)).accept n, p.back.consume n⟩

inductive Performs (alloc : Allocator) (p : Pipe) : Call → Result → Prop where
  | pullRefused {e : AllocationError}
      (refuses : p.front.Refuses alloc p.front.options.fillRoom e) :
      Performs alloc p .pull ⟨.count (.error (.allocation e)), p, []⟩
  | pulled {room : Outcome (Except AllocationError Relocation)} {r : Relocation} {n : Nat}
      (made : p.front.MakesRoom alloc p.front.options.fillRoom room) (ok : room.answer = .ok r)
      (moves : n = min p.back.len room.after.trailing) :
      Performs alloc p .pull ⟨.count (.ok n), p.cross room.after n, room.events⟩
  | pushRefused {e : AllocationError} (refuses : p.front.Refuses alloc p.back.len e) :
      Performs alloc p .push ⟨.count (.error (.allocation e)), p, []⟩
  | pushed {room : Outcome (Except AllocationError Relocation)} {r : Relocation}
      (made : p.front.MakesRoom alloc p.back.len room) (ok : room.answer = .ok r) :
      Performs alloc p .push ⟨.count (.ok p.back.len), p.cross room.after p.back.len, room.events⟩
  | append {data : ByteArray} : Performs alloc p (.append data)
      ⟨.room (p.back.append alloc data).answer, ⟨p.front, (p.back.append alloc data).after⟩,
        (p.back.append alloc data).events⟩
  | consume {n : Nat} :
      Performs alloc p (.consume n) ⟨.done, ⟨p.front.consume n, p.back⟩, []⟩

/-- What a pull leaves behind when room has been made. -/
theorem cross_eq (p : Pipe) {room : Buffer} {n : Nat} (moves : n = min p.back.len room.trailing) :
    p.cross room n = ⟨(room.writeSpare 0 (p.back.source room.free).1.slice).accept n,
      (p.back.source room.free).2⟩ := by
  have size : p.back.len = p.back.unread.size := rfl
  have space : room.trailing = room.free.size := rfl
  have front : p.back.unread.take room.free.size = p.back.unread.take n := by
    unfold ByteArray.take
    rw [show min room.free.size p.back.unread.size = min n p.back.unread.size by omega]
  -- the source writes over the free space, and what it wrote is written back there
  have kept (data : ByteArray) :
      room.writeSpare 0 (room.free.overwrite 0 data) = room.writeSpare 0 data := by
    unfold Buffer.writeSpare
    rw [ByteArray.overwrite_zero_of_size_eq (ByteArray.size_overwrite ..)]
  rw [Buffer.source_eq, cross, kept, front, show min room.free.size p.back.len = n by omega]

theorem cross_zero (p : Pipe) : p.cross p.front 0 = p := by
  have fits : ByteArray.empty.size ≤ p.front.trailing := Nat.zero_le _
  rw [cross, ByteArray.take_zero, Buffer.consume_zero]
  show (⟨(p.front.writeSpare 0 .empty).accept ByteArray.empty.size, p.back⟩ : Pipe) = p
  rw [Buffer.accept_writeSpare _ fits]
  simp

variable {alloc : Allocator} {p : Pipe}

theorem performs_pull (alloc : Allocator) (p : Pipe) :
    Performs alloc p .pull (p.perform alloc .pull) := by
  have exits := p.front.fills alloc Buffer.source p.back
  unfold perform
  dsimp only
  generalize p.front.fill alloc Buffer.source p.back = out at exits
  cases exits with
  | refused refuses => exact .pullRefused refuses
  | failed made ok fails =>
    rw [Buffer.source_eq] at fails
    cases fails
  | overreported made ok claims past =>
    rw [Buffer.source_eq] at claims
    cases claims
    exact absurd (Nat.min_le_left ..) (Nat.not_le.2 past)
  | @accepted room r n made ok claims within =>
    have moves : n = min p.back.len room.after.trailing := by
      rw [Buffer.source_eq] at claims
      cases claims
      exact Nat.min_comm ..
    dsimp only
    rw [← p.cross_eq moves]
    exact .pulled made ok moves

theorem performs_push (alloc : Allocator) (p : Pipe) :
    Performs alloc p .push (p.perform alloc .push) := by
  have exits := p.back.drains (Buffer.sink alloc) (p.front, [])
  have appends := p.front.appends alloc p.back.unread
  unfold perform
  dsimp only
  generalize p.back.drain (Buffer.sink alloc) (p.front, []) = out at exits
  cases exits with
  | nothing empty =>
    -- no room is needed for nothing
    have pushed : Performs alloc p .push ⟨_, p.cross p.front p.back.len, []⟩ :=
      .pushed (.inPlace (by omega)) rfl
    rw [empty, cross_zero] at pushed
    exact pushed
  | failed some fails =>
    rw [Buffer.sink_eq] at fails ⊢
    generalize p.front.append alloc p.back.unread = out at fails appends
    cases appends with
    | refused refuses =>
      cases fails
      exact .pushRefused refuses
    | added => cases fails
  | taken some claims =>
    rw [Buffer.sink_eq] at claims ⊢
    generalize p.front.append alloc p.back.unread = out at claims appends
    cases appends with
    | refused => cases claims
    | added made ok =>
      cases claims
      have all : p.back.unread.take p.back.len = p.back.unread :=
        ByteArray.take_of_size_le (Nat.le_refl _)
      have pushed := Performs.pushed made ok
      rw [cross, all] at pushed
      simp only [List.nil_append, List.append_nil]
      exact pushed

theorem performs (alloc : Allocator) (p : Pipe) (c : Call) :
    Performs alloc p c (p.perform alloc c) := by
  cases c with
  | pull => exact performs_pull alloc p
  | push => exact performs_push alloc p
  | append data => exact .append
  | consume n => exact .consume

/-! ## Each turn -/

/-- Bytes cross over from the front of the one to the end of the other. -/
theorem contents_cross {room : Buffer} {n : Nat} (same : room.contents = p.front.contents)
    (fits : n ≤ room.trailing) (left : n ≤ p.back.len) :
    (p.cross room n).front.contents = p.front.contents ++ p.back.contents.take n ∧
      (p.cross room n).back.contents = p.back.contents.drop n := by
  have size : (p.back.unread.take n).size = n := by
    rw [ByteArray.size_take]
    exact Nat.min_eq_left left
  have added := Buffer.contents_accept_writeSpare (Nat.le_trans (Nat.le_of_eq size) fits)
  rw [size, ByteArray.toList_data_take, same] at added
  exact ⟨added, Buffer.contents_consume ..⟩

/-- A transfer leaves the queue alone: what the back loses the front has got. -/
theorem queue_eq_of_crossed {p' : Pipe} {n : Nat}
    (front : p'.front.contents = p.front.contents ++ p.back.contents.take n)
    (back : p'.back.contents = p.back.contents.drop n) : p'.queue = p.queue := by
  rw [queue, queue, front, back, List.append_assoc, List.take_append_drop]

theorem min_le_length_front (p : Pipe) (n : Nat) :
    min n p.front.len ≤ p.front.contents.length := by
  rw [Buffer.length_contents]
  exact Nat.min_le_right ..

theorem take_front (p : Pipe) (n : Nat) :
    p.front.contents.take n = p.queue.take (min n p.front.len) := by
  rw [queue, List.take_append_of_le_length (p.min_le_length_front n), List.take_eq_take_iff,
    Buffer.length_contents]
  omega

theorem queue_consume (p : Pipe) (n : Nat) :
    (Pipe.mk (p.front.consume n) p.back).queue = p.queue.drop (min n p.front.len) := by
  have front : p.front.contents.drop n = p.front.contents.drop (min n p.front.len) := by
    rw [List.drop_eq_drop_iff, Buffer.length_contents]
    omega
  rw [queue, queue, Buffer.contents_consume, front,
    List.drop_append_of_le_length (p.min_le_length_front n)]

theorem queue_append {data : ByteArray} {room : Outcome (Except AllocationError Relocation)}
    {r : Relocation} (p : Pipe) (made : p.back.MakesRoom alloc data.size room)
    (ok : room.answer = .ok r) :
    (Pipe.mk p.front ((room.after.writeSpare 0 data).accept data.size)).queue =
      p.queue ++ data.data.toList := by
  rw [queue, queue, Buffer.contents_append made ok, List.append_assoc]

theorem Performs.flow {c : Call} {r : Result} (h : Performs alloc p c r) :
    Flow alloc p p.queue c r.answer r.after r.after.queue := by
  cases h with
  | pullRefused refuses => exact .pullRefused refuses
  | @pulled room _ n made ok moves =>
    obtain ⟨front, back⟩ := p.contents_cross (n := n) made.contents (by omega) (by omega)
    have some := p.front.options.fillRoom_pos
    have enough := made.le_trailing ok
    rw [queue_eq_of_crossed front back]
    refine .pulled (made.not_refuses ok) ?_ (by omega) front back
    rw [← made.eq_makeRoom]
    exact moves
  | pushRefused refuses => exact .pushRefused refuses
  | @pushed room _ made ok =>
    obtain ⟨front, back⟩ := p.contents_cross made.contents (made.le_trailing ok) (Nat.le_refl _)
    rw [queue_eq_of_crossed front back]
    rw [← Buffer.length_contents, List.take_length] at front
    rw [← Buffer.length_contents, List.drop_length] at back
    exact .pushed (made.not_refuses ok) front back
  | @append data =>
    have exits := p.back.appends alloc data
    generalize p.back.append alloc data = out at exits
    cases exits with
    | refused refuses => exact .appendRefused refuses
    | added made ok =>
      dsimp only
      rw [p.queue_append made ok]
      exact .appended (made.not_refuses ok) rfl
  | consume =>
    rw [queue_consume]
    exact .consumed rfl

/-- What goes out comes off the front of the queue, and what comes in goes to its end. -/
theorem Turn.balance (t : Turn) : t.left ++ t.result.after.queue = t.before.queue ++ t.entered := by
  obtain ⟨p, alloc, c⟩ := t
  have flow := (performs alloc p c).flow
  unfold left entered result
  dsimp only
  generalize p.perform alloc c = r at flow
  obtain ⟨answer, after, events⟩ := r
  dsimp only at flow ⊢
  generalize after.queue = q at flow
  cases flow with
  | pulled | pullRefused | pushed | pushRefused | appendRefused =>
    exact (List.append_nil _).symm
  | appended => rfl
  | @consumed n =>
    dsimp only
    rw [p.take_front n, List.take_append_drop, List.append_nil]

/-- The front after a transfer: room made, bytes written to it and accepted. -/
theorem reachable_cross {b : Buffer} {o : Options} {m n : Nat} (data : ByteArray)
    {room : Outcome (Except AllocationError Relocation)} (h : Reachable o b)
    (made : b.MakesRoom alloc m room) (fits : n ≤ room.after.trailing) :
    Reachable o ((room.after.writeSpare 0 data).accept n) := by
  have within : n ≤ (room.after.writeSpare 0 data).trailing := by
    rw [Buffer.trailing_writeSpare]
    exact fits
  have commit : ((Operation.commit n).perform alloc (room.after.writeSpare 0 data)).after =
      (room.after.writeSpare 0 data).accept n := by
    rw [Operation.perform, Outcome.after_map, Buffer.commit, if_pos within]
  have roomy : Reachable o room.after := made.eq_makeRoom ▸ h.performed alloc (.makeRoom m)
  rw [← commit]
  exact (roomy.performed alloc (.writeSpare 0 data)).performed alloc (.commit n)

/-- The two buffers after a call are such as calls on them alone lead to. -/
theorem Performs.reachable {c : Call} {r : Result} {o o' : Options} (h : Performs alloc p c r)
    (front : Reachable o p.front) (back : Reachable o' p.back) :
    Reachable o r.after.front ∧ Reachable o' r.after.back := by
  cases h with
  | pullRefused | pushRefused => exact ⟨front, back⟩
  | pulled made ok moves =>
    exact ⟨reachable_cross _ front made (by omega), back.performed alloc (.consume _)⟩
  | pushed made ok =>
    exact ⟨reachable_cross _ front made (made.le_trailing ok), back.performed alloc (.consume _)⟩
  | @append data => exact ⟨front, back.performed alloc (.append data)⟩
  | @consume n => exact ⟨front.performed alloc (.consume n), back⟩

/-! ## Whole runs -/

theorem flows_of_queue (p : Pipe) (calls : List (Allocator × Call)) :
    Flows p.queue (history p calls) := by
  induction calls generalizing p with
  | nil => exact .nil _
  | cons c rest ih => exact .cons (performs c.1 p c.2).flow rfl (ih _)

theorem balance_history (p : Pipe) (calls : List (Allocator × Call)) :
    (history p calls).flatMap Turn.left ++ (run p calls).queue =
      p.queue ++ (history p calls).flatMap Turn.entered := by
  induction calls generalizing p with
  | nil => rw [history, run, List.flatMap_nil, List.flatMap_nil, List.append_nil]; rfl
  | cons c rest ih =>
    have first := (Turn.mk p c.1 c.2).balance
    calc (history p (c :: rest)).flatMap Turn.left ++ (run p (c :: rest)).queue
        = (Turn.mk p c.1 c.2).left ++ ((history _ rest).flatMap Turn.left ++ (run _ rest).queue) :=
          List.append_assoc ..
      _ = (Turn.mk p c.1 c.2).left ++ (Turn.mk p c.1 c.2).result.after.queue ++
            (history _ rest).flatMap Turn.entered := by rw [ih, List.append_assoc]; rfl
      _ = p.queue ++ (history p (c :: rest)).flatMap Turn.entered := by
          rw [first, List.append_assoc]; rfl

theorem reachable_history {p : Pipe} {o o' : Options} (front : Reachable o p.front)
    (back : Reachable o' p.back) (calls : List (Allocator × Call)) :
    ∀ t ∈ history p calls,
      Reachable o t.result.after.front ∧ Reachable o' t.result.after.back := by
  induction calls generalizing p with
  | nil => exact fun t mem => nomatch mem
  | cons c rest ih =>
    have ends := (performs c.1 p c.2).reachable front back
    intro t mem
    rcases List.mem_cons.1 mem with rfl | later
    · exact ends
    · exact ih ends.1 ends.2 t later

/-- Through every history the bytes on their way are a queue: what went out and what is left are
what was there and what came in, in that order. The two buffers stay reachable. -/
theorem flows_history (p : Pipe) (calls : List (Allocator × Call)) :
    Flows p.queue (history p calls) ∧
    (history p calls).flatMap Turn.left ++ (run p calls).queue =
      p.queue ++ (history p calls).flatMap Turn.entered ∧
    ∀ {o o' : Options}, Reachable o p.front → Reachable o' p.back →
      ∀ t ∈ history p calls,
        Reachable o t.result.after.front ∧ Reachable o' t.result.after.back :=
  ⟨p.flows_of_queue calls, p.balance_history calls, fun front back =>
    reachable_history front back calls⟩

/-- A pull cut short by the space at the front, a push for which there is no memory, and one after a
byte has left. -/
theorem flows_history_of_five :
    Reachable { initialCapacity := 2, readSize := 1 }
      ⟨.empty, .empty, ⟨#[0, 0]⟩, { initialCapacity := 2, readSize := 1 }⟩ ∧
    Reachable { initialCapacity := 4 } ⟨.empty, .empty, ⟨#[0, 0, 0, 0]⟩, { initialCapacity := 4 }⟩ ∧
    Flows [] (history ⟨⟨.empty, .empty, ⟨#[0, 0]⟩, { initialCapacity := 2, readSize := 1 }⟩,
        ⟨.empty, .empty, ⟨#[0, 0, 0, 0]⟩, { initialCapacity := 4 }⟩⟩
      [(.upTo 4, .append ⟨#[1, 2, 3]⟩), (.upTo 4, .pull), (.upTo 4, .push), (.upTo 4, .consume 1),
        (.upTo 4, .push)]) ∧
    ∀ t ∈ history ⟨⟨.empty, .empty, ⟨#[0, 0]⟩, { initialCapacity := 2, readSize := 1 }⟩,
        ⟨.empty, .empty, ⟨#[0, 0, 0, 0]⟩, { initialCapacity := 4 }⟩⟩
      [(.upTo 4, .append ⟨#[1, 2, 3]⟩), (.upTo 4, .pull), (.upTo 4, .push), (.upTo 4, .consume 1),
        (.upTo 4, .push)],
      Reachable { initialCapacity := 2, readSize := 1 } t.result.after.front ∧
        Reachable { initialCapacity := 4 } t.result.after.back := by
  have front : Reachable { initialCapacity := 2, readSize := 1 }
      ⟨.empty, .empty, ⟨#[0, 0]⟩, { initialCapacity := 2, readSize := 1 }⟩ :=
    .created (show Buffer.create (.upTo 4) _ = _ from rfl)
  have back : Reachable { initialCapacity := 4 }
      ⟨.empty, .empty, ⟨#[0, 0, 0, 0]⟩, { initialCapacity := 4 }⟩ :=
    .created (show Buffer.create (.upTo 4) _ = _ from rfl)
  have run := flows_history ⟨⟨.empty, .empty, ⟨#[0, 0]⟩, { initialCapacity := 2, readSize := 1 }⟩,
    ⟨.empty, .empty, ⟨#[0, 0, 0, 0]⟩, { initialCapacity := 4 }⟩⟩
  exact ⟨front, back, (run _).1, (run _).2.2 front back⟩

end Pipe

end Spool
