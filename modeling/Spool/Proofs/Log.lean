import Spool.Proofs.Growth
import Spool.Proofs.Reservation
import Spool.Proofs.Traps

/-!
# The log is a history

A call that asks for room and gets it by moving bytes leaves one event, a shrink that changes the
capacity leaves one, and no other call leaves any: `Step.event?` reads it off the call and what came
of it. `Replays c log d` goes through a log from capacity `c` to capacity `d` and compares each
event with the capacity at its moment. Main statement: the log of a run is made of the events of its
steps, in order, and its replay goes from the first capacity to the last.
-/

namespace Spool

open Buffer

/-- The operations that ask for room. To write all of nothing is no reason to. -/
def Operation.asks : Operation → Bool
  | .append _ | .write _ | .makeRoom _ | .fill _ => true
  | .writeAll data => data.size != 0
  | _ => false

/-- How an operation that asks for room gets it, if it does. -/
def Operation.relocation? (alloc : Allocator) (b : Buffer) (op : Operation) : Option Relocation :=
  if op.asks then (b.makeRoom alloc (op.additional b.options)).answer.toOption else none

/-- What the log tells of room made in `b`. -/
def Buffer.event? (b : Buffer) : Relocation → Option Event
  | .inPlace => none
  | .compacted moved => some (.compacted moved b.capacity)
  | .grown old new => some (.grew old new b.len)

/-- What the log tells of a call that turns `b` into `after`. -/
def Operation.event? (alloc : Allocator) (b after : Buffer) : Operation → Option Event
  | .shrink _ => if after.capacity = b.capacity then none else some (.shrunk after.capacity)
  | op => (op.relocation? alloc b).bind b.event?

theorem Operation.event?_of_not_shrink {alloc : Allocator} {b after : Buffer} {op : Operation}
    (noShrink : ∀ n, op ≠ .shrink n) :
    op.event? alloc b after = (op.relocation? alloc b).bind b.event? := by
  cases op with
  | shrink n => exact absurd rfl (noShrink n)
  | _ => rfl

namespace Step

def relocation? (s : Step) : Option Relocation := s.operation.relocation? s.alloc s.before

def event? (s : Step) : Option Event := s.operation.event? s.alloc s.before s.outcome.after

end Step

/-! ## The event of a step -/

namespace Buffer

variable {alloc : Allocator} {b : Buffer} {n : Nat}
  {room : Outcome (Except AllocationError Relocation)}

theorem MakesRoom.events_eq (h : b.MakesRoom alloc n room) :
    room.events = (room.answer.toOption.bind b.event?).toList := by
  cases h <;> rfl

theorem Shrinks.events_eq {out : Outcome (Except AllocationError Unit)}
    (h : b.Shrinks alloc n out) : out.events =
      (if out.after.capacity = b.capacity then none
        else some (Event.shrunk out.after.capacity)).toList := by
  cases h with
  | kept => rw [if_pos rfl]; rfl
  | moved loose granted =>
    rw [b.capacity_moveInto_replicate (by omega), if_neg (by omega)]
    rfl
  | refused => rw [if_pos rfl]; rfl

/-- No operation but a shrink leaves a trace other than that of the room it asked for. -/
theorem Appends.events_eq {data : ByteArray}
    {out : Outcome (Except AllocationError Relocation)} (h : b.Appends alloc data out) :
    out.events = ((b.makeRoom alloc data.size).answer.toOption.bind b.event?).toList := by
  cases h with
  | refused refuses => rw [refuses.makeRoom_eq]; rfl
  | added made ok =>
    rw [← made.eq_makeRoom]
    exact made.events_eq

theorem Fills.events_eq {σ : Type} {source : Source σ} {s : σ}
    {out : Outcome (Except IoError Nat) × σ} (h : b.Fills alloc source s out) : out.1.events =
      ((b.makeRoom alloc b.options.fillRoom).answer.toOption.bind b.event?).toList := by
  cases h with
  | refused refuses => rw [refuses.makeRoom_eq]; rfl
  | failed made | overreported made | accepted made =>
    -- whatever the source did, the room was made before it was asked
    rw [← made.eq_makeRoom]
    exact made.events_eq

end Buffer

variable {alloc : Allocator} {b : Buffer} {op : Operation} {offered : List ByteArray}
  {out : Outcome Answer}

theorem Performs.events_eq (h : Performs alloc b op offered out) :
    out.events = (op.event? alloc b out.after).toList := by
  cases h with
  | append exits => exact exits.events_eq
  | write exits => exact exits.events_eq
  | @writeAll data out exits =>
    have events := exits.events_eq
    by_cases none : data.size = 0
    · rw [makeRoom_of_le (by omega)] at events
      simp only [Operation.event?, Operation.relocation?, Operation.asks, none]
      exact events
    · have asks : (Operation.writeAll data).asks = true := bne_iff_ne.2 none
      rw [Operation.event?, Operation.relocation?, if_pos asks]
      · exact events
      · intro n eq
        cases eq
  | @makeRoom n out exits =>
    show out.events = ((b.makeRoom alloc n).answer.toOption.bind b.event?).toList
    rw [← exits.eq_makeRoom]
    exact exits.events_eq
  | fill exits => exact exits.events_eq
  | shrink exits => exact exits.events_eq
  | drain exits => cases exits <;> rfl
  | writeSpare | commit | overrun | consume | clear | read => rfl

theorem Step.events_eq (s : Step) : s.outcome.events = s.event?.toList :=
  s.performs.events_eq

theorem Operation.events_run_eq (b : Buffer) (calls : List (Allocator × Operation)) :
    (run b calls).events = (history b calls).filterMap Step.event? := by
  rw [events_run]
  generalize history b calls = steps
  induction steps with
  | nil => rfl
  | cons s rest ih =>
    rw [List.flatMap_cons, List.filterMap_cons, ih, s.events_eq]
    cases s.event? <;> rfl

/-! ## Replays -/

/-- From a region of `c` bytes the log leads to one of `d`: each event is about a region as large as
it is by then, some bytes of it are moved, it is replaced by a larger one or by a smaller one. -/
inductive Replays : (c : Nat) → List Event → (d : Nat) → Prop where
  | nil (c : Nat) : Replays c [] c
  | compacted {c d moved : Nat} {rest : List Event} (some : 1 ≤ moved) (within : moved ≤ c)
      (others : Replays c rest d) : Replays c (.compacted moved c :: rest) d
  | grew {c d new unread : Nat} {rest : List Event} (larger : c < new)
      (others : Replays new rest d) : Replays c (.grew c new unread :: rest) d
  | shrunk {c d new : Nat} {rest : List Event} (smaller : new < c)
      (others : Replays new rest d) : Replays c (.shrunk new :: rest) d

theorem Replays.append {c d e : Nat} {log more : List Event} (h : Replays c log d)
    (h' : Replays d more e) : Replays c (log ++ more) e := by
  induction h with
  | nil => exact h'
  | compacted some within _ ih => exact .compacted some within (ih h')
  | grew larger _ ih => exact .grew larger (ih h')
  | shrunk smaller _ ih => exact .shrunk smaller (ih h')

namespace Buffer

variable {o : Options} {c : Buffer} {log : List Event} {n : Nat}

/-- Where moving the unread bytes wins room there are some: with none, all the region is free. -/
theorem WellFormed.len_pos_of_compacts (h : b.WellFormed o) (short : b.trailing < n)
    (fits : b.len + n ≤ b.capacity) : 0 < b.len := by
  have hcap : b.capacity = b.leading + b.len + b.trailing := rfl
  rcases Nat.eq_zero_or_pos b.len with empty | some
  · have := h.rewound empty
    omega
  · exact some

theorem WellFormed.replays_change (h : b.WellFormed o) (change : Change alloc b c log) :
    Replays b.capacity log c.capacity := by
  cases change with
  | compacted short fits =>
    rw [capacity_compact]
    exact .compacted (h.len_pos_of_compacts short fits) b.len_le_capacity (.nil _)
  | @grown n short granted =>
    have larger := b.len_add_le_grownCapacity n
    have le := b.len_le_capacity
    rw [capacity_moveInto_grown]
    exact .grew (by omega) (.nil _)
  | @shrunk n loose granted =>
    rw [b.capacity_moveInto_replicate (by omega)]
    exact .shrunk loose (.nil _)
  | written start data => rw [capacity_writeSpare]; exact .nil _
  | accepted => rw [capacity_accept]; exact .nil _
  | consumed => rw [capacity_consume]; exact .nil _
  | cleared => rw [capacity_clear]; exact .nil _

theorem WellFormed.replays_changes (h : b.WellFormed o) (changes : Changes alloc b c log) :
    Replays b.capacity log c.capacity := by
  induction changes with
  | refl => exact .nil _
  | step first _ ih => exact (h.replays_change first).append (ih (h.change first))

theorem WellFormed.replays_run (h : b.WellFormed o) (calls : List (Allocator × Operation)) :
    Replays b.capacity (Operation.run b calls).events (Operation.run b calls).after.capacity := by
  induction calls generalizing b with
  | nil => exact .nil _
  | cons call rest ih =>
    have changes := (Step.performs ⟨b, call.1, call.2⟩).changes
    exact (h.replays_changes changes).append (ih (changes.preserves WellFormed.change h))

end Buffer

theorem Buffer.capacity_of_create {o : Options} (created : create alloc o = .ok b) :
    b.capacity = o.initialCapacity.toNat := by
  obtain ⟨-, rfl⟩ := create_eq_ok_iff.1 created
  simp [capacity, leading, len, trailing]

/-! ## Relocations -/

theorem Buffer.MakesRoom.eq_of_compacted {n moved : Nat}
    {room : Outcome (Except AllocationError Relocation)} (h : b.MakesRoom alloc n room)
    (ok : room.answer = .ok (.compacted moved)) : moved = b.len := by
  cases h <;> cases ok
  rfl

/-- The answer of an operation that names a relocation names the one that was made. -/
theorem Performs.relocation?_eq {r : Relocation} (h : Performs alloc b op offered out)
    (answer : out.answer = .room (.ok r)) : op.relocation? alloc b = some r := by
  cases h with
  | @append data out exits =>
    cases exits with
    | refused => cases answer
    | added made ok =>
      cases answer
      show (b.makeRoom alloc data.size).answer.toOption = some r
      rw [← made.eq_makeRoom, ok]
      rfl
  | @makeRoom n out exits =>
    have ok : out.answer = .ok r := Answer.room.inj answer
    show (b.makeRoom alloc n).answer.toOption = some r
    rw [← exits.eq_makeRoom, ok]
    rfl
  | commit | overrun | consume | clear | read | writeSpare => cases answer
  | shrink | write | writeAll | fill | drain => cases answer

namespace Step

variable {s : Step} {r : Relocation}

/-- How room was made in a step is what making room in its buffer answers, and its event tells of
that. -/
theorem makeRoom_of_relocation? (h : s.relocation? = some r) :
    (s.before.makeRoom s.alloc (s.operation.additional s.before.options)).answer = .ok r ∧
      s.event? = s.before.event? r := by
  obtain ⟨b, alloc, op⟩ := s
  have made : op.relocation? alloc b = some r := h
  constructor
  · unfold Operation.relocation? at made
    split at made
    · show (b.makeRoom alloc (op.additional b.options)).answer = .ok r
      cases answer : (b.makeRoom alloc (op.additional b.options)).answer with
      | error e => rw [answer] at made; cases made
      | ok r' => rw [answer] at made; exact congrArg Except.ok (Option.some.inj made)
    · cases made
  · show op.event? alloc b _ = b.event? r
    unfold Operation.event?
    split
    · cases made
    · rw [made]
      rfl

theorem eq_of_compacted {moved : Nat} (h : s.relocation? = some (.compacted moved)) :
    moved = s.before.len := by
  obtain ⟨ok, -⟩ := makeRoom_of_relocation? h
  exact (s.before.makesRoom s.alloc _).eq_of_compacted ok

theorem eq_of_grown {old new : Nat} (h : s.relocation? = some (.grown old new)) :
    old = s.before.capacity ∧ new = s.outcome.after.capacity := by
  have noShrink : ∀ n, s.operation ≠ .shrink n := by
    intro n eq
    rw [relocation?, eq] at h
    cases h
  obtain ⟨-, event⟩ := makeRoom_of_relocation? h
  have mem : .grew old new s.before.len ∈ s.outcome.events := by
    rw [s.events_eq, event]
    exact List.mem_singleton_self _
  obtain ⟨-, same, larger, -⟩ := (s.performs.resizes noShrink).grew_mem_iff.1 mem
  exact ⟨same, larger⟩

end Step

/-- The log of a run of a fresh buffer is made of the events of its steps, one for each relocation
and one for each shrink that changed the capacity, in order. The numbers in it are those of the
answers, the unread bytes are counted as they were at the time, and its replay leads from the
initial capacity to the last one. A window, which looks at its cursors only after it has moved the
bytes, keeps the same log. -/
theorem log_is_history {alloc : Allocator} {o : Options} {b : Buffer}
    (created : Buffer.create alloc o = .ok b) (calls : List (Allocator × Operation)) :
    (Operation.run b calls).events = (Operation.history b calls).filterMap Step.event? ∧
    (∀ s ∈ Operation.history b calls, s.outcome.events = s.event?.toList ∧
      (∀ r, s.outcome.answer = .room (.ok r) → s.relocation? = some r) ∧
      (∀ moved, s.relocation? = some (.compacted moved) → moved = s.before.len) ∧
      ∀ old new, s.relocation? = some (.grown old new) →
        old = s.before.capacity ∧ new = s.outcome.after.capacity) ∧
    Replays o.initialCapacity.toNat (Operation.run b calls).events
      (Operation.run b calls).after.capacity ∧
    ∃ r, b.window.run calls = .ok r ∧ r.events = (Operation.run b calls).events := by
  have reachable := Reachable.created created
  refine ⟨Operation.events_run_eq b calls, ?_, ?_, _, reachable.run_window calls, rfl⟩
  · intro s _
    exact ⟨s.events_eq, fun r answer => s.performs.relocation?_eq answer,
      fun moved => Step.eq_of_compacted, fun old new => Step.eq_of_grown⟩
  · rw [← capacity_of_create created]
    exact reachable.wellFormed.replays_run calls

/-- A source fails after two bytes were moved for it, an append of five makes the region larger, all
but seven bytes are given back, and there is no memory for the last append. -/
theorem log_is_history_of_four :
    Buffer.create (.upTo 16) { initialCapacity := 4, readSize := 2 } =
      .ok ⟨.empty, .empty, ⟨#[0, 0, 0, 0]⟩, { initialCapacity := 4, readSize := 2 }⟩ ∧
    (Operation.run ⟨.empty, .empty, ⟨#[0, 0, 0, 0]⟩, { initialCapacity := 4, readSize := 2 }⟩
      [(.upTo 16, .append ⟨#[1, 2, 3]⟩), (.upTo 16, .consume 1),
        (.upTo 16, .fill fun slice => ⟨slice, .error .invalidText⟩),
        (.upTo 16, .append ⟨#[4, 5, 6, 7, 8]⟩), (.upTo 16, .shrink 0),
        (.upTo 16, .append ⟨#[9, 9, 9]⟩)]).events =
      [.compacted 2 4, .grew 4 13 2, .shrunk 7] ∧
    Replays 4 [.compacted 2 4, .grew 4 13 2, .shrunk 7] 7 := by
  have created : Buffer.create (.upTo 16) { initialCapacity := 4, readSize := 2 } =
      .ok ⟨.empty, .empty, ⟨#[0, 0, 0, 0]⟩, { initialCapacity := 4, readSize := 2 }⟩ := rfl
  obtain ⟨-, -, replays, -⟩ := log_is_history created
    [(.upTo 16, .append ⟨#[1, 2, 3]⟩), (.upTo 16, .consume 1),
      (.upTo 16, .fill fun slice => ⟨slice, .error .invalidText⟩),
      (.upTo 16, .append ⟨#[4, 5, 6, 7, 8]⟩), (.upTo 16, .shrink 0),
      (.upTo 16, .append ⟨#[9, 9, 9]⟩)]
  exact ⟨created, rfl, replays⟩

end Spool
