import Mathlib.Data.List.Forall2
import Spool.Proofs.History
import Spool.Proofs.Reservation

/-!
# Stale bytes

What is spent or free in a region is left over from earlier traffic. Two buffers that differ in
nothing else are `Alike`. An `Action` is any call on a buffer, those that repeat simpler ones
included. A run is `Clean` if nothing becomes unread in it that was not written for it: each commit
follows writes to all the bytes it lets in, and each source is `Blind`. Main statement: a clean run
goes the same way on buffers that are alike, step by step.
-/

namespace ByteArray

variable {b c data : ByteArray} {start i n : Nat}

theorem getElem?_overwrite_of_lt (h : i < start) :
    (b.overwrite start data).data.toList[i]? = b.data.toList[i]? := by
  have hb : b.data.toList.length = b.size := by simp
  have hd : data.data.toList.length = data.size := by simp
  rw [toList_data_overwrite]
  grind

theorem getElem?_overwrite_of_ge (h : start + data.size ≤ i) :
    (b.overwrite start data).data.toList[i]? = b.data.toList[i]? := by
  have hb : b.data.toList.length = b.size := by simp
  rcases Nat.lt_or_ge i b.size with lt | ge
  · have front : (b.data.toList.take start ++ data.data.toList.take (b.size - start)).length =
        start + data.size := by simp; omega
    rw [toList_data_overwrite, List.getElem?_append_right (by omega), front, List.getElem?_drop]
    congr 1
    omega
  · have size : (b.overwrite start data).data.toList.length = b.size := by simp
    rw [List.getElem?_eq_none (by omega), List.getElem?_eq_none (by omega)]

/-- What was written does not depend on what was there. -/
theorem getElem?_overwrite_of_mem (same : c.size = b.size) (h : start ≤ i)
    (h' : i < start + data.size) :
    (c.overwrite start data).data.toList[i]? = (b.overwrite start data).data.toList[i]? := by
  have hb : b.data.toList.length = b.size := by simp
  have hc : c.data.toList.length = c.size := by simp
  have hd : data.data.toList.length = data.size := by simp
  rw [toList_data_overwrite, toList_data_overwrite]
  grind

theorem take_eq_take (h : ∀ i < n, c.data.toList[i]? = b.data.toList[i]?) :
    c.take n = b.take n := by
  apply eq_of_toList_data_eq
  rw [toList_data_take, toList_data_take]
  apply List.ext_getElem?
  intro i
  rw [List.getElem?_take, List.getElem?_take]
  by_cases lt : i < n
  · rw [if_pos lt, if_pos lt, h i lt]
  · rw [if_neg lt, if_neg lt]

end ByteArray

namespace Spool

/-! ## Alike -/

/-- The same cursors, capacity, options and unread bytes. Spent and free bytes may differ. -/
structure Buffer.Alike (b c : Buffer) : Prop where
  unread : c.unread = b.unread
  readAt : c.readAt = b.readAt
  writeAt : c.writeAt = b.writeAt
  capacity : c.capacity = b.capacity
  options : c.options = b.options

/-- The same answer and the same events, and buffers that are alike. -/
structure Outcome.Alike {α : Type} (o p : Outcome α) : Prop where
  answer : p.answer = o.answer
  after : o.after.Alike p.after
  events : p.events = o.events

theorem Outcome.Alike.map {α β : Type} {o p : Outcome α} (h : o.Alike p) (f : α → β) :
    (o.map f).Alike (p.map f) :=
  ⟨congrArg f h.answer, h.after, h.events⟩

namespace Buffer

variable {b c : Buffer}

theorem alike_of_sizes (unread : c.unread = b.unread) (leading : c.leading = b.leading)
    (trailing : c.trailing = b.trailing) (options : c.options = b.options) : b.Alike c := by
  have len : c.len = b.len := congrArg ByteArray.size unread
  refine ⟨unread, leading, ?_, ?_, options⟩
  · rw [writeAt, writeAt, leading, len]
  · rw [capacity, capacity, leading, len, trailing]

namespace Alike

theorem len (h : b.Alike c) : c.len = b.len := congrArg ByteArray.size h.unread

theorem leading (h : b.Alike c) : c.leading = b.leading := h.readAt

theorem trailing (h : b.Alike c) : c.trailing = b.trailing := by
  have hb : b.capacity = b.writeAt + b.trailing := rfl
  have hc : c.capacity = c.writeAt + c.trailing := rfl
  have := h.writeAt
  have := h.capacity
  omega

theorem refl (b : Buffer) : b.Alike b := ⟨rfl, rfl, rfl, rfl, rfl⟩

/-! ### Consuming -/

theorem clear (h : b.Alike c) : b.clear.Alike c.clear := by
  refine alike_of_sizes rfl rfl ?_ h.options
  rw [trailing_clear, trailing_clear, h.capacity]

theorem consume (h : b.Alike c) (n : Nat) : (b.consume n).Alike (c.consume n) := by
  unfold Buffer.consume
  rw [h.len]
  by_cases zero : n = 0
  · rw [if_pos zero, if_pos zero]
    exact h
  · by_cases all : b.len ≤ n
    · rw [if_neg zero, if_neg zero, if_pos all, if_pos all]
      exact h.clear
    · rw [if_neg zero, if_neg zero, if_neg all, if_neg all]
      refine alike_of_sizes (congrArg (·.drop n) h.unread) ?_ h.trailing h.options
      show (c.spent ++ c.unread.take n).size = (b.spent ++ b.unread.take n).size
      have leading : c.spent.size = b.spent.size := h.leading
      rw [ByteArray.size_append, ByteArray.size_append, h.unread, leading]

/-! ### Making room -/

theorem compact (h : b.Alike c) : b.compact.Alike c.compact := by
  refine alike_of_sizes h.unread rfl ?_ h.options
  rw [trailing_compact, trailing_compact, h.leading, h.trailing]

theorem moveInto (h : b.Alike c) (fresh : ByteArray) :
    (b.moveInto fresh).Alike (c.moveInto fresh) := by
  refine alike_of_sizes h.unread rfl ?_ h.options
  rw [trailing_moveInto, trailing_moveInto, h.len]

theorem makeRoom (h : b.Alike c) (alloc : Allocator) (n : Nat) :
    (b.makeRoom alloc n).Alike (c.makeRoom alloc n) := by
  have size : c.grownCapacity n = b.grownCapacity n := by
    rw [grownCapacity, grownCapacity, h.capacity, h.options]
  unfold Buffer.makeRoom
  rw [h.trailing, h.leading, h.len, h.capacity, size]
  split
  · exact ⟨rfl, h, rfl⟩
  · split
    · exact ⟨rfl, h.compact, rfl⟩
    · cases alloc.allocate (b.grownCapacity n) with
      | error e => exact ⟨rfl, h, rfl⟩
      | ok fresh => exact ⟨rfl, h.moveInto fresh, rfl⟩

theorem shrink (h : b.Alike c) (alloc : Allocator) (n : Nat) :
    (b.shrink alloc n).Alike (c.shrink alloc n) := by
  unfold Buffer.shrink
  rw [h.capacity, h.len]
  split
  · exact ⟨rfl, h, rfl⟩
  · cases alloc.allocate (max n b.len) with
    | error e => exact ⟨rfl, h, rfl⟩
    | ok fresh => exact ⟨rfl, h.moveInto fresh, rfl⟩

/-! ### Producing -/

/-- Whatever is written to the free space of the one and of the other. -/
theorem writeSpare (h : b.Alike c) (start start' : Nat) (data data' : ByteArray) :
    (b.writeSpare start data).Alike (c.writeSpare start' data') := by
  refine alike_of_sizes ?_ ?_ ?_ h.options
  · rw [unread_writeSpare, unread_writeSpare, h.unread]
  · rw [leading_writeSpare, leading_writeSpare, h.leading]
  · rw [trailing_writeSpare, trailing_writeSpare, h.trailing]

/-- What is let in has to be the same on both sides. -/
theorem accept (h : b.Alike c) {n : Nat} (same : c.free.take n = b.free.take n) :
    (b.accept n).Alike (c.accept n) := by
  refine alike_of_sizes ?_ h.leading ?_ h.options
  · rw [unread_accept, unread_accept, h.unread, same]
  · rw [trailing_accept, trailing_accept, h.trailing]

theorem append (h : b.Alike c) (alloc : Allocator) (data : ByteArray) :
    (b.append alloc data).Alike (c.append alloc data) := by
  have room := h.makeRoom alloc data.size
  unfold Buffer.append
  split
  · exact ⟨rfl, h, rfl⟩
  · dsimp only
    rw [room.answer, room.events]
    cases (b.makeRoom alloc data.size).answer with
    | error e => exact ⟨rfl, room.after, rfl⟩
    | ok r =>
      refine ⟨rfl, alike_of_sizes ?_ room.after.leading ?_ room.after.options, rfl⟩
      · exact congrArg (· ++ data) room.after.unread
      · have trailing := room.after.trailing
        unfold Buffer.trailing at trailing ⊢
        rw [ByteArray.size_drop, ByteArray.size_drop, trailing]

theorem write (h : b.Alike c) (alloc : Allocator) (data : ByteArray) :
    (b.write alloc data).Alike (c.write alloc data) := by
  rw [write_eq_map_append, write_eq_map_append]
  exact (h.append alloc data).map _

theorem writeAll (h : b.Alike c) (alloc : Allocator) (data : ByteArray) :
    (b.writeAll alloc data).Alike (c.writeAll alloc data) := by
  rw [writeAll_eq_map_append, writeAll_eq_map_append]
  exact (h.append alloc data).map _

/-! ### Reading -/

theorem read (h : b.Alike c) (most : Nat) : (b.read most).Alike (c.read most) := by
  refine ⟨congrArg (·.take most) h.unread, ?_, rfl⟩
  show (b.consume (min most b.len)).Alike (c.consume (min most c.len))
  rw [h.len]
  exact h.consume _

theorem readInto (h : b.Alike c) (target : ByteArray) :
    (b.readInto target).Alike (c.readInto target) :=
  (h.read target.size).map _

theorem drain (h : b.Alike c) {τ : Type} (sink : Sink τ) (t : τ) :
    (b.drain sink t).1.Alike (c.drain sink t).1 := by
  unfold Buffer.drain isEmpty
  rw [h.len, h.unread]
  split
  · exact ⟨rfl, h, rfl⟩
  · dsimp only
    split
    · exact ⟨rfl, h, rfl⟩
    · exact ⟨rfl, h.consume _, rfl⟩

end Alike

end Buffer

/-! ## Sources that do not look -/

/-- What the source reports, and the bytes that it claims to have written, depend on the size of the
slice it is offered, and not on what is in it. -/
structure Blind (source : ByteArray → Pull) : Prop where
  answer : ∀ {s t : ByteArray}, t.size = s.size → (source t).answer = (source s).answer
  claimed : ∀ {s t : ByteArray} {n : Nat}, t.size = s.size → (source s).answer = .ok n →
    n ≤ s.size →
      (t.overwrite 0 (source t).slice).take n = (s.overwrite 0 (source s).slice).take n

/-- A source that is told how much space there is, and nothing else, is blind if it hands over as
many bytes as it claims. It may also fail, or claim more than there is space for. -/
theorem blind_of_size {data : Nat → ByteArray} {answer : Nat → Except IoError Nat}
    (hands : ∀ {size n}, answer size = .ok n → n ≤ size → n ≤ (data size).size) :
    Blind fun slice => ⟨data slice.size, answer slice.size⟩ where
  answer same := congrArg answer same
  claimed := by
    intro s t n same claims within
    have covered := hands claims within
    rw [same]
    refine ByteArray.take_eq_take fun i lt => ?_
    have lt' : i < 0 + (data s.size).size := by omega
    exact ByteArray.getElem?_overwrite_of_mem same (Nat.zero_le i) lt'

theorem Buffer.Alike.fill {b c : Buffer} (h : b.Alike c) (alloc : Allocator)
    {source : ByteArray → Pull} (blind : Blind source) :
    (b.fill alloc (fun _ offered => (source offered, ())) ()).1.Alike
      (c.fill alloc (fun _ offered => (source offered, ())) ()).1 := by
  have room := h.makeRoom alloc b.options.fillRoom
  have same : (source (c.makeRoom alloc b.options.fillRoom).after.free).answer =
      (source (b.makeRoom alloc b.options.fillRoom).after.free).answer :=
    blind.answer room.after.trailing
  unfold Buffer.fill
  rw [h.options]
  dsimp only
  rw [room.answer, room.events, same, trailing_writeSpare, trailing_writeSpare,
    room.after.trailing]
  cases (b.makeRoom alloc b.options.fillRoom).answer with
  | error e => exact ⟨rfl, room.after, rfl⟩
  | ok r =>
    have written := room.after.writeSpare 0 0
      (source (b.makeRoom alloc b.options.fillRoom).after.free).slice
      (source (c.makeRoom alloc b.options.fillRoom).after.free).slice
    cases claims : (source (b.makeRoom alloc b.options.fillRoom).after.free).answer with
    | error e => exact ⟨rfl, written, rfl⟩
    | ok n =>
      by_cases past : (b.makeRoom alloc b.options.fillRoom).after.trailing < n
      · simp only [if_pos past]
        exact ⟨rfl, written, rfl⟩
      · simp only [if_neg past]
        exact ⟨rfl, written.accept (blind.claimed room.after.trailing claims (Nat.not_lt.1 past)),
          rfl⟩

/-! ## Readers -/

/-- What a reader hands over. -/
inductive Reading.Answer where
  | bytes (got : Except IoError ByteArray)
  | text (got : Except IoError String)
  | count (n : Nat)
  | lines (got : List ByteArray)
  | slices (n : Nat) (targets : List ByteArray)

/-- Reads, with what was read. -/
def Reading.read (b : Buffer) : Reading → Outcome Reading.Answer
  | exact want => (b.readExact want).map .bytes
  | toEnd => b.readToEnd.map fun got => .bytes (.ok got)
  | text => b.readToString.map .text
  | through delimiter => (b.readUntil delimiter).map fun got => .bytes (.ok got)
  | skip delimiter => (b.skipUntil delimiter).map .count
  | line => b.readLine.map .text
  | lines delimiter => (b.takeLines delimiter).map .lines
  | scattered targets => (b.readScattered targets).map fun r => .slices r.1 r.2

theorem Reading.took_read (b : Buffer) (r : Reading) : ∃ n, b.Took n (r.read b) := by
  obtain ⟨n, -, took⟩ := r.took b
  cases r <;> exact ⟨n, took⟩

namespace Buffer.Alike

variable {b c : Buffer}

theorem readExact (h : b.Alike c) (want : Nat) : (b.readExact want).Alike (c.readExact want) := by
  unfold Buffer.readExact
  generalize ByteArray.empty = got
  fun_induction readExact.go b want got generalizing c with
  | case1 b got =>
    rw [readExact.go.eq_def c, if_pos rfl]
    exact ⟨rfl, h, rfl⟩
  | case2 b want got some empty =>
    rw [readExact.go.eq_def c, if_neg some, if_pos (h.len.trans empty)]
    exact ⟨rfl, h, rfl⟩
  | case3 b want got some more ih =>
    have read := h.read want
    rw [readExact.go.eq_def c, if_neg some, if_neg (by rwa [h.len]), h.len, read.answer]
    exact ih read.after

theorem readWindows (h : b.Alike c) (window : Nat) (got : ByteArray) :
    (b.readWindows window got).Alike (c.readWindows window got) := by
  fun_induction Buffer.readWindows window b got generalizing c with
  | case1 b got empty =>
    rw [Buffer.readWindows.eq_def window c, if_pos (h.len.trans empty)]
    exact ⟨rfl, h, rfl⟩
  | case2 b got more ih =>
    have read := h.read (max window 1)
    rw [Buffer.readWindows.eq_def window c, if_neg (by rwa [h.len]), read.answer]
    exact ih read.after

theorem readUntil (h : b.Alike c) (delimiter : UInt8) :
    (b.readUntil delimiter).Alike (c.readUntil delimiter) := by
  unfold Buffer.readUntil
  generalize ByteArray.empty = got
  fun_induction readUntil.go delimiter b got generalizing c with
  | case1 b got i found =>
    rw [readUntil.go.eq_def delimiter c, h.unread, found]
    exact ⟨rfl, h.consume (i + 1), rfl⟩
  | case2 b got none empty =>
    rw [readUntil.go.eq_def delimiter c, h.unread, none]
    dsimp only
    rw [if_pos (h.len.trans empty)]
    exact ⟨rfl, h, rfl⟩
  | case3 b got none more ih =>
    rw [readUntil.go.eq_def delimiter c, h.unread, none]
    dsimp only
    rw [if_neg (by rwa [h.len]), h.len]
    exact ih (h.consume b.len)

theorem takeLines (h : b.Alike c) (delimiter : UInt8) :
    (b.takeLines delimiter).Alike (c.takeLines delimiter) := by
  fun_induction Buffer.takeLines b delimiter generalizing c with
  | case1 b none =>
    have none' := h.unread ▸ none
    rw [Buffer.takeLines.eq_def c]
    split
    · exact ⟨rfl, h, rfl⟩
    · next i found => rw [none'] at found; cases found
  | case2 b i found rest =>
    rename_i ih
    have found' := h.unread ▸ found
    rw [Buffer.takeLines.eq_def c]
    split
    · next none => rw [none] at found'; cases found'
    · next j found'' =>
      obtain rfl : i = j := Option.some.inj (found'.symm.trans found'')
      have others := ih (h.consume (i + 1))
      refine ⟨?_, others.after, others.events⟩
      exact congrArg₂ List.cons (congrArg (·.take i) h.unread) others.answer

theorem readScattered (h : b.Alike c) (targets : List ByteArray) :
    (b.readScattered targets).Alike (c.readScattered targets) := by
  induction targets with
  | nil => exact ⟨rfl, h, rfl⟩
  | cons t ts ih =>
    unfold Buffer.readScattered
    split
    · exact ih.map _
    · exact (h.readInto t).map _

theorem reading (h : b.Alike c) (r : Reading) : (r.read b).Alike (r.read c) := by
  unfold Reading.read
  cases r with
  | exact want => exact (h.readExact want).map _
  | toEnd => exact (h.readWindows 4096 .empty).map _
  | text => exact ((h.readWindows 4096 .empty).map _).map _
  | through delimiter => exact (h.readUntil delimiter).map _
  | skip delimiter => exact ((h.readUntil delimiter).map _).map _
  | line => exact ((h.readUntil Buffer.lineFeed).map _).map _
  | lines delimiter => exact (h.takeLines delimiter).map _
  | scattered targets => exact (h.readScattered targets).map _

end Buffer.Alike

/-! ## Actions -/

/-- A call on a buffer, be it a single operation or one that repeats them. -/
inductive Action where
  | call (op : Operation)
  | reading (r : Reading)
  /-- To write the first of several byte strings that is not empty. -/
  | gathered (data : List ByteArray)
  /-- To look at the unread bytes. -/
  | look

inductive Action.Answer where
  | call (a : Spool.Answer)
  | reading (a : Reading.Answer)
  | count (r : Except IoError Nat)
  | bytes (unread : ByteArray)

namespace Action

def perform (alloc : Allocator) (b : Buffer) : Action → Outcome Action.Answer
  | call op => (op.perform alloc b).map .call
  | reading r => (r.read b).map .reading
  | gathered data => (b.writeGathered alloc data).map .count
  | look => ⟨.bytes b.unread, b, []⟩

/-- What each action of a run leaves behind, each with its own allocator. -/
def run (b : Buffer) : List (Allocator × Action) → List (Outcome Action.Answer)
  | [] => []
  | (alloc, a) :: rest => a.perform alloc b :: run (a.perform alloc b).after rest

/-- The offsets of the free space that hold what was written there, after one more action. They are
counted from where the free space starts, which an action may change, and are lost with the region.
What a source was offered counts as stale again. -/
def written (alloc : Allocator) (b : Buffer) (before : Nat → Prop) : Action → Nat → Prop
  | call (.writeSpare start data), i => before i ∨ start ≤ i ∧ i < start + data.size
  | call (.fill _), _ => False
  | a, i =>
    let after := (a.perform alloc b).after
    after.capacity = b.capacity ∧ b.writeAt ≤ after.writeAt + i ∧
      before (after.writeAt + i - b.writeAt)

/-- The action lets nothing in but what was written. -/
def LetsIn (b : Buffer) (written : Nat → Prop) : Action → Prop
  | call (.commit n) => n ≤ b.trailing → ∀ i < n, written i
  | call (.fill source) => Blind source
  | _ => True

/-- No action of the run lets anything in but what was written, if `before` are the offsets that
were written to before. -/
def Clean (b : Buffer) (before : Nat → Prop) : List (Allocator × Action) → Prop
  | [] => True
  | (alloc, a) :: rest => a.LetsIn b before ∧
      Clean (a.perform alloc b).after (a.written alloc b before) rest

end Action

/-- The free spaces hold the same bytes at the given offsets. -/
def Buffer.Shares (offsets : Nat → Prop) (b c : Buffer) : Prop :=
  ∀ i, offsets i → c.free.data.toList[i]? = b.free.data.toList[i]?

/-! ## One action -/

section

variable {alloc : Allocator} {b c : Buffer} {before : Nat → Prop}

/-- An action that lets nothing stale in does not tell buffers apart. -/
theorem Buffer.Alike.perform (h : b.Alike c) (shares : b.Shares before c) {a : Action}
    (letsIn : a.LetsIn b before) : (a.perform alloc b).Alike (a.perform alloc c) := by
  cases a with
  | reading r => exact (h.reading r).map _
  | gathered data => exact (h.write alloc _).map _
  | look => exact ⟨congrArg Action.Answer.bytes h.unread, h, rfl⟩
  | call op =>
    refine Outcome.Alike.map ?_ _
    cases op with
    | append data => exact (h.append alloc data).map _
    | makeRoom n => exact (h.makeRoom alloc n).map _
    | writeSpare start data =>
      refine ⟨?_, h.writeSpare start start data data, rfl⟩
      show Answer.copied (c.spareRoom start data.size) = .copied (b.spareRoom start data.size)
      rw [Buffer.spareRoom, Buffer.spareRoom, h.trailing]
    | commit n =>
      refine Outcome.Alike.map ?_ _
      unfold Buffer.commit
      rw [h.trailing]
      by_cases within : n ≤ b.trailing
      · rw [if_pos within, if_pos within]
        refine ⟨rfl, h.accept (ByteArray.take_eq_take fun i lt => ?_), rfl⟩
        exact shares i (letsIn within i lt)
      · rw [if_neg within, if_neg within]
        exact ⟨rfl, h, rfl⟩
    | consume n => exact ⟨rfl, h.consume n, rfl⟩
    | clear => exact ⟨rfl, h.clear, rfl⟩
    | shrink n => exact (h.shrink alloc n).map _
    | write data => exact (h.write alloc data).map _
    | writeAll data => exact (h.writeAll alloc data).map _
    | read target => exact (h.readInto target).map fun r => Answer.read r.1 r.2
    | fill source => exact (h.fill alloc letsIn).map _
    | drain sink => exact (h.drain _ ()).map _

end

/-! ### Free space that stays -/

/-- What lies behind the unread bytes of both is the same. -/
def Buffer.Keeps (b c : Buffer) : Prop :=
  ∀ p, b.writeAt ≤ p → c.writeAt ≤ p → c.region.data.toList[p]? = b.region.data.toList[p]?

namespace Buffer

variable {alloc : Allocator} {b c : Buffer}

theorem getElem?_free (b : Buffer) (i : Nat) :
    b.free.data.toList[i]? = b.region.data.toList[b.writeAt + i]? := by
  have front : (b.spent ++ b.unread).data.toList.length = b.writeAt := by
    simp [writeAt, leading, len]
  rw [region, ByteArray.data_append, Array.toList_append, List.getElem?_append_right (by omega),
    front, Nat.add_sub_cancel_left]

theorem keeps_of_region_eq (same : c.region = b.region) : b.Keeps c := by
  intro p _ _
  rw [same]

theorem keeps_refl (b : Buffer) : b.Keeps b := keeps_of_region_eq rfl

theorem keeps_consume (b : Buffer) (n : Nat) : b.Keeps (b.consume n) :=
  keeps_of_region_eq (b.region_consume n)

theorem keeps_compact (b : Buffer) : b.Keeps b.compact := by
  intro p _ behind
  rw [region_compact]
  exact ByteArray.getElem?_overwrite_of_ge behind

theorem MakesRoom.keeps {n : Nat} {room : Outcome (Except AllocationError Relocation)}
    (h : b.MakesRoom alloc n room) (same : room.after.capacity = b.capacity) :
    b.Keeps room.after := by
  cases h with
  | inPlace | refused => exact b.keeps_refl
  | compacted => exact b.keeps_compact
  | grown short =>
    have hcap : b.capacity = b.leading + b.len + b.trailing := rfl
    have larger := b.len_add_le_grownCapacity n
    have same : (b.moveInto (.replicate (b.grownCapacity n) 0)).capacity = b.capacity := same
    rw [b.capacity_moveInto_replicate (by omega)] at same
    omega

theorem Shrinks.keeps {n : Nat} {out : Outcome (Except AllocationError Unit)}
    (h : b.Shrinks alloc n out) (same : out.after.capacity = b.capacity) : b.Keeps out.after := by
  cases h with
  | kept | refused => exact b.keeps_refl
  | moved loose =>
    have same : (b.moveInto (.replicate (max n b.len) 0)).capacity = b.capacity := same
    rw [b.capacity_moveInto_replicate (Nat.le_max_right ..)] at same
    omega

/-- What is appended goes before everything that stays. -/
theorem Appends.keeps {data : ByteArray} {out : Outcome (Except AllocationError Relocation)}
    (h : b.Appends alloc data out) (same : out.after.capacity = b.capacity) :
    b.Keeps out.after := by
  cases h with
  | refused => exact b.keeps_refl
  | @added room r made ok =>
    have fits := made.le_trailing ok
    have capacity : room.after.capacity = b.capacity := by
      rwa [capacity_accept, capacity_writeSpare] at same
    intro p before after
    have start : (room.after.writeSpare 0 data).writeAt = room.after.writeAt := rfl
    rw [writeAt_accept _ _ (by rwa [trailing_writeSpare]), start] at after
    rw [region_accept, region_writeSpare, ByteArray.getElem?_overwrite_of_ge after]
    exact made.keeps capacity p before (by omega)

theorem Drains.keeps {τ : Type} {sink : Sink τ} {t : τ} {out : Outcome (Except IoError Nat) × τ}
    (h : b.Drains sink t out) : b.Keeps out.1.after := by
  obtain ⟨after, -⟩ := h.took
  exact after ▸ b.keeps_consume _

end Buffer

/-- Free space stays as it is unless it is given to somebody to write into, or the region is
replaced. -/
theorem Performs.keeps {alloc : Allocator} {b : Buffer} {op : Operation} {offered : List ByteArray}
    {out : Outcome Answer} (h : Performs alloc b op offered out)
    (noWrite : ∀ start data, op ≠ .writeSpare start data) (noFill : ∀ source, op ≠ .fill source)
    (same : out.after.capacity = b.capacity) : b.Keeps out.after := by
  cases h with
  | append exits | write exits | writeAll exits => exact exits.keeps same
  | makeRoom exits => exact exits.keeps same
  | shrink exits => exact exits.keeps same
  | writeSpare => exact absurd rfl (noWrite _ _)
  | commit => exact Buffer.keeps_of_region_eq (b.region_accept _)
  | overrun => exact b.keeps_refl
  | consume | read => exact b.keeps_consume _
  | clear => exact Buffer.keeps_of_region_eq b.region_clear
  | fill => exact absurd rfl (noFill _)
  | drain exits => exact exits.keeps

theorem Action.keeps {alloc : Allocator} {b : Buffer} {a : Action}
    (noWrite : ∀ start data, a ≠ .call (.writeSpare start data))
    (noFill : ∀ source, a ≠ .call (.fill source))
    (same : (a.perform alloc b).after.capacity = b.capacity) :
    b.Keeps (a.perform alloc b).after := by
  cases a with
  | call op =>
    exact (Step.performs ⟨b, alloc, op⟩).keeps (fun start data eq => noWrite start data (eq ▸ rfl))
      (fun source eq => noFill source (eq ▸ rfl)) same
  | reading r =>
    obtain ⟨n, after, -⟩ := r.took_read b
    have consumed : ((reading r).perform alloc b).after = b.consume n := after
    exact consumed ▸ b.keeps_consume n
  | gathered data =>
    have exits := b.appends alloc ((data.find? (·.size ≠ 0)).getD .empty)
    have appended : (gathered data).perform alloc b = ((b.append alloc
        ((data.find? (·.size ≠ 0)).getD .empty)).map fun r => (r.mapError .allocation).map
          fun _ => ((data.find? (·.size ≠ 0)).getD .empty).size).map .count :=
      congrArg (Outcome.map Action.Answer.count) (b.write_eq_map_append alloc _)
    rw [appended] at same ⊢
    exact exits.keeps same
  | look => exact b.keeps_refl

/-- What was written on both sides is the same on both sides. -/
theorem Buffer.Alike.shares {alloc : Allocator} {b c : Buffer} {before : Nat → Prop}
    (h : b.Alike c) (shares : b.Shares before c) {a : Action} (letsIn : a.LetsIn b before) :
    (a.perform alloc b).after.Shares (a.written alloc b before) (a.perform alloc c).after := by
  intro i written
  -- a byte that stays where it is in the region is at another offset if the free space has moved
  have kept (noWrite : ∀ start data, a ≠ .call (.writeSpare start data))
      (noFill : ∀ source, a ≠ .call (.fill source))
      (stays : (a.perform alloc b).after.capacity = b.capacity ∧
        b.writeAt ≤ (a.perform alloc b).after.writeAt + i ∧
        before ((a.perform alloc b).after.writeAt + i - b.writeAt)) :
      (a.perform alloc c).after.free.data.toList[i]? =
        (a.perform alloc b).after.free.data.toList[i]? := by
    obtain ⟨capacity, behind, before⟩ := stays
    have after : (a.perform alloc b).after.Alike (a.perform alloc c).after :=
      (h.perform shares letsIn).after
    have capacity' : (a.perform alloc c).after.capacity = c.capacity := by
      rw [after.capacity, capacity, h.capacity]
    have behind' : c.writeAt ≤ (a.perform alloc c).after.writeAt + i := by
      rwa [after.writeAt, h.writeAt]
    have place : b.writeAt + ((a.perform alloc b).after.writeAt + i - b.writeAt) =
        (a.perform alloc b).after.writeAt + i := by omega
    have agree := shares _ before
    rw [Buffer.getElem?_free, Buffer.getElem?_free, h.writeAt, place] at agree
    rw [Buffer.getElem?_free, Buffer.getElem?_free,
      Action.keeps noWrite noFill capacity _ behind (Nat.le_add_right ..),
      Action.keeps noWrite noFill capacity' _ behind' (Nat.le_add_right ..), after.writeAt]
    exact agree
  cases a with
  | call op =>
    cases op with
    | writeSpare start data =>
      show (c.free.overwrite start data).data.toList[i]? =
        (b.free.overwrite start data).data.toList[i]?
      by_cases mem : start ≤ i ∧ i < start + data.size
      · exact ByteArray.getElem?_overwrite_of_mem h.trailing mem.1 mem.2
      · have before := written.resolve_right mem
        rcases Nat.lt_or_ge i start with lt | ge
        · rw [ByteArray.getElem?_overwrite_of_lt lt, ByteArray.getElem?_overwrite_of_lt lt]
          exact shares i before
        · have past : start + data.size ≤ i := by omega
          rw [ByteArray.getElem?_overwrite_of_ge past, ByteArray.getElem?_overwrite_of_ge past]
          exact shares i before
    | fill source => exact written.elim
    | _ => exact kept nofun nofun written
  | _ => exact kept nofun nofun written

/-! ## Runs -/

theorem Buffer.Alike.run {b c : Buffer} {before : Nat → Prop} (h : b.Alike c)
    (shares : b.Shares before c) {actions : List (Allocator × Action)}
    (clean : Action.Clean b before actions) :
    List.Forall₂ Outcome.Alike (Action.run b actions) (Action.run c actions) := by
  induction actions generalizing b c before with
  | nil => exact .nil
  | cons first rest ih =>
    obtain ⟨letsIn, others⟩ := clean
    have after : (first.2.perform first.1 b).Alike (first.2.perform first.1 c) :=
      h.perform shares letsIn
    exact .cons after (ih after.after (h.shares shares letsIn) others)

/-- Buffers with the same cursors, capacity, options and unread bytes answer every clean run alike,
emit the same events, and have the same cursors, capacity, options and unread bytes after each of
its actions, whatever the rest of their regions holds. -/
theorem stale_bytes_inert {b c : Buffer} (alike : b.Alike c)
    {actions : List (Allocator × Action)} (clean : Action.Clean b (fun _ => False) actions) :
    List.Forall₂ Outcome.Alike (Action.run b actions) (Action.run c actions) :=
  alike.run (fun _ none => none.elim) clean

/-- Two bytes are written and let in one after the other, three are moved to the front, two more are
let in by a source, and all are read. What was left over from before differs between the buffers. -/
theorem stale_bytes_inert_of_five :
    (Buffer.mk ⟨#[1, 2]⟩ ⟨#[7]⟩ ⟨#[3, 4, 5]⟩ { readSize := 2 }).Alike
      ⟨⟨#[9, 9]⟩, ⟨#[7]⟩, ⟨#[8, 8, 8]⟩, { readSize := 2 }⟩ ∧
    List.Forall₂ Outcome.Alike
      (Action.run ⟨⟨#[1, 2]⟩, ⟨#[7]⟩, ⟨#[3, 4, 5]⟩, { readSize := 2 }⟩
        [(.upTo 0, .call (.writeSpare 0 ⟨#[5, 6]⟩)), (.upTo 0, .call (.commit 1)),
          (.upTo 0, .call (.commit 1)), (.upTo 0, .call (.makeRoom 3)),
          (.upTo 0, .call (.fill fun _ => ⟨⟨#[4, 4]⟩, .ok 2⟩)), (.upTo 0, .reading .toEnd)])
      (Action.run ⟨⟨#[9, 9]⟩, ⟨#[7]⟩, ⟨#[8, 8, 8]⟩, { readSize := 2 }⟩
        [(.upTo 0, .call (.writeSpare 0 ⟨#[5, 6]⟩)), (.upTo 0, .call (.commit 1)),
          (.upTo 0, .call (.commit 1)), (.upTo 0, .call (.makeRoom 3)),
          (.upTo 0, .call (.fill fun _ => ⟨⟨#[4, 4]⟩, .ok 2⟩)), (.upTo 0, .reading .toEnd)]) := by
  have alike : (Buffer.mk ⟨#[1, 2]⟩ ⟨#[7]⟩ ⟨#[3, 4, 5]⟩ { readSize := 2 }).Alike
      ⟨⟨#[9, 9]⟩, ⟨#[7]⟩, ⟨#[8, 8, 8]⟩, { readSize := 2 }⟩ := ⟨rfl, rfl, rfl, rfl, rfl⟩
  have hands {size n : Nat} (claims : (Except.ok 2 : Except IoError Nat) = .ok n)
      (_ : n ≤ size) : n ≤ (ByteArray.mk #[4, 4]).size := by
    cases claims
    exact Nat.le_refl 2
  have blind : Blind fun _ => ⟨⟨#[4, 4]⟩, .ok 2⟩ := blind_of_size hands
  have first : ∀ i < 1, False ∨ 0 ≤ i ∧ i < 0 + 2 := fun i lt => .inr (by omega)
  -- the byte behind the first one has come to the front of the free space
  have second : ∀ i < 1, 3 + 3 = 3 + 3 ∧ 3 ≤ 4 + i ∧ (False ∨ 0 ≤ 4 + i - 3 ∧ 4 + i - 3 < 0 + 2) :=
    fun i lt => ⟨rfl, by omega, .inr (by omega)⟩
  exact ⟨alike, stale_bytes_inert alike
    ⟨trivial, fun _ => first, fun _ => second, trivial, blind, trivial, trivial⟩⟩

end Spool
