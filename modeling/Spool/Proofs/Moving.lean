import Mathlib.Tactic.Ring
import Spool.Proofs.Growth
import Spool.Proofs.Reservation

/-!
# The cost of moving

An append that needs room may have to move the unread bytes first: `Step.copied` counts those that
went into a larger region, `Step.shifted` those that went to the front of the same one, and
`Step.won` the consumed bytes in front of them whose place became free by that. Growing is
amortized: all growths of a run of appends and consumptions copy at most twice the bytes appended.
What shifts win back was consumed before, so shifting is amortized as far as no shift moves many
times the bytes that it wins back. Without that it is not: a region that is kept full is shifted as
a whole for each byte that is replaced (`Buffer.Full`), so no constant bounds the cost of moving in
regions of every size.
-/

namespace Spool

open Buffer

/-- The calls of a stream that is appended to and consumed by hand. -/
def Operation.feeds : Operation → Bool
  | .append _ | .consume _ => true
  | _ => false

namespace Step

/-- The unread bytes that went into a larger region, by the answer of the call. -/
def copied (s : Step) : Nat :=
  match s.outcome.answer with
  | .room (.ok (.grown _ _)) => s.before.len
  | _ => 0

/-- The unread bytes that went to the front of their region, by the answer of the call. -/
def shifted (s : Step) : Nat :=
  match s.outcome.answer with
  | .room (.ok (.compacted moved)) => moved
  | _ => 0

/-- The consumed bytes in front of the unread ones, when these went to the front. -/
def won (s : Step) : Nat :=
  match s.outcome.answer with
  | .room (.ok (.compacted _)) => s.before.leading
  | _ => 0

def moved (s : Step) : Nat := s.copied + s.shifted

end Step

/-- The unread bytes that the calls of a run move. -/
def moving (b : Buffer) (calls : List (Allocator × Operation)) : Nat :=
  ((Operation.history b calls).map Step.moved).sum

/-- The bytes that the calls of a run append. -/
def appended (b : Buffer) (calls : List (Allocator × Operation)) : Nat :=
  ((Operation.history b calls).map Step.entered).sum

/-! ## What one call shifts and wins back -/

section

variable {alloc : Allocator} {b : Buffer} {n moved : Nat}
  {room : Outcome (Except AllocationError Relocation)}

theorem Buffer.leading_consume_le (b : Buffer) (n : Nat) :
    (b.consume n).leading ≤ b.leading + min n b.len := by
  unfold consume
  split
  · omega
  · split
    · rw [leading_clear]
      omega
    · show (b.spent ++ b.unread.take n).size ≤ b.spent.size + min n b.unread.size
      rw [ByteArray.size_append, ByteArray.size_take]

theorem Buffer.MakesRoom.leading_le (h : b.MakesRoom alloc n room) :
    room.after.leading ≤ b.leading := by
  cases h with
  | inPlace | refused => exact Nat.le_refl _
  | compacted | grown => exact Nat.zero_le _

theorem Buffer.Appends.leading_le {data : ByteArray} (h : b.Appends alloc data room) :
    room.after.leading ≤ b.leading := by
  cases h with
  | refused => exact Nat.le_refl _
  | added made => simpa only [leading_accept, leading_writeSpare] using made.leading_le

theorem Buffer.Fills.leading_le {σ : Type} {source : Source σ} {s : σ}
    {out : Outcome (Except IoError Nat) × σ} (h : b.Fills alloc source s out) :
    out.1.after.leading ≤ b.leading := by
  cases h with
  | refused => exact Nat.le_refl _
  | failed made | overreported made | accepted made =>
    simpa only [leading_accept, leading_writeSpare] using made.leading_le

/-- The unread bytes are shifted as a whole, and only if they do not stand at the front. -/
theorem Buffer.MakesRoom.of_compacted (h : b.MakesRoom alloc n room)
    (answer : room.answer = .ok (.compacted moved)) :
    moved = b.len ∧ 0 < b.leading ∧ room.after.leading = 0 := by
  have hcap : b.capacity = b.leading + b.len + b.trailing := rfl
  cases h with
  | compacted short fits =>
    cases answer
    exact ⟨rfl, by omega, rfl⟩
  | inPlace | grown | refused => cases answer

theorem Buffer.Appends.of_compacted {data : ByteArray} (h : b.Appends alloc data room)
    (answer : room.answer = .ok (.compacted moved)) :
    moved = b.len ∧ 0 < b.leading ∧ room.after.leading = 0 := by
  cases h with
  | refused => cases answer
  | added made ok =>
    simpa only [leading_accept, leading_writeSpare] using made.of_compacted (ok.trans answer)

variable {op : Operation} {offered : List ByteArray} {out : Outcome Answer}

theorem Performs.of_compacted (h : Performs alloc b op offered out)
    (answer : out.answer = .room (.ok (.compacted moved))) :
    moved = b.len ∧ 0 < b.leading ∧ out.after.leading = 0 := by
  cases h with
  | append exits => exact exits.of_compacted (Answer.room.inj answer)
  | makeRoom exits => exact exits.of_compacted (Answer.room.inj answer)
  | commit | overrun | consume | clear | read | writeSpare => cases answer
  | shrink | write | writeAll | fill | drain => cases answer

/-- What is in front of the unread bytes was there before, or was taken off. -/
theorem Performs.leading_le (h : Performs alloc b op offered out) :
    out.after.leading ≤ b.leading + min (op.reported b.len out.answer) b.len := by
  cases h with
  | append exits | write exits | writeAll exits =>
    rw [Outcome.after_map]
    exact Nat.le_add_right_of_le exits.leading_le
  | makeRoom exits => exact Nat.le_add_right_of_le exits.leading_le
  | writeSpare | commit | overrun => exact Nat.le_add_right b.leading _
  | @consume n =>
    have := b.leading_consume_le n
    simp only [Operation.reported]
    omega
  | clear => exact Nat.zero_le _
  | shrink exits =>
    cases exits with
    | kept | refused => exact Nat.le_add_right _ _
    | moved => exact Nat.zero_le _
  | @read target =>
    have := b.leading_consume_le (min target.size b.len)
    have : b.unread.size = b.len := rfl
    simp only [Operation.reported, Buffer.read, ByteArray.size_take]
    omega
  | fill exits =>
    rw [Outcome.after_map]
    exact Nat.le_add_right_of_le exits.leading_le
  | drain exits =>
    cases exits with
    | nothing | failed => exact Nat.le_add_right _ _
    | taken => exact b.leading_consume_le _

end

namespace Step

theorem leading_add_won_le (s : Step) :
    s.outcome.after.leading + s.won ≤ s.before.leading + s.taken := by
  unfold won
  split
  · next answer =>
    obtain ⟨-, -, front⟩ := s.performs.of_compacted answer
    omega
  · exact s.performs.leading_le

/-- A shift is of less than the region, and wins back one byte at least. -/
theorem shifted_le (s : Step) : s.shifted ≤ s.before.capacity * s.won := by
  unfold shifted won
  split
  · next answer =>
    obtain ⟨rfl, some, -⟩ := s.performs.of_compacted answer
    exact Nat.le_trans s.before.len_le_capacity (Nat.le_mul_of_pos_right _ some)
  · exact Nat.zero_le _

theorem copied_le (s : Step) : s.copied ≤ if s.grows then s.before.len else 0 := by
  unfold copied
  split
  · next old new answer =>
    obtain ⟨grown, -⟩ := (s.performs.grown_iff answer).1 rfl
    rw [if_pos (grows_iff.2 grown)]
  · exact Nat.zero_le _

end Step

/-! ## Runs -/

/-- What shifts win back was taken off before, or was in front of the unread bytes to begin with. -/
theorem sum_won_le (b : Buffer) (calls : List (Allocator × Operation)) :
    ((Operation.history b calls).map Step.won).sum ≤
      b.leading + ((Operation.history b calls).map Step.taken).sum := by
  induction calls generalizing b with
  | nil => exact Nat.zero_le _
  | cons c rest ih =>
    have first := Step.leading_add_won_le ⟨b, c.1, c.2⟩
    have others := ih (c.2.perform c.1 b).after
    simp only [Operation.history, List.map_cons, List.sum_cons]
    simp only [Step.outcome] at first
    omega

theorem sum_copied_le_growths (steps : List Step) :
    (steps.map Step.copied).sum ≤ ((steps.filter Step.grows).map (·.before.len)).sum := by
  induction steps with
  | nil => exact Nat.le_refl 0
  | cons s rest ih =>
    have first := s.copied_le
    rw [List.filter_cons, List.map_cons, List.sum_cons]
    split
    · next grows =>
      rw [if_pos grows] at first
      rw [List.map_cons, List.sum_cons]
      exact Nat.add_le_add first ih
    · next stays =>
      rw [if_neg stays] at first
      omega

theorem Operation.streams_of_feeds {op : Operation} (feeds : op.feeds = true) :
    op.streams = true := by
  cases op with
  | append | consume => rfl
  | _ => cases feeds

/-- Growths copy at most twice the bytes appended. -/
theorem sum_copied_le {b : Buffer} (empty : b.len = 0) {calls : List (Allocator × Operation)}
    (feeds : ∀ c ∈ calls, c.2.feeds = true) :
    ((Operation.history b calls).map Step.copied).sum ≤ 2 * appended b calls := by
  refine Nat.le_trans (sum_copied_le_growths _) ?_
  show ((growths b calls).map (·.before.len)).sum ≤ _
  by_cases none : growths b calls = []
  · rw [none]
    exact Nat.zero_le _
  · have noShrink : ∀ c ∈ calls, ∀ n, c.2 ≠ .shrink n := by
      intro c mem n shrink
      have := feeds c mem
      rw [shrink] at this
      cases this
    have copied := ((climbs_growths b noShrink).bounds none).2
    have streams : ∀ c ∈ calls, c.2.streams = true := fun c mem =>
      Operation.streams_of_feeds (feeds c mem)
    have demand := peak_le (demand_le_entered b streams)
    rw [empty, Nat.zero_add] at demand
    simp only [appended]
    omega

/-- What is taken off was appended. -/
theorem sum_taken_le_appended {b : Buffer} (empty : b.len = 0)
    (calls : List (Allocator × Operation)) :
    ((Operation.history b calls).map Step.taken).sum ≤ appended b calls := by
  have := balance_run b calls
  simp only [appended]
  omega

theorem sum_moved_le {r : Nat} {steps : List Step} (ratio : ∀ s ∈ steps, s.shifted ≤ r * s.won) :
    (steps.map Step.moved).sum ≤ (steps.map Step.copied).sum + r * (steps.map Step.won).sum := by
  induction steps with
  | nil => exact Nat.le_refl 0
  | cons s rest ih =>
    obtain ⟨first, others⟩ := List.forall_mem_cons.1 ratio
    have := ih others
    simp only [List.map_cons, List.sum_cons, Nat.mul_add, Step.moved]
    omega

theorem moving_le_of_ratio {b : Buffer} (empty : b.len = 0) (front : b.leading = 0)
    {calls : List (Allocator × Operation)} (feeds : ∀ c ∈ calls, c.2.feeds = true) {r : Nat}
    (ratio : ∀ s ∈ Operation.history b calls, s.shifted ≤ r * s.won) :
    moving b calls ≤ (2 + r) * appended b calls := by
  have won : ((Operation.history b calls).map Step.won).sum ≤ appended b calls := by
    have := sum_won_le b calls
    have := sum_taken_le_appended empty calls
    omega
  calc moving b calls
      ≤ ((Operation.history b calls).map Step.copied).sum +
          r * ((Operation.history b calls).map Step.won).sum := sum_moved_le ratio
    _ ≤ 2 * appended b calls + r * appended b calls :=
        Nat.add_le_add (sum_copied_le empty feeds) (Nat.mul_le_mul_left r won)
    _ = (2 + r) * appended b calls := (Nat.add_mul 2 r _).symm

/-- Over a run of appends and consumptions of a fresh buffer, growths copy at most twice the bytes
appended. If every shift moves at most `r` times the consumed bytes that it wins back, all that is
moved is at most `2 + r` times the bytes appended. The size of the largest region is always such an
`r`. -/
theorem moving_is_amortized {alloc : Allocator} {o : Options} {b : Buffer}
    (created : Buffer.create alloc o = .ok b) (calls : List (Allocator × Operation))
    (feeds : ∀ c ∈ calls, c.2.feeds = true) :
    ((Operation.history b calls).map Step.copied).sum ≤ 2 * appended b calls ∧
    (∀ r, (∀ s ∈ Operation.history b calls, s.shifted ≤ r * s.won) →
      moving b calls ≤ (2 + r) * appended b calls) ∧
    ∀ c, (∀ s ∈ Operation.history b calls, s.before.capacity ≤ c) →
      moving b calls ≤ (2 + c) * appended b calls := by
  obtain ⟨empty, front⟩ : b.len = 0 ∧ b.leading = 0 := by
    obtain ⟨-, rfl⟩ := Buffer.create_eq_ok_iff.1 created
    exact ⟨rfl, rfl⟩
  refine ⟨sum_copied_le empty feeds, fun r => moving_le_of_ratio empty front feeds,
    fun c within => moving_le_of_ratio empty front feeds fun s mem => ?_⟩
  exact Nat.le_trans s.shifted_le (Nat.mul_le_mul_right _ (within s mem))

/-- A region of two bytes is filled, one byte is consumed and replaced, which shifts the other one,
and two more bytes make the region grow, which copies two. -/
theorem moving_is_amortized_of_five :
    Buffer.create (.upTo 16) { initialCapacity := 2 } =
      .ok ⟨.empty, .empty, ⟨#[0, 0]⟩, { initialCapacity := 2 }⟩ ∧
    (let b : Buffer := ⟨.empty, .empty, ⟨#[0, 0]⟩, { initialCapacity := 2 }⟩
     let calls : List (Allocator × Operation) := [(.upTo 16, .append ⟨#[1, 2]⟩),
      (.upTo 16, .consume 1), (.upTo 16, .append ⟨#[3]⟩), (.upTo 16, .append ⟨#[4, 5]⟩)]
     (Operation.history b calls).map Step.copied = [0, 0, 0, 2] ∧
     (Operation.history b calls).map Step.shifted = [0, 0, 1, 0] ∧
     (Operation.history b calls).map Step.won = [0, 0, 1, 0] ∧
     [0, 0, 0, 2].sum ≤ 2 * appended b calls ∧
     moving b calls ≤ (2 + 1) * appended b calls ∧
     moving b calls ≤ (2 + 2) * appended b calls) := by
  have created : Buffer.create (.upTo 16) { initialCapacity := 2 } =
      .ok ⟨.empty, .empty, ⟨#[0, 0]⟩, { initialCapacity := 2 }⟩ := rfl
  obtain ⟨copies, ratio, capacity⟩ := moving_is_amortized created
    [(.upTo 16, .append ⟨#[1, 2]⟩), (.upTo 16, .consume 1), (.upTo 16, .append ⟨#[3]⟩),
      (.upTo 16, .append ⟨#[4, 5]⟩)] (by decide)
  exact ⟨created, by decide +kernel, by decide +kernel, by decide +kernel, copies,
    ratio 1 (by decide +kernel), capacity 2 (by decide +kernel)⟩

/-! ## A region that is kept full -/

/-- One byte is consumed and another one appended, `n` times. -/
def replacing (alloc : Allocator) : (n : Nat) → List (Allocator × Operation)
  | 0 => []
  | n + 1 => (alloc, .consume 1) :: (alloc, .append (.replicate 1 0)) :: replacing alloc n

/-- `c` bytes are appended, and then replaced one after the other, `n` times. -/
def keepingFull (alloc : Allocator) (c n : Nat) : List (Allocator × Operation) :=
  (alloc, .append (.replicate c 0)) :: replacing alloc n

theorem feeds_keepingFull (alloc : Allocator) (c n : Nat) :
    ∀ call ∈ keepingFull alloc c n, call.2.feeds = true := by
  have replaced : ∀ call ∈ replacing alloc n, call.2.feeds = true := by
    induction n with
    | zero => exact fun call mem => nomatch mem
    | succ n ih => exact List.forall_mem_cons.2 ⟨rfl, List.forall_mem_cons.2 ⟨rfl, ih⟩⟩
  exact List.forall_mem_cons.2 ⟨rfl, replaced⟩

namespace Buffer

/-- The unread bytes that a relocation moves. -/
def relocated (b : Buffer) : Relocation → Nat
  | .inPlace => 0
  | .compacted moved => moved
  | .grown _ _ => b.len

/-- All of the region is unread. -/
structure Full (b : Buffer) : Prop where
  front : b.leading = 0
  back : b.trailing = 0

variable {alloc : Allocator} {b : Buffer} {data : ByteArray}
  {out : Outcome (Except AllocationError Relocation)}

theorem moving_consume (b : Buffer) (n : Nat) (alloc : Allocator)
    (rest : List (Allocator × Operation)) :
    moving b ((alloc, .consume n) :: rest) = moving (b.consume n) rest :=
  Nat.zero_add _

theorem appended_consume (b : Buffer) (n : Nat) (alloc : Allocator)
    (rest : List (Allocator × Operation)) :
    appended b ((alloc, .consume n) :: rest) = appended (b.consume n) rest :=
  Nat.zero_add _

theorem moving_append {r : Relocation} (answer : (b.append alloc data).answer = .ok r)
    (rest : List (Allocator × Operation)) :
    moving b ((alloc, .append data) :: rest) =
      b.relocated r + moving (b.append alloc data).after rest := by
  have moves : Step.moved ⟨b, alloc, .append data⟩ = b.relocated r := by
    cases r <;>
      simp [Step.moved, Step.copied, Step.shifted, Step.outcome, Operation.perform, answer,
        relocated]
  rw [← moves]
  exact List.sum_cons

theorem appended_append {r : Relocation} (answer : (b.append alloc data).answer = .ok r)
    (rest : List (Allocator × Operation)) :
    appended b ((alloc, .append data) :: rest) =
      data.size + appended (b.append alloc data).after rest := by
  have enters : Step.entered ⟨b, alloc, .append data⟩ = data.size := by
    simp [Step.entered, Step.outcome, Operation.perform, answer, Operation.entered]
  rw [← enters]
  exact List.sum_cons

/-- With a gap of one byte in front and none behind, one byte is appended by shifting all others. -/
theorem Appends.of_gap (h : b.Appends alloc data out) (one : data.size = 1)
    (front : b.leading = 1) (back : b.trailing = 0) :
    out.answer = .ok (.compacted b.len) ∧ out.after.Full ∧ out.after.len = b.len + 1 := by
  have hcap : b.capacity = b.leading + b.len + b.trailing := rfl
  cases h with
  | refused refuses =>
    have := refuses.short
    omega
  | @added room r made ok =>
    have len := made.len_accept data (made.le_trailing ok)
    cases made with
    | compacted =>
      cases ok
      have back' : ((b.compact.writeSpare 0 data).accept data.size).trailing = 0 := by
        rw [trailing_accept, trailing_writeSpare, trailing_compact]
        omega
      exact ⟨rfl, ⟨rfl, back'⟩, by rw [len, one]⟩
    | inPlace fits => omega
    | grown short => omega
    | refused => cases ok

theorem Full.replaced (h : b.Full) (two : 2 ≤ b.len) (alloc : Allocator) :
    ((b.consume 1).append alloc (.replicate 1 0)).answer = .ok (.compacted (b.len - 1)) ∧
    ((b.consume 1).append alloc (.replicate 1 0)).after.Full ∧
    ((b.consume 1).append alloc (.replicate 1 0)).after.len = b.len := by
  obtain ⟨front, back⟩ : (b.consume 1).leading = 1 ∧ (b.consume 1).trailing = 0 := by
    have hfront : b.spent.size = 0 := h.front
    have hlen : b.unread.size = b.len := rfl
    rw [consume_of_lt b (by omega)]
    refine ⟨?_, h.back⟩
    show (b.spent ++ b.unread.take 1).size = 1
    rw [ByteArray.size_append, ByteArray.size_take]
    omega
  have len := b.len_consume 1
  obtain ⟨answer, full, more⟩ := ((b.consume 1).appends alloc (.replicate 1 0)).of_gap
    (ByteArray.size_replicate 1 0) front back
  rw [len] at answer more
  exact ⟨answer, full, by omega⟩

/-- Each byte that is replaced in a full region costs all of the others. -/
theorem Full.moving_replacing (h : b.Full) (two : 2 ≤ b.len) (alloc : Allocator) (n : Nat) :
    moving b (replacing alloc n) = n * (b.len - 1) ∧ appended b (replacing alloc n) = n := by
  induction n generalizing b with
  | zero => exact ⟨(Nat.zero_mul _).symm, rfl⟩
  | succ n ih =>
    obtain ⟨answer, full, same⟩ := h.replaced two alloc
    obtain ⟨moves, enters⟩ := ih full (by omega)
    constructor
    · rw [replacing, moving_consume, moving_append answer, moves, same, Nat.succ_mul, relocated]
      exact Nat.add_comm _ _
    · rw [replacing, appended_consume, appended_append answer, enters, ByteArray.size_replicate]
      exact Nat.add_comm _ _

/-- Data that is as large as all the room behind fills it. -/
theorem append_fills (front : b.leading = 0) (fills : data.size = b.trailing)
    (alloc : Allocator) :
    (b.append alloc data).answer = .ok .inPlace ∧ (b.append alloc data).after.Full ∧
    (b.append alloc data).after.len = b.len + data.size := by
  have fits := Nat.le_of_eq fills
  have len := len_accept (b := b.writeSpare 0 data) (n := data.size) (by rwa [trailing_writeSpare])
  have back : ((b.writeSpare 0 data).accept data.size).trailing = 0 := by
    rw [trailing_accept, trailing_writeSpare]
    omega
  rw [append_of_le fits]
  refine ⟨rfl, ⟨?_, back⟩, ?_⟩
  · rw [leading_accept, leading_writeSpare, front]
  · rw [len, len_writeSpare]

theorem moving_keepingFull (empty : b.len = 0) (front : b.leading = 0) (two : 2 ≤ b.capacity)
    (alloc : Allocator) (n : Nat) :
    moving b (keepingFull alloc b.capacity n) = n * (b.capacity - 1) ∧
    appended b (keepingFull alloc b.capacity n) = b.capacity + n := by
  have hcap : b.capacity = b.leading + b.len + b.trailing := rfl
  have size := ByteArray.size_replicate b.capacity 0
  obtain ⟨answer, full, len⟩ :=
    append_fills front (size.trans (by omega)) alloc
  rw [empty, size, Nat.zero_add] at len
  obtain ⟨moves, enters⟩ := full.moving_replacing (by omega) alloc n
  rw [len] at moves
  rw [keepingFull, moving_append answer, appended_append answer, moves, enters, size]
  exact ⟨Nat.zero_add _, rfl⟩

/-- Over every run of appends and consumptions at most `k` bytes are moved for each byte that is
appended. -/
def MovesWithin (k : Nat) (b : Buffer) : Prop :=
  ∀ calls : List (Allocator × Operation), (∀ c ∈ calls, c.2.feeds = true) →
    moving b calls ≤ k * appended b calls

/-- A fresh region of `k + 2` bytes that is kept full for long enough costs more. -/
theorem not_movesWithin {k : Nat} (empty : b.len = 0) (front : b.leading = 0)
    (size : b.capacity = k + 2) : ¬ b.MovesWithin k := by
  intro within
  have cost := within (keepingFull (.upTo 0) b.capacity ((k + 1) * (k + 1)))
    (feeds_keepingFull _ _ _)
  obtain ⟨moves, appends⟩ :=
    moving_keepingFull empty front (by omega) (.upTo 0) ((k + 1) * (k + 1))
  rw [moves, appends, size] at cost
  have more : k * (k + 2 + (k + 1) * (k + 1)) + 1 = (k + 1) * (k + 1) * (k + 1) := by ring
  exact Nat.not_lt.2 cost (Nat.lt_of_succ_le (Nat.le_of_eq more))

end Buffer

/-- No constant is enough for every capacity. Whatever the growth policy and whatever else there is
of options, a constant that is enough for all regions that can be had is about as large as the
largest of them. -/
theorem no_constant_bounds_moving :
    (¬ ∃ k, ∀ b : Buffer, b.len = 0 → b.leading = 0 → b.MovesWithin k) ∧
    ∀ k, k + 2 ≤ maxRegion → ∀ o : Options, ∃ b : Buffer,
      Buffer.create (.upTo maxRegion) { o with initialCapacity := .ofNat (k + 2) } = .ok b ∧
      ¬ b.MovesWithin k := by
  constructor
  · rintro ⟨k, within⟩
    exact not_movesWithin (b := ⟨.empty, .empty, .replicate (k + 2) 0, {}⟩) rfl rfl
      (by simp [Buffer.capacity, leading, len, trailing]) (within _ rfl rfl)
  · intro k fits o
    have word : (UInt64.ofNat (k + 2)).toNat = k + 2 :=
      UInt64.toNat_ofNat_of_lt' (by simp only [maxRegion, maxSize] at fits; omega)
    refine ⟨_, Buffer.create_eq_ok_iff.2 ⟨?_, rfl⟩, not_movesWithin rfl rfl ?_⟩
    · simp only [Allocator.upTo, word, Nat.min_self, decide_eq_true_eq, fits]
    · simp only [Buffer.capacity, leading, len, trailing, word, ByteArray.size_replicate,
        ByteArray.size_empty, Nat.zero_add]

end Spool
