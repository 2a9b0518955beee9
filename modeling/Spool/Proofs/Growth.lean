import Spool.Proofs.Ledger

/-!
# Geometric growth

A region is replaced by a larger one only when the unread bytes and the room a call needs do not fit
into it together, the `demand` of the call, and the new one is then more than twice as large. So the
calls of a run that grow the region form a chain (`Climbs`) in which the capacity doubles from link
to link and stays below the demand. Main statement: the number of growths is logarithmic in the
largest demand met by one, and all of them together copy less than twice that many bytes.
-/

namespace Spool

open Buffer

/-- The bytes for which an operation needs room. -/
def Operation.additional (o : Options) : Operation → Nat
  | .append data | .write data | .writeAll data => data.size
  | .makeRoom n => n
  | .fill _ => o.fillRoom
  | _ => 0

namespace Step

/-- What has to fit into the region for the call: the unread bytes and the room it needs. -/
def demand (s : Step) : Nat := s.before.len + s.operation.additional s.before.options

def grows (s : Step) : Bool := s.before.capacity < s.outcome.after.capacity

theorem grows_iff {s : Step} : s.grows = true ↔ s.before.capacity < s.outcome.after.capacity :=
  decide_eq_true_iff

end Step

/-! ## One step -/

namespace Buffer

theorem len_le_capacity (b : Buffer) : b.len ≤ b.capacity := by
  have hcap : b.capacity = b.leading + b.len + b.trailing := rfl
  omega

/-- What a call that needs room for `n` bytes makes of the region, unless it is a shrink: it stays
as large as it was, or a larger one replaces it. -/
inductive Resizes (b : Buffer) (n : Nat) : Buffer → List Event → Prop where
  | keeps {c : Buffer} {events : List Event} (same : c.capacity = b.capacity)
      (silent : ∀ old new unread, .grew old new unread ∉ events) : Resizes b n c events
  | grows {c : Buffer} (short : b.capacity < b.len + n) (new : c.capacity = b.grownCapacity n) :
      Resizes b n c [.grew b.capacity c.capacity b.len]

variable {alloc : Allocator} {b c d : Buffer} {n : Nat} {events : List Event}

theorem Resizes.congr (h : b.Resizes n c events) (same : d.capacity = c.capacity) :
    b.Resizes n d events := by
  cases h with
  | keeps same' silent => exact .keeps (same.trans same') silent
  | grows short new =>
    rw [← same]
    exact .grows short (same.trans new)

/-- A growth was needed, more than doubles the region and makes the needed room. -/
theorem Resizes.of_lt (h : b.Resizes n c events) (lt : b.capacity < c.capacity) :
    b.capacity < b.len + n ∧ 2 * b.capacity + 1 ≤ c.capacity ∧ b.len + n ≤ c.capacity := by
  cases h with
  | keeps same => omega
  | grows short new =>
    have := b.len_add_le_grownCapacity n
    have := b.len_le_capacity
    omega

/-- A call that did not grow the region left it as large as it was. -/
theorem Resizes.eq_of_not_lt (h : b.Resizes n c events) (le : ¬ b.capacity < c.capacity) :
    c.capacity = b.capacity := by
  cases h with
  | keeps same => exact same
  | grows short new =>
    have := b.len_add_le_grownCapacity n
    have := b.len_le_capacity
    omega

/-- The log tells of every growth, and of nothing but growths. -/
theorem Resizes.grew_mem_iff (h : b.Resizes n c events) {old new unread : Nat} :
    .grew old new unread ∈ events ↔
      b.capacity < c.capacity ∧ old = b.capacity ∧ new = c.capacity ∧ unread = b.len := by
  cases h with
  | keeps same silent =>
    exact ⟨fun mem => absurd mem (silent old new unread), fun ⟨lt, _⟩ => by omega⟩
  | grows short larger =>
    have := b.len_add_le_grownCapacity n
    have := b.len_le_capacity
    rw [List.mem_singleton, Event.grew.injEq]
    exact ⟨fun same => ⟨by omega, same⟩, fun ⟨_, same⟩ => same⟩

section

variable {room : Outcome (Except AllocationError Relocation)}

theorem capacity_moveInto_grown (b : Buffer) (n : Nat) :
    (b.moveInto (.replicate (b.grownCapacity n) 0)).capacity = b.grownCapacity n := by
  have := b.len_add_le_grownCapacity n
  have := b.len_le_capacity
  exact b.capacity_moveInto_replicate (by omega)

theorem MakesRoom.resizes (h : b.MakesRoom alloc n room) :
    b.Resizes n room.after room.events := by
  cases h with
  | inPlace => exact .keeps rfl (by simp)
  | compacted => exact .keeps b.capacity_compact (by simp)
  | grown short =>
    have new := b.capacity_moveInto_grown n
    simpa only [new] using Resizes.grows short new
  | refused => exact .keeps rfl (by simp)

/-- The answer tells of a growth exactly if there was one. -/
theorem MakesRoom.grown_iff {r : Relocation} {old new : Nat} (h : b.MakesRoom alloc n room)
    (ok : room.answer = .ok r) : r = .grown old new ↔
      b.capacity < room.after.capacity ∧ old = b.capacity ∧ new = room.after.capacity := by
  cases h with
  | inPlace =>
    cases ok
    simp
  | compacted =>
    cases ok
    simp
  | grown short =>
    cases ok
    have := b.len_add_le_grownCapacity n
    have := b.len_le_capacity
    rw [b.capacity_moveInto_grown n, Relocation.grown.injEq]
    omega
  | refused => cases ok

end

end Buffer

variable {alloc : Allocator} {b : Buffer} {op : Operation} {offered : List ByteArray}
  {out : Outcome Answer}

theorem Performs.resizes (h : Performs alloc b op offered out) (noShrink : ∀ n, op ≠ .shrink n) :
    b.Resizes (op.additional b.options) out.after out.events := by
  cases h with
  | append exits | write exits | writeAll exits =>
    cases exits with
    | refused => exact .keeps rfl (by simp)
    | added made => exact made.resizes.congr (by simp)
  | makeRoom exits => exact exits.resizes
  | writeSpare => exact .keeps (by simp) (by simp)
  | commit => exact .keeps (by simp) (by simp)
  | overrun => exact .keeps rfl (by simp)
  | consume => exact .keeps (by simp) (by simp)
  | clear => exact .keeps (by simp) (by simp)
  | shrink => exact absurd rfl (noShrink _)
  | read => exact .keeps (by simp [Buffer.read]) (by simp)
  | fill exits =>
    cases exits with
    | refused => exact .keeps rfl (by simp)
    | failed made | overreported made | accepted made => exact made.resizes.congr (by simp)
  | drain exits =>
    cases exits with
    | nothing | failed => exact .keeps rfl (by simp)
    | taken => exact .keeps (by simp) (by simp)

theorem Performs.grown_iff {r : Relocation} {old new : Nat} (h : Performs alloc b op offered out)
    (answer : out.answer = .room (.ok r)) : r = .grown old new ↔
      b.capacity < out.after.capacity ∧ old = b.capacity ∧ new = out.after.capacity := by
  cases h with
  | append exits =>
    cases exits with
    | refused => cases answer
    | added made ok =>
      cases answer
      simpa using made.grown_iff ok
  | makeRoom exits => exact exits.grown_iff (Answer.room.inj answer)
  | commit | overrun | consume | clear | read | writeSpare => cases answer
  | shrink | write | writeAll | fill | drain => cases answer

/-! ## Chains of growths -/

/-- The largest demand of several calls. -/
def peak : List Step → Nat
  | [] => 0
  | s :: rest => max s.demand (peak rest)

theorem peak_le {steps : List Step} {n : Nat} (h : ∀ s ∈ steps, s.demand ≤ n) : peak steps ≤ n := by
  induction steps with
  | nil => exact Nat.zero_le n
  | cons s rest ih =>
    rw [List.forall_mem_cons] at h
    exact Nat.max_le.2 ⟨h.1, ih h.2⟩

/-- Each of the calls grows the region that the one before left behind; the first has one of
`capacity` bytes. -/
inductive Climbs : (capacity : Nat) → List Step → Prop where
  | nil (capacity : Nat) : Climbs capacity []
  | cons {s : Step} {rest : List Step} (short : s.before.capacity < s.demand)
      (double : 2 * s.before.capacity + 1 ≤ s.outcome.after.capacity)
      (others : Climbs s.outcome.after.capacity rest) : Climbs s.before.capacity (s :: rest)

/-- The calls of a run that grow the region. -/
def growths (b : Buffer) (calls : List (Allocator × Operation)) : List Step :=
  (Operation.history b calls).filter Step.grows

theorem climbs_growths (b : Buffer) {calls : List (Allocator × Operation)}
    (noShrink : ∀ c ∈ calls, ∀ n, c.2 ≠ .shrink n) : Climbs b.capacity (growths b calls) := by
  induction calls generalizing b with
  | nil => exact .nil _
  | cons c rest ih =>
    rw [List.forall_mem_cons] at noShrink
    have resizes := (Step.performs ⟨b, c.1, c.2⟩).resizes noShrink.1
    have others := ih (c.2.perform c.1 b).after noShrink.2
    rw [growths, Operation.history, List.filter_cons]
    split
    · next grows =>
      obtain ⟨short, double, -⟩ := resizes.of_lt (Step.grows_iff.1 grows)
      exact .cons short double others
    · next stays =>
      have same := resizes.eq_of_not_lt (mt Step.grows_iff.2 stays)
      rwa [← same]

/-- The capacity doubles with each growth, and the last demand exceeds it. The sum is the geometric
one: what the growths from some link on copy, and the capacity there, stay below twice the peak. -/
theorem Climbs.bounds {capacity : Nat} {steps : List Step} (h : Climbs capacity steps)
    (some : steps ≠ []) :
    2 ^ (steps.length - 1) * (capacity + 1) ≤ peak steps ∧
    (steps.map (·.before.len)).sum + capacity + 1 < 2 * peak steps := by
  induction h with
  | nil => exact absurd rfl some
  | @cons s rest short double others ih =>
    have len_le := s.before.len_le_capacity
    rw [List.map_cons, List.sum_cons, List.length_cons, Nat.add_sub_cancel, peak]
    cases rest with
    | nil =>
      simp only [List.length_nil, List.map_nil, List.sum_nil, Nat.pow_zero, peak]
      omega
    | cons t rest =>
      obtain ⟨length, copied⟩ := ih (List.cons_ne_nil t rest)
      rw [List.length_cons, Nat.add_sub_cancel] at length
      refine ⟨?_, by omega⟩
      calc 2 ^ (t :: rest).length * (s.before.capacity + 1)
          = 2 ^ rest.length * (2 * (s.before.capacity + 1)) := by
            rw [List.length_cons, Nat.pow_succ, Nat.mul_assoc]
        _ ≤ 2 ^ rest.length * (s.outcome.after.capacity + 1) := Nat.mul_le_mul_left _ (by omega)
        _ ≤ max s.demand (peak (t :: rest)) := Nat.le_trans length (Nat.le_max_right _ _)

/-- The logarithm of the peak bounds the number of growths. -/
theorem Climbs.length_le {capacity n : Nat} {steps : List Step} (h : Climbs capacity steps)
    (le : peak steps ≤ n) : steps.length ≤ 1 + n.log2 := by
  cases steps with
  | nil => exact Nat.zero_le _
  | cons s rest =>
    have bound := (h.bounds (List.cons_ne_nil s rest)).1
    rw [List.length_cons, Nat.add_sub_cancel] at bound
    have power : 2 ^ rest.length ≤ n :=
      Nat.le_trans (Nat.le_mul_of_pos_right _ (Nat.succ_pos capacity)) (Nat.le_trans bound le)
    have pos : n ≠ 0 := by
      have := Nat.two_pow_pos rest.length
      omega
    have := (Nat.le_log2 pos).2 power
    rw [List.length_cons]
    omega

/-! ## Streams -/

/-- The calls of a stream: data is appended, by whichever call, and bytes are taken off. -/
def Operation.streams : Operation → Bool
  | .append _ | .write _ | .writeAll _ => true
  | .consume _ | .clear | .read _ | .drain _ => true
  | _ => false

/-- The demand of an append that grows the region is what is unread after it. -/
theorem Performs.additional_eq (h : Performs alloc b op offered out) (streams : op.streams = true)
    (lt : b.capacity < out.after.capacity) :
    op.additional b.options = op.entered out.answer := by
  cases h with
  | append exits | write exits | writeAll exits =>
    cases exits with
    | refused => exact absurd lt (Nat.lt_irrefl _)
    | added made ok => rfl
  | consume | clear | read | drain => rfl
  | makeRoom | writeSpare | commit | overrun | shrink | fill => cases streams

/-- In a stream nothing is demanded that was not entered. -/
theorem demand_le_entered (b : Buffer) {calls : List (Allocator × Operation)}
    (streams : ∀ c ∈ calls, c.2.streams = true) :
    ∀ s ∈ growths b calls,
      s.demand ≤ b.len + ((Operation.history b calls).map Step.entered).sum := by
  induction calls generalizing b with
  | nil => simp [growths, Operation.history]
  | cons c rest ih =>
    rw [List.forall_mem_cons] at streams
    have first := Step.balance ⟨b, c.1, c.2⟩
    have others := ih (c.2.perform c.1 b).after streams.2
    simp only [Step.outcome] at first
    intro s mem
    rw [Operation.history, List.map_cons, List.sum_cons]
    obtain ⟨mem, grows⟩ := List.mem_filter.1 mem
    rcases List.mem_cons.1 mem with rfl | mem
    · have := (Step.performs ⟨b, c.1, c.2⟩).additional_eq streams.1 (Step.grows_iff.1 grows)
      simp only [Step.demand, Step.entered] at this ⊢
      omega
    · have := others s (List.mem_filter.2 ⟨mem, grows⟩)
      omega

/-- Without shrinks, the growths of a run of a fresh buffer are told by log and answers, each makes
the region more than twice as large, and by the largest demand that met one they are few and copy
little. In a stream, of which all demands are appended bytes, they are logarithmic in these. -/
theorem growth_is_geometric {alloc : Allocator} {o : Options} {b : Buffer}
    (created : Buffer.create alloc o = .ok b) (calls : List (Allocator × Operation))
    (noShrink : ∀ c ∈ calls, ∀ n, c.2 ≠ .shrink n) :
    (∀ s ∈ Operation.history b calls,
      (∀ old new unread, .grew old new unread ∈ s.outcome.events ↔
        s.grows = true ∧ old = s.before.capacity ∧ new = s.outcome.after.capacity ∧
          unread = s.before.len) ∧
      (∀ r old new, s.outcome.answer = .room (.ok r) → (r = .grown old new ↔
        s.grows = true ∧ old = s.before.capacity ∧ new = s.outcome.after.capacity)) ∧
      (s.grows = true → 2 * s.before.capacity + 1 ≤ s.outcome.after.capacity ∧
        s.demand ≤ s.outcome.after.capacity)) ∧
    (growths b calls ≠ [] →
      2 ^ ((growths b calls).length - 1) * (o.initialCapacity.toNat + 1) ≤ peak (growths b calls) ∧
      ((growths b calls).map (·.before.len)).sum < 2 * peak (growths b calls)) ∧
    ((∀ c ∈ calls, c.2.streams = true) →
      (growths b calls).length ≤
        1 + ((Operation.history b calls).map Step.entered).sum.log2) := by
  have capacity : b.capacity = o.initialCapacity.toNat := by
    obtain ⟨-, rfl⟩ := Buffer.create_eq_ok_iff.1 created
    simp [Buffer.capacity, leading, len, trailing]
  have empty : b.len = 0 := by
    obtain ⟨-, rfl⟩ := Buffer.create_eq_ok_iff.1 created
    rfl
  have climbs := climbs_growths b noShrink
  refine ⟨fun s mem => ?_, fun some => ?_, fun streams => climbs.length_le (peak_le ?_)⟩
  · have call : s.call ∈ calls := by
      rw [← Operation.map_call_history b calls]
      exact List.mem_map_of_mem mem
    have resizes := s.performs.resizes (noShrink _ call)
    simp only [Step.grows_iff]
    exact ⟨fun old new unread => resizes.grew_mem_iff,
      fun r old new answer => s.performs.grown_iff answer, fun lt => (resizes.of_lt lt).2⟩
  · obtain ⟨length, copied⟩ := climbs.bounds some
    rw [capacity] at length
    exact ⟨length, by omega⟩
  · have demand := demand_le_entered b streams
    rwa [empty, Nat.zero_add] at demand

/-- From no region at all, five bytes in three appends: as many growths as there can be. -/
theorem growth_is_geometric_of_five :
    Buffer.create (.upTo 16) { initialCapacity := 0 } =
      .ok ⟨.empty, .empty, .empty, { initialCapacity := 0 }⟩ ∧
    (growths ⟨.empty, .empty, .empty, { initialCapacity := 0 }⟩ [(.upTo 16, .append ⟨#[1]⟩),
      (.upTo 16, .append ⟨#[2, 3]⟩), (.upTo 16, .append ⟨#[4, 5]⟩)]).length = 3 ∧
    2 ^ 2 * (0 + 1) ≤ peak (growths ⟨.empty, .empty, .empty, { initialCapacity := 0 }⟩
      [(.upTo 16, .append ⟨#[1]⟩), (.upTo 16, .append ⟨#[2, 3]⟩),
        (.upTo 16, .append ⟨#[4, 5]⟩)]) ∧
    3 ≤ 1 + Nat.log2 5 := by
  have created : Buffer.create (.upTo 16) { initialCapacity := 0 } =
      .ok ⟨.empty, .empty, .empty, { initialCapacity := 0 }⟩ := rfl
  obtain ⟨-, bounds, streams⟩ := growth_is_geometric created [(.upTo 16, .append ⟨#[1]⟩),
    (.upTo 16, .append ⟨#[2, 3]⟩), (.upTo 16, .append ⟨#[4, 5]⟩)] (by simp)
  exact ⟨created, by decide, (bounds (by decide)).1, streams (by simp [Operation.streams])⟩

end Spool
