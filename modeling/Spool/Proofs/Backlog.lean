import Spool.Proofs.Log

/-!
# Memory follows the backlog

A larger region is asked for only when the unread bytes and the room for more do not fit into the
one there is, and its size is then at most `multiplier + 1` times the demand. So the capacity is
bounded by the largest demand of the calls so far (`requests`), however many bytes went through, and
it never changes while every demand fits. Main statement: `capacity_follows_backlog`.
-/

namespace Spool

open Buffer

/-- The calls of a run that ask for room. -/
def requests (b : Buffer) (calls : List (Allocator × Operation)) : List Step :=
  (Operation.history b calls).filter (·.operation.asks)

theorem Operation.additional_of_not_asks {op : Operation} (h : op.asks = false) (o : Options) :
    op.additional o = 0 := by
  cases op with
  | writeAll data => exact bne_eq_false_iff_eq.1 h
  | append | write | makeRoom | fill => cases h
  | _ => rfl

/-! ## The size of a larger region -/

namespace Buffer

variable {alloc : Allocator} {b c : Buffer} {n : Nat} {events : List Event}

theorem grownCapacity_le (short : b.capacity < b.len + n) :
    b.grownCapacity n ≤ (b.options.growth.multiplier + 1) * (b.len + n) := by
  have grown : b.capacity * b.options.growth.multiplier ≤
      b.options.growth.multiplier * (b.len + n) := by
    rw [Nat.mul_comm]
    exact Nat.mul_le_mul_left _ (Nat.le_of_lt short)
  rw [Nat.add_mul, Nat.one_mul, grownCapacity, Growth.enlarge]
  omega

theorem Resizes.capacity_le (h : b.Resizes n c events) :
    c.capacity ≤ max b.capacity ((b.options.growth.multiplier + 1) * (b.len + n)) := by
  cases h with
  | keeps same => omega
  | grows short new =>
    have := grownCapacity_le short
    omega

/-- A demand that fits leaves the region as large as it was. -/
theorem Resizes.eq_of_fits (h : b.Resizes n c events) (fits : b.len + n ≤ b.capacity) :
    c.capacity = b.capacity := by
  apply h.eq_of_not_lt
  intro lt
  have := (h.of_lt lt).1
  omega

theorem Shrinks.capacity_le {out : Outcome (Except AllocationError Unit)}
    (h : b.Shrinks alloc n out) : out.after.capacity ≤ b.capacity := by
  cases h with
  | kept | refused => exact Nat.le_refl _
  | moved loose =>
    rw [b.capacity_moveInto_replicate (by omega)]
    omega

end Buffer

section

variable {alloc : Allocator} {b : Buffer} {op : Operation} {offered : List ByteArray}
  {out : Outcome Answer}

theorem Performs.capacity_le_or_resizes (h : Performs alloc b op offered out) :
    out.after.capacity ≤ b.capacity ∨ b.Resizes (op.additional b.options) out.after out.events := by
  by_cases shrink : ∃ n, op = .shrink n
  · obtain ⟨n, rfl⟩ := shrink
    cases h with
    | shrink exits => exact .inl exits.capacity_le
  · exact .inr (h.resizes fun n eq => shrink ⟨n, eq⟩)

theorem Performs.capacity_le (h : Performs alloc b op offered out) : out.after.capacity ≤
    max b.capacity ((b.options.growth.multiplier + 1) * (b.len + op.additional b.options)) := by
  rcases h.capacity_le_or_resizes with le | resizes
  · omega
  · exact resizes.capacity_le

theorem Performs.capacity_le_of_not_asks (h : Performs alloc b op offered out)
    (none : op.asks = false) : out.after.capacity ≤ b.capacity := by
  rcases h.capacity_le_or_resizes with le | resizes
  · exact le
  · rw [op.additional_of_not_asks none] at resizes
    exact Nat.le_of_eq (resizes.eq_of_fits b.len_le_capacity)

end

/-! ## Runs -/

theorem requests_cons (b : Buffer) (c : Allocator × Operation)
    (rest : List (Allocator × Operation)) : requests b (c :: rest) =
      if c.2.asks then ⟨b, c.1, c.2⟩ :: requests (c.2.perform c.1 b).after rest
      else requests (c.2.perform c.1 b).after rest :=
  List.filter_cons

theorem Buffer.WellFormed.capacity_run_le {o : Options} {b : Buffer} (h : b.WellFormed o)
    (calls : List (Allocator × Operation)) : (Operation.run b calls).after.capacity ≤
      max b.capacity ((o.growth.multiplier + 1) * peak (requests b calls)) := by
  induction calls generalizing b with
  | nil => exact Nat.le_max_left _ _
  | cons c rest ih =>
    have performs := Step.performs ⟨b, c.1, c.2⟩
    have others := ih (performs.changes.preserves WellFormed.change h)
    show (Operation.run (c.2.perform c.1 b).after rest).after.capacity ≤ _
    simp only [Step.outcome] at performs others
    rw [requests_cons]
    split
    · have first := performs.capacity_le
      rw [h.options] at first
      rw [peak, ← Nat.mul_max_mul_left]
      simp only [Step.demand, h.options]
      omega
    · next none =>
      have first := performs.capacity_le_of_not_asks (Bool.eq_false_iff.2 none)
      omega

/-! ## Demands that fit -/

/-- The demand of the call fits into the region, and the call gives nothing of it back. -/
def Step.Fits (s : Step) : Prop :=
  s.demand ≤ s.before.capacity ∧ ∀ n, s.operation ≠ .shrink n

namespace Buffer

variable {b : Buffer}

/-- Memory plays no part in what fits. -/
theorem makeRoom_eq_of_fits {n : Nat} (fits : b.len + n ≤ b.capacity) (alloc alloc' : Allocator) :
    b.makeRoom alloc n = b.makeRoom alloc' n := by
  have hcap : b.capacity = b.leading + b.len + b.trailing := rfl
  unfold makeRoom
  split
  · rfl
  · split
    · rfl
    · omega

theorem append_eq_of_fits {data : ByteArray} (fits : b.len + data.size ≤ b.capacity)
    (alloc alloc' : Allocator) : b.append alloc data = b.append alloc' data := by
  simp only [append, makeRoom_eq_of_fits fits alloc alloc']

theorem MakesRoom.eq_compacted_of_fits {alloc : Allocator} {n : Nat}
    {room : Outcome (Except AllocationError Relocation)} (h : b.MakesRoom alloc n room)
    (fits : b.len + n ≤ b.capacity) : ∀ e ∈ room.events, e = .compacted b.len b.capacity := by
  intro e mem
  cases h with
  | inPlace | refused => cases mem
  | compacted => exact List.mem_singleton.1 mem
  | grown short => omega

end Buffer

/-- Whatever memory there is, a call whose demand fits comes out the same. -/
theorem Operation.perform_eq_of_fits {b : Buffer} {op : Operation}
    (fits : b.len + op.additional b.options ≤ b.capacity) (noShrink : ∀ n, op ≠ .shrink n)
    (alloc alloc' : Allocator) : op.perform alloc b = op.perform alloc' b := by
  cases op with
  | append data => rw [perform, append_eq_of_fits fits alloc alloc', perform]
  | write data =>
    rw [perform, Buffer.write, append_eq_of_fits fits alloc alloc', perform, Buffer.write]
  | writeAll data =>
    rw [perform, writeAll_eq_map_append, append_eq_of_fits fits alloc alloc', perform,
      writeAll_eq_map_append]
  | makeRoom n => exact congrArg (Outcome.map Answer.room) (makeRoom_eq_of_fits fits alloc alloc')
  | fill source =>
    have made : b.makeRoom alloc b.options.fillRoom = b.makeRoom alloc' b.options.fillRoom :=
      makeRoom_eq_of_fits fits alloc alloc'
    simp only [perform, Buffer.fill, made]
  | shrink n => exact absurd rfl (noShrink n)
  | _ => rfl

namespace Step.Fits

variable {s : Step}

theorem capacity (h : s.Fits) : s.outcome.after.capacity = s.before.capacity :=
  (s.performs.resizes h.2).eq_of_fits h.1

/-- What fits is logged only when the unread bytes were moved for it, within the region. -/
theorem events (h : s.Fits) :
    ∀ e ∈ s.outcome.events, e = .compacted s.before.len s.before.capacity := by
  intro e mem
  obtain ⟨fits, noShrink⟩ := h
  rw [s.events_eq, Option.mem_toList] at mem
  cases made : s.relocation? with
  | none =>
    rw [event?, Operation.event?_of_not_shrink noShrink] at mem
    rw [relocation?] at made
    rw [made] at mem
    cases mem
  | some r =>
    obtain ⟨ok, event⟩ := makeRoom_of_relocation? made
    have room := s.before.makesRoom s.alloc (s.operation.additional s.before.options)
    apply room.eq_compacted_of_fits fits
    rw [room.events_eq, ok, Option.mem_toList]
    rwa [event] at mem

end Step.Fits

/-- With demands that fit, and without shrinks, no call changes the capacity, so each of them finds
the same one. -/
theorem fits_of_requests (b : Buffer) {calls : List (Allocator × Operation)}
    (noShrink : ∀ c ∈ calls, ∀ n, c.2 ≠ .shrink n)
    (fit : ∀ s ∈ requests b calls, s.demand ≤ b.capacity) :
    ∀ s ∈ Operation.history b calls, s.Fits ∧ s.before.capacity = b.capacity := by
  induction calls generalizing b with
  | nil => intro s mem; cases mem
  | cons c rest ih =>
    rw [List.forall_mem_cons] at noShrink
    have first : Step.Fits ⟨b, c.1, c.2⟩ ∧
        ∀ s ∈ requests (c.2.perform c.1 b).after rest, s.demand ≤ b.capacity := by
      rw [requests_cons] at fit
      split at fit
      · rw [List.forall_mem_cons] at fit
        exact ⟨⟨fit.1, noShrink.1⟩, fit.2⟩
      · next none =>
        refine ⟨⟨?_, noShrink.1⟩, fit⟩
        show b.len + c.2.additional b.options ≤ b.capacity
        rw [c.2.additional_of_not_asks (Bool.eq_false_iff.2 none)]
        exact b.len_le_capacity
    have same : (c.2.perform c.1 b).after.capacity = b.capacity := first.1.capacity
    have others := ih (c.2.perform c.1 b).after noShrink.2 (by rw [same]; exact first.2)
    rw [same] at others
    intro s mem
    rcases List.mem_cons.1 mem with rfl | mem
    · exact ⟨first.1, rfl⟩
    · exact others s mem

theorem run_eq_of_fits {b : Buffer} {calls calls' : List (Allocator × Operation)}
    (fit : ∀ s ∈ Operation.history b calls, s.Fits)
    (same : calls'.map Prod.snd = calls.map Prod.snd) :
    Operation.run b calls' = Operation.run b calls := by
  induction calls generalizing b calls' with
  | nil =>
    rw [List.map_eq_nil_iff.1 same]
  | cons c rest ih =>
    obtain ⟨c', rest', rfl, op, others⟩ := List.map_eq_cons_iff.1 same
    rw [Operation.history, List.forall_mem_cons] at fit
    obtain ⟨⟨fits, noShrink⟩, fit⟩ := fit
    obtain ⟨alloc', op'⟩ := c'
    obtain rfl : op' = c.2 := op
    have first := Operation.perform_eq_of_fits fits noShrink alloc' c.1
    simp only [Operation.run, first, ih fit others]

/-- Memory is bounded by the backlog and not by the traffic: over every run of a fresh buffer the
capacity is at most the initial one, or `multiplier + 1` times the largest demand of the calls that
asked for room. If the demands fit into the initial region and nothing is given back, it stays: the
log tells of bytes moved within it, and what there is of memory makes no difference to the run. -/
theorem capacity_follows_backlog {alloc : Allocator} {o : Options} {b : Buffer}
    (created : Buffer.create alloc o = .ok b) (calls : List (Allocator × Operation)) :
    (Operation.run b calls).after.capacity ≤ max o.initialCapacity.toNat
      ((o.growth.multiplier + 1) * peak (requests b calls)) ∧
    ((∀ c ∈ calls, ∀ n, c.2 ≠ .shrink n) →
      (∀ s ∈ requests b calls, s.demand ≤ o.initialCapacity.toNat) →
      (∀ s ∈ Operation.history b calls, s.outcome.after.capacity = o.initialCapacity.toNat ∧
        ∀ e ∈ s.outcome.events, e = .compacted s.before.len o.initialCapacity.toNat) ∧
      ∀ calls' : List (Allocator × Operation), calls'.map Prod.snd = calls.map Prod.snd →
        Operation.run b calls' = Operation.run b calls) := by
  rw [← capacity_of_create created]
  refine ⟨(Reachable.created created).wellFormed.capacity_run_le calls, fun noShrink fit => ?_⟩
  have fits := fits_of_requests b noShrink fit
  refine ⟨fun s mem => ?_, fun calls' => run_eq_of_fits fun s mem => (fits s mem).1⟩
  obtain ⟨fits, same⟩ := fits s mem
  rw [← same]
  exact ⟨fits.capacity, fits.events⟩

/-- Seven bytes go through a region of four, by two appends and a fill. The demands fit, so the same
run needs no memory at all. -/
theorem capacity_follows_backlog_of_four :
    Buffer.create (.upTo 4) { initialCapacity := 4, readSize := 2 } =
      .ok ⟨.empty, .empty, ⟨#[0, 0, 0, 0]⟩, { initialCapacity := 4, readSize := 2 }⟩ ∧
    Operation.run ⟨.empty, .empty, ⟨#[0, 0, 0, 0]⟩, { initialCapacity := 4, readSize := 2 }⟩
      [(.upTo 0, .append ⟨#[1, 2, 3]⟩), (.upTo 0, .consume 2), (.upTo 0, .append ⟨#[4, 5]⟩),
        (.upTo 0, .drain fun _ => .ok 1), (.upTo 0, .fill fun _ => ⟨⟨#[6, 7]⟩, .ok 2⟩)] =
    Operation.run ⟨.empty, .empty, ⟨#[0, 0, 0, 0]⟩, { initialCapacity := 4, readSize := 2 }⟩
      [(.upTo 4, .append ⟨#[1, 2, 3]⟩), (.upTo 4, .consume 2), (.upTo 4, .append ⟨#[4, 5]⟩),
        (.upTo 4, .drain fun _ => .ok 1), (.upTo 4, .fill fun _ => ⟨⟨#[6, 7]⟩, .ok 2⟩)] := by
  have created : Buffer.create (.upTo 4) { initialCapacity := 4, readSize := 2 } =
      .ok ⟨.empty, .empty, ⟨#[0, 0, 0, 0]⟩, { initialCapacity := 4, readSize := 2 }⟩ := rfl
  obtain ⟨-, stays⟩ := capacity_follows_backlog created
    [(.upTo 4, .append ⟨#[1, 2, 3]⟩), (.upTo 4, .consume 2), (.upTo 4, .append ⟨#[4, 5]⟩),
      (.upTo 4, .drain fun _ => .ok 1), (.upTo 4, .fill fun _ => ⟨⟨#[6, 7]⟩, .ok 2⟩)]
  exact ⟨created, (stays (by simp) (by decide)).2 _ rfl⟩

end Spool
