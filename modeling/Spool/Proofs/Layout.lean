import Spool.Proofs.Change

/-!
# How a buffer lies in its region

`WellFormed o b`: a buffer with nothing unread has gone back to the front of its region, the region
is no larger than a region can be, and the options are still `o`. Each elementary change keeps it.
Main statement: every reachable buffer is well formed, and so the cursors, the measures and the
region of a reachable buffer fit together.
-/

namespace Spool

open Buffer

namespace Buffer

structure WellFormed (o : Options) (b : Buffer) : Prop where
  rewound : b.len = 0 → b.leading = 0
  capacity_le : b.capacity ≤ maxRegion
  options : b.options = o

variable {alloc : Allocator} {o : Options} {b c : Buffer} {es : List Event}

theorem WellFormed.of_create (created : create alloc o = .ok b) : b.WellFormed o := by
  obtain ⟨granted, rfl⟩ := create_eq_ok_iff.1 created
  refine ⟨fun _ => rfl, ?_, rfl⟩
  simpa [capacity, leading, len, trailing] using alloc.le_maxRegion granted

theorem WellFormed.moveInto {size : Nat} (h : b.WellFormed o) (fits : b.len ≤ size)
    (granted : alloc.grants size = true) : (b.moveInto (.replicate size 0)).WellFormed o := by
  refine ⟨fun _ => rfl, ?_, h.options⟩
  rw [capacity_moveInto_replicate b fits]
  exact alloc.le_maxRegion granted

/-- A consumption that leaves nothing unread goes back to the front, unless there was nothing. -/
theorem WellFormed.consume (n : Nat) (h : b.WellFormed o) : (b.consume n).WellFormed o := by
  refine ⟨fun empty => ?_, by rw [capacity_consume]; exact h.capacity_le,
    (options_consume b n).trans h.options⟩
  rw [len_consume] at empty
  by_cases zero : n = 0
  · subst zero
    rw [consume_zero]
    exact h.rewound empty
  · rw [consume_of_le b n zero (by omega), leading_clear]

theorem WellFormed.change (first : Change alloc b c es) (h : b.WellFormed o) : c.WellFormed o := by
  have hcap : b.capacity = b.leading + b.len + b.trailing := rfl
  cases first with
  | compacted => exact ⟨fun _ => rfl, by rw [capacity_compact]; exact h.capacity_le, h.options⟩
  | @grown n _ granted =>
    have := b.len_add_le_grownCapacity n
    exact h.moveInto (by omega) granted
  | shrunk _ granted => exact h.moveInto (by omega) granted
  | written start data =>
    exact ⟨h.rewound, by rw [capacity_writeSpare]; exact h.capacity_le, h.options⟩
  | accepted =>
    refine ⟨fun empty => h.rewound ?_, by rw [capacity_accept]; exact h.capacity_le, h.options⟩
    rw [len, unread_accept, ByteArray.size_append] at empty
    exact Nat.eq_zero_of_add_eq_zero_right empty
  | consumed n => exact h.consume n
  | cleared => exact ⟨fun _ => rfl, by rw [capacity_clear]; exact h.capacity_le, h.options⟩

end Buffer

theorem Reachable.wellFormed {o : Options} {b : Buffer} (h : Reachable o b) : b.WellFormed o :=
  h.induction WellFormed.of_create WellFormed.change

/-- The unread bytes are the stretch of the region between the cursors. -/
theorem Buffer.extract_region (b : Buffer) : b.region.extract b.readAt b.writeAt = b.unread := by
  have skip : b.region.extract b.readAt b.writeAt = (b.unread ++ b.free).extract 0 b.len := by
    rw [region, ByteArray.append_assoc]
    exact ByteArray.extract_append_size_add (i := 0)
  rw [skip]
  exact ByteArray.extract_append_eq_left rfl

/-- The cursors, the measures and the region of a reachable buffer fit together, and it is set up as
it was created. -/
theorem reachable_layout {o : Options} {b : Buffer} (h : Reachable o b) :
    b.readAt ≤ b.writeAt ∧ b.writeAt ≤ b.capacity ∧
    b.capacity = b.region.size ∧ b.capacity ≤ maxRegion ∧
    b.region.extract b.readAt b.writeAt = b.unread ∧
    b.len + b.leading + b.trailing = b.capacity ∧
    (b.isEmpty = true →
      b.readAt = 0 ∧ b.writeAt = 0 ∧ b.leading = 0 ∧ b.trailing = b.capacity) ∧
    b.options = o := by
  have hcap : b.capacity = b.leading + b.len + b.trailing := rfl
  have hread : b.readAt = b.leading := rfl
  have hwrite : b.writeAt = b.leading + b.len := rfl
  have wf := h.wellFormed
  refine ⟨by omega, by omega, b.size_region.symm, wf.capacity_le, b.extract_region, by omega, ?_,
    wf.options⟩
  intro empty
  have hlen : b.len = 0 := by simpa [isEmpty] using empty
  have := wf.rewound hlen
  omega

theorem reachable_layout_of_emptied :
    Reachable { initialCapacity := 2 }
      ⟨.empty, .empty, ⟨#[1, 2, 3, 0, 0, 0, 0]⟩, { initialCapacity := 2 }⟩ ∧
    (Buffer.mk .empty .empty ⟨#[1, 2, 3, 0, 0, 0, 0]⟩ { initialCapacity := 2 }).trailing =
      (Buffer.mk .empty .empty ⟨#[1, 2, 3, 0, 0, 0, 0]⟩ { initialCapacity := 2 }).capacity := by
  have fresh : Reachable { initialCapacity := 2 }
      ⟨.empty, .empty, ⟨#[0, 0]⟩, { initialCapacity := 2 }⟩ :=
    .created (show Buffer.create (.upTo 7) _ = _ from rfl)
  have emptied := fresh.run [(.upTo 7, .append ⟨#[1, 2, 3]⟩), (.upTo 7, .consume 3)]
  obtain ⟨-, -, -, -, -, -, empty, -⟩ := reachable_layout emptied
  exact ⟨emptied, (empty rfl).2.2.2⟩

end Spool
