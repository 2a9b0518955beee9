import Spool.Proofs.Growth
import Spool.Proofs.Queue
import Spool.Proofs.Reservation

/-!
# Consuming first

An append and a consumption of bytes that are already unread can be made in either order. The bytes
that are left are the same; the region may not be. Bytes that are gone need neither room nor moving,
so the append is no dearer after them (`Relocation.NoDearer`). Main statement: consuming first never
fails where appending first does not, and never leaves a larger region.
-/

namespace Spool

open Buffer

/-- Making room one way costs no more than the other: nothing, fewer bytes moved within the region,
or the same new region. -/
inductive Relocation.NoDearer : Relocation → Relocation → Prop where
  | inPlace (r : Relocation) : NoDearer .inPlace r
  | compacted {k m : Nat} (fewer : k ≤ m) : NoDearer (.compacted k) (.compacted m)
  | within (k old new : Nat) : NoDearer (.compacted k) (.grown old new)
  | grown (old new : Nat) : NoDearer (.grown old new) (.grown old new)

namespace Buffer

variable {alloc : Allocator} {b : Buffer} {k n : Nat} {e : AllocationError}
  {first later : Outcome (Except AllocationError Relocation)} {r : Relocation}

theorem grownCapacity_consume (b : Buffer) (n k : Nat) :
    (b.consume n).grownCapacity k = b.grownCapacity k := by
  rw [grownCapacity, grownCapacity, capacity_consume, options_consume]

theorem MakesRoom.le_capacity (h : b.MakesRoom alloc k first) :
    b.capacity ≤ first.after.capacity := by
  cases h with
  | inPlace | refused => exact Nat.le_refl _
  | compacted => exact Nat.le_of_eq b.capacity_compact.symm
  | grown =>
    have larger := b.len_add_le_grownCapacity k
    rw [b.capacity_moveInto_grown k]
    omega

/-- Room that cannot be had after consuming cannot be had before, for the same reason. -/
theorem Refuses.of_consume (h : (b.consume n).Refuses alloc k e) : b.Refuses alloc k e := by
  have short := h.short
  have refused := h.refused
  rw [capacity_consume, len_consume] at short
  rw [grownCapacity_consume] at refused
  exact ⟨by omega, refused⟩

theorem MakesRoom.noDearer (before : b.MakesRoom alloc k first) (ok : first.answer = .ok r)
    (after : (b.consume n).MakesRoom alloc k later) :
    ∃ r', later.answer = .ok r' ∧ r'.NoDearer r ∧
      later.after.capacity ≤ first.after.capacity := by
  have cap := b.capacity_consume n
  have len := b.len_consume n
  have room := b.trailing_le_consume n
  have larger := before.le_capacity
  cases after with
  | inPlace => exact ⟨_, rfl, .inPlace r, by rwa [cap]⟩
  | compacted short fits =>
    refine ⟨_, rfl, ?_, by rwa [capacity_compact, cap]⟩
    cases before with
    | inPlace => omega
    | compacted =>
      cases ok
      exact .compacted (by omega)
    | grown =>
      cases ok
      exact .within ..
    | refused => cases ok
  | grown short =>
    have hcap : b.capacity = b.leading + b.len + b.trailing := rfl
    cases before with
    | inPlace | compacted => omega
    | grown =>
      cases ok
      refine ⟨_, rfl, ?_, ?_⟩
      · rw [cap, grownCapacity_consume]
        exact .grown ..
      · refine Nat.le_of_eq ?_
        rw [capacity_moveInto_grown, capacity_moveInto_grown, grownCapacity_consume]
    | refused => cases ok
  | refused refuses => exact absurd refuses.of_consume (before.not_refuses ok _)

theorem Appends.capacity {data : ByteArray} (h : b.Appends alloc data first) :
    first.after.capacity = (b.makeRoom alloc data.size).after.capacity := by
  cases h with
  | refused refuses => rw [refuses.makeRoom_eq]
  | added made => rw [capacity_accept, capacity_writeSpare, made.eq_makeRoom]

theorem Appends.contents_of_ok {data : ByteArray} (h : b.Appends alloc data first)
    (ok : first.answer = .ok r) : first.after.contents = b.contents ++ data.data.toList := by
  rw [contents, h.unread_of_ok ok, ByteArray.data_append, Array.toList_append, contents]

end Buffer

/-- If data can be appended, it can also be appended after some of the unread bytes, or all, were
consumed. What is unread in the end is the same as if they were consumed afterwards: the bytes that
were not, and the data. Consuming them first is no dearer and leaves no larger a region; if the
region has to grow even so, it grows to the same size otherwise. -/
theorem consume_first_no_dearer {b : Buffer} {alloc : Allocator} {data : ByteArray} {n : Nat}
    {r : Relocation} (le : n ≤ b.len) (ok : (b.append alloc data).answer = .ok r) :
    ∃ r', ((b.consume n).append alloc data).answer = .ok r' ∧ r'.NoDearer r ∧
      ((b.append alloc data).after.consume n).contents = b.contents.drop n ++ data.data.toList ∧
      ((b.consume n).append alloc data).after.contents =
        b.contents.drop n ++ data.data.toList ∧
      ((b.consume n).append alloc data).after.capacity ≤
        ((b.append alloc data).after.consume n).capacity ∧
      ∀ old new, r' = .grown old new → r = .grown old new ∧
        ((b.consume n).append alloc data).after.capacity = new ∧
        ((b.append alloc data).after.consume n).capacity = new := by
  have before := b.appends alloc data
  have after := (b.consume n).appends alloc data
  have made := b.makesRoom alloc data.size
  have made' := (b.consume n).makesRoom alloc data.size
  rw [before.answer_eq] at ok
  obtain ⟨r', ok', noDearer, smaller⟩ := made.noDearer ok made'
  rw [capacity_consume, before.capacity, after.capacity, after.answer_eq]
  refine ⟨r', ok', noDearer, ?_, ?_, smaller, ?_⟩
  · have skip : n ≤ b.contents.length := by rwa [b.length_contents]
    rw [contents_consume, before.contents_of_ok (before.answer_eq.trans ok),
      List.drop_append_of_le_length skip]
  · rw [after.contents_of_ok (after.answer_eq.trans ok'), contents_consume]
  · rintro old new rfl
    cases noDearer
    obtain ⟨-, -, grown⟩ := (made.grown_iff ok).1 rfl
    obtain ⟨-, -, grown'⟩ := (made'.grown_iff ok').1 rfl
    exact ⟨rfl, grown'.symm, grown.symm⟩

/-- Two bytes more do not fit behind three in a region of four, which grows to ten if they come
first. With the three consumed they fit. -/
theorem consume_first_no_dearer_of_three :
    ∃ b, Reachable { initialCapacity := 4 } b ∧ b.contents = [1, 2, 3] ∧
      (b.append (.upTo 10) ⟨#[4, 5]⟩).answer = .ok (.grown 4 10) ∧
      ∃ r, ((b.consume 3).append (.upTo 10) ⟨#[4, 5]⟩).answer = .ok r ∧
        r.NoDearer (.grown 4 10) ∧
        ((b.consume 3).append (.upTo 10) ⟨#[4, 5]⟩).after.contents = [4, 5] ∧
        ((b.consume 3).append (.upTo 10) ⟨#[4, 5]⟩).after.capacity ≤ 10 := by
  have fresh : Reachable { initialCapacity := 4 }
      ⟨.empty, .empty, ⟨#[0, 0, 0, 0]⟩, { initialCapacity := 4 }⟩ :=
    .created (show Buffer.create (.upTo 4) _ = _ from rfl)
  have three := fresh.run [(.upTo 4, .append ⟨#[1, 2, 3]⟩)]
  have grows : ((Buffer.mk .empty ⟨#[1, 2, 3]⟩ ⟨#[0]⟩ { initialCapacity := 4 }).append (.upTo 10)
      ⟨#[4, 5]⟩).answer = .ok (.grown 4 10) := rfl
  obtain ⟨r, ok, noDearer, -, contents, capacity, -⟩ :=
    consume_first_no_dearer (n := 3) (by decide) grows
  exact ⟨_, three, rfl, grows, r, ok, noDearer, contents, capacity⟩

end Spool
