import Spool.Proofs.Tiers

/-!
# Giving back

A shrink that is not refused either leaves everything as it is or moves the unread bytes into a
region without spare bytes in front and with zeros behind; `shrunk` is the buffer after it. The two
ways agree on what is left, so shrinks compose like minima. Main statement: what a shrink leaves is
exact, and a sequence of shrinks leaves what the least of them alone would leave.
-/

namespace Spool

open Buffer

namespace Buffer

/-- What is left by a shrink to `n` bytes that is not refused. -/
def shrunk (b : Buffer) (n : Nat) : Buffer :=
  if b.capacity ≤ max n b.len then b else b.moveInto (.replicate (max n b.len) 0)

variable {alloc : Allocator} {b : Buffer} {m n : Nat} {out : Outcome (Except AllocationError Unit)}

/-! ## One shrink -/

theorem shrunk_of_le (fits : b.capacity ≤ max n b.len) : b.shrunk n = b := if_pos fits

theorem shrunk_of_lt (loose : max n b.len < b.capacity) :
    b.shrunk n = b.moveInto (.replicate (max n b.len) 0) := if_neg (Nat.not_le.2 loose)

theorem Shrinks.after_of_ok (h : b.Shrinks alloc n out) (ok : out.answer = .ok ()) :
    out.after = b.shrunk n := by
  cases h with
  | kept fits => exact (shrunk_of_le fits).symm
  | moved loose => exact (shrunk_of_lt loose).symm
  | refused => cases ok

theorem shrink_of_le (alloc : Allocator) (fits : b.capacity ≤ max n b.len) :
    b.shrink alloc n = ⟨.ok (), b, []⟩ := if_pos fits

theorem Shrinks.events_of_ok (h : b.Shrinks alloc n out) (ok : out.answer = .ok ())
    (loose : max n b.len < b.capacity) : out.events = [.shrunk (max n b.len)] := by
  cases h with
  | kept fits => omega
  | moved => rfl
  | refused => cases ok

theorem unread_shrunk (b : Buffer) (n : Nat) : (b.shrunk n).unread = b.unread := by
  unfold shrunk
  split <;> rfl

theorem len_shrunk (b : Buffer) (n : Nat) : (b.shrunk n).len = b.len :=
  congrArg ByteArray.size (b.unread_shrunk n)

theorem capacity_shrunk (b : Buffer) (n : Nat) :
    (b.shrunk n).capacity = min b.capacity (max n b.len) := by
  rcases Nat.lt_or_ge (max n b.len) b.capacity with loose | fits
  · rw [shrunk_of_lt loose, capacity_moveInto_replicate b (by omega)]
    omega
  · rw [shrunk_of_le fits, Nat.min_eq_left fits]

/-- The region before the last one leaves no trace. -/
theorem moveInto_moveInto (b : Buffer) (first second : ByteArray) :
    (b.moveInto first).moveInto second = b.moveInto second := rfl

/-! ## Several shrinks -/

/-- Of two shrinks the larger one does not matter, whichever comes first: the second finds nothing
to give back if the first has given back as much, and else it moves what the first has moved. -/
theorem shrunk_shrunk (b : Buffer) (m n : Nat) : (b.shrunk m).shrunk n = b.shrunk (min m n) := by
  have len := b.len_shrunk m
  have cap := b.capacity_shrunk m
  rcases Nat.lt_or_ge (max n b.len) (b.shrunk m).capacity with loose | fits
  · have least : max (min m n) b.len = max n b.len := by omega
    rw [shrunk_of_lt (by omega), shrunk_of_lt (b := b) (n := min m n) (by omega), len, least]
    unfold shrunk
    split
    · rfl
    · exact b.moveInto_moveInto ..
  · rw [shrunk_of_le (by omega)]
    unfold shrunk
    by_cases kept : b.capacity ≤ max m b.len
    · rw [if_pos kept, if_pos (by omega)]
    · have least : max (min m n) b.len = max m b.len := by omega
      rw [least]

theorem foldl_shrunk (b : Buffer) (m : Nat) (rest : List Nat) :
    rest.foldl shrunk (b.shrunk m) = b.shrunk (rest.foldl min m) := by
  induction rest generalizing m with
  | nil => rfl
  | cons n rest ih => rw [List.foldl_cons, List.foldl_cons, shrunk_shrunk, ih]

theorem foldl_shrunk_of_min? {sizes : List Nat} (least : sizes.min? = some n) :
    sizes.foldl shrunk b = b.shrunk n := by
  cases sizes with
  | nil => cases least
  | cons m rest =>
    rw [List.min?_cons'] at least
    cases least
    exact b.foldl_shrunk m rest

theorem foldl_shrunk_congr (b : Buffer) {sizes sizes' : List Nat}
    (same : sizes.min? = sizes'.min?) : sizes.foldl shrunk b = sizes'.foldl shrunk b := by
  cases least : sizes.min? with
  | none =>
    rw [List.min?_eq_none_iff.1 least, List.min?_eq_none_iff.1 (same.symm.trans least)]
  | some n => rw [foldl_shrunk_of_min? least, foldl_shrunk_of_min? (same.symm.trans least)]

end Buffer

namespace Operation

/-- Shrinks to each of the sizes in turn, each with an allocator of its own. -/
def shrinksTo (sizes : List (Allocator × Nat)) : List (Allocator × Operation) :=
  sizes.map fun c => (c.1, .shrink c.2)

/-- No shrink of the sequence is refused. -/
def GrantsShrinks (b : Buffer) (sizes : List (Allocator × Nat)) : Prop :=
  (run b (shrinksTo sizes)).answer = sizes.map fun _ => .shrunk (.ok ())

theorem GrantsShrinks.after_eq {b : Buffer} {sizes : List (Allocator × Nat)}
    (granted : GrantsShrinks b sizes) :
    (run b (shrinksTo sizes)).after = (sizes.map Prod.snd).foldl shrunk b := by
  induction sizes generalizing b with
  | nil => rfl
  | cons c rest ih =>
    obtain ⟨alloc, n⟩ := c
    obtain ⟨first, others⟩ := List.cons.inj granted
    have ok : (b.shrink alloc n).answer = .ok () := Answer.shrunk.inj first
    rw [List.map_cons, List.foldl_cons, ← (b.shrinks alloc n).after_of_ok ok]
    exact ih others

end Operation

/-- A shrink to `n` bytes makes the region `max n b.len` bytes large, or leaves everything as it is,
stale bytes included, if the region is no larger than that. The unread bytes of a smaller region
stand at the front of it, with nothing but zeros behind. Doing it again does nothing. A sequence of
shrinks that are all granted leaves what a shrink to the least size alone leaves, so neither the
other sizes nor the order count. -/
theorem shrinks_compose (b : Buffer) :
    (∀ alloc n, b.capacity ≤ max n b.len → b.shrink alloc n = ⟨.ok (), b, []⟩) ∧
    (∀ alloc n, (b.shrink alloc n).answer = .ok () →
      (b.shrink alloc n).after.capacity = min b.capacity (max n b.len) ∧
      (b.shrink alloc n).after.unread = b.unread ∧
      (max n b.len < b.capacity → b.Enlarged (max n b.len) (b.shrink alloc n).after ∧
        (b.shrink alloc n).events = [.shrunk (max n b.len)]) ∧
      ∀ again, (b.shrink alloc n).after.shrink again n =
        ⟨.ok (), (b.shrink alloc n).after, []⟩) ∧
    (∀ first second alloc m n, (b.shrink first m).answer = .ok () →
      ((b.shrink first m).after.shrink second n).answer = .ok () →
      (b.shrink alloc (min m n)).answer = .ok () →
      ((b.shrink first m).after.shrink second n).after = (b.shrink alloc (min m n)).after) ∧
    (∀ sizes n alloc, (sizes.map Prod.snd).min? = some n → Operation.GrantsShrinks b sizes →
      (b.shrink alloc n).answer = .ok () →
      (Operation.run b (Operation.shrinksTo sizes)).after = (b.shrink alloc n).after) ∧
    ∀ sizes sizes', (sizes.map Prod.snd).min? = (sizes'.map Prod.snd).min? →
      Operation.GrantsShrinks b sizes → Operation.GrantsShrinks b sizes' →
      (Operation.run b (Operation.shrinksTo sizes)).after =
        (Operation.run b (Operation.shrinksTo sizes')).after := by
  refine ⟨fun alloc n => shrink_of_le alloc, fun alloc n ok => ?_,
    fun first second alloc m n ok ok' single => ?_, fun sizes n alloc least granted single => ?_,
    fun sizes sizes' same granted granted' => ?_⟩
  · have after := (b.shrinks alloc n).after_of_ok ok
    rw [after]
    have cap := b.capacity_shrunk n
    have len := b.len_shrunk n
    refine ⟨cap, b.unread_shrunk n, fun loose => ⟨?_, (b.shrinks alloc n).events_of_ok ok loose⟩,
      fun again => shrink_of_le again (by omega)⟩
    rw [shrunk_of_lt loose]
    exact enlarged_moveInto (Nat.le_max_right n b.len)
  · rw [(Buffer.shrinks second _ n).after_of_ok ok', (b.shrinks first m).after_of_ok ok,
      shrunk_shrunk, (b.shrinks alloc _).after_of_ok single]
  · rw [granted.after_eq, foldl_shrunk_of_min? least, (b.shrinks alloc n).after_of_ok single]
  · rw [granted.after_eq, granted'.after_eq]
    exact b.foldl_shrunk_congr same

/-- Two of eight bytes are unread, behind one that was consumed. Shrinking to five bytes and then to
three leaves what shrinking to three leaves, also if five come afterwards. -/
theorem shrinks_compose_of_eight :
    ∃ b, Reachable { initialCapacity := 8 } b ∧ b.leading = 1 ∧
      (Operation.run b (Operation.shrinksTo [(.upTo 5, 5), (.upTo 3, 3)])).after.region =
        ⟨#[2, 3, 0]⟩ ∧
      (Operation.run b (Operation.shrinksTo [(.upTo 5, 5), (.upTo 3, 3)])).after =
        (b.shrink (.upTo 3) 3).after ∧
      (Operation.run b (Operation.shrinksTo [(.upTo 5, 5), (.upTo 3, 3)])).after =
        (Operation.run b (Operation.shrinksTo [(.upTo 3, 3), (.upTo 0, 5)])).after := by
  have fresh : Reachable { initialCapacity := 8 }
      ⟨.empty, .empty, ⟨#[0, 0, 0, 0, 0, 0, 0, 0]⟩, { initialCapacity := 8 }⟩ :=
    .created (show Buffer.create (.upTo 8) _ = _ from rfl)
  have two := fresh.run [(.upTo 8, .append ⟨#[1, 2, 3]⟩), (.upTo 8, .consume 1)]
  obtain ⟨-, -, -, sequence, same⟩ := shrinks_compose _
  exact ⟨_, two, rfl, rfl, sequence _ 3 (.upTo 3) rfl rfl rfl, same _ _ rfl rfl rfl⟩

end Spool
