import Spool.Proofs.History

/-!
# Elementary changes

Every call, however it ends, is a sequence of a few elementary changes to the buffer. `Change` lists
them, each under the conditions the calls establish for it and with the events it emits; `Changes`
is a sequence of them. What each change keeps, every run keeps.
-/

namespace Spool

open Buffer

inductive Change (alloc : Allocator) (b : Buffer) : Buffer → List Event → Prop where
  | compacted {n : Nat} (short : b.trailing < n) (fits : b.len + n ≤ b.capacity) :
      Change alloc b b.compact [.compacted b.len b.capacity]
  | grown {n : Nat} (short : b.capacity < b.len + n)
      (granted : alloc.grants (b.grownCapacity n) = true) :
      Change alloc b (b.moveInto (.replicate (b.grownCapacity n) 0))
        [.grew b.capacity (b.grownCapacity n) b.len]
  | shrunk {n : Nat} (loose : max n b.len < b.capacity)
      (granted : alloc.grants (max n b.len) = true) :
      Change alloc b (b.moveInto (.replicate (max n b.len) 0)) [.shrunk (max n b.len)]
  | written (start : Nat) (data : ByteArray) : Change alloc b (b.writeSpare start data) []
  | accepted {n : Nat} (within : n ≤ b.trailing) : Change alloc b (b.accept n) []
  | consumed (n : Nat) : Change alloc b (b.consume n) []
  | cleared : Change alloc b b.clear []

inductive Changes (alloc : Allocator) : Buffer → Buffer → List Event → Prop where
  | refl (b : Buffer) : Changes alloc b b []
  | step {b c d : Buffer} {es fs : List Event} (first : Change alloc b c es)
      (others : Changes alloc c d fs) : Changes alloc b d (es ++ fs)

variable {alloc : Allocator} {b c d : Buffer} {es fs : List Event}

theorem Change.changes (h : Change alloc b c es) : Changes alloc b c es := by
  simpa using Changes.step h (.refl c)

theorem Changes.trans (h : Changes alloc b c es) (h' : Changes alloc c d fs) :
    Changes alloc b d (es ++ fs) := by
  induction h with
  | refl => exact h'
  | step first _ ih => rw [List.append_assoc]; exact .step first (ih h')

/-- A change without an event of its own after others. -/
theorem Changes.snoc (h : Changes alloc b c es) (last : Change alloc c d []) :
    Changes alloc b d es := by
  simpa using h.trans last.changes

/-! ## The changes of each operation -/

theorem Buffer.MakesRoom.changes {n : Nat} {room : Outcome (Except AllocationError Relocation)}
    (h : b.MakesRoom alloc n room) : Changes alloc b room.after room.events := by
  cases h with
  | inPlace => exact .refl b
  | compacted short fits => exact (Change.compacted short fits).changes
  | grown short granted => exact (Change.grown short granted).changes
  | refused => exact .refl b

theorem Buffer.Shrinks.changes {n : Nat} {out : Outcome (Except AllocationError Unit)}
    (h : b.Shrinks alloc n out) : Changes alloc b out.after out.events := by
  cases h with
  | kept => exact .refl b
  | moved loose granted => exact (Change.shrunk loose granted).changes
  | refused => exact .refl b

theorem Buffer.Appends.changes {data : ByteArray}
    {out : Outcome (Except AllocationError Relocation)} (h : b.Appends alloc data out) :
    Changes alloc b out.after out.events := by
  cases h with
  | refused => exact .refl b
  | added made ok =>
    refine (made.changes.snoc (.written 0 data)).snoc (.accepted ?_)
    rw [trailing_writeSpare]
    exact made.le_trailing ok

theorem Buffer.Fills.changes {σ : Type} {source : Source σ} {s : σ}
    {out : Outcome (Except IoError Nat) × σ} (h : b.Fills alloc source s out) :
    Changes alloc b out.1.after out.1.events := by
  cases h with
  | refused => exact .refl b
  | failed made => exact made.changes.snoc (.written 0 _)
  | overreported made => exact made.changes.snoc (.written 0 _)
  | accepted made _ _ within =>
    refine (made.changes.snoc (.written 0 _)).snoc (.accepted ?_)
    rwa [trailing_writeSpare]

theorem Buffer.Drains.changes {τ : Type} {sink : Sink τ} {t : τ}
    {out : Outcome (Except IoError Nat) × τ} (h : b.Drains sink t out) :
    Changes alloc b out.1.after out.1.events := by
  cases h with
  | nothing => exact .refl b
  | failed => exact .refl b
  | taken => exact (Change.consumed _).changes

theorem Performs.changes {op : Operation} {offered : List ByteArray} {out : Outcome Answer}
    (h : Performs alloc b op offered out) : Changes alloc b out.after out.events := by
  cases h with
  | append exits => exact exits.changes
  | makeRoom exits => exact exits.changes
  | writeSpare => exact (Change.written _ _).changes
  | commit within => exact (Change.accepted within).changes
  | overrun => exact .refl b
  | consume => exact (Change.consumed _).changes
  | clear => exact Change.cleared.changes
  | shrink exits => exact exits.changes
  | write exits => exact exits.changes
  | writeAll exits => exact exits.changes
  | read => exact (Change.consumed _).changes
  | fill exits => exact exits.changes
  | drain exits => exact exits.changes

/-! ## Invariants -/

/-- What every change keeps, a sequence of changes keeps. -/
theorem Changes.preserves {P : Buffer → Prop}
    (keep : ∀ {b c es}, Change alloc b c es → P b → P c) (h : Changes alloc b c es) (hb : P b) :
    P c := by
  induction h with
  | refl => exact hb
  | step first _ ih => exact ih (keep first hb)

/-- A property of fresh buffers that every change keeps holds of all reachable ones. -/
theorem Reachable.induction {o : Options} {P : Buffer → Prop}
    (fresh : ∀ {alloc b}, Buffer.create alloc o = .ok b → P b)
    (keep : ∀ {alloc b c es}, Change alloc b c es → P b → P c) (h : Reachable o b) : P b := by
  induction h with
  | created created => exact fresh created
  | performed alloc op _ ih => exact (Step.performs ⟨_, alloc, op⟩).changes.preserves keep ih

end Spool
