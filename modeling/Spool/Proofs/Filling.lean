import Spool.Proofs.Layout
import Spool.Proofs.Queue

/-!
# Filling from any source

A source is not trusted. It may write anything anywhere into the slice it is offered, and then
report any count, or an error. What was unread before is out of its reach: `Uncommitted` says what a
fill leaves behind that let nothing in. Main statement: a source is called once, with all the free
space, or not at all if there is no room; what it reports decides what is let in; and as it is never
offered an empty slice, a fill that brings nothing means that the source has come to its end.
-/

namespace Spool

namespace Buffer

/-- `c` has the unread bytes of `b`, and otherwise lies in its region as `room` does. Of the free
space nothing is said. -/
structure Uncommitted (b room c : Buffer) : Prop where
  contents : c.contents = b.contents
  len : c.len = b.len
  readAt : c.readAt = room.readAt
  writeAt : c.writeAt = room.writeAt
  capacity : c.capacity = room.capacity
  options : c.options = b.options

variable {alloc : Allocator} {b : Buffer}

/-- There is one way for a fill to end. -/
theorem Fills.eq_fill {σ : Type} {source : Source σ} {s : σ}
    {out : Outcome (Except IoError Nat) × σ} (h : b.Fills alloc source s out) :
    out = b.fill alloc source s := by
  unfold fill
  cases h with
  | refused refuses => rw [refuses.makeRoom_eq]
  | failed made ok fails =>
    rw [← made.eq_makeRoom]
    dsimp only
    rw [ok]
    dsimp only
    rw [fails]
  | overreported made ok claims past =>
    rw [← made.eq_makeRoom]
    dsimp only
    rw [ok]
    dsimp only
    rw [claims]
    simp only [trailing_writeSpare, if_pos past]
  | accepted made ok claims within =>
    rw [← made.eq_makeRoom]
    dsimp only
    rw [ok]
    dsimp only
    rw [claims]
    simp only [trailing_writeSpare, if_neg (Nat.not_lt.2 within)]

/-- With room the source is called, once and with the free space, and the events are those of making
room. -/
theorem MakesRoom.fill {room : Outcome (Except AllocationError Relocation)} {r : Relocation}
    (made : b.MakesRoom alloc b.options.fillRoom room) {σ : Type} (source : Source σ) (s : σ)
    (ok : room.answer = .ok r) :
    (b.fill alloc source s).2 = (source s room.after.free).2 ∧
      (b.fill alloc source s).1.events = room.events := by
  unfold Buffer.fill
  rw [← made.eq_makeRoom]
  dsimp only
  rw [ok]
  dsimp only
  split
  · exact ⟨rfl, rfl⟩
  · split <;> exact ⟨rfl, rfl⟩

/-- Whatever is written to the free space, nothing of it counts as unread. -/
theorem MakesRoom.uncommitted {n : Nat} {room : Outcome (Except AllocationError Relocation)}
    (made : b.MakesRoom alloc n room) (data : ByteArray) :
    b.Uncommitted room.after (room.after.writeSpare 0 data) where
  contents := by rw [contents_writeSpare, made.contents]
  len := congrArg ByteArray.size made.unread
  readAt := rfl
  writeAt := rfl
  capacity := capacity_writeSpare ..
  options := made.options

/-- The first bytes of the free space, as they were left, go behind those that were unread. -/
theorem MakesRoom.contents_accept {n : Nat} {room : Outcome (Except AllocationError Relocation)}
    (made : b.MakesRoom alloc n room) (data : ByteArray) (k : Nat) :
    ((room.after.writeSpare 0 data).accept k).contents =
      b.contents ++ (room.after.free.overwrite 0 data).data.toList.take k := by
  rw [Buffer.contents_accept, contents_writeSpare, made.contents]
  rfl

/-- The free space is the whole tail of the region. -/
theorem drop_region (b : Buffer) : b.region.drop b.writeAt = b.free := by
  have front : (b.spent ++ b.unread).data.toList.length = b.writeAt := by
    simp [writeAt, leading, len]
  apply ByteArray.eq_of_toList_data_eq
  rw [ByteArray.toList_data_drop, region, ByteArray.data_append, Array.toList_append,
    List.drop_left' front]

/-- Room is made for at least one byte, so the source is not offered an empty slice. -/
theorem Fills.ended_of_zero {σ : Type} {source : Source σ} {s : σ}
    {out : Outcome (Except IoError Nat) × σ} (h : b.Fills alloc source s out)
    (none : out.1.answer = .ok 0) {ended : σ → Prop}
    (zero : ∀ slice, (source s slice).1.answer = .ok 0 → slice.size = 0 ∨ ended s) : ended s := by
  cases h with
  | refused | failed | overreported => cases none
  | @accepted room r n made ok claims within =>
    obtain rfl := Except.ok.inj none
    have offered : b.options.fillRoom ≤ room.after.free.size := made.le_trailing ok
    have some := b.options.fillRoom_pos
    exact (zero _ claims).resolve_left (by omega)

end Buffer

/-- A fill of a reachable buffer makes room for as many bytes as are to be read at a time, and for
at least one. Without room nothing changes and the source is not called. With room it is called
once, with all the free space; what it left in the first `n` bytes of it is let in if it reports `n`
and that is no more than it was offered, and nothing is let in otherwise. So a fill that brings
nothing from a source that reports nothing only at its end, or when it is offered nothing, has found
the end. -/
theorem fill_serves_any_source {o : Options} {b : Buffer} (h : Reachable o b) (alloc : Allocator)
    {room : Outcome (Except AllocationError Relocation)}
    (made : b.makeRoom alloc (max o.readSize.toNat 1) = room) {σ : Type} (source : Source σ)
    (s : σ) :
    (∀ e, room.answer = .error e →
      b.fill alloc source.watched (s, []) = (⟨.error (.allocation e), b, []⟩, s, [])) ∧
    (∀ r, room.answer = .ok r →
      max o.readSize.toNat 1 ≤ room.after.free.size ∧
      room.after.region.drop room.after.writeAt = room.after.free ∧
      (b.fill alloc source.watched (s, [])).2 =
        ((source s room.after.free).2, [room.after.free]) ∧
      (b.fill alloc source s).1.events = room.events ∧
      (∀ e, (source s room.after.free).1.answer = .error e →
        (b.fill alloc source s).1.answer = .error e ∧
        b.Uncommitted room.after (b.fill alloc source s).1.after) ∧
      (∀ n, (source s room.after.free).1.answer = .ok n → room.after.free.size < n →
        (b.fill alloc source s).1.answer = .error (.overreport n room.after.free.size) ∧
        b.Uncommitted room.after (b.fill alloc source s).1.after) ∧
      ∀ n, (source s room.after.free).1.answer = .ok n → n ≤ room.after.free.size →
        (b.fill alloc source s).1.answer = .ok n ∧
        (b.fill alloc source s).1.after.contents = b.contents ++
          (room.after.free.overwrite 0 (source s room.after.free).1.slice).data.toList.take n ∧
        (b.fill alloc source s).1.after.capacity = room.after.capacity) ∧
    ∀ ended : σ → Prop,
      (∀ s slice, (source s slice).1.answer = .ok 0 → slice.size = 0 ∨ ended s) →
        (b.fill alloc source s).1.answer = .ok 0 → ended s := by
  have size : b.options.fillRoom = max o.readSize.toNat 1 := by
    rw [h.wellFormed.options]
    rfl
  have makes : b.MakesRoom alloc b.options.fillRoom room := by
    rw [← made, size]
    exact b.makesRoom ..
  refine ⟨fun e error => ?_, fun r ok => ?_, fun ended zero none => ?_⟩
  · exact (Buffer.Fills.refused (makes.refuses error)).eq_fill.symm
  · have offered : room.after.free.size = room.after.trailing := rfl
    have enough := makes.le_trailing ok
    refine ⟨by omega, room.after.drop_region, (makes.fill source.watched (s, []) ok).1,
      (makes.fill source s ok).2, fun e fails => ?_, fun n claims past => ?_,
      fun n claims within => ?_⟩
    · rw [← (Buffer.Fills.failed makes ok fails).eq_fill]
      exact ⟨rfl, makes.uncommitted _⟩
    · rw [← (Buffer.Fills.overreported makes ok claims past).eq_fill]
      exact ⟨rfl, makes.uncommitted _⟩
    · rw [← (Buffer.Fills.accepted makes ok claims within).eq_fill]
      exact ⟨rfl, makes.contents_accept _ n, by
        rw [Buffer.capacity_accept, Buffer.capacity_writeSpare]⟩
  · exact (b.fills alloc source s).ended_of_zero none (zero s)

/-- A full buffer of which two bytes were consumed. A source that scribbles over the two bytes it is
offered and claims three brings nothing in; one that has three bytes brings in two, and if it had
none it would be at its end. -/
theorem fill_serves_any_source_of_two :
    Reachable { initialCapacity := 4, readSize := 2 }
      ⟨⟨#[1, 2]⟩, ⟨#[3, 4]⟩, .empty, { initialCapacity := 4, readSize := 2 }⟩ ∧
    ((Buffer.mk ⟨#[1, 2]⟩ ⟨#[3, 4]⟩ .empty { initialCapacity := 4, readSize := 2 }).fill (.upTo 4)
      (fun _ _ => (⟨⟨#[9, 9]⟩, .ok 3⟩, ())) ()).1.answer = .error (.overreport 3 2) ∧
    ((Buffer.mk ⟨#[1, 2]⟩ ⟨#[3, 4]⟩ .empty { initialCapacity := 4, readSize := 2 }).fill (.upTo 4)
      (fun rest slice => (⟨rest.take slice.size, .ok (min rest.size slice.size)⟩,
        rest.drop slice.size)) (ByteArray.mk #[7, 8, 9])).1.after.contents = [3, 4, 7, 8] ∧
    ∀ rest, ((Buffer.mk ⟨#[1, 2]⟩ ⟨#[3, 4]⟩ .empty { initialCapacity := 4, readSize := 2 }).fill
      (.upTo 4) (fun rest slice => (⟨rest.take slice.size, .ok (min rest.size slice.size)⟩,
        rest.drop slice.size)) (rest : ByteArray)).1.answer = .ok 0 → rest.size = 0 := by
  have fresh : Reachable { initialCapacity := 4, readSize := 2 }
      ⟨.empty, .empty, ⟨#[0, 0, 0, 0]⟩, { initialCapacity := 4, readSize := 2 }⟩ :=
    .created (show Buffer.create (.upTo 4) _ = _ from rfl)
  have full := fresh.run [(.upTo 4, .append ⟨#[1, 2, 3, 4]⟩), (.upTo 4, .consume 2)]
  refine ⟨full, ?_, ?_, fun rest => ?_⟩
  · obtain ⟨-, serves, -⟩ := fill_serves_any_source full (.upTo 4) rfl
      (fun _ _ => (⟨⟨#[9, 9]⟩, .ok 3⟩, ())) ()
    obtain ⟨-, -, -, -, -, past, -⟩ := serves (.compacted 2) rfl
    exact (past 3 rfl (by decide)).1
  · obtain ⟨-, serves, -⟩ := fill_serves_any_source full (.upTo 4) rfl
      (fun rest slice => (⟨rest.take slice.size, .ok (min rest.size slice.size)⟩,
        rest.drop slice.size)) (ByteArray.mk #[7, 8, 9])
    obtain ⟨-, -, -, -, -, -, within⟩ := serves (.compacted 2) rfl
    exact (within 2 rfl (by decide)).2.1
  · obtain ⟨-, -, ends⟩ := fill_serves_any_source full (.upTo 4) rfl
      (fun rest slice => (⟨rest.take slice.size, .ok (min rest.size slice.size)⟩,
        rest.drop slice.size)) rest
    refine ends (fun rest => rest.size = 0) fun rest slice none => ?_
    have zero : min rest.size slice.size = 0 := Except.ok.inj none
    omega

end Spool
