import Spool.Buffer.Transfer
import Spool.Buffer.Lemmas

/-!
# The exits of the operations

One relation for each operation that can end in several ways: a constructor is an exit, with the
condition under which it is taken and everything it leaves behind. `Refuses` is the one reason for
which room cannot be had. An operation is opened once, in the lemma that bears its name; proofs
about it go by cases on the exits.
-/

namespace Spool.Buffer

/-! ## Creating -/

theorem create_eq_ok_iff {alloc : Allocator} {o : Options} {b : Buffer} :
    create alloc o = .ok b ↔ alloc.grants o.initialCapacity.toNat = true ∧
      b = ⟨.empty, .empty, .replicate o.initialCapacity.toNat 0, o⟩ := by
  unfold create Allocator.allocate
  cases alloc.grants o.initialCapacity.toNat <;> simp [Except.map, eq_comm]

theorem create_eq_error_iff {alloc : Allocator} {o : Options} {e : AllocationError} :
    create alloc o = .error e ↔ alloc.grants o.initialCapacity.toNat = false ∧
      e = .refused o.initialCapacity.toNat := by
  unfold create
  rw [← Allocator.allocate_eq_error_iff]
  cases alloc.allocate o.initialCapacity.toNat <;> simp [Except.map]

/-! ## Making room -/

/-- `n` more bytes do not fit into the region, and the larger one is refused with `e`. -/
structure Refuses (alloc : Allocator) (b : Buffer) (n : Nat) (e : AllocationError) : Prop where
  short : b.capacity < b.len + n
  refused : alloc.allocate (b.grownCapacity n) = .error e

inductive MakesRoom (alloc : Allocator) (b : Buffer) (n : Nat) :
    Outcome (Except AllocationError Relocation) → Prop where
  | inPlace (fits : n ≤ b.trailing) : MakesRoom alloc b n ⟨.ok .inPlace, b, []⟩
  | compacted (short : b.trailing < n) (fits : b.len + n ≤ b.capacity) :
      MakesRoom alloc b n ⟨.ok (.compacted b.len), b.compact, [.compacted b.len b.capacity]⟩
  | grown (short : b.capacity < b.len + n) (granted : alloc.grants (b.grownCapacity n) = true) :
      MakesRoom alloc b n ⟨.ok (.grown b.capacity (b.grownCapacity n)),
        b.moveInto (.replicate (b.grownCapacity n) 0), [.grew b.capacity (b.grownCapacity n) b.len]⟩
  | refused {e : AllocationError} (refuses : b.Refuses alloc n e) :
      MakesRoom alloc b n ⟨.error e, b, []⟩

theorem makesRoom (alloc : Allocator) (b : Buffer) (n : Nat) :
    b.MakesRoom alloc n (b.makeRoom alloc n) := by
  have hcap : b.capacity = b.leading + b.len + b.trailing := rfl
  unfold makeRoom
  split
  · next fits => exact .inPlace fits
  · next short =>
    split
    · next fits => exact .compacted (by omega) (by omega)
    · next full =>
      cases h : alloc.allocate (b.grownCapacity n) with
      | error e => exact .refused ⟨by omega, h⟩
      | ok fresh =>
        obtain ⟨granted, rfl⟩ := Allocator.allocate_eq_ok_iff.1 h
        exact .grown (by omega) granted

section

variable {alloc : Allocator} {b : Buffer} {n : Nat}
  {room : Outcome (Except AllocationError Relocation)}

/-- There is one way to make room. -/
theorem MakesRoom.eq_makeRoom (h : b.MakesRoom alloc n room) : room = b.makeRoom alloc n := by
  have hcap : b.capacity = b.leading + b.len + b.trailing := rfl
  unfold makeRoom
  cases h with
  | inPlace fits => rw [if_pos fits]
  | compacted short fits => rw [if_neg (by omega), if_pos (by omega)]
  | grown short granted =>
    rw [if_neg (by omega), if_neg (by omega), Allocator.allocate_of_grants granted]
  | refused refuses =>
    have short := refuses.short
    rw [if_neg (by omega), if_neg (by omega), refuses.refused]

theorem MakesRoom.unread (h : b.MakesRoom alloc n room) : room.after.unread = b.unread := by
  cases h <;> rfl

theorem MakesRoom.options (h : b.MakesRoom alloc n room) : room.after.options = b.options := by
  cases h <;> rfl

/-- Whichever way room was made, there is enough of it. -/
theorem MakesRoom.le_trailing {r : Relocation} (h : b.MakesRoom alloc n room)
    (ok : room.answer = .ok r) : n ≤ room.after.trailing := by
  have hcap : b.capacity = b.leading + b.len + b.trailing := rfl
  cases h with
  | inPlace fits => exact fits
  | compacted short fits => simp only [trailing_compact]; omega
  | grown short granted =>
    have := b.len_add_le_grownCapacity n
    simp only [trailing_moveInto, ByteArray.size_replicate]; omega
  | refused refuses => cases ok

theorem MakesRoom.refuses {e : AllocationError} (h : b.MakesRoom alloc n room)
    (error : room.answer = .error e) : b.Refuses alloc n e := by
  cases h <;> cases error
  assumption

theorem MakesRoom.not_refuses {r : Relocation} (h : b.MakesRoom alloc n room)
    (ok : room.answer = .ok r) (e : AllocationError) : ¬ b.Refuses alloc n e := by
  have hcap : b.capacity = b.leading + b.len + b.trailing := rfl
  rintro ⟨short, refused⟩
  cases h with
  | inPlace fits => omega
  | compacted _ fits => omega
  | grown _ granted => rw [Allocator.allocate_of_grants granted] at refused; cases refused
  | refused => cases ok

/-- A refusal leaves the buffer and the log as they were. -/
theorem MakesRoom.eq_of_error {e : AllocationError} (h : b.MakesRoom alloc n room)
    (error : room.answer = .error e) : room = ⟨.error e, b, []⟩ := by
  cases h <;> cases error
  rfl

theorem Refuses.makeRoom_eq {e : AllocationError} (h : b.Refuses alloc n e) :
    b.makeRoom alloc n = ⟨.error e, b, []⟩ := by
  have hcap : b.capacity = b.leading + b.len + b.trailing := rfl
  have short := h.short
  rw [makeRoom, if_neg (by omega), if_neg (by omega), h.refused]

theorem makeRoom_eq_error_iff {e : AllocationError} :
    (b.makeRoom alloc n).answer = .error e ↔ b.Refuses alloc n e :=
  ⟨fun h => (b.makesRoom alloc n).refuses h, fun h => by rw [h.makeRoom_eq]⟩

end

/-! ## Shrinking -/

inductive Shrinks (alloc : Allocator) (b : Buffer) (n : Nat) :
    Outcome (Except AllocationError Unit) → Prop where
  | kept (fits : b.capacity ≤ max n b.len) : Shrinks alloc b n ⟨.ok (), b, []⟩
  | moved (loose : max n b.len < b.capacity) (granted : alloc.grants (max n b.len) = true) :
      Shrinks alloc b n ⟨.ok (), b.moveInto (.replicate (max n b.len) 0), [.shrunk (max n b.len)]⟩
  | refused {e : AllocationError} (loose : max n b.len < b.capacity)
      (refused : alloc.allocate (max n b.len) = .error e) : Shrinks alloc b n ⟨.error e, b, []⟩

theorem shrinks (alloc : Allocator) (b : Buffer) (n : Nat) :
    b.Shrinks alloc n (b.shrink alloc n) := by
  unfold shrink
  split
  · next fits => exact .kept fits
  · next loose =>
    cases h : alloc.allocate (max n b.len) with
    | error e => exact .refused (by omega) h
    | ok fresh =>
      obtain ⟨granted, rfl⟩ := Allocator.allocate_eq_ok_iff.1 h
      exact .moved (by omega) granted

/-! ## Appending -/

/-- Data of any size, none included, goes through the free space: an append is room made, a write to
the front of it and a commit. -/
inductive Appends (alloc : Allocator) (b : Buffer) (data : ByteArray) :
    Outcome (Except AllocationError Relocation) → Prop where
  | refused {e : AllocationError} (refuses : b.Refuses alloc data.size e) :
      Appends alloc b data ⟨.error e, b, []⟩
  | added {room : Outcome (Except AllocationError Relocation)} {r : Relocation}
      (made : b.MakesRoom alloc data.size room) (ok : room.answer = .ok r) :
      Appends alloc b data ⟨.ok r, (room.after.writeSpare 0 data).accept data.size, room.events⟩

theorem appends (alloc : Allocator) (b : Buffer) (data : ByteArray) :
    b.Appends alloc data (b.append alloc data) := by
  unfold append
  split
  · next none =>
    obtain rfl := ByteArray.size_eq_zero_iff.1 none
    have added : b.Appends alloc .empty _ := .added (.inPlace (Nat.zero_le b.trailing)) rfl
    rw [accept_writeSpare _ (Nat.zero_le _)] at added
    simpa using added
  · have made := b.makesRoom alloc data.size
    dsimp only
    split
    · next e h =>
      rw [made.eq_of_error h]
      exact .refused (made.refuses h)
    · next r h =>
      rw [← accept_writeSpare _ (made.le_trailing h)]
      exact .added made h

/-- An append is answered as the room for it is. -/
theorem Appends.answer_eq {alloc : Allocator} {b : Buffer} {data : ByteArray}
    {out : Outcome (Except AllocationError Relocation)} (h : b.Appends alloc data out) :
    out.answer = (b.makeRoom alloc data.size).answer := by
  cases h with
  | refused refuses => rw [refuses.makeRoom_eq]
  | added made ok => rw [← made.eq_makeRoom, ok]

theorem Appends.unread_of_ok {alloc : Allocator} {b : Buffer} {data : ByteArray} {r : Relocation}
    {out : Outcome (Except AllocationError Relocation)} (h : b.Appends alloc data out)
    (ok : out.answer = .ok r) : out.after.unread = b.unread ++ data := by
  cases h with
  | refused => cases ok
  | added made granted =>
    rw [accept_writeSpare _ (made.le_trailing granted), ← made.unread]

theorem write_eq_map_append (alloc : Allocator) (b : Buffer) (data : ByteArray) :
    b.write alloc data = (b.append alloc data).map fun r =>
      (r.mapError .allocation).map fun _ => data.size := by
  simp only [write, Outcome.map]
  cases (b.append alloc data).answer <;> rfl

/-- No data is no exception to writing all of it. -/
theorem writeAll_eq_map_append (alloc : Allocator) (b : Buffer) (data : ByteArray) :
    b.writeAll alloc data = (b.append alloc data).map fun r =>
      (r.mapError .allocation).map fun _ => () := by
  by_cases h : data.size = 0
  · rw [writeAll, if_pos h, append, if_pos h]
    rfl
  · simp only [writeAll, write, h, if_false, Outcome.map]
    cases (b.append alloc data).answer <;> rfl

/-! ## Transfers -/

inductive Fills {σ : Type} (alloc : Allocator) (source : Source σ) (s : σ) (b : Buffer) :
    Outcome (Except IoError Nat) × σ → Prop where
  | refused {e : AllocationError} (refuses : b.Refuses alloc b.options.fillRoom e) :
      Fills alloc source s b (⟨.error (.allocation e), b, []⟩, s)
  | failed {room : Outcome (Except AllocationError Relocation)} {r : Relocation} {e : IoError}
      (made : b.MakesRoom alloc b.options.fillRoom room) (ok : room.answer = .ok r)
      (fails : (source s room.after.free).1.answer = .error e) :
      Fills alloc source s b (⟨.error e, room.after.writeSpare 0 (source s room.after.free).1.slice,
        room.events⟩, (source s room.after.free).2)
  | overreported {room : Outcome (Except AllocationError Relocation)} {r : Relocation} {n : Nat}
      (made : b.MakesRoom alloc b.options.fillRoom room) (ok : room.answer = .ok r)
      (claims : (source s room.after.free).1.answer = .ok n) (past : room.after.trailing < n) :
      Fills alloc source s b (⟨.error (.overreport n room.after.trailing),
        room.after.writeSpare 0 (source s room.after.free).1.slice, room.events⟩,
        (source s room.after.free).2)
  | accepted {room : Outcome (Except AllocationError Relocation)} {r : Relocation} {n : Nat}
      (made : b.MakesRoom alloc b.options.fillRoom room) (ok : room.answer = .ok r)
      (claims : (source s room.after.free).1.answer = .ok n) (within : n ≤ room.after.trailing) :
      Fills alloc source s b (⟨.ok n,
        (room.after.writeSpare 0 (source s room.after.free).1.slice).accept n, room.events⟩,
        (source s room.after.free).2)

theorem fills {σ : Type} (alloc : Allocator) (source : Source σ) (s : σ) (b : Buffer) :
    b.Fills alloc source s (b.fill alloc source s) := by
  have made := b.makesRoom alloc b.options.fillRoom
  unfold fill
  dsimp only
  split
  · next e h =>
    rw [made.eq_of_error h]
    exact .refused (made.refuses h)
  · next r ok =>
    split
    · next e fails => exact .failed made ok fails
    · next n claims =>
      rw [trailing_writeSpare]
      split
      · next past => exact .overreported made ok claims past
      · next within => exact .accepted made ok claims (Nat.not_lt.1 within)

inductive Drains {τ : Type} (sink : Sink τ) (t : τ) (b : Buffer) :
    Outcome (Except IoError Nat) × τ → Prop where
  | nothing (empty : b.len = 0) : Drains sink t b (⟨.ok 0, b, []⟩, t)
  | failed {e : IoError} (some : 0 < b.len) (fails : (sink t b.unread).1 = .error e) :
      Drains sink t b (⟨.error e, b, []⟩, (sink t b.unread).2)
  | taken {n : Nat} (some : 0 < b.len) (claims : (sink t b.unread).1 = .ok n) :
      Drains sink t b (⟨.ok n, b.consume n, []⟩, (sink t b.unread).2)

theorem drains {τ : Type} (sink : Sink τ) (t : τ) (b : Buffer) :
    b.Drains sink t (b.drain sink t) := by
  unfold drain isEmpty
  split
  · next empty => exact .nothing (by simpa using empty)
  · next some =>
    have some : 0 < b.len := Nat.pos_of_ne_zero (by simpa using some)
    dsimp only
    split
    · next e fails => exact .failed some fails
    · next n claims => exact .taken some claims

/-- A sink that reports some bytes leaves fewer of them. -/
theorem Drains.len_lt {τ : Type} {sink : Sink τ} {t : τ} {b : Buffer} {n : Nat}
    {out : Outcome (Except IoError Nat) × τ} (h : b.Drains sink t out)
    (some : out.1.answer = .ok (n + 1)) : out.1.after.len < b.len := by
  cases h with
  | nothing => cases some
  | failed => cases some
  | taken pos =>
    cases some
    exact len_consume_lt b (n + 1) (Nat.succ_pos n) pos

end Spool.Buffer
