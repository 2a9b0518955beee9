import Spool.Proofs.Layout
import Spool.Proofs.Reading
import Spool.Proofs.Window

/-!
# Windows do not trap

The window of a buffer has its region and its cursors. On the window of a reachable buffer every
call does what it does on the buffer, and so it does not trap; the exception is a commit of more
than there is room for. One equation per function, assembled into one per operation and one per run.
Main statement: `traps_only_on_overrun`.
-/

namespace Spool

open Buffer

/-! ## Windows of buffers -/

def Buffer.window (b : Buffer) : Window := ⟨b.region, b.readAt, b.writeAt, b.options⟩

def Outcome.window {α : Type} (out : Outcome α) : Window.Reply α :=
  ⟨out.answer, out.after.window, out.events⟩

theorem ok_bind {α β : Type} (a : α) (f : α → Except Trap β) : (Except.ok a >>= f) = f a := rfl

theorem Word.sub_of_le {m n : Nat} (h : n ≤ m) : sub m n = .ok (m - n) := if_pos h

namespace Slice

variable {bytes data : ByteArray} {start stop : Nat}

theorem cut_of_le (h : start ≤ stop) (h' : stop ≤ bytes.size) :
    cut bytes start stop = .ok (bytes.extract start stop) := if_pos ⟨h, h'⟩

theorem paste_of_le (h : start ≤ stop) (h' : stop ≤ bytes.size) (size : data.size = stop - start) :
    paste bytes start stop data = .ok (bytes.overwrite start data) := if_pos ⟨h, h', size⟩

end Slice

/-! ## Observing -/

namespace Buffer

variable (b : Buffer)

theorem len_window : b.window.len = .ok b.len := by
  have hwrite : b.writeAt = b.readAt + b.len := rfl
  have sub : Word.sub b.writeAt b.readAt = .ok (b.writeAt - b.readAt) :=
    Word.sub_of_le (by omega)
  rwa [hwrite, Nat.add_sub_cancel_left] at sub

-- the cursors of no buffer are crossed
example : (Window.mk ⟨#[0]⟩ 1 0 {}).len = .error .arithmetic := rfl

theorem isEmpty_window : b.window.isEmpty = b.isEmpty := by
  have hwrite : b.writeAt = b.readAt + b.len := rfl
  show (b.readAt == b.writeAt) = (b.len == 0)
  rw [hwrite, Bool.eq_iff_iff, beq_iff_eq, beq_iff_eq]
  omega

theorem capacity_window : b.window.capacity = b.capacity := b.size_region

theorem trailing_window : b.window.trailing = .ok b.trailing := by
  have hcap : b.capacity = b.writeAt + b.trailing := rfl
  have sub : Word.sub b.capacity b.writeAt = .ok (b.capacity - b.writeAt) :=
    Word.sub_of_le (by omega)
  rw [Window.trailing, capacity_window]
  rwa [hcap, Nat.add_sub_cancel_left] at sub

theorem peek_window : b.window.peek = .ok b.unread := by
  have hcap : b.region.size = b.readAt + b.len + b.trailing := b.size_region
  have hwrite : b.writeAt = b.readAt + b.len := rfl
  have cut : Slice.cut b.region b.readAt b.writeAt =
      .ok (b.region.extract b.readAt b.writeAt) :=
    Slice.cut_of_le (by omega) (by omega)
  rwa [b.extract_region] at cut

theorem spare_window : b.window.spare = .ok b.free := by
  have hcap : b.region.size = b.writeAt + b.trailing := b.size_region
  have free : b.region.extract b.writeAt b.region.size = b.free := by
    have front : (b.spent ++ b.unread).size = b.writeAt := ByteArray.size_append
    rw [hcap, ← front, region]
    exact ByteArray.extract_append_eq_right rfl (by rw [ByteArray.size_append]; rfl)
  have cut : Slice.cut b.region b.writeAt b.region.size =
      .ok (b.region.extract b.writeAt b.region.size) :=
    Slice.cut_of_le (by omega) (Nat.le_refl _)
  rwa [free] at cut

end Buffer

/-! ## Regions -/

namespace Buffer

variable (b : Buffer)

theorem region_moveInto {size : Nat} (fits : b.len ≤ size) :
    (b.moveInto (.replicate size 0)).region = resized b.unread size := by
  have rest : (ByteArray.replicate size 0).drop b.len = .replicate (size - b.unread.size) 0 := by
    apply ByteArray.eq_of_toList_data_eq
    simp [len]
  rw [region, moveInto, rest, ByteArray.empty_append, resized, ByteArray.take_of_size_le fits]

end Buffer

/-! ## Consuming -/

namespace Buffer

variable {alloc : Allocator} {o : Options} {b : Buffer}

/-- Sums that stay within the region are words. -/
theorem WellFormed.add_window {m n : Nat} (h : b.WellFormed o) (within : m + n ≤ b.capacity) :
    Word.add m n = .ok (m + n) :=
  if_pos (Nat.le_trans within (Nat.le_trans h.capacity_le maxRegion_le_maxSize))

theorem clear_window (b : Buffer) : b.window.clear = b.clear.window :=
  Window.ext b.region_clear.symm rfl rfl rfl

theorem WellFormed.consume_window (h : b.WellFormed o) (n : Nat) :
    b.window.consume n = .ok (b.consume n).window := by
  by_cases zero : n = 0
  · rw [Window.consume, if_pos zero, zero, consume_zero]
  · rw [Window.consume, if_neg zero, len_window, ok_bind]
    rcases Nat.lt_or_ge n b.len with lt | le
    · have hcap : b.capacity = b.readAt + b.len + b.trailing := rfl
      have add : Word.add b.window.readAt n = .ok (b.readAt + n) :=
        h.add_window (show b.readAt + n ≤ b.capacity by omega)
      have readAt : (b.consume n).readAt = b.readAt + n := by
        rw [consume_of_lt b lt, Buffer.readAt, leading, ByteArray.size_append,
          ByteArray.size_take_of_le (Nat.le_of_lt lt)]
        rfl
      have writeAt : (b.consume n).writeAt = b.writeAt := by
        have hafter : (b.consume n).writeAt = (b.consume n).readAt + (b.consume n).len := rfl
        have hwrite : b.writeAt = b.readAt + b.len := rfl
        rw [len_consume] at hafter
        omega
      rw [if_neg (Nat.not_le.2 lt), add, ok_bind]
      exact congrArg Except.ok
        (Window.ext (b.region_consume n).symm readAt.symm writeAt.symm (b.options_consume n).symm)
    · rw [if_pos le, clear_window, consume_of_le b n zero le]
      rfl

/-! ## Making room -/

theorem compact_window (b : Buffer) :
    b.window.compact = .ok ⟨b.len, b.compact.window, [.compacted b.len b.capacity]⟩ := by
  have hcap : b.region.size = b.readAt + b.len + b.trailing := b.size_region
  have cut : Slice.cut b.window.region b.window.readAt b.window.writeAt = .ok b.unread :=
    b.peek_window
  have paste : Slice.paste b.window.region 0 b.unread.size b.unread = .ok b.compact.region := by
    rw [region_compact]
    exact Slice.paste_of_le (Nat.zero_le _) (show b.len ≤ b.region.size by omega) rfl
  have capacity : b.compact.region.size = b.capacity := by rw [size_region, capacity_compact]
  have after : { b.window with region := b.compact.region, readAt := 0, writeAt := b.len } =
      b.compact.window :=
    Window.ext rfl rfl (Nat.zero_add b.len).symm rfl
  rw [Window.compact, len_window, ok_bind, Slice.copyToFront, cut, ok_bind, paste, ok_bind, after,
    capacity]
  rfl

theorem relocateFrom_window {σ : Type} {supplier : Supplier σ} (serves : supplier.Serves alloc)
    (s : σ) {size : Nat} (fits : b.len ≤ size) :
    b.window.relocateFrom supplier s size =
      .ok ((alloc.allocate size).map fun fresh => (b.moveInto fresh).window,
        (supplier s size).2) := by
  rw [Window.relocateFrom, len_window, ok_bind, if_neg (Nat.not_lt.2 fits)]
  dsimp only
  rw [serves s size]
  cases granted : alloc.allocate size with
  | error e => rfl
  | ok fresh =>
    obtain ⟨-, rfl⟩ := Allocator.allocate_eq_ok_iff.1 granted
    dsimp only
    rw [peek_window, ok_bind]
    exact congrArg (fun w => Except.ok (Except.ok w, (supplier s size).2))
      (Window.ext (region_moveInto b fits).symm rfl (Nat.zero_add b.len).symm rfl)

theorem relocate_window {size : Nat} (fits : b.len ≤ size) :
    b.window.relocate alloc size =
      .ok ((alloc.allocate size).map fun fresh => (b.moveInto fresh).window) := by
  rw [Window.relocate, relocateFrom_window alloc.serves_supplier () fits]
  rfl

theorem nextCapacity_window (b : Buffer) (n : Nat) :
    b.window.options.growth.nextCapacity b.window.capacity n =
      if b.grownCapacity n ≤ maxSize then some (b.grownCapacity n) else none := by
  rw [capacity_window, Growth.nextCapacity, Word.mul?]
  split
  · rfl
  · next past =>
    have more : b.capacity * b.window.options.growth.multiplier ≤ b.grownCapacity n :=
      Nat.le_add_right ..
    rw [if_neg (by omega)]
    rfl

/-- A region that no word counts is refused like one for which there is no memory, but nobody is
asked for it. -/
theorem growFrom_window {σ : Type} {supplier : Supplier σ} (serves : supplier.Serves alloc) (s : σ)
    (b : Buffer) (n : Nat) :
    b.window.growFrom supplier s n = .ok
      (match alloc.allocate (b.grownCapacity n) with
        | .error e => ⟨.error e, b.window, []⟩
        | .ok fresh => ⟨.ok (.grown b.capacity (b.grownCapacity n)), (b.moveInto fresh).window,
            [.grew b.capacity (b.grownCapacity n) b.len]⟩,
      if b.grownCapacity n ≤ maxSize then (supplier s (b.grownCapacity n)).2 else s) := by
  have hcap : b.capacity = b.leading + b.len + b.trailing := rfl
  have grows := b.len_add_le_grownCapacity n
  rw [Window.growFrom, nextCapacity_window]
  by_cases word : b.grownCapacity n ≤ maxSize
  · rw [if_pos word, if_pos word]
    dsimp only
    rw [relocateFrom_window serves s (by omega), ok_bind, capacity_window]
    dsimp only
    cases alloc.allocate (b.grownCapacity n) with
    | error e => rfl
    | ok fresh =>
      dsimp only [Except.map]
      rw [len_window, ok_bind]
      rfl
  · -- no allocator grants what no word counts, so the buffer is refused as well
    rw [if_neg word, if_neg word, Allocator.allocate_of_maxSize_lt (Nat.lt_of_not_le word)]
    rfl

/-- A supplier is asked for the larger region, once, if the unread bytes and the new ones do not fit
into the old one and a word counts its size. -/
theorem WellFormed.makeRoomFrom_window (h : b.WellFormed o) {σ : Type} {supplier : Supplier σ}
    (serves : supplier.Serves alloc) (s : σ) (n : Nat) :
    b.window.makeRoomFrom supplier s n = .ok ((b.makeRoom alloc n).window,
      if b.capacity < b.len + n ∧ b.grownCapacity n ≤ maxSize then
        (supplier s (b.grownCapacity n)).2
      else s) := by
  have hcap : b.capacity = b.leading + b.len + b.trailing := rfl
  have space : Word.add b.trailing b.window.leading = .ok (b.trailing + b.leading) :=
    h.add_window (show b.trailing + b.leading ≤ b.capacity by omega)
  rw [Window.makeRoomFrom, trailing_window, ok_bind, space, ok_bind, compact_window, ok_bind,
    growFrom_window serves, makeRoom]
  by_cases tail : n ≤ b.trailing
  · rw [if_pos tail, if_pos tail, if_neg (by omega)]
    rfl
  · by_cases front : n ≤ b.trailing + b.leading
    · rw [if_neg tail, if_neg tail, if_pos front, if_pos front, if_neg (by omega)]
      rfl
    · have short : b.capacity < b.len + n := by omega
      rw [if_neg tail, if_neg tail, if_neg front, if_neg front]
      simp only [short, true_and]
      cases alloc.allocate (b.grownCapacity n) <;> rfl

theorem WellFormed.makeRoom_window (h : b.WellFormed o) (alloc : Allocator) (n : Nat) :
    b.window.makeRoom alloc n = .ok (b.makeRoom alloc n).window := by
  rw [Window.makeRoom, h.makeRoomFrom_window alloc.serves_supplier]
  rfl

theorem shrink_window (alloc : Allocator) (b : Buffer) (n : Nat) :
    b.window.shrink alloc n = .ok (b.shrink alloc n).window := by
  rw [Window.shrink, len_window, ok_bind, capacity_window,
    relocate_window (Nat.le_max_right n b.len), ok_bind, shrink]
  split
  · rfl
  · cases alloc.allocate (max n b.len) <;> rfl

/-! ## Producing -/

theorem WellFormed.makeRoom (h : b.WellFormed o) (alloc : Allocator) (n : Nat) :
    (b.makeRoom alloc n).after.WellFormed o :=
  (b.makesRoom alloc n).changes.preserves WellFormed.change h

/-- Whatever a producer writes into the spare slice, the window does not trap. -/
theorem writeSpare_window (b : Buffer) (start : Nat) (data : ByteArray) :
    b.window.writeSpare start data =
      .ok ⟨b.spareRoom start data.size, (b.writeSpare start data).window, []⟩ := by
  have hcap : b.capacity = b.writeAt + b.trailing := rfl
  have whole : (b.writeSpare 0 (b.free.overwrite start data)) = b.writeSpare start data := by
    rw [writeSpare, ByteArray.overwrite_zero_of_size_eq (ByteArray.size_overwrite ..)]
    rfl
  have size : (b.free.overwrite start data).size = b.capacity - b.writeAt := by
    rw [ByteArray.size_overwrite, hcap, Nat.add_sub_cancel_left]
    rfl
  have paste : Slice.paste b.window.region b.window.writeAt b.capacity
      (b.free.overwrite start data) = .ok (b.writeSpare start data).region := by
    rw [← whole, region_writeSpare]
    exact Slice.paste_of_le (hcap ▸ Nat.le_add_right ..) (Nat.le_of_eq b.size_region.symm) size
  rw [Window.writeSpare, spare_window, ok_bind, capacity_window, paste, ok_bind]
  rfl

theorem accept_window (b : Buffer) (n : Nat) (within : n ≤ b.trailing) :
    { b.window with writeAt := b.writeAt + n } = (b.accept n).window := by
  exact Window.ext (b.region_accept n).symm rfl (b.writeAt_accept n within).symm rfl

theorem WellFormed.commit_window {n : Nat} (h : b.WellFormed o) (within : n ≤ b.trailing) :
    b.window.commit n = .ok (b.accept n).window := by
  have hcap : b.capacity = b.writeAt + b.trailing := rfl
  have add : Word.add b.window.writeAt n = .ok (b.writeAt + n) :=
    h.add_window (show b.writeAt + n ≤ b.capacity by omega)
  rw [Window.commit, trailing_window, ok_bind, if_neg (Nat.not_lt.2 within), add, ok_bind,
    ← b.accept_window n within]
  rfl

theorem commit_window_of_lt {n : Nat} (past : b.trailing < n) :
    b.window.commit n = .error (.overrun ⟨n, b.trailing⟩) := by
  rw [Window.commit, trailing_window, ok_bind, if_pos past]
  rfl

theorem WellFormed.append_window (h : b.WellFormed o) (alloc : Allocator) (data : ByteArray) :
    b.window.append alloc data = .ok (b.append alloc data).window := by
  rw [Window.append, append]
  split
  · rfl
  · rw [h.makeRoom_window, ok_bind]
    have wf := h.makeRoom alloc data.size
    have made := b.makesRoom alloc data.size
    generalize b.makeRoom alloc data.size = room at wf made
    obtain ⟨answer, c, events⟩ := room
    cases answer with
    | error e => rfl
    | ok r =>
      have within : data.size ≤ c.trailing := made.le_trailing rfl
      have hcap : c.capacity = c.writeAt + c.trailing := rfl
      have add : Word.add c.window.writeAt data.size = .ok (c.writeAt + data.size) :=
        WellFormed.add_window wf (show c.writeAt + data.size ≤ c.capacity by omega)
      have paste : Slice.paste c.window.region c.window.writeAt (c.writeAt + data.size) data =
          .ok (c.writeSpare 0 data).region := by
        rw [region_writeSpare]
        refine Slice.paste_of_le (Nat.le_add_right ..) ?_ (Nat.add_sub_cancel_left ..).symm
        show c.writeAt + data.size ≤ c.region.size
        rw [size_region]
        omega
      have after := (c.writeSpare 0 data).accept_window data.size
        (by rwa [trailing_writeSpare])
      dsimp only [Outcome.window]
      rw [add, ok_bind, paste, ok_bind, ← accept_writeSpare c within, ← after]
      rfl

theorem WellFormed.write_window (h : b.WellFormed o) (alloc : Allocator) (data : ByteArray) :
    b.window.write alloc data = .ok (b.write alloc data).window := by
  rw [Window.write, h.append_window, ok_bind]
  rfl

theorem WellFormed.writeAll_window (h : b.WellFormed o) (alloc : Allocator) (data : ByteArray) :
    b.window.writeAll alloc data = .ok (b.writeAll alloc data).window := by
  rw [Window.writeAll, writeAll]
  split
  · rfl
  · have rest : Slice.cut data data.size data.size = _ :=
      Slice.cut_of_le (Nat.le_refl _) (Nat.le_refl _)
    rw [h.write_window, ok_bind, write]
    obtain ⟨answer, c, events⟩ := b.append alloc data
    cases answer with
    | error e => rfl
    | ok r =>
      dsimp only [Outcome.window, Outcome.map]
      rw [rest, ok_bind]
      rfl

/-! ## Transfers -/

theorem WellFormed.read_window (h : b.WellFormed o) (target : ByteArray) :
    b.window.read target = .ok (b.readInto target).window := by
  have hlen : b.unread.size = b.len := rfl
  have size : (b.unread.take target.size).size = min target.size b.len := ByteArray.size_take ..
  have cut : Slice.cut b.unread 0 (min target.size b.len) = .ok (b.unread.take target.size) :=
    Slice.cut_of_le (Nat.zero_le _) (by omega)
  have paste : Slice.paste target 0 (min target.size b.len) (b.unread.take target.size) =
      .ok (target.overwrite 0 (b.unread.take target.size)) :=
    Slice.paste_of_le (Nat.zero_le _) (Nat.min_le_left ..) size
  rw [Window.read, len_window, ok_bind, peek_window, ok_bind, cut, ok_bind, paste, ok_bind,
    h.consume_window, ok_bind, readInto, read, Outcome.map, size]
  rfl

/-- Whatever a source writes and reports, the window does not trap. -/
theorem WellFormed.fill_window {σ : Type} (h : b.WellFormed o) (alloc : Allocator)
    (source : Source σ) (s : σ) :
    b.window.fill alloc source s =
      .ok ((b.fill alloc source s).1.window, (b.fill alloc source s).2) := by
  have made : b.window.makeRoom alloc b.window.options.fillRoom =
      .ok (b.makeRoom alloc b.options.fillRoom).window := h.makeRoom_window alloc _
  have wf := h.makeRoom alloc b.options.fillRoom
  rw [Window.fill, fill, made, ok_bind]
  clear made
  generalize b.makeRoom alloc b.options.fillRoom = room at wf
  obtain ⟨answer, c, events⟩ := room
  cases answer with
  | error e => rfl
  | ok r =>
    dsimp only [Outcome.window]
    rw [trailing_window, ok_bind, spare_window, ok_bind, writeSpare_window, ok_bind]
    dsimp only
    have change : Change alloc c (c.writeSpare 0 (source s c.free).1.slice) [] := .written _ _
    have wf' := WellFormed.change change wf
    cases (source s c.free).1.answer with
    | error e => rfl
    | ok n =>
      dsimp only
      rw [trailing_writeSpare]
      split
      · rfl
      · next within =>
        -- what the source reports was compared with the space it was offered
        rw [wf'.commit_window (by rw [trailing_writeSpare]; exact Nat.not_lt.1 within), ok_bind]
        rfl

/-- Whatever a sink reports, the window does not trap. -/
theorem WellFormed.drain_window {τ : Type} (h : b.WellFormed o) (sink : Sink τ) (t : τ) :
    b.window.drain sink t = .ok ((b.drain sink t).1.window, (b.drain sink t).2) := by
  rw [Window.drain, drain, isEmpty_window]
  split
  · rfl
  · rw [peek_window, ok_bind]
    dsimp only
    cases (sink t b.unread).1 with
    | error e => rfl
    | ok n =>
      dsimp only
      rw [h.consume_window, ok_bind]
      rfl

/-! ## Calls -/

theorem create_window (alloc : Allocator) (o : Options) :
    Window.create alloc o = (create alloc o).map window := by
  rw [Window.create, create]
  cases granted : alloc.allocate o.initialCapacity.toNat with
  | error e => rfl
  | ok region =>
    obtain ⟨-, rfl⟩ := Allocator.allocate_eq_ok_iff.1 granted
    refine congrArg Except.ok (Window.ext ?_ rfl rfl rfl)
    apply ByteArray.eq_of_toList_data_eq
    simp [window, Buffer.region, resized]

theorem WellFormed.perform_window (h : b.WellFormed o) (alloc : Allocator) {op : Operation}
    (within : ∀ n, op = .commit n → n ≤ b.trailing) :
    b.window.perform alloc op = .ok (op.perform alloc b).window := by
  cases op with
  | append data => rw [Window.perform, h.append_window]; rfl
  | makeRoom n => rw [Window.perform, h.makeRoom_window]; rfl
  | writeSpare start data => rw [Window.perform, writeSpare_window]; rfl
  | commit n =>
    rw [Window.perform, h.commit_window (within n rfl), Operation.perform, commit,
      if_pos (within n rfl)]
    rfl
  | consume n => rw [Window.perform, h.consume_window]; rfl
  | clear => rw [Window.perform, clear_window]; rfl
  | shrink n => rw [Window.perform, shrink_window]; rfl
  | write data => rw [Window.perform, h.write_window]; rfl
  | writeAll data => rw [Window.perform, h.writeAll_window]; rfl
  | read target => rw [Window.perform, h.read_window]; rfl
  | fill source => rw [Window.perform, h.fill_window]; rfl
  | drain sink => rw [Window.perform, h.drain_window]; rfl

theorem perform_window_of_lt {n : Nat} (alloc : Allocator) (past : b.trailing < n) :
    b.window.perform alloc (.commit n) = .error (.overrun ⟨n, b.trailing⟩) := by
  rw [Window.perform, commit_window_of_lt past]
  rfl

theorem WellFormed.call_window (h : b.WellFormed o) (alloc : Allocator) (op : Operation) :
    b.window.call alloc op = .ok (op.perform alloc b).window := by
  cases op with
  | commit n =>
    rw [Window.call]
    rcases Nat.lt_or_ge b.trailing n with past | within
    · rw [perform_window_of_lt alloc past, Operation.perform, commit, if_neg (Nat.not_le.2 past)]
      rfl
    · rw [h.perform_window alloc fun m eq => by cases eq; exact within]
  | _ =>
    unfold Window.call
    exact h.perform_window alloc fun n eq => by cases eq

end Buffer

theorem Reachable.run_window {o : Options} {b : Buffer} (h : Reachable o b)
    (calls : List (Allocator × Operation)) :
    b.window.run calls = .ok (Operation.run b calls).window := by
  induction calls generalizing b with
  | nil => rfl
  | cons c rest ih =>
    -- the next call is made on a reachable buffer again, also after a trap that was caught
    obtain ⟨alloc, op⟩ := c
    have others : (op.perform alloc b).window.after.run rest = _ := ih (h.performed alloc op)
    rw [Window.run, h.wellFormed.call_window, ok_bind, others, ok_bind]
    rfl

/-- A run of a fresh window does not trap, and it leads to the window of a reachable buffer. -/
theorem run_of_create {alloc : Allocator} {o : Options} {w : Window}
    (created : Window.create alloc o = .ok w) (calls : List (Allocator × Operation)) :
    ∃ out : Outcome (List Answer), w.run calls = .ok out.window ∧ Reachable o out.after := by
  rw [create_window] at created
  cases fresh : Buffer.create alloc o with
  | error e =>
    rw [fresh] at created
    cases created
  | ok b =>
    rw [fresh] at created
    cases created
    have reachable := Reachable.created fresh
    exact ⟨_, reachable.run_window calls, reachable.run calls⟩

/-- On the window of a reachable buffer nothing traps but a commit of more than there is room for,
whatever the arguments and whatever a source or a sink reports; and what does not trap does what it
does on the buffer. So no run of a fresh window traps if the traps of such commits are caught, and
it leads to the window of a reachable buffer again. -/
theorem traps_only_on_overrun {o : Options} {b : Buffer} (h : Reachable o b) :
    (b.window.len = .ok b.len ∧ b.window.trailing = .ok b.trailing ∧
      b.window.peek = .ok b.unread ∧ b.window.spare = .ok b.free) ∧
    (∀ alloc op, (∀ n, op = .commit n → n ≤ b.trailing) →
      b.window.perform alloc op = .ok (op.perform alloc b).window) ∧
    (∀ alloc n, b.trailing < n →
      b.window.perform alloc (.commit n) = .error (.overrun ⟨n, b.trailing⟩)) ∧
    (∀ {σ : Type} (alloc : Allocator) (source : Source σ) (s : σ), b.window.fill alloc source s =
      .ok ((b.fill alloc source s).1.window, (b.fill alloc source s).2)) ∧
    (∀ {τ : Type} (sink : Sink τ) (t : τ), b.window.drain sink t =
      .ok ((b.drain sink t).1.window, (b.drain sink t).2)) ∧
    (∀ calls, b.window.run calls = .ok (Operation.run b calls).window) ∧
    ∀ {alloc w}, Window.create alloc o = .ok w → ∀ calls, ∃ out : Outcome (List Answer),
      w.run calls = .ok out.window ∧ Reachable o out.after := by
  have wf := h.wellFormed
  exact ⟨⟨b.len_window, b.trailing_window, b.peek_window, b.spare_window⟩,
    fun alloc _ within => wf.perform_window alloc within,
    fun alloc _ past => perform_window_of_lt alloc past,
    wf.fill_window, wf.drain_window, h.run_window, run_of_create⟩

/-- A source that is offered two bytes and claims three is refused without a trap; a commit of three
traps. -/
theorem traps_only_on_overrun_of_two :
    Reachable { initialCapacity := 2, readSize := 1 }
      ⟨.empty, .empty, ⟨#[0, 0]⟩, { initialCapacity := 2, readSize := 1 }⟩ ∧
    (Buffer.mk .empty .empty ⟨#[0, 0]⟩ { initialCapacity := 2, readSize := 1 }).window.perform
      (.upTo 2) (.fill fun slice => ⟨slice, .ok 3⟩) =
        .ok ⟨.count (.error (.overreport 3 2)),
          ⟨⟨#[0, 0]⟩, 0, 0, { initialCapacity := 2, readSize := 1 }⟩, []⟩ ∧
    (Buffer.mk .empty .empty ⟨#[0, 0]⟩ { initialCapacity := 2, readSize := 1 }).window.perform
      (.upTo 2) (.commit 3) = .error (.overrun ⟨3, 2⟩) := by
  have fresh : Reachable { initialCapacity := 2, readSize := 1 }
      ⟨.empty, .empty, ⟨#[0, 0]⟩, { initialCapacity := 2, readSize := 1 }⟩ :=
    .created (show Buffer.create (.upTo 2) _ = _ from rfl)
  obtain ⟨-, performs, overruns, -⟩ := traps_only_on_overrun fresh
  exact ⟨fresh, performs _ _ (fun n commit => (nomatch commit)), overruns _ 3 (by decide)⟩

end Spool
