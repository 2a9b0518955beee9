import Spool.Proofs.Log

/-!
# The cheapest way to make room

Room is made in place if there is enough of it, else by moving the unread bytes to the front of the
region if that wins enough, else in a larger region. `Moved` and `Enlarged` say what the last two
leave behind, byte for byte. The window of a buffer, watched, shows which sizes are asked for: the
larger region, once, exactly if the unread bytes and the new ones do not fit into the old one
together, wherever they lie in it, and a machine word counts the size of the larger one.
-/

namespace Spool

namespace Buffer

/-! ## What the tiers leave behind -/

/-- `c` is `b` with its unread bytes moved to the front of the region. All bytes behind them are
those that were there. -/
structure Moved (b c : Buffer) : Prop where
  unread : c.unread = b.unread
  leading : c.leading = 0
  capacity : c.capacity = b.capacity
  behind : c.region.drop b.len = b.region.drop b.len
  options : c.options = b.options

/-- `c` holds the unread bytes of `b` in front of zeros, in a region of `size` bytes. -/
structure Enlarged (b : Buffer) (size : Nat) (c : Buffer) : Prop where
  unread : c.unread = b.unread
  leading : c.leading = 0
  capacity : c.capacity = size
  region : c.region = b.unread ++ .replicate (size - b.len) 0
  options : c.options = b.options

theorem moved_compact (b : Buffer) : b.Moved b.compact where
  unread := rfl
  leading := rfl
  capacity := b.capacity_compact
  behind := by
    have fits : b.unread.size ≤ b.region.size := by
      rw [size_region]
      exact b.len_le_capacity
    rw [region_compact]
    exact ByteArray.drop_overwrite_zero fits
  options := rfl

theorem enlarged_moveInto {b : Buffer} {size : Nat} (fits : b.len ≤ size) :
    b.Enlarged size (b.moveInto (.replicate size 0)) where
  unread := rfl
  leading := rfl
  capacity := b.capacity_moveInto_replicate fits
  region := by rw [region_moveInto b fits, resized, ByteArray.take_of_size_le fits]; rfl
  options := rfl

end Buffer

/-! ## Choosing -/

/-- A reachable buffer makes room for `n` bytes in the cheapest way that works and answers what it
did: in place, where nothing changes; by moving the unread bytes, of which there are some then; in a
region of exactly the size that the growth rule gives, if that is granted, and not at all if it is
refused or no word counts it. There is room afterwards. A window, which has to compute this in
machine words, does the same, and asks for the larger region if and only if the unread bytes and `n`
more are too many for the old one and a word counts its size. -/
theorem makeRoom_takes_cheapest {o : Options} {b : Buffer} (h : Reachable o b) (alloc : Allocator)
    (n : Nat) :
    (n ≤ b.trailing → b.makeRoom alloc n = ⟨.ok .inPlace, b, []⟩) ∧
    (b.trailing < n → n ≤ b.trailing + b.leading → 1 ≤ b.len ∧ ∃ c, b.Moved c ∧
      b.makeRoom alloc n = ⟨.ok (.compacted b.len), c, [.compacted b.len b.capacity]⟩) ∧
    (b.trailing + b.leading < n →
      (alloc.grants (b.capacity * b.options.growth.multiplier + n) = true →
        ∃ c, b.Enlarged (b.capacity * b.options.growth.multiplier + n) c ∧
          b.makeRoom alloc n =
            ⟨.ok (.grown b.capacity (b.capacity * b.options.growth.multiplier + n)), c,
              [.grew b.capacity (b.capacity * b.options.growth.multiplier + n) b.len]⟩) ∧
      (alloc.grants (b.capacity * b.options.growth.multiplier + n) = false →
        b.makeRoom alloc n =
          ⟨.error (.refused (b.capacity * b.options.growth.multiplier + n)), b, []⟩) ∧
      (maxSize < b.capacity * b.options.growth.multiplier + n →
        b.makeRoom alloc n = ⟨.error ⟨maxSize⟩, b, []⟩)) ∧
    (∀ r, (b.makeRoom alloc n).answer = .ok r → n ≤ (b.makeRoom alloc n).after.trailing) ∧
    b.window.makeRoom alloc n = .ok (b.makeRoom alloc n).window ∧
    b.window.makeRoomFrom alloc.watched [] n = .ok ((b.makeRoom alloc n).window,
      if b.capacity < b.len + n ∧ b.capacity * b.options.growth.multiplier + n ≤ maxSize then
        [b.capacity * b.options.growth.multiplier + n]
      else []) := by
  have hcap : b.capacity = b.leading + b.len + b.trailing := rfl
  have wf := h.wellFormed
  refine ⟨Buffer.makeRoom_of_le, ?_, ?_, ?_, wf.makeRoom_window alloc n,
    wf.makeRoomFrom_window alloc.serves_watched [] n⟩
  · intro short fits
    have compacts : b.MakesRoom alloc n _ := .compacted short (by omega)
    exact ⟨wf.len_pos_of_compacts short (by omega), b.compact, b.moved_compact,
      compacts.eq_makeRoom.symm⟩
  · intro short
    refine ⟨?_, ?_, ?_⟩
    · intro granted
      have grows : b.MakesRoom alloc n _ := .grown (by omega) granted
      have larger := b.len_add_le_grownCapacity n
      have fits : b.len ≤ b.grownCapacity n := by omega
      exact ⟨_, Buffer.enlarged_moveInto fits, grows.eq_makeRoom.symm⟩
    · intro refused
      have refuses : b.Refuses alloc n (.refused (b.grownCapacity n)) :=
        ⟨by omega, Allocator.allocate_of_refuses refused⟩
      exact refuses.makeRoom_eq
    · intro uncounted
      have refuses : b.Refuses alloc n ⟨maxSize⟩ :=
        ⟨by omega, Allocator.allocate_of_maxSize_lt uncounted⟩
      exact refuses.makeRoom_eq
  · intro r ok
    exact (b.makesRoom alloc n).le_trailing ok

/-- Four bytes are free at the tail and three were consumed: room for six is made by moving the two
that are unread, room for eight in a region of `9 * 3 + 8` bytes. -/
theorem makeRoom_takes_cheapest_of_nine :
    Reachable { initialCapacity := 9, growth := .factor 3 }
      ⟨⟨#[1, 2, 3]⟩, ⟨#[4, 5]⟩, ⟨#[0, 0, 0, 0]⟩, { initialCapacity := 9, growth := .factor 3 }⟩ ∧
    ((Buffer.mk ⟨#[1, 2, 3]⟩ ⟨#[4, 5]⟩ ⟨#[0, 0, 0, 0]⟩
      { initialCapacity := 9, growth := .factor 3 }).makeRoom (.upTo 35) 6).answer =
        .ok (.compacted 2) ∧
    ((Buffer.mk ⟨#[1, 2, 3]⟩ ⟨#[4, 5]⟩ ⟨#[0, 0, 0, 0]⟩
      { initialCapacity := 9, growth := .factor 3 }).makeRoom (.upTo 35) 8).answer =
        .ok (.grown 9 35) := by
  have fresh : Reachable { initialCapacity := 9, growth := .factor 3 }
      ⟨.empty, .empty, ⟨#[0, 0, 0, 0, 0, 0, 0, 0, 0]⟩,
        { initialCapacity := 9, growth := .factor 3 }⟩ :=
    .created (show Buffer.create (.upTo 9) _ = _ from rfl)
  have read := fresh.run [(.upTo 9, .append ⟨#[1, 2, 3, 4, 5]⟩), (.upTo 9, .consume 3)]
  obtain ⟨-, moved, -⟩ := makeRoom_takes_cheapest read (.upTo 35) 6
  obtain ⟨-, c, -, moves⟩ := moved (by decide) (by decide)
  obtain ⟨-, -, larger, -⟩ := makeRoom_takes_cheapest read (.upTo 35) 8
  obtain ⟨d, -, grows⟩ := (larger (by decide)).1 rfl
  exact ⟨read, congrArg Outcome.answer moves, congrArg Outcome.answer grows⟩

/-- A fresh region of four bytes is too small for `2 ^ 64 - 1` more, but no word counts the size of
the larger one, and so nobody is asked for it. -/
theorem larger_region_not_asked_for : ∃ b, Reachable { initialCapacity := 4 } b ∧
    Buffer.create (.upTo 4) { initialCapacity := 4 } = .ok b ∧ b.capacity < b.len + maxSize ∧
    ∀ alloc : Allocator, b.window.makeRoomFrom alloc.watched [] maxSize =
      .ok (⟨.error ⟨maxSize⟩, b.window, []⟩, []) := by
  have created : Buffer.create (.upTo 4) { initialCapacity := 4 } =
      .ok ⟨.empty, .empty, ⟨#[0, 0, 0, 0]⟩, { initialCapacity := 4 }⟩ := rfl
  have fresh : Reachable { initialCapacity := 4 } _ := .created created
  exact ⟨_, fresh, created, by decide, fun alloc => rfl⟩

end Spool
