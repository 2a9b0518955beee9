import Spool.Buffer.Basic

/-!
# What the operations do to the unread bytes

`unread` is the meaning of a buffer. One equation per operation says what it does to that view and
to the measures; making room, shrinking and writing to the free space leave the view alone.
-/

namespace Spool.Buffer

variable (b : Buffer) (n : Nat)

@[simp] theorem size_region : b.region.size = b.capacity := by
  simp [region, capacity, leading, len, trailing]

/-! ## Consuming -/

@[simp] theorem unread_clear : b.clear.unread = .empty := rfl

@[simp] theorem len_clear : b.clear.len = 0 := rfl

@[simp] theorem leading_clear : b.clear.leading = 0 := rfl

@[simp] theorem capacity_clear : b.clear.capacity = b.capacity := by
  simp [clear, capacity, leading, len, trailing, region]

@[simp] theorem consume_zero : b.consume 0 = b := by simp [consume]

theorem consume_of_le (hn : n ≠ 0) (h : b.len ≤ n) : b.consume n = b.clear := by
  simp [consume, hn, h]

@[simp] theorem unread_consume : (b.consume n).unread = b.unread.drop n := by
  unfold consume
  split
  · subst n; simp [ByteArray.drop]
  · split
    · next h =>
      have : (b.unread.drop n).size = 0 := by simp [len] at h ⊢; omega
      simp [ByteArray.size_eq_zero_iff.1 this]
    · rfl

@[simp] theorem len_consume : (b.consume n).len = b.len - n := by simp [len]

theorem len_consume_lt (hn : 0 < n) (hb : 0 < b.len) : (b.consume n).len < b.len := by
  simp; omega

@[simp] theorem capacity_consume : (b.consume n).capacity = b.capacity := by
  unfold consume
  split
  · rfl
  · split
    · simp
    · simp_all [capacity, leading, len, trailing]; omega

@[simp] theorem options_consume : (b.consume n).options = b.options := by
  unfold consume
  split
  · rfl
  · split <;> rfl

/-! ## Making room -/

@[simp] theorem unread_compact : b.compact.unread = b.unread := rfl

@[simp] theorem capacity_compact : b.compact.capacity = b.capacity := by
  simp [compact, capacity, leading, len, trailing, region]; omega

theorem region_compact : b.compact.region = b.region.overwrite 0 b.unread := by
  have fits : b.unread.size ≤ b.region.size := by
    rw [size_region]
    exact Nat.le_trans (Nat.le_add_left ..) (Nat.le_add_right ..)
  rw [region, compact, ByteArray.empty_append, ByteArray.overwrite, ByteArray.take_zero,
    ByteArray.empty_append, Nat.sub_zero, ByteArray.take_of_size_le fits, Nat.zero_add]
  rfl

@[simp] theorem unread_moveInto (fresh : ByteArray) : (b.moveInto fresh).unread = b.unread := rfl

theorem capacity_moveInto {fresh : ByteArray} (h : b.len ≤ fresh.size) :
    (b.moveInto fresh).capacity = fresh.size := by
  simp_all [moveInto, capacity, leading, len, trailing]

theorem capacity_moveInto_replicate {size : Nat} {x : UInt8} (h : b.len ≤ size) :
    (b.moveInto (.replicate size x)).capacity = size := by
  rw [capacity_moveInto b (by rw [ByteArray.size_replicate]; exact h), ByteArray.size_replicate]

@[simp] theorem leading_compact : b.compact.leading = 0 := rfl

@[simp] theorem trailing_compact : b.compact.trailing = b.leading + b.trailing := by
  simp [compact, leading, len, trailing, region]; omega

@[simp] theorem leading_moveInto (fresh : ByteArray) : (b.moveInto fresh).leading = 0 := rfl

@[simp] theorem trailing_moveInto (fresh : ByteArray) :
    (b.moveInto fresh).trailing = fresh.size - b.len := by
  simp [moveInto, trailing]

/-- A larger region holds the unread bytes and `n` more. -/
theorem len_add_le_grownCapacity : b.capacity + b.capacity + n ≤ b.grownCapacity n := by
  have := Nat.mul_le_mul_left b.capacity b.options.growth.two_le_multiplier
  simp only [grownCapacity, Growth.enlarge]; omega

/-! ## Producing -/

@[simp] theorem unread_writeSpare (start : Nat) (data : ByteArray) :
    (b.writeSpare start data).unread = b.unread := rfl

@[simp] theorem leading_writeSpare (start : Nat) (data : ByteArray) :
    (b.writeSpare start data).leading = b.leading := rfl

@[simp] theorem trailing_writeSpare (start : Nat) (data : ByteArray) :
    (b.writeSpare start data).trailing = b.trailing := by
  simp [writeSpare, trailing]

@[simp] theorem capacity_writeSpare (start : Nat) (data : ByteArray) :
    (b.writeSpare start data).capacity = b.capacity := by
  simp [capacity, len]

theorem region_writeSpare (data : ByteArray) :
    (b.writeSpare 0 data).region = b.region.overwrite b.writeAt data := by
  have front : (b.spent ++ b.unread).size = b.writeAt := ByteArray.size_append
  rw [region, region, ← front, ByteArray.overwrite_append]
  rfl

@[simp] theorem unread_accept : (b.accept n).unread = b.unread ++ b.free.take n := rfl

@[simp] theorem leading_accept : (b.accept n).leading = b.leading := rfl

@[simp] theorem capacity_accept : (b.accept n).capacity = b.capacity := by
  simp [accept, capacity, leading, len, trailing]; omega

theorem writeAt_accept (within : n ≤ b.trailing) : (b.accept n).writeAt = b.writeAt + n := by
  rw [writeAt, len, unread_accept, ByteArray.size_append, ByteArray.size_take_of_le within,
    ← Nat.add_assoc]
  rfl

theorem region_accept : (b.accept n).region = b.region := by
  rw [region, region, accept, ← ByteArray.append_assoc (a := b.spent),
    ByteArray.append_assoc (c := b.free.drop n), ByteArray.take_append_drop]

@[simp] theorem accept_zero : b.accept 0 = b := by simp [accept]

/-- Writing `data` to the front of the free space and accepting it puts it behind the unread
bytes. -/
theorem accept_writeSpare {data : ByteArray} (h : data.size ≤ b.trailing) :
    (b.writeSpare 0 data).accept data.size =
      { b with unread := b.unread ++ data, free := b.free.drop data.size } := by
  simp only [accept, writeSpare, ByteArray.take_overwrite_zero (Nat.le_refl _) h,
    ByteArray.drop_overwrite_zero h, ByteArray.take_of_size_le (Nat.le_refl _)]

end Spool.Buffer
