/-!
# Byte strings

What the buffer needs of `ByteArray` beyond the core library: runs of one byte, the two parts of
a cut, overwriting a stretch in place, and splitting into pieces. Positions clamp: `take` and
`drop` cut at the end when the position lies past it, and `overwrite` never changes the size.
-/

namespace ByteArray

-- The core library's, ahead of those that other libraries bring.
instance decidableEq : DecidableEq ByteArray := instDecidableEq

/-- `n` copies of one byte. -/
def replicate (n : Nat) (x : UInt8) : ByteArray := ⟨Array.replicate n x⟩

/-- The first `n` bytes, or all of them. -/
def take (b : ByteArray) (n : Nat) : ByteArray := b.extract 0 (min n b.size)

/-- All but the first `n` bytes. -/
def drop (b : ByteArray) (n : Nat) : ByteArray := b.extract (min n b.size) b.size

/-- `b` with as much of `data` as fits written over it from `start` on. -/
def overwrite (b : ByteArray) (start : Nat) (data : ByteArray) : ByteArray :=
  b.take start ++ data.take (b.size - start) ++ b.drop (start + data.size)

@[simp] theorem size_replicate (n : Nat) (x : UInt8) : (replicate n x).size = n := by
  simp [replicate, size]

@[simp] theorem size_take (b : ByteArray) (n : Nat) : (b.take n).size = min n b.size := by
  simp [take]

theorem size_take_of_le {b : ByteArray} {n : Nat} (h : n ≤ b.size) : (b.take n).size = n := by
  rw [size_take, Nat.min_eq_left h]

@[simp] theorem size_drop (b : ByteArray) (n : Nat) : (b.drop n).size = b.size - n := by
  simp [drop]; omega

@[simp] theorem size_overwrite (b : ByteArray) (start : Nat) (data : ByteArray) :
    (b.overwrite start data).size = b.size := by
  simp [overwrite]; omega

theorem take_append_drop (b : ByteArray) (n : Nat) : b.take n ++ b.drop n = b := by
  simp only [take, drop, extract_append_extract]
  rw [Nat.zero_min, Nat.max_eq_right (by omega), extract_zero_size]

/-! ## As lists

`b.data.toList` is the view of a byte string, and determines it. -/

@[simp] theorem toList_data_replicate (n : Nat) (x : UInt8) :
    (replicate n x).data.toList = List.replicate n x := by
  simp [replicate]

@[simp] theorem toList_data_take (b : ByteArray) (n : Nat) :
    (b.take n).data.toList = b.data.toList.take n := by
  rw [take, data_extract, Array.toList_extract, List.extract_eq_take_drop, ← size_data]
  simp only [List.drop_zero, Nat.sub_zero, List.take_eq_take_iff, Array.length_toList]
  omega

@[simp] theorem toList_data_drop (b : ByteArray) (n : Nat) :
    (b.drop n).data.toList = b.data.toList.drop n := by
  rw [drop, data_extract, Array.toList_extract, List.extract_eq_take_drop, ← size_data,
    List.take_of_length_le (by simp), List.drop_eq_drop_iff, Array.length_toList]
  omega

theorem toList_data_overwrite (b : ByteArray) (start : Nat) (data : ByteArray) :
    (b.overwrite start data).data.toList =
      b.data.toList.take start ++ data.data.toList.take (b.size - start) ++
        b.data.toList.drop (start + data.size) := by
  simp [overwrite]

/-- The bytes of a byte string determine it. -/
theorem eq_of_toList_data_eq {a b : ByteArray} (h : a.data.toList = b.data.toList) : a = b :=
  ByteArray.ext (Array.toList_inj.1 h)

/-! ## Taking, dropping and overwriting -/

@[simp] theorem take_zero (b : ByteArray) : b.take 0 = empty := by simp [take]

@[simp] theorem drop_zero (b : ByteArray) : b.drop 0 = b := by simp [drop]

theorem take_of_size_le {b : ByteArray} {n : Nat} (h : b.size ≤ n) : b.take n = b := by
  rw [take, Nat.min_eq_right h, extract_zero_size]

/-- What was written reads back. -/
theorem take_overwrite_zero {b data : ByteArray} {n : Nat} (hn : n ≤ data.size)
    (h : data.size ≤ b.size) : (b.overwrite 0 data).take n = data.take n := by
  apply eq_of_toList_data_eq
  have h' : data.data.toList.length ≤ b.size := by simpa using h
  simp only [toList_data_take, toList_data_overwrite, List.take_zero, List.nil_append,
    Nat.sub_zero, List.take_of_length_le h']
  rw [List.take_append_of_le_length (by simpa using hn)]

theorem overwrite_zero_of_size_eq {b data : ByteArray} (h : data.size = b.size) :
    b.overwrite 0 data = data := by
  apply eq_of_toList_data_eq
  have hd : data.data.toList.length = b.size := by simpa using h
  have hb : b.data.toList.length ≤ data.size := by simp [h]
  simp only [toList_data_overwrite, List.take_zero, List.nil_append, Nat.sub_zero, Nat.zero_add,
    List.drop_of_length_le hb, List.append_nil, List.take_of_length_le (Nat.le_of_eq hd)]

/-- What lies behind the bytes written stays. -/
theorem drop_overwrite_zero {b data : ByteArray} (h : data.size ≤ b.size) :
    (b.overwrite 0 data).drop data.size = b.drop data.size := by
  apply eq_of_toList_data_eq
  have h' : data.data.toList.length ≤ b.size := by simpa using h
  simp only [toList_data_drop, toList_data_overwrite, List.take_zero, List.nil_append,
    Nat.zero_add, Nat.sub_zero, List.take_of_length_le h']
  rw [List.drop_left' (by simp)]

/-- Overwriting from the end of a first part on changes the second part only. -/
theorem overwrite_append (a b data : ByteArray) :
    (a ++ b).overwrite a.size data = a ++ b.overwrite 0 data := by
  apply eq_of_toList_data_eq
  have ha : a.data.toList.length = a.size := by simp
  simp only [toList_data_overwrite, data_append, Array.toList_append, size_append,
    Nat.add_sub_cancel_left, List.take_zero, List.nil_append, Nat.sub_zero, Nat.zero_add]
  rw [List.take_left' ha, ← ha, List.drop_append, List.append_assoc]
  simp

/-! ## Pieces -/

/-- The bytes from position `i` on, cut into stretches of `size` bytes (of one byte for size 0); the
last may be shorter. -/
def piecesFrom (size : Nat) (b : ByteArray) (i : Nat) : List ByteArray :=
  if i < b.size then
    b.extract i (min (i + max size 1) b.size) :: piecesFrom size b (i + max size 1)
  else []
termination_by b.size - i
decreasing_by omega

/-- `b` cut into stretches of `size` bytes. -/
def pieces (size : Nat) (b : ByteArray) : List ByteArray := piecesFrom size b 0

end ByteArray
