import Spool.Buffer.Lines
import Spool.Buffer.Read

/-!
# Reading is consuming

Consumptions add up (`consume_consume`), also across a rewind. So a reader that repeats looking at
the unread bytes and taking some off has, in the end, taken off some number of them in one go, and
has done nothing else to the buffer. Main statement: `Reading.took`.
-/

namespace ByteArray

theorem take_add (b : ByteArray) (m n : Nat) : b.take (m + n) = b.take m ++ (b.drop m).take n := by
  apply eq_of_toList_data_eq
  simp [List.take_add]

theorem drop_drop (b : ByteArray) (m n : Nat) : (b.drop m).drop n = b.drop (m + n) := by
  apply eq_of_toList_data_eq
  simp

end ByteArray

namespace Spool

namespace Buffer

variable (b : Buffer) {m n : Nat}

@[simp] theorem region_clear : b.clear.region = b.region := by
  simp [clear, region]

theorem consume_of_lt (h : n < b.len) :
    b.consume n = { b with spent := b.spent ++ b.unread.take n, unread := b.unread.drop n } := by
  unfold consume
  split
  · next zero => simp [zero]
  · rw [if_neg (by omega)]

@[simp] theorem region_consume (n : Nat) : (b.consume n).region = b.region := by
  by_cases zero : n = 0
  · rw [zero, consume_zero]
  · rcases Nat.lt_or_ge n b.len with lt | le
    · rw [consume_of_lt b lt, region, region, ByteArray.append_assoc (a := b.spent),
        ByteArray.take_append_drop]
    · rw [consume_of_le b n zero le, region_clear]

theorem clear_consume (n : Nat) : (b.consume n).clear = b.clear := by
  rw [clear, clear, region_consume, options_consume]

/-- Consuming twice is consuming once. -/
theorem consume_consume (m n : Nat) : (b.consume m).consume n = b.consume (m + n) := by
  by_cases zero : n = 0
  · rw [zero, consume_zero, Nat.add_zero]
  · rcases Nat.lt_or_ge (m + n) b.len with lt | le
    · have lt' : n < (b.consume m).len := by rw [len_consume]; omega
      rw [consume_of_lt _ lt', consume_of_lt b lt, consume_of_lt b (by omega), ByteArray.take_add,
        ByteArray.drop_drop, ByteArray.append_assoc]
    · have le' : (b.consume m).len ≤ n := by rw [len_consume]; omega
      rw [consume_of_le _ n zero le', clear_consume, consume_of_le b (m + n) (by omega) le]

/-! ## Readers -/

/-- All that a reader did to `b` was to take off `n` bytes. -/
def Took {α : Type} (b : Buffer) (n : Nat) (out : Outcome α) : Prop :=
  out.after = b.consume n ∧ out.events = []

variable {b : Buffer}

theorem Took.map {α β : Type} {f : α → β} {out : Outcome α} (h : b.Took n out) :
    b.Took n (out.map f) := h

/-- A step of a reading loop, and the rest of the loop. -/
theorem Took.after {α : Type} {out : Outcome α} (h : (b.consume m).Took n out) :
    b.Took (m + n) out :=
  ⟨h.1.trans (b.consume_consume m n), h.2⟩

theorem took_zero {α : Type} (b : Buffer) (a : α) : b.Took 0 ⟨a, b, []⟩ :=
  ⟨b.consume_zero.symm, rfl⟩

theorem took_readExact (b : Buffer) (want : Nat) :
    b.Took (min want b.len) (b.readExact want) := by
  unfold readExact
  fun_induction readExact.go b want .empty with
  | case1 b got =>
    rw [Nat.zero_min]
    exact b.took_zero _
  | case2 b want got _ empty =>
    rw [empty, Nat.min_zero]
    exact b.took_zero _
  | case3 b want got _ _ ih =>
    have whole : min want b.len + min (want - min want b.len) (b.len - min want b.len) =
        min want b.len := by omega
    rw [Buffer.read, len_consume] at ih
    exact Eq.subst (motive := fun n => b.Took n _) whole ih.after

theorem took_readWindows (b : Buffer) (window : Nat) (got : ByteArray) :
    b.Took b.len (b.readWindows window got) := by
  fun_induction readWindows window b got with
  | case1 b got empty =>
    rw [empty]
    exact b.took_zero _
  | case2 b got _ ih =>
    have whole : min (max window 1) b.len + (b.len - min (max window 1) b.len) = b.len := by omega
    rw [Buffer.read, len_consume] at ih
    exact Eq.subst (motive := fun n => b.Took n _) whole ih.after

/-- Reading up to a delimiter takes what is in front of it and itself, or everything. -/
theorem took_readUntil (b : Buffer) (delimiter : UInt8) :
    ∃ n ≤ b.len, b.Took n (b.readUntil delimiter) := by
  unfold readUntil
  fun_induction readUntil.go delimiter b .empty with
  | case1 b got i found => exact ⟨i + 1, findIdx?_lt found, rfl, rfl⟩
  | case2 b got none empty => exact ⟨0, Nat.zero_le _, b.took_zero _⟩
  | case3 b got none some ih =>
    obtain ⟨n, le, took⟩ := ih
    rw [len_consume, Nat.sub_self, Nat.le_zero] at le
    subst le
    exact ⟨b.len, Nat.le_refl _, took.after⟩

theorem took_takeLines (b : Buffer) (delimiter : UInt8) :
    ∃ n ≤ b.len, b.Took n (b.takeLines delimiter) := by
  fun_induction takeLines b delimiter with
  | case1 b none => exact ⟨0, Nat.zero_le _, b.took_zero _⟩
  | case2 b i found rest ih =>
    obtain ⟨n, le, took⟩ := ih
    have := findIdx?_lt found
    rw [len_consume] at le
    exact ⟨i + 1 + n, by omega, took.after⟩

theorem took_readScattered (b : Buffer) (targets : List ByteArray) :
    ∃ n ≤ b.len, b.Took n (b.readScattered targets) := by
  induction targets with
  | nil => exact ⟨0, Nat.zero_le _, b.took_zero _⟩
  | cons t ts ih =>
    obtain ⟨n, le, took⟩ := ih
    rw [readScattered]
    split
    · exact ⟨n, le, took.map⟩
    · exact ⟨min t.size b.len, Nat.min_le_right _ _, rfl, rfl⟩

end Buffer

/-- The ways of reading that repeat simpler ones. -/
inductive Reading where
  | exact (want : Nat)
  | toEnd
  | text
  | through (delimiter : UInt8)
  | skip (delimiter : UInt8)
  | line
  | lines (delimiter : UInt8)
  | scattered (targets : List ByteArray)

/-- Reads, without looking at what was read. -/
def Reading.perform (b : Buffer) : Reading → Outcome Unit
  | exact want => (b.readExact want).map fun _ => ()
  | toEnd => b.readToEnd.map fun _ => ()
  | text => b.readToString.map fun _ => ()
  | through delimiter => (b.readUntil delimiter).map fun _ => ()
  | skip delimiter => (b.skipUntil delimiter).map fun _ => ()
  | line => b.readLine.map fun _ => ()
  | lines delimiter => (b.takeLines delimiter).map fun _ => ()
  | scattered targets => (b.readScattered targets).map fun _ => ()

theorem Reading.took (b : Buffer) (r : Reading) : ∃ n ≤ b.len, b.Took n (r.perform b) := by
  cases r with
  | exact want => exact ⟨_, Nat.min_le_right _ _, (b.took_readExact want).map⟩
  | toEnd | text => exact ⟨_, Nat.le_refl _, b.took_readWindows 4096 .empty⟩
  | through delimiter | skip delimiter => exact b.took_readUntil delimiter
  | line => exact b.took_readUntil Buffer.lineFeed
  | lines delimiter => exact b.took_takeLines delimiter
  | scattered targets => exact b.took_readScattered targets

end Spool
