import Spool.Proofs.Decoding

/-!
# Bytes for every program

`Program.bytes` writes a program so that it is read back: numbers lowest byte first, a set flag in
front of each item of a list and a clear one behind the last, and of all the numbers that stand for
a command the least. A reader takes exactly what was written for it and leaves the rest (`_append`),
so it does not matter what follows. Main statement: every program has bytes, and any bytes that are
enough to begin a program are one, with no more in it than there are bytes.
-/

namespace Spool.Trial

/-! ## Numbers -/

/-- The `n` bytes of a number. -/
def wordBytes : (n : Nat) → Nat → List UInt8
  | 0, _ => []
  | n + 1, v => v.toUInt8 :: wordBytes n (v / 256)

theorem word_append {n v : Nat} (fits : v < 256 ^ n) (rest : List UInt8) :
    word n (wordBytes n v ++ rest) = (v, rest) := by
  induction n generalizing v with
  | zero =>
    have zero : v = 0 := by simpa using fits
    rw [zero]
    rfl
  | succ n ih =>
    have high : v / 256 < 256 ^ n := Nat.div_lt_of_lt_mul (by rwa [← Nat.pow_succ'])
    have low : v.toUInt8.toNat = v % 256 := UInt8.toNat_ofNat'
    simp only [wordBytes, List.cons_append, word, List.headD_cons, List.tail_cons, ih high, low]
    rw [Nat.mod_add_div]

theorem byte_append (x : UInt8) (rest : List UInt8) : byte ([x] ++ rest) = (x, rest) := rfl

/-- The readers of commands take numbers of two bytes. -/
theorem word_two_append (n : UInt16) (rest : List UInt8) :
    word 2 (wordBytes 2 n.toNat ++ rest) = (n.toNat, rest) :=
  word_append n.toNat_lt rest

/-! ## Lists and what may be left out -/

section

variable {α : Type} {item : List UInt8 → α × List UInt8} {bytes : α → List UInt8}

/-- A list, given the bytes of an item. -/
def itemBytes (bytes : α → List UInt8) : List α → List UInt8
  | [] => [0]
  | x :: xs => 1 :: (bytes x ++ itemBytes bytes xs)

theorem items_append (length_item : ∀ bs, (item bs).2.length ≤ bs.length)
    (item_append : ∀ x rest, item (bytes x ++ rest) = (x, rest)) (xs : List α)
    (rest : List UInt8) :
    items item length_item (itemBytes bytes xs ++ rest) = (xs, rest) := by
  induction xs with
  | nil =>
    rw [itemBytes, List.singleton_append, items]
    rfl
  | cons x xs ih =>
    have set : (flag (1 :: (bytes x ++ (itemBytes bytes xs ++ rest)))).1 = true := rfl
    rw [itemBytes, List.cons_append, List.append_assoc, items, if_pos set]
    simp only [item_append, ih]

def optionalBytes (bytes : α → List UInt8) : Option α → List UInt8
  | none => [0]
  | some x => 1 :: bytes x

theorem optional_append (item_append : ∀ x rest, item (bytes x ++ rest) = (x, rest))
    (x : Option α) (rest : List UInt8) :
    optional item (optionalBytes bytes x ++ rest) = (x, rest) := by
  cases x with
  | none => rfl
  | some x =>
    have set : (flag (1 :: (bytes x ++ rest))).1 = true := rfl
    rw [optionalBytes, List.cons_append, optional, if_pos set]
    simp only [flag, List.tail_cons, item_append]

end

/-! ## Commands and programs -/

/-- Which of the shares is that of the command. -/
def Command.index : Command → Nat
  | append _ => 0
  | consume _ => 1
  | drain => 2
  | makeRoom _ => 3
  | commit .. => 4
  | shrink _ => 5
  | clear => 6

/-- The least number in a share. -/
def least (k : Nat) : Nat := (k * UInt32.size + 6) / 7

theorem share_least (k : Nat) : share (least k) = k := by
  simp only [share, least, UInt32.size]
  omega

theorem Command.index_lt (c : Command) : c.index < 7 := by
  cases c <;> simp [index]

theorem Command.word_least_append (c : Command) (rest : List UInt8) :
    word 4 (wordBytes 4 (least c.index) ++ rest) = (least c.index, rest) := by
  refine word_append ?_ rest
  have := c.index_lt
  simp only [least, UInt32.size]
  omega

/-- The bytes behind the number that stands for the command. -/
def Command.operands : Command → List UInt8
  | append data => itemBytes (fun x => [x]) data
  | consume n | makeRoom n | shrink n => wordBytes 2 n.toNat
  | commit n fill => wordBytes 2 n.toNat ++ [fill]
  | drain | clear => []

def Command.bytes (c : Command) : List UInt8 := wordBytes 4 (least c.index) ++ c.operands

theorem command_append (c : Command) (rest : List UInt8) :
    command (c.bytes ++ rest) = (c, rest) := by
  unfold command Command.bytes
  rw [List.append_assoc]
  simp only [c.word_least_append, share_least]
  cases c with
  | append data =>
    simp only [Command.index, Command.operands, items_append length_byte byte_append]
  | consume n | makeRoom n | shrink n =>
    simp only [Command.index, Command.operands, word_two_append, UInt16.ofNat_toNat]
  | commit n fill =>
    simp only [Command.index, Command.operands, List.append_assoc, word_two_append, byte_append,
      UInt16.ofNat_toNat]
  | drain | clear => rfl

def Program.bytes (p : Program) : List UInt8 :=
  p.initialCapacity ::
    (optionalBytes (fun k => [k]) p.factor ++ itemBytes Command.bytes p.commands)

theorem program_append (p : Program) (rest : List UInt8) : program (p.bytes ++ rest) = p := by
  have first : byte (p.bytes ++ rest) = (p.initialCapacity, optionalBytes (fun k => [k]) p.factor ++
      (itemBytes Command.bytes p.commands ++ rest)) := by
    rw [← List.append_assoc]
    rfl
  unfold program
  simp only [first, optional_append byte_append, items_append length_command command_append]

theorem Program.two_le_length (p : Program) (rest : List UInt8) :
    2 ≤ (p.bytes ++ rest).length := by
  obtain ⟨capacity, factor, commands⟩ := p
  cases factor <;> simp [bytes, optionalBytes]

/-- Every program is read from its own bytes, whatever follows them. Any two bytes or more are read
as some program; its commands and the bytes that they append are at least two fewer. -/
theorem programs_have_bytes :
    (∀ (p : Program) (rest : List UInt8), program? (p.bytes ++ rest) = some p) ∧
    ∀ bs : List UInt8, 2 ≤ bs.length →
      ∃ p, program? bs = some p ∧ volume p.commands + 2 ≤ bs.length := by
  refine ⟨fun p rest => ?_, fun bs enough => ⟨program bs, ?_, ?_⟩⟩
  · have enough := p.two_le_length rest
    rw [program?, if_neg (Nat.not_lt.2 enough), program_append]
  · rw [program?, if_neg (Nat.not_lt.2 enough)]
  · have := volume_program_le bs
    omega

/-- Three commands and two appended bytes, in bytes that would go on with a fourth command. -/
theorem programs_have_bytes_of_three :
    program? (Program.bytes ⟨8, some 3, [.append [65, 66], .commit 3 7, .clear]⟩ ++ [1, 255]) =
      some ⟨8, some 3, [.append [65, 66], .commit 3 7, .clear]⟩ ∧
    ∃ p, program? (Program.bytes ⟨8, some 3, [.append [65, 66], .commit 3 7, .clear]⟩ ++ [1, 255]) =
      some p ∧ volume p.commands + 2 ≤ 29 :=
  ⟨programs_have_bytes.1 _ _, programs_have_bytes.2 _ (by decide)⟩

end Spool.Trial
