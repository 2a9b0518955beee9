import Spool.Trial.Program

/-!
# Programs from bytes

Every byte string of at least two bytes is read as a program, front to back. Numbers are little
endian, a flag is the lowest bit of a byte, a list is continued by a set flag before each item.
Bytes missing at the end count as zero, so reading never fails, and bytes left over are ignored.
-/

namespace Spool.Trial

/-- A number of `n` bytes. -/
def word : (n : Nat) → List UInt8 → Nat × List UInt8
  | 0, bs => (0, bs)
  | n + 1, bs =>
    let high := word n bs.tail
    ((bs.headD 0).toNat + 256 * high.1, high.2)

def byte (bs : List UInt8) : UInt8 × List UInt8 := (bs.headD 0, bs.tail)

def flag (bs : List UInt8) : Bool × List UInt8 := ((bs.headD 0) % 2 == 1, bs.tail)

theorem length_word (n : Nat) (bs : List UInt8) : (word n bs).2.length ≤ bs.length := by
  induction n generalizing bs with
  | zero => simp [word]
  | succ n ih => have := ih bs.tail; simp [word] at this ⊢; omega

theorem length_byte (bs : List UInt8) : (byte bs).2.length ≤ bs.length := by
  simp [byte]

/-- A list, given how to read an item. -/
def items {α : Type} (item : List UInt8 → α × List UInt8)
    (length_item : ∀ bs, (item bs).2.length ≤ bs.length) : List UInt8 → List α × List UInt8
  | [] => ([], [])
  | b :: bs =>
    if (flag (b :: bs)).1 then
      let x := item bs
      have := length_item bs
      let rest := items item length_item x.2
      (x.1 :: rest.1, rest.2)
    else ([], bs)
termination_by bs => bs.length
decreasing_by simp; omega

theorem length_items {α : Type} (item : List UInt8 → α × List UInt8)
    (length_item : ∀ bs, (item bs).2.length ≤ bs.length) (bs : List UInt8) :
    (items item length_item bs).2.length ≤ bs.length := by
  fun_induction items item length_item bs with
  | case1 => simp
  | case2 b bs _ x _ rest ih => exact Nat.le_succ_of_le (Nat.le_trans ih (length_item bs))
  | case3 b bs => simp

/-- Numbers of four bytes fall into seven equal shares, one for each command. -/
def share (v : Nat) : Nat := v * 7 / UInt32.size

def command (bs : List UInt8) : Command × List UInt8 :=
  let v := word 4 bs
  match share v.1 with
  | 0 => let data := items byte length_byte v.2; (.append data.1, data.2)
  | 1 => let n := word 2 v.2; (.consume n.1.toUInt16, n.2)
  | 2 => (.drain, v.2)
  | 3 => let n := word 2 v.2; (.makeRoom n.1.toUInt16, n.2)
  | 4 => let n := word 2 v.2; let x := byte n.2; (.commit n.1.toUInt16 x.1, x.2)
  | 5 => let n := word 2 v.2; (.shrink n.1.toUInt16, n.2)
  | _ => (.clear, v.2)

theorem length_command (bs : List UInt8) : (command bs).2.length ≤ bs.length := by
  have h4 := length_word 4 bs
  have h2 := length_word 2 (word 4 bs).2
  have h1 := length_byte (word 2 (word 4 bs).2).2
  have h0 := length_items byte length_byte (word 4 bs).2
  unfold command
  dsimp only
  split <;> dsimp only <;> omega

/-- A flag, and the item if it is set. -/
def optional {α : Type} (item : List UInt8 → α × List UInt8) (bs : List UInt8) :
    Option α × List UInt8 :=
  let f := flag bs
  if f.1 then
    let x := item f.2
    (some x.1, x.2)
  else (none, f.2)

/-- The program that the bytes stand for. -/
def program (bs : List UInt8) : Program :=
  let capacity := byte bs
  let factor := optional byte capacity.2
  ⟨capacity.1, factor.1, (items command length_command factor.2).1⟩

/-- A program from bytes, if there are enough to begin one. -/
def program? (bs : List UInt8) : Option Program :=
  if bs.length < 2 then none else some (program bs)

end Spool.Trial
