import Mathlib.Algebra.GroupWithZero.Nat
import Spool.Trial.Decode

/-!
# How much a byte string can ask for

Every command of a decoded program took up at least the flag in front of it, and so did every byte
appended. So the `volume` of a program, its commands and their appended bytes, is at most the number
of bytes it was decoded from.
-/

namespace Spool.Trial

/-- The number of bytes that a command appends. -/
def Command.payload : Command → Nat
  | append data => data.length
  | _ => 0

/-- The number of commands and of the bytes that they append. -/
def volume (commands : List Command) : Nat := (commands.map fun c => c.payload + 1).sum

section

variable {α : Type} {item : List UInt8 → α × List UInt8}

/-- A flag for each item, on top of the bytes that the item itself takes up. -/
theorem sum_weight_items (weight : α → Nat) (length_item : ∀ bs, (item bs).2.length ≤ bs.length)
    (weight_item : ∀ bs, weight (item bs).1 + (item bs).2.length ≤ bs.length) (bs : List UInt8) :
    ((items item length_item bs).1.map fun x => weight x + 1).sum +
      (items item length_item bs).2.length ≤ bs.length := by
  fun_induction items item length_item bs with
  | case1 => exact Nat.le_refl 0
  | case2 b bs set x _ rest ih =>
    have first : weight x.1 + x.2.length ≤ bs.length := weight_item bs
    have others : (rest.1.map fun x => weight x + 1).sum + rest.2.length ≤ x.2.length := ih
    simp only [List.map_cons, List.sum_cons, List.length_cons]
    omega
  | case3 b bs clear =>
    simp only [List.map_nil, List.sum_nil, List.length_cons]
    omega

end

theorem length_bytes_le (bs : List UInt8) :
    (items byte length_byte bs).1.length + (items byte length_byte bs).2.length ≤ bs.length := by
  have weightless : ∀ bs, 0 + (byte bs).2.length ≤ bs.length := by
    intro bs
    rw [Nat.zero_add]
    exact length_byte bs
  have le := sum_weight_items (fun _ => 0) length_byte weightless bs
  rwa [List.map_const', List.sum_replicate_nat, Nat.mul_one] at le

theorem payload_command_le (bs : List UInt8) :
    (command bs).1.payload + (command bs).2.length ≤ bs.length := by
  have selector := length_word 4 bs
  have bytes := length_bytes_le (word 4 bs).2
  have number := length_word 2 (word 4 bs).2
  have fill := length_byte (word 2 (word 4 bs).2).2
  unfold command
  dsimp only
  split <;> dsimp only [Command.payload] <;> omega

/-- The first byte is the capacity, and the next one says whether there is a factor. -/
theorem volume_program_le (bs : List UInt8) : volume (program bs).commands ≤ bs.length - 2 := by
  have factor : (optional byte (byte bs).2).2.length ≤ bs.length - 2 := by
    have tail : ∀ bs : List UInt8, (optional byte bs).2.length ≤ bs.length - 1 := by
      intro bs
      unfold optional
      dsimp only [flag, byte]
      split <;> simp only [List.length_tail] <;> omega
    have first : (byte bs).2.length = bs.length - 1 := List.length_tail
    have second := tail (byte bs).2
    omega
  have commands := sum_weight_items Command.payload length_command payload_command_le
    (optional byte (byte bs).2).2
  show ((items command length_command _).1.map fun c => c.payload + 1).sum ≤ _
  omega

end Spool.Trial
