import Spool.Buffer.Lemmas

/-!
# Feeding in pieces and cutting lines

A producer that delivers its data piece by piece. `feed` takes a fixed number of bytes off the front
after each piece; `feedLines` takes off every line that is complete, a line being what stands before
a delimiter. An incomplete line stays unread until the piece that ends it.
-/

namespace Spool.Buffer

/-- Appends each piece in turn, consuming `used` bytes after each. -/
def feed (alloc : Allocator) (used : Nat) (b : Buffer) :
    List ByteArray → Outcome (List (Except AllocationError Relocation))
  | [] => ⟨[], b, []⟩
  | p :: ps =>
    let first := b.append alloc p
    let rest := feed alloc used (first.after.consume used) ps
    ⟨first.answer :: rest.answer, rest.after, first.events ++ rest.events⟩

theorem findIdx?_lt {b : Buffer} {p : UInt8 → Bool} {i : Nat} (h : b.unread.findIdx? p = some i) :
    i < b.len := by
  suffices ∀ j, ByteArray.findIdx?.loop b.unread p j = some i → i < b.len from this 0 h
  intro j
  fun_induction ByteArray.findIdx?.loop b.unread p j with
  | case1 j hj hp => intro h; cases h; exact hj
  | case2 j hj hp ih => exact ih
  | case3 j hj => simp

/-- Takes every complete line, without its delimiter. -/
def takeLines (b : Buffer) (delimiter : UInt8) : Outcome (List ByteArray) :=
  match h : b.unread.findIdx? (· == delimiter) with
  | none => ⟨[], b, []⟩
  | some i =>
    let rest := takeLines (b.consume (i + 1)) delimiter
    ⟨b.unread.take i :: rest.answer, rest.after, rest.events⟩
termination_by b.len
decreasing_by have := findIdx?_lt h; simp; omega

/-- Appends each piece in turn, taking the complete lines after each. -/
def feedLines (alloc : Allocator) (delimiter : UInt8) (b : Buffer) :
    List ByteArray → Outcome (List (Except AllocationError Relocation × List ByteArray))
  | [] => ⟨[], b, []⟩
  | p :: ps =>
    let first := b.append alloc p
    let lines := first.after.takeLines delimiter
    let rest := feedLines alloc delimiter lines.after ps
    ⟨(first.answer, lines.answer) :: rest.answer, rest.after,
      first.events ++ lines.events ++ rest.events⟩

end Spool.Buffer
