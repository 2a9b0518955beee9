import Spool.Proofs.Extents

/-!
# Lines, however they come in

`Cut` is the meaning of cutting lines: a byte string is its lines, each with the delimiter behind
it, and a rest that holds none. Taking the complete lines off a buffer cuts its unread bytes and
leaves the rest unread (`cut_takeLines`), and what is appended to the rest is cut further
(`Cut.append`). Main statement: pieces fed one by one are cut as they would be if they had come as
one, whatever the buffer did to find room for them.
-/

namespace Spool

/-! ## Cutting -/

/-- `q` is the lines, each followed by the delimiter, and then the rest. -/
structure Cut (delimiter : UInt8) (q : List UInt8) (lines : List (List UInt8)) (rest : List UInt8) :
    Prop where
  joined : q = lines.flatMap (· ++ [delimiter]) ++ rest
  complete : ∀ line ∈ lines, delimiter ∉ line
  incomplete : delimiter ∉ rest

namespace Cut

variable {d : UInt8} {q line rest rest' more : List UInt8} {lines lines' : List (List UInt8)}

theorem nil (none : d ∉ rest) : Cut d rest [] rest :=
  ⟨rfl, fun _ mem => (List.not_mem_nil mem).elim, none⟩

theorem cons (none : d ∉ line) (cut : Cut d q lines rest) :
    Cut d (line ++ d :: q) (line :: lines) rest where
  joined := by
    rw [List.flatMap_cons, List.append_assoc, ← cut.joined, List.append_cons]
  complete := List.forall_mem_cons.2 ⟨none, cut.complete⟩
  incomplete := cut.incomplete

/-- What comes behind the rest is cut together with it. -/
theorem append (cut : Cut d q lines rest) (cut' : Cut d (rest ++ more) lines' rest') :
    Cut d (q ++ more) (lines ++ lines') rest' where
  joined := by
    rw [cut.joined, List.append_assoc, cut'.joined, List.flatMap_append, List.append_assoc]
  complete := List.forall_mem_append.2 ⟨cut.complete, cut'.complete⟩
  incomplete := cut'.incomplete

/-- To cut is to split at every delimiter. -/
theorem splitOn_eq (cut : Cut d q lines rest) : q.splitOn d = lines ++ [rest] := by
  obtain ⟨rfl, complete, incomplete⟩ := cut
  induction lines with
  | nil => exact List.splitOn_eq_singleton incomplete
  | cons line lines ih =>
    obtain ⟨none, complete⟩ := List.forall_mem_cons.1 complete
    rw [List.flatMap_cons, List.append_assoc, List.append_assoc, List.singleton_append,
      List.splitOn_append_cons_self_of_not_mem none, ih complete, List.cons_append]

/-- There is one way to cut. -/
theorem unique (cut : Cut d q lines rest) (cut' : Cut d q lines' rest') :
    lines' = lines ∧ rest' = rest := by
  obtain ⟨same, last⟩ := List.append_inj' (cut'.splitOn_eq.symm.trans cut.splitOn_eq) rfl
  exact ⟨same, List.head_eq_of_cons_eq last⟩

end Cut

namespace Buffer

/-! ## Feeding -/

/-- How each piece was answered, and the lines that were complete after it. -/
abbrev Feeding := Outcome (List (Except AllocationError Relocation × List ByteArray))

/-- Appends each piece in turn, taking the complete lines after each. Every append has an allocator
of its own. -/
def feedLinesFrom (delimiter : UInt8) (b : Buffer) : List (Allocator × ByteArray) → Feeding
  | [] => ⟨[], b, []⟩
  | p :: ps =>
    let first := b.append p.1 p.2
    let lines := first.after.takeLines delimiter
    let rest := feedLinesFrom delimiter lines.after ps
    ⟨(first.answer, lines.answer) :: rest.answer, rest.after,
      first.events ++ lines.events ++ rest.events⟩

theorem feedLines_eq (alloc : Allocator) (delimiter : UInt8) (b : Buffer)
    (pieces : List ByteArray) :
    b.feedLines alloc delimiter pieces =
      b.feedLinesFrom delimiter (pieces.map fun p => (alloc, p)) := by
  induction pieces generalizing b with
  | nil => rfl
  | cons p ps ih => rw [feedLines, List.map_cons, feedLinesFrom, ih]

/-- All the lines that were taken, in order. -/
def takenLines (out : Feeding) : List (List UInt8) :=
  out.answer.flatMap fun a => a.2.map (·.data.toList)

/-- No append was refused. -/
def AllFed (out : Feeding) : Prop :=
  ∀ a ∈ out.answer, a.1.isOk = true

instance (out : Feeding) : Decidable (AllFed out) :=
  inferInstanceAs (Decidable (∀ a ∈ out.answer, a.1.isOk = true))

theorem contents_append_of_isOk {alloc : Allocator} {b : Buffer} {data : ByteArray}
    (ok : (b.append alloc data).answer.isOk = true) :
    (b.append alloc data).after.contents = b.contents ++ data.data.toList := by
  cases answer : (b.append alloc data).answer with
  | error e => rw [answer] at ok; cases ok
  | ok r =>
    rw [contents, (b.appends alloc data).unread_of_ok answer, ByteArray.data_append,
      Array.toList_append, contents]

theorem cut_takeLines (b : Buffer) (delimiter : UInt8) :
    Cut delimiter b.contents ((b.takeLines delimiter).answer.map (·.data.toList))
      (b.takeLines delimiter).after.contents := by
  fun_induction takeLines b delimiter with
  | case1 b none => exact .nil (not_mem_of_findIdx? none)
  | case2 b i found rest ih =>
    obtain ⟨line, behind, eq, rfl, none⟩ := contents_of_findIdx? found
    have front : (b.unread.take line.length).data.toList = line := by
      rw [ByteArray.toList_data_take, ← contents, eq, List.take_left]
    have left : (b.consume (line.length + 1)).contents = behind := by
      rw [contents_consume, eq, List.append_cons, List.drop_left' (by simp)]
    rw [List.map_cons, front, eq]
    rw [left] at ih
    exact .cons none ih

/-- All the bytes that are fed. -/
def joined (pieces : List (Allocator × ByteArray)) : List UInt8 :=
  pieces.flatMap (·.2.data.toList)

/-- Pieces fed to a buffer are cut together with what it holds. A buffer that is fed nothing is not
looked at, and must not hold a delimiter. -/
theorem cut_feedLinesFrom (delimiter : UInt8) (b : Buffer) (pieces : List (Allocator × ByteArray))
    (some : pieces ≠ [] ∨ delimiter ∉ b.contents)
    (fed : AllFed (b.feedLinesFrom delimiter pieces)) :
    Cut delimiter (b.contents ++ joined pieces) (takenLines (b.feedLinesFrom delimiter pieces))
      (b.feedLinesFrom delimiter pieces).after.contents := by
  induction pieces generalizing b with
  | nil =>
    rw [joined, List.flatMap_nil, List.append_nil]
    exact .nil (some.resolve_left (absurd rfl))
  | cons p ps ih =>
    obtain ⟨ok, fed⟩ := List.forall_mem_cons.1 fed
    -- The lines that this piece completes leave a rest, with which the next pieces are cut.
    have now := (b.append p.1 p.2).after.cut_takeLines delimiter
    have later := ih _ (.inr now.incomplete) fed
    rw [contents_append_of_isOk ok] at now
    rw [joined, List.flatMap_cons, ← List.append_assoc]
    exact now.append later

end Buffer

/-- What is fed is cut as one byte string behind what was unread, so it does not matter in which
pieces it came, nor to which buffer with these unread bytes. -/
theorem lines_regardless_of_pieces (delimiter : UInt8) (b : Buffer)
    (pieces : List (Allocator × ByteArray)) (some : pieces ≠ [])
    (fed : Buffer.AllFed (b.feedLinesFrom delimiter pieces)) :
    Cut delimiter (b.contents ++ Buffer.joined pieces)
      (Buffer.takenLines (b.feedLinesFrom delimiter pieces))
      (b.feedLinesFrom delimiter pieces).after.contents ∧
    (b.contents ++ Buffer.joined pieces).splitOn delimiter =
      Buffer.takenLines (b.feedLinesFrom delimiter pieces) ++
        [(b.feedLinesFrom delimiter pieces).after.contents] ∧
    ∀ (c : Buffer) (pieces' : List (Allocator × ByteArray)), c.contents = b.contents →
      pieces' ≠ [] → Buffer.joined pieces' = Buffer.joined pieces →
      Buffer.AllFed (c.feedLinesFrom delimiter pieces') →
      Buffer.takenLines (c.feedLinesFrom delimiter pieces') =
        Buffer.takenLines (b.feedLinesFrom delimiter pieces) ∧
      (c.feedLinesFrom delimiter pieces').after.contents =
        (b.feedLinesFrom delimiter pieces).after.contents := by
  have cut := b.cut_feedLinesFrom delimiter pieces (.inl some) fed
  refine ⟨cut, cut.splitOn_eq, fun c pieces' same some' joined fed' => ?_⟩
  have cut' := c.cut_feedLinesFrom delimiter pieces' (.inl some') fed'
  rw [same, joined] at cut'
  exact cut.unique cut'

/-- A delimiter is waiting already, the first piece has the bytes moved to the front, the second has
the region grow and completes a line that came in three parts. Byte by byte into a larger buffer it
is the same two lines. -/
theorem lines_regardless_of_pieces_of_two :
    Buffer.AllFed ((Buffer.mk ⟨#[9]⟩ ⟨#[10, 2, 3]⟩ .empty { initialCapacity := 4 }).feedLinesFrom 10
      [(.upTo 64, ⟨#[4]⟩), (.upTo 16, ⟨#[5, 10, 6]⟩)]) ∧
    Buffer.takenLines
      ((Buffer.mk ⟨#[9]⟩ ⟨#[10, 2, 3]⟩ .empty { initialCapacity := 4 }).feedLinesFrom 10
        [(.upTo 64, ⟨#[4]⟩), (.upTo 16, ⟨#[5, 10, 6]⟩)]) = [[], [2, 3, 4, 5]] ∧
    ((Buffer.mk ⟨#[9]⟩ ⟨#[10, 2, 3]⟩ .empty { initialCapacity := 4 }).feedLinesFrom 10
      [(.upTo 64, ⟨#[4]⟩), (.upTo 16, ⟨#[5, 10, 6]⟩)]).after.contents = [6] ∧
    Buffer.takenLines ((Buffer.mk .empty ⟨#[10, 2, 3]⟩ ⟨#[0, 0, 0, 0]⟩ {}).feedLines (.upTo 64) 10
      [⟨#[4]⟩, ⟨#[5]⟩, ⟨#[10]⟩, ⟨#[6]⟩]) = [[], [2, 3, 4, 5]] := by
  have fed : Buffer.AllFed ((Buffer.mk ⟨#[9]⟩ ⟨#[10, 2, 3]⟩ .empty
      { initialCapacity := 4 }).feedLinesFrom 10
        [(.upTo 64, ⟨#[4]⟩), (.upTo 16, ⟨#[5, 10, 6]⟩)]) := by decide +kernel
  obtain ⟨-, split, alike⟩ := lines_regardless_of_pieces 10 _ _ (List.cons_ne_nil _ _) fed
  have three : [[], [2, 3, 4, 5]] ++ [[6]] = ([10, 2, 3, 4, 5, 10, 6] : List UInt8).splitOn 10 := by
    decide
  obtain ⟨lines, rest⟩ := List.append_inj' (three.trans split) rfl
  have fed' : Buffer.AllFed ((Buffer.mk .empty ⟨#[10, 2, 3]⟩ ⟨#[0, 0, 0, 0]⟩ {}).feedLinesFrom 10
      [(.upTo 64, ⟨#[4]⟩), (.upTo 64, ⟨#[5]⟩), (.upTo 64, ⟨#[10]⟩), (.upTo 64, ⟨#[6]⟩)]) := by
    decide +kernel
  refine ⟨fed, lines.symm, (List.head_eq_of_cons_eq rest).symm, ?_⟩
  rw [Buffer.feedLines_eq, lines]
  exact And.left (alike _ _ rfl (List.cons_ne_nil _ _) rfl fed')

end Spool
