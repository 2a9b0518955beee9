import Spool.Proofs.Layout
import Spool.Proofs.Queue
import Spool.Proofs.Reading

/-!
# How far the readers read

Each reader takes a front of the unread bytes, and says what it took. Up to a delimiter that front
is `Through` it; the reader of a fixed number of bytes takes them all before it complains that there
are too few; text that is none has been taken all the same (`Decodes`). `Takes` says what is left
behind: the other bytes, and the cursor past those taken or back at the front of the region. How a
reader splits its work into steps does not matter, which for reading to the end is said of every way
of splitting it (`readBy`). Main statement: the readers take fronts.
-/

namespace ByteArray

theorem findIdx?_loop_eq (b : ByteArray) (p : UInt8 → Bool) (i : Nat) :
    findIdx?.loop b p i = ((b.data.toList.drop i).findIdx? p).map (· + i) := by
  fun_induction findIdx?.loop b p i with
  | case1 i h found =>
    have cons : b.data.toList.drop i = b[i] :: b.data.toList.drop (i + 1) :=
      List.drop_eq_getElem_cons h
    rw [cons, List.findIdx?_cons, if_pos found, Option.map_some, Nat.zero_add]
  | case2 i h other ih =>
    have cons : b.data.toList.drop i = b[i] :: b.data.toList.drop (i + 1) :=
      List.drop_eq_getElem_cons h
    rw [ih, cons, List.findIdx?_cons, if_neg other, Option.map_map]
    congr 1
    funext k
    exact (Nat.succ_add_eq_add_succ k i).symm
  | case3 i h =>
    rw [List.drop_of_length_le (Nat.le_of_not_lt h)]
    rfl

/-- Looking for a byte from the front is looking for it in the list. -/
theorem findIdx?_eq (b : ByteArray) (p : UInt8 → Bool) :
    b.findIdx? p = b.data.toList.findIdx? p := by
  rw [findIdx?, findIdx?_loop_eq, List.drop_zero]
  exact Option.map_id'

end ByteArray

namespace Spool

/-! ## Delimiters -/

/-- `p` is the shortest front of `q` that ends in the delimiter, or all of `q` if there is none. -/
structure Through (delimiter : UInt8) (q p : List UInt8) : Prop where
  isFront : p <+: q
  ends : p.getLast? = some delimiter ∨ p = q
  shortest : ∀ s, s <+: q → s.getLast? = some delimiter → p.length ≤ s.length

namespace Buffer

variable {b : Buffer} {delimiter : UInt8}

/-- The first delimiter, and what is in front of it and behind it. -/
theorem contents_of_findIdx? {i : Nat} (found : b.unread.findIdx? (· == delimiter) = some i) :
    ∃ line rest, b.contents = line ++ delimiter :: rest ∧ line.length = i ∧ delimiter ∉ line := by
  rw [ByteArray.findIdx?_eq, ← contents] at found
  obtain ⟨lt, here, before⟩ := List.findIdx?_eq_some_iff_getElem.1 found
  refine ⟨b.contents.take i, b.contents.drop (i + 1), ?_, List.length_take_of_le (by omega), ?_⟩
  · rw [← eq_of_beq here, ← List.drop_eq_getElem_cons lt, List.take_append_drop]
  · intro mem
    obtain ⟨j, lt', eq⟩ := List.mem_take_iff_getElem.1 mem
    exact before j (by omega) (beq_iff_eq.2 eq)

theorem not_mem_of_findIdx? (none : b.unread.findIdx? (· == delimiter) = none) :
    delimiter ∉ b.contents := by
  rw [ByteArray.findIdx?_eq, ← contents] at none
  intro mem
  have other := List.findIdx?_eq_none_iff.1 none _ mem
  rw [beq_self_eq_true] at other
  cases other

end Buffer

theorem mem_of_getLast? {d : UInt8} {q s : List UInt8} (front : s <+: q)
    (ends : s.getLast? = some d) : d ∈ q :=
  front.mem (List.mem_of_getLast? ends)

/-- Up to the first delimiter, and that one too. -/
theorem Through.of_first {d : UInt8} {q r : List UInt8} (none : d ∉ q) :
    Through d (q ++ d :: r) (q ++ [d]) where
  isFront := ⟨r, by simp⟩
  ends := .inl List.getLast?_concat
  shortest s front ends := by
    apply Nat.le_of_not_lt
    intro lt
    have short : s <+: q := by
      refine List.prefix_of_prefix_length_le front (List.prefix_append ..) ?_
      simpa [Nat.lt_succ_iff] using lt
    exact none (mem_of_getLast? short ends)

theorem Through.of_not_mem {d : UInt8} {q : List UInt8} (none : d ∉ q) : Through d q q where
  isFront := List.prefix_rfl
  ends := .inr rfl
  shortest _ front ends := absurd (mem_of_getLast? front ends) none

/-! ## Text -/

/-- The answer to reading `q` as text: the text that these bytes encode, if there is one. -/
inductive Decodes (q : List UInt8) : Except IoError String → Prop where
  | text {s : String} (encodes : s.toUTF8.data.toList = q) : Decodes q (.ok s)
  | invalid {e : IoError} (kind : e.kind = "InvalidData")
      (none : ∀ s : String, s.toUTF8.data.toList ≠ q) : Decodes q (.error e)

theorem decodes_decodeText (bytes : ByteArray) :
    Decodes bytes.data.toList (Buffer.decodeText bytes) := by
  unfold Buffer.decodeText String.fromUTF8?
  by_cases valid : bytes.IsValidUTF8
  · rw [dif_pos valid]
    exact .text rfl
  · rw [dif_neg valid]
    refine .invalid rfl fun s encodes => valid ?_
    rw [← ByteArray.eq_of_toList_data_eq encodes, String.toUTF8_eq_toByteArray]
    exact s.isValidUTF8

namespace Buffer

/-! ## What is left behind -/

/-- `n` bytes were taken off the front of `b`, and that is all. -/
structure Takes {α : Type} (b : Buffer) (n : Nat) (out : Outcome α) : Prop where
  within : n ≤ b.contents.length
  contents : out.after.contents = b.contents.drop n
  leading : out.after.leading = if n < b.contents.length then b.leading + n else 0
  capacity : out.after.capacity = b.capacity
  region : out.after.region = b.region
  options : out.after.options = b.options
  events : out.events = []

theorem leading_consume {b : Buffer} (rewound : b.len = 0 → b.leading = 0) {n : Nat}
    (le : n ≤ b.len) :
    (b.consume n).leading = if n < b.len then b.leading + n else 0 := by
  rcases Nat.lt_or_eq_of_le le with lt | rfl
  · rw [if_pos lt, consume_of_lt b lt, leading, ByteArray.size_append, ByteArray.size_take]
    exact congrArg (b.leading + ·) (Nat.min_eq_left le)
  · rw [if_neg (Nat.lt_irrefl _)]
    by_cases empty : b.len = 0
    · rw [empty, consume_zero, rewound empty]
    · rw [consume_of_le b _ empty (Nat.le_refl _), leading_clear]

theorem WellFormed.takes {o : Options} {b : Buffer} (wf : b.WellFormed o) {n : Nat}
    (le : n ≤ b.len) {α : Type} {out : Outcome α} (took : b.Took n out) : b.Takes n out where
  within := by rwa [length_contents]
  contents := by rw [took.1, contents_consume]
  leading := by rw [took.1, leading_consume wf.rewound le, length_contents]
  capacity := by rw [took.1, capacity_consume]
  region := by rw [took.1, region_consume]
  options := by rw [took.1, options_consume]
  events := took.2

/-! ## The readers -/

variable {b : Buffer}

theorem contents_answer_read (b : Buffer) (most : Nat) :
    (b.read most).answer.data.toList = b.contents.take most :=
  ByteArray.toList_data_take ..

theorem take_len (b : Buffer) : b.unread.take b.len = b.unread :=
  ByteArray.take_of_size_le (Nat.le_refl _)

/-- What is read, and what is then unread, was unread before. -/
theorem read_append (b : Buffer) (most : Nat) :
    (b.read most).answer ++ (b.read most).after.unread = b.unread := by
  apply ByteArray.eq_of_toList_data_eq
  rw [ByteArray.data_append, Array.toList_append, contents_answer_read, ← contents, contents_read,
    List.take_append_drop, contents]

theorem len_ne_zero_of_read {most : Nat} (some : (b.read most).answer.size ≠ 0) : b.len ≠ 0 := by
  rw [size_read, length_contents] at some
  omega

theorem answer_readWindows (window : Nat) (b : Buffer) (got : ByteArray) :
    (b.readWindows window got).answer = got ++ b.unread := by
  fun_induction readWindows window b got with
  | case1 b got empty =>
    rw [ByteArray.size_eq_zero_iff.1 empty, ByteArray.append_empty]
  | case2 b got _ ih => rw [ih, ByteArray.append_assoc, read_append]

theorem answer_readToEnd (b : Buffer) : b.readToEnd.answer = b.unread :=
  (b.answer_readWindows 4096 .empty).trans ByteArray.empty_append

/-- Reads until a read brings nothing. Each call chooses how many bytes to ask for, at least one. -/
def readBy (windows : Nat → Nat) (call : Nat) (b : Buffer) (got : ByteArray) :
    Outcome ByteArray :=
  let next := b.read (max (windows call) 1)
  if next.answer.size = 0 then ⟨got, next.after, next.events⟩
  else readBy windows (call + 1) next.after (got ++ next.answer)
termination_by b.len
decreasing_by exact len_read_lt (by omega) (len_ne_zero_of_read (by assumption))

theorem readBy_eq (windows : Nat → Nat) (call : Nat) (b : Buffer) (got : ByteArray) :
    b.readBy windows call got = ⟨got ++ b.unread, b.consume b.len, []⟩ := by
  fun_induction readBy windows call b got with
  | case1 call b got next nothing =>
    have empty : b.len = 0 := by
      rw [size_read, length_contents] at nothing
      omega
    rw [show next = b.read _ from rfl, read, empty, Nat.min_zero, consume_zero,
      ByteArray.size_eq_zero_iff.1 empty, ByteArray.append_empty]
  | case2 call b got next some ih =>
    have whole : min (max (windows call) 1) b.len + (b.len - min (max (windows call) 1) b.len) =
        b.len := by omega
    rw [ih, ByteArray.append_assoc, read_append, show next = b.read _ from rfl, read, len_consume,
      consume_consume, whole]

/-- Reading to the end comes to the same however the calls choose what to ask for. -/
theorem readBy_eq_readToEnd (windows : Nat → Nat) (b : Buffer) :
    b.readBy windows 0 .empty = b.readToEnd := by
  have took : b.Took b.len b.readToEnd := b.took_readWindows 4096 .empty
  rw [readBy_eq, ByteArray.empty_append, ← b.answer_readToEnd, ← took.1, ← took.2]

theorem answer_readExact (b : Buffer) (want : Nat) :
    (b.readExact want).answer =
      if want ≤ b.len then .ok (b.unread.take want) else .error .unexpectedEnd := by
  suffices ∀ got, (readExact.go b want got).answer =
      if want ≤ b.len then .ok (got ++ b.unread.take want) else .error .unexpectedEnd by
    rw [readExact, this, ByteArray.empty_append]
  intro got
  fun_induction readExact.go b want got with
  | case1 b got => rw [if_pos (Nat.zero_le _), ByteArray.take_zero, ByteArray.append_empty]
  | case2 b want got some empty => rw [if_neg (by omega)]
  | case3 b want got some more ih =>
    rw [ih, read, len_consume]
    rcases Nat.lt_or_ge b.len want with lt | le
    · rw [Nat.min_eq_right (Nat.le_of_lt lt), if_neg (by omega), if_neg (by omega)]
    · rw [Nat.min_eq_left le, Nat.sub_self, if_pos (Nat.zero_le _), if_pos le, ByteArray.take_zero,
        ByteArray.append_empty]

theorem readUntil_of_findIdx? {delimiter : UInt8} {i : Nat}
    (found : b.unread.findIdx? (· == delimiter) = some i) :
    b.readUntil delimiter = ⟨b.unread.take (i + 1), b.consume (i + 1), []⟩ := by
  unfold readUntil readUntil.go
  split
  · next j found' =>
    obtain rfl := Option.some.inj (found.symm.trans found')
    rw [ByteArray.empty_append]
  · next none => rw [found] at none; cases none

theorem go_readUntil_of_empty {c : Buffer} (empty : c.len = 0) (delimiter : UInt8)
    (got : ByteArray) : readUntil.go delimiter c got = ⟨got, c, []⟩ := by
  unfold readUntil.go
  split
  · next i found => exact absurd (findIdx?_lt found) (by omega)
  · rw [if_pos empty]

/-- Without a delimiter everything is taken, and the next look finds nothing. -/
theorem readUntil_of_none {delimiter : UInt8}
    (none : b.unread.findIdx? (· == delimiter) = none) :
    b.readUntil delimiter = ⟨b.unread, b.consume b.len, []⟩ := by
  by_cases empty : b.len = 0
  · rw [readUntil, go_readUntil_of_empty empty, empty, consume_zero,
      ByteArray.size_eq_zero_iff.1 empty]
  · have after : (b.consume b.len).len = 0 := by rw [len_consume, Nat.sub_self]
    unfold readUntil readUntil.go
    split
    · next i found => rw [none] at found; cases found
    · rw [if_neg empty, go_readUntil_of_empty after, ByteArray.empty_append]

/-- What is read up to a delimiter is the shortest front that ends in it, or everything. -/
theorem readUntil_eq (b : Buffer) (delimiter : UInt8) :
    ∃ n ≤ b.len, b.readUntil delimiter = ⟨b.unread.take n, b.consume n, []⟩ ∧
      Through delimiter b.contents (b.contents.take n) := by
  cases look : b.unread.findIdx? (· == delimiter) with
  | some i =>
    obtain ⟨line, rest, eq, rfl, none⟩ := contents_of_findIdx? look
    refine ⟨line.length + 1, findIdx?_lt look, readUntil_of_findIdx? look, ?_⟩
    have front : b.contents.take (line.length + 1) = line ++ [delimiter] := by
      rw [eq, List.append_cons, List.take_left' (by simp)]
    rw [front, eq]
    exact .of_first none
  | none =>
    refine ⟨b.len, Nat.le_refl _, ?_, ?_⟩
    · rw [readUntil_of_none look, take_len]
    · rw [List.take_of_length_le (Nat.le_of_eq b.length_contents)]
      exact .of_not_mem (not_mem_of_findIdx? look)

/-! ## What each reader takes -/

section

variable {o : Options} (wf : b.WellFormed o)

include wf

theorem WellFormed.takes_readInto (target : ByteArray) :
    b.Takes (min target.size b.contents.length) (b.readInto target) := by
  rw [length_contents]
  exact wf.takes (Nat.min_le_right _ _) ⟨rfl, rfl⟩

theorem WellFormed.takes_readExact (want : Nat) :
    b.Takes (min want b.contents.length) (b.readExact want) := by
  rw [length_contents]
  exact wf.takes (Nat.min_le_right _ _) (b.took_readExact want)

theorem WellFormed.takes_readToEnd : b.Takes b.contents.length b.readToEnd := by
  rw [length_contents]
  exact wf.takes (Nat.le_refl _) (b.took_readWindows 4096 .empty)

theorem WellFormed.takes_readUntil (delimiter : UInt8) :
    ∃ n, Through delimiter b.contents (b.contents.take n) ∧
      (b.readUntil delimiter).answer.data.toList = b.contents.take n ∧
      b.Takes n (b.readUntil delimiter) := by
  obtain ⟨n, le, eq, through⟩ := b.readUntil_eq delimiter
  have took : b.Took n (b.readUntil delimiter) := by
    rw [eq]
    exact ⟨rfl, rfl⟩
  refine ⟨n, through, ?_, wf.takes le took⟩
  rw [eq]
  exact ByteArray.toList_data_take ..

end

theorem Takes.map {α β : Type} {f : α → β} {out : Outcome α} {n : Nat} (h : b.Takes n out) :
    b.Takes n (out.map f) :=
  { h with }

end Buffer

/-- Every reader of a reachable buffer takes a front of the unread bytes and leaves the others, with
the cursor past those it took. A read takes what fits the target, writes it over the front of it and
leaves the rest of the target alone. Reading an exact number of bytes takes so many, or everything
and fails. Reading to the end takes everything, in whatever steps. Reading up to a delimiter, or
skipping up to it, takes the shortest front that ends in it, or everything. A line, or all the text,
has been taken whether it decodes or not. -/
theorem readers_take_fronts {o : Options} {b : Buffer} (h : Reachable o b) :
    (∀ target : ByteArray,
      (b.readInto target).answer.1 = min target.size b.contents.length ∧
      (b.readInto target).answer.2.data.toList = b.contents.take target.size ++
        target.data.toList.drop (min target.size b.contents.length) ∧
      b.Takes (min target.size b.contents.length) (b.readInto target)) ∧
    (∀ want ≤ b.contents.length, ∃ got, (b.readExact want).answer = .ok got ∧
      got.data.toList = b.contents.take want ∧ b.Takes want (b.readExact want)) ∧
    (∀ want, b.contents.length < want → ∃ e, (b.readExact want).answer = .error e ∧
      e.kind = "UnexpectedEof" ∧ b.Takes b.contents.length (b.readExact want)) ∧
    (b.readToEnd.answer.data.toList = b.contents ∧ b.Takes b.contents.length b.readToEnd ∧
      ∀ windows, b.readBy windows 0 .empty = b.readToEnd) ∧
    (∀ delimiter, ∃ n, Through delimiter b.contents (b.contents.take n) ∧
      (b.readUntil delimiter).answer.data.toList = b.contents.take n ∧
      b.Takes n (b.readUntil delimiter) ∧
      (b.skipUntil delimiter).answer = n ∧ b.Takes n (b.skipUntil delimiter)) ∧
    (∃ n, Through Buffer.lineFeed b.contents (b.contents.take n) ∧
      Decodes (b.contents.take n) b.readLine.answer ∧ b.Takes n b.readLine) ∧
    Decodes b.contents b.readToString.answer ∧ b.Takes b.contents.length b.readToString := by
  have wf := h.wellFormed
  refine ⟨fun target => ⟨b.size_read _, b.overwrite_read target, wf.takes_readInto target⟩,
    fun want le => ?_, fun want lt => ?_,
    ⟨congrArg (·.data.toList) b.answer_readToEnd, wf.takes_readToEnd,
      fun windows => b.readBy_eq_readToEnd windows⟩,
    fun delimiter => ?_, ?_, ?_, wf.takes_readToEnd.map⟩
  · have takes := wf.takes_readExact want
    rw [Nat.min_eq_left le] at takes
    rw [b.length_contents] at le
    refine ⟨b.unread.take want, ?_, ByteArray.toList_data_take .., takes⟩
    rw [b.answer_readExact, if_pos le]
  · have takes := wf.takes_readExact want
    rw [Nat.min_eq_right (Nat.le_of_lt lt)] at takes
    rw [b.length_contents] at lt
    refine ⟨.unexpectedEnd, ?_, rfl, takes⟩
    rw [b.answer_readExact, if_neg (Nat.not_le.2 lt)]
  · obtain ⟨n, through, answer, takes⟩ := wf.takes_readUntil delimiter
    have size : (b.readUntil delimiter).answer.data.toList.length = n := by
      rw [answer, List.length_take_of_le takes.within]
    exact ⟨n, through, answer, takes, size, takes.map⟩
  · obtain ⟨n, through, answer, takes⟩ := wf.takes_readUntil Buffer.lineFeed
    refine ⟨n, through, ?_, takes.map⟩
    rw [← answer]
    exact decodes_decodeText _
  · rw [Buffer.readToString, Outcome.answer_map, b.answer_readToEnd]
    exact decodes_decodeText _

/-- Five unread bytes, with a consumed one in front. Reading two of them leaves the cursor behind
these; asking for nine fails, takes the five and rewinds. -/
theorem readers_take_fronts_of_five :
    ∃ b, Reachable { initialCapacity := 8 } b ∧ b.leading = 1 ∧
      b.contents = [104, 105, 10, 255, 10] ∧
      (∃ got, (b.readExact 2).answer = .ok got ∧ got.data.toList = [104, 105] ∧
        (b.readExact 2).after.contents = [10, 255, 10] ∧ (b.readExact 2).after.leading = 3) ∧
      (∃ e, (b.readExact 9).answer = .error e ∧ e.kind = "UnexpectedEof" ∧
        (b.readExact 9).after.contents = [] ∧ (b.readExact 9).after.leading = 0) ∧
      b.readToEnd.answer.data.toList = [104, 105, 10, 255, 10] ∧
      ∃ n ≤ 5, Decodes (b.contents.take n) b.readLine.answer := by
  have fresh : Reachable { initialCapacity := 8 }
      ⟨.empty, .empty, ⟨#[0, 0, 0, 0, 0, 0, 0, 0]⟩, { initialCapacity := 8 }⟩ :=
    .created (show Buffer.create (.upTo 8) _ = _ from rfl)
  have five := fresh.run
    [(.upTo 8, .append ⟨#[7, 104, 105, 10, 255, 10]⟩), (.upTo 8, .consume 1)]
  obtain ⟨-, whole, short, ⟨all, -, -⟩, -, ⟨n, -, line, takes⟩, -⟩ := readers_take_fronts five
  obtain ⟨got, two, front, left⟩ := whole 2 (by decide)
  obtain ⟨e, nine, kind, none⟩ := short 9 (by decide)
  exact ⟨_, five, rfl, rfl, ⟨got, two, front, left.contents, left.leading⟩,
    ⟨e, nine, kind, none.contents, none.leading⟩, all, n, takes.within, line⟩

end Spool
