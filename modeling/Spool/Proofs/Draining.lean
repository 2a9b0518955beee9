import Mathlib.Algebra.GroupWithZero.Nat
import Spool.Pump
import Spool.Proofs.Extents
import Spool.Proofs.Reservation

/-!
# Draining into any sink

A sink may keep a state, fail at any call and report what it likes. One drain shows it the unread
bytes, if there are any, and takes its word for how many are gone, as far as there are so many.
`DrainsOut` is the loop that goes on until a drain fails or reports 0, without a bound on how long
that takes. Main statement: it has at most one drain more than there are unread bytes, and if it
ends with a 0 that the sink never reports, the buffer is empty.
-/

namespace Spool

open Buffer

namespace Buffer

/-! ## One drain -/

theorem WellFormed.clear_of_empty {o : Options} {b : Buffer} (wf : b.WellFormed o)
    (empty : b.len = 0) : b.clear = b := by
  have unread := ByteArray.size_eq_zero_iff.1 empty
  have spent := ByteArray.size_eq_zero_iff.1 (wf.rewound empty)
  obtain ⟨_, _, free, options⟩ := b
  subst unread spent
  simp [clear, region]

/-- Consuming more than there is consumes what there is. -/
theorem WellFormed.consume_min {o : Options} {b : Buffer} (wf : b.WellFormed o) (n : Nat) :
    b.consume (min n b.len) = b.consume n := by
  rcases Nat.lt_or_ge n b.len with lt | le
  · rw [Nat.min_eq_left (Nat.le_of_lt lt)]
  · rw [Nat.min_eq_right le]
    by_cases empty : b.len = 0
    · have cleared := wf.clear_of_empty empty
      rw [empty, consume_zero]
      by_cases zero : n = 0
      · rw [zero, consume_zero]
      · rw [consume_of_le b n zero le, cleared]
    · rw [consume_of_le b b.len empty (Nat.le_refl _), consume_of_le b n (by omega) le]

/-- As many unread bytes are taken as a sink reports, as far as there are so many. -/
theorem WellFormed.takes_reported {o : Options} {b : Buffer} (wf : b.WellFormed o) {α : Type}
    {out : Outcome α} {n : Nat} (took : b.Took n out) : b.Takes (min n b.len) out :=
  wf.takes (Nat.min_le_right n b.len) ⟨took.1.trans (wf.consume_min n).symm, took.2⟩

section

variable {τ : Type} {sink : Sink τ} {t : τ} {b : Buffer}

/-- There is one way to drain. -/
theorem Drains.eq_drain {out : Outcome (Except IoError Nat) × τ} (h : b.Drains sink t out) :
    out = b.drain sink t := by
  unfold drain isEmpty
  cases h with
  | nothing empty => rw [if_pos (beq_iff_eq.2 empty)]
  | failed some fails =>
    rw [if_neg fun empty => Nat.ne_of_gt some (beq_iff_eq.1 empty)]
    dsimp only
    rw [fails]
  | taken some claims =>
    rw [if_neg fun empty => Nat.ne_of_gt some (beq_iff_eq.1 empty)]
    dsimp only
    rw [claims]

theorem Drains.of_eq {out : Outcome (Except IoError Nat) × τ} (h : b.drain sink t = out) :
    b.Drains sink t out := h ▸ b.drains sink t

/-- A sink sees the unread bytes, once, and is not called for none. -/
theorem drain_watched_eq (sink : Sink τ) (t : τ) (seen : List ByteArray) (b : Buffer) :
    b.drain sink.watched (t, seen) = ((b.drain sink t).1, (b.drain sink t).2,
      seen ++ if b.len = 0 then [] else [b.unread]) := by
  have exits := b.drains sink t
  generalize b.drain sink t = out at exits
  cases exits with
  | nothing empty =>
    have watched : b.Drains sink.watched (t, seen) _ := .nothing empty
    rw [← watched.eq_drain, if_pos empty, List.append_nil]
  | failed some fails =>
    have watched : b.Drains sink.watched (t, seen) _ := .failed some fails
    rw [← watched.eq_drain, if_neg (Nat.ne_of_gt some)]
    rfl
  | taken some claims =>
    have watched : b.Drains sink.watched (t, seen) _ := .taken some claims
    rw [← watched.eq_drain, if_neg (Nat.ne_of_gt some)]
    rfl

end

end Buffer

/-! ## Draining until it ends -/

/-- Drains until one fails or reports 0: what those before it reported, its own answer, and what
becomes of the buffer and the sink. -/
inductive DrainsOut {τ : Type} (sink : Sink τ) :
    Buffer → τ → List Nat → Except IoError Nat → Buffer → τ → Prop where
  | failed {b c : Buffer} {t u : τ} {e : IoError} :
      b.drain sink t = (⟨.error e, c, []⟩, u) → DrainsOut sink b t [] (.error e) c u
  | ended {b c : Buffer} {t u : τ} :
      b.drain sink t = (⟨.ok 0, c, []⟩, u) → DrainsOut sink b t [] (.ok 0) c u
  | more {b c d : Buffer} {t u v : τ} {n : Nat} {counts : List Nat} {last : Except IoError Nat} :
      b.drain sink t = (⟨.ok (n + 1), c, []⟩, u) → DrainsOut sink c u counts last d v →
      DrainsOut sink b t ((n + 1) :: counts) last d v

section

variable {τ : Type} {sink : Sink τ} {b c : Buffer} {t u : τ} {counts : List Nat}
  {last : Except IoError Nat}

/-- There is a last drain, as every other one leaves fewer unread bytes. -/
theorem exists_drainsOut (sink : Sink τ) (b : Buffer) (t : τ) :
    ∃ counts last c u, DrainsOut sink b t counts last c u := by
  rcases drains : b.drain sink t with ⟨⟨answer, c, events⟩, u⟩
  have exits := Drains.of_eq drains
  obtain rfl : events = [] := exits.took.2
  match answer with
  | .error e => exact ⟨[], .error e, c, u, .failed drains⟩
  | .ok 0 => exact ⟨[], .ok 0, c, u, .ended drains⟩
  | .ok (n + 1) =>
    have less : c.len < b.len := exits.len_lt rfl
    obtain ⟨counts, last, d, v, rest⟩ := exists_drainsOut sink c u
    exact ⟨(n + 1) :: counts, last, d, v, .more drains rest⟩
termination_by b.len

namespace DrainsOut

theorem length_le (h : DrainsOut sink b t counts last c u) : counts.length ≤ b.len := by
  induction h with
  | failed | ended => exact Nat.zero_le _
  | more drains _ ih =>
    have less := (Drains.of_eq drains).len_lt rfl
    exact Nat.lt_of_le_of_lt ih less

/-- Where the limit is not reached, the loop with a limit is the one without. -/
theorem drainUpTo_eq (h : DrainsOut sink b t counts last c u) {k : Nat}
    (enough : counts.length < k) :
    b.drainUpTo sink k t = (⟨counts.map .ok ++ [last], c, []⟩, u) := by
  induction h generalizing k with
  | failed drains | ended drains =>
    obtain ⟨k, rfl⟩ : ∃ k', k = k' + 1 := ⟨k - 1, by omega⟩
    simp only [Buffer.drainUpTo, drains]
    rfl
  | more drains _ ih =>
    obtain ⟨k, rfl⟩ : ∃ k', k = k' + 1 := ⟨k - 1, by omega⟩
    simp only [Buffer.drainUpTo, drains, ih (Nat.lt_of_succ_lt_succ enough)]
    rfl

theorem consumed (h : DrainsOut sink b t counts last c u) : c = b.consume counts.sum := by
  induction h with
  | @failed b _ _ _ _ drains | @ended b _ _ _ drains => exact (Drains.of_eq drains).took.1
  | @more b c _ _ _ _ n counts _ drains _ ih =>
    have first : c = b.consume (n + 1) := (Drains.of_eq drains).took.1
    rw [ih, first, consume_consume, List.sum_cons]

/-- If no drain of unread bytes reports 0, the one that does finds none. -/
theorem len_eq_zero (h : DrainsOut sink b t counts (.ok 0) c u)
    (takes : ∀ t bytes, 0 < bytes.size → (sink t bytes).1 ≠ .ok 0) : c.len = 0 := by
  generalize zero : (Except.ok 0 : Except IoError Nat) = last at h
  induction h with
  | failed => cases zero
  | ended drains =>
    cases Drains.of_eq drains with
    | nothing empty => exact empty
    | taken some claims => exact absurd claims (takes _ _ some)
  | more _ _ ih => exact ih zero

end DrainsOut

end

/-- Whatever a sink does, a drain of a reachable buffer calls it at most once, and with the unread
bytes, of which there are some then. If it fails, the drain fails with its error and leaves
everything as it was; if it reports a number, so many unread bytes are gone from the front, or all
of them if they are fewer. Draining until a drain fails or reports 0 takes at most one drain more
than there are unread bytes. If it ends with a 0 and the sink never reports that, the buffer is
empty and has gone back to the front. -/
theorem drain_faces_any_sink {o : Options} {b : Buffer} (h : Reachable o b) {τ : Type}
    (sink : Sink τ) (t : τ) :
    (∀ seen, b.drain sink.watched (t, seen) = ((b.drain sink t).1, (b.drain sink t).2,
      seen ++ if b.len = 0 then [] else [b.unread])) ∧
    (b.len = 0 → b.drain sink t = (⟨.ok 0, b, []⟩, t)) ∧
    (∀ e, 0 < b.len → (sink t b.unread).1 = .error e →
      b.drain sink t = (⟨.error e, b, []⟩, (sink t b.unread).2)) ∧
    (∀ n, 0 < b.len → (sink t b.unread).1 = .ok n →
      (b.drain sink t).1.answer = .ok n ∧ (b.drain sink t).2 = (sink t b.unread).2 ∧
      b.Takes (min n b.len) (b.drain sink t).1) ∧
    (∃ counts last c u, DrainsOut sink b t counts last c u) ∧
    ∀ counts last c u, DrainsOut sink b t counts last c u →
      b.drainAll sink t = (⟨counts.map .ok ++ [last], c, []⟩, u) ∧
      counts.length + 1 ≤ b.len + 1 ∧
      b.Takes (min counts.sum b.len) (b.drainAll sink t).1 ∧
      (last = .ok 0 → (∀ t bytes, 0 < bytes.size → (sink t bytes).1 ≠ .ok 0) →
        c.len = 0 ∧ c.readAt = 0 ∧ c.writeAt = 0) := by
  have wf := h.wellFormed
  refine ⟨fun seen => b.drain_watched_eq sink t seen, fun empty => ?_, fun e some fails => ?_,
    fun n some claims => ?_, exists_drainsOut sink b t, fun counts last c u out => ?_⟩
  · have exits : b.Drains sink t _ := .nothing empty
    exact exits.eq_drain.symm
  · have exits : b.Drains sink t _ := .failed some fails
    exact exits.eq_drain.symm
  · have exits : b.Drains sink t _ := .taken some claims
    rw [← exits.eq_drain]
    exact ⟨rfl, rfl, wf.takes_reported exits.took⟩
  · have all : b.drainAll sink t = _ := out.drainUpTo_eq (Nat.lt_succ_of_le out.length_le)
    refine ⟨all, Nat.succ_le_succ out.length_le, ?_, ?_⟩
    · rw [all]
      exact wf.takes_reported ⟨out.consumed, rfl⟩
    · rintro rfl takes
      have empty := out.len_eq_zero takes
      have front : c.leading = 0 := by
        rw [out.consumed] at empty ⊢
        exact (wf.consume _).rewound empty
      have hread : c.readAt = c.leading := rfl
      have hwrite : c.writeAt = c.leading + c.len := rfl
      exact ⟨empty, by omega, by omega⟩

/-- Three bytes are unread, behind one that was consumed. The sink reports one byte more with each
call: two of the three, then three of the one that is left, and is not called for none. -/
theorem drain_faces_any_sink_of_three :
    ∃ b, Reachable { initialCapacity := 4 } b ∧ b.contents = [1, 2, 3] ∧ b.leading = 1 ∧
      ∃ c, DrainsOut (fun t _ => (.ok (t + 1), t + 1)) b 1 [2, 3] (.ok 0) c 3 ∧
        c.len = 0 ∧ c.readAt = 0 ∧ c.region = ⟨#[0, 1, 2, 3]⟩ := by
  have fresh : Reachable { initialCapacity := 4 }
      ⟨.empty, .empty, ⟨#[0, 0, 0, 0]⟩, { initialCapacity := 4 }⟩ :=
    .created (show Buffer.create (.upTo 4) _ = _ from rfl)
  have three := fresh.run [(.upTo 4, .append ⟨#[0, 1, 2, 3]⟩), (.upTo 4, .consume 1)]
  have out : DrainsOut (fun t _ => (.ok (t + 1), t + 1))
      ⟨⟨#[0]⟩, ⟨#[1, 2, 3]⟩, .empty, { initialCapacity := 4 }⟩ 1 [2, 3] (.ok 0)
      ⟨.empty, .empty, ⟨#[0, 1, 2, 3]⟩, { initialCapacity := 4 }⟩ 3 := by
    apply DrainsOut.more rfl
    apply DrainsOut.more rfl
    exact .ended rfl
  obtain ⟨-, -, -, -, -, ends⟩ :=
    drain_faces_any_sink three (fun t _ => (.ok (t + 1), t + 1)) 1
  obtain ⟨-, -, -, empty⟩ := ends _ _ _ _ out
  obtain ⟨none, front, -⟩ := empty rfl fun t _ _ => by simp
  exact ⟨_, three, rfl, rfl, _, out, none, front, rfl⟩

end Spool
