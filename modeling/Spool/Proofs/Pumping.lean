import Spool.Pump
import Spool.Proofs.Honest

/-!
# Pumping between honest peers

What the sink has got, the unread bytes and the bytes the source still has, in this order, are the
same byte string from the first fill to the last drain (`Carries`). Every round but the last takes
some of the pending bytes, so there is a last one. Main statement: the pump ends, and unless a
region was refused on the way an eager sink has then got everything.

The memory there is may change from round to round, so `rounds` takes an allocator for each.
-/

namespace Spool

/-! ## Draining again and again -/

namespace Buffer

section

variable {τ : Type} {sink : Sink τ}

/-- Once more drains are allowed than there are unread bytes, the limit plays no part. -/
theorem drainUpTo_eq_of_len_lt {k m : Nat} {t : τ} {b : Buffer} (hk : b.len < k) (hm : b.len < m) :
    b.drainUpTo sink k t = b.drainUpTo sink m t := by
  induction k generalizing m t b with
  | zero => omega
  | succ k ih =>
    obtain ⟨m, rfl⟩ : ∃ m', m = m' + 1 := ⟨m - 1, by omega⟩
    simp only [drainUpTo]
    split
    · next n some =>
      have less := (b.drains sink t).len_lt some
      rw [ih (by omega) (by omega : _ < m)]
    · rfl

theorem drainUpTo_eq_drainAll {k : Nat} {t : τ} {b : Buffer} (h : b.len < k) :
    b.drainUpTo sink k t = b.drainAll sink t :=
  drainUpTo_eq_of_len_lt h (Nat.lt_succ_self _)

/-- What one drain keeps, any number of them keeps. -/
theorem drainUpTo_preserves {P : Buffer → τ → Prop}
    (keep : ∀ {b t}, P b t → P (b.drain sink t).1.after (b.drain sink t).2) (k : Nat) {b : Buffer}
    {t : τ} (h : P b t) : P (b.drainUpTo sink k t).1.after (b.drainUpTo sink k t).2 := by
  induction k generalizing b t with
  | zero => exact h
  | succ k ih =>
    simp only [drainUpTo]
    split
    · exact ih (keep h)
    · exact keep h

/-- With an honest sink the drains end with one that takes nothing, and an eager sink has taken
everything by then. -/
theorem drainUpTo_ends {fair : τ → Prop} {got : τ → ByteArray} (ht : sink.Honest fair got) {k : Nat}
    {b : Buffer} {t : τ} (ft : fair t) (h : b.len < k) :
    (b.drainUpTo sink k t).1.answer.getLast? = some (.ok 0) ∧
      (sink.Eager fair → (b.drainUpTo sink k t).1.after.len = 0) := by
  induction k generalizing b t with
  | zero => omega
  | succ k ih =>
    obtain ⟨n, answer, unread, -, ft'⟩ := (b.drains sink t).honest ht ft
    simp only [drainUpTo]
    split
    · next some =>
      have less := (b.drains sink t).len_lt some
      obtain ⟨last, empty⟩ := ih ft' (Nat.lt_of_lt_of_le less (Nat.le_of_lt_succ h))
      refine ⟨?_, empty⟩
      rw [List.getLast?_cons, last, Option.getD_some]
    · next none =>
      cases n with
      | zero =>
        refine ⟨by rw [answer]; rfl, fun eager => ?_⟩
        have empty : b.unread.size = 0 := (b.drains sink t).eager eager ft answer
        show (b.drain sink t).1.after.len = 0
        rw [len, unread, ByteArray.size_drop, empty]
      | succ n => exact absurd answer (none n)

end

end Buffer

/-! ## What is carried -/

section

variable {σ τ : Type} {fairS : σ → Prop} {pending : σ → ByteArray} {fairT : τ → Prop}
  {got : τ → ByteArray} {source : Source σ} {sink : Sink τ} {alloc : Allocator} {all : ByteArray}
  {b : Buffer} {s : σ} {t : τ}

/-- The peers are fair, and between them they and the buffer hold `all`. -/
structure Carries (fairS : σ → Prop) (pending : σ → ByteArray) (fairT : τ → Prop)
    (got : τ → ByteArray) (all : ByteArray) (b : Buffer) (s : σ) (t : τ) : Prop where
  fairSource : fairS s
  fairSink : fairT t
  held : got t ++ b.unread ++ pending s = all

theorem Carries.fill (h : Carries fairS pending fairT got all b s t)
    (hs : source.Honest fairS pending) (alloc : Allocator) :
    Carries fairS pending fairT got all (b.fill alloc source s).1.after
      (b.fill alloc source s).2 t := by
  rcases (b.fills alloc source s).honest hs h.fairSource with
    ⟨e, out⟩ | ⟨k, -, unread, left, -, -, fair⟩
  · rw [out]
    exact h
  · refine ⟨fair, h.fairSink, ?_⟩
    rw [unread, left, ← h.held]
    simp only [ByteArray.append_assoc, ByteArray.take_append_drop]

theorem Carries.drain (h : Carries fairS pending fairT got all b s t)
    (ht : sink.Honest fairT got) :
    Carries fairS pending fairT got all (b.drain sink t).1.after s (b.drain sink t).2 := by
  obtain ⟨k, -, unread, kept, fair⟩ := (b.drains sink t).honest ht h.fairSink
  refine ⟨h.fairSource, fair, ?_⟩
  rw [unread, kept, ← h.held]
  congr 1
  rw [ByteArray.append_assoc, ByteArray.take_append_drop]

theorem Carries.drainUpTo (h : Carries fairS pending fairT got all b s t)
    (ht : sink.Honest fairT got) (k : Nat) :
    Carries fairS pending fairT got all (b.drainUpTo sink k t).1.after s (b.drainUpTo sink k t).2 :=
  Buffer.drainUpTo_preserves (P := fun b t => Carries fairS pending fairT got all b s t)
    (fun h => h.drain ht) k h

end

/-! ## Rounds -/

namespace Pump

section

variable {σ τ : Type} (alloc : Nat → Allocator) (source : Source σ) (sink : Sink τ)
  (limit : Option Nat)

/-- A pump before its first round. -/
def start (b : Buffer) (s : σ) (t : τ) : Pump σ τ := { buffer := b, source := s, sink := t }

/-- The pump after so many rounds, round `n` with the allocator `alloc n`. -/
def rounds (p : Pump σ τ) : Nat → Pump σ τ
  | 0 => p
  | n + 1 => (p.rounds n).round (alloc n) source sink limit

/-- The fill of the next round. -/
def filling (a : Allocator) (p : Pump σ τ) : Outcome (Except IoError Nat) × σ :=
  p.buffer.fill a source p.source

/-- The buffer and the peers of a pump as they are between rounds, after the fill of a round, and
after any of the drains that follow it. -/
inductive Passes (p : Pump σ τ) : Buffer → σ → τ → Prop where
  | rest (n : Nat) : Passes p (p.rounds alloc source sink limit n).buffer
      (p.rounds alloc source sink limit n).source (p.rounds alloc source sink limit n).sink
  | filled {n : Nat} {q : Pump σ τ} (now : p.rounds alloc source sink limit n = q)
      (going : q.finished = false) :
      Passes p (q.filling source (alloc n)).1.after (q.filling source (alloc n)).2 q.sink
  | drained {n : Nat} {q : Pump σ τ} (k : Nat) (now : p.rounds alloc source sink limit n = q)
      (going : q.finished = false) :
      Passes p ((q.filling source (alloc n)).1.after.drainUpTo sink k q.sink).1.after
        (q.filling source (alloc n)).2
        ((q.filling source (alloc n)).1.after.drainUpTo sink k q.sink).2

end

/-- The exits of a round of a pump that has not finished. -/
inductive Goes {σ τ : Type} (a : Allocator) (source : Source σ) (sink : Sink τ) (p : Pump σ τ) :
    Pump σ τ → Prop where
  | on {k m : Nat} {es : List Event} (brings : (p.filling source a).1.answer = .ok (k + 1)) :
      Goes a source sink p
        { buffer := ((p.filling source a).1.after.drainUpTo sink m p.sink).1.after
          source := (p.filling source a).2
          sink := ((p.filling source a).1.after.drainUpTo sink m p.sink).2
          fills := p.fills.push (.ok (k + 1), (p.filling source a).1.after.capacity)
          events := es
          finished := false }
  | last {es : List Event} (stops : ∀ k, (p.filling source a).1.answer ≠ .ok (k + 1)) :
      Goes a source sink p
        { buffer := ((p.filling source a).1.after.drainAll sink p.sink).1.after
          source := (p.filling source a).2
          sink := ((p.filling source a).1.after.drainAll sink p.sink).2
          fills := p.fills.push
            ((p.filling source a).1.answer, (p.filling source a).1.after.capacity)
          events := es
          finished := true }

section

variable {σ τ : Type} {a : Allocator} {source : Source σ} {sink : Sink τ} {limit : Option Nat}
  {p : Pump σ τ}

theorem round_of_finished (h : p.finished = true) : p.round a source sink limit = p := by
  rw [round, if_pos h]

theorem drains_of_finished (t : τ) (b : Buffer) :
    drains sink limit true t b = b.drainAll sink t := by
  cases limit <;> rfl

theorem exists_drains_eq (sink : Sink τ) (limit : Option Nat) (t : τ) (b : Buffer) :
    ∃ m, drains sink limit false t b = b.drainUpTo sink m t := by
  cases limit with
  | none => exact ⟨b.len + 1, rfl⟩
  | some m => exact ⟨m, rfl⟩

theorem goes (h : p.finished = false) : p.Goes a source sink (p.round a source sink limit) := by
  rw [round, if_neg (by rw [h]; exact Bool.false_ne_true)]
  dsimp only
  split
  · next k brings =>
    obtain ⟨m, eq⟩ := exists_drains_eq sink limit p.sink
      (p.buffer.fill a source p.source).1.after
    rw [eq, brings]
    exact .on brings
  · next stops =>
    rw [drains_of_finished]
    exact .last stops

theorem rounds_of_finished {alloc : Nat → Allocator} (h : p.finished = true) (n : Nat) :
    p.rounds alloc source sink limit n = p := by
  induction n with
  | zero => rfl
  | succ n ih => rw [rounds, ih, round_of_finished h]

theorem rounds_eq_of_le {alloc : Nat → Allocator} {n m : Nat}
    (fin : (p.rounds alloc source sink limit n).finished = true) (h : n ≤ m) :
    p.rounds alloc source sink limit m = p.rounds alloc source sink limit n := by
  induction h with
  | refl => rfl
  | step _ ih => rw [rounds, ih, round_of_finished fin]

/-- What a round keeps that is still to be done holds after any number of them. -/
theorem rounds_induction {alloc : Nat → Allocator} {P : Nat → Pump σ τ → Prop} (start : P 0 p)
    (stays : ∀ {n q}, P n q → q.finished = true → P (n + 1) q)
    (goes : ∀ {n q q'}, P n q → q.finished = false → q.Goes (alloc n) source sink q' →
      P (n + 1) q') (n : Nat) : P n (p.rounds alloc source sink limit n) := by
  induction n with
  | zero => exact start
  | succ n ih =>
    rw [rounds]
    cases fin : (p.rounds alloc source sink limit n).finished with
    | true => rw [round_of_finished fin]; exact stays ih fin
    | false => exact goes ih fin (Pump.goes fin)

/-- The rounds of a run are all made with one allocator. -/
theorem run_eq_rounds (n : Nat) :
    p.run a source sink limit n = p.rounds (fun _ => a) source sink limit n := by
  have shift : ∀ (n : Nat) (p : Pump σ τ), (p.round a source sink limit).rounds (fun _ => a) source
      sink limit n = p.rounds (fun _ => a) source sink limit (n + 1) := by
    intro n p
    induction n with
    | zero => rfl
    | succ n ih => exact congrArg (round a source sink limit) ih
  induction n generalizing p with
  | zero => rfl
  | succ n ih =>
    rw [run]
    split
    · next h => rw [rounds_of_finished h]
    · rw [ih, shift]

end

end Pump

/-! ## What rounds keep -/

section

variable {σ τ : Type} {fairS : σ → Prop} {pending : σ → ByteArray} {fairT : τ → Prop}
  {got : τ → ByteArray} {source : Source σ} {sink : Sink τ} {alloc : Nat → Allocator}
  {limit : Option Nat} {all : ByteArray} {p : Pump σ τ} (hs : source.Honest fairS pending)
  (ht : sink.Honest fairT got) (h : Carries fairS pending fairT got all p.buffer p.source p.sink)

include hs ht h

theorem Carries.goes {a : Allocator} {q : Pump σ τ} (goes : p.Goes a source sink q) :
    Carries fairS pending fairT got all q.buffer q.source q.sink := by
  cases goes with
  | on => exact (h.fill hs a).drainUpTo ht _
  | last => exact (h.fill hs a).drainUpTo ht _

theorem Carries.rounds (n : Nat) : Carries fairS pending fairT got all
    (p.rounds alloc source sink limit n).buffer (p.rounds alloc source sink limit n).source
    (p.rounds alloc source sink limit n).sink :=
  Pump.rounds_induction
    (P := fun _ q => Carries fairS pending fairT got all q.buffer q.source q.sink)
    h (fun held _ => held) (fun held _ goes => held.goes hs ht goes) n

theorem Carries.passes {b : Buffer} {s : σ} {t : τ}
    (passes : p.Passes alloc source sink limit b s t) :
    Carries fairS pending fairT got all b s t := by
  cases passes with
  | rest n => exact h.rounds hs ht n
  | @filled n q now =>
    subst now
    exact (h.rounds hs ht n).fill hs _
  | @drained n q k now =>
    subst now
    exact ((h.rounds hs ht n).fill hs _).drainUpTo ht k

/-- Each round that is not the last takes at least one of the pending bytes. -/
theorem Carries.finished_or_le (n : Nat) : (p.rounds alloc source sink limit n).finished = true ∨
    (pending (p.rounds alloc source sink limit n).source).size + n ≤ (pending p.source).size := by
  refine (Pump.rounds_induction (P := fun n q => Carries fairS pending fairT got all q.buffer
    q.source q.sink ∧ (q.finished = true ∨ (pending q.source).size + n ≤ (pending p.source).size))
    ⟨h, .inr (Nat.le_refl _)⟩ (fun held fin => ⟨held.1, .inl fin⟩) ?_ n).2
  rintro n q q' ⟨held, left⟩ going goes
  refine ⟨held.goes hs ht goes, ?_⟩
  cases goes with
  | last => exact .inl rfl
  | @on k m es brings =>
    rcases (q.buffer.fills (alloc n) source q.source).honest hs held.fairSource with
      ⟨e, out⟩ | ⟨k', answer, -, rest, within, -, -⟩
    · rw [Pump.filling, out] at brings
      cases brings
    · rw [Pump.filling, answer] at brings
      cases brings
      have left := left.resolve_left (by rw [going]; exact Bool.false_ne_true)
      have less : (pending (q.filling source (alloc n)).2).size =
          (pending q.source).size - (k + 1) := by
        rw [Pump.filling, rest, ByteArray.size_drop]
      right
      show (pending (q.filling source (alloc n)).2).size + (n + 1) ≤ _
      omega

/-- A pump that has finished has done so because no region could be had, or because the source has
nothing left; and an eager sink has left nothing unread. -/
theorem Carries.last_fill (going : p.finished = false) (n : Nat)
    (fin : (p.rounds alloc source sink limit n).finished = true) :
    ∃ a cap, (p.rounds alloc source sink limit n).fills.back? = some (a, cap) ∧
      ((∃ e, a = .error (.allocation e)) ∨
        a = .ok 0 ∧ (pending (p.rounds alloc source sink limit n).source).size = 0) ∧
      (sink.Eager fairT → (p.rounds alloc source sink limit n).buffer.len = 0) := by
  revert fin
  refine (Pump.rounds_induction (P := fun _ q => Carries fairS pending fairT got all q.buffer
    q.source q.sink ∧ (q.finished = true → ∃ a cap, q.fills.back? = some (a, cap) ∧
      ((∃ e, a = .error (.allocation e)) ∨ a = .ok 0 ∧ (pending q.source).size = 0) ∧
      (sink.Eager fairT → q.buffer.len = 0)))
    ⟨h, fun fin => by rw [going] at fin; cases fin⟩ (fun held _ => held) ?_ n).2
  rintro n q q' ⟨held, -⟩ - goes
  refine ⟨held.goes hs ht goes, fun fin => ?_⟩
  cases goes with
  | on => cases fin
  | last stops =>
    refine ⟨_, _, Array.back?_push .., ?_, fun eager => ?_⟩
    · rcases (q.buffer.fills (alloc n) source q.source).honest hs held.fairSource with
        ⟨e, out⟩ | ⟨k, answer, -, rest, -, none, -⟩
      · left
        exact ⟨e, by rw [Pump.filling, out]⟩
      · right
        cases k with
        | zero =>
          refine ⟨answer, ?_⟩
          show (pending (q.filling source (alloc n)).2).size = 0
          rw [Pump.filling, rest, ByteArray.drop_zero, none rfl]
        | succ k => exact absurd answer (stops k)
    · have filled := held.fill hs (alloc n)
      exact (Buffer.drainUpTo_ends ht filled.fairSink (Nat.lt_succ_self _)).2 eager

end

/-- With honest peers nothing is lost or reordered at any moment of a pump, and its loops end:
drains that are not limited come to one that takes nothing, and no more rounds are made than the
source has bytes, and one. Unless a region was refused on the way, an eager sink has everything in
the end. -/
theorem pump_delivers {σ τ : Type} {source : Source σ} {sink : Sink τ} {fairS : σ → Prop}
    {pending : σ → ByteArray} {fairT : τ → Prop} {got : τ → ByteArray}
    (hs : source.Honest fairS pending) (ht : sink.Honest fairT got) (alloc : Nat → Allocator)
    (limit : Option Nat) (b : Buffer) {s : σ} {t : τ} (fs : fairS s) (ft : fairT t) :
    (∀ {b' : Buffer} {s' : σ} {t' : τ},
      (Pump.start b s t).Passes alloc source sink limit b' s' t' →
        got t' ++ b'.unread ++ pending s' = got t ++ b.unread ++ pending s ∧
          (b'.drainAll sink t').1.answer.getLast? = some (.ok 0)) ∧
    ∃ n ≤ (pending s).size + 1, ∃ p : Pump σ τ, p.finished = true ∧
      (∀ m, n ≤ m → (Pump.start b s t).rounds alloc source sink limit m = p) ∧
      (∀ a m, alloc = (fun _ => a) → n ≤ m →
        (Pump.start b s t).run a source sink limit m = p) ∧
      (sink.Eager fairT → (∀ e cap, (.error (.allocation e), cap) ∉ p.fills) →
        (∃ cap, p.fills.back? = some (.ok 0, cap)) ∧ p.buffer.isEmpty = true ∧
          got p.sink = got t ++ b.unread ++ pending s) := by
  have start : Carries fairS pending fairT got (got t ++ b.unread ++ pending s)
      (Pump.start b s t).buffer (Pump.start b s t).source (Pump.start b s t).sink := ⟨fs, ft, rfl⟩
  refine ⟨fun passes => ?_, ?_⟩
  · have now := start.passes hs ht passes
    exact ⟨now.held, (Buffer.drainUpTo_ends ht now.fairSink (Nat.lt_succ_self _)).1⟩
  · obtain ⟨p, last⟩ : ∃ p, (Pump.start b s t).rounds alloc source sink limit
      ((pending s).size + 1) = p := ⟨_, rfl⟩
    have fin : p.finished = true := by
      rcases start.finished_or_le hs ht ((pending s).size + 1) with fin | left
      · rw [← last]
        exact fin
      · have : (pending (Pump.start b s t).source).size = (pending s).size := rfl
        omega
    have stays : ∀ m, (pending s).size + 1 ≤ m →
        (Pump.start b s t).rounds alloc source sink limit m = p := by
      intro m more
      rw [Pump.rounds_eq_of_le (by rw [last]; exact fin) more, last]
    refine ⟨_, Nat.le_refl _, p, fin, stays, ?_, fun eager granted => ?_⟩
    · rintro a m rfl more
      rw [Pump.run_eq_rounds, stays m more]
    · have held : got p.sink ++ p.buffer.unread ++ pending p.source =
          got t ++ b.unread ++ pending s := by
        rw [← last]
        exact (start.rounds hs ht _).held
      obtain ⟨a, cap, back, why, empty⟩ := start.last_fill hs ht rfl _ (by rw [last]; exact fin)
      rw [last] at back why empty
      rcases why with ⟨e, rfl⟩ | ⟨rfl, none⟩
      · exact absurd (Array.mem_of_back? back) (granted e cap)
      · refine ⟨⟨cap, back⟩, beq_iff_eq.2 (empty eager), ?_⟩
        rw [← held, ByteArray.size_eq_zero_iff.1 none, ByteArray.size_eq_zero_iff.1 (empty eager),
          ByteArray.append_empty, ByteArray.append_empty]

/-- Through a buffer without room to begin with, to a sink that takes a byte at a time and is called
once a round. -/
theorem pump_delivers_bytewise :
    ((Pump.start ⟨.empty, ⟨#[1, 2]⟩, .empty, { readSize := 0 }⟩
      ({ data := ⟨#[3, 4, 5]⟩, most := some 2 } : Feeder) ({ most := some 1 } : Collector)).run
        (.upTo 8) Feeder.source Collector.sink (some 1) 4).sink.got = ⟨#[1, 2, 3, 4, 5]⟩ := by
  obtain ⟨-, n, within, p, -, -, runs, ends⟩ := pump_delivers Feeder.honest
    (Collector.honest (some 1)) (fun _ => .upTo 8) (some 1)
    ⟨.empty, ⟨#[1, 2]⟩, .empty, { readSize := 0 }⟩ (s := { data := ⟨#[3, 4, 5]⟩, most := some 2 })
    (t := { most := some 1 }) ⟨rfl, by decide⟩ ⟨rfl, rfl⟩
  have run := runs (.upTo 8) 4 rfl within
  have fills : p.fills = #[(.ok 2, 5), (.ok 1, 5), (.ok 0, 5)] := by
    rw [← run]
    rfl
  obtain ⟨-, -, got⟩ := ends (Collector.eager (by decide)) (by rw [fills]; simp)
  rw [run, got]
  decide

end Spool
