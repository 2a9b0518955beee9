import Spool.Proofs.Pipeline
import Spool.Proofs.Traps

/-!
# The ways to append

Bytes can be appended in one call, or by hand: make room, write them to the front of the free space,
commit them (`appendBySpare`). They can be written to the buffer as to a sink, once or until all of
them were taken (`Sink.WritesAll`). Main statement: all of these come to the same buffer and the
same events, whichever way room was made, and without room each of them leaves the buffer as it was.
-/

namespace Spool

/-! ## Appending by hand -/

namespace Buffer

/-- Makes room for `data`, writes it to the front of the free space and commits it. The answer tells
how room was made and how the commit went; without room nothing is written. -/
def appendBySpare (alloc : Allocator) (b : Buffer) (data : ByteArray) :
    Outcome (Except AllocationError (Relocation × Except Overrun Unit)) :=
  let room := b.makeRoom alloc data.size
  match room.answer with
  | .error e => ⟨.error e, room.after, room.events⟩
  | .ok r =>
    let committed := (room.after.writeSpare 0 data).commit data.size
    ⟨.ok (r, committed.answer), committed.after, room.events ++ committed.events⟩

end Buffer

namespace Window

/-- Appends by hand. The copy traps unless the spare slice is long enough for all of `data`. -/
def appendBySpare (alloc : Allocator) (w : Window) (data : ByteArray) :
    Except Trap (Reply (Except AllocationError Relocation)) := do
  let room ← w.makeRoom alloc data.size
  match room.answer with
  | .error e => return ⟨.error e, room.after, room.events⟩
  | .ok r =>
    let spare ← room.after.spare
    let copied ← Slice.paste spare 0 data.size data
    let written ← room.after.writeSpare 0 copied
    let after ← written.after.commit data.size
    return ⟨.ok r, after, room.events⟩

end Window

/-! ## Writing until all is taken -/

namespace Sink

/-- The sink is called again and again with what is left of the bytes, until none are left or until
it fails; a call that was merely interrupted is made again, and one that takes nothing is a failure.
There is no going on after a sink that claims more than it was offered. -/
inductive WritesAll {τ : Type} (sink : Sink τ) :
    τ → ByteArray → Except IoError Unit → τ → Prop where
  | done (t : τ) : WritesAll sink t .empty (.ok ()) t
  | stuck {t : τ} {data : ByteArray} (some : 0 < data.size) (takes : (sink t data).1 = .ok 0) :
      WritesAll sink t data
        (.error (.fault ⟨"WriteZero", "failed to write whole buffer"⟩)) (sink t data).2
  | more {t t' : τ} {data : ByteArray} {n : Nat} {a : Except IoError Unit} (some : 0 < data.size)
      (takes : (sink t data).1 = .ok n) (pos : 0 < n) (within : n ≤ data.size)
      (rest : WritesAll sink (sink t data).2 (data.drop n) a t') : WritesAll sink t data a t'
  | again {t t' : τ} {data : ByteArray} {e : IoError} {a : Except IoError Unit}
      (some : 0 < data.size) (fails : (sink t data).1 = .error e)
      (interrupted : e.kind = "Interrupted")
      (rest : WritesAll sink (sink t data).2 data a t') : WritesAll sink t data a t'
  | failed {t : τ} {data : ByteArray} {e : IoError} (some : 0 < data.size)
      (fails : (sink t data).1 = .error e) (final : e.kind ≠ "Interrupted") :
      WritesAll sink t data (.error e) (sink t data).2

section

variable {τ : Type} {sink : Sink τ} {t t' : τ} {data : ByteArray} {a : Except IoError Unit}

theorem writesAll_empty_iff : sink.WritesAll t .empty a t' ↔ a = .ok () ∧ t' = t := by
  constructor
  · intro h
    cases h with
    | done => exact ⟨rfl, rfl⟩
    | stuck some | more some | again some | failed some => exact absurd some (Nat.lt_irrefl 0)
  · rintro ⟨rfl, rfl⟩
    exact .done t'

/-- A sink that takes everything is called once. -/
theorem writesAll_iff_of_all (some : 0 < data.size) (takes : (sink t data).1 = .ok data.size) :
    sink.WritesAll t data a t' ↔ a = .ok () ∧ t' = (sink t data).2 := by
  have none : data.drop data.size = .empty := by
    rw [← ByteArray.size_eq_zero_iff, ByteArray.size_drop, Nat.sub_self]
  constructor
  · intro h
    cases h with
    | done => exact absurd some (Nat.lt_irrefl 0)
    | stuck _ nothing =>
      have zero : data.size = 0 := Except.ok.inj (takes.symm.trans nothing)
      omega
    | more _ takes' _ _ rest =>
      obtain rfl := Except.ok.inj (takes.symm.trans takes')
      rw [none] at rest
      exact writesAll_empty_iff.1 rest
    | again _ fails | failed _ fails => rw [takes] at fails; cases fails
  · rintro ⟨rfl, rfl⟩
    refine .more some takes some (Nat.le_refl _) ?_
    rw [none]
    exact .done _

/-- A sink that fails, and was not merely interrupted, is not called again. -/
theorem writesAll_iff_of_error {e : IoError} (some : 0 < data.size)
    (fails : (sink t data).1 = .error e) (final : e.kind ≠ "Interrupted") :
    sink.WritesAll t data a t' ↔ a = .error e ∧ t' = (sink t data).2 := by
  constructor
  · intro h
    cases h with
    | done => exact absurd some (Nat.lt_irrefl 0)
    | stuck _ takes | more _ takes => rw [fails] at takes; cases takes
    | again _ fails' interrupted =>
      obtain rfl := Except.error.inj (fails.symm.trans fails')
      exact absurd interrupted final
    | failed _ fails' =>
      obtain rfl := Except.error.inj (fails.symm.trans fails')
      exact ⟨rfl, rfl⟩
  · rintro ⟨rfl, rfl⟩
    exact .failed some fails final

end

end Sink

/-! ## Each way is an append -/

namespace Buffer

variable {alloc : Allocator} {b : Buffer}

/-- The commit is never of more than there is room for. -/
theorem appendBySpare_eq (alloc : Allocator) (b : Buffer) (data : ByteArray) :
    b.appendBySpare alloc data = (b.append alloc data).map fun a => a.map fun r => (r, .ok ()) := by
  have exits := b.appends alloc data
  have made := b.makesRoom alloc data.size
  generalize b.append alloc data = out at exits
  unfold appendBySpare
  cases exits with
  | refused refuses =>
    rw [refuses.makeRoom_eq]
    rfl
  | @added room r made ok =>
    have fits : data.size ≤ (room.after.writeSpare 0 data).trailing := by
      rw [trailing_writeSpare]
      exact made.le_trailing ok
    rw [← made.eq_makeRoom]
    dsimp only
    rw [ok]
    simp only [commit, if_pos fits, List.append_nil]
    rfl

/-- All of the data fits into the spare slice, so the copy does not trap either. -/
theorem WellFormed.appendBySpare_window {o : Options} (h : b.WellFormed o) (alloc : Allocator)
    (data : ByteArray) : b.window.appendBySpare alloc data = .ok (b.append alloc data).window := by
  have exits := b.appends alloc data
  have wf := h.makeRoom alloc data.size
  rw [Window.appendBySpare, h.makeRoom_window, ok_bind]
  generalize b.append alloc data = out at exits
  cases exits with
  | refused refuses =>
    rw [refuses.makeRoom_eq]
    rfl
  | @added room r made ok =>
    rw [← made.eq_makeRoom] at wf ⊢
    have fits : data.size ≤ room.after.trailing := made.le_trailing ok
    have within : data.size ≤ (room.after.writeSpare 0 data).trailing := by
      rwa [trailing_writeSpare]
    have copy : Slice.paste room.after.free 0 data.size data =
        .ok (room.after.free.overwrite 0 data) :=
      Slice.paste_of_le (Nat.zero_le _) fits rfl
    have whole : room.after.writeSpare 0 (room.after.free.overwrite 0 data) =
        room.after.writeSpare 0 data := by
      unfold writeSpare
      rw [ByteArray.overwrite_zero_of_size_eq (ByteArray.size_overwrite ..)]
    have written : Change alloc room.after (room.after.writeSpare 0 data) [] := .written 0 data
    dsimp only [Outcome.window]
    rw [ok]
    dsimp only
    rw [spare_window, ok_bind, copy, ok_bind, writeSpare_window, ok_bind, whole,
      (wf.change written).commit_window within, ok_bind]
    rfl

/-- A buffer is done with after one call: it takes everything or fails for good. -/
theorem writesAll_sink_iff (alloc : Allocator) (b : Buffer) (es : List Event) (data : ByteArray)
    (a : Except IoError Unit) (t : Buffer × List Event) :
    (sink alloc).WritesAll (b, es) data a t ↔ a = (b.writeAll alloc data).answer ∧
      t = ((b.writeAll alloc data).after, es ++ (b.writeAll alloc data).events) := by
  rcases Nat.eq_zero_or_pos data.size with none | some
  · obtain rfl := ByteArray.size_eq_zero_iff.1 none
    rw [Sink.writesAll_empty_iff, writeAll, if_pos none, List.append_nil]
  · have push := sink_eq alloc b es data
    rw [writeAll_eq_map_append]
    cases answer : (b.append alloc data).answer with
    | ok r =>
      rw [answer] at push
      rw [Sink.writesAll_iff_of_all some (congrArg Prod.fst push), push, Outcome.map, answer]
      rfl
    | error e =>
      rw [answer] at push
      have final : (IoError.allocation e).kind ≠ "Interrupted" :=
        show "OutOfMemory" ≠ "Interrupted" by decide
      rw [Sink.writesAll_iff_of_error some (congrArg Prod.fst push) final, push, Outcome.map,
        answer]
      rfl

end Buffer

open Buffer

/-- On a reachable buffer, appending by hand answers what an append answers, its commit included,
and leaves behind the same region, the same cursors and the same events; so does a window, on which
neither the copy nor the commit traps. A write is an append that answers the number of bytes.
Writing until all is taken ends in exactly one way: with the append done, or, if it is refused, with
nothing done at all. -/
theorem appends_alike {o : Options} {b : Buffer} (h : Reachable o b) (alloc : Allocator)
    (data : ByteArray) :
    b.appendBySpare alloc data = ((b.append alloc data).map fun a => a.map fun r => (r, .ok ())) ∧
    b.window.appendBySpare alloc data = .ok (b.append alloc data).window ∧
    b.window.append alloc data = .ok (b.append alloc data).window ∧
    (∀ r, (b.append alloc data).answer = .ok r →
      b.write alloc data =
        ⟨.ok data.size, (b.append alloc data).after, (b.append alloc data).events⟩ ∧
      b.writeAll alloc data = ⟨.ok (), (b.append alloc data).after, (b.append alloc data).events⟩) ∧
    (∀ e, (b.append alloc data).answer = .error e →
      b.append alloc data = ⟨.error e, b, []⟩ ∧
      b.write alloc data = ⟨.error (.allocation e), b, []⟩ ∧
      b.writeAll alloc data = ⟨.error (.allocation e), b, []⟩) ∧
    ∀ es a t, (sink alloc).WritesAll (b, es) data a t ↔ a = (b.writeAll alloc data).answer ∧
      t = ((b.writeAll alloc data).after, es ++ (b.writeAll alloc data).events) := by
  have wf := h.wellFormed
  refine ⟨appendBySpare_eq alloc b data, wf.appendBySpare_window alloc data,
    wf.append_window alloc data, ?_, ?_, fun es => writesAll_sink_iff alloc b es data⟩
  · intro r answer
    rw [write_eq_map_append, writeAll_eq_map_append, Outcome.map, Outcome.map, answer]
    exact ⟨rfl, rfl⟩
  · intro e answer
    have unchanged : b.append alloc data = ⟨.error e, b, []⟩ := by
      have exits := b.appends alloc data
      generalize b.append alloc data = out at exits answer
      cases exits with
      | refused => cases answer; rfl
      | added => cases answer
    rw [write_eq_map_append, writeAll_eq_map_append, unchanged]
    exact ⟨rfl, rfl, rfl⟩

/-- Three bytes for which the one that is unread has to be moved to the front, and as many again,
for which there is no memory. -/
theorem appends_alike_of_three :
    Reachable { initialCapacity := 4 } ⟨⟨#[1, 2]⟩, ⟨#[3]⟩, ⟨#[0]⟩, { initialCapacity := 4 }⟩ ∧
    (Buffer.mk ⟨#[1, 2]⟩ ⟨#[3]⟩ ⟨#[0]⟩ { initialCapacity := 4 }).window.appendBySpare (.upTo 4)
      ⟨#[4, 5, 6]⟩ = .ok ⟨.ok (.compacted 1), ⟨⟨#[3, 4, 5, 6]⟩, 0, 4, { initialCapacity := 4 }⟩,
        [.compacted 1 4]⟩ ∧
    (Buffer.mk ⟨#[1, 2]⟩ ⟨#[3]⟩ ⟨#[0]⟩ { initialCapacity := 4 }).appendBySpare (.upTo 4)
      ⟨#[4, 5, 6, 4, 5, 6]⟩ =
        ⟨.error ⟨14⟩, ⟨⟨#[1, 2]⟩, ⟨#[3]⟩, ⟨#[0]⟩, { initialCapacity := 4 }⟩, []⟩ := by
  have fresh : Reachable { initialCapacity := 4 }
      ⟨.empty, .empty, ⟨#[0, 0, 0, 0]⟩, { initialCapacity := 4 }⟩ :=
    .created (show Buffer.create (.upTo 4) _ = _ from rfl)
  have used := fresh.run [(.upTo 4, .append ⟨#[1, 2, 3]⟩), (.upTo 4, .consume 2)]
  exact ⟨used, (appends_alike used (.upTo 4) _).2.1, (appends_alike used (.upTo 4) _).1⟩

end Spool
