import Spool.Peer.Scripted
import Spool.Proofs.Exits

/-!
# Honest peers

A source is honest when what it reports is what it wrote, the next bytes of those `pending`; a sink
when what it reports is what it kept. How many bytes they move in a call is up to them, but a source
moves some while it has any and is offered space, and so does a sink that is `Eager`. Both may be
honest in some of their states only: `fair` picks these out, and no call leaves them.
-/

namespace Spool

/-- `p` hands out the first `k` of the bytes `pending`, by way of `slice`. -/
structure Pull.Hands (slice pending : ByteArray) (k : Nat) (p : Pull) : Prop where
  answer : p.answer = .ok k
  within : k ≤ slice.size
  front : (slice.overwrite 0 p.slice).take k = pending.take k
  some : 0 < slice.size → 0 < pending.size → 0 < k

structure Source.Honest {σ : Type} (source : Source σ) (fair : σ → Prop) (pending : σ → ByteArray) :
    Prop where
  hands : ∀ {s : σ} (slice : ByteArray), fair s →
    ∃ k, (source s slice).1.Hands slice (pending s) k ∧
      pending (source s slice).2 = (pending s).drop k
  fair : ∀ {s : σ} (slice : ByteArray), fair s → fair (source s slice).2

structure Sink.Honest {τ : Type} (sink : Sink τ) (fair : τ → Prop) (got : τ → ByteArray) :
    Prop where
  keeps : ∀ {t : τ} (bytes : ByteArray), fair t →
    ∃ k ≤ bytes.size, (sink t bytes).1 = .ok k ∧ got (sink t bytes).2 = got t ++ bytes.take k
  fair : ∀ {t : τ} (bytes : ByteArray), fair t → fair (sink t bytes).2

/-- The sink takes something whenever it is offered something. -/
def Sink.Eager {τ : Type} (sink : Sink τ) (fair : τ → Prop) : Prop :=
  ∀ {t : τ} {bytes : ByteArray}, fair t → 0 < bytes.size → (sink t bytes).1 ≠ .ok 0

theorem Pull.Hands.le_pending {slice pending : ByteArray} {k : Nat} {p : Pull}
    (h : p.Hands slice pending k) : k ≤ pending.size := by
  have sizes := congrArg ByteArray.size h.front
  have := h.within
  simp only [ByteArray.size_take, ByteArray.size_overwrite] at sizes
  omega

/-! ## Scripted peers -/

theorem Pull.hands_take {slice pending : ByteArray} {k : Nat} (within : k ≤ slice.size)
    (left : k ≤ pending.size) (some : 0 < slice.size → 0 < pending.size → 0 < k) :
    (⟨pending.take k, .ok k⟩ : Pull).Hands slice pending k where
  answer := rfl
  within := within
  front := by
    have size : (pending.take k).size = k := by rw [ByteArray.size_take]; omega
    show (slice.overwrite 0 (pending.take k)).take k = pending.take k
    rw [ByteArray.take_overwrite_zero (by omega) (by omega), ByteArray.take_of_size_le (by omega)]
  some := some

/-- A feeder that reports what it does, and may hand out at least a byte at a time. -/
theorem Feeder.honest :
    Feeder.source.Honest (fun f => f.report = .honest ∧ f.most ≠ some 0) Feeder.data where
  hands := by
    intro f slice h
    obtain ⟨honest, some⟩ := h
    refine ⟨min (min f.data.size slice.size) (f.most.getD slice.size), ?_, rfl⟩
    rw [source, honest]
    refine Pull.hands_take (by omega) (by omega) fun offered left => ?_
    cases most : f.most with
    | none => rw [Option.getD_none]; omega
    | some m =>
      have : m ≠ 0 := by rintro rfl; exact some most
      rw [Option.getD_some]; omega
  fair := by
    rintro ⟨data, most, _⟩ slice ⟨rfl, some⟩
    exact ⟨rfl, some⟩

theorem Collector.honest (most : Option Nat) :
    Collector.sink.Honest (fun c => c.report = .honest ∧ c.most = most) Collector.got where
  keeps := by
    rintro ⟨got, _, _⟩ bytes ⟨rfl, rfl⟩
    exact ⟨_, Nat.min_le_left _ _, rfl, rfl⟩
  fair := by
    rintro ⟨got, _, _⟩ bytes ⟨rfl, rfl⟩
    exact ⟨rfl, rfl⟩

theorem Collector.eager {most : Option Nat} (some : most ≠ some 0) :
    Collector.sink.Eager (fun c => c.report = .honest ∧ c.most = most) := by
  rintro ⟨got, most, _⟩ bytes ⟨rfl, rfl⟩ offered none
  have zero : min bytes.size (most.getD bytes.size) = 0 := Except.ok.inj none
  cases most with
  | none => simp only [Option.getD_none] at zero; omega
  | some m =>
    have : m ≠ 0 := by rintro rfl; exact some rfl
    simp only [Option.getD_some] at zero; omega

/-! ## Transfers with honest peers -/

namespace Buffer

section

variable {σ : Type} {alloc : Allocator} {b : Buffer} {source : Source σ} {fair : σ → Prop}
  {pending : σ → ByteArray} {s : σ} {out : Outcome (Except IoError Nat) × σ}

/-- A fill from an honest source finds no room, or it moves the next pending bytes behind the unread
ones, some if any are left. -/
theorem Fills.honest (h : b.Fills alloc source s out) (hs : source.Honest fair pending)
    (fs : fair s) :
    (∃ e, out = (⟨.error (.allocation e), b, []⟩, s)) ∨
    ∃ k, out.1.answer = .ok k ∧ out.1.after.unread = b.unread ++ (pending s).take k ∧
      pending out.2 = (pending s).drop k ∧ k ≤ (pending s).size ∧
      (k = 0 → (pending s).size = 0) ∧ fair out.2 := by
  cases h with
  | refused => exact .inl ⟨_, rfl⟩
  | @failed room _ _ made ok fails =>
    obtain ⟨k, hands, -⟩ := hs.hands room.after.free fs
    rw [hands.answer] at fails
    cases fails
  | @overreported room _ n made ok claims past =>
    obtain ⟨k, hands, -⟩ := hs.hands room.after.free fs
    rw [hands.answer] at claims
    cases claims
    exact absurd hands.within (Nat.not_le.2 past)
  | @accepted room _ n made ok claims within =>
    obtain ⟨k, hands, left⟩ := hs.hands room.after.free fs
    rw [hands.answer] at claims
    cases claims
    refine .inr ⟨n, rfl, ?_, left, hands.le_pending, fun none => ?_, hs.fair _ fs⟩
    · rw [unread_accept, unread_writeSpare, made.unread]
      exact congrArg (b.unread ++ ·) hands.front
    · have room_pos : 0 < room.after.free.size :=
        Nat.lt_of_lt_of_le b.options.fillRoom_pos (made.le_trailing ok)
      have := hands.some room_pos
      omega

end

section

variable {τ : Type} {b : Buffer} {sink : Sink τ} {fair : τ → Prop} {got : τ → ByteArray} {t : τ}
  {out : Outcome (Except IoError Nat) × τ}

/-- A drain to an honest sink moves bytes from the front of the unread ones to the end of those it
has got. -/
theorem Drains.honest (h : b.Drains sink t out) (ht : sink.Honest fair got) (ft : fair t) :
    ∃ k, out.1.answer = .ok k ∧ out.1.after.unread = b.unread.drop k ∧
      got out.2 = got t ++ b.unread.take k ∧ fair out.2 := by
  cases h with
  | nothing => exact ⟨0, rfl, by simp, by simp, ft⟩
  | failed some fails =>
    obtain ⟨k, -, takes, -⟩ := ht.keeps b.unread ft
    rw [takes] at fails
    cases fails
  | @taken n some claims =>
    obtain ⟨k, -, takes, kept⟩ := ht.keeps b.unread ft
    rw [takes] at claims
    cases claims
    exact ⟨n, rfl, unread_consume b n, kept, ht.fair _ ft⟩

/-- An eager sink takes something unless there is nothing. -/
theorem Drains.eager (h : b.Drains sink t out) (eager : sink.Eager fair) (ft : fair t)
    (none : out.1.answer = .ok 0) : b.len = 0 := by
  cases h with
  | nothing empty => exact empty
  | failed => cases none
  | taken some claims =>
    cases none
    exact absurd claims (eager ft some)

end

end Buffer

end Spool
