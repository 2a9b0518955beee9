import Spool.Proofs.Backlog
import Spool.Proofs.Decoding
import Spool.Proofs.WindowTrial

/-!
# Trials end well

A pair is `Sound` when its buffer is well formed and its queue is what is unread. A command keeps
that, or no memory could be had for it (`Pair.Applies`), so the one violation a trial can end with
is a refusal, and on windows it does not trap. What a command asks the allocator for is bounded by
what the commands so far could bring in, their `need`, and that by the bytes that they were decoded
from. Main statement: `trials_end_well`.
-/

namespace Spool.Buffer

variable {alloc : Allocator} {b : Buffer} {n : Nat}

/-- A region that is refused is no larger than the demand explains. -/
theorem Refuses.size_le {e : AllocationError} (h : b.Refuses alloc n e) :
    alloc.grants (b.grownCapacity n) = false ∧ e = .refused (b.grownCapacity n) ∧
      b.grownCapacity n ≤ 256 * (b.len + n) := by
  obtain ⟨refuses, eq⟩ := Allocator.allocate_eq_error_iff.1 h.refused
  refine ⟨refuses, eq, ?_⟩
  calc b.grownCapacity n
      ≤ (b.options.growth.multiplier + 1) * (b.len + n) := grownCapacity_le h.short
    _ ≤ 256 * (b.len + n) :=
        Nat.mul_le_mul_right _ (Nat.succ_le_succ b.options.growth.multiplier_le)

/-- An append that moved the unread bytes to the front did so within the region. -/
theorem Appends.capacity_of_compacted {data : ByteArray} {moved : Nat}
    {out : Outcome (Except AllocationError Relocation)} (h : b.Appends alloc data out)
    (ok : out.answer = .ok (.compacted moved)) : out.after.capacity = b.capacity := by
  cases h with
  | refused => cases ok
  | added made granted =>
    rw [capacity_accept, capacity_writeSpare]
    cases made with
    | compacted => exact b.capacity_compact
    | inPlace | grown | refused =>
      cases ok
      cases granted

/-- Bytes that there is room for can be accepted once they are written. -/
theorem WellFormed.written {o : Options} {data : ByteArray} (h : b.WellFormed o)
    (alloc : Allocator) (fits : data.size ≤ b.trailing) :
    (b.writeSpare 0 data).WellFormed o ∧ data.size ≤ (b.writeSpare 0 data).trailing := by
  have written : Change alloc b (b.writeSpare 0 data) [] := .written 0 data
  exact ⟨h.change written, by rw [trailing_writeSpare]; exact fits⟩

end Spool.Buffer

namespace Spool.Trial

open Buffer

/-- The bytes that a command adds, or asks room for. -/
def Command.need : Command → Nat
  | append data => data.length
  | makeRoom n | commit n _ | shrink n => n.toNat
  | _ => 0

theorem Command.need_le (c : Command) : c.need ≤ 65535 * (c.payload + 1) := by
  have word : ∀ n : UInt16, n.toNat ≤ 65535 := fun n => Nat.le_of_lt_succ n.toNat_lt
  cases c with
  | append data => simp only [need, payload]; omega
  | makeRoom n | commit n _ | shrink n => exact word n
  | _ => exact Nat.zero_le _

theorem sum_need_le (cs : List Command) : (cs.map Command.need).sum ≤ 65535 * volume cs := by
  induction cs with
  | nil => exact Nat.zero_le _
  | cons c cs ih =>
    have first := c.need_le
    simp only [volume, List.map_cons, List.sum_cons] at ih ⊢
    omega

/-! ## One command -/

structure Pair.Sound (o : Options) (p : Pair) : Prop where
  wellFormed : p.buffer.WellFormed o
  contents : p.buffer.unread = p.queue

/-- How a command can end: soundly, with no more bytes added than it needs, or with no memory for a
region, which is no larger than the need explains. -/
inductive Pair.Applies (o : Options) (alloc : Allocator) (p : Pair) (c : Command) :
    Except Violation Pair → Prop where
  | done {q : Pair} (sound : q.Sound o) (within : q.buffer.len ≤ p.buffer.len + c.need) :
      Applies o alloc p c (.ok q)
  | refused {request : Request} {size : Nat} (refuses : alloc.grants size = false)
      (within : size ≤ 256 * (p.buffer.len + c.need)) :
      Applies o alloc p c (.error (.refused request (.refused size)))

/-- After a command that ended soundly no check fails. -/
theorem Pair.Sound.violation?_eq_none {o : Options} {p : Pair} (h : p.Sound o) :
    p.violation? = none := by
  have hcap : p.buffer.capacity = p.buffer.leading + p.buffer.len + p.buffer.trailing := rfl
  have rewound : ¬ (p.buffer.isEmpty = true ∧ p.buffer.leading ≠ 0) := by
    rintro ⟨empty, some⟩
    exact some (h.wellFormed.rewound (beq_iff_eq.1 empty))
  unfold violation?
  rw [if_neg (by omega), if_neg rewound, if_neg (not_not_intro h.contents)]

namespace Pair.Sound

variable {o : Options} {p : Pair} (h : p.Sound o)

include h

theorem applies_append (alloc : Allocator) (data : List UInt8) :
    p.Applies o alloc (.append data) (p.apply alloc (.append data)).1 := by
  have exits := p.buffer.appends alloc data.toByteArray
  have wellFormed := exits.changes.preserves WellFormed.change h.wellFormed
  unfold Pair.apply
  dsimp only
  generalize p.buffer.append alloc data.toByteArray = out at exits wellFormed
  obtain ⟨answer, after, events⟩ := out
  cases answer with
  | error e =>
    cases exits with
    | refused refuses =>
      obtain ⟨none, rfl, le⟩ := refuses.size_le
      have need : data.toByteArray.size = (Command.append data).need := List.size_toByteArray
      exact .refused none (by omega)
  | ok r =>
    have unread : after.unread = p.buffer.unread ++ data.toByteArray := exits.unread_of_ok rfl
    have done : p.Applies o alloc (.append data) (.ok ⟨after, p.queue ++ data.toByteArray⟩) := by
      refine .done ⟨wellFormed, by rw [unread, h.contents]⟩ ?_
      have size : data.toByteArray.size = data.length := List.size_toByteArray
      show after.unread.size ≤ p.buffer.unread.size + data.length
      rw [unread, ByteArray.size_append]
      omega
    cases r with
    | inPlace | grown => exact done
    | compacted moved =>
      have same : after.capacity = p.buffer.capacity := exits.capacity_of_compacted rfl
      dsimp only
      rw [if_pos same]
      exact done

theorem applies_makeRoom (alloc : Allocator) (n : UInt16) :
    p.Applies o alloc (.makeRoom n) (p.apply alloc (.makeRoom n)).1 := by
  have exits := p.buffer.makesRoom alloc n.toNat
  have wellFormed := exits.changes.preserves WellFormed.change h.wellFormed
  unfold Pair.apply
  dsimp only
  generalize p.buffer.makeRoom alloc n.toNat = out at exits wellFormed
  obtain ⟨answer, after, events⟩ := out
  cases answer with
  | error e =>
    obtain ⟨none, rfl, le⟩ := (exits.refuses rfl).size_le
    exact .refused none le
  | ok r =>
    have room : n.toNat ≤ after.trailing := exits.le_trailing rfl
    have unread : after.unread = p.buffer.unread := exits.unread
    have len : after.len = p.buffer.len := congrArg ByteArray.size unread
    dsimp only
    rw [if_pos room]
    refine .done ⟨wellFormed, by rw [unread, h.contents]⟩ ?_
    show after.len ≤ p.buffer.len + n.toNat
    omega

theorem applies_shrink (alloc : Allocator) (n : UInt16) :
    p.Applies o alloc (.shrink n) (p.apply alloc (.shrink n)).1 := by
  have exits := p.buffer.shrinks alloc n.toNat
  have wellFormed := exits.changes.preserves WellFormed.change h.wellFormed
  have done : p.buffer.len ≤ p.buffer.len + n.toNat := Nat.le_add_right ..
  unfold Pair.apply
  dsimp only
  generalize p.buffer.shrink alloc n.toNat = out at exits wellFormed
  cases exits with
  | kept | moved => exact .done ⟨wellFormed, h.contents⟩ done
  | refused loose refused =>
    obtain ⟨none, rfl⟩ := Allocator.allocate_eq_error_iff.1 refused
    refine .refused none ?_
    show max n.toNat p.buffer.len ≤ 256 * (p.buffer.len + n.toNat)
    omega

/-- As many bytes are written as there is room for, so all of them are accepted. -/
theorem applies_commit (alloc : Allocator) (n : UInt16) (fill : UInt8) :
    p.Applies o alloc (.commit n fill) (p.apply alloc (.commit n fill)).1 := by
  unfold Pair.apply
  dsimp only
  generalize hdata : ByteArray.replicate (min n.toNat p.buffer.trailing) fill = data
  have size : data.size = min n.toNat p.buffer.trailing := by
    rw [← hdata, ByteArray.size_replicate]
  have fits : data.size ≤ p.buffer.trailing := by omega
  obtain ⟨written, within⟩ := h.wellFormed.written alloc fits
  have accepted : Change alloc (p.buffer.writeSpare 0 data) _ [] := .accepted within
  have wellFormed := written.change accepted
  rw [Buffer.commit, if_pos within]
  rw [accept_writeSpare _ fits] at wellFormed ⊢
  refine .done ⟨wellFormed, ?_⟩ ?_
  · show p.buffer.unread ++ data = p.queue ++ data
    rw [h.contents]
  · show (p.buffer.unread ++ data).size ≤ p.buffer.unread.size + n.toNat
    rw [ByteArray.size_append]
    omega

theorem applies (alloc : Allocator) (c : Command) : p.Applies o alloc c (p.apply alloc c).1 := by
  cases c with
  | append data => exact h.applies_append alloc data
  | makeRoom n => exact h.applies_makeRoom alloc n
  | shrink n => exact h.applies_shrink alloc n
  | commit n fill => exact h.applies_commit alloc n fill
  | consume n =>
    refine .done ⟨h.wellFormed.consume n.toNat, ?_⟩ ?_
    · show (p.buffer.consume n.toNat).unread = p.queue.drop n.toNat
      rw [unread_consume, h.contents]
    · show (p.buffer.consume n.toNat).len ≤ p.buffer.len + 0
      rw [len_consume]
      omega
  | drain =>
    have len : (p.buffer.consume p.buffer.len).len = 0 := by rw [len_consume, Nat.sub_self]
    refine .done ⟨h.wellFormed.consume _, ByteArray.size_eq_zero_iff.1 len⟩ ?_
    show (p.buffer.consume p.buffer.len).len ≤ p.buffer.len + 0
    omega
  | clear =>
    have forgets : Change alloc p.buffer p.buffer.clear [] := .cleared
    refine .done ⟨h.wellFormed.change forgets, rfl⟩ ?_
    show p.buffer.clear.len ≤ p.buffer.len + 0
    rw [len_clear]
    omega

/-! ## Whole trials -/

/-- A trial from a sound pair ends in a sound one, or at a refusal of a region that the bytes unread
at first and the need of the commands explain. -/
theorem runWith (cs : List Command) (alloc : Nat → Allocator) :
    (∃ q, (p.runWith alloc cs).1 = .ok q ∧ q.Sound o) ∨
    ∃ i request size, (p.runWith alloc cs).1 = .error (.refused request (.refused size)) ∧
      (alloc i).grants size = false ∧
      size ≤ 256 * (p.buffer.len + (cs.map Command.need).sum) := by
  induction cs generalizing p alloc with
  | nil => exact .inl ⟨p, rfl, h⟩
  | cons c cs ih =>
    have exits := h.applies (alloc 0) c
    rw [List.map_cons, List.sum_cons, Pair.runWith]
    generalize p.apply (alloc 0) c = r at exits
    obtain ⟨result, events⟩ := r
    cases exits with
    | @done q sound within =>
      dsimp only
      rw [sound.violation?_eq_none]
      rcases ih sound fun i => alloc (i + 1) with ends | ⟨i, request, size, error, refuses, le⟩
      · exact .inl ends
      · exact .inr ⟨i + 1, request, size, error, refuses, by omega⟩
    | @refused request size refuses within =>
      exact .inr ⟨0, request, size, rfl, refuses, by omega⟩

end Pair.Sound

/-! ## Trials on windows -/

def Pair.window (p : Pair) : WindowPair := ⟨p.buffer.window, p.queue⟩

namespace Pair.Sound

variable {o : Options} {p : Pair} (h : p.Sound o)

include h

theorem violation?_window : p.window.violation? = .ok p.violation? := by
  have hcap : p.buffer.capacity = p.buffer.leading + p.buffer.len + p.buffer.trailing := rfl
  have front : Word.add p.buffer.len p.buffer.window.leading =
      .ok (p.buffer.len + p.buffer.leading) :=
    h.wellFormed.add_window (show p.buffer.len + p.buffer.leading ≤ p.buffer.capacity by omega)
  have whole : Word.add (p.buffer.len + p.buffer.leading) p.buffer.trailing = .ok _ :=
    h.wellFormed.add_window (by omega)
  show WindowPair.violation? ⟨p.buffer.window, p.queue⟩ = _
  unfold WindowPair.violation? Pair.violation?
  rw [len_window, ok_bind, front, ok_bind, trailing_window, ok_bind, whole, ok_bind,
    capacity_window, isEmpty_window, peek_window, ok_bind]
  split
  · rfl
  · show (if p.buffer.isEmpty = true ∧ p.buffer.leading ≠ 0 then _ else _) = _
    by_cases behind : p.buffer.isEmpty = true ∧ p.buffer.leading ≠ 0
    · rw [if_pos behind, if_pos behind]
      rfl
    · rw [if_neg behind, if_neg behind]
      rfl

/-- What the trial cuts out of the spare slice and out of the queue lies within them. -/
theorem apply_window (alloc : Allocator) (c : Command) : p.window.apply alloc c =
    .ok ((p.apply alloc c).1.map Pair.window, (p.apply alloc c).2) := by
  show WindowPair.apply alloc ⟨p.buffer.window, p.queue⟩ c = _
  cases c with
  | append data =>
    unfold WindowPair.apply Pair.apply
    dsimp only
    rw [h.wellFormed.append_window, ok_bind]
    generalize p.buffer.append alloc data.toByteArray = out
    obtain ⟨answer, after, events⟩ := out
    cases answer with
    | error e => rfl
    | ok r =>
      cases r with
      | inPlace | grown => rfl
      | compacted moved =>
        simp only [Outcome.window, capacity_window]
        split <;> rfl
  | consume n =>
    have cut : Slice.cut p.queue (min n.toNat p.queue.size) p.queue.size = .ok _ :=
      Slice.cut_of_le (Nat.min_le_right ..) (Nat.le_refl _)
    unfold WindowPair.apply Pair.apply
    dsimp only
    rw [h.wellFormed.consume_window, ok_bind, cut, ok_bind]
    rfl
  | drain =>
    unfold WindowPair.apply Pair.apply
    dsimp only
    rw [len_window, ok_bind, h.wellFormed.consume_window, ok_bind]
    rfl
  | makeRoom n =>
    unfold WindowPair.apply Pair.apply
    dsimp only
    rw [h.wellFormed.makeRoom_window, ok_bind]
    generalize p.buffer.makeRoom alloc n.toNat = out
    obtain ⟨answer, after, events⟩ := out
    cases answer with
    | error e => rfl
    | ok r =>
      dsimp only [Outcome.window]
      rw [trailing_window, ok_bind]
      split <;> rfl
  | commit n fill =>
    have within : min n.toNat p.buffer.trailing ≤ p.buffer.free.size := Nat.min_le_right ..
    have cut : Slice.cut p.buffer.free 0 (min n.toNat p.buffer.trailing) = .ok _ :=
      Slice.cut_of_le (Nat.zero_le _) within
    have size : (p.buffer.free.extract 0 (min n.toNat p.buffer.trailing)).size =
        min n.toNat p.buffer.trailing := by
      rw [ByteArray.size_extract]
      omega
    unfold WindowPair.apply Pair.apply
    dsimp only
    rw [trailing_window, ok_bind, spare_window, ok_bind, cut, ok_bind, size, writeSpare_window,
      ok_bind]
    generalize hdata : ByteArray.replicate (min n.toNat p.buffer.trailing) fill = data
    have all : data.size = min n.toNat p.buffer.trailing := by
      rw [← hdata, ByteArray.size_replicate]
    obtain ⟨written, room⟩ :=
      h.wellFormed.written alloc (show data.size ≤ p.buffer.trailing by omega)
    dsimp only
    rw [← all, written.commit_window room, ok_bind, Buffer.commit, if_pos room]
    rfl
  | shrink n =>
    unfold WindowPair.apply Pair.apply
    dsimp only
    rw [shrink_window, ok_bind]
    generalize p.buffer.shrink alloc n.toNat = out
    obtain ⟨answer, after, events⟩ := out
    cases answer <;> rfl
  | clear =>
    unfold WindowPair.apply Pair.apply
    dsimp only
    rw [clear_window]
    rfl

theorem runWith_window (cs : List Command) (alloc : Nat → Allocator) :
    p.window.runWith alloc cs =
      .ok ((p.runWith alloc cs).1.map Pair.window, (p.runWith alloc cs).2) := by
  induction cs generalizing p alloc with
  | nil => rfl
  | cons c cs ih =>
    have exits := h.applies (alloc 0) c
    rw [WindowPair.runWith, h.apply_window, ok_bind, Pair.runWith]
    generalize p.apply (alloc 0) c = r at exits
    obtain ⟨result, events⟩ := r
    cases exits with
    | @done q sound within =>
      dsimp only [Except.map]
      rw [sound.violation?_window, ok_bind, sound.violation?_eq_none]
      dsimp only
      rw [ih sound, ok_bind]
      rfl
    | refused => rfl

end Pair.Sound

/-! ## Programs -/

theorem Pair.run_eq_runWith (alloc : Allocator) (p : Pair) (cs : List Command) :
    p.run alloc cs = p.runWith (fun _ => alloc) cs := by
  induction cs generalizing p with
  | nil => rfl
  | cons c cs ih =>
    unfold run runWith
    generalize p.apply alloc c = r
    obtain ⟨result, events⟩ := r
    cases result with
    | error v => rfl
    | ok q =>
      dsimp only
      cases q.violation? with
      | some v => rfl
      | none =>
        dsimp only
        rw [ih q]

theorem Program.run_eq_runWith (alloc : Allocator) (p : Program) :
    p.run alloc = p.runWith fun _ => alloc := by
  unfold run runWith
  cases create alloc p.options with
  | error e => rfl
  | ok b =>
    dsimp only
    rw [Pair.run_eq_runWith]

theorem Pair.Sound.of_create {alloc : Allocator} {o : Options} {b : Buffer}
    (created : create alloc o = .ok b) : Sound o ⟨b, .empty⟩ ∧ b.len = 0 := by
  have wellFormed := WellFormed.of_create created
  obtain ⟨-, rfl⟩ := create_eq_ok_iff.1 created
  exact ⟨⟨wellFormed, rfl⟩, rfl⟩

/-- A trial ends with all commands done, or at a refusal of a region that the need of its commands
explains. -/
theorem Program.runWith_exits (p : Program) (alloc : Nat → Allocator) :
    (p.runWith alloc).1 = .ok () ∨
    ∃ i request size, (p.runWith alloc).1 = .error (.refused request (.refused size)) ∧
      (alloc i).grants size = false ∧
      size ≤ max 255 (256 * (p.commands.map Command.need).sum) := by
  unfold runWith
  cases created : create (alloc 0) p.options with
  | error e =>
    obtain ⟨refuses, rfl⟩ := create_eq_error_iff.1 created
    have small : p.options.initialCapacity.toNat ≤ 255 := by
      have byte := p.initialCapacity.toNat_lt
      rw [options, UInt8.toNat_toUInt64]
      omega
    exact .inr ⟨0, .create, _, rfl, refuses, by omega⟩
  | ok b =>
    obtain ⟨sound, empty⟩ := Pair.Sound.of_create created
    dsimp only
    rcases sound.runWith p.commands fun i => alloc (i + 1) with
      ⟨q, ok, -⟩ | ⟨i, request, size, error, refuses, le⟩
    · left
      rw [ok]
      rfl
    · right
      refine ⟨i + 1, request, size, by rw [error]; rfl, refuses, ?_⟩
      dsimp only at le
      omega

theorem Program.runOnWindow_eq (p : Program) (alloc : Nat → Allocator) :
    p.runOnWindow alloc = .ok (p.runWith alloc) := by
  unfold runOnWindow runWith
  rw [create_window]
  cases created : create (alloc 0) p.options with
  | error e => rfl
  | ok b =>
    obtain ⟨sound, -⟩ := Pair.Sound.of_create created
    dsimp only [Except.map]
    have runs := sound.runWith_window p.commands fun i => alloc (i + 1)
    rw [Pair.window] at runs
    rw [runs, ok_bind]
    cases (Pair.runWith (fun i => alloc (i + 1)) ⟨b, .empty⟩ p.commands).1 <;> rfl

/-- Whatever memory there is, on every program a trial ends without a trap and without a failed
check: all commands are done, or one of them is refused a region. On a program of no more than
`2 ^ 23` bytes it ends with all commands done if no request up to `2 ^ 47` bytes is refused. -/
theorem trials_end_well (alloc : Nat → Allocator) :
    (∀ p : Program, p.runOnWindow alloc = .ok (p.runWith alloc) ∧
      ((p.runWith alloc).1 = .ok () ∨
        ∃ request e, (p.runWith alloc).1 = .error (.refused request e)) ∧
      ∀ a, alloc = (fun _ => a) → p.runWith alloc = p.run a) ∧
    ∀ bs : List UInt8, bs.length ≤ 2 ^ 23 →
      (∀ i size, size ≤ 2 ^ 47 → (alloc i).grants size = true) →
        ((program bs).runWith alloc).1 = .ok () := by
  refine ⟨fun p => ⟨p.runOnWindow_eq alloc, ?_, ?_⟩, fun bs short granted => ?_⟩
  · rcases p.runWith_exits alloc with ok | ⟨i, request, size, error, -, -⟩
    · exact .inl ok
    · exact .inr ⟨request, _, error⟩
  · rintro a rfl
    exact (p.run_eq_runWith a).symm
  · rcases (program bs).runWith_exits alloc with ok | ⟨i, request, size, -, refuses, le⟩
    · exact ok
    · have need := sum_need_le (program bs).commands
      have volume := volume_program_le bs
      rw [granted i size (by omega)] at refuses
      cases refuses

/-- The last command, a commit of as much as there is room for, is cut short by the end of the
bytes. -/
theorem trials_end_well_of_two :
    program [8, 1, 255, 1, 0, 0, 0, 0, 1, 65, 0, 1, 147, 36, 73, 146, 255, 255] =
      ⟨8, some 255, [.append [65], .commit 65535 0]⟩ ∧
    (∀ size, size ≤ 2 ^ 47 → (Allocator.upTo (2 ^ 47)).grants size = true) ∧
    ((Program.mk 8 (some 255) [.append [65], .commit 65535 0]).runWith
      fun _ => .upTo (2 ^ 47)).1 = .ok () := by
  have decoded : program [8, 1, 255, 1, 0, 0, 0, 0, 1, 65, 0, 1, 147, 36, 73, 146, 255, 255] =
      ⟨8, some 255, [.append [65], .commit 65535 0]⟩ := by decide +kernel
  have granted : ∀ size, size ≤ 2 ^ 47 → (Allocator.upTo (2 ^ 47)).grants size = true := by
    intro size le
    have limit : 2 ^ 47 ≤ maxRegion := by decide
    exact decide_eq_true (by omega)
  have ends := (trials_end_well fun _ => .upTo (2 ^ 47)).2
    [8, 1, 255, 1, 0, 0, 0, 0, 1, 65, 0, 1, 147, 36, 73, 146, 255, 255] (by decide) fun _ => granted
  rw [decoded] at ends
  exact ⟨decoded, granted, ends⟩

end Spool.Trial
