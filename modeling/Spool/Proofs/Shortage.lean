import Spool.Proofs.Growth
import Spool.Proofs.Traps

/-!
# Why a region could not be had

A call that finds the region too small, or too large, needs another one, and the size of that is a
number like any other, whether a word counts it or not (`Operation.region?`). `Denied` reads off the
answer that it could not be had; an error that a peer reports is not the buffer's own. A `Shortage`
is put together where the lack is noticed: when the size is multiplied, when it is added to, or when
the allocator refuses it. Main statement: a call is denied exactly if the allocator refuses the
region it needs, and wherever that is noticed, the error tells of the size and has the cause that
goes with it.
-/

namespace Spool

open Buffer

theorem maxSize_eq : maxSize = 2 ^ 64 - 1 := rfl

theorem maxRegion_eq : maxRegion = 2 ^ 63 - 1 := rfl

/-! ## Errors and sizes -/

/-- `e` is the error for a region of `size` bytes. The size is told as far as a word counts, and
memory is what is lacking only if there can be such a region. -/
structure AllocationError.TellsOf (e : AllocationError) (size : Nat) : Prop where
  requested : e.requested = min size (2 ^ 64 - 1)
  past : 2 ^ 63 - 1 < size → e.cause = .capacityOverflow
  within : size ≤ 2 ^ 63 - 1 → e.cause = .outOfMemory

/-- A size that was cut at the largest word still has the cause it had. -/
theorem AllocationError.tellsOf_refused (size : Nat) : (refused size).TellsOf size where
  requested := rfl
  past h := by
    have : maxRegion < (refused size).requested := by
      simp only [refused, maxRegion_eq, maxSize_eq]
      omega
    rw [cause, if_pos this]
  within h := by
    have : ¬ maxRegion < (refused size).requested := by
      simp only [refused, maxRegion_eq]
      omega
    rw [cause, if_neg this]

theorem Allocator.tellsOf_of_error {alloc : Allocator} {size : Nat} {e : AllocationError}
    (h : alloc.allocate size = .error e) : e.TellsOf size := by
  obtain ⟨-, rfl⟩ := allocate_eq_error_iff.1 h
  exact AllocationError.tellsOf_refused size

/-! ## Shortages -/

/-- That a region could not be had, and why, as it is put down on the spot. -/
structure Shortage where
  requested : Nat
  cause : AllocationError.Cause
  deriving DecidableEq, Repr

namespace Shortage

/-- No word counts the size, so the allocator was not asked. -/
def overflow : Shortage := ⟨maxSize, .capacityOverflow⟩

/-- The allocator has refused a region of `size` bytes. -/
def refused (size : Nat) : Shortage :=
  ⟨size, if size ≤ maxRegion then .outOfMemory else .capacityOverflow⟩

def ofError (e : AllocationError) : Shortage := ⟨e.requested, e.cause⟩

theorem ofError_refused {size : Nat} (word : size ≤ maxSize) :
    ofError (.refused size) = refused size := by
  have requested : (AllocationError.refused size).requested = size := Nat.min_eq_left word
  rw [ofError, refused, AllocationError.cause, requested]
  by_cases within : size ≤ maxRegion
  · rw [if_neg (Nat.not_lt.2 within), if_pos within]
  · rw [if_pos (Nat.not_le.1 within), if_neg within]

theorem ofError_refused_of_lt {size : Nat} (past : maxSize < size) :
    ofError (.refused size) = overflow := by
  have requested : (AllocationError.refused size).requested = maxSize :=
    Nat.min_eq_right (Nat.le_of_lt past)
  rw [ofError, overflow, AllocationError.cause, requested, if_pos (by decide)]

end Shortage

def Allocator.supply (alloc : Allocator) (size : Nat) : Except Shortage ByteArray :=
  if alloc.grants size then .ok (.replicate size 0) else .error (.refused size)

theorem Allocator.supply_eq (alloc : Allocator) {size : Nat} (word : size ≤ maxSize) :
    alloc.supply size = (alloc.allocate size).mapError .ofError := by
  unfold supply allocate
  cases alloc.grants size with
  | true => rfl
  | false => exact congrArg Except.error (Shortage.ofError_refused word).symm

namespace Window

/-- A region with room for `n` more bytes, whose size has to be a word. -/
def enlarged (alloc : Allocator) (w : Window) (n : Nat) : Except Shortage ByteArray :=
  match w.options.growth.nextCapacity w.capacity n with
  | none => .error .overflow
  | some size => alloc.supply size

/-- The region that a call which needs another one has allocated. -/
def supplied (alloc : Allocator) (w : Window) : Operation → Except Shortage ByteArray
  | .shrink n => alloc.supply (max n (w.writeAt - w.readAt))
  | op => w.enlarged alloc (op.additional w.options)

end Window

namespace Buffer

theorem enlarged_window (alloc : Allocator) (b : Buffer) (n : Nat) :
    b.window.enlarged alloc n = (alloc.allocate (b.grownCapacity n)).mapError .ofError := by
  rw [Window.enlarged, nextCapacity_window]
  by_cases word : b.grownCapacity n ≤ maxSize
  · rw [if_pos word]
    exact alloc.supply_eq word
  · have past : maxSize < b.grownCapacity n := Nat.lt_of_not_le word
    rw [if_neg word, Allocator.allocate_of_lt (Nat.lt_of_le_of_lt maxRegion_le_maxSize past),
      ← Shortage.ofError_refused_of_lt past]
    rfl

end Buffer

/-! ## Denials -/

/-- The size of a region with room for `n` more bytes, if the one of `b` has too little. -/
def Buffer.enlarged? (b : Buffer) (n : Nat) : Option Nat :=
  if b.capacity < b.len + n then some (b.capacity * b.options.growth.multiplier + n) else none

/-- The size of a region of at least `n` bytes, if the one of `b` can be replaced by one that is
smaller. -/
def Buffer.reduced? (b : Buffer) (n : Nat) : Option Nat :=
  if max n b.len < b.capacity then some (max n b.len) else none

/-- The size of the region that the call has to have, if it has to have another one. -/
def Operation.region? (b : Buffer) : Operation → Option Nat
  | .shrink n => b.reduced? n
  | op => b.enlarged? (op.additional b.options)

/-- How a call answers that it could not have a region. A transfer hands the error on inside one of
its own. -/
def Operation.denial (e : AllocationError) : Operation → Answer
  | .append _ | .makeRoom _ => .room (.error e)
  | .shrink _ => .shrunk (.error e)
  | .writeAll _ => .written (.error (.allocation e))
  | _ => .count (.error (.allocation e))

/-- The call could not have a region, because of `e`. No peer was called that may have reported
it. -/
def Step.Denied (s : Step) (e : AllocationError) : Prop :=
  s.offered = [] ∧ s.outcome.answer = s.operation.denial e

/-- A peer reports `e` as an error of its own for what it is offered. -/
def Operation.Reports (offered : List ByteArray) (e : AllocationError) : Operation → Prop
  | .fill source => ∃ slice ∈ offered, (source slice).answer = .error (.allocation e)
  | .drain sink => ∃ bytes ∈ offered, sink bytes = .error (.allocation e)
  | _ => False

namespace Buffer

variable {alloc : Allocator} {b : Buffer} {n : Nat} {e : AllocationError}

theorem refuses_iff : b.Refuses alloc n e ↔
    ∃ size, b.enlarged? n = some size ∧ alloc.allocate size = .error e := by
  unfold enlarged?
  constructor
  · rintro ⟨short, refused⟩
    exact ⟨_, if_pos short, refused⟩
  · rintro ⟨size, needs, refused⟩
    split at needs
    · next short =>
      cases needs
      exact ⟨short, refused⟩
    · cases needs

theorem not_refuses_zero : ¬ b.Refuses alloc 0 e := by
  rintro ⟨short, -⟩
  have := b.len_le_capacity
  omega

theorem Appends.error_iff {data : ByteArray} {out : Outcome (Except AllocationError Relocation)}
    (h : b.Appends alloc data out) : out.answer = .error e ↔ b.Refuses alloc data.size e := by
  rw [h.answer_eq, makeRoom_eq_error_iff]

theorem Shrinks.error_iff {out : Outcome (Except AllocationError Unit)}
    (h : b.Shrinks alloc n out) : out.answer = .error e ↔
      ∃ size, b.reduced? n = some size ∧ alloc.allocate size = .error e := by
  unfold reduced?
  cases h with
  | kept fits => simp [Nat.not_lt.2 fits]
  | moved loose granted => simp [loose, Allocator.allocate_of_grants granted]
  | refused loose refused => simp [loose, refused]

end Buffer

/-- A transfer hands on the error of the room that could not be made. -/
theorem mapError_eq_allocation_iff {α β : Type} {r : Except AllocationError α} {f : α → β}
    {e : AllocationError} :
    (r.mapError IoError.allocation).map f = .error (.allocation e) ↔ r = .error e := by
  cases r with
  | error d =>
    show Except.error (IoError.allocation d) = Except.error (IoError.allocation e) ↔ _
    rw [Except.error.injEq, Except.error.injEq, IoError.allocation.injEq]
  | ok a => exact ⟨fun h => (nomatch h), fun h => (nomatch h)⟩

section

variable {alloc : Allocator} {b : Buffer} {op : Operation} {offered : List ByteArray}
  {out : Outcome Answer} {e : AllocationError}

/-- A call is denied exactly if it has to have another region and the allocator refuses that. -/
theorem Performs.denied_iff (h : Performs alloc b op offered out) :
    offered = [] ∧ out.answer = op.denial e ↔
      ∃ size, op.region? b = some size ∧ alloc.allocate size = .error e := by
  cases h with
  | append exits =>
    simp [Operation.denial, Operation.region?, Operation.additional, ← refuses_iff,
      exits.error_iff]
  | makeRoom exits =>
    simp [Operation.denial, Operation.region?, Operation.additional, ← refuses_iff,
      exits.eq_makeRoom, makeRoom_eq_error_iff]
  | write exits | writeAll exits =>
    simp [Operation.denial, Operation.region?, Operation.additional, ← refuses_iff,
      mapError_eq_allocation_iff, exits.error_iff]
  | shrink exits => simp [Operation.denial, Operation.region?, exits.error_iff]
  | fill exits =>
    simp only [Operation.region?, Operation.additional, ← refuses_iff]
    cases exits with
    | refused refuses =>
      constructor
      · rintro ⟨-, answer⟩
        cases answer
        exact refuses
      · intro refuses'
        cases refuses.refused.symm.trans refuses'.refused
        exact ⟨rfl, rfl⟩
    | failed made ok | overreported made ok | accepted made ok =>
      simp [Source.watched, made.not_refuses ok e]
  | drain exits =>
    simp only [Operation.region?, Operation.additional, ← refuses_iff, not_refuses_zero,
      iff_false, not_and]
    cases exits with
    | nothing => simp [Operation.denial]
    | failed | taken => simp [Sink.watched]
  | writeSpare | commit | overrun | consume | clear | read =>
    simp [Operation.denial, Operation.region?, Operation.additional, ← refuses_iff,
      not_refuses_zero]

/-- What looks like a denial is one, unless a peer has put it there. -/
theorem Performs.denied_or_reports (h : Performs alloc b op offered out)
    (answer : out.answer = op.denial e) : offered = [] ∨ op.Reports offered e := by
  cases h with
  | fill exits =>
    cases exits with
    | refused => exact .inl rfl
    | failed _ _ fails =>
      cases answer
      exact .inr ⟨_, List.mem_singleton_self _, fails⟩
    | overreported | accepted => cases answer
  | drain exits =>
    cases exits with
    | nothing => exact .inl rfl
    | failed _ fails =>
      cases answer
      exact .inr ⟨_, List.mem_singleton_self _, fails⟩
    | taken => cases answer
  | _ => exact .inl rfl

end

theorem Step.denied_iff {s : Step} {e : AllocationError} : s.Denied e ↔
    ∃ size, s.operation.region? s.before = some size ∧ s.alloc.allocate size = .error e :=
  s.performs.denied_iff

theorem Step.not_denied {s : Step} {e : AllocationError}
    (none : s.operation.region? s.before = none) : ¬ s.Denied e := by
  intro denied
  obtain ⟨size, needs, -⟩ := denied_iff.1 denied
  rw [none] at needs
  cases needs

/-- What has room where it is needs no other region. -/
theorem Operation.region?_of_le {b : Buffer} {op : Operation} (grows : ∀ n, op ≠ .shrink n)
    (fits : b.len + op.additional b.options ≤ b.capacity) : op.region? b = none := by
  cases op with
  | shrink n => exact absurd rfl (grows n)
  | _ => exact if_neg (Nat.not_lt.2 fits)

/-- Whether the size is multiplied, added to or only asked for, the shortage that is put down is the
error of the allocator for it. -/
theorem Buffer.WellFormed.supplied_window {o : Options} {b : Buffer} (wf : b.WellFormed o)
    (alloc : Allocator) {op : Operation} {size : Nat} (needs : op.region? b = some size) :
    b.window.supplied alloc op = (alloc.allocate size).mapError .ofError := by
  have larger (n : Nat) (needs : b.enlarged? n = some size) :
      b.window.enlarged alloc n = (alloc.allocate size).mapError .ofError := by
    unfold enlarged? at needs
    split at needs
    · cases needs
      exact enlarged_window alloc b n
    · cases needs
  cases op with
  | shrink n =>
    have hwrite : b.writeAt = b.readAt + b.len := rfl
    have len : b.window.writeAt - b.window.readAt = b.len := by
      show b.writeAt - b.readAt = b.len
      omega
    simp only [Operation.region?, reduced?] at needs
    split at needs
    · next loose =>
      cases needs
      have := wf.capacity_le
      have := maxRegion_le_maxSize
      rw [Window.supplied, len, alloc.supply_eq (by omega)]
    · cases needs
  | _ => exact larger _ needs

/-! ## Exactness -/

/-- `fails e` is that a call which has to have a region of `size` bytes fails with `e`. It does so
exactly if the allocator refuses the region, always for a size that no region can have, and with the
error for that size. -/
structure Allocator.Decides (alloc : Allocator) (size : Nat) (fails : AllocationError → Prop) :
    Prop where
  refused : ∀ e, fails e ↔ alloc.allocate size = .error e
  past : 2 ^ 63 - 1 < size → ∃ e, fails e
  tells : ∀ e, fails e → e.TellsOf size

theorem Allocator.decides {alloc : Allocator} {size : Nat} {fails : AllocationError → Prop}
    (refused : ∀ e, fails e ↔ alloc.allocate size = .error e) : alloc.Decides size fails where
  refused := refused
  past past := ⟨.refused size, (refused _).2 (allocate_of_lt past)⟩
  tells e fail := tellsOf_of_error ((refused e).1 fail)

/-- The only thing that denies a call on a reachable buffer, or the creation of one, is a region
that it has to have and the allocator refuses; and the allocator has to refuse one of more than
`2 ^ 63 - 1` bytes. The error tells of the true size of that region, and so does what is put down in
machine words where the lack is noticed. No call is denied for which there is room in the region
that it finds. Inside a transfer the error is the cause of an error of the transfer's own. -/
theorem denials_are_exact {o : Options} {s : Step} (h : Reachable o s.before) :
    (∀ size, s.operation.region? s.before = some size →
      s.alloc.Decides size s.Denied ∧
      s.before.window.supplied s.alloc s.operation =
        (s.alloc.allocate size).mapError .ofError) ∧
    (s.operation.region? s.before = none → ∀ e, ¬ s.Denied e) ∧
    (∀ e, s.outcome.answer = s.operation.denial e → s.Denied e ∨ s.operation.Reports s.offered e) ∧
    ((∀ n, s.operation ≠ .shrink n) →
      s.before.len + s.operation.additional s.before.options ≤ s.before.capacity →
      ∀ e, s.outcome.answer = s.operation.denial e → s.operation.Reports s.offered e) ∧
    (∀ e, (IoError.allocation e).kind = "OutOfMemory" ∧
      (IoError.allocation e).message = e.message) ∧
    ∀ (alloc : Allocator) (p : Options),
      alloc.Decides p.initialCapacity.toNat (fun e => Buffer.create alloc p = .error e) ∧
      alloc.supply p.initialCapacity.toNat =
        (alloc.allocate p.initialCapacity.toNat).mapError .ofError := by
  have looks (e : AllocationError) (answer : s.outcome.answer = s.operation.denial e) :
      s.Denied e ∨ s.operation.Reports s.offered e :=
    (s.performs.denied_or_reports answer).imp_left fun offered => ⟨offered, answer⟩
  refine ⟨fun size needs => ⟨Allocator.decides fun e => Step.denied_iff.trans ?_,
      h.wellFormed.supplied_window s.alloc needs⟩,
    fun none e => Step.not_denied none, looks,
    fun grows fits e answer => (looks e answer).resolve_left (Step.not_denied ?_),
    fun e => ⟨rfl, rfl⟩, fun alloc p => ⟨Allocator.decides fun e => ?_, alloc.supply_eq ?_⟩⟩
  · simp [needs]
  · exact Operation.region?_of_le grows fits
  · rw [create_eq_error_iff, Allocator.allocate_eq_error_iff]
  · have := p.initialCapacity.toNat_lt
    rw [maxSize_eq]
    omega

/-- Room for `n` bytes beside two, in a region of four, takes one of `4 * 2 + n`. On either side of
the largest region and of the largest word the size is told exactly, then up to that word. A third
and a fourth byte have room where they are. -/
theorem denials_are_exact_of_four :
    ∃ b, Reachable { initialCapacity := 4 } b ∧ b.unread = ⟨#[1, 2]⟩ ∧
      (∃ e, (Step.mk b (.upTo 8) (.makeRoom (2 ^ 63 - 9))).Denied e ∧
        e.requested = 2 ^ 63 - 1 ∧ e.cause = .outOfMemory) ∧
      (∃ e, (Step.mk b (.upTo 8) (.makeRoom (2 ^ 63 - 8))).Denied e ∧
        e.requested = 2 ^ 63 ∧ e.cause = .capacityOverflow) ∧
      (∃ e, (Step.mk b (.upTo 8) (.makeRoom (2 ^ 64 - 8))).Denied e ∧
        e.requested = 2 ^ 64 - 1 ∧ e.cause = .capacityOverflow) ∧
      ∀ e, ¬ (Step.mk b (.upTo 8) (.makeRoom 2)).Denied e := by
  have fresh : Reachable { initialCapacity := 4 }
      ⟨.empty, .empty, ⟨#[0, 0, 0, 0]⟩, { initialCapacity := 4 }⟩ :=
    .created (show Buffer.create (.upTo 4) _ = _ from rfl)
  have two := fresh.run [(.upTo 4, .append ⟨#[1, 2]⟩)]
  have decides (n : Nat) (large : 2 < n) :=
    ((denials_are_exact (s := ⟨_, .upTo 8, .makeRoom n⟩) two).1 (8 + n)
      (if_pos (show 4 < 2 + n by omega))).1
  have overflows (n : Nat) (past : 2 ^ 63 - 1 < 8 + n) :=
    (decides n (by omega)).past past
  refine ⟨_, two, rfl, ?_, ?_, ?_,
    (denials_are_exact (s := ⟨_, .upTo 8, .makeRoom 2⟩) two).2.1 rfl⟩
  · have denied := decides (2 ^ 63 - 9) (by decide)
    have fails := (denied.refused _).2 (Allocator.allocate_of_refuses rfl)
    have tells := denied.tells _ fails
    exact ⟨_, fails, tells.requested, tells.within (by decide)⟩
  · obtain ⟨e, fails⟩ := overflows (2 ^ 63 - 8) (by decide)
    have tells := (decides _ (by decide)).tells e fails
    exact ⟨e, fails, tells.requested, tells.past (by decide)⟩
  · obtain ⟨e, fails⟩ := overflows (2 ^ 64 - 8) (by decide)
    have tells := (decides _ (by decide)).tells e fails
    exact ⟨e, fails, tells.requested, tells.past (by decide)⟩

end Spool
