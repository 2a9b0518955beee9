import Spool.Proofs.History

/-!
# Refused calls leave no trace

A call is refused when there is no memory for it, or when more is committed than there is room for.
`Refusal` reads that off the answer and off what the peer was offered. Main statement: a refused
call changes nothing at all and emits nothing, and so any number of refused calls can be struck from
a run without a difference to the others.
-/

namespace Spool

open Buffer

/-- The answers that are refusals. A source that was offered nothing was not called, so the fill
failed for want of room. -/
inductive Refusal : Operation → List ByteArray → Answer → Prop where
  | append {data : ByteArray} {e : AllocationError} : Refusal (.append data) [] (.room (.error e))
  | makeRoom {n : Nat} {e : AllocationError} : Refusal (.makeRoom n) [] (.room (.error e))
  | shrink {n : Nat} {e : AllocationError} : Refusal (.shrink n) [] (.shrunk (.error e))
  | write {data : ByteArray} {e : IoError} : Refusal (.write data) [] (.count (.error e))
  | writeAll {data : ByteArray} {e : IoError} : Refusal (.writeAll data) [] (.written (.error e))
  | fill {source : ByteArray → Pull} {e : IoError} : Refusal (.fill source) [] (.count (.error e))
  | commit {n : Nat} {o : Overrun} : Refusal (.commit n) [] (.committed (.error o))

def Step.Refused (s : Step) : Prop := Refusal s.operation s.offered s.outcome.answer

/-- The same buffer, in every byte of its region, and no event. -/
theorem Performs.unchanged {alloc : Allocator} {b : Buffer} {op : Operation}
    {offered : List ByteArray} {out : Outcome Answer} (h : Performs alloc b op offered out)
    (refusal : Refusal op offered out.answer) : out.after = b ∧ out.events = [] := by
  cases h with
  | append exits | write exits | writeAll exits =>
    cases exits with
    | refused => exact ⟨rfl, rfl⟩
    | added => cases refusal
  | makeRoom exits | shrink exits =>
    cases exits with
    | refused => exact ⟨rfl, rfl⟩
    | _ => cases refusal
  | overrun => exact ⟨rfl, rfl⟩
  | fill exits =>
    -- every exit but the refusal has called the source
    cases exits with
    | refused => exact ⟨rfl, rfl⟩
    | _ => cases refusal
  | _ => cases refusal

theorem Step.Refused.unchanged {s : Step} (h : s.Refused) :
    s.outcome.after = s.before ∧ s.outcome.events = [] :=
  s.performs.unchanged h

/-- A fill that finds no room does not call its source. -/
theorem Buffer.Refuses.fill_eq {σ : Type} {alloc : Allocator} {b : Buffer} {e : AllocationError}
    (h : b.Refuses alloc b.options.fillRoom e) (source : Source σ) (s : σ) :
    b.fill alloc source s = (⟨.error (.allocation e), b, []⟩, s) := by
  rw [Buffer.fill, h.makeRoom_eq]

/-! ## Striking refused calls -/

/-- `ys` is `xs` less some of its members with `p`. -/
inductive Thinned {α : Type} (p : α → Prop) : List α → List α → Prop where
  | nil : Thinned p [] []
  | keep {x : α} {xs ys : List α} : Thinned p xs ys → Thinned p (x :: xs) (x :: ys)
  | strike {x : α} {xs ys : List α} : p x → Thinned p xs ys → Thinned p (x :: xs) ys

/-- The steps that are left are the history of the calls that are left. -/
theorem history_of_thinned {b : Buffer} {calls : List (Allocator × Operation)} {rest : List Step}
    (h : Thinned Step.Refused (Operation.history b calls) rest) :
    Operation.history b (rest.map Step.call) = rest := by
  induction calls generalizing b rest with
  | nil => cases h; rfl
  | cons c others ih =>
    cases h with
    | keep h =>
      rw [List.map_cons, Step.call, Operation.history, ih h]
    | strike refused h =>
      have same : (c.2.perform c.1 b).after = b := refused.unchanged.1
      have left := ih h
      rwa [same] at left

theorem Thinned.flatMap_eq {α β : Type} {p : α → Prop} {xs ys : List α} {f : α → List β}
    (h : Thinned p xs ys) (none : ∀ x, p x → f x = []) : xs.flatMap f = ys.flatMap f := by
  induction h with
  | nil => rfl
  | keep _ ih => rw [List.flatMap_cons, List.flatMap_cons, ih]
  | strike hx _ ih => rw [List.flatMap_cons, none _ hx, List.nil_append, ih]

theorem after_run_of_thinned {b : Buffer} {calls : List (Allocator × Operation)} {rest : List Step}
    (h : Thinned Step.Refused (Operation.history b calls) rest) :
    (Operation.run b (rest.map Step.call)).after = (Operation.run b calls).after := by
  induction calls generalizing b rest with
  | nil => cases h; rfl
  | cons c others ih =>
    cases h with
    | keep h => exact ih h
    | strike refused h =>
      have same : (c.2.perform c.1 b).after = b := refused.unchanged.1
      calc (Operation.run b (rest.map Step.call)).after
          = (Operation.run (c.2.perform c.1 b).after (rest.map Step.call)).after := by rw [same]
        _ = (Operation.run b (c :: others)).after := ih h

/-- Refusals change nothing, and striking them from a run changes no other step of it, nor what it
ends with and what it emits. -/
theorem refused_calls_inert (b : Buffer) :
    (∀ s : Step, s.before = b → s.Refused → s.outcome.after = b ∧ s.outcome.events = []) ∧
    (∀ {σ : Type} (alloc : Allocator) (source : Source σ) (s : σ) (e : AllocationError),
      (b.makeRoom alloc b.options.fillRoom).answer = .error e →
        b.fill alloc source.watched (s, []) = (⟨.error (.allocation e), b, []⟩, s, [])) ∧
    (∀ (alloc : Allocator) (n : Nat), b.trailing < n →
      (Operation.commit n).perform alloc b = ⟨.committed (.error ⟨n, b.trailing⟩), b, []⟩) ∧
    ∀ (calls : List (Allocator × Operation)) (rest : List Step),
      Thinned Step.Refused (Operation.history b calls) rest →
        Operation.history b (rest.map Step.call) = rest ∧
        (Operation.run b (rest.map Step.call)).after = (Operation.run b calls).after ∧
        (Operation.run b (rest.map Step.call)).events = (Operation.run b calls).events := by
  refine ⟨?_, ?_, ?_, ?_⟩
  · rintro s rfl refused
    exact refused.unchanged
  · intro σ alloc source s e error
    exact (makeRoom_eq_error_iff.1 error).fill_eq source.watched (s, [])
  · intro alloc n past
    simp only [Operation.perform, Buffer.commit, if_neg (Nat.not_le.2 past), Outcome.map]
  · intro calls rest thinned
    have left := history_of_thinned thinned
    refine ⟨left, after_run_of_thinned thinned, ?_⟩
    rw [Operation.events_run, Operation.events_run, left]
    exact (thinned.flatMap_eq fun s refused => refused.unchanged.2).symm

/-- An append for which there is no memory and a commit beyond the free space are struck; the append
that fits is left. -/
theorem refused_calls_inert_of_three :
    Thinned Step.Refused
      (Operation.history ⟨.empty, ⟨#[1, 2]⟩, ⟨#[0]⟩, {}⟩ [(.upTo 4, .append ⟨#[3, 4, 5]⟩),
        (.upTo 4, .commit 2), (.upTo 4, .append ⟨#[3]⟩)])
      [⟨⟨.empty, ⟨#[1, 2]⟩, ⟨#[0]⟩, {}⟩, .upTo 4, .append ⟨#[3]⟩⟩] ∧
    (Operation.run ⟨.empty, ⟨#[1, 2]⟩, ⟨#[0]⟩, {}⟩ [(.upTo 4, .append ⟨#[3]⟩)]).after =
      (Operation.run ⟨.empty, ⟨#[1, 2]⟩, ⟨#[0]⟩, {}⟩ [(.upTo 4, .append ⟨#[3, 4, 5]⟩),
        (.upTo 4, .commit 2), (.upTo 4, .append ⟨#[3]⟩)]).after := by
  have thinned : Thinned Step.Refused
      (Operation.history ⟨.empty, ⟨#[1, 2]⟩, ⟨#[0]⟩, {}⟩ [(.upTo 4, .append ⟨#[3, 4, 5]⟩),
        (.upTo 4, .commit 2), (.upTo 4, .append ⟨#[3]⟩)])
      [⟨⟨.empty, ⟨#[1, 2]⟩, ⟨#[0]⟩, {}⟩, .upTo 4, .append ⟨#[3]⟩⟩] :=
    .strike .append (.strike .commit (.keep .nil))
  obtain ⟨-, after, -⟩ := (refused_calls_inert ⟨.empty, ⟨#[1, 2]⟩, ⟨#[0]⟩, {}⟩).2.2.2 _ _ thinned
  exact ⟨thinned, after⟩

end Spool
