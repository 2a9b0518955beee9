import Spool.Buffer.Transfer

/-!
# Pumping

Moving bytes from a source through a buffer to a sink. A round fills the buffer once and then drains
it until the sink fails or takes nothing, or until the drains allowed per round are used up. The
round whose fill fails or brings nothing is the last, and its drains are not limited.

How many rounds there may be is given from outside, as no number suffices for every source.
-/

namespace Spool

/-- Drains up to `limit` times, stopping after a drain that fails or takes nothing. -/
def Buffer.drainUpTo {τ : Type} (sink : Sink τ) :
    (limit : Nat) → τ → Buffer → Outcome (List (Except IoError Nat)) × τ
  | 0, t, b => (⟨[], b, []⟩, t)
  | limit + 1, t, b =>
    let first := b.drain sink t
    match first.1.answer with
    | .ok (n + 1) =>
      let rest := drainUpTo sink limit first.2 first.1.after
      (⟨.ok (n + 1) :: rest.1.answer, rest.1.after, first.1.events ++ rest.1.events⟩, rest.2)
    | a => (⟨[a], first.1.after, first.1.events⟩, first.2)

/-- Drains until the sink fails or takes nothing. Every other drain consumes something, so one more
than there are unread bytes is enough. -/
def Buffer.drainAll {τ : Type} (sink : Sink τ) (t : τ) (b : Buffer) :
    Outcome (List (Except IoError Nat)) × τ :=
  b.drainUpTo sink (b.len + 1) t

/-- A pump at rest between rounds, or after its last. -/
structure Pump (σ τ : Type) where
  buffer : Buffer
  source : σ
  sink : τ
  /-- The answer of each fill and the capacity after it. -/
  fills : Array (Except IoError Nat × Nat) := #[]
  events : List Event := []
  finished : Bool := false

namespace Pump

variable {σ τ : Type}

/-- Drains within a round: without limit once the last fill is done. -/
def drains (sink : Sink τ) (limit : Option Nat) (finished : Bool) (t : τ) (b : Buffer) :
    Outcome (List (Except IoError Nat)) × τ :=
  match limit, finished with
  | some k, false => b.drainUpTo sink k t
  | _, _ => b.drainAll sink t

/-- One round. A pump that has finished stays as it is. -/
def round (alloc : Allocator) (source : Source σ) (sink : Sink τ) (limit : Option Nat)
    (p : Pump σ τ) : Pump σ τ :=
  if p.finished then p
  else
    let fill := p.buffer.fill alloc source p.source
    let finished := match fill.1.answer with
      | .ok (_ + 1) => false
      | _ => true
    let drained := drains sink limit finished p.sink fill.1.after
    { buffer := drained.1.after
      source := fill.2
      sink := drained.2
      fills := p.fills.push (fill.1.answer, fill.1.after.capacity)
      events := p.events ++ fill.1.events ++ drained.1.events
      finished }

/-- Rounds until the last one, but no more than `rounds`. -/
def run (alloc : Allocator) (source : Source σ) (sink : Sink τ) (limit : Option Nat) :
    (rounds : Nat) → Pump σ τ → Pump σ τ
  | 0, p => p
  | rounds + 1, p => if p.finished then p else run alloc source sink limit rounds
      (p.round alloc source sink limit)

end Pump

end Spool
