import Spool.Operation

/-!
# Windows

A buffer by its cursors: one region, and the unread bytes between two positions in it. Sums and
differences are of machine words here, and slices have to lie within what they are cut from; where
they do not, or where an assertion fails, the call traps. Each function evaluates the sums,
differences, slices and assertions that the cursors need, in the order in which they are needed.
Regions come from a `Supplier`, which has a state, and so may keep what it was asked for.
-/

namespace Spool

/-- Why a call has no answer. -/
inductive Trap where
  /-- A sum or difference that no machine word counts. -/
  | arithmetic
  /-- A slice out of bounds, or one that was given bytes of another number. -/
  | range
  | assertion
  | overrun (o : Overrun)
  deriving DecidableEq, Repr

/-! ## Words and slices -/

namespace Word

def add (m n : Nat) : Except Trap Nat :=
  if m + n ≤ maxSize then .ok (m + n) else .error .arithmetic

def sub (m n : Nat) : Except Trap Nat := if n ≤ m then .ok (m - n) else .error .arithmetic

def add? (m n : Nat) : Option Nat := if m + n ≤ maxSize then some (m + n) else none

def mul? (m n : Nat) : Option Nat := if m * n ≤ maxSize then some (m * n) else none

end Word

namespace Slice

/-- The bytes from `start` up to `stop`. -/
def cut (bytes : ByteArray) (start stop : Nat) : Except Trap ByteArray :=
  if start ≤ stop ∧ stop ≤ bytes.size then .ok (bytes.extract start stop) else .error .range

/-- `bytes` with those from `start` up to `stop` replaced by as many others. -/
def paste (bytes : ByteArray) (start stop : Nat) (data : ByteArray) : Except Trap ByteArray :=
  if start ≤ stop ∧ stop ≤ bytes.size ∧ data.size = stop - start then
    .ok (bytes.overwrite start data)
  else .error .range

/-- `bytes` with those from `start` up to `stop` copied to the front. -/
def copyToFront (bytes : ByteArray) (start stop : Nat) : Except Trap ByteArray := do
  let moved ← cut bytes start stop
  paste bytes 0 moved.size moved

end Slice

/-- `bytes` cut off at `size`, or followed by zeros up to it. -/
def resized (bytes : ByteArray) (size : Nat) : ByteArray :=
  bytes.take size ++ .replicate (size - bytes.size) 0

/-- The size of the region that replaces one of `capacity` bytes, if a word counts it. -/
def Growth.nextCapacity (g : Growth) (capacity needed : Nat) : Option Nat :=
  (Word.mul? capacity g.multiplier).bind fun grown => Word.add? grown needed

/-! ## Suppliers -/

/-- Where regions come from, with state `σ`. It is told the size. -/
abbrev Supplier (σ : Type) := σ → Nat → Except AllocationError ByteArray × σ

def Allocator.supplier (alloc : Allocator) : Supplier Unit :=
  fun _ size => (alloc.allocate size, ())

/-- `alloc`, keeping the sizes it was asked for, in order. -/
def Allocator.watched (alloc : Allocator) : Supplier (List Nat) :=
  fun asked size => (alloc.allocate size, asked ++ [size])

/-- The supplier grants and refuses what the allocator does. -/
def Supplier.Serves {σ : Type} (supplier : Supplier σ) (alloc : Allocator) : Prop :=
  ∀ s size, (supplier s size).1 = alloc.allocate size

theorem Allocator.serves_supplier (alloc : Allocator) : alloc.supplier.Serves alloc :=
  fun _ _ => rfl

theorem Allocator.serves_watched (alloc : Allocator) : alloc.watched.Serves alloc :=
  fun _ _ => rfl

/-! ## Windows -/

@[ext] structure Window where
  region : ByteArray
  readAt : Nat
  writeAt : Nat
  options : Options
  deriving DecidableEq

namespace Window

/-- What a call that does not trap leaves behind. -/
structure Reply (α : Type) where
  answer : α
  after : Window
  events : List Event := []

def Reply.map {α β : Type} (f : α → β) (r : Reply α) : Reply β :=
  ⟨f r.answer, r.after, r.events⟩

def create (alloc : Allocator) (o : Options) : Except AllocationError Window :=
  (alloc.allocate o.initialCapacity.toNat).map fun _ =>
    ⟨resized .empty o.initialCapacity.toNat, 0, 0, o⟩

def len (w : Window) : Except Trap Nat := Word.sub w.writeAt w.readAt

def isEmpty (w : Window) : Bool := w.readAt == w.writeAt

def capacity (w : Window) : Nat := w.region.size

def trailing (w : Window) : Except Trap Nat := Word.sub w.capacity w.writeAt

def leading (w : Window) : Nat := w.readAt

/-- The unread bytes. -/
def peek (w : Window) : Except Trap ByteArray := Slice.cut w.region w.readAt w.writeAt

/-- The space behind the unread bytes. -/
def spare (w : Window) : Except Trap ByteArray := Slice.cut w.region w.writeAt w.capacity

/-! ### Consuming -/

def clear (w : Window) : Window := { w with readAt := 0, writeAt := 0 }

def consume (w : Window) (n : Nat) : Except Trap Window :=
  if n = 0 then .ok w
  else do
    let len ← w.len
    if len ≤ n then return w.clear
    else
      let readAt ← Word.add w.readAt n
      return { w with readAt }

/-! ### Making room -/

/-- Moves the unread bytes to the front and answers how many they are. -/
def compact (w : Window) : Except Trap (Reply Nat) := do
  let moved ← w.len
  let region ← Slice.copyToFront w.region w.readAt w.writeAt
  return ⟨moved, { w with region, readAt := 0, writeAt := moved }, [.compacted moved region.size]⟩

/-- The unread bytes at the front of a new region of `size` bytes, which has to hold them. -/
def relocateFrom {σ : Type} (supplier : Supplier σ) (s : σ) (w : Window) (size : Nat) :
    Except Trap (Except AllocationError Window × σ) := do
  let len ← w.len
  if size < len then throw .assertion
  else
    let supply := supplier s size
    match supply.1 with
    | .error e => return (.error e, supply.2)
    | .ok _ =>
      let unread ← w.peek
      let moved := { w with region := resized unread size, readAt := 0, writeAt := unread.size }
      return (.ok moved, supply.2)

def relocate (alloc : Allocator) (w : Window) (size : Nat) :
    Except Trap (Except AllocationError Window) :=
  (w.relocateFrom alloc.supplier () size).map Prod.fst

/-- Nothing is asked for if no word counts the size of the larger region. -/
def growFrom {σ : Type} (supplier : Supplier σ) (s : σ) (w : Window) (n : Nat) :
    Except Trap (Reply (Except AllocationError Relocation) × σ) :=
  match w.options.growth.nextCapacity w.capacity n with
  | none => return (⟨.error ⟨maxSize⟩, w, []⟩, s)
  | some size => do
    let moved ← w.relocateFrom supplier s size
    match moved.1 with
    | .error e => return (⟨.error e, w, []⟩, moved.2)
    | .ok after =>
      let unread ← after.len
      return (⟨.ok (.grown w.capacity size), after, [.grew w.capacity size unread]⟩, moved.2)

def makeRoomFrom {σ : Type} (supplier : Supplier σ) (s : σ) (w : Window) (n : Nat) :
    Except Trap (Reply (Except AllocationError Relocation) × σ) := do
  let trailing ← w.trailing
  if n ≤ trailing then return (⟨.ok .inPlace, w, []⟩, s)
  else
    let space ← Word.add trailing w.leading
    if n ≤ space then
      let moved ← w.compact
      return (moved.map fun k => .ok (.compacted k), s)
    else w.growFrom supplier s n

def makeRoom (alloc : Allocator) (w : Window) (n : Nat) :
    Except Trap (Reply (Except AllocationError Relocation)) :=
  (w.makeRoomFrom alloc.supplier () n).map Prod.fst

def shrink (alloc : Allocator) (w : Window) (n : Nat) :
    Except Trap (Reply (Except AllocationError Unit)) := do
  let len ← w.len
  if w.capacity ≤ max n len then return ⟨.ok (), w, []⟩
  else
    match ← w.relocate alloc (max n len) with
    | .error e => return ⟨.error e, w, []⟩
    | .ok moved => return ⟨.ok (), moved, [.shrunk (max n len)]⟩

/-! ### Producing -/

def append (alloc : Allocator) (w : Window) (data : ByteArray) :
    Except Trap (Reply (Except AllocationError Relocation)) :=
  if data.size = 0 then .ok ⟨.ok .inPlace, w, []⟩
  else do
    let room ← w.makeRoom alloc data.size
    match room.answer with
    | .error e => return ⟨.error e, room.after, room.events⟩
    | .ok r =>
      let writeAt ← Word.add room.after.writeAt data.size
      let region ← Slice.paste room.after.region room.after.writeAt writeAt data
      return ⟨.ok r, { room.after with region, writeAt }, room.events⟩

/-- Lets a producer write into the spare slice and answers how many of its bytes fit. -/
def writeSpare (w : Window) (start : Nat) (data : ByteArray) : Except Trap (Reply Nat) := do
  let spare ← w.spare
  let region ← Slice.paste w.region w.writeAt w.capacity (spare.overwrite start data)
  return ⟨min data.size (spare.size - start), { w with region }, []⟩

def commit (w : Window) (n : Nat) : Except Trap Window := do
  let trailing ← w.trailing
  if trailing < n then throw (.overrun ⟨n, trailing⟩)
  else
    let writeAt ← Word.add w.writeAt n
    return { w with writeAt }

def write (alloc : Allocator) (w : Window) (data : ByteArray) :
    Except Trap (Reply (Except IoError Nat)) := do
  let out ← w.append alloc data
  return out.map fun
    | .error e => .error (.allocation e)
    | .ok _ => .ok data.size

/-- Writes, and goes on with what the write has left of the data, which is nothing. -/
def writeAll (alloc : Allocator) (w : Window) (data : ByteArray) :
    Except Trap (Reply (Except IoError Unit)) :=
  if data.size = 0 then .ok ⟨.ok (), w, []⟩
  else do
    let out ← w.write alloc data
    match out.answer with
    | .error e => return ⟨.error e, out.after, out.events⟩
    | .ok n =>
      let _rest ← Slice.cut data n data.size
      return ⟨.ok (), out.after, out.events⟩

/-! ### Transfers -/

/-- Reads over the front of `target`. -/
def read (w : Window) (target : ByteArray) : Except Trap (Reply (Nat × ByteArray)) := do
  let len ← w.len
  let unread ← w.peek
  let got ← Slice.cut unread 0 (min target.size len)
  let filled ← Slice.paste target 0 (min target.size len) got
  let after ← w.consume (min target.size len)
  return ⟨(min target.size len, filled), after, []⟩

def fill {σ : Type} (alloc : Allocator) (source : Source σ) (s : σ) (w : Window) :
    Except Trap (Reply (Except IoError Nat) × σ) := do
  let room ← w.makeRoom alloc w.options.fillRoom
  match room.answer with
  | .error e => return (⟨.error (.allocation e), room.after, room.events⟩, s)
  | .ok _ =>
    let offered ← room.after.trailing
    let spare ← room.after.spare
    let pull := source s spare
    let written ← room.after.writeSpare 0 pull.1.slice
    match pull.1.answer with
    | .error e => return (⟨.error e, written.after, room.events⟩, pull.2)
    | .ok n =>
      if offered < n then
        return (⟨.error (.overreport n offered), written.after, room.events⟩, pull.2)
      else
        let after ← written.after.commit n
        return (⟨.ok n, after, room.events⟩, pull.2)

def drain {τ : Type} (sink : Sink τ) (t : τ) (w : Window) :
    Except Trap (Reply (Except IoError Nat) × τ) :=
  if w.isEmpty then .ok (⟨.ok 0, w, []⟩, t)
  else do
    let unread ← w.peek
    let push := sink t unread
    match push.1 with
    | .error e => return (⟨.error e, w, []⟩, push.2)
    | .ok n =>
      let after ← w.consume n
      return (⟨.ok n, after, []⟩, push.2)

/-! ### Calls -/

def perform (alloc : Allocator) (w : Window) : Operation → Except Trap (Reply Answer)
  | .append data => (w.append alloc data).map (·.map .room)
  | .makeRoom n => (w.makeRoom alloc n).map (·.map .room)
  | .writeSpare start data => (w.writeSpare start data).map (·.map .copied)
  | .commit n => (w.commit n).map fun after => ⟨.committed (.ok ()), after, []⟩
  | .consume n => (w.consume n).map fun after => ⟨.done, after, []⟩
  | .clear => .ok ⟨.done, w.clear, []⟩
  | .shrink n => (w.shrink alloc n).map (·.map .shrunk)
  | .write data => (w.write alloc data).map (·.map .count)
  | .writeAll data => (w.writeAll alloc data).map (·.map .written)
  | .read target => (w.read target).map (·.map fun r => .read r.1 r.2)
  | .fill source =>
    (w.fill alloc (fun _ offered => (source offered, ())) ()).map (·.1.map .count)
  | .drain sink => (w.drain (fun _ offered => (sink offered, ())) ()).map (·.1.map .count)

/-- Performs one call and catches the trap of a commit of more than there is room for. No other trap
is caught. -/
def call (alloc : Allocator) (w : Window) : Operation → Except Trap (Reply Answer)
  | .commit n =>
    match w.perform alloc (.commit n) with
    | .error (.overrun o) => .ok ⟨.committed (.error o), w, []⟩
    | result => result
  | op => w.perform alloc op

/-- Performs the calls in order, as far as the first trap that is not caught. -/
def run (w : Window) : List (Allocator × Operation) → Except Trap (Reply (List Answer))
  | [] => .ok ⟨[], w, []⟩
  | (alloc, op) :: rest => do
    let first ← w.call alloc op
    let others ← run first.after rest
    return ⟨first.answer :: others.answer, others.after, first.events ++ others.events⟩

end Window

end Spool
