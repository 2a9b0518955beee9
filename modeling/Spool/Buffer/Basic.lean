import Spool.Allocation
import Spool.Options
import Spool.Event

/-!
# The buffer

A region in three stretches: `spent` bytes already consumed, `unread` bytes, and `free` space.
Bytes enter at the end of the unread stretch and leave at its front, so what is unread is always
contiguous. Spent and free bytes keep their old contents until something is written over them.

Room for more is made in the cheapest way that works: the free space as it is; the unread bytes
moved to the front of the region (`compact`); a larger region with the unread bytes in front and
zeros behind (`moveInto`). A call that is refused leaves the buffer as it was.
-/

namespace Spool

structure Buffer where
  spent : ByteArray
  unread : ByteArray
  free : ByteArray
  options : Options
  deriving DecidableEq

/-- What a call leaves behind: its answer, the buffer, and the events it emitted, oldest first. -/
structure Outcome (α : Type) where
  answer : α
  after : Buffer
  events : List Event := []

def Outcome.map {α β : Type} (f : α → β) (o : Outcome α) : Outcome β :=
  ⟨f o.answer, o.after, o.events⟩

section

variable {α β : Type} (f : α → β) (o : Outcome α)

@[simp] theorem Outcome.answer_map : (o.map f).answer = f o.answer := rfl

@[simp] theorem Outcome.after_map : (o.map f).after = o.after := rfl

@[simp] theorem Outcome.events_map : (o.map f).events = o.events := rfl

end

/-- More bytes were announced as written than the free space holds. -/
structure Overrun where
  requested : Nat
  available : Nat
  deriving DecidableEq, Repr

def Overrun.message (o : Overrun) : String :=
  s!"commit({o.requested}) exceeds trailing free space ({o.available})"

namespace Buffer

/-- A buffer over a fresh region of the initial capacity. -/
def create (alloc : Allocator) (o : Options) : Except AllocationError Buffer :=
  (alloc.allocate o.initialCapacity.toNat).map fun region => ⟨.empty, .empty, region, o⟩

/-- A buffer of the given capacity, the other options at their defaults. -/
def ofCapacity (alloc : Allocator) (capacity : UInt64) : Except AllocationError Buffer :=
  create alloc { initialCapacity := capacity }

/-! ## Measures -/

/-- The whole region, front to back. -/
def region (b : Buffer) : ByteArray := b.spent ++ b.unread ++ b.free

def len (b : Buffer) : Nat := b.unread.size

/-- Space in front of the unread bytes, to be won back by moving them. -/
def leading (b : Buffer) : Nat := b.spent.size

/-- Space behind the unread bytes. -/
def trailing (b : Buffer) : Nat := b.free.size

def capacity (b : Buffer) : Nat := b.leading + b.len + b.trailing

/-- Where the unread bytes start in the region. -/
def readAt (b : Buffer) : Nat := b.leading

/-- Where the unread bytes end in the region. -/
def writeAt (b : Buffer) : Nat := b.leading + b.len

def isEmpty (b : Buffer) : Bool := b.len == 0

/-- The number of unread bytes of a buffer that may not exist yet. -/
def available : Option Buffer → Nat
  | none => 0
  | some b => b.len

/-! ## Consuming -/

/-- Forgets the unread bytes; the region and its contents stay. -/
def clear (b : Buffer) : Buffer :=
  { b with spent := .empty, unread := .empty, free := b.region }

/-- Drops up to `n` unread bytes. Dropping the last one rewinds to the front of the region. -/
def consume (b : Buffer) (n : Nat) : Buffer :=
  if n = 0 then b
  else if b.len ≤ n then b.clear
  else { b with spent := b.spent ++ b.unread.take n, unread := b.unread.drop n }

/-! ## Making room -/

/-- Moves the unread bytes to the front of the region. The bytes behind them stay as they are. -/
def compact (b : Buffer) : Buffer :=
  { b with spent := .empty, free := b.region.drop b.len }

/-- Copies the unread bytes to the front of a fresh region and takes that one over. -/
def moveInto (b : Buffer) (fresh : ByteArray) : Buffer :=
  { b with spent := .empty, free := fresh.drop b.len }

/-- The size of the larger region that makes room for `n` more bytes. -/
def grownCapacity (b : Buffer) (n : Nat) : Nat := b.options.growth.enlarge b.capacity n

/-- Makes room for `n` more bytes behind the unread ones. -/
def makeRoom (alloc : Allocator) (b : Buffer) (n : Nat) :
    Outcome (Except AllocationError Relocation) :=
  if n ≤ b.trailing then ⟨.ok .inPlace, b, []⟩
  else if n ≤ b.trailing + b.leading then
    ⟨.ok (.compacted b.len), b.compact, [.compacted b.len b.capacity]⟩
  else
    match alloc.allocate (b.grownCapacity n) with
    | .error e => ⟨.error e, b, []⟩
    | .ok fresh =>
      ⟨.ok (.grown b.capacity (b.grownCapacity n)), b.moveInto fresh,
        [.grew b.capacity (b.grownCapacity n) b.len]⟩

/-- Gives back what lies beyond `n` bytes, or beyond the unread bytes if they are more. -/
def shrink (alloc : Allocator) (b : Buffer) (n : Nat) : Outcome (Except AllocationError Unit) :=
  if b.capacity ≤ max n b.len then ⟨.ok (), b, []⟩
  else
    match alloc.allocate (max n b.len) with
    | .error e => ⟨.error e, b, []⟩
    | .ok fresh => ⟨.ok (), b.moveInto fresh, [.shrunk (max n b.len)]⟩

/-! ## Producing -/

/-- Writes into the free space from offset `start` on, as far as it reaches. Nothing becomes
unread by that. -/
def writeSpare (b : Buffer) (start : Nat) (data : ByteArray) : Buffer :=
  { b with free := b.free.overwrite start data }

/-- How many of `n` bytes written to the free space from offset `start` on fit. -/
def spareRoom (b : Buffer) (start n : Nat) : Nat := min n (b.trailing - start)

/-- Lets the first `n` bytes of the free space count as unread. -/
def accept (b : Buffer) (n : Nat) : Buffer :=
  { b with unread := b.unread ++ b.free.take n, free := b.free.drop n }

/-- `accept`, refused when there is less free space than announced. -/
def commit (b : Buffer) (n : Nat) : Outcome (Except Overrun Unit) :=
  if n ≤ b.trailing then ⟨.ok (), b.accept n, []⟩
  else ⟨.error ⟨n, b.trailing⟩, b, []⟩

/-- Adds `data` behind the unread bytes. -/
def append (alloc : Allocator) (b : Buffer) (data : ByteArray) :
    Outcome (Except AllocationError Relocation) :=
  if data.size = 0 then ⟨.ok .inPlace, b, []⟩
  else
    let room := b.makeRoom alloc data.size
    match room.answer with
    | .error e => ⟨.error e, room.after, room.events⟩
    | .ok r =>
      ⟨.ok r, { room.after with
          unread := room.after.unread ++ data
          free := room.after.free.drop data.size }, room.events⟩

end Buffer

end Spool
