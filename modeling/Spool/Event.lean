/-!
# Relocations and events

A `Relocation` is the answer of an operation that made room: what it had to do with the region. An
`Event` is the record of the same for an observer, and of a region given back in part. Work done
in place leaves no event, and neither does a refusal.
-/

namespace Spool

/-- How room was made. -/
inductive Relocation where
  | inPlace
  /-- The unread bytes, `moved` in number, went to the front of the same region. -/
  | compacted (moved : Nat)
  /-- A region of `new` bytes took over from one of `old`. -/
  | grown (old new : Nat)
  deriving DecidableEq, Repr

inductive Event where
  | compacted (moved capacity : Nat)
  | grew (old new unread : Nat)
  | shrunk (new : Nat)
  deriving DecidableEq, Repr

namespace Event

def level : String := "TRACE"

def target : String := "stagebuf"

def message : Event → String
  | compacted .. => "compacted staging region"
  | grew .. => "grew staging region"
  | shrunk .. => "shrunk staging region"

/-- The numbers of an event with their labels, in the order they are shown. -/
def fields : Event → List (String × Nat)
  | compacted moved capacity => [("moved", moved), ("capacity", capacity)]
  | grew old new unread => [("from", old), ("to", new), ("unread", unread)]
  | shrunk new => [("to", new)]

end Event

end Spool
