import Spool.Bytes

/-!
# Allocation

Regions come from an allocator, which grants or refuses a size and never grants more than
`maxRegion` bytes. Sizes are unbounded numbers: one that exceeds a machine word can be asked for
like any other, is always refused, and is reported as the largest word `maxSize`. So the cause of
a refusal is read off the reported size alone.
-/

namespace Spool

/-- The largest size a machine word counts: `2 ^ 64 - 1`. -/
def maxSize : Nat := UInt64.size - 1

/-- The largest region there can be: `2 ^ 63 - 1` bytes. -/
def maxRegion : Nat := maxSize / 2

theorem maxRegion_le_maxSize : maxRegion ≤ maxSize := Nat.div_le_self maxSize 2

/-- A region of the requested size could not be had. -/
structure AllocationError where
  requested : Nat
  deriving DecidableEq, Repr

namespace AllocationError

inductive Cause where
  | capacityOverflow
  | outOfMemory
  deriving DecidableEq, Repr

def Cause.text : Cause → String
  | .capacityOverflow => "capacity overflow"
  | .outOfMemory => "out of memory"

/-- The refusal of a region of `size` bytes. -/
def refused (size : Nat) : AllocationError := ⟨min size maxSize⟩

/-- No allocator has room for a region above `maxRegion`; a smaller one was refused by choice. -/
def cause (e : AllocationError) : Cause :=
  if maxRegion < e.requested then .capacityOverflow else .outOfMemory

def message (e : AllocationError) : String :=
  s!"cannot allocate a staging region of {e.requested} bytes: {e.cause.text}"

end AllocationError

/-- Which sizes are granted at the moment of a request. -/
structure Allocator where
  grants : Nat → Bool
  le_maxRegion : ∀ {size : Nat}, grants size = true → size ≤ maxRegion

namespace Allocator

/-- Grants everything up to `limit` that can be granted at all. -/
def upTo (limit : Nat) : Allocator where
  grants size := decide (size ≤ min limit maxRegion)
  le_maxRegion h := by have := of_decide_eq_true h; omega

/-- A fresh region, all zero. -/
def allocate (alloc : Allocator) (size : Nat) : Except AllocationError ByteArray :=
  if alloc.grants size then .ok (ByteArray.replicate size 0) else .error (.refused size)

variable {alloc : Allocator} {size : Nat}

theorem allocate_of_grants (h : alloc.grants size = true) :
    alloc.allocate size = .ok (ByteArray.replicate size 0) := by
  simp [allocate, h]

theorem allocate_of_refuses (h : alloc.grants size = false) :
    alloc.allocate size = .error (.refused size) := by
  simp [allocate, h]

/-- No allocator grants what is larger than a region can be. -/
theorem allocate_of_lt (past : maxRegion < size) :
    alloc.allocate size = .error (.refused size) := by
  apply allocate_of_refuses
  rw [← Bool.not_eq_true]
  exact fun granted => Nat.not_le.2 past (alloc.le_maxRegion granted)

/-- What no word counts is refused as the largest word would be. -/
theorem allocate_of_maxSize_lt (past : maxSize < size) :
    alloc.allocate size = .error ⟨maxSize⟩ := by
  have largest : min size maxSize = maxSize := Nat.min_eq_right (Nat.le_of_lt past)
  rw [allocate_of_lt (Nat.lt_of_le_of_lt maxRegion_le_maxSize past), AllocationError.refused,
    largest]

theorem allocate_eq_ok_iff {region : ByteArray} :
    alloc.allocate size = .ok region ↔
      alloc.grants size = true ∧ region = ByteArray.replicate size 0 := by
  unfold allocate; cases alloc.grants size <;> simp [eq_comm]

theorem allocate_eq_error_iff {e : AllocationError} :
    alloc.allocate size = .error e ↔ alloc.grants size = false ∧ e = .refused size := by
  unfold allocate; cases alloc.grants size <;> simp [eq_comm]

end Allocator

end Spool
