/-!
# Options

How a buffer is set up: the size of its first region, how much room a fill makes, and the rule by
which a region that is too small is replaced. Every rule grows geometrically, as a multiplier below
two counts as two.
-/

namespace Spool

/-- The rule for the size of a larger region. -/
inductive Growth where
  | doubling
  | factor (k : UInt8)
  deriving DecidableEq, Repr

namespace Growth

def multiplier : Growth → Nat
  | doubling => 2
  | factor k => max k.toNat 2

/-- The size of the region that replaces one of `capacity` bytes when `needed` more must fit. -/
def enlarge (g : Growth) (capacity needed : Nat) : Nat := capacity * g.multiplier + needed

theorem two_le_multiplier (g : Growth) : 2 ≤ g.multiplier := by
  cases g <;> simp only [multiplier] <;> omega

theorem multiplier_le (g : Growth) : g.multiplier ≤ 255 := by
  cases g with
  | doubling => decide
  | factor k => have := k.toNat_lt; simp only [multiplier]; omega

end Growth

/-- The settings of a buffer, sizes in bytes. -/
structure Options where
  initialCapacity : UInt64 := 16384
  readSize : UInt64 := 16384
  growth : Growth := .doubling
  deriving DecidableEq, Repr

namespace Options

instance : Inhabited Options := ⟨{}⟩

/-- The room that a fill makes: at least one byte, so that a source is never offered nothing. -/
def fillRoom (o : Options) : Nat := max o.readSize.toNat 1

theorem fillRoom_pos (o : Options) : 0 < o.fillRoom := by
  simp only [fillRoom]; omega

end Options

end Spool
