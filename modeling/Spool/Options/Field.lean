import Spool.Options

/-!
# Names in options texts

The names under which the fields of the options and the ways to grow are stored. Each name belongs
to one of them only.
-/

namespace Spool

/-- The fields of the options. -/
inductive Options.Field where
  | initialCapacity
  | readSize
  | growth
  deriving DecidableEq, Repr

namespace Options.Field

/-- All fields, in the order in which they are stored. -/
def all : List Field := [initialCapacity, readSize, growth]

def name : Field → String
  | initialCapacity => "initial_capacity"
  | readSize => "read_size"
  | growth => "growth"

def ofName? (s : String) : Option Field := all.find? (·.name == s)

theorem mem_all (f : Field) : f ∈ all := by
  cases f <;> decide

theorem ofName?_name (f : Field) : ofName? f.name = some f := by
  cases f <;> decide

theorem name_of_ofName? {s : String} {f : Field} (h : ofName? s = some f) : f.name = s := by
  simpa using List.find?_some h

end Options.Field

/-- The ways to grow, without their numbers. -/
inductive Growth.Variant where
  | doubling
  | factor
  deriving DecidableEq, Repr

namespace Growth.Variant

def all : List Variant := [doubling, factor]

def name : Variant → String
  | doubling => "doubling"
  | factor => "factor"

def ofName? (s : String) : Option Variant := all.find? (·.name == s)

theorem ofName?_name (v : Variant) : ofName? v.name = some v := by
  cases v <;> decide

theorem name_of_ofName? {s : String} {v : Variant} (h : ofName? s = some v) : v.name = s := by
  simpa using List.find?_some h

end Growth.Variant

end Spool
