import Spool.Options.Field

/-!
# Options as text

The compact notation in which options are stored, an object with one entry for each field, and the
form in which they are shown to a developer. Entries may be left out of the stored form or stand in
another order; what is written has all of them in order.
-/

namespace Spool

/-! ## Stored -/

def quotedName (s : String) : String := "\"" ++ s ++ "\""

def Growth.compact : Growth → String
  | .doubling => quotedName Growth.Variant.doubling.name
  | .factor k =>
    "\x7b" ++ quotedName Growth.Variant.factor.name ++ ":" ++ toString k.toNat ++ "\x7d"

namespace Options

def Field.compact (o : Options) : Field → String
  | initialCapacity => toString o.initialCapacity.toNat
  | readSize => toString o.readSize.toNat
  | growth => o.growth.compact

/-- The stored form with the given entries. -/
def compactOf (o : Options) (fields : List Field) : String :=
  "\x7b" ++ ",".intercalate (fields.map fun f => quotedName f.name ++ ":" ++ f.compact o) ++ "\x7d"

def compact (o : Options) : String := o.compactOf Field.all

end Options

/-! ## Shown -/

def Growth.debug : Growth → String
  | .doubling => "Doubling"
  | .factor k => s!"Factor({k.toNat})"

namespace Options

def Field.debug (o : Options) : Field → String
  | initialCapacity => toString o.initialCapacity.toNat
  | readSize => toString o.readSize.toNat
  | growth => o.growth.debug

def debug (o : Options) : String :=
  "BufferOptions \x7b " ++
    ", ".intercalate (Field.all.map fun f => f.name ++ ": " ++ f.debug o) ++ " \x7d"

end Options

end Spool
