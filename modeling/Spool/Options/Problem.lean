import Spool.Options.Field
import Spool.Decimal.Notation
import Spool.Text.Escape

/-!
# What can be wrong with an options text

A text is malformed where it is not JSON at all, or where it ends too early. Otherwise the first
value, key or name that does not fit is the problem, and the message says what was found there and
what was expected.
-/

namespace Spool

/-- What stands in a text where something else was expected. -/
inductive Found where
  | null
  | boolean (b : Bool)
  | integer (n : Int)
  | real (x : Float)
  | string (s : String)
  | sequence
  | map
  /-- The bare name of a variant. -/
  | unitVariant

/-- Numbers in messages are positional from five places behind the point up to sixteen before it. -/
def Found.numbers : Decimal.Layout where
  lowest := -5
  highest := 15

def Found.text : Found → String
  | null => "null"
  | boolean b => s!"boolean `{b}`"
  | integer n => s!"integer `{n}`"
  | real x => s!"floating point `{numbers.float x}`"
  | string s => "string " ++ Text.quoteText s
  | sequence => "sequence"
  | map => "map"
  | unitVariant => "unit variant"

inductive Expected where
  | options
  | size
  | factor
  | unit
  /-- A variant that holds a value. -/
  | payload
  | variantName
  deriving DecidableEq, Repr

def Expected.text : Expected → String
  | options => "struct BufferOptions"
  | size => "usize"
  | factor => "u8"
  | unit => "unit"
  | payload => "newtype variant"
  | variantName => "variant identifier"

inductive Mismatch where
  | wrongType (found : Found) (expected : Expected)
  | outOfRange (n : Int) (expected : Expected)
  | unknownField (name : String)
  | duplicateField (f : Options.Field)
  | unknownVariant (name : String)

/-- A name as it appears in messages. -/
def ticked (s : String) : String := s!"`{s}`"

def Mismatch.message : Mismatch → String
  | wrongType found expected => s!"invalid type: {found.text}, expected {expected.text}"
  | outOfRange n expected => s!"invalid value: integer `{n}`, expected {expected.text}"
  | unknownField name =>
    s!"unknown field {ticked name}, expected one of " ++
      ", ".intercalate (Options.Field.all.map fun f => ticked f.name)
  | duplicateField f => s!"duplicate field {ticked f.name}"
  | unknownVariant name =>
    s!"unknown variant {ticked name}, expected " ++
      " or ".intercalate (Growth.Variant.all.map fun v => ticked v.name)

inductive OptionsError where
  | malformed
  | mismatch (m : Mismatch)

end Spool
