import Spool.Options

/-!
# Trial programs

A trial sets up a buffer and puts it through a list of commands. Programs are small in every number
that could ask for memory, so that a healthy allocator never refuses one.
-/

namespace Spool.Trial

inductive Command where
  | append (data : List UInt8)
  | consume (n : UInt16)
  /-- Consumes all that is unread. -/
  | drain
  | makeRoom (n : UInt16)
  /-- Writes up to `n` bytes `fill` into the free space, as far as it reaches, and commits them. -/
  | commit (n : UInt16) (fill : UInt8)
  | shrink (n : UInt16)
  | clear
  deriving DecidableEq, Repr

structure Program where
  initialCapacity : UInt8
  factor : Option UInt8
  commands : List Command
  deriving DecidableEq, Repr

def Program.options (p : Program) : Options where
  initialCapacity := p.initialCapacity.toUInt64
  growth := p.factor.elim .doubling .factor

/-! ## As text -/

def listText {α : Type} (f : α → String) (xs : List α) : String :=
  "[" ++ ", ".intercalate (xs.map f) ++ "]"

def Command.text : Command → String
  | append data => "Append(" ++ listText (fun x => toString x.toNat) data ++ ")"
  | consume n => s!"Consume({n.toNat})"
  | drain => "Drain"
  | makeRoom n => s!"Reserve({n.toNat})"
  | commit n fill =>
    "Commit \x7b n: " ++ toString n.toNat ++ ", fill: " ++ toString fill.toNat ++ " \x7d"
  | shrink n => s!"Shrink({n.toNat})"
  | clear => "Clear"

def Program.text (p : Program) : String :=
  "Input \x7b initial_capacity: " ++ toString p.initialCapacity.toNat ++
    ", factor: " ++ (p.factor.elim "None" fun k => s!"Some({k.toNat})") ++
    ", ops: " ++ listText Command.text p.commands ++ " \x7d"

end Spool.Trial
