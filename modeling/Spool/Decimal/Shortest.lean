/-!
# The fewest digits that read back

A finite double stands for the interval of reals that round to it. Of the decimals in that interval
the one on the coarsest grid of powers of ten has the fewest digits, and of two on that grid the one
nearer to the double is taken, the even one if both are equally near. All of it is decided by exact
arithmetic on naturals.
-/

namespace Spool.Decimal

/-- A positive double: `mantissa * 2 ^ exponent`. -/
structure Binary where
  mantissa : Nat
  exponent : Int
  /-- The neighbour below is half as far away as the one above. -/
  narrowBelow : Bool
  deriving DecidableEq, Repr

/-- The magnitude of a finite double; zero has mantissa 0. -/
def Binary.ofFloat (x : Float) : Binary :=
  let bits : Nat := x.toBits.toNat
  let fraction : Nat := bits % Nat.pow 2 52
  let biased : Nat := bits / Nat.pow 2 52 % Nat.pow 2 11
  if biased = 0 then ⟨fraction, -1074, false⟩
  else ⟨Nat.pow 2 52 + fraction, (biased : Int) - 1075, decide (fraction = 0 ∧ 1 < biased)⟩

/-- `digits * 10 ^ exponent`. -/
structure Expansion where
  digits : Nat
  exponent : Int
  deriving DecidableEq, Repr

/-- `n * base ^ e` as a numerator and a denominator. -/
def scaled (n base : Nat) (e : Int) : Nat × Nat := (n * base.pow e.toNat, base.pow (-e).toNat)

/-- Compares `p` with `q`, each a numerator over a positive denominator. -/
def compareRatio (p q : Nat × Nat) : Ordering := compare (p.1 * q.2) (q.1 * p.2)

/-- Whether a decimal lies in the interval that `b` stands for, whose ends belong to it when the
mantissa is even. -/
def Binary.readsBack (b : Binary) (d : Expansion) : Bool :=
  let x := scaled d.digits 10 d.exponent
  let low := scaled (4 * b.mantissa - if b.narrowBelow then 1 else 2) 2 (b.exponent - 2)
  let high := scaled (4 * b.mantissa + 2) 2 (b.exponent - 2)
  let closed := b.mantissa % 2 == 0
  match compareRatio low x, compareRatio x high with
  | .gt, _ | _, .gt => false
  | .eq, _ | _, .eq => closed
  | .lt, .lt => true

/-- The one of the two neighbours of `b` on the grid of `10 ^ k` that reads back, the nearer if both
do. -/
def Binary.onGrid (b : Binary) (k : Int) : Option Expansion :=
  let v := scaled b.mantissa 2 b.exponent
  let unit := scaled 1 10 k
  let n := v.1 * unit.2 / (v.2 * unit.1)
  let below : Expansion := ⟨n, k⟩
  let above : Expansion := ⟨n + 1, k⟩
  match n != 0 && b.readsBack below, b.readsBack above with
  | true, false => some below
  | false, true => some above
  | false, false => none
  | true, true =>
    match compareRatio (2 * v.1, v.2) (scaled (2 * n + 1) 10 k) with
    | .lt => some below
    | .gt => some above
    | .eq => some (if n % 2 = 0 then below else above)

/-- The first hit on the grids of `10 ^ k`, `10 ^ (k - 1)`, … -/
def Binary.search (b : Binary) : (grids : Nat) → Int → Option Expansion
  | 0, _ => none
  | grids + 1, k => b.onGrid k <|> b.search grids (k - 1)

/-- The shortest decimal that reads back as `b`. No double reaches `10 ^ 309`, and each one is a
multiple of `10 ^ (-1074)`, so the grids between suffice. -/
def Binary.shortest (b : Binary) : Expansion :=
  (b.search 1384 309).getD ⟨0, 0⟩

end Spool.Decimal
