import Spool.Decimal.Shortest

/-!
# Decimal notation

How a double is written once its digits are known: positionally while the exponent of the leading
digit is within bounds, else with one digit before the point and a signed exponent.
-/

namespace Spool.Decimal

structure Layout where
  /-- The exponents of the leading digit that are written positionally. -/
  lowest : Int
  highest : Int

def padLeft (width : Nat) (s : String) : String :=
  String.ofList (List.replicate (width - s.length) '0') ++ s

/-- Digits with the point behind the first `whole` of them, filled up with zeros on either side. A
whole number keeps one zero behind the point. -/
def positional (digits : String) (whole : Int) : String :=
  if whole ≤ 0 then "0." ++ padLeft (digits.length + (-whole).toNat) digits
  else if whole.toNat < digits.length then
    String.ofList (digits.toList.take whole.toNat) ++ "." ++
      String.ofList (digits.toList.drop whole.toNat)
  else digits ++ String.ofList (List.replicate (whole.toNat - digits.length) '0') ++ ".0"

/-- One digit before the point, and an exponent that has a sign but no leading zero. -/
def scientific (digits : String) (exponent : Int) : String :=
  let tail := String.ofList (digits.toList.drop 1)
  String.ofList (digits.toList.take 1) ++ (if tail.isEmpty then "" else "." ++ tail) ++
    (if exponent < 0 then "e-" else "e+") ++ toString exponent.natAbs

/-- A finite double in the given layout, by its shortest decimal. -/
def Layout.float (l : Layout) (x : Float) : String :=
  let b := Binary.ofFloat x
  let sign := if x.toBits.toNat < UInt64.size / 2 then "" else "-"
  if b.mantissa = 0 then sign ++ "0.0"
  else
    let d := b.shortest
    let digits := toString d.digits
    let leading := d.exponent + digits.length - 1
    sign ++ if l.lowest ≤ leading ∧ leading ≤ l.highest then positional digits (leading + 1)
      else scientific digits leading

end Spool.Decimal
