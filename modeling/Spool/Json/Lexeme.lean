/-!
# Lexemes of JSON

The smallest parts of a JSON text, each read off the front of a list of characters: blanks, fixed
words, quoted text, numbers. A reader returns what is left, or nothing if the text is malformed
there. No lexeme is longer than it has to be: after a word anything may follow.

A number without fraction or exponent is an integer if 64 bits hold it, with a sign bit if it is
negative. Every other number is a double: the leading digits that fit 64 bits, scaled once by a
power of ten. The digits after those count only by their number, and negative zero is a double.
-/

namespace Spool.Json

def isBlank (c : Char) : Bool := c == ' ' || c == '\n' || c == '\t' || c == '\r'

/-- What follows `word` when the text starts with it. -/
def afterWord : (word : List Char) → List Char → Option (List Char)
  | [], cs => some cs
  | w :: ws, c :: cs => if w = c then afterWord ws cs else none
  | _ :: _, [] => none

/-! ## Quoted text -/

def hexDigit? (c : Char) : Option Nat :=
  if c.isDigit then some (c.toNat - '0'.toNat)
  else if 'a' ≤ c ∧ c ≤ 'f' then some (c.toNat - 'a'.toNat + 10)
  else if 'A' ≤ c ∧ c ≤ 'F' then some (c.toNat - 'A'.toNat + 10)
  else none

/-- Four hexadecimal digits. -/
def hexUnit? : List Char → Option (Nat × List Char)
  | a :: b :: c :: d :: cs =>
    match hexDigit? a, hexDigit? b, hexDigit? c, hexDigit? d with
    | some a, some b, some c, some d => some (((a * 16 + b) * 16 + c) * 16 + d, cs)
    | _, _, _, _ => none
  | _ => none

def isLeadingSurrogate (n : Nat) : Bool := decide (0xD800 ≤ n ∧ n ≤ 0xDBFF)

def isTrailingSurrogate (n : Nat) : Bool := decide (0xDC00 ≤ n ∧ n ≤ 0xDFFF)

/-- The character of a leading and a trailing surrogate. -/
def joinSurrogates (lead trail : Nat) : Char :=
  Char.ofNat (0x10000 + (lead - 0xD800) * 0x400 + (trail - 0xDC00))

/-- The character that an escape stands for, from behind its `u`. Surrogates come in pairs. -/
def unicodeEscape? (cs : List Char) : Option (Char × List Char) :=
  match hexUnit? cs with
  | none => none
  | some (n, rest) =>
    if isTrailingSurrogate n then none
    else if isLeadingSurrogate n then
      match afterWord ['\\', 'u'] rest with
      | none => none
      | some rest =>
        match hexUnit? rest with
        | none => none
        | some (m, rest) =>
          if isTrailingSurrogate m then some (joinSurrogates n m, rest) else none
    else some (Char.ofNat n, rest)

/-- The escapes of one letter and what they stand for. -/
def shortEscapes : List (Char × Char) :=
  [('"', '"'), ('\\', '\\'), ('/', '/'), ('b', '\x08'), ('f', '\x0c'), ('n', '\n'), ('r', '\r'),
    ('t', '\t')]

/-- The character that an escape stands for, from behind its backslash. -/
def escape? : List Char → Option (Char × List Char)
  | [] => none
  | c :: cs => if c = 'u' then unicodeEscape? cs else (shortEscapes.lookup c).map fun x => (x, cs)

theorem length_afterWord {w cs rest : List Char} (h : afterWord w cs = some rest) :
    rest.length ≤ cs.length := by
  fun_induction afterWord w cs <;> simp_all; omega

theorem length_hexUnit? {cs rest : List Char} {n : Nat} (h : hexUnit? cs = some (n, rest)) :
    rest.length < cs.length := by
  unfold hexUnit? at h
  split at h
  · split at h
    · cases h; simp; omega
    · cases h
  · cases h

theorem length_unicodeEscape? {cs rest : List Char} {c : Char}
    (h : unicodeEscape? cs = some (c, rest)) : rest.length < cs.length := by
  unfold unicodeEscape? at h
  split at h
  · contradiction
  · next n r hr =>
    have := length_hexUnit? hr
    split at h
    · contradiction
    · split at h
      · split at h
        · contradiction
        · next r' hr' =>
          have := length_afterWord hr'
          split at h
          · contradiction
          · next m r'' hr'' =>
            have := length_hexUnit? hr''
            split at h
            · obtain ⟨-, rfl⟩ : joinSurrogates n m = c ∧ r'' = rest := by simpa using h
              omega
            · contradiction
      · obtain ⟨-, rfl⟩ : Char.ofNat n = c ∧ r = rest := by simpa using h
        omega

theorem length_escape? {cs rest : List Char} {c : Char} (h : escape? cs = some (c, rest)) :
    rest.length < cs.length := by
  match cs with
  | [] => contradiction
  | x :: cs =>
    simp only [escape?] at h
    split at h
    · have := length_unicodeEscape? h
      simp; omega
    · obtain ⟨y, -, hy⟩ := Option.map_eq_some_iff.1 h
      simp only [Prod.mk.injEq] at hy
      simp [hy.2]

/-- Text up to its closing quote, from behind the opening one, with escapes resolved. Control
characters have to be escaped. -/
def quoted? : List Char → Option (List Char × List Char)
  | [] => none
  | c :: cs =>
    if c = '"' then some ([], cs)
    else if c = '\\' then
      match _h : escape? cs with
      | none => none
      | some (x, rest) => (quoted? rest).map fun r => (x :: r.1, r.2)
    else if c < ' ' then none
    else (quoted? cs).map fun r => (c :: r.1, r.2)
termination_by cs => cs.length
decreasing_by
  · have := length_escape? _h; simp; omega
  · simp

/-! ## Numbers -/

inductive Numeral where
  | integer (n : Int)
  | real (x : Float)

/-- Reads digits on to `n` as long as the number fits 64 bits; the digits that are left over. -/
def keepDigits (n : Nat) : List Char → Nat × List Char
  | [] => (n, [])
  | d :: ds =>
    let m := n * 10 + (d.toNat - '0'.toNat)
    if m < UInt64.size then keepDigits m ds else (n, d :: ds)

/-- Ten to the power of `n`, for `n` up to 308. -/
def tenTo (n : Nat) : Float := Float.ofScientific 1 false n

/-- `x` times ten to the power of `e`, nothing if that is beyond every double. -/
def scale? (x : Float) (e : Int) : Option Float :=
  if 308 < e then (if x == 0.0 then some x else none)
  else if 0 ≤ e then
    let y := x * tenTo e.toNat
    if y.isInf then none else some y
  else if -308 ≤ e then some (x / tenTo (-e).toNat)
  else if x == 0.0 then some x
  else scale? (x / tenTo 308) (e + 308)
termination_by e.natAbs
decreasing_by omega

/-- The double written with the digits `whole` before the point, `fraction` behind it, and a power
of ten. -/
def real? (negative : Bool) (whole fraction : List Char) (exponent : Int) : Option Float :=
  let w := keepDigits 0 whole
  let f := keepDigits w.1 fraction
  let used := fraction.length - f.2.length
  let x := scale? f.1.toUInt64.toFloat (exponent + w.2.length - used)
  x.map fun x => if negative then -x else x

def digitsValue (ds : List Char) : Nat := ds.foldl (fun n d => n * 10 + (d.toNat - '0'.toNat)) 0

/-- The number that plain digits stand for. -/
def plain? (negative : Bool) (whole : List Char) : Option Numeral :=
  let n := digitsValue whole
  if negative then
    if 0 < n ∧ n ≤ UInt64.size / 2 then some (.integer (-n)) else (real? true whole [] 0).map .real
  else if n < UInt64.size then some (.integer n) else (real? false whole [] 0).map .real

/-- Splits off a leading sign, if it is there. -/
def sign (negative : Char) (cs : List Char) : Bool × List Char :=
  match cs with
  | c :: r => if c = negative then (true, r) else (false, cs)
  | [] => (false, [])

/-- The digits at the front, at least one, and what follows. -/
def digits? (cs : List Char) : Option (List Char × List Char) :=
  let ds := cs.takeWhile Char.isDigit
  if ds.isEmpty then none else some (ds, cs.dropWhile Char.isDigit)

/-- A power of ten from behind its `e`, signed or not. -/
def exponent? (cs : List Char) : Option (Int × List Char) :=
  let minus := sign '-' cs
  let plus := sign '+' cs
  match digits? (if minus.1 then minus.2 else plus.2) with
  | none => none
  | some (ds, rest) => some (if minus.1 then -digitsValue ds else digitsValue ds, rest)

/-- What may follow the digits before the point: a fraction, if there is one. -/
def fraction? : List Char → Option (List Char × List Char)
  | '.' :: cs => digits? cs
  | cs => some ([], cs)

/-- A power of ten, if there is one. -/
def power? : List Char → Option (Option Int × List Char)
  | 'e' :: cs | 'E' :: cs => (exponent? cs).map fun r => (some r.1, r.2)
  | cs => some (none, cs)

/-- A number. Its first digit is zero only if it is the only one before the point. -/
def numeral? (cs : List Char) : Option (Numeral × List Char) := do
  let negative := sign '-' cs
  let (whole, rest) ← digits? negative.2
  if whole.head? = some '0' ∧ 1 < whole.length then none
  else
    let (fraction, rest) ← fraction? rest
    let (power, rest) ← power? rest
    let n ← match fraction, power with
      | [], none => plain? negative.1 whole
      | _, _ => (real? negative.1 whole fraction (power.getD 0)).map .real
    return (n, rest)

end Spool.Json
