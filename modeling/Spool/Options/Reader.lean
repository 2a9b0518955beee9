import Spool.Options.Problem
import Spool.Json.Lexeme

/-!
# Reading options

The options in a JSON text, read from left to right: the first problem met decides, whatever the
rest of the text holds. Fields come by name in an object, in any order, or by position in an array;
those that are left out keep their defaults. A key is judged before the colon behind it is read, a
value as soon as it is known to be of the wrong kind. Readers of JSON differ in one thing, which is
a parameter: a variant's name that is not quoted is no JSON to some, a value of the wrong type to
others.
-/

namespace Spool.Options

/-- A reader of a text from left to right; its state is what is left. -/
abbrev Reader := StateT (List Char) (Except OptionsError)

/-- What a variant's name is that is not quoted. -/
inductive Unquoted where
  | malformed
  | wrongType
  deriving DecidableEq, Repr

namespace Reader

def malformed {α : Type} : Reader α := throw .malformed

def wrongType {α : Type} (found : Found) (expected : Expected) : Reader α :=
  throw (.mismatch (.wrongType found expected))

/-- Runs a reader of a lexeme. -/
def lexeme {α : Type} (read : List Char → Option (α × List Char)) : Reader α := fun cs =>
  match read cs with
  | some r => .ok r
  | none => .error .malformed

def peek : Reader (Option Char) := fun cs => .ok (cs.head?, cs)

def skip : Reader Unit := fun cs => .ok ((), cs.tail)

def skipBlanks : Reader Unit := fun cs => .ok ((), cs.dropWhile Json.isBlank)

/-- Reads the given character, after blanks. -/
def expect (c : Char) : Reader Unit := do
  skipBlanks
  if (← peek) = some c then skip else malformed

def word (s : String) : Reader Unit :=
  lexeme fun cs => (Json.afterWord s.toList cs).map fun rest => ((), rest)

/-- Reads quoted text. -/
def text : Reader String := do
  skip
  return String.ofList (← lexeme Json.quoted?)

/-- Reads a name, which has to be quoted text. -/
def name : Reader String := do
  if (← peek) = some '"' then text else malformed

/-- Reads as much as it takes to name what stands here. -/
def found : Reader Found := do
  match ← peek with
  | some 'n' => word "null"; return .null
  | some 't' => word "true"; return .boolean true
  | some 'f' => word "false"; return .boolean false
  | some '"' => return .string (← text)
  | some '[' => return .sequence
  | some '{' => return .map
  | some c =>
    if c = '-' ∨ c.isDigit then
      match ← lexeme Json.numeral? with
      | .integer n => return .integer n
      | .real x => return .real x
    else malformed
  | none => malformed

/-- Refuses what stands here, in favour of what was expected. -/
def refuse {α : Type} (expected : Expected) : Reader α := do
  wrongType (← found) expected

/-- Reads a natural number up to `limit`. -/
def number (expected : Expected) (limit : Nat) : Reader Nat := do
  skipBlanks
  match ← found with
  | .integer n =>
    if 0 ≤ n ∧ n ≤ limit then return n.toNat
    else throw (.mismatch (.outOfRange n expected))
  | f => wrongType f expected

def null : Reader Unit := do
  skipBlanks
  match ← found with
  | .null => return
  | f => wrongType f .unit

def variantName : Unquoted → Reader String
  | .malformed => name
  | .wrongType => do
    match ← found with
    | .string s => return s
    | f => wrongType f .variantName

def variant (s : String) : Reader Growth.Variant :=
  match Growth.Variant.ofName? s with
  | some v => return v
  | none => throw (.mismatch (.unknownVariant s))

/-- Reads a rule of growth: a name by itself, or an object of one entry that gives the name its
value. -/
def growth (q : Unquoted) : Reader Growth := do
  skipBlanks
  match ← peek with
  | some '{' =>
    skip
    skipBlanks
    let v ← variant (← variantName q)
    expect ':'
    let g ← match v with
      | .doubling => do null; pure Growth.doubling
      | .factor => do pure (Growth.factor (← number .factor 255).toUInt8)
    expect '}'
    return g
  | some '"' =>
    match ← variant (← text) with
    | .doubling => return .doubling
    | .factor => wrongType .unitVariant .payload
  | _ => malformed

/-- Reads the value of a field into the options. -/
def value (q : Unquoted) (f : Field) (o : Options) : Reader Options := do
  match f with
  | .initialCapacity =>
    let n ← number .size (UInt64.size - 1)
    return { o with initialCapacity := n.toUInt64 }
  | .readSize =>
    let n ← number .size (UInt64.size - 1)
    return { o with readSize := n.toUInt64 }
  | .growth =>
    let g ← growth q
    return { o with growth := g }

/-- Whether another item follows before the closing bracket, which is read if none does. Items are
separated by commas, and none follows the last. -/
def another (close : Char) (first : Bool) : Reader Bool := do
  skipBlanks
  if (← peek) = some close then
    skip
    return false
  else if first then return true
  else
    expect ','
    skipBlanks
    if (← peek) = some close then malformed else return true

/-- Reads the fields by position, up to the closing bracket. -/
def elements (q : Unquoted) : (fields : List Field) → (first : Bool) → Options → Reader Options
  | [], _, o => do
    expect ']'
    return o
  | f :: fs, first, o => do
    if ← another ']' first then
      let o ← value q f o
      elements q fs false o
    else return o

/-- Reads a key. -/
def key : Reader Field := do
  let s ← name
  match Field.ofName? s with
  | some f => return f
  | none => throw (.mismatch (.unknownField s))

/-- Reads the fields by name, each of those left at most once, up to the closing bracket. -/
def members (q : Unquoted) (left : List Field) (first : Bool) (o : Options) : Reader Options := do
  if ← another '}' first then
    let f ← key
    if _h : f ∈ left then
      expect ':'
      let o ← value q f o
      members q (left.erase f) false o
    else throw (.mismatch (.duplicateField f))
  else return o
termination_by left.length
decreasing_by
  rw [List.length_erase_of_mem _h]
  have := List.length_pos_of_mem _h
  omega

/-- Reads a whole text. -/
def options (q : Unquoted) : Reader Options := do
  skipBlanks
  let o ← match ← peek with
    | some '[' => do skip; elements q Field.all true {}
    | some '{' => do skip; members q Field.all true {}
    | _ => refuse .options
  skipBlanks
  if (← peek) = none then return o else malformed

end Reader

/-- The options that a text holds, or the first problem with it. -/
def ofTextBy (q : Unquoted) (s : String) : Except OptionsError Options :=
  (Reader.options q s.toList).map Prod.fst

/-- The options that a text holds, if an unquoted name is malformed. -/
def ofText (s : String) : Except OptionsError Options := ofTextBy .malformed s

end Spool.Options
