import Mathlib.Data.List.TakeWhile
import Spool.Json.Lexeme

/-!
# The lexemes of JSON

What the smallest parts of a JSON text look like, each as a relation between what is written, the
text that starts with it and the text that goes on behind it. `Blanks` may stand between any two
other lexemes. `Quoted` text is spelled a character at a time, each of which `Spells` one by itself
or by an escape. A `Number` is a sign, digits, a fraction and a power of ten, of which only the
digits have to be there, and goes on as far as it can: no digit follows its digits, no point a
number without a fraction. The readers of lexemes find what the relations say, so no text starts
with two of a kind.
-/

namespace Spool.Json

/-- What stands at the front of a text, and where it ends, is determined by the text. -/
def Unambiguous {α : Type} (Spelling : α → List Char → List Char → Prop) : Prop :=
  ∀ ⦃x y : α⦄ ⦃cs ds es : List Char⦄, Spelling x cs ds → Spelling y cs es → x = y ∧ ds = es

/-- What a reader finds is unambiguous. -/
theorem unambiguous_of_reader {α : Type} {read : List Char → Option (α × List Char)}
    {Spelling : α → List Char → List Char → Prop}
    (reads : ∀ {x cs ds}, read cs = some (x, ds) ↔ Spelling x cs ds) : Unambiguous Spelling := by
  intro x y cs ds es h h'
  cases (reads.2 h).symm.trans (reads.2 h')
  exact ⟨rfl, rfl⟩

/-! ## Blanks -/

/-- The first text is the second one behind blanks. -/
inductive Blanks : List Char → List Char → Prop
  | none {cs : List Char} : Blanks cs cs
  | blank {c : Char} {cs ds : List Char} : isBlank c = true → Blanks cs ds → Blanks (c :: cs) ds

theorem isBlank_iff {c : Char} : isBlank c = true ↔ c = ' ' ∨ c = '\n' ∨ c = '\t' ∨ c = '\r' := by
  simp [isBlank, or_assoc]

/-- No blank stands in front. -/
def Fresh (cs : List Char) : Prop := ∀ c ∈ cs.head?, isBlank c = false

@[simp] theorem fresh_nil : Fresh [] := fun _ h => by cases h

@[simp] theorem fresh_cons {c : Char} {cs : List Char} : Fresh (c :: cs) ↔ isBlank c = false := by
  simp [Fresh]

theorem Blanks.trans {cs ds es : List Char} (h : Blanks cs ds) (h' : Blanks ds es) :
    Blanks cs es := by
  induction h with
  | none => exact h'
  | blank hc _ ih => exact .blank hc (ih h')

theorem blanks_dropWhile (cs : List Char) : Blanks cs (cs.dropWhile isBlank) := by
  induction cs with
  | nil => exact .none
  | cons c cs ih =>
    rw [List.dropWhile_cons]
    split
    · next hc => exact .blank hc ih
    · exact .none

theorem forall_head?_dropWhile (p : Char → Bool) (cs : List Char) :
    ∀ c ∈ (cs.dropWhile p).head?, p c = false := by
  intro c hc
  have := List.head?_dropWhile_not p cs
  rw [hc] at this
  simpa using this

theorem fresh_dropWhile (cs : List Char) : Fresh (cs.dropWhile isBlank) :=
  forall_head?_dropWhile isBlank cs

/-- Of all the texts behind blanks, one does not start with another blank. -/
theorem Blanks.eq_dropWhile {cs ds : List Char} (h : Blanks cs ds) (fresh : Fresh ds) :
    ds = cs.dropWhile isBlank := by
  induction h with
  | @none cs =>
    cases cs with
    | nil => rfl
    | cons c cs => rw [List.dropWhile_cons, if_neg (by simpa using fresh)]
  | blank hc _ ih => rw [List.dropWhile_cons, if_pos hc, ih fresh]

theorem Blanks.unique {cs ds es : List Char} (h : Blanks cs ds) (h' : Blanks cs es)
    (fresh : Fresh ds) (fresh' : Fresh es) : ds = es := by
  rw [h.eq_dropWhile fresh, h'.eq_dropWhile fresh']

theorem Blanks.cons_inj {c d : Char} {cs ds es : List Char} (h : Blanks cs (c :: ds))
    (h' : Blanks cs (d :: es)) (visible : isBlank c = false) (visible' : isBlank d = false) :
    c = d ∧ ds = es :=
  List.cons.inj (h.unique h' (fresh_cons.2 visible) (fresh_cons.2 visible'))

/-! ## Quoted text -/

/-- Four hexadecimal digits. -/
inductive HexUnit : Nat → List Char → List Char → Prop
  | digits {a b c d : Char} {i j k l : Nat} {ds : List Char} : hexDigit? a = some i →
      hexDigit? b = some j → hexDigit? c = some k → hexDigit? d = some l →
      HexUnit (((i * 16 + j) * 16 + k) * 16 + l) (a :: b :: c :: d :: ds) ds

/-- How a character is written in quoted text: by itself unless that is reserved, by one letter
behind a backslash, or by its code, which takes a pair of surrogates beyond the first plane. -/
inductive Spells : Char → List Char → List Char → Prop
  | plain {c : Char} {ds : List Char} : c ≠ '"' → c ≠ '\\' → ¬c < ' ' → Spells c (c :: ds) ds
  | short {l c : Char} {ds : List Char} : shortEscapes.lookup l = some c →
      Spells c ('\\' :: l :: ds) ds
  | unit {n : Nat} {cs ds : List Char} : HexUnit n cs ds → isLeadingSurrogate n = false →
      isTrailingSurrogate n = false → Spells (Char.ofNat n) ('\\' :: 'u' :: cs) ds
  | pair {n m : Nat} {cs ds es : List Char} : HexUnit n cs ('\\' :: 'u' :: ds) → HexUnit m ds es →
      isLeadingSurrogate n = true → isTrailingSurrogate m = true →
      Spells (joinSurrogates n m) ('\\' :: 'u' :: cs) es

/-- Text up to its closing quote, from behind the opening one. -/
inductive Quoted : List Char → List Char → List Char → Prop
  | close {ds : List Char} : Quoted [] ('"' :: ds) ds
  | char {c : Char} {s cs ds es : List Char} : Spells c cs ds → Quoted s ds es →
      Quoted (c :: s) cs es

theorem afterWord_eq_some_iff {w cs ds : List Char} : afterWord w cs = some ds ↔ cs = w ++ ds := by
  fun_induction afterWord w cs with
  | case1 cs => simp [eq_comm]
  | case2 w ws cs ih => simpa using ih
  | case3 w ws c cs differ => simp [Ne.symm differ]
  | case4 => simp

theorem hexUnit?_eq_some_iff {n : Nat} {cs ds : List Char} :
    hexUnit? cs = some (n, ds) ↔ HexUnit n cs ds := by
  constructor
  · intro h
    unfold hexUnit? at h
    split at h
    · split at h
      · next ha hb hc hd =>
        cases h
        exact .digits ha hb hc hd
      · cases h
    · cases h
  · rintro ⟨ha, hb, hc, hd⟩
    simp only [hexUnit?, ha, hb, hc, hd]

theorem isTrailingSurrogate_of_leading {n : Nat} (h : isLeadingSurrogate n = true) :
    isTrailingSurrogate n = false := by
  simp only [isLeadingSurrogate, isTrailingSurrogate, decide_eq_true_eq,
    decide_eq_false_iff_not] at h ⊢
  omega

theorem unicodeEscape?_eq_some_iff {c : Char} {cs ds : List Char} :
    unicodeEscape? cs = some (c, ds) ↔ Spells c ('\\' :: 'u' :: cs) ds := by
  constructor
  · intro h
    unfold unicodeEscape? at h
    split at h
    · cases h
    · next n rest unit =>
      rw [hexUnit?_eq_some_iff] at unit
      split at h
      · cases h
      · next notTrailing =>
        split at h
        · next leading =>
          split at h
          · cases h
          · next behind marked =>
            rw [afterWord_eq_some_iff] at marked
            subst marked
            split at h
            · cases h
            · next m rest second =>
              rw [hexUnit?_eq_some_iff] at second
              split at h
              · next trailing =>
                obtain ⟨rfl, rfl⟩ : joinSurrogates n m = c ∧ rest = ds := by simpa using h
                exact .pair unit second leading trailing
              · cases h
        · next notLeading =>
          cases h
          exact .unit unit (by simpa using notLeading) (by simpa using notTrailing)
  · intro h
    cases h with
    | plain _ no => exact absurd rfl no
    | short found => cases (show shortEscapes.lookup 'u' = none by decide).symm.trans found
    | unit unit notLeading notTrailing =>
      rw [← hexUnit?_eq_some_iff] at unit
      simp [unicodeEscape?, unit, notLeading, notTrailing]
    | pair unit second leading trailing =>
      have notTrailing := isTrailingSurrogate_of_leading leading
      rw [← hexUnit?_eq_some_iff] at unit second
      simp [unicodeEscape?, unit, notTrailing, leading, afterWord, second, trailing]

theorem escape?_eq_some_iff {c : Char} {cs ds : List Char} :
    escape? cs = some (c, ds) ↔ Spells c ('\\' :: cs) ds := by
  cases cs with
  | nil =>
    constructor
    · intro h
      cases h
    · intro h
      cases h with
      | plain _ no => exact absurd rfl no
  | cons l cs =>
    by_cases hl : l = 'u'
    · subst hl
      rw [escape?, if_pos rfl, unicodeEscape?_eq_some_iff]
    · rw [escape?, if_neg hl, Option.map_eq_some_iff]
      constructor
      · rintro ⟨x, found, pair⟩
        cases pair
        exact .short found
      · intro h
        cases h with
        | plain _ no => exact absurd rfl no
        | short found => exact ⟨_, found, rfl⟩
        | unit => exact absurd rfl hl
        | pair => exact absurd rfl hl

theorem Spells.quoted? {c : Char} {s cs ds es : List Char} (h : Spells c ('\\' :: cs) ds)
    (rest : quoted? ds = some (s, es)) : quoted? ('\\' :: cs) = some (c :: s, es) := by
  rw [← escape?_eq_some_iff] at h
  rw [Json.quoted?, if_neg (by decide), if_pos rfl]
  split
  · next none => cases none.symm.trans h
  · next x ds some =>
    cases some.symm.trans h
    rw [rest]
    rfl

/-- What quoted text starts with decides how its first character is written. -/
theorem quoted?_eq_some_iff {s cs ds : List Char} :
    quoted? cs = some (s, ds) ↔ Quoted s cs ds := by
  constructor
  · intro h
    fun_induction quoted? cs generalizing s ds with
    | case1 => cases h
    | case2 cs => cases h; exact .close
    | case3 cs _ none => cases h
    | case4 cs x rest escape _ ih =>
      obtain ⟨⟨t, es⟩, quoted, pair⟩ := Option.map_eq_some_iff.1 h
      cases pair
      exact .char (escape?_eq_some_iff.1 escape) (ih quoted)
    | case5 => cases h
    | case6 c cs noQuote noBackslash visible ih =>
      obtain ⟨⟨t, es⟩, quoted, pair⟩ := Option.map_eq_some_iff.1 h
      cases pair
      exact .char (.plain noQuote noBackslash visible) (ih quoted)
  · intro h
    induction h with
    | close => rw [quoted?, if_pos rfl]
    | char spells _ ih =>
      cases spells with
      | plain noQuote noBackslash visible =>
        rw [quoted?, if_neg noQuote, if_neg noBackslash, if_neg visible, ih]
        rfl
      | short found => exact (Spells.short found).quoted? ih
      | unit unit notLeading notTrailing =>
        exact (Spells.unit unit notLeading notTrailing).quoted? ih
      | pair unit second leading trailing =>
        exact (Spells.pair unit second leading trailing).quoted? ih

theorem unambiguous_quoted : Unambiguous Quoted := unambiguous_of_reader quoted?_eq_some_iff

/-- The characters that may be written by themselves. -/
def isPlain (c : Char) : Bool := c != '"' && c != '\\' && !decide (c < ' ')

theorem quoted_of_plain {s : List Char} (plain : s.all isPlain = true) (ds : List Char) :
    Quoted s (s ++ '"' :: ds) ds := by
  induction s with
  | nil => exact .close
  | cons c s ih =>
    rw [List.all_cons, Bool.and_eq_true] at plain
    obtain ⟨⟨noQuote, noBackslash⟩, visible⟩ : (c ≠ '"' ∧ c ≠ '\\') ∧ ¬c < ' ' := by
      simpa [isPlain] using plain.1
    exact .char (.plain noQuote noBackslash visible) (ih plain.2)

example : quoted? "\\u0067rowth\":".toList = some ("growth".toList, [':']) := by decide +kernel

/-! ## Numbers -/

/-- Digits, at least one, and no more of them behind. -/
structure Run (ws cs ds : List Char) : Prop where
  text : cs = ws ++ ds
  nonempty : ws ≠ []
  digits : ∀ c ∈ ws, c.isDigit = true
  ends : ∀ c ∈ ds.head?, c.isDigit = false

/-- What is there exactly if one of its marks is, in front of the rest of it. -/
inductive Part (marks : List Char) (Rest : List Char → List Char → List Char → Prop) :
    List Char → List Char → List Char → Prop
  | present {c : Char} {ls cs ds : List Char} : c ∈ marks → Rest ls cs ds →
      Part marks Rest (c :: ls) (c :: cs) ds
  | absent {cs : List Char} : (∀ c ∈ cs.head?, c ∉ marks) → Part marks Rest [] cs cs

def Sign (marks : List Char) : List Char → List Char → List Char → Prop :=
  Part marks fun ls cs ds => ls = [] ∧ cs = ds

def Fraction : List Char → List Char → List Char → Prop := Part ['.'] Run

/-- A power of ten from behind its `e`. -/
def Exponent (ls cs ds : List Char) : Prop :=
  ∃ sg ws rest, ls = sg ++ ws ∧ Sign ['+', '-'] sg cs rest ∧ Run ws rest ds

def Power : List Char → List Char → List Char → Prop := Part ['e', 'E'] Exponent

/-- The first digit is zero only if it is the only one. -/
def Leads (ws : List Char) : Prop := ws.head? = some '0' → ws.length = 1

inductive Number : List Char → List Char → List Char → Prop
  | parts {sg ws fs ps cs whole fraction power ds : List Char} : Sign ['-'] sg cs whole →
      Run ws whole fraction → Leads ws → Fraction fs fraction power → Power ps power ds →
      Number (sg ++ ws ++ fs ++ ps) cs ds

theorem digits?_eq_some_iff {ws cs ds : List Char} : digits? cs = some (ws, ds) ↔ Run ws cs ds := by
  unfold digits?
  constructor
  · intro h
    dsimp only at h
    split at h
    · cases h
    · next nonempty =>
      obtain ⟨rfl, rfl⟩ : cs.takeWhile Char.isDigit = ws ∧ cs.dropWhile Char.isDigit = ds := by
        simpa using h
      exact ⟨List.takeWhile_append_dropWhile.symm, by simpa using nonempty,
        fun c hc => List.mem_takeWhile_imp hc, forall_head?_dropWhile Char.isDigit cs⟩
  · intro h
    have stop : ds.takeWhile Char.isDigit = [] ∧ ds.dropWhile Char.isDigit = ds := by
      cases ds with
      | nil => exact ⟨rfl, rfl⟩
      | cons d ds =>
        have hd : ¬d.isDigit = true := by simpa using h.ends d rfl
        rw [List.takeWhile_cons, if_neg hd, List.dropWhile_cons, if_neg hd]
        exact ⟨rfl, rfl⟩
    have whole : cs.takeWhile Char.isDigit = ws := by
      rw [h.text, List.takeWhile_append_of_pos h.digits, stop.1, List.append_nil]
    have rest : cs.dropWhile Char.isDigit = ds := by
      rw [h.text, List.dropWhile_append_of_pos h.digits, stop.2]
    dsimp only
    rw [whole, rest, if_neg (by simpa using h.nonempty)]

theorem unambiguous_run : Unambiguous Run := unambiguous_of_reader digits?_eq_some_iff

theorem unambiguous_part {marks : List Char} {Rest : List Char → List Char → List Char → Prop}
    (unambiguous : Unambiguous Rest) : Unambiguous (Part marks Rest) := by
  intro ls ls' cs ds es h h'
  cases h with
  | present mark rest =>
    cases h' with
    | present _ rest' =>
      obtain ⟨rfl, rfl⟩ := unambiguous rest rest'
      exact ⟨rfl, rfl⟩
    | absent no => exact absurd mark (no _ rfl)
  | absent no =>
    cases h' with
    | present mark _ => exact absurd mark (no _ rfl)
    | absent => exact ⟨rfl, rfl⟩

theorem unambiguous_sign {marks : List Char} : Unambiguous (Sign marks) := by
  refine unambiguous_part ?_
  rintro ls ls' cs ds es ⟨rfl, rfl⟩ ⟨rfl, rfl⟩
  exact ⟨rfl, rfl⟩

theorem unambiguous_exponent : Unambiguous Exponent := by
  rintro ls ls' cs ds es ⟨sg, ws, rest, rfl, hsg, hws⟩ ⟨sg', ws', rest', rfl, hsg', hws'⟩
  obtain ⟨rfl, rfl⟩ := unambiguous_sign hsg hsg'
  obtain ⟨rfl, rfl⟩ := unambiguous_run hws hws'
  exact ⟨rfl, rfl⟩

theorem unambiguous_number : Unambiguous Number := by
  rintro ls ls' cs ds es ⟨sign, run, -, fraction, power⟩ ⟨sign', run', -, fraction', power'⟩
  obtain ⟨rfl, rfl⟩ := unambiguous_sign sign sign'
  obtain ⟨rfl, rfl⟩ := unambiguous_run run run'
  obtain ⟨rfl, rfl⟩ := unambiguous_part unambiguous_run fraction fraction'
  obtain ⟨rfl, rfl⟩ := unambiguous_part unambiguous_exponent power power'
  exact ⟨rfl, rfl⟩

/-- A number starts with its sign or with a digit. -/
theorem Number.head {ls cs ds : List Char} (h : Number ls cs ds) :
    ∃ c rest, cs = c :: rest ∧ (c = '-' ∨ c.isDigit = true) := by
  cases h with
  | @parts _ ws _ _ _ _ _ _ _ sign run =>
    cases sign with
    | @present c _ rest _ mark _ => exact ⟨c, rest, rfl, .inl (List.mem_singleton.1 mark)⟩
    | absent =>
      obtain ⟨text, nonempty, digits, -⟩ := run
      cases ws with
      | nil => exact absurd rfl nonempty
      | cons w ws => exact ⟨w, _, text, .inr (digits w List.mem_cons_self)⟩

/-- Digits are a number, if they may be one and nothing goes on behind them. -/
theorem Run.number {ws cs ds : List Char} (h : Run ws cs ds)
    (leads : Leads ws) (ends : ∀ c ∈ ds.head?, c ∉ ['.', 'e', 'E']) : Number ws cs ds := by
  have unsigned : Sign ['-'] [] cs cs := by
    refine .absent fun c head sign => ?_
    cases List.mem_singleton.1 sign
    obtain ⟨w, ws', rfl⟩ := List.exists_cons_of_ne_nil h.nonempty
    rw [h.text] at head
    cases head
    cases h.digits '-' List.mem_cons_self
  have fraction : Fraction [] ds ds := .absent fun c head mark =>
    ends c head (by simp [List.mem_singleton.1 mark])
  have power : Power [] ds ds := .absent fun c head mark =>
    ends c head (List.mem_cons_of_mem _ mark)
  simpa only [List.nil_append, List.append_nil] using Number.parts unsigned h leads fraction power

/-! ### Natural numbers -/

theorem leads_iff {ws : List Char} (nonempty : ws ≠ []) :
    Leads ws ↔ ¬(ws.head? = some '0' ∧ 1 < ws.length) := by
  have := List.length_pos_iff.2 nonempty
  unfold Leads
  constructor
  · rintro alone ⟨zero, more⟩
    have := alone zero
    omega
  · intro no zero
    by_contra more
    exact no ⟨zero, by omega⟩

theorem Part.eq_nil {marks ls cs ds : List Char}
    {Rest : List Char → List Char → List Char → Prop} (h : Part marks Rest ls cs ds)
    (noDigit : marks.all (fun m => !m.isDigit) = true) (digits : ∀ c ∈ ls, c.isDigit = true) :
    ls = [] := by
  cases h with
  | present mark _ =>
    have no := List.all_eq_true.1 noDigit _ mark
    rw [digits _ List.mem_cons_self] at no
    cases no
  | absent => rfl

theorem sign_eq_false_iff {m : Char} {cs ds : List Char} :
    sign m cs = (false, ds) ↔ Sign [m] [] cs ds := by
  constructor
  · intro h
    unfold sign at h
    split at h
    · next c r =>
      split at h
      · cases h
      · next differ =>
        cases h
        exact .absent (by simpa using differ)
    · cases h
      exact .absent (by simp)
  · intro h
    cases h with
    | absent no =>
      cases cs with
      | nil => rfl
      | cons c cs => rw [sign, if_neg (by simpa using no)]

theorem fraction?_eq_nil_iff {cs ds : List Char} :
    fraction? cs = some ([], ds) ↔ Fraction [] cs ds := by
  constructor
  · intro h
    unfold fraction? at h
    split at h
    · exact absurd rfl (digits?_eq_some_iff.1 h).nonempty
    · next cs point =>
      cases h
      refine .absent fun c hc => ?_
      obtain ⟨ds, rfl⟩ := List.head?_eq_some_iff.1 hc
      intro mark
      cases List.mem_singleton.1 mark
      exact point ds rfl
  · intro h
    cases h with
    | absent no =>
      unfold fraction?
      split
      · exact absurd (List.mem_singleton.2 rfl) (no '.' rfl)
      · rfl

theorem power?_eq_none_iff {cs ds : List Char} :
    power? cs = some (none, ds) ↔ Power [] cs ds := by
  constructor
  · intro h
    unfold power? at h
    split at h
    · simp at h
    · simp at h
    · next cs lower upper =>
      cases h
      refine .absent fun c hc => ?_
      obtain ⟨ds, rfl⟩ := List.head?_eq_some_iff.1 hc
      intro mark
      rcases (by simpa using mark : c = 'e' ∨ c = 'E') with rfl | rfl
      · exact lower ds rfl
      · exact upper ds rfl
  · intro h
    cases h with
    | absent no =>
      unfold power?
      split
      · exact absurd (by decide) (no 'e' rfl)
      · exact absurd (by decide) (no 'E' rfl)
      · rfl

theorem plain?_eq_natural_iff {n : Nat} {negative : Bool} {ws : List Char} :
    plain? negative ws = some (.integer n) ↔
      negative = false ∧ n < UInt64.size ∧ digitsValue ws = n := by
  unfold plain?
  cases negative with
  | true =>
    constructor
    · intro h
      dsimp only at h
      rw [if_pos rfl] at h
      split at h
      · next range =>
        obtain minus : -(digitsValue ws : Int) = n := by simpa using h
        omega
      · simp at h
    · rintro ⟨no, -⟩
      cases no
  | false =>
    constructor
    · intro h
      dsimp only at h
      rw [if_neg (by decide)] at h
      split at h
      · next fits =>
        obtain value : (digitsValue ws : Int) = n := by simpa using h
        exact ⟨rfl, by omega, by omega⟩
      · simp at h
    · rintro ⟨-, fits, rfl⟩
      dsimp only
      rw [if_neg (by decide), if_pos fits]

/-- A number without sign, fraction and power of ten is read as the number that its digits stand
for, if 64 bits hold it. No other number is read as a natural one. -/
theorem numeral?_eq_natural_iff {n : Nat} {cs ds : List Char} :
    numeral? cs = some (.integer n, ds) ↔ n < UInt64.size ∧
      ∃ ws, Number ws cs ds ∧ ws.all Char.isDigit = true ∧ digitsValue ws = n := by
  unfold numeral?
  constructor
  · intro h
    obtain ⟨⟨ws, fraction⟩, run, h⟩ := Option.bind_eq_some_iff.1 h
    dsimp only at h
    split at h
    · cases h
    · next zero =>
      obtain ⟨⟨fs, power⟩, hfs, h⟩ := Option.bind_eq_some_iff.1 h
      obtain ⟨⟨p, rest⟩, hp, h⟩ := Option.bind_eq_some_iff.1 h
      dsimp only at h hp
      split at h
      · obtain ⟨m, value, pair⟩ := Option.bind_eq_some_iff.1 h
        cases pair
        obtain ⟨positive, fits, value⟩ := plain?_eq_natural_iff.1 value
        rw [digits?_eq_some_iff] at run
        have unsigned := sign_eq_false_iff.1 (Prod.ext positive rfl : sign '-' cs = (false, _))
        have number := Number.parts unsigned run ((leads_iff run.nonempty).2 zero)
          (fraction?_eq_nil_iff.1 hfs) (power?_eq_none_iff.1 hp)
        simp only [List.nil_append, List.append_nil] at number
        exact ⟨fits, ws, number, List.all_eq_true.2 run.digits, value⟩
      · obtain ⟨m, value, pair⟩ := Option.bind_eq_some_iff.1 h
        cases pair
        simp at value
  · rintro ⟨fits, ls, number, digits, rfl⟩
    cases number with
    | @parts sg ws fs ps _ whole fraction power _ sign run leads hfs hps =>
      simp only [List.all_eq_true, List.forall_mem_append] at digits
      obtain ⟨⟨⟨hsg, -⟩, hfs'⟩, hps'⟩ := digits
      obtain rfl := Part.eq_nil sign (by decide) hsg
      obtain rfl := Part.eq_nil hfs (by decide) hfs'
      obtain rfl := Part.eq_nil hps (by decide) hps'
      have alone := (leads_iff run.nonempty).1 leads
      rw [← digits?_eq_some_iff] at run
      rw [← fraction?_eq_nil_iff] at hfs
      rw [← power?_eq_none_iff] at hps
      rw [← sign_eq_false_iff] at sign
      have value := plain?_eq_natural_iff.2 ⟨rfl, fits, rfl⟩
      simp only [List.nil_append, List.append_nil] at value ⊢
      simp [sign, run, alone, hfs, hps, value]

end Spool.Json
