import Mathlib.Data.List.Basic
import Mathlib.Logic.Relation
import Spool.Proofs.JsonLexemes

/-!
# Lexemes of a text that goes on

What is behind a lexeme makes no difference to it, with one exception: where a number ends is only
seen at the character behind it, so one that the text ends in may go on. A `Lexeme` is taken off a
text with all that follows it in view, and `Lexemes` are any number of them. A text `EndsInNumber`
if they lead to a number that is the rest of it.
-/

namespace Spool.Json

/-- The lexemes of one character. -/
def marks : List Char := ['{', '}', '[', ']', ':', ',']

def words : List String := ["null", "true", "false"]

/-- A blank or a lexeme, and what is behind it. -/
inductive Lexeme : List Char → List Char → Prop
  | blank {c : Char} {ds : List Char} : isBlank c = true → Lexeme (c :: ds) ds
  | mark {c : Char} {ds : List Char} : c ∈ marks → Lexeme (c :: ds) ds
  | word {w : String} {ds : List Char} : w ∈ words → Lexeme (w.toList ++ ds) ds
  | text {s cs ds : List Char} : Quoted s cs ds → Lexeme ('"' :: cs) ds
  | number {ls cs ds : List Char} : Number ls cs ds → Lexeme cs ds

/-- The second text is what is left of the first one behind some lexemes. -/
def Lexemes : List Char → List Char → Prop := Relation.ReflTransGen Lexeme

/-- The last character of the text belongs to a number. -/
def EndsInNumber (cs : List Char) : Prop := ∃ ls rest, Lexemes cs rest ∧ Number ls rest []

theorem Lexemes.refl (cs : List Char) : Lexemes cs cs := Relation.ReflTransGen.refl

theorem Lexemes.trans {cs ds es : List Char} (h : Lexemes cs ds) (h' : Lexemes ds es) :
    Lexemes cs es := Relation.ReflTransGen.trans h h'

theorem Lexeme.lexemes {cs ds : List Char} (h : Lexeme cs ds) : Lexemes cs ds :=
  Relation.ReflTransGen.single h

theorem Blanks.lexemes {cs ds : List Char} (h : Blanks cs ds) : Lexemes cs ds := by
  induction h with
  | none => exact .refl _
  | blank hc _ ih => exact (Lexeme.blank hc).lexemes.trans ih

theorem EndsInNumber.of_lexemes {cs ds : List Char} (h : Lexemes cs ds) (ends : EndsInNumber ds) :
    EndsInNumber cs := by
  obtain ⟨ls, rest, h', number⟩ := ends
  exact ⟨ls, rest, h.trans h', number⟩

/-! ## Where texts end -/

theorem Run.ne_nil {ws cs ds : List Char} (h : Run ws cs ds) : cs ≠ [] := by
  rw [h.text]
  exact List.append_ne_nil_of_left_ne_nil h.nonempty ds

theorem Part.suffix {marks ls cs ds : List Char}
    {Rest : List Char → List Char → List Char → Prop} (h : Part marks Rest ls cs ds)
    (rest : ∀ {ls cs ds}, Rest ls cs ds → ds <:+ cs) : ds <:+ cs := by
  cases h with
  | present _ h => exact (rest h).trans (List.suffix_cons _ _)
  | absent => exact List.suffix_refl cs

theorem Sign.suffix {marks ls cs ds : List Char} (h : Sign marks ls cs ds) : ds <:+ cs := by
  refine Part.suffix h ?_
  rintro ls cs ds ⟨-, rfl⟩
  exact List.suffix_refl cs

theorem Run.suffix {ws cs ds : List Char} (h : Run ws cs ds) : ds <:+ cs := ⟨ws, h.text.symm⟩

theorem Exponent.suffix {ls cs ds : List Char} (h : Exponent ls cs ds) : ds <:+ cs := by
  obtain ⟨sg, ws, rest, -, sign, run⟩ := h
  exact run.suffix.trans sign.suffix

theorem Number.suffix {ls cs ds : List Char} (h : Number ls cs ds) : ds <:+ cs := by
  cases h with
  | parts sign run leads fraction power =>
    exact (Part.suffix power Exponent.suffix).trans
      ((Part.suffix fraction Run.suffix).trans (run.suffix.trans sign.suffix))

theorem HexUnit.suffix {n : Nat} {cs ds : List Char} (h : HexUnit n cs ds) : ds <:+ cs := by
  cases h with
  | @digits a b c d => exact ⟨[a, b, c, d], rfl⟩

theorem Spells.suffix {c : Char} {cs ds : List Char} (h : Spells c cs ds) : ds <:+ cs := by
  cases h with
  | plain => exact List.suffix_cons _ _
  | @short l => exact ⟨['\\', l], rfl⟩
  | unit unit => exact unit.suffix.trans ⟨['\\', 'u'], rfl⟩
  | @pair _ _ _ ds _ unit second =>
    have between : ds <:+ '\\' :: 'u' :: ds := ⟨['\\', 'u'], rfl⟩
    exact second.suffix.trans (between.trans (unit.suffix.trans ⟨['\\', 'u'], rfl⟩))

theorem Quoted.suffix {s cs ds : List Char} (h : Quoted s cs ds) : ds <:+ cs := by
  induction h with
  | close => exact List.suffix_cons _ _
  | char spells _ ih => exact ih.trans spells.suffix

theorem Lexeme.suffix {cs ds : List Char} (h : Lexeme cs ds) : ds <:+ cs := by
  cases h with
  | blank | mark => exact List.suffix_cons _ _
  | word => exact List.suffix_append _ _
  | text quoted => exact quoted.suffix.trans (List.suffix_cons _ _)
  | number number => exact number.suffix

theorem Lexemes.suffix {cs ds : List Char} (h : Lexemes cs ds) : ds <:+ cs := by
  induction h with
  | refl => exact List.suffix_refl cs
  | tail _ lexeme ih => exact lexeme.suffix.trans ih

theorem Lexemes.eq_nil {ds : List Char} (h : Lexemes [] ds) : ds = [] :=
  List.suffix_nil.1 h.suffix

/-- No other character than a digit is the last one. -/
def Closed (cs : List Char) : Prop := ∀ c ∈ cs.getLast?, c.isDigit = true

theorem Closed.of_suffix {cs ds : List Char} (h : Closed ds) (suffix : ds <:+ cs) (some : ds ≠ []) :
    Closed cs := by
  obtain ⟨front, rfl⟩ := suffix
  intro c last
  rw [List.getLast?_append_of_ne_nil front some] at last
  exact h c last

theorem Run.closed {ws cs ds : List Char} (h : Run ws cs ds) (closed : Closed ds) : Closed cs := by
  by_cases none : ds = []
  · intro c last
    rw [h.text, none, List.append_nil] at last
    exact h.digits c (List.mem_of_getLast? last)
  · exact closed.of_suffix h.suffix none

theorem Part.closed {marks ls cs ds : List Char}
    {Rest : List Char → List Char → List Char → Prop} (h : Part marks Rest ls cs ds)
    (rest : ∀ {ls cs ds}, Rest ls cs ds → Closed ds → cs ≠ [] ∧ Closed cs) (closed : Closed ds) :
    Closed cs := by
  cases h with
  | present _ h =>
    obtain ⟨some, closed⟩ := rest h closed
    exact closed.of_suffix (List.suffix_cons _ _) some
  | absent => exact closed

theorem Number.closed {ls cs : List Char} (h : Number ls cs []) : Closed cs := by
  cases h with
  | @parts sg ws fs ps _ whole fraction power _ sign run leads hfs hps =>
    have nothing : Closed [] := fun c last => nomatch last
    have power : Closed power := Part.closed hps (by
      rintro ls cs ds ⟨sg, ws, rest, -, sign, run⟩ closed
      have some : cs ≠ [] := fun none => run.ne_nil (List.suffix_nil.1 (none ▸ sign.suffix))
      exact ⟨some, (run.closed closed).of_suffix sign.suffix run.ne_nil⟩) nothing
    have fraction : Closed fraction :=
      Part.closed hfs (fun run closed => ⟨run.ne_nil, run.closed closed⟩) power
    exact (run.closed fraction).of_suffix sign.suffix run.ne_nil

/-- A text that ends in a number ends in a digit. -/
theorem EndsInNumber.last {cs : List Char} (h : EndsInNumber cs) :
    ∃ c ∈ cs.getLast?, c.isDigit = true := by
  obtain ⟨ls, rest, lexemes, number⟩ := h
  obtain ⟨c, others, rfl, -⟩ := number.head
  have closed := number.closed.of_suffix lexemes.suffix (List.cons_ne_nil c others)
  have some : cs ≠ [] := by
    rintro rfl
    exact List.cons_ne_nil c others lexemes.eq_nil
  have last := List.getLast?_eq_getLast_of_ne_nil some
  exact ⟨cs.getLast some, last, closed _ last⟩

theorem not_endsInNumber {cs : List Char} {c : Char} (last : cs.getLast? = some c)
    (noDigit : c.isDigit = false) : ¬EndsInNumber cs := by
  intro ends
  obtain ⟨d, last', digit⟩ := ends.last
  cases last.symm.trans last'
  cases noDigit.symm.trans digit

/-! ## What follows makes no difference -/

theorem HexUnit.append {n : Nat} {cs ds : List Char} (h : HexUnit n cs ds) (es : List Char) :
    HexUnit n (cs ++ es) (ds ++ es) := by
  cases h with
  | digits ha hb hc hd => exact .digits ha hb hc hd

theorem Spells.append {c : Char} {cs ds : List Char} (h : Spells c cs ds) (es : List Char) :
    Spells c (cs ++ es) (ds ++ es) := by
  cases h with
  | plain noQuote noBackslash visible => exact .plain noQuote noBackslash visible
  | short found => exact .short found
  | unit unit notLeading notTrailing => exact .unit (unit.append es) notLeading notTrailing
  | pair unit second leading trailing =>
    exact .pair (unit.append es) (second.append es) leading trailing

theorem Quoted.append {s cs ds : List Char} (h : Quoted s cs ds) (es : List Char) :
    Quoted s (cs ++ es) (ds ++ es) := by
  induction h with
  | close => exact .close
  | char spells _ ih => exact .char (spells.append es) ih

/-! ## Numbers that something follows -/

theorem Run.append {ws cs ds : List Char} (h : Run ws cs ds) (more : ds ≠ []) (es : List Char) :
    Run ws (cs ++ es) (ds ++ es) where
  text := by rw [h.text, List.append_assoc]
  nonempty := h.nonempty
  digits := h.digits
  ends := by
    rw [List.head?_append_of_ne_nil ds more]
    exact h.ends

theorem digits?_append {cs ws ds : List Char} (h : digits? cs = some (ws, ds)) (more : ds ≠ [])
    (es : List Char) : digits? (cs ++ es) = some (ws, ds ++ es) :=
  digits?_eq_some_iff.2 ((digits?_eq_some_iff.1 h).append more es)

theorem sign_append {m : Char} {cs : List Char} (some : cs ≠ []) (es : List Char) :
    sign m (cs ++ es) = ((sign m cs).1, (sign m cs).2 ++ es) := by
  obtain ⟨c, cs, rfl⟩ := List.exists_cons_of_ne_nil some
  simp only [List.cons_append, sign]
  split
  · rfl
  · rfl

theorem fraction?_append {cs fs ds : List Char} (h : fraction? cs = some (fs, ds)) (more : ds ≠ [])
    (es : List Char) : fraction? (cs ++ es) = some (fs, ds ++ es) := by
  unfold fraction? at h
  split at h
  · exact digits?_append h more es
  · next noPoint =>
    cases h
    obtain ⟨c, ds, rfl⟩ := List.exists_cons_of_ne_nil more
    refine fraction?_eq_nil_iff.2 (.absent ?_)
    rintro _ ⟨⟩ mark
    exact noPoint ds (by rw [List.mem_singleton.1 mark])

theorem exponent?_append {cs ds : List Char} {e : Int} (h : exponent? cs = some (e, ds))
    (more : ds ≠ []) (es : List Char) : exponent? (cs ++ es) = some (e, ds ++ es) := by
  have some : cs ≠ [] := by
    rintro rfl
    cases h
  unfold exponent? at h ⊢
  dsimp only at h ⊢
  rw [sign_append some, sign_append some, ← apply_ite (· ++ es)]
  split at h
  · cases h
  · next digits =>
    cases h
    rw [digits?_append digits more]

theorem power?_append {cs ds : List Char} {p : Option Int} (h : power? cs = some (p, ds))
    (more : ds ≠ []) (es : List Char) : power? (cs ++ es) = some (p, ds ++ es) := by
  unfold power? at h
  split at h
  · obtain ⟨⟨e, rest⟩, exponent, pair⟩ := Option.map_eq_some_iff.1 h
    cases pair
    exact Option.map_eq_some_iff.2 ⟨_, exponent?_append exponent more es, rfl⟩
  · obtain ⟨⟨e, rest⟩, exponent, pair⟩ := Option.map_eq_some_iff.1 h
    cases pair
    exact Option.map_eq_some_iff.2 ⟨_, exponent?_append exponent more es, rfl⟩
  · next lower upper =>
    cases h
    obtain ⟨c, ds, rfl⟩ := List.exists_cons_of_ne_nil more
    refine power?_eq_none_iff.2 (.absent ?_)
    rintro _ ⟨⟩ mark
    rcases (by simpa using mark : c = 'e' ∨ c = 'E') with rfl | rfl
    · exact lower ds rfl
    · exact upper ds rfl

/-- The number of a sign, digits, a fraction and a power of ten. -/
def assemble? (negative : Bool) (ws fs : List Char) (p : Option Int) : Option Numeral :=
  match fs, p with
  | [], none => plain? negative ws
  | _, _ => (real? negative ws fs (p.getD 0)).map .real

/-- The parts in which a number is read, one behind the other. -/
theorem numeral?_eq_some_iff {cs ds : List Char} {n : Numeral} :
    numeral? cs = some (n, ds) ↔ ∃ ws fraction fs power p,
      digits? (sign '-' cs).2 = some (ws, fraction) ∧ ¬(ws.head? = some '0' ∧ 1 < ws.length) ∧
      fraction? fraction = some (fs, power) ∧ power? power = some (p, ds) ∧
      assemble? (sign '-' cs).1 ws fs p = some n := by
  unfold numeral?
  constructor
  · intro h
    obtain ⟨⟨ws, fraction⟩, whole, h⟩ := Option.bind_eq_some_iff.1 h
    dsimp only at h
    split at h
    · cases h
    · next leads =>
      obtain ⟨⟨fs, power⟩, hfs, h⟩ := Option.bind_eq_some_iff.1 h
      obtain ⟨⟨p, rest⟩, hps, h⟩ := Option.bind_eq_some_iff.1 h
      dsimp only at hfs hps h
      split at h
      · obtain ⟨m, value, pair⟩ := Option.bind_eq_some_iff.1 h
        cases pair
        exact ⟨ws, fraction, [], power, none, whole, leads, hfs, hps, value⟩
      · next notPlain =>
        obtain ⟨m, value, pair⟩ := Option.bind_eq_some_iff.1 h
        cases pair
        have assembled : assemble? (sign '-' cs).1 ws fs p = some n := by
          rw [assemble?, value]
          exact notPlain
        exact ⟨ws, fraction, fs, power, p, whole, leads, hfs, hps, assembled⟩
  · rintro ⟨ws, fraction, fs, power, p, whole, leads, hfs, hps, value⟩
    refine Option.bind_eq_some_iff.2 ⟨_, whole, ?_⟩
    dsimp only
    rw [if_neg leads]
    refine Option.bind_eq_some_iff.2 ⟨_, hfs, Option.bind_eq_some_iff.2 ⟨_, hps, ?_⟩⟩
    dsimp only
    split
    · exact Option.bind_eq_some_iff.2 ⟨n, value, rfl⟩
    · next notPlain =>
      rw [assemble?] at value
      · exact Option.bind_eq_some_iff.2 ⟨n, value, rfl⟩
      · exact notPlain

theorem numeral?_append {cs ds : List Char} {n : Numeral} (h : numeral? cs = some (n, ds))
    (more : ds ≠ []) (es : List Char) : numeral? (cs ++ es) = some (n, ds ++ es) := by
  obtain ⟨ws, fraction, fs, power, p, whole, leads, hfs, hps, value⟩ := numeral?_eq_some_iff.1 h
  -- Something is left behind each of the parts, as something is left behind the last one.
  have morePower : power ≠ [] := by
    rintro rfl
    cases hps
    exact more rfl
  have moreFraction : fraction ≠ [] := by
    rintro rfl
    cases hfs
    exact morePower rfl
  have some : cs ≠ [] := by
    rintro rfl
    cases whole
  refine numeral?_eq_some_iff.2 ⟨ws, _, fs, _, p, ?_, leads, fraction?_append hfs morePower es,
    power?_append hps more es, ?_⟩
  · rw [sign_append some, digits?_append whole moreFraction]
  · rw [sign_append some, value]

/-! ## What is read as a number is one -/

theorem sign_cases (m : Char) (cs : List Char) :
    (∃ rest, cs = m :: rest ∧ sign m cs = (true, rest)) ∨
    ((∀ c ∈ cs.head?, c ≠ m) ∧ sign m cs = (false, cs)) := by
  cases cs with
  | nil => exact .inr ⟨fun c head => (nomatch head), rfl⟩
  | cons c cs =>
    by_cases same : c = m
    · exact .inl ⟨cs, by rw [same], if_pos same⟩
    · exact .inr ⟨fun d head => Option.some.inj head ▸ same, if_neg same⟩

theorem Sign.of_sign (m : Char) (cs : List Char) : ∃ sg, Sign [m] sg cs (sign m cs).2 := by
  rcases sign_cases m cs with ⟨rest, rfl, signed⟩ | ⟨other, unsigned⟩
  · rw [signed]
    exact ⟨[m], .present List.mem_cons_self ⟨rfl, rfl⟩⟩
  · rw [unsigned]
    exact ⟨[], .absent fun c head mark => other c head (List.mem_singleton.1 mark)⟩

theorem Exponent.of_exponent? {cs ds : List Char} {e : Int} (h : exponent? cs = some (e, ds)) :
    ∃ ls, Exponent ls cs ds := by
  unfold exponent? at h
  dsimp only at h
  split at h
  · cases h
  · next ws rest digits =>
    cases h
    rw [digits?_eq_some_iff] at digits
    rcases sign_cases '-' cs with ⟨rest, rfl, signed⟩ | ⟨noMinus, unsigned⟩
    · rw [signed, if_pos rfl] at digits
      exact ⟨_, ['-'], ws, rest, rfl, .present (by decide) ⟨rfl, rfl⟩, digits⟩
    · rw [unsigned, if_neg Bool.false_ne_true] at digits
      rcases sign_cases '+' cs with ⟨rest, rfl, signed⟩ | ⟨noPlus, unsigned⟩
      · rw [signed] at digits
        exact ⟨_, ['+'], ws, rest, rfl, .present (by decide) ⟨rfl, rfl⟩, digits⟩
      · rw [unsigned] at digits
        refine ⟨_, [], ws, cs, rfl, .absent fun c head mark => ?_, digits⟩
        rcases (by simpa using mark : c = '+' ∨ c = '-') with rfl | rfl
        · exact noPlus _ head rfl
        · exact noMinus _ head rfl

theorem Fraction.of_fraction? {cs fs ds : List Char} (h : fraction? cs = some (fs, ds)) :
    ∃ ls, Fraction ls cs ds := by
  cases fs with
  | nil => exact ⟨[], fraction?_eq_nil_iff.1 h⟩
  | cons f fs =>
    unfold fraction? at h
    split at h
    · exact ⟨_, .present List.mem_cons_self (digits?_eq_some_iff.1 h)⟩
    · cases h

theorem Power.of_power? {cs ds : List Char} {p : Option Int} (h : power? cs = some (p, ds)) :
    ∃ ls, Power ls cs ds := by
  cases p with
  | none => exact ⟨[], power?_eq_none_iff.1 h⟩
  | some e =>
    unfold power? at h
    split at h
    · obtain ⟨⟨e, rest⟩, exponent, pair⟩ := Option.map_eq_some_iff.1 h
      cases pair
      obtain ⟨ls, exponent⟩ := Exponent.of_exponent? exponent
      exact ⟨_, .present (by decide) exponent⟩
    · obtain ⟨⟨e, rest⟩, exponent, pair⟩ := Option.map_eq_some_iff.1 h
      cases pair
      obtain ⟨ls, exponent⟩ := Exponent.of_exponent? exponent
      exact ⟨_, .present (by decide) exponent⟩
    · cases h

theorem Number.of_numeral? {cs ds : List Char} {n : Numeral} (h : numeral? cs = some (n, ds)) :
    ∃ ls, Number ls cs ds := by
  obtain ⟨ws, _, _, _, _, whole, leads, hfs, hps, -⟩ := numeral?_eq_some_iff.1 h
  rw [digits?_eq_some_iff] at whole
  obtain ⟨sg, sign⟩ := Sign.of_sign '-' cs
  obtain ⟨fs, fraction⟩ := Fraction.of_fraction? hfs
  obtain ⟨ps, power⟩ := Power.of_power? hps
  exact ⟨_, .parts sign whole ((leads_iff whole.nonempty).2 leads) fraction power⟩

end Spool.Json
