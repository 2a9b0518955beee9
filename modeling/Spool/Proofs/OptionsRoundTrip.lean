import Spool.Options.Text
import Spool.Proofs.OptionsReading

/-!
# Stored options are read back

The stored form of options is a list of tokens, and a text is `Spaced` from them if it has blanks in
front of any of them and behind the last. Whatever fields stand in it, in whatever order, it is read
back as the options themselves if those that are left out have their defaults. To see this, the
stored form is taken as a JSON value, with the `json` of a field for each of its entries, which its
tokens spell and which means the `setting` of the field.
-/

namespace Spool

/-! ## Spaced tokens -/

namespace Json

/-- The tokens in order, with blanks between them at will. -/
inductive Spaced : List String → List Char → Prop
  | nil {cs : List Char} : Blanks cs [] → Spaced [] cs
  | cons {t : String} {ts : List String} {cs rest : List Char} : Blanks cs (t.toList ++ rest) →
      Spaced ts rest → Spaced (t :: ts) cs

theorem spaced_join (ts : List String) : Spaced ts (String.join ts).toList := by
  rw [String.toList_join]
  induction ts with
  | nil => exact .nil .none
  | cons t ts ih => exact .cons .none ih

/-- What may follow a value in an object. -/
def Ends (t : String) : Prop := t = "," ∨ t = "\x7d"

theorem Spaced.ends {t : String} {ts : List String} {cs : List Char} (h : Spaced (t :: ts) cs)
    (ends : Ends t) : ∀ c ∈ cs.head?, c.isDigit = false ∧ c ∉ ['.', 'e', 'E'] := by
  intro c head
  cases h with
  | cons blanks _ =>
    cases blanks with
    | none =>
      rcases ends with rfl | rfl
      · cases head; decide
      · cases head; decide
    | @blank d _ _ blank _ =>
      obtain rfl : d = c := Option.some.inj head
      rcases isBlank_iff.1 blank with rfl | rfl | rfl | rfl <;> decide

/-! ## Numbers -/

theorem digitsValue_toDigits (n : Nat) : digitsValue (Nat.toDigits 10 n) = n := by
  have same : digitsValue (Nat.toDigits 10 n) = Nat.ofDigitChars 10 (Nat.toDigits 10 n) 0 := by
    simp only [digitsValue, Nat.ofDigitChars, Nat.mul_comm]
  rw [same, Nat.ofDigitChars_ten_toDigits]

theorem head?_toDigits_ne {n : Nat} (pos : 0 < n) : (Nat.toDigits 10 n).head? ≠ some '0' := by
  induction n using Nat.strongRecOn with
  | ind n ih =>
    by_cases single : n < 10
    · rw [Nat.toDigits_of_lt_base single, List.head?_cons]
      intro zero
      have value := Nat.toNat_digitChar_of_lt_ten single
      rw [Option.some.inj zero] at value
      have : '0'.toNat = 48 := rfl
      omega
    · rw [Nat.toDigits_of_base_le (by decide) (by omega),
        List.head?_append_of_ne_nil _ Nat.toDigits_ne_nil]
      exact ih (n / 10) (by omega) (by omega)

/-- A number in decimal digits. -/
def decimal (n : Nat) : Value := .number (Nat.toDigits 10 n)

theorem Spaced.decimal {n : Nat} {t : String} {ts : List String} {cs : List Char}
    (h : Spaced (toString n :: t :: ts) cs) (ends : Ends t) :
    ∃ rest, Padded Spelled (Json.decimal n) cs rest ∧ Spaced (t :: ts) rest := by
  cases h with
  | @cons _ _ _ rest blanks spaced =>
    rw [Nat.toString_eq_repr, Nat.toList_repr] at blanks
    have run : Run (Nat.toDigits 10 n) (Nat.toDigits 10 n ++ rest) rest :=
      ⟨rfl, Nat.toDigits_ne_nil, fun c hc => Nat.isDigit_of_mem_toDigits (by decide) (by decide) hc,
        fun c hc => (spaced.ends ends c hc).1⟩
    have leads : Leads (Nat.toDigits 10 n) := by
      intro zero
      rcases Nat.eq_zero_or_pos n with rfl | pos
      · rfl
      · exact absurd zero (head?_toDigits_ne pos)
    have number := run.number leads fun c hc => (spaced.ends ends c hc).2
    exact ⟨rest, ⟨_, blanks, .number number⟩, spaced⟩

end Json

open Json

/-! ## The tokens of the stored form -/

namespace Growth

def tokens : Growth → List String
  | doubling => [quotedName Variant.doubling.name]
  | factor k => ["\x7b", quotedName Variant.factor.name, ":", toString k.toNat, "\x7d"]

/-- A rule as the JSON value that its tokens spell. -/
def json : Growth → Json.Value
  | doubling => .string Variant.doubling.name
  | factor k => .object [(Variant.factor.name, decimal k.toNat)]

theorem join_tokens (g : Growth) : String.join g.tokens = g.compact := by
  cases g <;> simp [tokens, compact, String.append_assoc]

theorem Variant.isPlain_name (v : Variant) : v.name.toList.all isPlain = true := by
  cases v <;> decide

end Growth

namespace Options

def Field.tokens (o : Options) : Field → List String
  | initialCapacity => [toString o.initialCapacity.toNat]
  | readSize => [toString o.readSize.toNat]
  | growth => o.growth.tokens

/-- The tokens behind the opening bracket, or behind an entry. -/
def memberTokens (o : Options) : (first : Bool) → List Field → List String
  | _, [] => ["\x7d"]
  | first, f :: fields =>
    (if first then [] else [","]) ++
      quotedName f.name :: ":" :: (f.tokens o ++ o.memberTokens false fields)

/-- The tokens of the stored form with the given entries. -/
def tokensOf (o : Options) (fields : List Field) : List String :=
  "\x7b" :: o.memberTokens true fields

theorem Field.join_tokens (o : Options) (f : Field) : String.join (f.tokens o) = f.compact o := by
  cases f with
  | initialCapacity => simp [tokens, compact]
  | readSize => simp [tokens, compact]
  | growth => exact o.growth.join_tokens

theorem join_memberTokens (o : Options) (fields : List Field) :
    String.join (o.memberTokens true fields) =
      ",".intercalate (fields.map fun f => quotedName f.name ++ ":" ++ f.compact o) ++ "\x7d" := by
  induction fields with
  | nil => simp [memberTokens]
  | cons f fields ih =>
    cases fields with
    | nil => simp [memberTokens, Field.join_tokens, String.append_assoc]
    | cons g fields =>
      have comma :
          o.memberTokens false (g :: fields) = "," :: o.memberTokens true (g :: fields) := rfl
      have head : o.memberTokens true (f :: g :: fields) =
        quotedName f.name :: ":" :: (f.tokens o ++ o.memberTokens false (g :: fields)) := rfl
      rw [head, comma, String.join_cons, String.join_cons, String.join_append, String.join_cons, ih,
        Field.join_tokens]
      simp only [List.map_cons, String.intercalate_cons_cons, String.append_assoc]

theorem join_tokensOf (o : Options) (fields : List Field) :
    String.join (o.tokensOf fields) = o.compactOf fields := by
  rw [tokensOf, String.join_cons, join_memberTokens, compactOf, String.append_assoc]

/-! ## What the tokens spell -/

theorem Spaced.quoted {s : String} {ts : List String} {cs : List Char}
    (h : Spaced (quotedName s :: ts) cs) (plain : s.toList.all isPlain = true) :
    ∃ front rest, Blanks cs ('"' :: front) ∧ Quoted s.toList front rest ∧ Spaced ts rest := by
  cases h with
  | @cons _ _ _ rest blanks spaced =>
    simp only [quotedName, String.toList_append, List.append_assoc] at blanks
    exact ⟨_, rest, blanks, quoted_of_plain plain rest, spaced⟩

theorem Field.isPlain_name (f : Field) : f.name.toList.all isPlain = true := by
  cases f <;> decide

/-- The value of a field, as JSON. -/
def Field.json (o : Options) : Field → Json.Value
  | initialCapacity => decimal o.initialCapacity.toNat
  | readSize => decimal o.readSize.toNat
  | growth => o.growth.json

/-- The value of a field, as a setting. -/
def Field.setting (o : Options) : Field → Setting
  | initialCapacity => .initialCapacity o.initialCapacity
  | readSize => .readSize o.readSize
  | growth => .growth o.growth

theorem Field.field_setting (o : Options) (f : Field) : (f.setting o).field = f := by
  cases f <;> rfl

theorem counts_decimal (n : Nat) : Counts (decimal n) n := by
  have counts : Counts (decimal n) (digitsValue (Nat.toDigits 10 n)) :=
    .digits (List.all_eq_true.2 fun c hc => Nat.isDigit_of_mem_toDigits (by decide) (by decide) hc)
  rwa [digitsValue_toDigits] at counts

theorem Field.means (o : Options) (f : Field) : Means (f.json o) (f.setting o) := by
  cases f with
  | initialCapacity => exact .initialCapacity (counts_decimal _)
  | readSize => exact .readSize (counts_decimal _)
  | growth =>
    show Means o.growth.json (.growth o.growth)
    cases o.growth with
    | doubling => exact .name
    | factor k => exact .entry (.factor (counts_decimal _))

theorem Field.spelled {o : Options} {f : Field} {t : String} {ts : List String} {cs : List Char}
    (h : Spaced (f.tokens o ++ t :: ts) cs) (ends : Ends t) :
    ∃ rest, Padded Spelled (f.json o) cs rest ∧ Spaced (t :: ts) rest := by
  cases f with
  | initialCapacity => exact Spaced.decimal h ends
  | readSize => exact Spaced.decimal h ends
  | growth =>
    unfold tokens at h
    show ∃ rest, Padded Spelled o.growth.json cs rest ∧ Spaced (t :: ts) rest
    cases rule : o.growth with
    | doubling =>
      rw [rule] at h
      obtain ⟨front, rest, blanks, quoted, spaced⟩ :=
        Spaced.quoted h (Growth.Variant.isPlain_name _)
      exact ⟨rest, ⟨_, blanks, .string quoted⟩, spaced⟩
    | factor k =>
      rw [rule] at h
      cases h with
      | cons opened h =>
        obtain ⟨key, colon, lead, quoted, h⟩ := Spaced.quoted h (Growth.Variant.isPlain_name _)
        cases h with
        | cons colons h =>
          obtain ⟨behind, padded, h⟩ := Spaced.decimal h (.inr rfl)
          cases h with
          | cons closed spaced =>
            exact ⟨_, ⟨_, opened, spelled_entry_iff.2
              ⟨_, key, colon, _, behind, rfl, lead, quoted, colons, padded, closed⟩⟩, spaced⟩

/-- The stored form as the entries of a JSON object. -/
def entriesOf (o : Options) (fields : List Field) : List (String × Json.Value) :=
  fields.map fun f => (f.name, f.json o)

theorem items_of_spaced {o : Options} {fields : List Field} {first : Bool} {cs : List Char}
    (h : Spaced (o.memberTokens first fields) cs) :
    ∃ rest, Items (Entry Spelled) '}' first (o.entriesOf fields) cs rest ∧ Blanks rest [] := by
  induction fields generalizing first cs with
  | nil =>
    cases h with
    | cons closed h =>
      cases h with
      | nil blanks => exact ⟨_, .none closed, blanks⟩
  | cons f fields ih =>
    obtain ⟨front, lead, h⟩ : ∃ front, Lead first cs front ∧
        Spaced (quotedName f.name :: ":" :: (f.tokens o ++ o.memberTokens false fields)) front := by
      cases first with
      | true => exact ⟨cs, .first .none, h⟩
      | false =>
        cases h with
        | cons comma h => exact ⟨_, .next comma .none, h⟩
    obtain ⟨key, colon, blanks, quoted, h⟩ := Spaced.quoted h f.isPlain_name
    cases h with
    | cons colons h =>
      obtain ⟨t, ts, others, ends⟩ : ∃ t ts, o.memberTokens false fields = t :: ts ∧ Ends t := by
        cases fields with
        | nil => exact ⟨_, _, rfl, .inr rfl⟩
        | cons g fields => exact ⟨_, _, rfl, .inl rfl⟩
      rw [others] at h
      obtain ⟨behind, ⟨front, blanks', spelled⟩, h⟩ := Field.spelled h ends
      obtain ⟨rest, items, closed⟩ := ih (others ▸ h)
      exact ⟨rest, .item (lead.blanks blanks) (.entry quoted colons blanks' spelled) items, closed⟩

theorem text_of_spaced {o : Options} {fields : List Field} {cs : List Char}
    (h : Spaced (o.tokensOf fields) cs) : Text (.object (o.entriesOf fields)) cs := by
  cases h with
  | cons opened h =>
    obtain ⟨rest, items, closed⟩ := items_of_spaced h
    exact ⟨_, rest, opened, .object items, closed⟩

/-! ## Reading back -/

theorem setting_set (d o : Options) (f g : Field) :
    f.setting (d.set (g.setting o)) = if f = g then f.setting o else f.setting d := by
  cases f <;> cases g <;> rfl

theorem setting_override (d o : Options) (fields : List Field) (f : Field) :
    f.setting (d.override (fields.map (Field.setting o))) =
      if f ∈ fields then f.setting o else f.setting d := by
  induction fields generalizing d with
  | nil => rfl
  | cons g fields ih =>
    show f.setting (override (d.set (g.setting o)) (fields.map (Field.setting o))) = _
    rw [ih, setting_set]
    by_cases same : f = g
    · simp [same]
    · simp [same]

theorem ext_setting {o o' : Options} (h : ∀ f : Field, f.setting o = f.setting o') : o = o' := by
  have initialCapacity := h .initialCapacity
  have readSize := h .readSize
  have growth := h .growth
  cases o
  cases o'
  simp_all [Field.setting]

theorem ofText_of_spaced {o : Options} {fields : List Field} {cs : List Char}
    (nodup : fields.Nodup) (omitted : ∀ f, f ∉ fields → f.setting o = f.setting {})
    (h : Spaced (o.tokensOf fields) cs) : ofText (String.ofList cs) = .ok o := by
  have names : List.Forall₂ Names (o.entriesOf fields) (fields.map (Field.setting o)) := by
    unfold entriesOf
    rw [List.forall₂_map_left_iff, List.forall₂_map_right_iff, List.forall₂_same]
    exact fun f _ => ⟨congrArg Field.name (f.field_setting o).symm, f.means o⟩
  have keys : ((o.entriesOf fields).map Prod.fst).Nodup := by
    unfold entriesOf
    rw [List.map_map]
    exact nodup.map Field.name_injective
  have whole : override {} (fields.map (Field.setting o)) = o := by
    refine ext_setting fun f => ?_
    rw [setting_override]
    by_cases given : f ∈ fields
    · rw [if_pos given]
    · rw [if_neg given, omitted f given]
  have describes := Describes.byName keys names
  rw [whole] at describes
  rw [ofText_eq_ok, String.toList_ofList]
  exact ⟨_, text_of_spaced h, describes⟩

/-- Options are read back from their stored form, also with blanks between its tokens, with its
entries in another order, and without some of those that have the default value. -/
theorem stored_form_reads_back (o : Options) :
    ofText o.compact = .ok o ∧
    (∀ fields, String.join (o.tokensOf fields) = o.compactOf fields) ∧
    (∀ fields cs, fields.Nodup → (∀ f, f ∉ fields → f.setting o = f.setting {}) →
      Spaced (o.tokensOf fields) cs → ofText (String.ofList cs) = .ok o) := by
  refine ⟨?_, o.join_tokensOf, fun fields cs nodup omitted h => ofText_of_spaced nodup omitted h⟩
  have all := spaced_join (o.tokensOf Field.all)
  rw [join_tokensOf] at all
  have reads := ofText_of_spaced (by decide) (fun f no => absurd f.mem_all no) all
  rwa [String.ofList_toList] at reads

/-- The initial capacity is left out, and the other two fields are swapped, with blanks. -/
theorem stored_form_reads_back_of_two :
    ofText "\x7b \"growth\": \x7b\"factor\":0\x7d,\n\"read_size\":7 \x7d" =
      .ok { readSize := 7, growth := .factor 0 } := by
  obtain ⟨-, -, reads⟩ := stored_form_reads_back { readSize := 7, growth := .factor 0 }
  have spaced : Spaced (tokensOf { readSize := 7, growth := .factor 0 } [.growth, .readSize])
      ("\x7b".toList ++ ' ' :: ((quotedName "growth").toList ++ (":".toList ++ ' ' ::
        ("\x7b".toList ++ ((quotedName "factor").toList ++ (":".toList ++ ((toString 0).toList ++
        ("\x7d".toList ++ (",".toList ++ '\n' :: ((quotedName "read_size").toList ++
        (":".toList ++ ((toString 7).toList ++ ' ' :: ("\x7d".toList ++ []))))))))))))) :=
    .cons .none (.cons (.blank rfl .none) (.cons .none (.cons (.blank rfl .none) (.cons .none
      (.cons .none (.cons .none (.cons .none (.cons .none (.cons (.blank rfl .none) (.cons .none
      (.cons .none (.cons (.blank rfl .none) (.nil .none)))))))))))))
  have omitted : ∀ f : Field, f ∉ [.growth, .readSize] →
      f.setting { readSize := 7, growth := .factor 0 } = f.setting {} := by
    intro f no
    cases f with
    | initialCapacity => rfl
    | readSize => exact absurd (by decide) no
    | growth => exact absurd (by decide) no
  exact reads _ _ (by decide) omitted spaced

end Options

end Spool
