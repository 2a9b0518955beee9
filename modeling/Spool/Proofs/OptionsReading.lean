import Spool.Options.Reader
import Spool.Proofs.OptionsMeaning

/-!
# Which texts are read as options

For each of the readers, a lemma `_eq_ok` says which text it takes off the front, with which result
and up to where, as a relation of the grammar. So all that is read is right, and all that is right
is read: a text is accepted if and only if it spells a JSON value that describes options.
-/

namespace Spool.Options

open Json

namespace Reader

variable {α β : Type} {cs ds : List Char} {q : Unquoted}

theorem bind_eq_ok {x : Reader α} {f : α → Reader β} {b : β} :
    (x >>= f) cs = .ok (b, ds) ↔ ∃ a es, x cs = .ok (a, es) ∧ f a es = .ok (b, ds) := by
  show (x cs >>= fun r => f r.1 r.2) = .ok (b, ds) ↔ _
  cases x cs with
  | error e => simp [bind, Except.bind]
  | ok r =>
    obtain ⟨a, es⟩ := r
    show f a es = .ok (b, ds) ↔ _
    simp

theorem pure_eq_ok {a b : α} : (pure a : Reader α) cs = .ok (b, ds) ↔ a = b ∧ cs = ds := by
  show Except.ok (a, cs) = .ok (b, ds) ↔ _
  simp

theorem throw_eq_ok {e : OptionsError} {a : α} :
    (throw e : Reader α) cs = .ok (a, ds) ↔ False := by
  show Except.error e = .ok (a, ds) ↔ _
  simp

theorem peek_eq_ok {c : Option Char} : peek cs = .ok (c, ds) ↔ cs.head? = c ∧ cs = ds := by
  simp [peek]

theorem skip_eq_ok {u : Unit} : skip cs = .ok (u, ds) ↔ cs.tail = ds := by
  simp [skip]

theorem skipBlanks_eq_ok {u : Unit} : skipBlanks cs = .ok (u, ds) ↔ Blanks cs ds ∧ Fresh ds := by
  simp only [skipBlanks, Except.ok.injEq, Prod.mk.injEq, true_and]
  constructor
  · rintro rfl
    exact ⟨blanks_dropWhile cs, fresh_dropWhile cs⟩
  · rintro ⟨blanks, fresh⟩
    exact (blanks.eq_dropWhile fresh).symm

/-- Many readers go by the first character behind blanks. -/
theorem look_eq_ok {f : Option Char → Reader β} {b : β} :
    (do skipBlanks; f (← peek) : Reader β) cs = .ok (b, ds) ↔
      ∃ front c, Blanks cs front ∧ Fresh front ∧ front.head? = c ∧ f c front = .ok (b, ds) := by
  constructor
  · intro h
    obtain ⟨u, front, skipped, h⟩ := bind_eq_ok.1 h
    obtain ⟨blanks, fresh⟩ := skipBlanks_eq_ok.1 skipped
    obtain ⟨c, es, peeked, h⟩ := bind_eq_ok.1 h
    obtain ⟨head, rfl⟩ := peek_eq_ok.1 peeked
    exact ⟨front, c, blanks, fresh, head, h⟩
  · rintro ⟨front, c, blanks, fresh, head, h⟩
    refine bind_eq_ok.2 ⟨(), front, skipBlanks_eq_ok.2 ⟨blanks, fresh⟩, ?_⟩
    exact bind_eq_ok.2 ⟨c, front, peek_eq_ok.2 ⟨head, rfl⟩, h⟩

theorem lexeme_eq_ok {read : List Char → Option (α × List Char)} {a : α} :
    lexeme read cs = .ok (a, ds) ↔ read cs = some (a, ds) := by
  unfold lexeme
  cases read cs <;> simp

theorem word_eq_ok {s : String} {u : Unit} : word s cs = .ok (u, ds) ↔ cs = s.toList ++ ds := by
  simp [word, lexeme_eq_ok, afterWord_eq_some_iff]

theorem expect_eq_ok {c : Char} (visible : isBlank c = false) {u : Unit} :
    expect c cs = .ok (u, ds) ↔ Blanks cs (c :: ds) := by
  unfold expect
  constructor
  · intro h
    obtain ⟨front, c', blanks, -, rfl, h⟩ := look_eq_ok.1 h
    split at h
    · next head =>
      obtain ⟨rest, rfl⟩ := List.head?_eq_some_iff.1 head
      cases skip_eq_ok.1 h
      exact blanks
    · cases throw_eq_ok.1 h
  · intro blanks
    refine look_eq_ok.2 ⟨c :: ds, some c, blanks, fresh_cons.2 visible, rfl, ?_⟩
    rw [if_pos rfl]
    exact skip_eq_ok.2 rfl

theorem text_eq_ok {c : Char} {s : String} :
    text (c :: cs) = .ok (s, ds) ↔ Quoted s.toList cs ds := by
  unfold text
  simp only [bind_eq_ok, skip_eq_ok, lexeme_eq_ok, pure_eq_ok, quoted?_eq_some_iff]
  constructor
  · rintro ⟨-, es, rfl, t, es', quoted, rfl, rfl⟩
    rwa [String.toList_ofList]
  · intro quoted
    exact ⟨(), cs, rfl, _, ds, quoted, String.ofList_toList, rfl⟩

theorem name_eq_ok {s : String} :
    name cs = .ok (s, ds) ↔ ∃ rest, cs = '"' :: rest ∧ Quoted s.toList rest ds := by
  unfold name
  simp only [bind_eq_ok, peek_eq_ok]
  constructor
  · rintro ⟨c, es, ⟨rfl, rfl⟩, h⟩
    split at h
    · next head =>
      obtain ⟨rest, rfl⟩ := List.head?_eq_some_iff.1 head
      exact ⟨rest, rfl, text_eq_ok.1 h⟩
    · cases throw_eq_ok.1 h
  · rintro ⟨rest, rfl, quoted⟩
    refine ⟨_, _, ⟨rfl, rfl⟩, ?_⟩
    rw [if_pos List.head?_cons]
    exact text_eq_ok.2 quoted

/-- What `found` names, and where it stops. Of lists and objects only the opening bracket is seen,
and not passed. -/
inductive Finds : Found → List Char → List Char → Prop
  | null {cs ds : List Char} : Spelled .null cs ds → Finds .null cs ds
  | boolean {b : Bool} {cs ds : List Char} : Spelled (.boolean b) cs ds → Finds (.boolean b) cs ds
  | integer {n : Int} {cs ds : List Char} : numeral? cs = some (.integer n, ds) →
      Finds (.integer n) cs ds
  | real {x : Float} {cs ds : List Char} : numeral? cs = some (.real x, ds) → Finds (.real x) cs ds
  | string {s : String} {cs ds : List Char} : Spelled (.string s) cs ds → Finds (.string s) cs ds
  | sequence {cs : List Char} : Finds .sequence ('[' :: cs) ('[' :: cs)
  | map {cs : List Char} : Finds .map ('{' :: cs) ('{' :: cs)

theorem Finds.of_found {f : Found} (h : found cs = .ok (f, ds)) : Finds f cs ds := by
  obtain ⟨c, es, peeked, h⟩ := bind_eq_ok.1 h
  obtain ⟨head, rfl⟩ := peek_eq_ok.1 peeked
  split at h
  · obtain ⟨u, es, passed, h⟩ := bind_eq_ok.1 h
    obtain ⟨rfl, rfl⟩ := pure_eq_ok.1 h
    cases word_eq_ok.1 passed
    exact .null .null
  · obtain ⟨u, es, passed, h⟩ := bind_eq_ok.1 h
    obtain ⟨rfl, rfl⟩ := pure_eq_ok.1 h
    cases word_eq_ok.1 passed
    exact .boolean .yes
  · obtain ⟨u, es, passed, h⟩ := bind_eq_ok.1 h
    obtain ⟨rfl, rfl⟩ := pure_eq_ok.1 h
    cases word_eq_ok.1 passed
    exact .boolean .no
  · obtain ⟨s, es, text, h⟩ := bind_eq_ok.1 h
    obtain ⟨rfl, rfl⟩ := pure_eq_ok.1 h
    obtain ⟨rest, rfl⟩ := List.head?_eq_some_iff.1 head
    exact .string (.string (text_eq_ok.1 text))
  · obtain ⟨rfl, rfl⟩ := pure_eq_ok.1 h
    obtain ⟨rest, rfl⟩ := List.head?_eq_some_iff.1 head
    exact .sequence
  · obtain ⟨rfl, rfl⟩ := pure_eq_ok.1 h
    obtain ⟨rest, rfl⟩ := List.head?_eq_some_iff.1 head
    exact .map
  · split at h
    · obtain ⟨number, es, numeral, h⟩ := bind_eq_ok.1 h
      rw [lexeme_eq_ok] at numeral
      split at h
      · obtain ⟨rfl, rfl⟩ := pure_eq_ok.1 h
        exact .integer numeral
      · obtain ⟨rfl, rfl⟩ := pure_eq_ok.1 h
        exact .real numeral
    · cases throw_eq_ok.1 h
  · cases throw_eq_ok.1 h

theorem found_eq_null : found cs = .ok (.null, ds) ↔ Spelled .null cs ds := by
  constructor
  · intro h
    cases Finds.of_found h with
    | null spelled => exact spelled
  · intro h
    cases h with
    | null =>
      refine bind_eq_ok.2 ⟨_, _, peek_eq_ok.2 ⟨rfl, rfl⟩, ?_⟩
      exact bind_eq_ok.2 ⟨(), ds, word_eq_ok.2 rfl, rfl⟩

/-- A natural number is found where there is nothing but its digits. -/
theorem found_eq_natural {n : Nat} : found cs = .ok (.integer n, ds) ↔ n < UInt64.size ∧
    ∃ v, Spelled v cs ds ∧ Counts v n := by
  constructor
  · intro h
    cases Finds.of_found h with
    | integer numeral =>
      obtain ⟨fits, ls, number, digits, rfl⟩ := numeral?_eq_natural_iff.1 numeral
      exact ⟨fits, .number ls, .number number, .digits digits⟩
  · rintro ⟨fits, v, spelled, @⟨ls, digits⟩⟩
    cases spelled with
    | number number =>
      have numeral := numeral?_eq_natural_iff.2 ⟨fits, ls, number, digits, rfl⟩
      obtain ⟨c, rest, rfl, head⟩ := number.head
      have peeked : peek (c :: rest) = .ok (some c, c :: rest) := rfl
      obtain ⟨x, e⟩ : ∃ x, x = some c := ⟨_, rfl⟩
      rw [← e] at peeked
      refine bind_eq_ok.2 ⟨_, _, peeked, ?_⟩
      -- No word, quote or bracket starts with a sign or a digit.
      split <;> cases e
      case h_7 =>
        rw [if_pos head]
        exact bind_eq_ok.2 ⟨_, ds, lexeme_eq_ok.2 numeral, rfl⟩
      all_goals exact absurd head (by decide)

theorem found_eq_string {s : String} : found cs = .ok (.string s, ds) ↔
    ∃ rest, cs = '"' :: rest ∧ Quoted s.toList rest ds := by
  constructor
  · intro h
    cases Finds.of_found h with
    | string spelled =>
      cases spelled with
      | string quoted => exact ⟨_, rfl, quoted⟩
  · rintro ⟨rest, rfl, quoted⟩
    refine bind_eq_ok.2 ⟨_, _, peek_eq_ok.2 ⟨rfl, rfl⟩, ?_⟩
    exact bind_eq_ok.2 ⟨s, ds, text_eq_ok.2 quoted, rfl⟩

theorem number_eq_ok {expected : Expected} {limit n : Nat} (fits : limit < UInt64.size) :
    number expected limit cs = .ok (n, ds) ↔
      n ≤ limit ∧ ∃ v, Padded Spelled v cs ds ∧ Counts v n := by
  unfold number
  constructor
  · intro h
    obtain ⟨u, front, blanks, h⟩ := bind_eq_ok.1 h
    obtain ⟨f, es, found, h⟩ := bind_eq_ok.1 h
    split at h
    · next m =>
      split at h
      · next range =>
        obtain ⟨rfl, rfl⟩ := pure_eq_ok.1 h
        rw [← Int.toNat_of_nonneg range.1] at found
        obtain ⟨-, v, spelled, counts⟩ := found_eq_natural.1 found
        exact ⟨by omega, v, ⟨front, (skipBlanks_eq_ok.1 blanks).1, spelled⟩, counts⟩
      · cases throw_eq_ok.1 h
    · cases throw_eq_ok.1 h
  · rintro ⟨le, v, ⟨front, blanks, spelled⟩, counts⟩
    have found := found_eq_natural.2 ⟨by omega, v, spelled, counts⟩
    refine bind_eq_ok.2 ⟨(), front, skipBlanks_eq_ok.2 ⟨blanks, spelled.fresh⟩, ?_⟩
    refine bind_eq_ok.2 ⟨_, ds, found, ?_⟩
    dsimp only
    rw [if_pos ⟨by omega, by omega⟩]
    exact pure_eq_ok.2 ⟨Int.toNat_natCast n, rfl⟩

theorem null_eq_ok {u : Unit} : null cs = .ok (u, ds) ↔ Padded Spelled .null cs ds := by
  unfold null
  constructor
  · intro h
    obtain ⟨u, front, blanks, h⟩ := bind_eq_ok.1 h
    obtain ⟨f, es, found, h⟩ := bind_eq_ok.1 h
    split at h
    · obtain ⟨-, rfl⟩ := pure_eq_ok.1 h
      exact ⟨front, (skipBlanks_eq_ok.1 blanks).1, found_eq_null.1 found⟩
    · cases throw_eq_ok.1 h
  · rintro ⟨front, blanks, spelled⟩
    refine bind_eq_ok.2 ⟨(), front, skipBlanks_eq_ok.2 ⟨blanks, spelled.fresh⟩, ?_⟩
    exact bind_eq_ok.2 ⟨_, ds, found_eq_null.2 spelled, rfl⟩

/-- Whatever else is made of an unquoted name, it is not accepted. -/
theorem variantName_eq_ok {s : String} :
    variantName q cs = .ok (s, ds) ↔ ∃ rest, cs = '"' :: rest ∧ Quoted s.toList rest ds := by
  cases q with
  | malformed => exact name_eq_ok
  | wrongType =>
    rw [← found_eq_string, variantName, bind_eq_ok]
    constructor
    · rintro ⟨f, es, found, h⟩
      split at h
      · obtain ⟨rfl, rfl⟩ := pure_eq_ok.1 h
        exact found
      · cases throw_eq_ok.1 h
    · intro found
      exact ⟨_, ds, found, rfl⟩

theorem variant_eq_ok {s : String} {v : Growth.Variant} :
    variant s cs = .ok (v, ds) ↔ v.name = s ∧ cs = ds := by
  unfold variant
  constructor
  · intro h
    cases known : Growth.Variant.ofName? s with
    | none =>
      rw [known] at h
      cases throw_eq_ok.1 h
    | some w =>
      rw [known] at h
      obtain ⟨rfl, rfl⟩ := pure_eq_ok.1 h
      exact ⟨Growth.Variant.name_of_ofName? known, rfl⟩
  · rintro ⟨rfl, rfl⟩
    rw [Growth.Variant.ofName?_name]
    rfl

theorem expect_pure_eq_ok {c : Char} (visible : isBlank c = false) {a b : α} :
    (do expect c; pure a : Reader α) cs = .ok (b, ds) ↔ Blanks cs (c :: ds) ∧ a = b := by
  constructor
  · intro h
    obtain ⟨u, es, expected, h⟩ := bind_eq_ok.1 h
    obtain ⟨rfl, rfl⟩ := pure_eq_ok.1 h
    exact ⟨(expect_eq_ok visible).1 expected, rfl⟩
  · rintro ⟨blanks, rfl⟩
    exact bind_eq_ok.2 ⟨(), ds, (expect_eq_ok visible).2 blanks, rfl⟩

/-- A rule of growth with its name in front is an object with one entry. -/
theorem growth_eq_ok {g : Growth} :
    growth q cs = .ok (g, ds) ↔ ∃ v, Padded Spelled v cs ds ∧ Means v (.growth g) := by
  unfold growth
  constructor
  · intro h
    obtain ⟨front, c, blanks, -, head, h⟩ := look_eq_ok.1 h
    split at h
    · obtain ⟨rest, rfl⟩ := List.head?_eq_some_iff.1 head
      simp only [bind_eq_ok, skip_eq_ok, skipBlanks_eq_ok, variantName_eq_ok, variant_eq_ok] at h
      obtain ⟨-, rest, rfl, -, es, ⟨lead, -⟩, s, colon, ⟨key, rfl, quoted⟩, w, es, ⟨rfl, rfl⟩, u,
        rest', expected, h⟩ := h
      have entry : ∀ {v behind}, Padded Spelled v rest' behind → Blanks behind ('}' :: ds) →
          Padded Spelled (.object [(w.name, v)]) cs ds := fun padded closed =>
        ⟨_, blanks, spelled_entry_iff.2 ⟨rest, key, colon, rest', _, rfl, lead, quoted,
          (expect_eq_ok (by decide)).1 expected, padded, closed⟩⟩
      cases w with
      | doubling =>
        obtain ⟨u, behind, payload, h⟩ := bind_eq_ok.1 h
        obtain ⟨closed, rfl⟩ := (expect_pure_eq_ok (by decide)).1 h
        exact ⟨_, entry (null_eq_ok.1 payload) closed, .entry .doubling⟩
      | factor =>
        obtain ⟨k, behind, payload, h⟩ := bind_eq_ok.1 h
        obtain ⟨closed, rfl⟩ := (expect_pure_eq_ok (by decide)).1 h
        obtain ⟨le, v, padded, counts⟩ := (number_eq_ok (by decide)).1 payload
        have same : k.toUInt8.toNat = k := UInt8.toNat_ofNat_of_lt' (Nat.lt_succ_of_le le)
        exact ⟨_, entry padded closed, .entry (.factor (same.symm ▸ counts))⟩
    · obtain ⟨rest, rfl⟩ := List.head?_eq_some_iff.1 head
      obtain ⟨s, es, quoted, h⟩ := bind_eq_ok.1 h
      rw [text_eq_ok] at quoted
      obtain ⟨w, es', named, h⟩ := bind_eq_ok.1 h
      obtain ⟨rfl, rfl⟩ := variant_eq_ok.1 named
      split at h
      · obtain ⟨rfl, rfl⟩ := pure_eq_ok.1 h
        exact ⟨_, ⟨_, blanks, .string quoted⟩, .name⟩
      · cases throw_eq_ok.1 h
    · cases throw_eq_ok.1 h
  · rintro ⟨v, ⟨front, blanks, spelled⟩, means⟩
    refine look_eq_ok.2 ⟨front, _, blanks, spelled.fresh, rfl, ?_⟩
    cases means with
    | name =>
      cases spelled with
      | string quoted =>
        refine bind_eq_ok.2 ⟨_, ds, text_eq_ok.2 quoted, ?_⟩
        exact bind_eq_ok.2 ⟨.doubling, ds, variant_eq_ok.2 ⟨rfl, rfl⟩, rfl⟩
    | @entry w _ _ rule =>
      obtain ⟨lead, key, colon, rest, behind, rfl, leads, quoted, colons, padded, closed⟩ :=
        spelled_entry_iff.1 spelled
      dsimp only [List.head?_cons]
      simp only [bind_eq_ok, skip_eq_ok, skipBlanks_eq_ok, variantName_eq_ok, variant_eq_ok]
      refine ⟨(), lead, rfl, (), _, ⟨leads, fresh_cons.2 (by decide)⟩, _, colon,
        ⟨key, rfl, quoted⟩, w, colon, ⟨rfl, rfl⟩, (), rest, (expect_eq_ok (by decide)).2 colons, ?_⟩
      cases rule with
      | doubling =>
        refine bind_eq_ok.2 ⟨(), behind, null_eq_ok.2 padded, ?_⟩
        exact (expect_pure_eq_ok (by decide)).2 ⟨closed, rfl⟩
      | @factor _ k counts =>
        have le : k.toNat ≤ 255 := Nat.le_of_lt_succ k.toNat_lt
        have payload : number .factor 255 rest = .ok (k.toNat, behind) :=
          (number_eq_ok (by decide)).2 ⟨le, _, padded, counts⟩
        refine bind_eq_ok.2 ⟨k.toNat, behind, payload, ?_⟩
        exact (expect_pure_eq_ok (by decide)).2 ⟨closed, congrArg Growth.factor UInt8.ofNat_toNat⟩

/-- A number of machine size, and what is made of it. -/
theorem size_eq_ok (make : UInt64 → α) {a : α} :
    (do return make (← number .size (UInt64.size - 1)).toUInt64 : Reader α) cs = .ok (a, ds) ↔
      ∃ v n, Padded Spelled v cs ds ∧ Counts v (UInt64.toNat n) ∧ make n = a := by
  constructor
  · intro h
    obtain ⟨n, es, number, h⟩ := bind_eq_ok.1 h
    obtain ⟨rfl, rfl⟩ := pure_eq_ok.1 h
    obtain ⟨le, v, padded, counts⟩ := (number_eq_ok (by decide)).1 number
    have fits : n < UInt64.size := Nat.lt_of_le_pred (by decide) le
    have same : n.toUInt64.toNat = n := UInt64.toNat_ofNat_of_lt' fits
    exact ⟨v, n.toUInt64, padded, same.symm ▸ counts, rfl⟩
  · rintro ⟨v, n, padded, counts, rfl⟩
    have le : n.toNat ≤ UInt64.size - 1 := Nat.le_pred_of_lt n.toNat_lt
    refine bind_eq_ok.2 ⟨n.toNat, ds, (number_eq_ok (by decide)).2 ⟨le, v, padded, counts⟩, ?_⟩
    exact pure_eq_ok.2 ⟨congrArg make UInt64.ofNat_toNat, rfl⟩

/-- The value of a field, put into the options. -/
theorem value_eq_ok {f : Field} {o o' : Options} : value q f o cs = .ok (o', ds) ↔
    ∃ v s, Padded Spelled v cs ds ∧ Means v s ∧ s.field = f ∧ o.set s = o' := by
  unfold value
  constructor
  · intro h
    cases f with
    | initialCapacity =>
      obtain ⟨v, n, padded, counts, rfl⟩ := (size_eq_ok (o.set ∘ .initialCapacity)).1 h
      exact ⟨v, .initialCapacity n, padded, .initialCapacity counts, rfl, rfl⟩
    | readSize =>
      obtain ⟨v, n, padded, counts, rfl⟩ := (size_eq_ok (o.set ∘ .readSize)).1 h
      exact ⟨v, .readSize n, padded, .readSize counts, rfl, rfl⟩
    | growth =>
      obtain ⟨g, es, growth, h⟩ := bind_eq_ok.1 h
      obtain ⟨rfl, rfl⟩ := pure_eq_ok.1 h
      obtain ⟨v, padded, means⟩ := growth_eq_ok.1 growth
      exact ⟨v, .growth g, padded, means, rfl, rfl⟩
  · rintro ⟨v, s, padded, means, rfl, rfl⟩
    cases s with
    | initialCapacity n =>
      cases means with
      | initialCapacity counts =>
        exact (size_eq_ok (o.set ∘ .initialCapacity)).2 ⟨v, n, padded, counts, rfl⟩
    | readSize n =>
      cases means with
      | readSize counts =>
        exact (size_eq_ok (o.set ∘ .readSize)).2 ⟨v, n, padded, counts, rfl⟩
    | growth g => exact bind_eq_ok.2 ⟨g, ds, growth_eq_ok.2 ⟨v, padded, means⟩, rfl⟩

/-! ## Lists -/

theorem another_eq_false {close : Char} {first : Bool} (visible : isBlank close = false)
    : another close first cs = .ok (false, ds) ↔ Blanks cs (close :: ds) := by
  unfold another
  constructor
  · intro h
    obtain ⟨front, c, blanks, -, head, h⟩ := look_eq_ok.1 h
    split at h
    · next closes =>
      rw [closes] at head
      obtain ⟨rest, rfl⟩ := List.head?_eq_some_iff.1 head
      obtain ⟨u, es, skipped, h⟩ := bind_eq_ok.1 h
      obtain rfl : rest = es := skip_eq_ok.1 skipped
      obtain ⟨-, rfl⟩ := pure_eq_ok.1 h
      exact blanks
    · split at h
      · cases (pure_eq_ok.1 h).1
      · obtain ⟨u, es, -, h⟩ := bind_eq_ok.1 h
        obtain ⟨front, c, -, -, -, h⟩ := look_eq_ok.1 h
        split at h
        · cases throw_eq_ok.1 h
        · cases (pure_eq_ok.1 h).1
  · intro blanks
    refine look_eq_ok.2 ⟨close :: ds, some close, blanks, fresh_cons.2 visible, rfl, ?_⟩
    rw [if_pos rfl]
    exact bind_eq_ok.2 ⟨(), ds, skip_eq_ok.2 rfl, rfl⟩

theorem another_eq_true {close : Char} {first : Bool} (noComma : close ≠ ',') :
    another close first cs = .ok (true, ds) ↔ Lead first cs ds ∧ Opening close ds := by
  unfold another
  constructor
  · intro h
    obtain ⟨front, c, blanks, fresh, head, h⟩ := look_eq_ok.1 h
    split at h
    · obtain ⟨u, es, -, h⟩ := bind_eq_ok.1 h
      cases (pure_eq_ok.1 h).1
    · next goesOn =>
      cases first with
      | true =>
        obtain ⟨-, rfl⟩ := pure_eq_ok.1 h
        exact ⟨.first blanks, fresh, head ▸ goesOn⟩
      | false =>
        obtain ⟨u, es, comma, h⟩ := bind_eq_ok.1 h
        obtain ⟨front, c, blanks', fresh, head, h⟩ := look_eq_ok.1 h
        split at h
        · cases throw_eq_ok.1 h
        · next goesOn =>
          obtain ⟨-, rfl⟩ := pure_eq_ok.1 h
          exact ⟨.next (blanks.trans ((expect_eq_ok (by decide)).1 comma)) blanks', fresh,
            head ▸ goesOn⟩
  · rintro ⟨lead, fresh, goesOn⟩
    cases lead with
    | first blanks =>
      refine look_eq_ok.2 ⟨ds, _, blanks, fresh, rfl, ?_⟩
      rw [if_neg goesOn]
      rfl
    | @next _ es _ comma blanks =>
      have visible : Fresh (',' :: es) := fresh_cons.2 (by decide)
      have other : (',' :: es).head? ≠ some close := fun e => noComma (Option.some.inj e).symm
      refine look_eq_ok.2 ⟨',' :: es, _, comma, visible, rfl, ?_⟩
      rw [if_neg other]
      refine bind_eq_ok.2 ⟨(), es, (expect_eq_ok (by decide)).2 .none, ?_⟩
      refine look_eq_ok.2 ⟨ds, _, blanks, fresh, rfl, ?_⟩
      rw [if_neg goesOn]
      rfl

theorem elements_eq_ok {fields : List Field} {first : Bool} {o o' : Options} :
    elements q fields first o cs = .ok (o', ds) ↔ ∃ vs settings, Items Spelled ']' first vs cs ds ∧
      List.Forall₂ Means vs settings ∧ settings.map Setting.field <+: fields ∧
      o.override settings = o' := by
  induction fields generalizing first o cs with
  | nil =>
    unfold elements
    rw [expect_pure_eq_ok (by decide)]
    constructor
    · rintro ⟨closed, rfl⟩
      exact ⟨[], [], .none closed, .nil, List.prefix_rfl, rfl⟩
    · rintro ⟨vs, settings, items, means, fields, rfl⟩
      obtain rfl := List.map_eq_nil_iff.1 (List.prefix_nil.1 fields)
      obtain rfl := List.forall₂_nil_right_iff.1 means
      cases items with
      | none closed => exact ⟨closed, rfl⟩
  | cons f fields ih =>
    unfold elements
    rw [bind_eq_ok]
    constructor
    · rintro ⟨more, es, goesOn, h⟩
      cases more with
      | true =>
        obtain ⟨lead, -⟩ := (another_eq_true (by decide)).1 goesOn
        obtain ⟨o₁, behind, value, h⟩ := bind_eq_ok.1 h
        obtain ⟨v, s, ⟨front, blanks, spelled⟩, means, rfl, rfl⟩ := value_eq_ok.1 value
        obtain ⟨vs, settings, items, meanings, fields, rfl⟩ := ih.1 h
        exact ⟨v :: vs, s :: settings, .item (lead.blanks blanks) spelled items,
          .cons means meanings, List.cons_prefix_cons.2 ⟨rfl, fields⟩, rfl⟩
      | false =>
        obtain ⟨rfl, rfl⟩ := pure_eq_ok.1 h
        exact ⟨[], [], .none ((another_eq_false (by decide)).1 goesOn), .nil, List.nil_prefix, rfl⟩
    · rintro ⟨vs, settings, items, meanings, fields, rfl⟩
      cases items with
      | none closed =>
        obtain rfl := List.forall₂_nil_left_iff.1 meanings
        exact ⟨false, ds, (another_eq_false (by decide)).2 closed, rfl⟩
      | @item _ v vs _ front behind _ lead spelled items =>
        cases meanings with
        | @cons _ s _ settings means meanings =>
          obtain ⟨rfl, others⟩ := List.cons_prefix_cons.1 fields
          have opening := spelled.opening (show opens ']' = false by decide)
          refine ⟨true, front, (another_eq_true (by decide)).2 ⟨lead, opening⟩, ?_⟩
          have value : value q s.field o front = .ok (o.set s, behind) :=
            value_eq_ok.2 ⟨v, s, ⟨front, .none, spelled⟩, means, rfl, rfl⟩
          have rest := ih.2 ⟨vs, settings, items, meanings, others, rfl⟩
          exact bind_eq_ok.2 ⟨o.set s, behind, value, rest⟩

theorem key_eq_ok {f : Field} :
    key cs = .ok (f, ds) ↔ ∃ rest, cs = '"' :: rest ∧ Quoted f.name.toList rest ds := by
  unfold key
  rw [bind_eq_ok]
  constructor
  · rintro ⟨s, es, named, h⟩
    obtain ⟨rest, rfl, quoted⟩ := name_eq_ok.1 named
    cases known : Field.ofName? s with
    | none =>
      rw [known] at h
      cases throw_eq_ok.1 h
    | some f =>
      rw [known] at h
      obtain ⟨rfl, rfl⟩ := pure_eq_ok.1 h
      exact ⟨rest, rfl, Field.name_of_ofName? known ▸ quoted⟩
  · rintro ⟨rest, rfl, quoted⟩
    refine ⟨f.name, ds, name_eq_ok.2 ⟨rest, rfl, quoted⟩, ?_⟩
    rw [Field.ofName?_name]
    rfl

theorem subperm_cons_iff {f : Field} {fs left : List Field} (h : f ∈ left) :
    (f :: fs).Subperm left ↔ fs.Subperm (left.erase f) := by
  rw [(List.perm_cons_erase h).subperm_left, List.subperm_cons]

/-- Every field is read once at most: from those left it is taken away. -/
theorem members_eq_ok {left : List Field} {first : Bool} {o o' : Options} :
    members q left first o cs = .ok (o', ds) ↔ ∃ entries settings,
      Items (Entry Spelled) '}' first entries cs ds ∧ List.Forall₂ Names entries settings ∧
      (settings.map Setting.field).Subperm left ∧ o.override settings = o' := by
  induction left, first, o using members.induct generalizing cs with
  | case1 left first o ih =>
    rw [members, bind_eq_ok]
    constructor
    · rintro ⟨more, es, goesOn, h⟩
      cases more with
      | true =>
        obtain ⟨lead, -⟩ := (another_eq_true (by decide)).1 goesOn
        simp only [if_true, bind_eq_ok] at h
        obtain ⟨f, colon, keyed, h⟩ := h
        obtain ⟨rest, rfl, quoted⟩ := key_eq_ok.1 keyed
        by_cases free : f ∈ left
        · rw [dif_pos free] at h
          obtain ⟨u, es, expected, h⟩ := bind_eq_ok.1 h
          obtain ⟨o₁, behind, value, h⟩ := bind_eq_ok.1 h
          obtain ⟨v, s, ⟨front, blanks, spelled⟩, means, rfl, rfl⟩ := value_eq_ok.1 value
          obtain ⟨entries, settings, items, named, fields, rfl⟩ := (ih s.field free _).1 h
          have entry : Entry Spelled (s.field.name, v) ('"' :: rest) behind :=
            .entry quoted ((expect_eq_ok (by decide)).1 expected) blanks spelled
          exact ⟨(s.field.name, v) :: entries, s :: settings, .item lead entry items,
            .cons ⟨rfl, means⟩ named, (subperm_cons_iff free).2 fields, rfl⟩
        · rw [dif_neg free] at h
          cases throw_eq_ok.1 h
      | false =>
        obtain ⟨rfl, rfl⟩ := pure_eq_ok.1 h
        exact ⟨[], [], .none ((another_eq_false (by decide)).1 goesOn), .nil, List.nil_subperm, rfl⟩
    · rintro ⟨entries, settings, items, named, fields, rfl⟩
      cases items with
      | none closed =>
        obtain rfl := List.forall₂_nil_left_iff.1 named
        exact ⟨false, ds, (another_eq_false (by decide)).2 closed, rfl⟩
      | @item _ _ _ _ _ behind _ lead entry items =>
        cases named with
        | @cons _ s _ settings names named =>
          have opening := entry.opening (show opens '}' = false by decide)
          refine ⟨true, _, (another_eq_true (by decide)).2 ⟨lead, opening⟩, ?_⟩
          cases entry with
          | @entry k v key colon rest front _ quoted colons blanks spelled =>
            obtain ⟨rfl, means⟩ : k = s.field.name ∧ Means v s := names
            refine bind_eq_ok.2 ⟨s.field, colon, key_eq_ok.2 ⟨key, rfl, quoted⟩, ?_⟩
            have free : s.field ∈ left := fields.subset List.mem_cons_self
            rw [dif_pos free]
            refine bind_eq_ok.2 ⟨(), rest, (expect_eq_ok (by decide)).2 colons, ?_⟩
            have value : value q s.field o rest = .ok (o.set s, behind) :=
              value_eq_ok.2 ⟨v, s, ⟨front, blanks, spelled⟩, means, rfl, rfl⟩
            refine bind_eq_ok.2 ⟨o.set s, behind, value, ?_⟩
            exact (ih s.field free _).2
              ⟨_, settings, items, named, (subperm_cons_iff free).1 fields, rfl⟩

/-! ## Texts -/

theorem refuse_eq_ok {expected : Expected} {a : α} :
    refuse expected cs = .ok (a, ds) ↔ False := by
  unfold refuse
  simp only [bind_eq_ok, iff_false, not_exists, not_and]
  intro f es _ h
  cases throw_eq_ok.1 h

/-- Nothing but blanks may follow. -/
theorem end_eq_ok {o o' : Options} :
    (do skipBlanks; if (← peek) = none then return o else malformed : Reader Options) cs =
      .ok (o', ds) ↔ Blanks cs [] ∧ o = o' ∧ ds = [] := by
  constructor
  · intro h
    obtain ⟨front, c, blanks, -, head, h⟩ := look_eq_ok.1 h
    split at h
    · next none =>
      obtain ⟨rfl, rfl⟩ := pure_eq_ok.1 h
      obtain rfl := List.head?_eq_none_iff.1 (head.trans none)
      exact ⟨blanks, rfl, rfl⟩
    · cases throw_eq_ok.1 h
  · rintro ⟨blanks, rfl, rfl⟩
    exact look_eq_ok.2 ⟨[], none, blanks, fresh_nil, rfl, rfl⟩

theorem options_eq_ok {o : Options} :
    options q cs = .ok (o, ds) ↔ (∃ v, Text v cs ∧ Describes v o) ∧ ds = [] := by
  unfold options
  constructor
  · intro h
    obtain ⟨front, c, blanks, -, head, h⟩ := look_eq_ok.1 h
    split at h
    · obtain ⟨rest, rfl⟩ := List.head?_eq_some_iff.1 head
      obtain ⟨u, es, skipped, h⟩ := bind_eq_ok.1 h
      obtain rfl : rest = es := skip_eq_ok.1 skipped
      obtain ⟨o₁, behind, read, h⟩ := bind_eq_ok.1 h
      obtain ⟨closed, rfl, rfl⟩ := end_eq_ok.1 h
      obtain ⟨vs, settings, items, means, fields, rfl⟩ := elements_eq_ok.1 read
      exact ⟨⟨_, ⟨_, _, blanks, .array items, closed⟩, .byPosition fields means⟩, rfl⟩
    · obtain ⟨rest, rfl⟩ := List.head?_eq_some_iff.1 head
      obtain ⟨u, es, skipped, h⟩ := bind_eq_ok.1 h
      obtain rfl : rest = es := skip_eq_ok.1 skipped
      obtain ⟨o₁, behind, read, h⟩ := bind_eq_ok.1 h
      obtain ⟨closed, rfl, rfl⟩ := end_eq_ok.1 h
      obtain ⟨entries, settings, items, names, fields, rfl⟩ := members_eq_ok.1 read
      have nodup := (Names.nodup_iff names).2 (Field.subperm_all_iff.1 fields)
      exact ⟨⟨_, ⟨_, _, blanks, .object items, closed⟩, .byName nodup names⟩, rfl⟩
    · obtain ⟨o₁, behind, refused, -⟩ := bind_eq_ok.1 h
      cases refuse_eq_ok.1 refused
  · rintro ⟨⟨v, ⟨front, behind, blanks, spelled, closed⟩, describes⟩, rfl⟩
    refine look_eq_ok.2 ⟨front, _, blanks, spelled.fresh, rfl, ?_⟩
    cases describes with
    | byName nodup names =>
      cases spelled with
      | object items =>
        have fields := Field.subperm_all_iff.2 ((Names.nodup_iff names).1 nodup)
        refine bind_eq_ok.2 ⟨(), _, skip_eq_ok.2 rfl, ?_⟩
        refine bind_eq_ok.2 ⟨_, behind, members_eq_ok.2 ⟨_, _, items, names, fields, rfl⟩, ?_⟩
        exact end_eq_ok.2 ⟨closed, rfl, rfl⟩
    | byPosition fields means =>
      cases spelled with
      | array items =>
        refine bind_eq_ok.2 ⟨(), _, skip_eq_ok.2 rfl, ?_⟩
        refine bind_eq_ok.2 ⟨_, behind, elements_eq_ok.2 ⟨_, _, items, means, fields, rfl⟩, ?_⟩
        exact end_eq_ok.2 ⟨closed, rfl, rfl⟩

end Reader

theorem ofTextBy_eq_ok {q : Unquoted} {s : String} {o : Options} :
    ofTextBy q s = .ok o ↔ ∃ v, Text v s.toList ∧ Describes v o := by
  unfold ofTextBy
  constructor
  · intro h
    cases read : Reader.options q s.toList with
    | error e =>
      rw [read] at h
      cases h
    | ok r =>
      obtain ⟨o', ds⟩ := r
      rw [read] at h
      cases h
      exact (Reader.options_eq_ok.1 read).1
  · intro h
    rw [Reader.options_eq_ok.2 ⟨h, rfl⟩]
    rfl

theorem ofText_eq_ok {s : String} {o : Options} :
    ofText s = .ok o ↔ ∃ v, Text v s.toList ∧ Describes v o := ofTextBy_eq_ok

/-- What a reader makes of unquoted names has no part in what it accepts. -/
theorem ofTextBy_eq_ok_iff_ofText {q : Unquoted} {s : String} {o : Options} :
    ofTextBy q s = .ok o ↔ ofText s = .ok o := ofTextBy_eq_ok.trans ofText_eq_ok.symm

/-- A text is accepted with the options `o` if and only if it spells a JSON value that describes
them. So two texts of one value are accepted alike, however they are spaced and escaped, and so are
two of objects with the same entries in different orders. No object with a repeated or an unknown
key is accepted. -/
theorem ofText_accepts_grammar :
    (∀ s o, ofText s = .ok o ↔ ∃ v, Json.Text v s.toList ∧ Describes v o) ∧
    (∀ v s t, Json.Text v s.toList → Json.Text v t.toList →
      ∀ o, ofText s = .ok o ↔ ofText t = .ok o) ∧
    (∀ entries others s t, entries.Perm others → Json.Text (.object entries) s.toList →
      Json.Text (.object others) t.toList → ∀ o, ofText s = .ok o ↔ ofText t = .ok o) ∧
    (∀ entries s, Json.Text (.object entries) s.toList →
      ¬(entries.map Prod.fst).Nodup ∨ (∃ e ∈ entries, Field.ofName? e.1 = none) →
      ∀ o, ofText s ≠ .ok o) := by
  have described : ∀ {v s o}, Json.Text v (String.toList s) →
      (ofText s = .ok o ↔ Describes v o) := by
    intro v s o text
    rw [ofText_eq_ok]
    constructor
    · rintro ⟨w, text', describes⟩
      exact text.unique text' ▸ describes
    · intro describes
      exact ⟨v, text, describes⟩
  refine ⟨fun s o => ofText_eq_ok, ?_, ?_, ?_⟩
  · intro v s t text text' o
    rw [described text, described text']
  · intro entries others s t perm text text' o
    rw [described text, described text']
    exact ⟨fun h => h.perm perm, fun h => h.perm perm.symm⟩
  · rintro entries s text bad o accepted
    obtain ⟨nodup, known⟩ := ((described text).1 accepted).keys
    rcases bad with repeated | ⟨e, he, unknown⟩
    · exact repeated nodup
    · obtain ⟨f, known⟩ := known e he
      cases unknown.symm.trans known

/-- Blanks and the order of the keys make no difference. A repeated key does. -/
theorem ofText_accepts_grammar_of_two :
    ofText " \x7b\"read_size\":7,\"growth\":\"doubling\"\x7d" = .ok { readSize := 7 } ∧
    ofText "\x7b\"growth\": \"doubling\",\"read_size\":7\x7d" = .ok { readSize := 7 } ∧
    ofText "\x7b\"growth\":null,\"growth\":null\x7d" ≠ .ok {} := by
  obtain ⟨accepts, same, permuted, bad⟩ := ofText_accepts_grammar
  have seven : ∀ {c ds}, c.isDigit = false → c ∉ ['.', 'e', 'E'] →
      Number ['7'] ('7' :: c :: ds) (c :: ds) := by
    intro c ds noDigit noMark
    have run : Run ['7'] ('7' :: c :: ds) (c :: ds) :=
      ⟨rfl, List.cons_ne_nil _ _, List.forall_mem_singleton.2 rfl, by simpa using noDigit⟩
    exact run.number (fun _ => rfl) (by simpa using noMark)
  have plain : ∀ {s : String} (ds : List Char), s.toList.all isPlain = true →
      Quoted s.toList (s.toList ++ '"' :: ds) ds := fun ds h => quoted_of_plain h ds
  have sized : ∀ {cs}, Blanks cs ('{' :: '"' :: ("read_size".toList ++ '"' :: ':' :: '7' :: ',' ::
      '"' :: ("growth".toList ++ '"' :: ':' :: '"' :: ("doubling".toList ++ ['"', '}'])))) →
      Json.Text (.object [("read_size", .number ['7']), ("growth", .string "doubling")]) cs :=
    fun blanks => ⟨_, _, blanks, .object (.item (.first .none)
      (.entry (plain _ (by decide)) .none .none (.number (seven (by decide) (by decide))))
      (.item (.next .none .none)
        (.entry (plain _ (by decide)) .none .none (.string (plain _ (by decide))))
        (.none .none))), .none⟩
  have grown : Json.Text (.object [("growth", .string "doubling"), ("read_size", .number ['7'])])
      ('{' :: '"' :: ("growth".toList ++ '"' :: ':' :: ' ' :: '"' :: ("doubling".toList ++
        '"' :: ',' :: '"' :: ("read_size".toList ++ ['"', ':', '7', '}'])))) :=
    ⟨_, _, .none, .object (.item (.first .none)
      (.entry (plain _ (by decide)) .none (.blank rfl .none) (.string (plain _ (by decide))))
      (.item (.next .none .none)
        (.entry (plain _ (by decide)) .none .none (.number (seven (by decide) (by decide))))
        (.none .none))), .none⟩
  have repeated : Json.Text (.object [("growth", .null), ("growth", .null)])
      ('{' :: '"' :: ("growth".toList ++ '"' :: ':' :: 'n' :: 'u' :: 'l' :: 'l' :: ',' :: '"' ::
        ("growth".toList ++ ['"', ':', 'n', 'u', 'l', 'l', '}']))) :=
    ⟨_, _, .none, .object (.item (.first .none)
      (.entry (plain _ (by decide)) .none .none .null)
      (.item (.next .none .none) (.entry (plain _ (by decide)) .none .none .null)
        (.none .none))), .none⟩
  have describes : Describes
      (.object [("read_size", .number ['7']), ("growth", .string "doubling")])
      (override {} [.readSize 7, .growth .doubling]) :=
    .byName (by decide) (.cons ⟨rfl, .readSize (.digits (by decide))⟩ (.cons ⟨rfl, .name⟩ .nil))
  have tight : ofText "\x7b\"read_size\":7,\"growth\":\"doubling\"\x7d" = .ok { readSize := 7 } :=
    (accepts _ _).2 ⟨_, sized .none, describes⟩
  have spaced : Json.Text _ " \x7b\"read_size\":7,\"growth\":\"doubling\"\x7d".toList :=
    sized (.blank rfl .none)
  have swapped : Json.Text _ "\x7b\"growth\": \"doubling\",\"read_size\":7\x7d".toList := grown
  exact ⟨(same _ _ _ spaced (sized .none) _).2 tight,
    (permuted _ _ _ _ (.swap _ _ _) swapped (sized .none) _).2 tight,
    bad _ _ repeated (.inl (by decide)) {}⟩

end Spool.Options
