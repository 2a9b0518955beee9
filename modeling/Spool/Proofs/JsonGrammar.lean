import Spool.Proofs.JsonLexemes

/-!
# The grammar of JSON

What a JSON text looks like: a `Value` that is `Spelled` between blanks. Of the items of a list each
stands behind its `Lead`, which is blanks for the first one and has a comma in it for all others.
The grammar is unambiguous: a text spells one value at most, with every key and every literal in it.
-/

namespace Spool.Json

/-- A JSON value. A number is kept as it is written, an object with all of its entries in order,
also where two of them share a key. -/
inductive Value where
  | null
  | boolean (b : Bool)
  | number (literal : List Char)
  | string (s : String)
  | array (items : List Value)
  | object (entries : List (String × Value))

/-- The values right inside of a value. -/
def Value.parts : Value → List Value
  | array items => items
  | object entries => entries.map Prod.snd
  | _ => []

theorem Value.sizeOf_lt_of_mem_parts {v w : Value} (h : w ∈ v.parts) : sizeOf w < sizeOf v := by
  cases v with
  | array items =>
    have := List.sizeOf_lt_of_mem (show w ∈ items from h)
    simp only [array.sizeOf_spec]
    omega
  | object entries =>
    obtain ⟨⟨k, w⟩, member, rfl⟩ := List.mem_map.1 h
    have := List.sizeOf_lt_of_mem member
    simp only [object.sizeOf_spec, Prod.mk.sizeOf_spec] at this ⊢
    omega
  | _ => cases h

/-- What holds of a value as soon as it holds of its parts holds of all values. -/
theorem Value.induction {motive : Value → Prop}
    (step : ∀ v : Value, (∀ w ∈ v.parts, motive w) → motive v) (v : Value) : motive v :=
  step v fun w h =>
    have := sizeOf_lt_of_mem_parts h
    induction step w
termination_by sizeOf v

/-- Blanks, and then what is spelled. -/
def Padded {α : Type} (Spelling : α → List Char → List Char → Prop) (x : α) (cs ds : List Char) :
    Prop :=
  ∃ front, Blanks cs front ∧ Spelling x front ds

/-- What stands in front of an item. -/
inductive Lead : (first : Bool) → List Char → List Char → Prop
  | first {cs ds : List Char} : Blanks cs ds → Lead true cs ds
  | next {cs ds es : List Char} : Blanks cs (',' :: ds) → Blanks ds es → Lead false cs es

/-- The items of a list from behind its opening bracket up to its closing one. -/
inductive Items {α : Type} (Item : α → List Char → List Char → Prop) (close : Char) :
    (first : Bool) → List α → List Char → List Char → Prop
  | none {first : Bool} {cs ds : List Char} : Blanks cs (close :: ds) →
      Items Item close first [] cs ds
  | item {first : Bool} {x : α} {xs : List α} {cs front behind ds : List Char} :
      Lead first cs front → Item x front behind → Items Item close false xs behind ds →
      Items Item close first (x :: xs) cs ds

/-- A key, a colon, and a value. -/
inductive Entry (Spelled : Value → List Char → List Char → Prop) :
    String × Value → List Char → List Char → Prop
  | entry {k : String} {v : Value} {cs colon rest front ds : List Char} :
      Quoted k.toList cs colon → Blanks colon (':' :: rest) → Blanks rest front →
      Spelled v front ds → Entry Spelled (k, v) ('"' :: cs) ds

inductive Spelled : Value → List Char → List Char → Prop
  | null {ds : List Char} : Spelled .null ('n' :: 'u' :: 'l' :: 'l' :: ds) ds
  | yes {ds : List Char} : Spelled (.boolean true) ('t' :: 'r' :: 'u' :: 'e' :: ds) ds
  | no {ds : List Char} : Spelled (.boolean false) ('f' :: 'a' :: 'l' :: 's' :: 'e' :: ds) ds
  | number {ls cs ds : List Char} : Number ls cs ds → Spelled (.number ls) cs ds
  | string {s : String} {cs ds : List Char} : Quoted s.toList cs ds →
      Spelled (.string s) ('"' :: cs) ds
  | array {vs : List Value} {cs ds : List Char} : Items Spelled ']' true vs cs ds →
      Spelled (.array vs) ('[' :: cs) ds
  | object {es : List (String × Value)} {cs ds : List Char} :
      Items (Entry Spelled) '}' true es cs ds → Spelled (.object es) ('{' :: cs) ds

/-- `cs` is one value and nothing else but blanks. -/
def Text (v : Value) (cs : List Char) : Prop :=
  ∃ front behind, Blanks cs front ∧ Spelled v front behind ∧ Blanks behind []

/-- An object with one entry. -/
theorem spelled_entry_iff {k : String} {v : Value} {cs ds : List Char} :
    Spelled (.object [(k, v)]) cs ds ↔ ∃ lead key colon rest behind, cs = '{' :: lead ∧
      Blanks lead ('"' :: key) ∧ Quoted k.toList key colon ∧ Blanks colon (':' :: rest) ∧
      Padded Spelled v rest behind ∧ Blanks behind ('}' :: ds) := by
  constructor
  · intro h
    cases h with
    | object items =>
      cases items with
      | item lead entry items =>
        cases lead with
        | first lead =>
          cases entry with
          | entry key colon blanks spelled =>
            cases items with
            | none closed =>
              exact ⟨_, _, _, _, _, rfl, lead, key, colon, ⟨_, blanks, spelled⟩, closed⟩
  · rintro ⟨_, key, colon, rest, behind, rfl, lead, quoted, blanks, padded, closed⟩
    obtain ⟨front, blanks', spelled⟩ := padded
    exact .object (.item (.first lead) (.entry quoted blanks blanks' spelled) (.none closed))

/-! ## Where values start -/

/-- The characters that values start with. -/
def opens (c : Char) : Bool := c.isDigit || ['n', 't', 'f', '-', '"', '[', '{'].contains c

theorem Spelled.head {v : Value} {cs ds : List Char} (h : Spelled v cs ds) :
    ∃ c rest, cs = c :: rest ∧ opens c = true := by
  cases h with
  | number number =>
    obtain ⟨c, rest, rfl, rfl | digit⟩ := number.head
    · exact ⟨_, rest, rfl, by decide⟩
    · exact ⟨c, rest, rfl, by rw [opens, digit, Bool.true_or]⟩
  | _ => exact ⟨_, _, rfl, by decide⟩

theorem not_isBlank_of_opens {c : Char} (h : opens c = true) : isBlank c = false := by
  rw [Bool.eq_false_iff]
  intro blank
  rcases isBlank_iff.1 blank with rfl | rfl | rfl | rfl <;> cases h

/-- Where an item can start: with no blank, and not with what ends its list. -/
def Opening (close : Char) (cs : List Char) : Prop := Fresh cs ∧ cs.head? ≠ some close

theorem Spelled.fresh {v : Value} {cs ds : List Char} (h : Spelled v cs ds) : Fresh cs := by
  obtain ⟨c, rest, rfl, opens⟩ := h.head
  exact fresh_cons.2 (not_isBlank_of_opens opens)

theorem Spelled.opening {v : Value} {cs ds : List Char} (h : Spelled v cs ds) {close : Char}
    (closes : opens close = false) : Opening close cs := by
  refine ⟨h.fresh, ?_⟩
  obtain ⟨c, rest, rfl, opens⟩ := h.head
  rintro ⟨⟩
  cases closes.symm.trans opens

theorem Entry.opening {P : Value → List Char → List Char → Prop} {e : String × Value}
    {cs ds : List Char} (h : Entry P e cs ds) {close : Char} (closes : opens close = false) :
    Opening close cs := by
  cases h with
  | entry =>
    refine ⟨fresh_cons.2 (by decide), ?_⟩
    rintro ⟨⟩
    cases closes

/-! ## One value a text -/

theorem Lead.unique {first : Bool} {cs ds es : List Char} (h : Lead first cs ds)
    (h' : Lead first cs es) (fresh : Fresh ds) (fresh' : Fresh es) : ds = es := by
  cases h with
  | first blanks =>
    cases h' with
    | first blanks' => exact blanks.unique blanks' fresh fresh'
  | next comma blanks =>
    cases h' with
    | next comma' blanks' =>
      obtain ⟨-, rfl⟩ := comma.cons_inj comma' (by decide) (by decide)
      exact blanks.unique blanks' fresh fresh'

theorem Lead.blanks {first : Bool} {cs ds es : List Char} (h : Lead first cs ds)
    (blanks : Blanks ds es) : Lead first cs es := by
  cases h with
  | first before => exact .first (before.trans blanks)
  | next comma before => exact .next comma (before.trans blanks)

/-- A list does not end where it goes on. -/
theorem Lead.not_closed {first : Bool} {close : Char} {cs ds es : List Char} (h : Lead first cs ds)
    (opening : Opening close ds) (closed : Blanks cs (close :: es))
    (visible : isBlank close = false)
    (noComma : close ≠ ',') : False := by
  cases h with
  | first blanks =>
    cases blanks.unique closed opening.1 (fresh_cons.2 visible)
    exact opening.2 rfl
  | next comma _ => exact noComma (closed.cons_inj comma visible (by decide)).1

/-- A list is unambiguous if its items are and can be told from its end. -/
theorem Items.unique {α : Type} {Item : α → List Char → List Char → Prop} {close : Char}
    {first : Bool} {xs ys : List α} {cs ds es : List Char} (h : Items Item close first xs cs ds)
    (h' : Items Item close first ys cs es) (visible : isBlank close = false)
    (noComma : close ≠ ',') (opening : ∀ {x cs ds}, Item x cs ds → Opening close cs)
    (unique : ∀ x ∈ xs, ∀ {y cs ds es}, Item x cs ds → Item y cs es → x = y ∧ ds = es) :
    xs = ys ∧ ds = es := by
  induction h generalizing ys with
  | none closed =>
    cases h' with
    | none closed' =>
      exact ⟨rfl, (closed.cons_inj closed' visible visible).2⟩
    | item lead' item' _ => exact (lead'.not_closed (opening item') closed visible noComma).elim
  | @item first x xs cs front behind ds lead item items ih =>
    cases h' with
    | none closed' => exact (lead.not_closed (opening item) closed' visible noComma).elim
    | item lead' item' items' =>
      cases lead.unique lead' (opening item).1 (opening item').1
      obtain ⟨rfl, rfl⟩ := unique x List.mem_cons_self item item'
      obtain ⟨rfl, rfl⟩ := ih items' fun x hx => unique x (List.mem_cons_of_mem _ hx)
      exact ⟨rfl, rfl⟩

theorem Entry.unique {e e' : String × Value} {cs ds es : List Char} (h : Entry Spelled e cs ds)
    (h' : Entry Spelled e' cs es)
    (unique : ∀ {w cs ds es}, Spelled e.2 cs ds → Spelled w cs es → e.2 = w ∧ ds = es) :
    e = e' ∧ ds = es := by
  cases h with
  | entry key colon blanks spelled =>
    cases h' with
    | entry key' colon' blanks' spelled' =>
      obtain ⟨keys, rfl⟩ := unambiguous_quoted key key'
      cases String.toList_inj.1 keys
      obtain ⟨-, rfl⟩ := colon.cons_inj colon' (by decide) (by decide)
      cases blanks.unique blanks' spelled.fresh spelled'.fresh
      obtain ⟨rfl, rfl⟩ := unique spelled spelled'
      exact ⟨rfl, rfl⟩

theorem Number.not_head {c : Char} {ls cs ds : List Char} (h : Number ls (c :: cs) ds)
    (sign : c ≠ '-') (digit : c.isDigit = false) : False := by
  obtain ⟨_, _, ⟨⟩, rfl | some⟩ := h.head
  · exact sign rfl
  · cases digit.symm.trans some

/-- A text starts with one value at most. -/
theorem Spelled.unique {v w : Value} {cs ds es : List Char} (h : Spelled v cs ds)
    (h' : Spelled w cs es) : v = w ∧ ds = es := by
  induction v using Value.induction generalizing w cs ds es with
  | step v ih =>
    cases h <;> cases h' <;>
      -- Only numbers start with a sign or with a digit.
      try exact (Number.not_head ‹_› (by decide) (by decide)).elim
    case null.null => exact ⟨rfl, rfl⟩
    case yes.yes => exact ⟨rfl, rfl⟩
    case no.no => exact ⟨rfl, rfl⟩
    case number.number ls number ls' number' =>
      obtain ⟨rfl, rfl⟩ := unambiguous_number number number'
      exact ⟨rfl, rfl⟩
    case string.string s cs quoted t quoted' =>
      obtain ⟨text, rfl⟩ := unambiguous_quoted quoted quoted'
      exact ⟨congrArg Value.string (String.toList_inj.1 text), rfl⟩
    case array.array vs cs items ws items' =>
      obtain ⟨rfl, rfl⟩ := items.unique items' (by decide) (by decide)
        (fun item => item.opening (by decide)) (fun v hv => ih v hv)
      exact ⟨rfl, rfl⟩
    case object.object es cs items fs items' =>
      obtain ⟨rfl, rfl⟩ := items.unique items' (by decide) (by decide)
        (fun entry => entry.opening (by decide))
        (fun e he _ _ _ _ entry entry' => entry.unique entry' (ih e.2 (List.mem_map_of_mem he)))
      exact ⟨rfl, rfl⟩

theorem Text.unique {v w : Value} {cs : List Char} (h : Text v cs) (h' : Text w cs) : v = w := by
  obtain ⟨front, _, blanks, spelled, -⟩ := h
  obtain ⟨front', _, blanks', spelled', -⟩ := h'
  cases blanks.unique blanks' spelled.fresh spelled'.fresh
  exact (spelled.unique spelled').1

end Spool.Json
