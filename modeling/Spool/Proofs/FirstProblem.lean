import Spool.Proofs.JsonExtending
import Spool.Proofs.OptionsReading

/-!
# The first problem decides

An options text is read a lexeme at a time, and no lexeme but a number takes a look at what is
behind it. An answer is `Final` at a text if it is the same with anything behind that text. A reader
is `Settled` where its answer is final unless it finds the text malformed or the text ends in a
number, and `Steady` where it may also come to the end of the text. Readers one behind the other are
steady as well, if one that may be left with nothing to read is `Quiet`: it finds no mismatch there.
So all readers of options are steady, and a mismatch that is found in a text is found in whatever
starts with it.
-/

namespace Spool.Options

open Json

namespace Reader

section

variable {α β : Type} {x : Reader α} {f : α → Reader β} {cs ds : List Char}

theorem bind_of_ok {a : α} (h : x cs = .ok (a, ds)) : (x >>= f) cs = f a ds := by
  show (x cs >>= fun r => f r.1 r.2) = _
  rw [h]
  rfl

theorem bind_of_error {e : OptionsError} (h : x cs = .error e) : (x >>= f) cs = .error e := by
  show (x cs >>= fun r => f r.1 r.2) = _
  rw [h]
  rfl

/-- The answer at the text is the answer at whatever starts with it. -/
def Final (r : Reader α) (cs : List Char) : Prop :=
  ∀ es, r (cs ++ es) = (r cs).map fun p => (p.1, p.2 ++ es)

structure Settled (r : Reader α) (cs : List Char) : Prop where
  lexemes : ∀ {a ds}, r cs = .ok (a, ds) → Lexemes cs ds
  final : r cs ≠ .error .malformed → ¬EndsInNumber cs → Final r cs

structure Steady (r : Reader α) (cs : List Char) : Prop where
  lexemes : ∀ {a ds}, r cs = .ok (a, ds) → Lexemes cs ds
  final : r cs ≠ .error .malformed → ¬EndsInNumber cs → (∀ a, r cs ≠ .ok (a, [])) → Final r cs

/-- The reader finds no mismatch where there is nothing to read. -/
def Quiet (r : Reader α) : Prop := ∀ m, r [] ≠ .error (.mismatch m)

theorem Quiet.of_malformed {r : Reader α} (h : r [] = .error .malformed) : Quiet r := by
  intro m mismatch
  cases h.symm.trans mismatch

theorem Quiet.bind (h : x [] = .error .malformed) (f : α → Reader β) : Quiet (x >>= f) :=
  .of_malformed (bind_of_error h)

theorem Quiet.pure (a : α) : Quiet (pure a) := fun _ h => nomatch h

theorem Settled.steady (h : Settled x cs) : Steady x cs :=
  ⟨h.lexemes, fun wellFormed number _ => h.final wellFormed number⟩

/-! ## One reader behind the other -/

theorem Final.bind (h : Final x cs) (h' : ∀ {a ds}, x cs = .ok (a, ds) → Final (f a) ds) :
    Final (x >>= f) cs := by
  intro es
  have same := h es
  cases read : x cs with
  | error e =>
    rw [read] at same
    rw [bind_of_error read, bind_of_error same]
    rfl
  | ok p =>
    rw [read] at same
    rw [bind_of_ok read, bind_of_ok same]
    exact h' read es

theorem lexemes_bind (h : ∀ {a ds}, x cs = .ok (a, ds) → Lexemes cs ds)
    (h' : ∀ {a ds}, x cs = .ok (a, ds) → ∀ {b es}, f a ds = .ok (b, es) → Lexemes ds es)
    {b : β} {es : List Char} (read : (x >>= f) cs = .ok (b, es)) : Lexemes cs es := by
  obtain ⟨a, ds, first, second⟩ := bind_eq_ok.1 read
  exact (h first).trans (h' first second)

theorem Settled.bind (h : Settled x cs)
    (h' : ∀ {a ds}, x cs = .ok (a, ds) → Settled (f a) ds) : Settled (x >>= f) cs where
  lexemes := lexemes_bind h.lexemes fun read => (h' read).lexemes
  final wellFormed number := by
    refine (h.final (mt bind_of_error wellFormed) number).bind fun read => ?_
    rw [bind_of_ok read] at wellFormed
    exact (h' read).final wellFormed fun ends => number (ends.of_lexemes (h.lexemes read))

theorem Settled.bind_steady (h : Settled x cs)
    (h' : ∀ {a ds}, x cs = .ok (a, ds) → Steady (f a) ds) : Steady (x >>= f) cs where
  lexemes := lexemes_bind h.lexemes fun read => (h' read).lexemes
  final wellFormed number some := by
    refine (h.final (mt bind_of_error wellFormed) number).bind fun read => ?_
    rw [bind_of_ok read] at wellFormed some
    exact (h' read).final wellFormed (fun ends => number (ends.of_lexemes (h.lexemes read))) some

/-- If the first reader takes all there is, the second one can only miss something. -/
theorem Steady.bind (h : Steady x cs) (h' : ∀ {a ds}, x cs = .ok (a, ds) → Steady (f a) ds)
    (quiet : ∀ a, x cs = .ok (a, []) → Quiet (f a)) : Steady (x >>= f) cs where
  lexemes := lexemes_bind h.lexemes fun read => (h' read).lexemes
  final wellFormed number some := by
    have more : ∀ a, x cs ≠ .ok (a, []) := by
      intro a read
      rw [bind_of_ok read] at wellFormed some
      cases rest : f a [] with
      | error e =>
        cases e with
        | malformed => exact wellFormed rest
        | mismatch m => exact quiet a read m rest
      | ok p =>
        obtain ⟨b, es⟩ := p
        obtain rfl := ((h' read).lexemes rest).eq_nil
        exact some b rest
    refine (h.final (mt bind_of_error wellFormed) number more).bind fun read => ?_
    rw [bind_of_ok read] at wellFormed some
    exact (h' read).final wellFormed (fun ends => number (ends.of_lexemes (h.lexemes read))) some

end

/-! ## Readers that are settled -/

section

variable {α β : Type} {cs : List Char}

theorem Settled.of_malformed {r : Reader α} (h : r cs = .error .malformed) : Settled r cs :=
  ⟨fun read => (nomatch h.symm.trans read), fun wellFormed => absurd h wellFormed⟩

theorem settled_pure (a : α) : Settled (pure a) cs where
  lexemes read := by
    cases read
    exact .refl cs
  final _ _ _ := rfl

theorem settled_throw (e : OptionsError) : Settled (throw e : Reader α) cs :=
  ⟨fun read => (nomatch read), fun _ _ _ => rfl⟩

theorem settled_skip {c : Char} (mark : c ∈ marks) :
    Settled skip (c :: cs) where
  lexemes read := by
    cases read
    exact (Lexeme.mark mark).lexemes
  final _ _ _ := rfl

/-- A reader that goes by the first character is settled if it takes none for malformed. -/
theorem Settled.peek {f : Option Char → Reader β} (none : f none [] = .error .malformed)
    (some : ∀ c rest, cs = c :: rest → Settled (f c) (c :: rest)) :
    Settled (do f (← peek)) cs := by
  cases cs with
  | nil => exact .of_malformed none
  | cons c rest => exact ⟨(some c rest rfl).lexemes, (some c rest rfl).final⟩

theorem Settled.lexeme {read : List Char → Option (α × List Char)}
    (lexemes : ∀ {a ds}, read cs = some (a, ds) → Lexemes cs ds)
    (final : ∀ {a ds}, read cs = some (a, ds) → ¬EndsInNumber cs →
      ∀ es, read (cs ++ es) = some (a, ds ++ es)) : Settled (lexeme read) cs where
  lexemes h := lexemes (lexeme_eq_ok.1 h)
  final wellFormed number es := by
    unfold Reader.lexeme at wellFormed ⊢
    cases found : read cs with
    | none =>
      rw [found] at wellFormed
      exact absurd rfl wellFormed
    | some p =>
      rw [final found number es]
      rfl

theorem settled_word {w : String} (mem : w ∈ words) : Settled (word w) cs := by
  refine .lexeme (fun read => ?_) (fun read _ es => ?_)
  · obtain ⟨ds, after, pair⟩ := Option.map_eq_some_iff.1 read
    cases pair
    rw [afterWord_eq_some_iff] at after
    exact after ▸ (Lexeme.word mem).lexemes
  · obtain ⟨ds, after, pair⟩ := Option.map_eq_some_iff.1 read
    cases pair
    rw [afterWord_eq_some_iff] at after
    refine Option.map_eq_some_iff.2 ⟨_, afterWord_eq_some_iff.2 ?_, rfl⟩
    rw [after, List.append_assoc]

theorem settled_numeral : Settled (lexeme numeral?) cs := by
  refine .lexeme (fun read => ?_) (fun read number es => ?_)
  · obtain ⟨ls, number⟩ := Number.of_numeral? read
    exact (Lexeme.number number).lexemes
  · refine numeral?_append read ?_ es
    rintro rfl
    obtain ⟨ls, ends⟩ := Number.of_numeral? read
    exact number ⟨ls, cs, .refl cs, ends⟩

theorem text_eq_lexeme :
    text = lexeme fun cs => (quoted? cs.tail).map fun p => (String.ofList p.1, p.2) := by
  funext cs
  show (lexeme quoted? cs.tail >>= fun p => Except.ok (String.ofList p.1, p.2)) = _
  unfold lexeme
  dsimp only
  cases quoted? cs.tail <;> rfl

theorem settled_text : Settled text ('"' :: cs) := by
  rw [text_eq_lexeme]
  refine .lexeme (fun read => ?_) (fun read _ es => ?_)
  · obtain ⟨⟨s, ds⟩, quoted, pair⟩ := Option.map_eq_some_iff.1 read
    cases pair
    exact (Lexeme.text (quoted?_eq_some_iff.1 quoted)).lexemes
  · obtain ⟨⟨s, ds⟩, quoted, pair⟩ := Option.map_eq_some_iff.1 read
    cases pair
    rw [List.tail_cons, quoted?_eq_some_iff] at quoted
    exact Option.map_eq_some_iff.2 ⟨_, quoted?_eq_some_iff.2 (quoted.append es), rfl⟩

theorem settled_name : Settled name cs := by
  refine .peek rfl fun c rest _ => ?_
  split
  · next quote =>
    cases quote
    exact settled_text
  · exact .of_malformed rfl

theorem settled_found : Settled found cs := by
  refine .peek rfl fun c rest _ => ?_
  split
  · exact (settled_word (by decide)).bind fun _ => settled_pure _
  · exact (settled_word (by decide)).bind fun _ => settled_pure _
  · exact (settled_word (by decide)).bind fun _ => settled_pure _
  · next quote =>
    cases quote
    exact settled_text.bind fun _ => settled_pure _
  · exact settled_pure _
  · exact settled_pure _
  · split
    · refine settled_numeral.bind fun {n _} _ => ?_
      cases n with
      | integer | real => exact settled_pure _
    · exact .of_malformed rfl
  · exact .of_malformed rfl

theorem settled_variantName (q : Unquoted) : Settled (variantName q) cs := by
  cases q with
  | malformed => exact settled_name
  | wrongType =>
    refine settled_found.bind fun {f _} _ => ?_
    split
    · exact settled_pure _
    · exact settled_throw _

theorem settled_variant (s : String) : Settled (variant s) cs := by
  unfold variant
  cases Growth.Variant.ofName? s with
  | none => exact settled_throw _
  | some v => exact settled_pure v

theorem settled_key : Settled key cs := by
  refine settled_name.bind fun {s _} _ => ?_
  cases Field.ofName? s with
  | none => exact settled_throw _
  | some f => exact settled_pure f

theorem key_eq_unknown {s : String} {ds : List Char} (quoted : Quoted s.toList cs ds)
    (unknown : Field.ofName? s = none) :
    key ('"' :: cs) = .error (.mismatch (.unknownField s)) := by
  have named : name ('"' :: cs) = .ok (s, ds) := name_eq_ok.2 ⟨cs, rfl, quoted⟩
  rw [key, bind_of_ok named, unknown]
  rfl

theorem settled_refuse (expected : Expected) : Settled (refuse expected : Reader α) cs :=
  settled_found.bind fun _ => settled_throw _

/-! ## Readers that are steady -/

theorem Steady.and_pure {x : Reader α} (h : Steady x cs) (g : α → β) :
    Steady (x >>= fun a => pure (g a)) cs :=
  h.bind (fun _ => (settled_pure _).steady) fun _ _ => .pure _

theorem steady_skipBlanks : Steady skipBlanks cs where
  lexemes read := (skipBlanks_eq_ok.1 read).1.lexemes
  final _ _ some es := by
    have more : (cs.dropWhile isBlank).isEmpty = false := by
      rw [List.isEmpty_eq_false_iff]
      exact fun none => some () (congrArg (fun ds => Except.ok ((), ds)) none)
    show Except.ok ((), (cs ++ es).dropWhile isBlank) = _
    rw [List.dropWhile_append, more]
    rfl

theorem steady_peek : Steady peek cs where
  lexemes read := by
    cases read
    exact .refl cs
  final _ _ some es := by
    cases cs with
    | nil => exact absurd rfl (some none)
    | cons => rfl

/-- Many readers go by the first character behind blanks. -/
theorem Steady.look {f : Option Char → Reader β} (front : ∀ ds, Steady (f ds.head?) ds)
    (quiet : Quiet (f none)) : Steady (do skipBlanks; f (← peek) : Reader β) cs := by
  refine steady_skipBlanks.bind (fun _ => ?_) (fun _ _ m => quiet m)
  refine steady_peek.bind (fun {c ds} read => ?_) (fun c read => ?_)
  · cases read
    exact front _
  · obtain ⟨head, rfl⟩ := peek_eq_ok.1 read
    exact head ▸ quiet

theorem steady_expect {c : Char} (mark : c ∈ marks) :
    Steady (expect c) cs := by
  refine .look (fun ds => ?_) (.of_malformed rfl)
  split
  · next head =>
    obtain ⟨rest, rfl⟩ := List.head?_eq_some_iff.1 head
    exact (settled_skip mark).steady
  · exact (Settled.of_malformed rfl).steady

theorem steady_number (expected : Expected) (limit : Nat) : Steady (number expected limit) cs := by
  refine steady_skipBlanks.bind (fun _ => Settled.steady ?_) (fun _ _ => .bind rfl _)
  refine settled_found.bind fun {f _} _ => ?_
  split
  · split
    · exact settled_pure _
    · exact settled_throw _
  · exact settled_throw _

theorem steady_null : Steady null cs := by
  refine steady_skipBlanks.bind (fun _ => Settled.steady ?_) (fun _ _ => .bind rfl _)
  refine settled_found.bind fun {f _} _ => ?_
  split
  · exact settled_pure _
  · exact settled_throw _

theorem variantName_nil (q : Unquoted) : variantName q [] = .error .malformed := by
  cases q <;> rfl

theorem steady_growth (q : Unquoted) : Steady (growth q) cs := by
  refine .look (fun ds => ?_) (.of_malformed rfl)
  split
  · next head =>
    obtain ⟨rest, rfl⟩ := List.head?_eq_some_iff.1 head
    refine (settled_skip (by decide)).bind_steady fun _ => ?_
    refine steady_skipBlanks.bind (fun _ => ?_) (fun _ _ => .bind (variantName_nil q) _)
    refine (settled_variantName q).bind_steady fun {s _} _ => ?_
    refine (settled_variant s).bind_steady fun {v _} _ => ?_
    have closed : ∀ {g ds}, Steady (do expect '}'; pure g : Reader Growth) ds :=
      (steady_expect (by decide)).and_pure _
    refine (steady_expect (by decide)).bind (fun _ => ?_) (fun _ _ => ?_)
    · cases v with
      | doubling =>
        refine steady_null.bind (fun _ => ?_) (fun _ _ => .of_malformed rfl)
        exact (settled_pure _).bind_steady fun _ => closed
      | factor =>
        refine (steady_number _ _).bind (fun _ => ?_) (fun _ _ => .of_malformed rfl)
        exact (settled_pure _).bind_steady fun _ => closed
    · cases v with
      | doubling | factor => exact .bind rfl _
  · next head =>
    obtain ⟨rest, rfl⟩ := List.head?_eq_some_iff.1 head
    refine settled_text.bind_steady fun {s _} _ => Settled.steady ?_
    refine (settled_variant s).bind fun {v _} _ => ?_
    cases v with
    | doubling => exact settled_pure _
    | factor => exact settled_throw _
  · exact (Settled.of_malformed rfl).steady

theorem steady_value (q : Unquoted) (f : Field) (o : Options) : Steady (value q f o) cs := by
  cases f with
  | initialCapacity | readSize =>
    exact (steady_number _ _).and_pure _
  | growth => exact (steady_growth q).and_pure _

/-! ## Lists -/

theorem value_nil (q : Unquoted) (f : Field) (o : Options) :
    value q f o [] = .error .malformed := by
  cases f <;> rfl

theorem steady_another {close : Char} (mark : close ∈ marks)
    (first : Bool) : Steady (another close first) cs := by
  refine .look (fun ds => ?_) ?_
  · split
    · next head =>
      obtain ⟨rest, rfl⟩ := List.head?_eq_some_iff.1 head
      exact Settled.steady ((settled_skip mark).bind fun _ => settled_pure _)
    · split
      · exact (settled_pure _).steady
      · refine (steady_expect (by decide)).bind (fun _ => ?_) (fun _ _ => ?_)
        · refine .look (fun ds => Settled.steady ?_) (.pure true)
          split
          · exact .of_malformed rfl
          · exact settled_pure true
        · exact .pure true
  · cases first with
    | true => exact .pure true
    | false => exact .bind rfl _

theorem steady_elements (q : Unquoted) (fields : List Field) (first : Bool) (o : Options) :
    Steady (elements q fields first o) cs := by
  induction fields generalizing first o cs with
  | nil => exact (steady_expect (by decide)).and_pure _
  | cons f fields ih =>
    unfold elements
    refine (steady_another (by decide) first).bind (fun {more _} _ => ?_) (fun more _ => ?_)
    · cases more with
      | true =>
        refine (steady_value q f o).bind (fun _ => ih false _) (fun o _ => .of_malformed ?_)
        cases fields <;> rfl
      | false => exact (settled_pure _).steady
    · cases more with
      | true => exact .bind (value_nil q f o) _
      | false => exact .pure o

theorem steady_members (q : Unquoted) (left : List Field) (first : Bool) (o : Options) :
    Steady (members q left first o) cs := by
  induction left, first, o using members.induct generalizing cs with
  | case1 left first o ih =>
    rw [members]
    refine (steady_another (by decide) first).bind (fun {more _} _ => ?_) (fun more _ => ?_)
    · cases more with
      | true =>
        refine settled_key.bind_steady fun {f _} _ => ?_
        by_cases free : f ∈ left
        · rw [dif_pos free]
          refine (steady_expect (by decide)).bind (fun _ => ?_)
            (fun _ _ => .bind (value_nil q f o) _)
          refine (steady_value q f o).bind (fun _ => ih f free _) (fun o _ => .of_malformed ?_)
          rw [members]
          rfl
        · rw [dif_neg free]
          exact (settled_throw _).steady
      | false => exact (settled_pure _).steady
    · cases more with
      | true => exact .bind rfl _
      | false => exact .pure o

/-! ## Texts -/

/-- Nothing but blanks may follow. -/
theorem steady_end (o : Options) :
    Steady
      (do skipBlanks; if (← peek) = none then return o else malformed : Reader Options) cs := by
  refine .look (fun ds => Settled.steady ?_) (.pure o)
  split
  · exact settled_pure o
  · exact .of_malformed rfl

theorem options_of_members {q : Unquoted} {e : OptionsError}
    (h : members q Field.all true {} cs = .error e) : options q ('{' :: cs) = .error e := by
  unfold options
  refine (bind_of_ok rfl).trans ((bind_of_ok rfl).trans ?_)
  exact (bind_of_ok rfl).trans (bind_of_error h)

theorem steady_options (q : Unquoted) : Steady (options q) cs := by
  refine .look (fun ds => ?_) (.bind rfl _)
  split
  · next head =>
    obtain ⟨rest, rfl⟩ := List.head?_eq_some_iff.1 head
    refine (settled_skip (by decide)).bind_steady fun _ => ?_
    exact (steady_elements q _ _ _).bind (fun _ => steady_end _) fun o _ => .pure o
  · next head =>
    obtain ⟨rest, rfl⟩ := List.head?_eq_some_iff.1 head
    refine (settled_skip (by decide)).bind_steady fun _ => ?_
    exact (steady_members q _ _ _).bind (fun _ => steady_end _) fun o _ => .pure o
  · exact (settled_refuse _).bind_steady fun _ => steady_end _

end

end Reader

theorem ofTextBy_eq_mismatch {q : Unquoted} {s : String} {m : Mismatch} :
    ofTextBy q s = .error (.mismatch m) ↔ Reader.options q s.toList = .error (.mismatch m) := by
  unfold ofTextBy
  cases Reader.options q s.toList with
  | error e => simp [Except.map]
  | ok r => simp [Except.map]

/-- A mismatch that is found in a text which does not end in a number is found in every text that
starts with it, whatever the reader makes of unquoted names. -/
theorem first_problem_decides {q : Unquoted} {p : String} {m : Mismatch}
    (bad : ofTextBy q p = .error (.mismatch m)) (ends : ¬EndsInNumber p.toList) (s : String) :
    ofTextBy q (p ++ s) = .error (.mismatch m) := by
  rw [ofTextBy_eq_mismatch] at bad ⊢
  have final : Reader.Final (Reader.options q) p.toList := by
    refine (Reader.steady_options q).final ?_ ends ?_
    · rw [bad]
      exact fun no => nomatch no
    · rw [bad]
      exact fun a no => nomatch no
  rw [String.toList_append, final, bad]
  rfl

/-- An unknown key is refused before its colon, whatever comes instead of one. A word that stands
for the name of a variant may be refused as soon as it ends. -/
theorem first_problem_decides_of_key :
    ofText "\x7b\"x\"" = .error (.mismatch (.unknownField "x")) ∧
    ¬EndsInNumber "\x7b\"x\"".toList ∧
    ofText ("\x7b\"x\"" ++ ": 1\x7d") = .error (.mismatch (.unknownField "x")) ∧
    ofText ("\x7b\"x\"" ++ "]") = .error (.mismatch (.unknownField "x")) ∧
    ofTextBy .wrongType "\x7b\"growth\":\x7bnull" =
      .error (.mismatch (.wrongType .null .variantName)) ∧
    ¬EndsInNumber "\x7b\"growth\":\x7bnull".toList ∧
    ofTextBy .wrongType ("\x7b\"growth\":\x7bnull" ++ ":2\x7d\x7d") =
      .error (.mismatch (.wrongType .null .variantName)) := by
  have bad : ofText "\x7b\"x\"" = .error (.mismatch (.unknownField "x")) := by
    have refused : Reader.key ['"', 'x', '"'] = .error (.mismatch (.unknownField "x")) :=
      Reader.key_eq_unknown (s := "x") (quoted_of_plain rfl []) (by decide)
    refine ofTextBy_eq_mismatch.2 (Reader.options_of_members ?_)
    rw [Reader.members]
    exact (Reader.bind_of_ok rfl).trans (Reader.bind_of_error refused)
  have bare : ofTextBy .wrongType "\x7b\"growth\":\x7bnull" =
      .error (.mismatch (.wrongType .null .variantName)) := by
    have keyed : Reader.key "\"growth\":\x7bnull".toList = .ok (.growth, ":\x7bnull".toList) :=
      Reader.key_eq_ok.2 ⟨_, rfl, quoted_of_plain rfl _⟩
    have refused : Reader.value .wrongType .growth {} "\x7bnull".toList =
        .error (.mismatch (.wrongType .null .variantName)) := rfl
    have read : Reader.members .wrongType Field.all true {} "\"growth\":\x7bnull".toList =
        .error (.mismatch (.wrongType .null .variantName)) := by
      rw [Reader.members]
      refine (Reader.bind_of_ok rfl).trans ((Reader.bind_of_ok keyed).trans ?_)
      rw [dif_pos (by decide)]
      exact (Reader.bind_of_ok rfl).trans (Reader.bind_of_error refused)
    exact ofTextBy_eq_mismatch.2 (Reader.options_of_members read)
  have ends : ¬EndsInNumber "\x7b\"x\"".toList := not_endsInNumber rfl rfl
  have ends' : ¬EndsInNumber "\x7b\"growth\":\x7bnull".toList := not_endsInNumber rfl rfl
  exact ⟨bad, ends, first_problem_decides bad ends _, first_problem_decides bad ends _,
    bare, ends', first_problem_decides bare ends' _⟩

/-- A number that the text ends in may go on, and is another one then. -/
example : ofText "[-1" = .error (.mismatch (.outOfRange (-1) .size)) ∧
    ofText ("[-1" ++ "2") = .error (.mismatch (.outOfRange (-12) .size)) := ⟨rfl, rfl⟩

end Spool.Options
