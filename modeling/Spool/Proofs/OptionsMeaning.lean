import Mathlib.Data.List.Forall2
import Mathlib.Data.List.Nodup
import Mathlib.Data.List.Perm.Subperm
import Spool.Options.Field
import Spool.Proofs.JsonGrammar

/-!
# What JSON values mean as options

A `Setting` is a field with a value for it, and `Means` says which JSON values stand for one. A
value `Describes` options if it has settings by name or by position: they are the default options
with exactly these fields replaced. No setting depends on another one, so their order makes no
difference.
-/

namespace Spool.Options

open Json

/-- A number written with nothing but digits. -/
inductive Counts : Json.Value → Nat → Prop
  | digits {ls : List Char} : ls.all Char.isDigit = true → Counts (.number ls) (digitsValue ls)

/-- A value for a field. -/
inductive Setting where
  | initialCapacity (n : UInt64)
  | readSize (n : UInt64)
  | growth (g : Growth)

namespace Setting

def field : Setting → Field
  | initialCapacity _ => .initialCapacity
  | readSize _ => .readSize
  | growth _ => .growth

end Setting

/-- The options with one field set. -/
def set (o : Options) : Setting → Options
  | .initialCapacity n => { o with initialCapacity := n }
  | .readSize n => { o with readSize := n }
  | .growth g => { o with growth := g }

/-- The rule of growth that a name and its value stand for. -/
inductive Rule : Growth.Variant → Json.Value → Growth → Prop
  | doubling : Rule .doubling .null .doubling
  | factor {v : Json.Value} {k : UInt8} : Counts v k.toNat → Rule .factor v (.factor k)

/-- What a JSON value means as the value of a field. A rule of growth that needs no value can go by
its bare name. -/
inductive Means : Json.Value → Setting → Prop
  | initialCapacity {v : Json.Value} {n : UInt64} : Counts v n.toNat → Means v (.initialCapacity n)
  | readSize {v : Json.Value} {n : UInt64} : Counts v n.toNat → Means v (.readSize n)
  | name : Means (.string Growth.Variant.doubling.name) (.growth .doubling)
  | entry {w : Growth.Variant} {v : Json.Value} {g : Growth} : Rule w v g →
      Means (.object [(w.name, v)]) (.growth g)

/-- The options with the fields set, in order. -/
def override (o : Options) (settings : List Setting) : Options := settings.foldl set o

/-- An entry of an object: the name of a field, and a value for it. -/
def Names (e : String × Json.Value) (s : Setting) : Prop := e.1 = s.field.name ∧ Means e.2 s

/-- The options that a JSON value stands for: the fields by name, each of them once at most, or by
position, up to some field. Those that are not given keep their defaults. -/
inductive Describes : Json.Value → Options → Prop
  | byName {entries : List (String × Json.Value)} {settings : List Setting} :
      (entries.map Prod.fst).Nodup → List.Forall₂ Names entries settings →
      Describes (.object entries) (override {} settings)
  | byPosition {values : List Json.Value} {settings : List Setting} :
      settings.map Setting.field <+: Field.all → List.Forall₂ Means values settings →
      Describes (.array values) (override {} settings)

/-! ## Keys -/

theorem Field.name_injective : Function.Injective name := by
  intro f g same
  have known := ofName?_name f
  rw [same, ofName?_name] at known
  exact (Option.some.inj known).symm

theorem Names.keys_eq {entries : List (String × Json.Value)} {settings : List Setting}
    (h : List.Forall₂ Names entries settings) :
    entries.map Prod.fst = (settings.map Setting.field).map Field.name := by
  induction h with
  | nil => rfl
  | cons names _ ih => rw [List.map_cons, names.1, ih]; rfl

/-- No field is given twice if and only if no key is. -/
theorem Names.nodup_iff {entries : List (String × Json.Value)} {settings : List Setting}
    (h : List.Forall₂ Names entries settings) :
    (entries.map Prod.fst).Nodup ↔ (settings.map Setting.field).Nodup := by
  rw [keys_eq h, List.nodup_map_iff Field.name_injective]

theorem Field.subperm_all_iff {fields : List Field} : fields.Subperm all ↔ fields.Nodup := by
  constructor
  · rintro ⟨fields, perm, sublist⟩
    exact perm.nodup_iff.1 (sublist.nodup (by decide))
  · intro nodup
    exact List.subperm_of_subset nodup fun f _ => mem_all f

/-! ## Order -/

/-- Fields can be set in any order if none is set twice. -/
theorem override_perm {o : Options} {settings others : List Setting}
    (h : settings.Perm others) (nodup : (settings.map Setting.field).Nodup) :
    o.override settings = o.override others := by
  refine h.foldl_eq' (fun x hx y hy o => ?_) o
  by_cases same : x.field = y.field
  · rw [List.inj_on_of_nodup_map nodup hx hy same]
  · cases x <;> cases y <;> first | rfl | exact absurd rfl same

theorem Describes.perm {entries others : List (String × Json.Value)} {o : Options}
    (h : Describes (.object entries) o) (perm : entries.Perm others) :
    Describes (.object others) o := by
  cases h with
  | @byName _ settings nodup names =>
    obtain ⟨settings', names', perm'⟩ := List.perm_comp_forall₂ perm.symm names
    have nodup' : (others.map Prod.fst).Nodup := (perm.map Prod.fst).nodup_iff.1 nodup
    rw [override_perm perm'.symm ((Names.nodup_iff names).1 nodup)]
    exact .byName nodup' names'

theorem Describes.keys {entries : List (String × Json.Value)} {o : Options}
    (h : Describes (.object entries) o) :
    (entries.map Prod.fst).Nodup ∧ ∀ e ∈ entries, ∃ f, Field.ofName? e.1 = some f := by
  cases h with
  | @byName _ settings nodup names =>
    refine ⟨nodup, fun e he => ?_⟩
    have member : e.1 ∈ (settings.map Setting.field).map Field.name :=
      Names.keys_eq names ▸ List.mem_map_of_mem he
    obtain ⟨f, -, same⟩ := List.mem_map.1 member
    exact ⟨f, same ▸ Field.ofName?_name f⟩

end Spool.Options
