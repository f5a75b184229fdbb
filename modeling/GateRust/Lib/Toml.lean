/-
# TOML values

The values of a TOML document, and how a deserialisation library reads data from them.  A structure
is read from a table by the names of its fields, or from an array by their positions; what has a
default may be missing.  The syntax of documents is not modelled.
-/
import Mathlib.Data.Int.Notation
import Mathlib.Data.List.Forall2
import Mathlib.Tactic.Common

/-- A value of a TOML document.  A float and a date are given by their texts. -/
inductive Toml where
  | string (text : String)
  | integer (value : ℤ)
  | float (text : String)
  | boolean (value : Bool)
  | datetime (text : String)
  | array (items : List Toml)
  | table (entries : List (String × Toml))

namespace Toml

variable {α β : Type}

/-- A document is a table. -/
abbrev Document := List (String × Toml)

/-! ## Values without fields -/

def string? : Toml → Option String
  | string text => some text
  | _ => none

def boolean? : Toml → Option Bool
  | boolean value => some value
  | _ => none

/-- A natural number below `bound`. -/
def natural? (bound : ℕ) : Toml → Option ℕ
  | integer value => if 0 ≤ value ∧ value < bound then some value.toNat else none
  | _ => none

def array? (read : Toml → Option α) : Toml → Option (List α)
  | array items => items.mapM read
  | _ => none

/-- A variant without data is given by its name, or by a table with the name and an empty value. -/
def variant? (name : α → String) (variants : List α) : Toml → Option α
  | string text => variants.find? fun variant => name variant = text
  | table [(text, table [])] => variants.find? fun variant => name variant = text
  | table [(text, array [])] => variants.find? fun variant => name variant = text
  | _ => none

/-- The tag of an internally tagged variant and the rest of the value. -/
def tagged? (tag : String) : Toml → Option (String × Toml)
  | table entries =>
    match entries.lookup tag with
    | some (string name) => some (name, table (entries.filter (·.1 ≠ tag)))
    | _ => none
  | array (string name :: items) => some (name, array items)
  | _ => none

def isTable : Toml → Bool
  | table _ => true
  | _ => false

/-! ## Structures -/

/-- The fields of a structure, as they are found in a value. -/
structure Fields where
  positional : Bool
  get? : String → Option Toml

/-- The fields of a structure that denies unknown fields. -/
def fields? (names : List String) : Toml → Option Fields
  | table entries =>
    if entries.all fun entry => names.contains entry.1 then
      some ⟨false, fun name => entries.lookup name⟩
    else none
  | array items => some ⟨true, fun name => items[names.idxOf name]?⟩
  | _ => none

namespace Fields

def required (fields : Fields) (name : String) (read : Toml → Option α) : Option α :=
  (fields.get? name).bind read

/-- An `Option` without a default may be missing in a table only. -/
def optional (fields : Fields) (name : String) (read : Toml → Option α) : Option (Option α) :=
  match fields.get? name with
  | some value => (read value).map some
  | none => if fields.positional then none else some none

def withDefault (fields : Fields) (name : String) (read : Toml → Option α) (default : α) :
    Option α :=
  match fields.get? name with
  | some value => read value
  | none => some default

end Fields

/-- The entry of an optional field, which is left out if there is no value. -/
def optionalEntry (name : String) (write : α → Toml) (value : Option α) : Document :=
  (value.map fun value => (name, write value)).toList

/-! ## What is read -/

/-- A field that is read, and what is read after it. -/
lemma bind_of_eq_some {x : Option α} {f : α → Option β} {a : α} {b : β} (hx : x = some a)
    (hf : f a = some b) : (x >>= f) = some b :=
  Option.bind_eq_some_iff.mpr ⟨a, hx, hf⟩

lemma Fields.withDefault_of_get? {fields : Fields} {name : String} {read : Toml → Option α}
    {default : α} {value : Toml} (h : fields.get? name = some value) :
    fields.withDefault name read default = read value := by
  simp only [withDefault, h]

lemma natural?_lt {bound n : ℕ} {value : Toml} (h : value.natural? bound = some n) : n < bound := by
  cases value with
  | integer value =>
    rw [natural?, Option.ite_none_right_eq_some] at h
    obtain ⟨⟨hnonneg, hlt⟩, h⟩ := h
    cases h
    omega
  | _ => cases h

lemma natural?_integer {bound n : ℕ} (h : n < bound) :
    (integer (n : ℤ)).natural? bound = some n := by
  rw [natural?, if_pos ⟨Int.natCast_nonneg n, Int.ofNat_lt.mpr h⟩, Int.toNat_natCast]

/-- A field that is not among the names of a structure is not in a table that the structure is read
from. -/
lemma lookup_eq_none {names : List String} {entries : Document} {fields : Fields} (name : String)
    (h : (table entries).fields? names = some fields) (hname : name ∉ names) :
    entries.lookup name = none := by
  rw [fields?, Option.ite_none_right_eq_some] at h
  refine List.lookup_eq_none_iff.mpr fun entry hentry => ?_
  have hknown : entry.1 ∈ names := by simpa using List.all_eq_true.mp h.1 entry hentry
  rw [bne_iff_ne]
  rintro rfl
  exact hname hknown

lemma fields?_table {names : List String} {entries : Document} {fields : Fields}
    (h : (table entries).fields? names = some fields) :
    fields = ⟨false, fun name => entries.lookup name⟩ := by
  rw [fields?, Option.ite_none_right_eq_some] at h
  exact (Option.some.inj h.2).symm

/-- What is read from the items of an array, one by one. -/
lemma forall₂_of_mapM {read : α → Option β} {items : List α} {values : List β}
    (h : items.mapM read = some values) :
    List.Forall₂ (fun item value => read item = some value) items values := by
  induction items generalizing values with
  | nil =>
    cases h
    exact .nil
  | cons item items ih =>
    rw [List.mapM_cons] at h
    obtain ⟨value, hvalue, h⟩ := Option.bind_eq_some_iff.mp h
    obtain ⟨values', hvalues, h⟩ := Option.bind_eq_some_iff.mp h
    cases h
    exact .cons hvalue (ih hvalues)

/-- What two structures read from the same items. -/
lemma forall₂_of_mapM_both {read : Toml → Option α} {read' : Toml → Option β} {R : α → β → Prop}
    {items : List Toml} {values : List α} {values' : List β} (h : items.mapM read = some values)
    (h' : items.mapM read' = some values')
    (hR : ∀ item ∈ items, ∀ value value', read item = some value → read' item = some value' →
      R value value') : List.Forall₂ R values values' := by
  have hvalues := forall₂_of_mapM h
  have hvalues' := forall₂_of_mapM h'
  clear h h'
  induction hvalues generalizing values' with
  | nil =>
    cases hvalues'
    exact .nil
  | cons hvalue _ ih =>
    obtain _ | ⟨hvalue', hvalues'⟩ := hvalues'
    rw [List.forall_mem_cons] at hR
    exact .cons (hR.1 _ _ hvalue hvalue') (ih hR.2 hvalues')

/-- What two structures read from a list that both have under one name. -/
lemma Fields.forall₂_of_withDefault {fields : Fields} {name : String} {read : Toml → Option α}
    {read' : Toml → Option β} {R : α → β → Prop} {values : List α} {values' : List β}
    (h : fields.withDefault name (array? read) [] = some values)
    (h' : fields.withDefault name (array? read') [] = some values')
    (hR : ∀ items, fields.get? name = some (array items) → ∀ item ∈ items, ∀ value value',
      read item = some value → read' item = some value' → R value value') :
    List.Forall₂ R values values' := by
  unfold Fields.withDefault at h h'
  cases hget : fields.get? name with
  | none =>
    rw [hget] at h h'
    cases h
    cases h'
    exact .nil
  | some value =>
    rw [hget] at h h'
    cases value with
    | array items => exact forall₂_of_mapM_both h h' (hR items hget)
    | _ => cases h

lemma array?_array {read : Toml → Option α} {write : α → Toml} {values : List α}
    (h : ∀ value ∈ values, read (write value) = some value) :
    (array (values.map write)).array? read = some values := by
  rw [array?]
  induction values with
  | nil => rfl
  | cons value values ih =>
    rw [List.forall_mem_cons] at h
    rw [List.map_cons, List.mapM_cons, h.1, ih h.2]
    rfl

/-- A list can be written if each of its elements can. -/
lemma exists_mapM_iff {write : α → Option β} {values : List α} :
    (∃ items, values.mapM write = some items) ↔
      ∀ value ∈ values, ∃ item, write value = some item := by
  induction values with
  | nil => simp
  | cons value values ih =>
    rw [List.forall_mem_cons, ← ih]
    constructor
    · rintro ⟨items, h⟩
      rw [List.mapM_cons] at h
      obtain ⟨item, hitem, h⟩ := Option.bind_eq_some_iff.mp h
      obtain ⟨items', hitems', -⟩ := Option.bind_eq_some_iff.mp h
      exact ⟨⟨item, hitem⟩, items', hitems'⟩
    · rintro ⟨⟨item, hitem⟩, items, hitems⟩
      exact ⟨item :: items, by rw [List.mapM_cons, hitem, hitems]; rfl⟩

/-- Items that are written one by one, some of which may not be written, are read back. -/
lemma array?_of_mapM {read : Toml → Option α} {write : α → Option Toml} {values : List α}
    {items : List Toml} (h : values.mapM write = some items)
    (hread : ∀ value ∈ values, ∀ item, write value = some item → read item = some value) :
    (array items).array? read = some values := by
  rw [array?]
  induction values generalizing items with
  | nil =>
    cases h
    rfl
  | cons value values ih =>
    rw [List.forall_mem_cons] at hread
    rw [List.mapM_cons] at h
    obtain ⟨item, hitem, h⟩ := Option.bind_eq_some_iff.mp h
    obtain ⟨items', hitems', h⟩ := Option.bind_eq_some_iff.mp h
    cases h
    rw [List.mapM_cons, hread.1 item hitem, ih hitems' hread.2]
    rfl

end Toml
