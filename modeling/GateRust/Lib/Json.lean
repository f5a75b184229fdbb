/-
# Compact JSON

The bytes that a serialisation library writes for JSON values without blanks: numbers, strings
with their escapes, arrays and objects.  A value is given by its bytes, so that the writers
compose; beside each is what it adds to the length of its parts.
-/
import Mathlib.Algebra.Order.BigOperators.Group.List
import Mathlib.Algebra.Order.Group.Nat
import Mathlib.Algebra.Ring.Nat
import Mathlib.Tactic.Common
import GateRust.Lib.Utf8

namespace Json

def null : List UInt8 := "null".toUTF8.toList

def number (n : ℕ) : List UInt8 := (Nat.toDigits 10 n).map fun c => UInt8.ofNat c.toNat

def hexDigit (n : UInt8) : UInt8 := if n < 10 then 48 + n else 87 + n

/-- A byte of a string: the quotation mark, the backslash and the control characters are
escaped. -/
def escape (byte : UInt8) : List UInt8 :=
  if byte = 34 then [92, 34]
  else if byte = 92 then [92, 92]
  else if byte = 8 then [92, 98]
  else if byte = 9 then [92, 116]
  else if byte = 10 then [92, 110]
  else if byte = 12 then [92, 102]
  else if byte = 13 then [92, 114]
  else if byte < 32 then [92, 117, 48, 48, hexDigit (byte / 16), hexDigit (byte % 16)]
  else [byte]

/-- `"…"`. -/
def string (s : String) : List UInt8 := 34 :: s.toUTF8.toList.flatMap escape ++ [34]

def option {T : Type*} (write : T → List UInt8) : Option T → List UInt8
  | some value => write value
  | none => null

/-- `[…,…]`. -/
def array (items : List (List UInt8)) : List UInt8 := 91 :: [44].intercalate items ++ [93]

/-- `"…":…`. -/
def field (name : String) (value : List UInt8) : List UInt8 := string name ++ 58 :: value

/-- `{…,…}`. -/
def object (fields : List (List UInt8)) : List UInt8 := 123 :: [44].intercalate fields ++ [125]

example : object [field "a" (array [number 10, string "\n\\"]), field "b" null] =
    "\x7b\"a\":[10,\"\\n\\\\\"],\"b\":null\x7d".toUTF8.toList := by decide +kernel

/-! ## Lengths -/

lemma length_number_le {n k : ℕ} (hk : 0 < k) (h : n < 10 ^ k) : (number n).length ≤ k := by
  rw [number, List.length_map]
  exact (Nat.length_toDigits_le_iff (by omega) hk).mpr h

/-- A byte that is written as it is. -/
def plain (byte : UInt8) : Bool := 32 ≤ byte && byte ≠ 34 && byte ≠ 92

lemma escape_of_plain {byte : UInt8} (h : plain byte = true) : escape byte = [byte] := by
  simp only [plain, Bool.and_eq_true, decide_eq_true_eq] at h
  obtain ⟨⟨hle, hquote⟩, hbackslash⟩ := h
  have hne : ∀ control : UInt8, control < 32 → byte ≠ control := by
    rintro control hlt rfl
    exact absurd hle (UInt8.not_le.mpr hlt)
  rw [escape, if_neg hquote, if_neg hbackslash, if_neg (hne 8 (by decide)),
    if_neg (hne 9 (by decide)), if_neg (hne 10 (by decide)), if_neg (hne 12 (by decide)),
    if_neg (hne 13 (by decide)), if_neg (UInt8.not_lt.mpr hle)]

lemma length_string {s : String} (h : ∀ byte ∈ s.toUTF8.toList, plain byte = true) :
    (string s).length = s.utf8ByteSize + 2 := by
  have hplain : s.toUTF8.toList.flatMap escape = s.toUTF8.toList := by
    generalize s.toUTF8.toList = bytes at h
    induction bytes with
    | nil => rfl
    | cons byte bytes ih =>
      rw [List.forall_mem_cons] at h
      rw [List.flatMap_cons, escape_of_plain h.1, ih h.2, List.singleton_append]
  rw [string, hplain, List.cons_append, List.length_cons, List.length_append,
    String.length_toUTF8]
  rfl

lemma length_intercalate_le (items : List (List UInt8)) :
    ([44].intercalate items).length ≤ (items.map (·.length + 1)).sum := by
  induction items with
  | nil => exact Nat.le_refl 0
  | cons item items ih =>
    cases items with
    | nil => simp
    | cons next items =>
      rw [List.intercalate_cons_cons, List.length_append, List.length_append, List.map_cons,
        List.sum_cons, List.length_singleton]
      omega

lemma length_array_le {items : List (List UInt8)} {k : ℕ}
    (h : ∀ item ∈ items, item.length ≤ k) : (array items).length ≤ items.length * (k + 1) + 2 := by
  have hsum : (items.map (·.length + 1)).sum ≤ items.length * (k + 1) := by
    have hle : ∀ n ∈ items.map (·.length + 1), n ≤ k + 1 := by
      intro n hn
      obtain ⟨item, hitem, rfl⟩ := List.mem_map.mp hn
      exact Nat.succ_le_succ (h item hitem)
    have hcard := List.sum_le_card_nsmul _ _ hle
    rwa [List.length_map, Nat.nsmul_eq_mul] at hcard
  have hitems := Nat.le_trans (length_intercalate_le items) hsum
  rw [array, List.cons_append, List.length_cons, List.length_append, List.length_singleton]
  omega

lemma length_field (name : String) (value : List UInt8) :
    (field name value).length = (string name).length + 1 + value.length := by
  rw [field, List.length_append, List.length_cons]
  omega

/-- The parts of an object are bounded one by one. -/
lemma length_object_le {fields : List (List UInt8)} {bounds : List ℕ}
    (h : List.Forall₂ (fun field bound => field.length ≤ bound) fields bounds) :
    (object fields).length ≤ (bounds.map (· + 1)).sum + 2 := by
  have hsum : (fields.map (·.length + 1)).sum ≤ (bounds.map (· + 1)).sum := by
    refine List.Forall₂.sum_le_sum ?_
    rw [List.forall₂_map_left_iff, List.forall₂_map_right_iff]
    exact h.imp fun _ _ => Nat.succ_le_succ
  have hfields := Nat.le_trans (length_intercalate_le fields) hsum
  rw [object, List.cons_append, List.length_cons, List.length_append, List.length_singleton]
  omega

end Json
