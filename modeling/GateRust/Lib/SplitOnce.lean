/-
# Splitting a text once

`rsplit_once` splits a text at the last place where a character stands.  A text that ends in a
number splits behind the last colon, since the digits of the number are none.  `strip_suffix` takes
a given end off a text, and `rposition` finds the last element of a list that satisfies a
predicate.
-/
import Std.Data.String.ToNat
import Mathlib.Data.List.TakeDrop

namespace String

/-- The texts before and after the last place where the character stands. -/
def rsplitOnce (c : Char) (s : String) : Option (String × String) :=
  match s.toList.reverse.span (· ≠ c) with
  | (after, _ :: before) => some (ofList before.reverse, ofList after.reverse)
  | (_, []) => none

/-- The character does not stand in the part behind the split. -/
lemma rsplitOnce_append {c : Char} {before after : String} (h : c ∉ after.toList) :
    (before ++ singleton c ++ after).rsplitOnce c = some (before, after) := by
  have hafter : ∀ d ∈ after.toList.reverse, decide (d ≠ c) = true := by
    intro d hd
    have hne : d ≠ c := fun heq => h (heq ▸ List.mem_reverse.mp hd)
    exact decide_eq_true hne
  have hchars : (before ++ singleton c ++ after).toList.reverse =
      after.toList.reverse ++ c :: before.toList.reverse := by
    simp
  rw [rsplitOnce, hchars, List.span_eq_takeWhile_dropWhile,
    List.takeWhile_append_of_pos hafter, List.dropWhile_append_of_pos hafter]
  simp

/-- The text without the given end. -/
def stripSuffix? (s suffix : String) : Option String :=
  if suffix.toList <:+ s.toList then
    some (ofList (s.toList.take (s.toList.length - suffix.toList.length)))
  else none

lemma stripSuffix_eq_some_iff {s suffix rest : String} :
    s.stripSuffix? suffix = some rest ↔ s = rest ++ suffix := by
  unfold stripSuffix?
  constructor
  · intro h
    split at h
    · rename_i hsuffix
      cases h
      rw [← String.toList_inj, String.toList_append, String.toList_ofList]
      exact (List.suffix_iff_eq_append.mp hsuffix).symm
    · cases h
  · rintro rfl
    simp

end String

/-! ## The last element with a property -/

namespace List

variable {α : Type*} {p : α → Bool} {xs : List α} {i : ℕ}

/-- The position of the last element that satisfies `p`. -/
def rposition (p : α → Bool) : List α → Option ℕ
  | [] => none
  | x :: xs =>
    match rposition p xs with
    | some i => some (i + 1)
    | none => if p x then some 0 else none

lemma rposition_eq_none_iff : xs.rposition p = none ↔ ∀ x ∈ xs, p x = false := by
  induction xs with
  | nil => simp [rposition]
  | cons x xs ih =>
    rw [rposition, forall_mem_cons, ← ih]
    cases xs.rposition p <;> simp

/-- The list around the last element that satisfies `p`. -/
lemma exists_of_rposition (h : xs.rposition p = some i) : ∃ before x after,
    xs = before ++ x :: after ∧ before.length = i ∧ p x = true ∧ ∀ y ∈ after, p y = false := by
  induction xs generalizing i with
  | nil => cases h
  | cons x xs ih =>
    rw [rposition] at h
    cases hrest : xs.rposition p with
    | some j =>
      rw [hrest] at h
      cases h
      obtain ⟨before, y, after, rfl, rfl, hy, hafter⟩ := ih hrest
      exact ⟨x :: before, y, after, rfl, rfl, hy, hafter⟩
    | none =>
      simp only [hrest, Option.ite_none_right_eq_some, Option.some.injEq] at h
      obtain ⟨hx, rfl⟩ := h
      exact ⟨[], x, xs, rfl, rfl, hx, rposition_eq_none_iff.mp hrest⟩

end List

/-! ## Numbers behind the split -/

namespace Nat

lemma notMem_toString {c : Char} (h : c.isDigit = false) (n : ℕ) : c ∉ (toString n).toList := by
  intro hc
  rw [Nat.toString_eq_repr, Nat.toList_repr] at hc
  rw [Nat.isDigit_of_mem_toDigits (by decide) (by decide) hc] at h
  cases h

end Nat
