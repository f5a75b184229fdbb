/-
# Searching a sorted list

A search that stops at the first hit finds a largest one where the list falls in size.  Where no two
hits have the same size it is the only one, and then it does not matter in which order a sort leaves
the elements of one size.
-/
import Mathlib.Data.List.Sort
import Mathlib.Order.Defs.LinearOrder

namespace SortedSearch

variable {α β : Type*} [LinearOrder β] {l l' : List α} {p : α → Prop} {size : α → β} {a b : α}

/-- A hit of the largest size. -/
structure Largest (l : List α) (p : α → Prop) (size : α → β) (a : α) : Prop where
  mem : a ∈ l
  hit : p a
  le : ∀ b ∈ l, p b → size b ≤ size a

lemma Largest.unique (h : Largest l p size a) (h' : Largest l p size b)
    (hdiffer : ∀ a ∈ l, ∀ b ∈ l, p a → p b → size a = size b → a = b) : a = b :=
  hdiffer a h.mem b h'.mem h.hit h'.hit
    (le_antisymm (h'.le a h.mem h.hit) (h.le b h'.mem h'.hit))

lemma Largest.perm (h : Largest l p size a) (hperm : l.Perm l') : Largest l' p size a :=
  ⟨hperm.subset h.mem, h.hit, fun b hb => h.le b (hperm.mem_iff.mpr hb)⟩

/-- The elements of `l` in an order that falls in size, as any sort leaves them. -/
structure Arranges (size : α → β) (l l' : List α) : Prop where
  perm : l'.Perm l
  sorted : l'.Pairwise fun a b => size b ≤ size a

lemma arranges_insertionSort (l : List α) :
    Arranges size l (l.insertionSort fun a b => size b ≤ size a) := by
  have htrans : IsTrans α fun a b => size b ≤ size a := ⟨fun _ _ _ h h' => h'.trans h⟩
  have htotal : Std.Total fun a b : α => size b ≤ size a := ⟨fun a b => le_total (size b) (size a)⟩
  exact ⟨List.perm_insertionSort _ _, List.pairwise_insertionSort _ _⟩

/-- **The first hit of a sorted list is a largest one**: what comes before it is no hit, and what
comes after it is not larger. -/
theorem Arranges.largest_of_find? {p : α → Bool} (h : Arranges size l l')
    (hfind : l'.find? p = some a) : Largest l (p · = true) size a := by
  obtain ⟨hit, before, after, rfl, hbefore⟩ := List.find?_eq_some_iff_append.mp hfind
  refine Largest.perm ⟨List.mem_append_right _ List.mem_cons_self, hit, fun b hb hpb => ?_⟩ h.perm
  rcases List.mem_append.mp hb with hb | hb
  · exact absurd hpb (by simpa using hbefore b hb)
  · rcases List.mem_cons.mp hb with rfl | hb
    · exact le_rfl
    · exact (List.pairwise_cons.mp (List.pairwise_append.mp h.sorted).2.1).1 b hb

end SortedSearch
