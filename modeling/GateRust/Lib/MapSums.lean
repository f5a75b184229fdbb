/-
# Sums over hash maps

What the entries of a map hold together, when each value holds an element of a commutative monoid.
Replacing or removing one entry changes the sum by what that entry holds.
-/
import GateRust.Lib.HashMap
import Mathlib.Algebra.BigOperators.Group.List.Basic

namespace AList

variable {K V M : Type*} [AddCommMonoid M] {f : V → M} {m : HashMap K V} {k : K} {v : V}

/-- The sum of `f` over the values. -/
def sumOf (f : V → M) (m : HashMap K V) : M := (m.entries.map fun e => f e.2).sum

@[simp] lemma sumOf_empty : (∅ : HashMap K V).sumOf f = 0 := rfl

lemma sumOf_mapValues (g : V → V) : (m.mapValues g).sumOf f = m.sumOf fun v => f (g v) := by
  simp only [sumOf, mapValues, List.map_map]
  rfl

/-- The sum is taken over the values that are in the map. -/
lemma sumOf_congr [DecidableEq K] {f' : V → M}
    (h : ∀ k v, m.lookup k = some v → f v = f' v) : m.sumOf f = m.sumOf f' := by
  refine congrArg List.sum (List.map_congr_left fun e he => ?_)
  exact h e.1 e.2 (lookup_eq_some_iff.mpr he)

lemma sumOf_add (f f' : V → M) : m.sumOf (fun v => f v + f' v) = m.sumOf f + m.sumOf f' :=
  List.sum_map_add

variable [DecidableEq K]

lemma sumOf_erase (k : K) :
    (m.erase k).sumOf f = ((m.entries.kerase k).map fun e => f e.2).sum := rfl

lemma sumOf_insert (k : K) (v : V) : (m.insert k v).sumOf f = f v + (m.erase k).sumOf f := by
  rw [sumOf, AList.entries_insert, List.map_cons, List.sum_cons]
  rfl

lemma sumOf_eq_add_erase (h : m.lookup k = some v) : m.sumOf f = f v + (m.erase k).sumOf f := by
  have hmem : k ∈ m.entries.keys := AList.mem_keys.mp (mem_of_lookup h)
  obtain ⟨w, l, r, -, hentries, herase⟩ := List.exists_of_kerase hmem
  obtain rfl : w = v := by
    have hlookup : (⟨k, w⟩ : Σ _ : K, V) ∈ m.entries := by
      rw [hentries]
      simp
    rw [← lookup_eq_some_iff, h] at hlookup
    exact (Option.some.inj hlookup).symm
  rw [sumOf_erase, herase, sumOf, hentries]
  simp only [List.map_append, List.map_cons, List.sum_append, List.sum_cons]
  rw [add_left_comm]

lemma sumOf_insert_of_notMem (h : k ∉ m) : (m.insert k v).sumOf f = f v + m.sumOf f := by
  rw [sumOf_insert, sumOf_erase, List.kerase_of_notMem_keys (AList.mem_keys.not.mp h), sumOf]

lemma erase_insert_self : (m.insert k v).erase k = m.erase k :=
  AList.ext (List.kerase_cons_eq rfl)

/-- One entry changes together with something outside the map. -/
lemma add_sumOf_insert {a b : M} {v' : V} (h : m.lookup k = some v) (hchange : a + f v' = b + f v) :
    a + (m.insert k v').sumOf f = b + m.sumOf f := by
  rw [sumOf_insert, sumOf_eq_add_erase h, ← add_assoc, ← add_assoc, hchange]

end AList
