/-
# Hash maps

A hash map is modelled by an association list with pairwise different keys.  Mathlib's
`AList` has lookup, insertion and removal; this file adds the operations of a mutable map
that it does not have: keeping the entries that satisfy a predicate, changing the value of
one key, collecting a list of pairs, and the number of entries.
-/
import Mathlib.Data.List.AList
import Mathlib.Tactic.Common

/-- A map from keys in `K` to values in `V`. -/
abbrev HashMap (K V : Type*) := AList fun _ : K => V

namespace AList

variable {K V : Type*}

/-- The number of entries. -/
def size (m : HashMap K V) : ℕ := m.entries.length

/-- Keep the entries that satisfy `p`. -/
def retain (m : HashMap K V) (p : K → V → Bool) : HashMap K V :=
  ⟨m.entries.filter fun e => p e.1 e.2, m.nodupKeys.sublist List.filter_sublist⟩

/-- Change every value. -/
def mapValues (m : HashMap K V) (f : V → V) : HashMap K V :=
  ⟨m.entries.map fun e => ⟨e.1, f e.2⟩, by
    have hkeys : (m.entries.map fun e => (⟨e.1, f e.2⟩ : Σ _ : K, V)).keys = m.entries.keys :=
      List.map_map
    rw [List.NodupKeys, hkeys]
    exact m.nodupKeys⟩

/-- The two maps have the same entries, in any order. -/
def same [DecidableEq K] [DecidableEq V] (m m' : HashMap K V) : Bool :=
  m.size = m'.size && m.entries.all fun e => m'.lookup e.1 = some e.2

lemma size_eq_length_keys (m : HashMap K V) : m.size = m.keys.length := by
  simp [size, AList.keys, List.keys]

variable [DecidableEq K]

lemma lookup_eq_some_iff {m : HashMap K V} {k : K} {v : V} :
    m.lookup k = some v ↔ (⟨k, v⟩ : Σ _ : K, V) ∈ m.entries :=
  AList.mem_lookup_iff

lemma mem_of_lookup {m : HashMap K V} {k : K} {v : V} (h : m.lookup k = some v) : k ∈ m := by
  rw [← AList.lookup_isSome, h]
  rfl

lemma lookup_of_mem {m : HashMap K V} {k : K} (h : k ∈ m) : ∃ v, m.lookup k = some v :=
  Option.isSome_iff_exists.mp (AList.lookup_isSome.mpr h)

lemma lookup_retain_eq_some {m : HashMap K V} {p : K → V → Bool} {k : K} {v : V} :
    (m.retain p).lookup k = some v ↔ m.lookup k = some v ∧ p k v = true := by
  rw [lookup_eq_some_iff, lookup_eq_some_iff, retain, List.mem_filter]

lemma mem_retain {m : HashMap K V} {p : K → V → Bool} {k : K} :
    k ∈ m.retain p ↔ ∃ v, m.lookup k = some v ∧ p k v = true := by
  constructor
  · intro h
    obtain ⟨v, hv⟩ := lookup_of_mem h
    exact ⟨v, lookup_retain_eq_some.mp hv⟩
  · rintro ⟨v, hv⟩
    exact mem_of_lookup (lookup_retain_eq_some.mpr hv)

lemma lookup_mapValues (m : HashMap K V) (f : V → V) (k : K) :
    (m.mapValues f).lookup k = (m.lookup k).map f := by
  ext v
  rw [lookup_eq_some_iff, Option.map_eq_some_iff, mapValues, List.mem_map]
  constructor
  · rintro ⟨⟨k', w⟩, hmem, heq⟩
    cases heq
    exact ⟨w, lookup_eq_some_iff.mpr hmem, rfl⟩
  · rintro ⟨w, hw, rfl⟩
    exact ⟨⟨k, w⟩, lookup_eq_some_iff.mp hw, rfl⟩

lemma lookup_insert_eq (m : HashMap K V) (k k' : K) (v : V) :
    (m.insert k v).lookup k' = if k' = k then some v else m.lookup k' := by
  by_cases h : k' = k
  · subst h
    simp
  · rw [AList.lookup_insert_ne h, if_neg h]

lemma lookup_erase_eq (m : HashMap K V) (k k' : K) :
    (m.erase k).lookup k' = if k' = k then none else m.lookup k' := by
  by_cases h : k' = k
  · subst h
    simp
  · rw [AList.lookup_erase_ne h, if_neg h]

lemma size_insert_le (m : HashMap K V) (k : K) (v : V) : (m.insert k v).size ≤ m.size + 1 := by
  simpa [size] using (List.kerase_sublist k m.entries).length_le

lemma size_erase_le (m : HashMap K V) (k : K) : (m.erase k).size ≤ m.size :=
  (List.kerase_sublist k m.entries).length_le

lemma size_erase_of_mem {m : HashMap K V} {k : K} (h : k ∈ m) :
    (m.erase k).size + 1 = m.size := by
  rw [size_eq_length_keys, size_eq_length_keys, AList.keys_erase,
    List.length_erase_add_one (AList.mem_keys.mp h)]

lemma size_erase_of_notMem {m : HashMap K V} {k : K} (h : k ∉ m) : (m.erase k).size = m.size := by
  rw [size_eq_length_keys, size_eq_length_keys, AList.keys_erase,
    List.erase_of_not_mem (AList.mem_keys.not.mp h)]

lemma size_insert_of_notMem {m : HashMap K V} {k : K} (h : k ∉ m) (v : V) :
    (m.insert k v).size = m.size + 1 := by
  rw [size_eq_length_keys, size_eq_length_keys, AList.keys_insert, List.length_cons,
    List.erase_of_not_mem (AList.mem_keys.not.mp h)]

/-- Change the value stored under a key, if there is one. -/
def modify (m : HashMap K V) (k : K) (f : V → V) : HashMap K V :=
  match m.lookup k with
  | some v => m.insert k (f v)
  | none => m

lemma lookup_modify (m : HashMap K V) (k k' : K) (f : V → V) :
    (m.modify k f).lookup k' = if k' = k then (m.lookup k).map f else m.lookup k' := by
  unfold modify
  cases hv : m.lookup k with
  | some v => rw [lookup_insert_eq]; rfl
  | none =>
    by_cases h : k' = k
    · subst h
      simp [hv]
    · simp [h]

lemma mem_modify {m : HashMap K V} {k k' : K} {f : V → V} : k' ∈ m.modify k f ↔ k' ∈ m := by
  rw [← AList.lookup_isSome, ← AList.lookup_isSome, lookup_modify]
  by_cases h : k' = k
  · subst h
    simp
  · simp [h]

lemma size_modify (m : HashMap K V) (k : K) (f : V → V) : (m.modify k f).size = m.size := by
  unfold modify
  cases hv : m.lookup k with
  | none => rfl
  | some v =>
    have hk : k ∈ m.keys := AList.mem_keys.mp (mem_of_lookup hv)
    have hlen : (m.insert k (f v)).keys.length = m.keys.length := by
      rw [AList.keys_insert, List.length_cons, List.length_erase_of_mem hk,
        Nat.sub_add_cancel (List.length_pos_of_mem hk)]
    simpa [size, AList.keys, List.keys] using hlen

/-! ## Collecting a list of pairs -/

/-- The map with the given pairs; of several pairs with one key the last counts. -/
def ofList (l : List (K × V)) : HashMap K V := l.foldl (fun m e => m.insert e.1 e.2) ∅

lemma lookup_foldl_insert (l : List (K × V)) (m : HashMap K V) (k : K) :
    (l.foldl (fun m e => m.insert e.1 e.2) m).lookup k =
      ((l.reverse.find? fun e => e.1 = k).map Prod.snd).or (m.lookup k) := by
  induction l generalizing m with
  | nil => simp
  | cons e l ih =>
    simp only [List.foldl_cons, List.reverse_cons, List.find?_append]
    rw [ih, lookup_insert_eq]
    cases l.reverse.find? fun e => e.1 = k with
    | some x => simp
    | none =>
      by_cases h : k = e.1
      · subst h
        simp
      · simp [h, Ne.symm h]

lemma lookup_ofList (l : List (K × V)) (k : K) :
    (ofList l).lookup k = (l.reverse.find? fun e => e.1 = k).map Prod.snd := by
  rw [ofList, lookup_foldl_insert]
  simp

lemma mem_of_lookup_ofList {l : List (K × V)} {k : K} {v : V}
    (h : (ofList l).lookup k = some v) : (k, v) ∈ l := by
  rw [lookup_ofList, Option.map_eq_some_iff] at h
  obtain ⟨e, he, rfl⟩ := h
  have hmem := List.mem_of_find?_eq_some he
  have hkey : e.1 = k := by simpa using List.find?_some he
  rw [← hkey]
  exact List.mem_reverse.mp hmem

/-- Every key of the list is in the map. -/
lemma lookup_ofList_of_mem {l : List (K × V)} {k : K} {v : V} (h : (k, v) ∈ l) :
    ∃ v', (ofList l).lookup k = some v' := by
  rw [lookup_ofList]
  cases hf : l.reverse.find? fun e => e.1 = k with
  | some e => exact ⟨e.2, rfl⟩
  | none => exact absurd (List.find?_eq_none.mp hf (k, v) (List.mem_reverse.mpr h)) (by simp)

end AList
