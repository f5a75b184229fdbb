/-
# Histories

The history of a run is the list of what has happened in it, the latest last.  A property of
the whole history that relates every entry to the entries before it is kept by appending
entries one at a time.
-/
import Mathlib.Data.List.Induction

namespace History

variable {α β : Type*} {R : List α → α → Prop} {l : List α} {a : α}

/-- Every entry is in the relation `R` with the entries before it. -/
def Along (R : List α → α → Prop) (l : List α) : Prop :=
  ∀ pre a post, l = pre ++ a :: post → R pre a

lemma along_nil : Along R [] := by
  intro pre a post h
  simp at h

lemma Along.snoc (h : Along R l) (ha : R l a) : Along R (l ++ [a]) := by
  intro pre b post heq
  rcases List.eq_nil_or_concat post with rfl | ⟨post', c, rfl⟩
  · obtain ⟨rfl, hab⟩ := List.append_inj' heq rfl
    rw [← List.singleton_inj.mp hab]
    exact ha
  · rw [List.concat_eq_append, ← List.cons_append, ← List.append_assoc] at heq
    exact h pre b post' (List.append_inj' heq rfl).1

/-- Some entry is in the relation `R` with the entries before it. -/
def Once (R : List α → α → Prop) (l : List α) : Prop :=
  ∃ pre a post, l = pre ++ a :: post ∧ R pre a

lemma once_snoc (ha : R l a) : Once R (l ++ [a]) := ⟨l, a, [], rfl, ha⟩

/-- What has happened once has happened for good. -/
lemma Once.snoc (h : Once R l) : Once R (l ++ [a]) := by
  obtain ⟨pre, b, post, rfl, hb⟩ := h
  exact ⟨pre, b, post ++ [a], by simp, hb⟩

/-- The last entry with a value of the partial function `f`, given by that value. -/
def last? (f : α → Option β) (l : List α) : Option β := (l.filterMap f).getLast?

variable {f : α → Option β} {b : β}

lemma last?_snoc_of_some (h : f a = some b) : last? f (l ++ [a]) = some b := by
  simp [last?, h]

lemma last?_snoc_of_none (h : f a = none) : last? f (l ++ [a]) = last? f l := by
  simp [last?, h]

/-- After an entry with a value, the last value is that one or one of a later entry. -/
lemma last?_append_cons (l mid : List α) (h : f a = some b) :
    last? f (l ++ a :: mid) = some b ∨
      ∃ c ∈ mid, ∃ b', f c = some b' ∧ last? f (l ++ a :: mid) = some b' := by
  induction mid using List.reverseRecOn with
  | nil => exact Or.inl (last?_snoc_of_some h)
  | append_singleton mid c ih =>
    rw [← List.cons_append, ← List.append_assoc]
    cases hc : f c with
    | some b' =>
      exact Or.inr ⟨c, by simp, b', hc, last?_snoc_of_some hc⟩
    | none =>
      rw [last?_snoc_of_none hc]
      rcases ih with hlast | ⟨d, hd, b', hb', hlast⟩
      · exact Or.inl hlast
      · exact Or.inr ⟨d, List.mem_append_left _ hd, b', hb', hlast⟩

end History
