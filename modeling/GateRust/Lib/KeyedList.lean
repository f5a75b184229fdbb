/-
# Lists with a key

A list whose elements are told apart by a key, and a list that differs from it only in the element
with a given key: the element has been changed, or removed.
-/
import Mathlib.Data.List.Nodup
import Mathlib.Tactic.Common

namespace KeyedList

variable {α κ : Type} {key : α → κ} {name : κ} {new : α → Option α} {prev next : List α}

/-- `next` has `new old` at the place of the element `old` with the key, and nothing there if
that is `none`.  All other elements are kept, in their order. -/
def ChangedAt (key : α → κ) (name : κ) (new : α → Option α) (prev next : List α) : Prop :=
  ∃ l old r, prev = l ++ old :: r ∧ key old = name ∧ (∀ x ∈ l ++ r, key x ≠ name) ∧
    next = l ++ (new old).toList ++ r

/-- `x` is the only element with the key. -/
def Only (key : α → κ) (name : κ) (xs : List α) (x : α) : Prop := ∀ y, y ∈ xs ∧ key y = name ↔ y = x

lemma Only.of_nodup {xs : List α} {x : α} (hnodup : (xs.map key).Nodup) (h : x ∈ xs) :
    Only key (key x) xs x := by
  intro y
  constructor
  · rintro ⟨hy, heq⟩
    exact List.inj_on_of_nodup_map hnodup hy h heq
  · rintro rfl
    exact ⟨h, rfl⟩

/-- The other elements of a list without duplicate keys. -/
lemma key_ne_of_nodup {l r : List α} {old : α} (h : ((l ++ old :: r).map key).Nodup) :
    ∀ x ∈ l ++ r, key x ≠ key old := by
  intro x hx heq
  have hperm : ((l ++ old :: r).map key).Perm ((old :: (l ++ r)).map key) :=
    List.perm_middle.map key
  have hnodup := hperm.nodup_iff.mp h
  rw [List.map_cons, List.nodup_cons] at hnodup
  exact hnodup.1 (heq ▸ List.mem_map_of_mem hx)

/-- Changing the first element with the key. -/
lemma ChangedAt.of_modify [DecidableEq κ] {change : α → α} {i : ℕ} (hnodup : (prev.map key).Nodup)
    (hi : prev.findIdx? (fun x => key x = name) = some i) :
    ChangedAt key name (fun old => some (change old)) prev (prev.modify i change) := by
  obtain ⟨hlength, hkey, -⟩ := List.findIdx?_eq_some_iff_getElem.mp hi
  have hsplit : prev = prev.take i ++ prev[i] :: prev.drop (i + 1) := by
    rw [← List.drop_eq_getElem_cons hlength, List.take_append_drop]
  have hname : key prev[i] = name := of_decide_eq_true hkey
  refine ⟨prev.take i, prev[i], prev.drop (i + 1), hsplit, hname, ?_, ?_⟩
  · intro x hx
    rw [← hname]
    rw [hsplit] at hnodup
    exact key_ne_of_nodup hnodup x hx
  · rw [List.modify_eq_take_cons_drop hlength]
    simp

/-- Removing all elements with the key. -/
lemma ChangedAt.of_filter [DecidableEq κ] (hnodup : (prev.map key).Nodup)
    (hlength : (prev.filter fun x => key x ≠ name).length ≠ prev.length) :
    ChangedAt key name (fun _ => none) prev (prev.filter fun x => key x ≠ name) := by
  have hex : ∃ old ∈ prev, key old = name := by
    by_contra hnone
    refine hlength (congrArg List.length (List.filter_eq_self.mpr fun x hx => ?_))
    exact decide_eq_true fun heq => hnone ⟨x, hx, heq⟩
  obtain ⟨old, hold, hname⟩ := hex
  obtain ⟨l, r, rfl⟩ := List.append_of_mem hold
  have hothers := key_ne_of_nodup hnodup
  rw [hname] at hothers
  refine ⟨l, old, r, rfl, hname, hothers, ?_⟩
  have hl : l.filter (fun x => key x ≠ name) = l :=
    List.filter_eq_self.mpr fun x hx => decide_eq_true (hothers x (List.mem_append_left r hx))
  have hr : r.filter (fun x => key x ≠ name) = r :=
    List.filter_eq_self.mpr fun x hx => decide_eq_true (hothers x (List.mem_append_right l hx))
  rw [List.filter_append, List.filter_cons_of_neg (by simp [hname]), hl, hr]
  simp

/-- A function that leaves the elements of the old list alone only changes the new element. -/
lemma ChangedAt.map (h : ChangedAt key name new prev next) {g : α → α} (hg : ∀ x ∈ prev, g x = x) :
    ChangedAt key name (fun old => (new old).map g) prev (next.map g) := by
  obtain ⟨l, old, r, rfl, hname, hothers, rfl⟩ := h
  refine ⟨l, old, r, rfl, hname, hothers, ?_⟩
  have hl : l.map g = l := by
    rw [List.map_congr_left fun x hx => hg x (List.mem_append_left _ hx), List.map_id']
  have hr : r.map g = r := by
    rw [List.map_congr_left fun x hx => hg x (List.mem_append_right _ (List.mem_cons_of_mem _ hx)),
      List.map_id']
  rw [List.map_append, List.map_append, hl, hr, Option.toList_map]

/-- The new element may be given in another way that agrees on the old list. -/
lemma ChangedAt.congr (h : ChangedAt key name new prev next) {new' : α → Option α}
    (hnew : ∀ x ∈ prev, key x = name → new x = new' x) : ChangedAt key name new' prev next := by
  obtain ⟨l, old, r, rfl, hname, hothers, rfl⟩ := h
  refine ⟨l, old, r, rfl, hname, hothers, ?_⟩
  rw [hnew old (List.mem_append_right l List.mem_cons_self) hname]

end KeyedList
