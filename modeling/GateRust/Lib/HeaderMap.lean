/-
# Header maps

A map in which a name may have several values, as the header of a message: the lines of the header
with their names, in their order.  What can be seen of it are the values of each name.
-/
import Mathlib.Tactic.Common

/-- The lines of a header. -/
structure HeaderMap (N V : Type) where
  lines : List (N × V)
deriving DecidableEq, Repr

namespace HeaderMap

variable {N V : Type} [DecidableEq N] {headers : HeaderMap N V} {name other : N} {value : V}

/-- The values of a name, in their order. -/
def values (headers : HeaderMap N V) (name : N) : List V :=
  (headers.lines.filter fun line => line.1 = name).map Prod.snd

/-- The first value of a name. -/
def get (headers : HeaderMap N V) (name : N) : Option V := (headers.values name).head?

def contains (headers : HeaderMap N V) (name : N) : Bool := headers.values name ≠ []

/-- All values of the name disappear. -/
def remove (headers : HeaderMap N V) (name : N) : HeaderMap N V :=
  ⟨headers.lines.filter fun line => line.1 ≠ name⟩

/-- The value takes the place of all values of the name. -/
def insert (headers : HeaderMap N V) (name : N) (value : V) : HeaderMap N V :=
  ⟨(headers.remove name).lines ++ [(name, value)]⟩

def removeAll (headers : HeaderMap N V) (names : List N) : HeaderMap N V :=
  names.foldl remove headers

lemma contains_iff : headers.contains name = true ↔ ∃ value, headers.get name = some value := by
  rw [contains, get]
  cases headers.values name with
  | nil => simp
  | cons value rest => simp

lemma values_remove (headers : HeaderMap N V) (name other : N) :
    (headers.remove name).values other = if other = name then [] else headers.values other := by
  rw [values, remove, List.filter_filter]
  split_ifs with h
  · subst h
    simp
  · rw [values]
    congr 1
    refine List.filter_congr fun line _ => ?_
    by_cases hline : line.1 = other
    · simp [hline, h]
    · simp [hline]

@[simp] lemma values_remove_self : (headers.remove name).values name = [] := by
  rw [values_remove, if_pos rfl]

lemma values_remove_of_ne (h : other ≠ name) :
    (headers.remove name).values other = headers.values other := by
  rw [values_remove, if_neg h]

@[simp] lemma values_insert_self : (headers.insert name value).values name = [value] := by
  have hremoved : (headers.remove name).values name = [] := values_remove_self
  rw [values] at hremoved
  rw [values, insert, List.filter_append, List.map_append, hremoved]
  simp

lemma values_insert_of_ne (h : other ≠ name) :
    (headers.insert name value).values other = headers.values other := by
  have hremoved : (headers.remove name).values other = headers.values other := values_remove_of_ne h
  rw [values] at hremoved
  rw [values, insert, List.filter_append, List.map_append, hremoved]
  simp [h.symm]

/-- A name that is removed has no value, and every other name keeps its values. -/
lemma values_removeAll (headers : HeaderMap N V) (names : List N) (other : N) :
    (headers.removeAll names).values other =
      if other ∈ names then [] else headers.values other := by
  induction names generalizing headers with
  | nil => simp [removeAll]
  | cons name names ih =>
    show ((headers.remove name).removeAll names).values other = _
    rw [ih, values_remove]
    by_cases hname : other = name
    · simp [hname]
    · simp [hname]

end HeaderMap
