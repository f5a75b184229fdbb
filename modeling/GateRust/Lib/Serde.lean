/-
# Conversion of values to bytes and back

The two functions of a serialisation library for one type.  The library itself is a parameter
of what uses it; what is needed of it is that a value is read back from its own output.
-/
import Mathlib.Tactic.Common

/-- The functions that write a value as bytes and read it back, each of which may fail. -/
structure Serde (T : Type) where
  toVec : T → Except String (List UInt8)
  fromSlice : List UInt8 → Except String T

namespace Serde

variable {T : Type}

/-- The value is read back from its own output. -/
def RoundTrips (serde : Serde T) (value : T) : Prop :=
  ∀ payload, serde.toVec value = .ok payload → serde.fromSlice payload = .ok value

instance [DecidableEq T] (serde : Serde T) (value : T) : Decidable (serde.RoundTrips value) :=
  decidable_of_iff
    (∀ payload ∈ (serde.toVec value).toOption, serde.fromSlice payload = .ok value) <| by
    unfold RoundTrips
    cases serde.toVec value <;> simp [Except.toOption]

/-- The conversion that is given by a table of values and their texts. -/
def ofTable [DecidableEq T] (table : List (T × String)) : Serde T where
  toVec value :=
    match table.find? fun e => e.1 = value with
    | some e => .ok e.2.toUTF8.toList
    | none => .error "unknown value"
  fromSlice payload :=
    match table.find? fun e => e.2.toUTF8.toList = payload with
    | some e => .ok e.1
    | none => .error "unknown text"

/-- A table whose texts are read back to their values gives back every value it writes. -/
lemma ofTable_roundTrips [DecidableEq T] {table : List (T × String)}
    (h : ∀ e ∈ table, (ofTable table).fromSlice e.2.toUTF8.toList = .ok e.1) (value : T) :
    (ofTable table).RoundTrips value := by
  intro payload hvec
  simp only [ofTable] at hvec
  split at hvec
  · rename_i e he
    have hvalue : e.1 = value := by simpa using List.find?_some he
    rw [← Except.ok.inj hvec, ← hvalue]
    exact h e (List.mem_of_find?_eq_some he)
  · simp at hvec

end Serde
