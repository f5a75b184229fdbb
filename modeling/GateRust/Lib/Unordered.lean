/-
# Futures that finish in any order

A stream of futures of which at most `limit` run at the same time.  They are started in the order
of the stream and finish in any order; a result is known when its future ends.
-/
import Mathlib.Data.List.Perm.Basic

/-- The inputs of the futures, with the results of those that have ended. -/
structure Unordered (α β : Type) where
  waiting : List α
  running : List α
  finished : List (α × β)
deriving DecidableEq

namespace Unordered

variable {α β : Type} {limit : ℕ} {inputs : List α} {u u' : Unordered α β} {index : ℕ} {b : β}

def ofList (inputs : List α) : Unordered α β := ⟨inputs, [], []⟩

/-- Futures are started as long as there is room. -/
def fill (limit : ℕ) (u : Unordered α β) : Unordered α β :=
  let room := limit - u.running.length
  ⟨u.waiting.drop room, u.running ++ u.waiting.take room, u.finished⟩

/-- The running future with the given number ends. -/
def finish (u : Unordered α β) (index : ℕ) (b : β) : Option (Unordered α β) :=
  u.running[index]?.map fun a => ⟨u.waiting, u.running.eraseIdx index, u.finished ++ [(a, b)]⟩

/-- The inputs of the futures that have been started. -/
def started (u : Unordered α β) : List α := u.running ++ u.finished.map Prod.fst

/-- Every input is waiting, running or finished, and no more run than may. -/
structure Of (limit : ℕ) (inputs : List α) (u : Unordered α β) : Prop where
  perm : (u.waiting ++ u.started).Perm inputs
  bounded : u.running.length ≤ limit

lemma of_ofList (limit : ℕ) (inputs : List α) :
    (ofList inputs : Unordered α β).Of limit inputs where
  perm := by simp [ofList, started]
  bounded := Nat.zero_le _

lemma Of.fill (h : u.Of limit inputs) : (u.fill limit).Of limit inputs where
  perm := by
    have hsplit : (u.waiting.drop (limit - u.running.length) ++
        (u.running ++ u.waiting.take (limit - u.running.length))).Perm
        (u.waiting ++ u.running) := by
      refine (List.perm_append_comm.trans ?_).trans List.perm_append_comm
      rw [List.append_assoc, List.take_append_drop]
    refine List.Perm.trans ?_ h.perm
    simpa only [Unordered.fill, started, List.append_assoc] using hsplit.append_right _
  bounded := by
    have hbounded := h.bounded
    simp only [Unordered.fill, List.length_append, List.length_take]
    omega

lemma finish_eq_some (h : u.finish index b = some u') :
    ∃ a, u.running[index]? = some a ∧
      u' = ⟨u.waiting, u.running.eraseIdx index, u.finished ++ [(a, b)]⟩ := by
  obtain ⟨a, ha, rfl⟩ := Option.map_eq_some_iff.mp h
  exact ⟨a, ha, rfl⟩

lemma Of.finish (h : u.Of limit inputs) (hfinish : u.finish index b = some u') :
    u'.Of limit inputs := by
  obtain ⟨a, ha, rfl⟩ := finish_eq_some hfinish
  obtain ⟨hlt, rfl⟩ := List.getElem?_eq_some_iff.mp ha
  refine ⟨List.Perm.trans ?_ h.perm, Nat.le_trans (List.length_eraseIdx_le _ _) h.bounded⟩
  have hended : (u.running.eraseIdx index ++ (u.finished ++ [(u.running[index], b)]).map
      Prod.fst).Perm u.started := by
    rw [List.map_append, ← List.append_assoc]
    refine (List.perm_append_singleton _ _).trans ?_
    exact (List.getElem_cons_eraseIdx_perm hlt).append_right _
  exact hended.append_left _

/-- After a refill nothing waits as long as nothing runs. -/
structure Filled (limit : ℕ) (inputs : List α) (u : Unordered α β) : Prop
    extends u.Of limit inputs where
  waiting : u.running = [] → u.waiting = []

lemma Of.filled (h : u.Of limit inputs) (hlimit : 0 < limit) :
    (u.fill limit).Filled limit inputs := by
  refine ⟨h.fill, fun hrunning => ?_⟩
  obtain ⟨hrunning, htake⟩ := List.append_eq_nil_iff.mp hrunning
  rw [hrunning, List.length_nil, Nat.sub_zero] at htake
  obtain rfl | hwaiting := List.take_eq_nil_iff.mp htake
  · exact absurd hlimit (Nat.lt_irrefl 0)
  · simp [Unordered.fill, hwaiting]

/-- When nothing runs any more there is one result for each input. -/
lemma Filled.finished_perm (h : u.Filled limit inputs) (hrunning : u.running = []) :
    (u.finished.map Prod.fst).Perm inputs := by
  simpa [started, h.waiting hrunning, hrunning] using h.perm

end Unordered
