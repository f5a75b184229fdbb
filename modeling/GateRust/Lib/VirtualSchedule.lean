/-
# Virtual scheduling

A server works through requests in the order in which they come, one at a time, and is never idle
while a request waits.  Each request has a cost, which is the time that the server spends on it.  A
request is released a fixed time, the burst, before the server is done with it, but not before it
has come.

The cost of the requests that are released in a window of time is bounded by the length of the
window and the burst, whatever the requests are and whenever they come.
-/
import Mathlib.Algebra.BigOperators.Intervals
import Mathlib.Algebra.Order.BigOperators.Group.Finset
import Mathlib.Tactic.Abel

namespace VirtualSchedule

structure Request (T : Type*) where
  arrival : T
  cost : T

variable {T : Type*} [AddCommGroup T] [LinearOrder T]

/-- When the server is done with the first `k` requests; it is free from `start` on. -/
def finish (start : T) (requests : ℕ → Request T) : ℕ → T
  | 0 => start
  | k + 1 => max (finish start requests k) (requests k).arrival + (requests k).cost

/-- When the request `k` is released. -/
def release (burst start : T) (requests : ℕ → Request T) (k : ℕ) : T :=
  max (requests k).arrival (finish start requests (k + 1) - burst)

section Bounds

variable [IsOrderedAddMonoid T] {burst start : T} {requests : ℕ → Request T} {i j n : ℕ}

lemma finish_add_cost_le (k : ℕ) :
    finish start requests k + (requests k).cost ≤ finish start requests (k + 1) := by
  rw [finish]
  gcongr
  exact le_max_left _ _

lemma arrival_add_cost_le (k : ℕ) :
    (requests k).arrival + (requests k).cost ≤ finish start requests (k + 1) := by
  rw [finish]
  gcongr
  exact le_max_right _ _

/-- The server needs the sum of the costs at least. -/
lemma finish_add_sum_le (hij : i ≤ j) :
    finish start requests i + ∑ k ∈ Finset.Ico i j, (requests k).cost ≤
      finish start requests j := by
  induction j, hij using Nat.le_induction with
  | base => simp
  | succ j hij ih =>
    rw [Finset.sum_Ico_succ_top hij, ← add_assoc]
    calc finish start requests i + ∑ k ∈ Finset.Ico i j, (requests k).cost + (requests j).cost
        ≤ finish start requests j + (requests j).cost := by gcongr
      _ ≤ finish start requests (j + 1) := finish_add_cost_le j

/-- The requests are released in the order in which they come. -/
lemma release_le_release (burst start : T) (requests : ℕ → Request T) (hij : i ≤ j) (hj : j < n)
    (harrival : ∀ k, k + 1 < n → (requests k).arrival ≤ (requests (k + 1)).arrival)
    (hcost : ∀ k < n, 0 ≤ (requests k).cost) :
    release burst start requests i ≤ release burst start requests j := by
  induction j, hij using Nat.le_induction with
  | base => exact le_rfl
  | succ j hij ih =>
    refine (ih (by omega)).trans (max_le_max (harrival j hj) (sub_le_sub_right ?_ burst))
    exact (le_add_of_nonneg_right (hcost (j + 1) hj)).trans (finish_add_cost_le (j + 1))

omit [LinearOrder T] [IsOrderedAddMonoid T] in
/-- What the server still has to do after the first request of a window. -/
lemma sum_Icc_eq (hij : i ≤ j) :
    ∑ k ∈ Finset.Icc i j, (requests k).cost =
      (requests i).cost + ∑ k ∈ Finset.Ico (i + 1) (j + 1), (requests k).cost := by
  rw [← Finset.Ico_add_one_right_eq_Icc, Finset.sum_eq_sum_Ico_succ_bot (by omega)]

/-- The time from the end of the first request to the release of the last one covers the cost of
the requests after the first, up to the burst. -/
lemma finish_add_sum_le_release (hij : i ≤ j) :
    finish start requests (i + 1) + ∑ k ∈ Finset.Ico (i + 1) (j + 1), (requests k).cost ≤
      release burst start requests j + burst := by
  have hend : finish start requests (j + 1) - burst ≤ release burst start requests j :=
    le_max_right _ _
  exact (finish_add_sum_le (by omega)).trans (sub_le_iff_le_add.mp hend)

/-- **The cost of a window.**  What is released from one request to a later one costs at most the
time between their releases and the burst; the first request counts in full where it costs more
than the burst. -/
theorem sum_cost_le (burst start : T) (requests : ℕ → Request T) (hij : i ≤ j) :
    ∑ k ∈ Finset.Icc i j, (requests k).cost ≤
      release burst start requests j - release burst start requests i +
        max burst (requests i).cost := by
  rw [sum_Icc_eq hij]
  set rest := ∑ k ∈ Finset.Ico (i + 1) (j + 1), (requests k).cost 
  have hserved : finish start requests (i + 1) + rest ≤ release burst start requests j + burst :=
    finish_add_sum_le_release hij
  rcases max_choice (requests i).arrival (finish start requests (i + 1) - burst) with hi | hi
  · -- the first request is released when it comes
    rw [show release burst start requests i = (requests i).arrival from hi]
    calc (requests i).cost + rest
        = (requests i).arrival + (requests i).cost + rest - (requests i).arrival := by abel
      _ ≤ finish start requests (i + 1) + rest - (requests i).arrival := by
          gcongr
          exact arrival_add_cost_le i
      _ ≤ release burst start requests j + burst - (requests i).arrival := by gcongr
      _ = release burst start requests j - (requests i).arrival + burst := by abel
      _ ≤ release burst start requests j - (requests i).arrival +
            max burst (requests i).cost := by
          gcongr
          exact le_max_left _ _
  · -- the first request is released the burst before the server is done with it
    rw [show release burst start requests i = finish start requests (i + 1) - burst from hi]
    calc (requests i).cost + rest
        = finish start requests (i + 1) + rest - finish start requests (i + 1) +
            (requests i).cost := by abel
      _ ≤ release burst start requests j + burst - finish start requests (i + 1) +
            (requests i).cost := by gcongr
      _ = release burst start requests j - (finish start requests (i + 1) - burst) +
            (requests i).cost := by abel
      _ ≤ release burst start requests j - (finish start requests (i + 1) - burst) +
            max burst (requests i).cost := by
          gcongr
          exact le_max_right _ _

/-- A request that costs more than the burst waits. -/
lemma cost_le_of_release_eq (h : release burst start requests i = (requests i).arrival) :
    (requests i).cost ≤ burst := by
  have hle : finish start requests (i + 1) - burst ≤ (requests i).arrival := by
    rw [← h]
    exact le_max_right _ _
  have hend : (requests i).arrival + (requests i).cost ≤ finish start requests (i + 1) :=
    arrival_add_cost_le i
  have hsum := hend.trans (sub_le_iff_le_add.mp hle)
  exact le_of_add_le_add_left hsum

/-- After a request that has waited, one with a cost is released later. -/
lemma release_lt_release (hij : i < j) (hwaits : release burst start requests i ≠
    (requests i).arrival) (hcost : ∀ k < j, 0 ≤ (requests k).cost)
    (hj : 0 < (requests j).cost) :
    release burst start requests i < release burst start requests j := by
  have hi : release burst start requests i = finish start requests (i + 1) - burst :=
    (max_choice _ _).resolve_left hwaits
  have hsum : finish start requests (i + 1) ≤ finish start requests j := by
    have hserved : finish start requests (i + 1) + ∑ k ∈ Finset.Ico (i + 1) j, (requests k).cost ≤
        finish start requests j := finish_add_sum_le (by omega)
    refine le_trans ?_ hserved
    refine le_add_of_nonneg_right (Finset.sum_nonneg fun k hk => hcost k ?_)
    exact (Finset.mem_Ico.mp hk).2
  rw [hi]
  calc finish start requests (i + 1) - burst
      < finish start requests (i + 1) + (requests j).cost - burst := by
        gcongr
        exact lt_add_of_pos_right _ hj
    _ ≤ finish start requests j + (requests j).cost - burst := by gcongr
    _ ≤ finish start requests (j + 1) - burst := by
        gcongr
        exact finish_add_cost_le j
    _ ≤ release burst start requests j := le_max_right _ _

/-- The first request that is released at a given time is bounded as the others are: it costs at
most the burst if a request with a cost is released at the same time. -/
lemma max_cost_le (hij : i ≤ j) (hsame : release burst start requests i =
    release burst start requests j) (hcost : ∀ k < j, 0 ≤ (requests k).cost)
    (hj : 0 < (requests j).cost) :
    max burst (requests i).cost ≤ max burst (requests j).cost := by
  rcases hij.eq_or_lt with rfl | hlt
  · exact le_rfl
  · have harrives : release burst start requests i = (requests i).arrival := by
      by_contra hwaits
      exact (release_lt_release hlt hwaits hcost hj).ne hsame
    refine max_le (le_max_left _ _) ?_
    exact (cost_le_of_release_eq harrives).trans (le_max_left _ _)

/-- **The cost of a period.**  The same bound for all requests that are released between two
points in time, those released at the two points included. -/
theorem sum_cost_between_le (burst start : T) (requests : ℕ → Request T) (hij : i ≤ j) (hj : j < n)
    (harrival : ∀ k, k + 1 < n → (requests k).arrival ≤ (requests (k + 1)).arrival)
    (hcost : ∀ k < n, 0 ≤ (requests k).cost) (hi : 0 < (requests i).cost) :
    ∑ k ∈ Finset.range n with release burst start requests i ≤ release burst start requests k ∧
        release burst start requests k ≤ release burst start requests j, (requests k).cost ≤
      release burst start requests j - release burst start requests i +
        max burst (requests i).cost := by
  classical
  set r := release burst start requests
  have hmono : ∀ {k l}, k ≤ l → l < n → r k ≤ r l :=
    fun hkl hl => release_le_release burst start requests hkl hl harrival hcost
  -- the first and the last request of the period
  let period := (Finset.range n).filter fun k => r i ≤ r k ∧ r k ≤ r j
  have hmem : ∀ k, k ∈ period ↔ k < n ∧ r i ≤ r k ∧ r k ≤ r j := by simp [period]
  have hne : period.Nonempty := ⟨i, (hmem i).mpr ⟨by omega, le_rfl, hmono hij hj⟩⟩
  obtain ⟨first, hfirst, hmin⟩ : ∃ first ∈ period, ∀ k ∈ period, first ≤ k :=
    ⟨_, period.min'_mem hne, period.min'_le⟩
  obtain ⟨last, hlast, hmax⟩ : ∃ last ∈ period, ∀ k ∈ period, k ≤ last :=
    ⟨_, period.max'_mem hne, period.le_max'⟩
  have hle : first ≤ i := hmin i ((hmem i).mpr ⟨by omega, le_rfl, hmono hij hj⟩)
  obtain ⟨hlastn, -, hlastj⟩ := (hmem last).mp hlast
  have hsame : r first = r i := le_antisymm (hmono hle (by omega)) ((hmem first).mp hfirst).2.1
  calc ∑ k ∈ period, (requests k).cost
      ≤ ∑ k ∈ Finset.Icc first last, (requests k).cost := by
        refine Finset.sum_le_sum_of_subset_of_nonneg
          (fun k hk => Finset.mem_Icc.mpr ⟨hmin k hk, hmax k hk⟩) fun k hk _ => hcost k ?_
        exact (Finset.mem_Icc.mp hk).2.trans_lt hlastn
    _ ≤ r last - r first + max burst (requests first).cost :=
        sum_cost_le burst start requests (hmin last hlast)
    _ ≤ r j - r i + max burst (requests i).cost := by
        rw [hsame]
        exact add_le_add (sub_le_sub_right hlastj _)
          (max_cost_le hle hsame (fun k hk => hcost k (by omega)) hi)

end Bounds

end VirtualSchedule
