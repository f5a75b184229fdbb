/-
# Notifications to waiting tasks

The notification primitive of an asynchronous runtime: tasks that wait stand in a queue, and a
notification goes to the first of them or to all.  A notification for one task that finds nobody is
stored, at most one of them, and the next task that would wait takes it.

A task waits through a future.  The future counts from its making on: a notification for all
completes it even if it is not yet in the queue.  When it is dropped with a notification for one
task that it has not consumed, it hands it on.

What is counted here is how many futures have such a notification: it goes down only where a
notification is consumed, or when nobody is left who could need it.
-/
import Mathlib.Algebra.BigOperators.Group.Finset.Basic
import Mathlib.Algebra.Order.BigOperators.Group.Finset

inductive Notification where
  | one
  | all
deriving DecidableEq, Repr

/-- The future of a waiting task. -/
inductive Notified where
  /-- There is no future, or it is dropped. -/
  | gone
  /-- Made, not in the queue; with the number of notifications for all at that time. -/
  | init (calls : ℕ)
  /-- It was put into the queue, and stands there until it has a notification. -/
  | waiting (notification : Option Notification)
  | done
deriving DecidableEq, Repr

/-- A notification for one task that the future has and has not consumed. -/
def Notified.ones : Notified → ℕ
  | .waiting (some .one) => 1
  | _ => 0

/-- The primitive, with the futures of the tasks. -/
structure Notify (ι : Type*) where
  permit : Bool
  /-- The number of notifications for all. -/
  calls : ℕ
  waiters : List ι
  future : ι → Notified

namespace Notify

variable {ι : Type*} [DecidableEq ι]

def new : Notify ι := ⟨false, 0, [], fun _ => .gone⟩

section Operations

variable (n : Notify ι) (i : ι)

def setFuture (state : Notified) : Notify ι := { n with future := Function.update n.future i state }

/-- A future is made. -/
def notified : Notify ι := n.setFuture i (.init n.calls)

/-- The future takes the stored notification, is completed by a notification for all, or goes to
the end of the queue. -/
def enable : Notify ι :=
  match n.future i with
  | .init calls =>
    if n.permit then { n.setFuture i .done with permit := false }
    else if calls ≠ n.calls then n.setFuture i .done
    else { n.setFuture i (.waiting none) with waiters := n.waiters ++ [i] }
  | _ => n

def notifyOne : Notify ι :=
  match n.waiters with
  | [] => { n with permit := true }
  | j :: rest => { n.setFuture j (.waiting (some .one)) with waiters := rest }

def notifyWaiters : Notify ι where
  permit := n.permit
  calls := n.calls + 1
  waiters := []
  future := fun j => if j ∈ n.waiters then .waiting (some .all) else n.future j

/-- The future is complete when it is polled. -/
def ready : Bool :=
  match n.future i with
  | .waiting (some _) | .done => true
  | _ => false

/-- The future is dropped. -/
def drop : Notify ι :=
  match n.future i with
  | .waiting none => { n.setFuture i .gone with waiters := n.waiters.erase i }
  | .waiting (some .one) => (n.setFuture i .gone).notifyOne
  | _ => n.setFuture i .gone

end Operations

/-! ## The queue -/

/-- The queue holds the futures that wait without a notification, each once; nobody waits while a
notification is stored. -/
structure WellFormed (n : Notify ι) : Prop where
  nodup : n.waiters.Nodup
  waiting : ∀ i, i ∈ n.waiters ↔ n.future i = .waiting none
  permit : n.permit = true → n.waiters = []

variable {n : Notify ι} {i : ι}

@[simp] lemma future_setFuture (n : Notify ι) (i j : ι) (state : Notified) :
    (n.setFuture i state).future j = if j = i then state else n.future j := by
  simp [setFuture, Function.update_apply]

omit [DecidableEq ι] in
lemma wellFormed_new : (new : Notify ι).WellFormed where
  nodup := List.nodup_nil
  waiting i := by simp [new]
  permit _ := rfl

/-- The future of a task that is not in the queue changes, and does not come into it. -/
lemma WellFormed.setFuture (h : n.WellFormed) (hi : n.future i ≠ .waiting none) {state : Notified}
    (hstate : state ≠ .waiting none) : (n.setFuture i state).WellFormed where
  nodup := h.nodup
  waiting j := by
    rw [future_setFuture]
    by_cases hj : j = i
    · subst hj
      simp only [if_true]
      exact iff_of_false (fun hmem => hi ((h.waiting j).mp hmem)) hstate
    · rw [if_neg hj]
      exact h.waiting j
  permit := h.permit

lemma WellFormed.notified (h : n.WellFormed) (hi : n.future i ≠ .waiting none) :
    (n.notified i).WellFormed :=
  h.setFuture hi (by simp)

lemma WellFormed.enable (h : n.WellFormed) (i : ι) : (n.enable i).WellFormed := by
  unfold Notify.enable
  split
  · rename_i calls hfuture
    have hi : n.future i ≠ .waiting none := by simp [hfuture]
    have hnot : i ∉ n.waiters := fun hmem => hi ((h.waiting i).mp hmem)
    have hdone : (n.setFuture i .done).WellFormed := h.setFuture hi (by simp)
    split_ifs with hpermit hcalls
    · exact ⟨hdone.nodup, hdone.waiting, fun hp => by simp at hp⟩
    · exact hdone
    · refine ⟨?_, fun j => ?_, fun hp => absurd hp hpermit⟩
      · rw [List.nodup_append]
        refine ⟨h.nodup, List.nodup_singleton i, ?_⟩
        rintro a ha b hb rfl
        exact hnot (List.mem_singleton.mp hb ▸ ha)
      · show j ∈ n.waiters ++ [i] ↔ (n.setFuture i (.waiting none)).future j = .waiting none
        rw [List.mem_append, List.mem_singleton, future_setFuture, h.waiting]
        by_cases hj : j = i
        · simp [hj]
        · simp [hj]
  · exact h

lemma WellFormed.notifyOne (h : n.WellFormed) : n.notifyOne.WellFormed := by
  unfold Notify.notifyOne
  split
  · rename_i hnone
    exact ⟨h.nodup, h.waiting, fun _ => hnone⟩
  · rename_i j rest hwaiters
    obtain ⟨hj, hrest⟩ := List.nodup_cons.mp (hwaiters ▸ h.nodup)
    refine ⟨hrest, fun k => ?_, fun hp => ?_⟩
    · show k ∈ rest ↔ (n.setFuture j (.waiting (some .one))).future k = .waiting none
      rw [future_setFuture]
      by_cases hk : k = j
      · subst hk
        simp [hj]
      · rw [if_neg hk, ← h.waiting, hwaiters]
        simp [hk]
    · have hnil := h.permit hp
      rw [hwaiters] at hnil
      cases hnil

lemma WellFormed.notifyWaiters (h : n.WellFormed) : n.notifyWaiters.WellFormed where
  nodup := List.nodup_nil
  waiting j := by
    show j ∈ [] ↔ (if j ∈ n.waiters then _ else n.future j) = Notified.waiting none
    split_ifs with hj
    · simp
    · simp [← h.waiting, hj]
  permit _ := rfl

lemma WellFormed.drop (h : n.WellFormed) (i : ι) : (n.drop i).WellFormed := by
  unfold Notify.drop
  split
  · refine ⟨h.nodup.erase i, fun j => ?_, fun hp => ?_⟩
    · show j ∈ n.waiters.erase i ↔ (n.setFuture i .gone).future j = .waiting none
      rw [h.nodup.mem_erase_iff, future_setFuture, h.waiting]
      by_cases hj : j = i
      · simp [hj]
      · simp [hj]
    · show n.waiters.erase i = []
      rw [h.permit hp]
      rfl
  · rename_i hfuture
    exact (h.setFuture (by simp [hfuture]) (by simp)).notifyOne
  · rename_i hfuture _
    exact h.setFuture hfuture (by simp)

lemma future_enable_of_ne (n : Notify ι) {j : ι} (hj : j ≠ i) :
    (n.enable i).future j = n.future j := by
  unfold enable
  split
  · split_ifs
    · exact Function.update_of_ne hj _ _
    · exact Function.update_of_ne hj _ _
    · exact Function.update_of_ne hj _ _
  · rfl

/-- A future that is enabled is complete or waits. -/
lemma future_enable {calls : ℕ} (h : n.future i = .init calls) :
    (n.enable i).future i = .done ∨
      ∃ notification, (n.enable i).future i = .waiting notification := by
  simp only [enable, h]
  split_ifs
  · exact Or.inl (Function.update_self _ _ _)
  · exact Or.inl (Function.update_self _ _ _)
  · exact Or.inr ⟨none, Function.update_self _ _ _⟩

/-- Of the futures, only one that waits gets the notification. -/
lemma WellFormed.future_notifyOne (h : n.WellFormed) (j : ι) :
    n.notifyOne.future j = n.future j ∨
      n.future j = .waiting none ∧ n.notifyOne.future j = .waiting (some .one) := by
  unfold Notify.notifyOne
  split
  · exact Or.inl rfl
  · rename_i k rest hwaiters
    show (n.setFuture k (.waiting (some .one))).future j = n.future j ∨ _ ∧
      (n.setFuture k (.waiting (some .one))).future j = .waiting (some .one)
    rw [future_setFuture]
    by_cases hj : j = k
    · subst hj
      right
      refine ⟨(h.waiting j).mp ?_, if_pos rfl⟩
      rw [hwaiters]
      exact List.mem_cons_self
    · exact Or.inl (if_neg hj)

lemma WellFormed.future_drop (h : n.WellFormed) (i : ι) : (n.drop i).future i = .gone := by
  unfold Notify.drop
  split
  · exact Function.update_self _ _ _
  · rename_i hfuture
    have hwell : (n.setFuture i .gone).WellFormed := h.setFuture (by simp [hfuture]) (by simp)
    rcases hwell.future_notifyOne i with heq | ⟨hwaiting, -⟩
    · exact heq.trans (Function.update_self _ _ _)
    · rw [future_setFuture, if_pos rfl] at hwaiting
      cases hwaiting
  · exact Function.update_self _ _ _

lemma WellFormed.future_drop_of_ne (h : n.WellFormed) {j : ι} (hj : j ≠ i) :
    (n.drop i).future j = n.future j ∨
      n.future j = .waiting none ∧ (n.drop i).future j = .waiting (some .one) := by
  have hsame : (n.setFuture i .gone).future j = n.future j := Function.update_of_ne hj _ _
  unfold Notify.drop
  split
  · exact Or.inl hsame
  · rename_i hfuture
    have hwell : (n.setFuture i .gone).WellFormed := h.setFuture (by simp [hfuture]) (by simp)
    rw [← hsame]
    exact hwell.future_notifyOne j
  · exact Or.inl hsame

/-! ## Notifications under way -/

lemma ones_le_one (state : Notified) : state.ones ≤ 1 := by
  unfold Notified.ones
  split
  · exact Nat.le_refl 1
  · exact Nat.zero_le 1

/-- The notifications for one task that futures of `S` have and have not consumed. -/
def ones (S : Finset ι) (n : Notify ι) : ℕ := ∑ i ∈ S, (n.future i).ones

variable {S : Finset ι}

/-- A sum in which one term changes. -/
lemma sum_of_eq_off {f g : ι → ℕ} (hi : i ∈ S) (h : ∀ j ∈ S, j ≠ i → g j = f j) :
    ∑ j ∈ S, g j + f i = ∑ j ∈ S, f j + g i := by
  have hrest : ∑ j ∈ S.erase i, g j = ∑ j ∈ S.erase i, f j := Finset.sum_congr rfl fun j hj =>
    h j (Finset.mem_of_mem_erase hj) (Finset.ne_of_mem_erase hj)
  rw [← Finset.add_sum_erase S f hi, ← Finset.add_sum_erase S g hi, hrest]
  omega

lemma ones_setFuture (hi : i ∈ S) (n : Notify ι) (state : Notified) :
    ones S (n.setFuture i state) + (n.future i).ones = ones S n + state.ones := by
  have hsum := sum_of_eq_off (S := S) (f := fun j => (n.future j).ones)
    (g := fun j => ((n.setFuture i state).future j).ones) hi fun j _ hj => by
      simp [hj]
  simpa [ones] using hsum

lemma ones_notified (hi : i ∈ S) (hfuture : (n.future i).ones = 0) :
    ones S (n.notified i) = ones S n := by
  have hsum := ones_setFuture hi n (.init n.calls)
  rw [hfuture] at hsum
  exact hsum

lemma ones_enable (hi : i ∈ S) (n : Notify ι) : ones S (n.enable i) = ones S n := by
  unfold enable
  split
  · rename_i calls hfuture
    have hdone := ones_setFuture hi n .done
    have hwaiting := ones_setFuture hi n (.waiting none)
    rw [hfuture] at hdone hwaiting
    split_ifs
    · exact hdone
    · exact hdone
    · exact hwaiting
  · rfl

/-- A notification reaches a waiting task, if there is one. -/
lemma ones_notifyOne (h : n.WellFormed) (hS : ∀ i ∈ n.waiters, i ∈ S) :
    n.notifyOne.waiters = [] ∨ ones S n.notifyOne = ones S n + 1 := by
  unfold notifyOne
  split
  · rename_i hnone
    exact Or.inl hnone
  · rename_i j rest hwaiters
    right
    have hj : j ∈ n.waiters := by
      rw [hwaiters]
      exact List.mem_cons_self
    have hsum := ones_setFuture (hS j hj) n (.waiting (some .one))
    rw [(h.waiting j).mp hj] at hsum
    exact hsum

/-- **A dropped future loses no notification**, unless nobody waits. -/
lemma ones_drop (h : n.WellFormed) (hS : ∀ i ∈ n.waiters, i ∈ S) (hi : i ∈ S) :
    (n.drop i).waiters = [] ∨ ones S (n.drop i) = ones S n := by
  have hgone := ones_setFuture hi n .gone
  unfold drop
  split
  · rename_i hfuture
    right
    rw [hfuture] at hgone
    exact hgone
  · rename_i hfuture
    rw [hfuture] at hgone
    have hwell : (n.setFuture i .gone).WellFormed := h.setFuture (by simp [hfuture]) (by simp)
    refine (ones_notifyOne hwell hS).imp_right fun hsum => ?_
    simp only [Notified.ones] at hgone
    omega
  · rename_i hnot
    right
    have hzero : (n.future i).ones = 0 := by
      unfold Notified.ones
      split
      · rename_i hone
        exact absurd hone hnot
      · rfl
    rw [hzero] at hgone
    exact hgone

end Notify
