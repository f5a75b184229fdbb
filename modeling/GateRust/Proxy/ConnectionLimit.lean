/-
# The limit of the connections of the proxy

`ConnectionLimit` of `connection.rs` counts the permits in an atomic counter.  A call of `acquire`
registers for a notification, reads the counter and the maximum, and tries to exchange the counter;
when there is no room it waits for the notification.  A permit that is dropped decreases the counter
and notifies one waiting call; `set_maximum` stores the maximum and notifies all.

Every atomic operation is a step, in any order between any number of calls.  A notification for one
call may go to a call that does not need it; what keeps the others from waiting for nothing is that
as many calls are on their way as there are free permits.
-/
import GateRust.Lib.Machine
import GateRust.Lib.Notify
import Mathlib.Algebra.BigOperators.Group.Finset.Piecewise

namespace GateRust.Proxy

open Machine

/-- Where a call of `acquire` stands, and its permit after it has returned. -/
inductive AcquireStage where
  /-- The call has not begun. -/
  | absent
  | started
  /-- `notified` is made. -/
  | registered
  | enabled
  | loadedActive (active : ℕ)
  /-- The maximum is read, and there is room. -/
  | exchanging (active maximum : ℕ)
  /-- The counter is exchanged; `notified` is still to be dropped. -/
  | granted
  /-- The exchange has failed, or `notified` is complete; it is still to be dropped. -/
  | retrying
  /-- There is no room; the call is in `select!`. -/
  | parked
  /-- The call is cancelled; `notified` is still to be dropped. -/
  | refused
  /-- The permit is returned. -/
  | holding
  /-- The permit is being dropped: the counter is decreased. -/
  | dropping
  | ended
deriving DecidableEq, Repr

structure ConnectionLimit where
  maximum : ℕ
  active : ℕ
  changed : Notify ℕ
  stage : ℕ → AcquireStage
  /-- The number of calls of `acquire`. -/
  calls : ℕ
  /-- The calls of `set_maximum` that have stored the maximum and have not notified. -/
  storing : ℕ

namespace ConnectionLimit

def new (maximum : ℕ) : ConnectionLimit := ⟨maximum, 0, .new, fun _ => .absent, 0, 0⟩

inductive Event where
  | acquire
  | notified (call : ℕ)
  | enable (call : ℕ)
  | loadActive (call : ℕ)
  | loadMaximum (call : ℕ)
  /-- The weak exchange may also fail when the counter has the value that it expects. -/
  | compareExchange (call : ℕ) (spurious : Bool)
  /-- `select!` finds `notified` complete. -/
  | ready (call : ℕ)
  /-- `select!` finds the call cancelled, or its future is dropped there. -/
  | cancelled (call : ℕ)
  /-- The scope of `notified` ends. -/
  | leave (call : ℕ)
  | fetchSub (call : ℕ)
  | notifyOne (call : ℕ)
  | store (maximum : ℕ)
  | notifyWaiters
deriving DecidableEq, Repr

section Steps

variable (s : ConnectionLimit) (call : ℕ)

def setStage (stage : AcquireStage) : ConnectionLimit :=
  { s with stage := Function.update s.stage call stage }

def compareExchange (active : ℕ) (spurious : Bool) : ConnectionLimit :=
  if s.active = active ∧ spurious = false then
    { s.setStage call .granted with active := active + 1 }
  else s.setStage call .retrying

/-- The call goes on to the given stage without its `notified`. -/
def leave (stage : AcquireStage) : ConnectionLimit :=
  { s.setStage call stage with changed := s.changed.drop call }

end Steps

def step (s : ConnectionLimit) : Event → Option ConnectionLimit
  | .acquire => some { s.setStage s.calls .started with calls := s.calls + 1 }
  | .notified call =>
    match s.stage call with
    | .started => some { s.setStage call .registered with changed := s.changed.notified call }
    | _ => none
  | .enable call =>
    match s.stage call with
    | .registered => some { s.setStage call .enabled with changed := s.changed.enable call }
    | _ => none
  | .loadActive call =>
    match s.stage call with
    | .enabled => some (s.setStage call (.loadedActive s.active))
    | _ => none
  | .loadMaximum call =>
    match s.stage call with
    | .loadedActive active =>
      if active < s.maximum then some (s.setStage call (.exchanging active s.maximum))
      else some (s.setStage call .parked)
    | _ => none
  | .compareExchange call spurious =>
    match s.stage call with
    | .exchanging active _ => some (s.compareExchange call active spurious)
    | _ => none
  | .ready call =>
    match s.stage call with
    | .parked =>
      if s.changed.ready call then
        some { s.setStage call .retrying with changed := s.changed.setFuture call .done }
      else none
    | _ => none
  | .cancelled call =>
    match s.stage call with
    | .parked => some (s.setStage call .refused)
    | _ => none
  | .leave call =>
    match s.stage call with
    | .granted => some (s.leave call .holding)
    | .retrying => some (s.leave call .started)
    | .refused => some (s.leave call .ended)
    | _ => none
  | .fetchSub call =>
    match s.stage call with
    | .holding => some { s.setStage call .dropping with active := s.active - 1 }
    | _ => none
  | .notifyOne call =>
    match s.stage call with
    | .dropping => some { s.setStage call .ended with changed := s.changed.notifyOne }
    | _ => none
  | .store maximum => some { s with maximum, storing := s.storing + 1 }
  | .notifyWaiters =>
    if s.storing = 0 then none
    else some { s with storing := s.storing - 1, changed := s.changed.notifyWaiters }

/-! ## Permits and calls -/

/-- The permits that are live, from the exchange of the counter on. -/
def permits (s : ConnectionLimit) : ℕ :=
  ((Finset.range s.calls).filter fun call =>
    s.stage call = .granted ∨ s.stage call = .holding).card

/-- The call waits in `select!` with a notification. -/
def Pending (s : ConnectionLimit) (call : ℕ) : Prop :=
  s.stage call = .parked ∧ s.changed.ready call = true

instance (s : ConnectionLimit) (call : ℕ) : Decidable (s.Pending call) :=
  inferInstanceAs (Decidable (_ ∧ _))

/-- No call of `acquire` runs, and nothing is between an update and its notification. -/
def Quiet (s : ConnectionLimit) : Prop :=
  s.storing = 0 ∧ ∀ call, s.stage call = .absent ∨ s.stage call = .parked ∨
    s.stage call = .holding ∨ s.stage call = .ended

end ConnectionLimit

/-! ## Calls on their way -/

namespace AcquireStage

def holds : AcquireStage → ℕ
  | .granted | .holding => 1
  | _ => 0

/-- The call will still see whether there is room for a `k`-th permit, or its permit is about to
notify another one. -/
def runs (k : ℕ) : AcquireStage → ℕ
  | .started | .registered | .enabled | .exchanging _ _ | .retrying | .dropping => 1
  | .loadedActive active => if active < k then 1 else 0
  | _ => 0

/-- The future that a call has in the stage. -/
def Fits : AcquireStage → Notified → Prop
  | .absent, f | .started, f | .holding, f | .dropping, f | .ended, f => f = .gone
  | .registered, f => ∃ calls, f = .init calls
  | .enabled, f | .loadedActive _, f | .exchanging _ _, f | .granted, f | .retrying, f | .parked, f
  | .refused, f => f = .done ∨ ∃ notification, f = .waiting notification

/-- The call will not take a `k`-th permit before it is notified. -/
def Waits (k : ℕ) : AcquireStage → Prop
  | .parked => True
  | .loadedActive active => k ≤ active
  | _ => False

/-- A notification does not change what kind of future it is. -/
lemma Fits.notify {stage : AcquireStage} (h : stage.Fits (.waiting none))
    (notification : Notification) : stage.Fits (.waiting (some notification)) := by
  cases stage
  case absent | started | holding | dropping | ended => cases h
  case registered =>
    obtain ⟨calls, hcalls⟩ := h
    cases hcalls
  all_goals exact Or.inr ⟨_, rfl⟩

end AcquireStage

namespace ConnectionLimit

variable {s s' : ConnectionLimit} {call : ℕ}

def total (w : AcquireStage → ℕ) (s : ConnectionLimit) : ℕ :=
  ∑ call ∈ Finset.range s.calls, w (s.stage call)

/-- The permits, the calls on their way and the notifications for one call. -/
def covered (k : ℕ) (s : ConnectionLimit) : ℕ :=
  s.active + s.total (AcquireStage.runs k) + s.changed.ones (Finset.range s.calls)

/-- The call will not take a `k`-th permit before it is notified. -/
def Blocked (k : ℕ) (s : ConnectionLimit) (call : ℕ) : Prop :=
  s.changed.future call = .waiting none ∧
    (s.stage call = .parked ∨ ∃ active, s.stage call = .loadedActive active ∧ k ≤ active)

/-- **The invariant.**  While a call is blocked, the permits and what is on its way make up the
maximum, and every smaller number. -/
structure Inv (s : ConnectionLimit) : Prop where
  changed : s.changed.WellFormed
  unused : ∀ call, s.calls ≤ call → s.stage call = .absent
  future : ∀ call, (s.stage call).Fits (s.changed.future call)
  active : s.active = s.total AcquireStage.holds
  exchanging : ∀ call active maximum, s.stage call = .exchanging active maximum → active < maximum
  covered : s.storing = 0 → ∀ k ≤ s.maximum, ∀ call, s.Blocked k call → k ≤ s.covered k

lemma blocked_iff {k : ℕ} : s.Blocked k call ↔
    s.changed.future call = .waiting none ∧ (s.stage call).Waits k := by
  rw [Blocked]
  cases s.stage call <;> simp [AcquireStage.Waits]

@[simp] lemma setStage_active (s : ConnectionLimit) (call : ℕ) (stage : AcquireStage) :
    (s.setStage call stage).active = s.active := rfl

@[simp] lemma setStage_changed (s : ConnectionLimit) (call : ℕ) (stage : AcquireStage) :
    (s.setStage call stage).changed = s.changed := rfl

lemma total_setStage (w : AcquireStage → ℕ) (s : ConnectionLimit) (hcall : call < s.calls)
    (stage : AcquireStage) :
    (s.setStage call stage).total w + w (s.stage call) = s.total w + w stage := by
  have hsum := Notify.sum_of_eq_off (S := Finset.range s.calls) (f := fun j => w (s.stage j))
    (g := fun j => w ((s.setStage call stage).stage j)) (Finset.mem_range.mpr hcall)
    fun j _ hj => by simp [setStage, Function.update_of_ne hj]
  simpa [total, setStage] using hsum

lemma Inv.fits (h : Inv s) {stage : AcquireStage} (hstage : s.stage call = stage) :
    stage.Fits (s.changed.future call) := hstage ▸ h.future call

lemma Inv.lt_calls (h : Inv s) (hstage : s.stage call ≠ .absent) : call < s.calls := by
  by_contra hle
  exact hstage (h.unused call (Nat.le_of_not_lt hle))

/-- The calls in the queue have begun. -/
lemma Inv.waiters_subset (h : Inv s) : ∀ i ∈ s.changed.waiters, i ∈ Finset.range s.calls := by
  intro i hi
  have hwaiting := (h.changed.waiting i).mp hi
  refine Finset.mem_range.mpr (h.lt_calls fun hnone => ?_)
  cases hwaiting.symm.trans (h.fits hnone)

/-- **A step of one call.**  The sum of what covers the maximum does not decrease, unless nobody
waits any more or the counter itself is high enough. -/
lemma Inv.move (h : Inv s) {stage : AcquireStage} {active : ℕ} {changed : Notify ℕ}
    (hcall : s.stage call ≠ .absent) (hchanged : changed.WellFormed)
    (hfuture : stage.Fits (changed.future call))
    (hothers : ∀ j, j ≠ call → changed.future j = s.changed.future j ∨
      s.changed.future j = .waiting none ∧ changed.future j = .waiting (some .one))
    (hactive : active + (s.stage call).holds = s.active + stage.holds)
    (hexchanging : ∀ a m, stage = .exchanging a m → a < m)
    (hcovered : ∀ k ≤ s.maximum, changed.waiters = [] ∨ k ≤ active ∨
      s.active + (s.stage call).runs k + s.changed.ones (Finset.range s.calls) ≤
        active + stage.runs k + changed.ones (Finset.range s.calls))
    (hblocked : ∀ k ≤ s.maximum, changed.future call = .waiting none → stage.Waits k →
      s.Blocked k call ∨ k ≤ active) :
    Inv { s.setStage call stage with active, changed } := by
  have hlt := h.lt_calls hcall
  have hsame : ∀ j, j ≠ call → (s.setStage call stage).stage j = s.stage j :=
    fun j hj => Function.update_of_ne hj _ _
  have hself : (s.setStage call stage).stage call = stage := Function.update_self _ _ _
  refine ⟨hchanged, fun j hj => ?_, fun j => ?_, ?_, fun j a m hj => ?_,
    fun hstoring k hk j hj => ?_⟩
  · have hle : s.calls ≤ j := hj
    show (s.setStage call stage).stage j = .absent
    rw [hsame j (by omega)]
    exact h.unused j hle
  · show ((s.setStage call stage).stage j).Fits (changed.future j)
    by_cases hne : j = call
    · subst hne
      rw [hself]
      exact hfuture
    · rw [hsame j hne]
      have hfits := h.future j
      rcases hothers j hne with heq | ⟨hwaiting, hone⟩
      · rw [heq]
        exact hfits
      · rw [hwaiting] at hfits
        rw [hone]
        exact hfits.notify .one
  · have htotal := total_setStage AcquireStage.holds s hlt stage
    show active = (s.setStage call stage).total AcquireStage.holds
    have hold := h.active
    omega
  · by_cases hne : j = call
    · subst hne
      exact hexchanging a m (hself.symm.trans hj)
    · rw [hsame j hne] at hj
      exact h.exchanging j a m hj
  · have htotal := total_setStage (AcquireStage.runs k) s hlt stage
    show k ≤ active + (s.setStage call stage).total (AcquireStage.runs k) +
      changed.ones (Finset.range s.calls)
    obtain ⟨hwaiting, hwaits⟩ := blocked_iff.mp hj
    dsimp only at hwaiting hwaits
    -- the call was blocked before, or the counter is high enough
    have hbefore : (∃ i, s.Blocked k i) ∨ k ≤ active := by
      by_cases hne : j = call
      · subst hne
        rw [hself] at hwaits
        exact (hblocked k hk hwaiting hwaits).imp_left fun hb => ⟨j, hb⟩
      · rw [hsame j hne] at hwaits
        rcases hothers j hne with heq | ⟨-, hone⟩
        · exact Or.inl ⟨j, blocked_iff.mpr ⟨heq.symm.trans hwaiting, hwaits⟩⟩
        · cases hone.symm.trans hwaiting
    rcases hbefore with ⟨i, hi⟩ | hle
    · have hsum := h.covered hstoring k hk i hi
      rcases hcovered k hk with hnone | hle | hle
      · have hmem := (hchanged.waiting j).mpr hwaiting
        rw [hnone] at hmem
        cases hmem
      · omega
      · simp only [ConnectionLimit.covered] at hsum
        omega
    · omega

/-! ### The steps -/

lemma Inv.notified (h : Inv s) (hstage : s.stage call = .started) :
    Inv { s.setStage call .registered with changed := s.changed.notified call } := by
  have hgone : s.changed.future call = .gone := h.fits hstage
  have hlt : call < s.calls := h.lt_calls (by simp [hstage])
  have hones := Notify.ones_notified (Finset.mem_range.mpr hlt) (n := s.changed)
    (by rw [hgone]; rfl)
  refine h.move (by simp [hstage]) (h.changed.notified (by simp [hgone]))
    ⟨_, Function.update_self _ _ _⟩ (fun j hj => Or.inl (Function.update_of_ne hj _ _))
    (by rw [hstage]; rfl) (fun a m heq => by cases heq) (fun k _ => ?_) fun k _ hwaiting _ => ?_
  · right; right
    rw [hstage, hones]
    exact Nat.le_refl _
  · rw [Notify.notified, Notify.future_setFuture, if_pos rfl] at hwaiting
    cases hwaiting

lemma Inv.enable (h : Inv s) (hstage : s.stage call = .registered) :
    Inv { s.setStage call .enabled with changed := s.changed.enable call } := by
  have hlt : call < s.calls := h.lt_calls (by simp [hstage])
  have hones := Notify.ones_enable (Finset.mem_range.mpr hlt) s.changed
  obtain ⟨calls, hinit⟩ : ∃ calls, s.changed.future call = .init calls := h.fits hstage
  refine h.move (by simp [hstage]) (h.changed.enable call) (Notify.future_enable hinit)
    (fun j hj => Or.inl (Notify.future_enable_of_ne _ hj)) (by rw [hstage]; rfl)
    (fun a m heq => by cases heq) (fun k _ => ?_) fun k _ _ hwaits => hwaits.elim
  right; right
  rw [hstage, hones]
  exact Nat.le_refl _

/-- A step that leaves the notifications alone. -/
lemma Inv.moveStage (h : Inv s) {stage : AcquireStage} {active : ℕ} (hcall : s.stage call ≠ .absent)
    (hfuture : ∀ f, (s.stage call).Fits f → stage.Fits f)
    (hactive : active + (s.stage call).holds = s.active + stage.holds)
    (hexchanging : ∀ a m, stage = .exchanging a m → a < m)
    (hcovered : ∀ k ≤ s.maximum, k ≤ active ∨
      s.active + (s.stage call).runs k ≤ active + stage.runs k)
    (hwaits : ∀ k ≤ s.maximum, stage.Waits k → (s.stage call).Waits k ∨ k ≤ active) :
    Inv { s.setStage call stage with active } := by
  refine h.move hcall h.changed (hfuture _ (h.future call)) (fun j _ => Or.inl rfl)
    hactive hexchanging (fun k hk => Or.inr ((hcovered k hk).imp_right fun hle => ?_))
    fun k hk hwaiting hnew => (hwaits k hk hnew).imp_left fun hold =>
      blocked_iff.mpr ⟨hwaiting, hold⟩
  rw [setStage_changed]
  omega

lemma Inv.loadActive (h : Inv s) (hstage : s.stage call = .enabled) :
    Inv (s.setStage call (.loadedActive s.active)) := by
  refine h.moveStage (by simp [hstage]) (by rw [hstage]; exact fun _ hf => hf)
    (by rw [hstage]; rfl)
    (fun a m heq => by cases heq) (fun k _ => ?_) fun k _ hwaits => Or.inr hwaits
  by_cases hk : k ≤ s.active
  · exact Or.inl hk
  · right
    rw [hstage]
    simp [AcquireStage.runs, Nat.lt_of_not_le hk]

lemma Inv.exchangeable (h : Inv s) {active : ℕ} (hstage : s.stage call = .loadedActive active)
    (hroom : active < s.maximum) :
    Inv (s.setStage call (.exchanging active s.maximum)) := by
  refine h.moveStage (by simp [hstage]) (by rw [hstage]; exact fun _ hf => hf)
    (by rw [hstage]; rfl) ?_ (fun k _ => Or.inr ?_) fun k _ hwaits => hwaits.elim
  · rintro a m heq
    cases heq
    exact hroom
  · rw [hstage]
    simp only [AcquireStage.runs]
    split_ifs <;> omega

lemma Inv.park (h : Inv s) {active : ℕ} (hstage : s.stage call = .loadedActive active)
    (hfull : s.maximum ≤ active) : Inv (s.setStage call .parked) := by
  refine h.moveStage (by simp [hstage]) (by rw [hstage]; exact fun _ hf => hf)
    (by rw [hstage]; rfl)
    (fun a m heq => by cases heq) (fun k hk => Or.inr ?_) fun k hk _ => Or.inl ?_
  · rw [hstage]
    simp only [AcquireStage.runs]
    rw [if_neg (by omega)]
  · rw [hstage]
    show k ≤ active
    omega

lemma Inv.compareExchange (h : Inv s) {active maximum : ℕ}
    (hstage : s.stage call = .exchanging active maximum) (spurious : Bool) :
    Inv (s.compareExchange call active spurious) := by
  unfold ConnectionLimit.compareExchange
  split_ifs with hexchange
  · obtain ⟨rfl, -⟩ := hexchange
    refine h.moveStage (by simp [hstage]) (by rw [hstage]; exact fun _ hf => hf)
      (by rw [hstage]; rfl) (fun a m heq => by cases heq) (fun k _ => Or.inr ?_)
      fun k _ hwaits => hwaits.elim
    rw [hstage]
    exact Nat.le_refl _
  · refine h.moveStage (by simp [hstage]) (by rw [hstage]; exact fun _ hf => hf)
      (by rw [hstage]; rfl) (fun a m heq => by cases heq) (fun k _ => Or.inr ?_)
      fun k _ hwaits => hwaits.elim
    rw [hstage]
    exact Nat.le_refl _

/-- A call that has a notification goes on; the notification is consumed. -/
lemma Inv.ready (h : Inv s) (hstage : s.stage call = .parked)
    (hready : s.changed.ready call = true) :
    Inv { s.setStage call .retrying with changed := s.changed.setFuture call .done } := by
  have hlt : call < s.calls := h.lt_calls (by simp [hstage])
  have hnot : s.changed.future call ≠ .waiting none := by
    intro hwaiting
    simp [Notify.ready, hwaiting] at hready
  have hones := Notify.ones_setFuture (Finset.mem_range.mpr hlt) s.changed .done
  have hle := Notify.ones_le_one (s.changed.future call)
  have hdone : Notified.ones .done = 0 := rfl
  refine h.move (by simp [hstage]) (h.changed.setFuture hnot (by simp))
    (Or.inl (Function.update_self _ _ _)) (fun j hj => Or.inl (Function.update_of_ne hj _ _))
    (by rw [hstage]; rfl) (fun a m heq => by cases heq) (fun k _ => ?_)
    fun k _ _ hwaits => hwaits.elim
  right; right
  rw [hstage]
  simp only [AcquireStage.runs, setStage_active]
  omega

lemma Inv.cancelled (h : Inv s) (hstage : s.stage call = .parked) :
    Inv (s.setStage call .refused) := by
  refine h.moveStage (by simp [hstage]) (by rw [hstage]; exact fun _ hf => hf)
    (by rw [hstage]; rfl)
    (fun a m heq => by cases heq) (fun k _ => Or.inr ?_) fun k _ hwaits => hwaits.elim
  rw [hstage]
  exact Nat.le_refl _

/-- The end of the scope of `notified`: what it has not consumed goes on to another call. -/
lemma Inv.leave (h : Inv s) {stage : AcquireStage} (hcall : s.stage call ≠ .absent)
    (hfuture : stage.Fits .gone) (hholds : (s.stage call).holds = stage.holds)
    (hruns : ∀ k, (s.stage call).runs k = stage.runs k) : Inv (s.leave call stage) := by
  have hlt := h.lt_calls hcall
  have hgone := h.changed.future_drop call
  refine h.move hcall (h.changed.drop call) (by rw [hgone]; exact hfuture)
    (fun j hj => h.changed.future_drop_of_ne hj) (by rw [hholds, setStage_active])
    (fun a m heq => ?_) (fun k _ => ?_) fun k _ hwaiting _ => ?_
  · subst heq
    rcases hfuture with hdone | ⟨_, hwaiting⟩
    · cases hdone
    · cases hwaiting
  · refine (Notify.ones_drop h.changed h.waiters_subset (Finset.mem_range.mpr hlt)).imp_right
      fun hones => Or.inr ?_
    rw [hruns, hones, setStage_active]
  · cases hgone.symm.trans hwaiting

lemma Inv.fetchSub (h : Inv s) (hstage : s.stage call = .holding) :
    Inv { s.setStage call .dropping with active := s.active - 1 } := by
  have hlt : call < s.calls := h.lt_calls (by simp [hstage])
  -- the permit is one of those that are counted
  have hpos : 1 ≤ s.active := by
    have hle := Finset.single_le_sum (f := fun j => (s.stage j).holds) (fun _ _ => Nat.zero_le _)
      (Finset.mem_range.mpr hlt)
    rw [hstage] at hle
    rw [h.active]
    exact hle
  refine h.moveStage (by simp [hstage]) (by rw [hstage]; exact fun _ hf => hf) ?_
    (fun a m heq => by cases heq) (fun k _ => Or.inr ?_) fun k _ hwaits => hwaits.elim
  · rw [hstage]
    simp only [AcquireStage.holds]
    omega
  · rw [hstage]
    simp only [AcquireStage.runs]
    omega

lemma Inv.notifyOne (h : Inv s) (hstage : s.stage call = .dropping) :
    Inv { s.setStage call .ended with changed := s.changed.notifyOne } := by
  have hgone : s.changed.future call = .gone := h.fits hstage
  have hself : s.changed.notifyOne.future call = .gone := by
    rcases h.changed.future_notifyOne call with heq | ⟨hwaiting, -⟩
    · exact heq.trans hgone
    · rw [hgone] at hwaiting
      cases hwaiting
  refine h.move (by simp [hstage]) h.changed.notifyOne hself
    (fun j _ => h.changed.future_notifyOne j) (by rw [hstage]; rfl)
    (fun a m heq => by cases heq) (fun k _ => ?_) fun k _ hwaiting _ => ?_
  · refine (Notify.ones_notifyOne h.changed h.waiters_subset).imp_right fun hones => Or.inr ?_
    rw [hstage, hones]
    simp only [AcquireStage.runs, setStage_active]
    omega
  · rw [hself] at hwaiting
    cases hwaiting

lemma Inv.notifyWaiters (h : Inv s) :
    Inv { s with storing := s.storing - 1, changed := s.changed.notifyWaiters } := by
  refine ⟨h.changed.notifyWaiters, h.unused, fun j => ?_, h.active, h.exchanging,
    fun _ k _ j hj => ?_⟩
  · have hfits := h.future j
    show (s.stage j).Fits (if j ∈ s.changed.waiters then _ else s.changed.future j)
    split_ifs with hmem
    · rw [(h.changed.waiting j).mp hmem] at hfits
      exact hfits.notify .all
    · exact hfits
  · -- nobody waits without a notification
    have hmem := (h.changed.notifyWaiters.waiting j).mpr hj.1
    cases hmem

lemma Inv.acquire (h : Inv s) :
    Inv { s.setStage s.calls .started with calls := s.calls + 1 } := by
  have hunused : s.stage s.calls = .absent := h.unused _ (Nat.le_refl _)
  have hgone : s.changed.future s.calls = .gone := h.fits hunused
  have hsame : ∀ j, j ≠ s.calls → (s.setStage s.calls .started).stage j = s.stage j :=
    fun j hj => Function.update_of_ne hj _ _
  have hself : (s.setStage s.calls .started).stage s.calls = .started :=
    Function.update_self _ _ _
  have htotal : ∀ w : AcquireStage → ℕ,
      ∑ j ∈ Finset.range (s.calls + 1), w ((s.setStage s.calls .started).stage j) =
        s.total w + w .started := by
    intro w
    rw [Finset.sum_range_succ, hself]
    congr 1
    refine Finset.sum_congr rfl fun j hj => ?_
    rw [hsame j (Finset.mem_range.mp hj).ne]
  refine ⟨h.changed, fun j hj => ?_, fun j => ?_, ?_, fun j a m hj => ?_,
    fun hstoring k hk j hj => ?_⟩
  · have hle : s.calls + 1 ≤ j := hj
    show (s.setStage s.calls .started).stage j = .absent
    rw [hsame j (by omega)]
    exact h.unused j (by omega)
  · show ((s.setStage s.calls .started).stage j).Fits (s.changed.future j)
    by_cases hne : j = s.calls
    · subst hne
      rw [hself, hgone]
      rfl
    · rw [hsame j hne]
      exact h.future j
  · exact h.active.trans (htotal AcquireStage.holds).symm
  · by_cases hne : j = s.calls
    · subst hne
      rw [hself] at hj
      cases hj
    · exact h.exchanging j a m ((hsame j hne).symm.trans hj)
  · have hne : j ≠ s.calls := by
      rintro rfl
      cases hgone.symm.trans hj.1
    have hblocked : s.Blocked k j := ⟨hj.1, by
      have hstages := hj.2
      simp only at hstages
      rwa [hsame j hne] at hstages⟩
    have hsum := h.covered hstoring k hk j hblocked
    have hones : s.changed.ones (Finset.range s.calls) ≤
        s.changed.ones (Finset.range (s.calls + 1)) :=
      Finset.sum_le_sum_of_subset (Finset.range_mono (Nat.le_succ _))
    have hruns := htotal (AcquireStage.runs k)
    show k ≤ s.active + ∑ j ∈ Finset.range (s.calls + 1),
      AcquireStage.runs k ((s.setStage s.calls .started).stage j) +
        s.changed.ones (Finset.range (s.calls + 1))
    rw [hruns]
    simp only [ConnectionLimit.covered] at hsum
    omega

lemma inv_new (maximum : ℕ) : Inv (new maximum) where
  changed := Notify.wellFormed_new
  unused _ _ := rfl
  future _ := rfl
  active := rfl
  exchanging call a m h := by cases h
  covered _ k _ call h := by cases h.1

theorem Inv.step (h : Inv s) {e : Event} (hstep : s.step e = some s') : Inv s' := by
  cases e with
  | acquire =>
    cases hstep
    exact h.acquire
  | notified call =>
    simp only [ConnectionLimit.step] at hstep
    split at hstep
    case h_1 hstage =>
      cases hstep
      exact h.notified hstage
    case h_2 => cases hstep
  | enable call =>
    simp only [ConnectionLimit.step] at hstep
    split at hstep
    case h_1 hstage =>
      cases hstep
      exact h.enable hstage
    case h_2 => cases hstep
  | loadActive call =>
    simp only [ConnectionLimit.step] at hstep
    split at hstep
    case h_1 hstage =>
      cases hstep
      exact h.loadActive hstage
    case h_2 => cases hstep
  | loadMaximum call =>
    simp only [ConnectionLimit.step] at hstep
    split at hstep
    case h_1 active hstage =>
      split_ifs at hstep with hroom
      · cases hstep
        exact h.exchangeable hstage hroom
      · cases hstep
        exact h.park hstage (Nat.le_of_not_lt hroom)
    case h_2 => cases hstep
  | compareExchange call spurious =>
    simp only [ConnectionLimit.step] at hstep
    split at hstep
    case h_1 active maximum hstage =>
      cases hstep
      exact h.compareExchange hstage spurious
    case h_2 => cases hstep
  | ready call =>
    simp only [ConnectionLimit.step] at hstep
    split at hstep
    case h_1 hstage =>
      split_ifs at hstep with hready
      cases hstep
      exact h.ready hstage hready
    case h_2 => cases hstep
  | cancelled call =>
    simp only [ConnectionLimit.step] at hstep
    split at hstep
    case h_1 hstage =>
      cases hstep
      exact h.cancelled hstage
    case h_2 => cases hstep
  | leave call =>
    simp only [ConnectionLimit.step] at hstep
    split at hstep
    case h_1 hstage =>
      cases hstep
      exact h.leave (by simp [hstage]) rfl (by rw [hstage]; rfl) fun k => by rw [hstage]; rfl
    case h_2 hstage =>
      cases hstep
      exact h.leave (by simp [hstage]) rfl (by rw [hstage]; rfl) fun k => by rw [hstage]; rfl
    case h_3 hstage =>
      cases hstep
      exact h.leave (by simp [hstage]) rfl (by rw [hstage]; rfl) fun k => by rw [hstage]; rfl
    case h_4 => cases hstep
  | fetchSub call =>
    simp only [ConnectionLimit.step] at hstep
    split at hstep
    case h_1 hstage =>
      cases hstep
      exact h.fetchSub hstage
    case h_2 => cases hstep
  | notifyOne call =>
    simp only [ConnectionLimit.step] at hstep
    split at hstep
    case h_1 hstage =>
      cases hstep
      exact h.notifyOne hstage
    case h_2 => cases hstep
  | store maximum =>
    cases hstep
    exact ⟨h.changed, h.unused, h.future, h.active, h.exchanging, fun hstoring => by cases hstoring⟩
  | notifyWaiters =>
    simp only [ConnectionLimit.step] at hstep
    split_ifs at hstep
    cases hstep
    exact h.notifyWaiters

lemma inv_of_reach {maximum : ℕ} (h : Reach step Always (new maximum) s) : Inv s :=
  h.invariant (inv_new maximum) fun _ _ _ hinv _ hstep => hinv.step hstep

/-! ## Exactness and wakeups -/

/-- The counter counts the permits. -/
lemma Inv.active_eq_permits (h : Inv s) : s.active = s.permits := by
  rw [h.active, total, permits, Finset.card_filter]
  refine Finset.sum_congr rfl fun call _ => ?_
  cases s.stage call <;> rfl

lemma granted_of_setStage {other : ℕ} {stage : AcquireStage} (hstage : stage ≠ .granted)
    (h : (s.setStage other stage).stage call = .granted) : s.stage call = .granted := by
  by_cases hcall : call = other
  · subst hcall
    exact absurd ((Function.update_self _ _ _).symm.trans h) hstage
  · exact (Function.update_of_ne hcall _ _).symm.trans h

/-- **A permit is granted below the maximum** that its call has read. -/
lemma Inv.grant (h : Inv s) {e : Event} (hstep : s.step e = some s')
    (hbefore : s.stage call ≠ .granted) (hafter : s'.stage call = .granted) :
    ∃ active maximum, s.stage call = .exchanging active maximum ∧ s.active = active ∧
      active < maximum := by
  cases e with
  | compareExchange other spurious =>
    simp only [ConnectionLimit.step] at hstep
    split at hstep
    · rename_i active maximum hstage
      cases hstep
      unfold ConnectionLimit.compareExchange at hafter
      split_ifs at hafter with hexchange
      · by_cases hcall : call = other
        · subst hcall
          exact ⟨active, maximum, hstage, hexchange.1, h.exchanging call active maximum hstage⟩
        · exact absurd ((Function.update_of_ne hcall _ _).symm.trans hafter) hbefore
      · exact absurd (granted_of_setStage (by simp) hafter) hbefore
    · cases hstep
  | store maximum =>
    cases hstep
    exact absurd hafter hbefore
  | notifyWaiters =>
    simp only [ConnectionLimit.step] at hstep
    split_ifs at hstep
    cases hstep
    exact absurd hafter hbefore
  | loadMaximum other =>
    simp only [ConnectionLimit.step] at hstep
    split at hstep
    · split_ifs at hstep
      · cases hstep
        exact absurd (granted_of_setStage (by simp) hafter) hbefore
      · cases hstep
        exact absurd (granted_of_setStage (by simp) hafter) hbefore
    · cases hstep
  | ready other =>
    simp only [ConnectionLimit.step] at hstep
    split at hstep
    · split_ifs at hstep
      cases hstep
      exact absurd (granted_of_setStage (by simp) hafter) hbefore
    · cases hstep
  | leave other =>
    simp only [ConnectionLimit.step] at hstep
    split at hstep
    · cases hstep
      exact absurd (granted_of_setStage (by simp) hafter) hbefore
    · cases hstep
      exact absurd (granted_of_setStage (by simp) hafter) hbefore
    · cases hstep
      exact absurd (granted_of_setStage (by simp) hafter) hbefore
    · cases hstep
  | acquire =>
    cases hstep
    exact absurd (granted_of_setStage (by simp) hafter) hbefore
  | notified | enable | loadActive | cancelled | fetchSub | notifyOne =>
    simp only [ConnectionLimit.step] at hstep
    split at hstep
    · cases hstep
      exact absurd (granted_of_setStage (by simp) hafter) hbefore
    · cases hstep

/-- A call in `select!` without a notification is in the queue. -/
lemma Inv.waiting_of_not_pending (h : Inv s) (hparked : s.stage call = .parked)
    (hpending : ¬ s.Pending call) : s.changed.future call = .waiting none := by
  have hready : s.changed.ready call = false :=
    Bool.eq_false_iff.mpr fun hready => hpending ⟨hparked, hready⟩
  rcases h.fits hparked with hdone | ⟨notification, hnotification⟩
  · simp [Notify.ready, hdone] at hready
  · cases notification with
    | none => exact hnotification
    | some kind => simp [Notify.ready, hnotification] at hready

/-- In a quiet state the notifications are those of the calls in `select!`. -/
lemma Inv.ones_eq_zero (h : Inv s) (hquiet : s.Quiet) (hpending : ¬ s.Pending call) :
    (s.changed.future call).ones = 0 := by
  rcases hquiet.2 call with habsent | hparked | hholding | hended
  · exact congrArg Notified.ones (h.fits habsent)
  · rw [h.waiting_of_not_pending hparked hpending]
    rfl
  · exact congrArg Notified.ones (h.fits hholding)
  · exact congrArg Notified.ones (h.fits hended)

/-- In a quiet state the permits and the calls with a notification make up the maximum, if some
call waits without one. -/
lemma Inv.maximum_le (h : Inv s) (hquiet : s.Quiet) (hparked : s.stage call = .parked)
    (hpending : ¬ s.Pending call) :
    s.maximum ≤ s.active + ((Finset.range s.calls).filter fun j => s.Pending j).card := by
  have hwaiting := h.waiting_of_not_pending hparked hpending
  have hsum := h.covered hquiet.1 s.maximum (Nat.le_refl _) call ⟨hwaiting, Or.inl hparked⟩
  -- nothing is on its way but notifications
  have hruns : s.total (AcquireStage.runs s.maximum) = 0 := by
    refine Finset.sum_eq_zero fun j _ => ?_
    rcases hquiet.2 j with hj | hj | hj | hj <;> rw [hj] <;> rfl
  have hones : s.changed.ones (Finset.range s.calls) ≤
      ((Finset.range s.calls).filter fun j => s.Pending j).card := by
    rw [Finset.card_filter]
    refine Finset.sum_le_sum fun j _ => ?_
    split_ifs with hj
    · exact Notify.ones_le_one _
    · exact (h.ones_eq_zero hquiet hj).le
  simp only [ConnectionLimit.covered] at hsum
  omega

/-- **The limit is exact and loses no wakeup it needs.**  In every run the counter is the number of
live permits; a permit is granted only when the counter is below the maximum that the call has
read; and when no call runs and no update waits for its notification, a call waits without a
notification only if as many others have one as there are free permits. -/
theorem permits_exact_and_waiters_notified {maximum : ℕ}
    (h : Reach step Always (new maximum) s) :
    s.active = s.permits ∧
    (∀ e s' call, s.step e = some s' → s.stage call ≠ .granted → s'.stage call = .granted →
      ∃ active maximum, s.stage call = .exchanging active maximum ∧ s.active = active ∧
        active < maximum) ∧
    (s.Quiet → ∀ call, s.stage call = .parked → ¬ s.Pending call →
      s.maximum ≤ s.active + ((Finset.range s.calls).filter fun j => s.Pending j).card) := by
  have hinv := inv_of_reach h
  exact ⟨hinv.active_eq_permits, fun e s' call hstep => hinv.grant hstep,
    fun hquiet call hparked hpending => hinv.maximum_le hquiet hparked hpending⟩

/-! ## Two calls that wait for one permit -/

/-- A call that reads the counter and the maximum. -/
def readEvents (call : ℕ) : List Event :=
  [.acquire, .notified call, .enable call, .loadActive call, .loadMaximum call]

/-- Of three calls the first has a permit, which is dropped. -/
def droppedEvents : List Event :=
  readEvents 0 ++ [.compareExchange 0 false, .leave 0] ++ readEvents 1 ++ readEvents 2 ++
    [.fetchSub 0, .notifyOne 0]

/-- The state after the drop: the second call has the notification. -/
lemma exists_dropped : ∃ s, Reach step Always (new 1) s ∧ s.Quiet ∧ s.active < s.maximum ∧
    s.stage 2 = .parked ∧ ¬ s.Pending 2 := by
  have hexec : ((exec step Always (new 1) droppedEvents).map fun s =>
      decide (s.storing = 0 ∧ s.calls = 3 ∧ s.active < s.maximum ∧ s.stage 0 = .ended ∧
        s.stage 1 = .parked ∧ s.stage 2 = .parked ∧ ¬ s.Pending 2)) = some true := by
    decide +kernel
  obtain ⟨s, hs, hview⟩ := Option.map_eq_some_iff.mp hexec
  obtain ⟨hstoring, hcalls, hroom, hfirst, hsecond, hthird, hpending⟩ := of_decide_eq_true hview
  have hreach := reach_of_exec hs
  refine ⟨s, hreach, ⟨hstoring, fun call => ?_⟩, hroom, hthird, hpending⟩
  match call with
  | 0 => simp [hfirst]
  | 1 => simp [hsecond]
  | 2 => simp [hthird]
  | call + 3 => exact Or.inl ((inv_of_reach hreach).unused _ (by omega))

/-- The permit that is free goes to one of the two calls that wait; the other one stays without a
notification. -/
theorem waiter_without_notification :
    ¬ ∀ maximum s, Reach step Always (new maximum) s → s.Quiet → s.active < s.maximum →
      ∀ call, s.stage call = .parked → s.Pending call := by
  intro h
  obtain ⟨s, hreach, hquiet, hroom, hparked, hpending⟩ := exists_dropped
  exact hpending (h 1 s hreach hquiet hroom 2 hparked)

theorem free_permit_covered :
    ∃ s : ConnectionLimit, s.Quiet ∧ s.active < s.maximum ∧
      s.maximum ≤ s.active + ((Finset.range s.calls).filter fun j => s.Pending j).card := by
  obtain ⟨s, hreach, hquiet, hroom, hparked, hpending⟩ := exists_dropped
  exact ⟨s, hquiet, hroom,
    (permits_exact_and_waiters_notified hreach).2.2 hquiet 2 hparked hpending⟩

end ConnectionLimit

end GateRust.Proxy
