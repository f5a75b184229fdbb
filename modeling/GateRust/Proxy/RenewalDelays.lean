/-
# The delays of the renewals

Every run of the scheduler leaves each certificate that is close to its expiry with a task or with a
later time at which it is tried again.  A certificate that fails several times in a row waits longer
after each failure: the entry of `retry` counts the attempts, whatever starts them, and only
`deploy` and `apply_config` forget them.

The steps of a run are told apart by what they do to one certificate: the scheduler takes it up, its
task is joined, or an interruption drops its entry.
-/
import GateRust.Proxy.Renewal

namespace GateRust.Proxy

open Machine

namespace CertificateManager

variable {lib : Libraries} {m m' : CertificateManager} {id : String} {now : UInt64}

/-! ## Delays -/

lemma toNat_saturatingAdd (a b : UInt64) :
    (saturatingAdd a b).toNat = min (a.toNat + b.toNat) (2 ^ 64 - 1) := by
  unfold saturatingAdd
  have hmax : (-1 : UInt64).toNat = 2 ^ 64 - 1 := rfl
  split_ifs with h
  · rw [UInt64.toNat_add, Nat.mod_eq_of_lt h]
    omega
  · rw [hmax]
    omega

lemma toNat_saturatingSub (a b : UInt64) :
    (saturatingSub a b).toNat = a.toNat - b.toNat := by
  unfold saturatingSub
  split_ifs with h
  · exact UInt64.toNat_sub_of_le a b h
  · have hlt : a.toNat < b.toNat := by
      rw [← UInt64.lt_iff_toNat_lt]
      exact UInt64.not_le.mp h
    show 0 = a.toNat - b.toNat
    omega

/-- The delay doubles six times; the upper bound of the code is above that. -/
lemma retryDelay_eq (attempts : UInt32) :
    retryDelay attempts = 300 * 2 ^ min attempts.toNat 6 := by
  have hpow : 2 ^ min attempts.toNat 6 ≤ 2 ^ 6 := Nat.pow_le_pow_right (by omega) (by omega)
  simp only [retryDelay, retryBase, retryMax]
  omega

section NextRetry

variable (id : String) (now : UInt64) (retry : Option RetryState)

/-- The counter of the attempts stops at its last value. -/
lemma toNat_attempts_nextRetry : (nextRetry id now retry).attempts.toNat =
    min ((retry.getD ⟨0, now⟩).attempts.toNat + 1) (2 ^ 32 - 1) := by
  have hlt := (retry.getD ⟨0, now⟩).attempts.toNat_lt
  have hmax : (-1 : UInt32).toNat = 2 ^ 32 - 1 := rfl
  simp only [nextRetry]
  split_ifs with h
  · rw [h, hmax]
    omega
  · have hne : (retry.getD ⟨0, now⟩).attempts.toNat ≠ 2 ^ 32 - 1 := fun heq =>
      h (UInt32.toNat_inj.mp (heq.trans hmax.symm))
    rw [UInt32.toNat_add, UInt32.toNat_one]
    omega

/-- No time overflows. -/
lemma le_retryAt_nextRetry (hnow : now.toNat < 2 ^ 63) :
    now.toNat + 300 * 2 ^ min (retry.getD ⟨0, now⟩).attempts.toNat 6 ≤
      (nextRetry id now retry).retryAt.toNat := by
  have hpow : 2 ^ min (retry.getD ⟨0, now⟩).attempts.toNat 6 ≤ 2 ^ 6 :=
    Nat.pow_le_pow_right (by omega) (by omega)
  have hdelay : (UInt64.ofNat (retryDelay (retry.getD ⟨0, now⟩).attempts)).toNat =
      300 * 2 ^ min (retry.getD ⟨0, now⟩).attempts.toNat 6 := by
    rw [UInt64.toNat_ofNat', retryDelay_eq]
    omega
  simp only [nextRetry, toNat_saturatingAdd, hdelay]
  omega

end NextRetry

/-! ## Steps -/

/-- The time at which the event is handled. -/
def Event.now? : Event → Option UInt64
  | .apply _ _ now | .tick now | .join _ now => some now
  | .issue _ | .continue _ | .finish _ _ | .panic _ => none

/-- The manager and the time with which `schedule_due` runs in the step. -/
def scheduledFrom (lib : Libraries) (m : CertificateManager) :
    Event → Option (CertificateManager × UInt64)
  | .apply config disk now => some (m.installConfig lib disk now config, now)
  | .tick now => some (m, now)
  | _ => none

/-- Whether `schedule_due` starts the certificate in the step, none if it leaves it alone or does
not run. -/
def scheduling (lib : Libraries) (m : CertificateManager) (id : String) (e : Event) :
    Option Bool :=
  (m.scheduledFrom lib e).bind fun s => s.1.taken s.2 id

/-- What comes of the task of the certificate that is joined in the step. -/
def joined (lib : Libraries) (m : CertificateManager) (id : String) : Event → Option Handled
  | .join index _ =>
    match m.tasks[index]? with
    | none => none
    | some task =>
      match task.state with
      | .returned result =>
        if task.certificateId = id ∧ m.accepts (task.output result) = true then
          some (m.handled lib (task.output result))
        else none
      | .running | .panicked => none
  | _ => none

/-- The certificate fails in the step. -/
def Fails (lib : Libraries) (m : CertificateManager) (id : String) (e : Event) : Prop :=
  m.scheduling lib id e = some false ∨ m.joined lib id e = some .failed

/-- The certificate is reloaded, removed or deployed in the step. -/
def Interrupts (lib : Libraries) (m : CertificateManager) (id : String) : Event → Prop
  | .apply config _ _ =>
    id ∈ certificatesRequiringReload m.config config ∨ id ∈ m.removedBy config
  | e => m.joined lib id e = some .deployed

instance (lib : Libraries) (m : CertificateManager) (id : String) (e : Event) :
    Decidable (m.Fails lib id e) := inferInstanceAs (Decidable (_ ∨ _))

instance (lib : Libraries) (m : CertificateManager) (id : String) (e : Event) :
    Decidable (m.Interrupts lib id e) := by
  cases e <;> unfold Interrupts <;> infer_instance

/-- What joining a task does to a certificate, unless its certificate is deployed. -/
lemma joined_cases {index : Nat} (hstep : step lib m (.join index now) = some m') (id : String) :
    (m.joined lib id (.join index now) = none ∧ m'.renewal id = m.renewal id) ∨
      ∃ handled, m.joined lib id (.join index now) = some handled ∧ (handled ≠ .deployed →
        m'.renewal id = if handled = .failed then
            ({ m.renewal id with active := false } : Renewal).failed id now
          else { m.renewal id with active := false }) := by
  obtain ⟨task, htask, ⟨hstate, rfl⟩ | ⟨result, hstate, ⟨hnot, rfl⟩ | ⟨haccepts, rfl⟩⟩⟩ :=
    join_cases hstep
  · left
    simp only [joined, htask, hstate]
    exact ⟨trivial, rfl⟩
  · left
    simp only [joined, htask, hstate, hnot, Bool.false_eq_true, and_false, if_false]
    exact ⟨trivial, rfl⟩
  · by_cases hid : task.certificateId = id
    · right
      subst hid
      simp only [joined, htask, hstate, haccepts, and_self, if_true]
      exact ⟨_, rfl, fun hne => renewal_handleTask (m := { m with
        tasks := m.tasks.eraseIdx index }) lib now haccepts hne⟩
    · left
      simp only [joined, htask, hstate, hid, false_and, if_false]
      exact ⟨trivial, renewal_handleTask_of_ne (m := { m with
        tasks := m.tasks.eraseIdx index }) lib now (Ne.symm hid)⟩

/-- The scheduler keeps the retry state of what it does not fail to start. -/
lemma Renewal.scheduled_of_ne {r : Renewal} {taken : Option Bool} (h : taken ≠ some false)
    (certificateId : String) (now : UInt64) :
    (r.scheduled certificateId now taken).retry = r.retry := by
  cases taken with
  | none => rfl
  | some started =>
    cases started with
    | true => rfl
    | false => exact absurd rfl h

@[simp] lemma Renewal.scheduled_autoRenew (r : Renewal) (certificateId : String) (now : UInt64)
    (taken : Option Bool) : (r.scheduled certificateId now taken).autoRenew = r.autoRenew := by
  cases taken with
  | none => rfl
  | some started =>
    cases started with
    | true => rfl
    | false => exact r.failed_autoRenew certificateId now

section Step

variable {parseUri : String → Option Uri} {e : Event} {m₁ : CertificateManager}

/-- A step in which `schedule_due` runs ends with it. -/
lemma step_scheduledFrom (hstep : step lib m e = some m')
    (hfrom : m.scheduledFrom lib e = some (m₁, now)) :
    m' = m₁.scheduleDue now ∧ e.now? = some now := by
  cases e with
  | apply config disk now' =>
    obtain ⟨rfl, rfl⟩ := Prod.mk.inj (Option.some.inj hfrom)
    exact ⟨(Option.some.inj hstep).symm, rfl⟩
  | tick now' =>
    obtain ⟨rfl, rfl⟩ := Prod.mk.inj (Option.some.inj hfrom)
    exact ⟨(Option.some.inj hstep).symm, rfl⟩
  | issue | «continue» | finish | panic | join => cases hfrom

lemma regular_scheduledFrom (h : m.NamesServed) (hok : m.Validated parseUri e)
    (hfrom : m.scheduledFrom lib e = some (m₁, now)) :
    ∀ config, m₁.config = some config → config.Regular := by
  cases e with
  | apply config disk now' =>
    obtain ⟨rfl, rfl⟩ := Prod.mk.inj (Option.some.inj hfrom)
    exact (h.installConfig (ProxyConfig.Validated.regular hok)).regular
  | tick now' =>
    obtain ⟨rfl, rfl⟩ := Prod.mk.inj (Option.some.inj hfrom)
    exact h.regular
  | issue | «continue» | finish | panic | join => cases hfrom

/-- Without an interruption the scheduler finds the certificate as it was. -/
lemma renewal_scheduledFrom (hok : m.Validated parseUri e)
    (hfrom : m.scheduledFrom lib e = some (m₁, now)) (hnot : ¬ m.Interrupts lib id e)
    (hbefore : (m.renewal id).autoRenew = true) (hafter : (m₁.renewal id).autoRenew = true) :
    m₁.renewal id = m.renewal id := by
  cases e with
  | apply config disk now' =>
    obtain ⟨rfl, rfl⟩ := Prod.mk.inj (Option.some.inj hfrom)
    obtain ⟨hreload, hremoved⟩ := not_or.mp hnot
    exact renewal_installConfig lib disk _ (ProxyConfig.Validated.regular hok) hreload hremoved
      hbefore hafter
  | tick now' =>
    obtain ⟨rfl, rfl⟩ := Prod.mk.inj (Option.some.inj hfrom)
    rfl
  | issue | «continue» | finish | panic | join => cases hfrom

/-- **A failure**: the retry state moves on from what it was, or from what an interruption has left
of it. -/
lemma retry_of_fails (h : m.NamesServed) (hok : m.Validated parseUri e)
    (hstep : step lib m e = some m') (hfails : m.Fails lib id e)
    (hcan : (m'.renewal id).canRetry = true) :
    ∃ now retry, e.now? = some now ∧ m'.retry.lookup id = some (nextRetry id now retry) ∧
      (¬ m.Interrupts lib id e → (m.renewal id).autoRenew = true → retry = m.retry.lookup id) := by
  rcases hfails with hscheduling | hjoined
  · obtain ⟨⟨m₁, now⟩, hfrom, htaken⟩ := Option.bind_eq_some_iff.mp hscheduling
    obtain ⟨rfl, hnow⟩ := step_scheduledFrom hstep hfrom
    have hrenewal := renewal_scheduleDue (regular_scheduledFrom h hok hfrom) now id
    simp only at htaken
    rw [htaken] at hrenewal
    rw [hrenewal] at hcan
    have hcan' : (m₁.renewal id).canRetry = true :=
      (Renewal.failed_canRetry _ id now).symm.trans hcan
    refine ⟨now, (m₁.renewal id).retry, hnow, ?_, fun hnot hbefore => ?_⟩
    · exact (congrArg Renewal.retry hrenewal).trans (Renewal.failed_retry hcan' id now)
    · rw [renewal_scheduledFrom hok hfrom hnot hbefore (Bool.and_eq_true_iff.mp hcan').1]
      rfl
  · cases e with
    | join index now =>
      rcases joined_cases hstep id with ⟨hnone, -⟩ | ⟨handled, hsome, hrenewal⟩
      · cases hnone.symm.trans hjoined
      · obtain rfl := Option.some.inj (hsome.symm.trans hjoined)
        have hfailed := hrenewal (by decide)
        rw [if_pos rfl] at hfailed
        rw [hfailed, Renewal.failed_canRetry] at hcan
        exact ⟨now, m.retry.lookup id, rfl,
          (congrArg Renewal.retry hfailed).trans (Renewal.failed_retry hcan id now),
          fun _ _ => rfl⟩
    | apply | issue | «continue» | tick | finish | panic => cases hjoined

/-- Every other step leaves the retry state alone. -/
lemma retry_of_not_fails (h : m.NamesServed) (hok : m.Validated parseUri e)
    (hstep : step lib m e = some m') (hfails : ¬ m.Fails lib id e)
    (hnot : ¬ m.Interrupts lib id e) (hbefore : (m.renewal id).autoRenew = true)
    (hafter : (m'.renewal id).autoRenew = true) : m'.retry.lookup id = m.retry.lookup id := by
  obtain ⟨hscheduling, hjoined⟩ := not_or.mp hfails
  cases hfrom : m.scheduledFrom lib e with
  | some s =>
    obtain ⟨m₁, now⟩ := s
    obtain ⟨rfl, -⟩ := step_scheduledFrom hstep hfrom
    have hrenewal := renewal_scheduleDue (regular_scheduledFrom h hok hfrom) now id
    rw [hrenewal, Renewal.scheduled_autoRenew] at hafter
    have htaken : m₁.taken now id ≠ some false := by
      rwa [scheduling, hfrom, Option.bind_some] at hscheduling
    exact (congrArg Renewal.retry hrenewal).trans ((Renewal.scheduled_of_ne htaken id now).trans
      (congrArg Renewal.retry (renewal_scheduledFrom hok hfrom hnot hbefore hafter)))
  | none =>
    cases e with
    | apply | tick => cases hfrom
    | issue certificateId =>
      cases hstep
      rw [m.retry_startIssue certificateId false]
    | «continue» certificateId =>
      cases hstep
      rcases m.renewal_startContinue certificateId id with hsame | hstarted
      · exact congrArg Renewal.retry hsame
      · exact congrArg Renewal.retry hstarted
    | finish index answers =>
      obtain ⟨task, -, rfl⟩ := endTask_cases hstep
      rfl
    | panic index =>
      obtain ⟨task, -, rfl⟩ := endTask_cases hstep
      rfl
    | join index now =>
      rcases joined_cases hstep id with ⟨-, hsame⟩ | ⟨handled, hsome, hrenewal⟩
      · exact congrArg Renewal.retry hsame
      · have hwaiting := hrenewal fun heq => hnot (hsome.trans (congrArg some heq))
        rw [if_neg fun heq => hjoined (hsome.trans (congrArg some heq))] at hwaiting
        exact congrArg Renewal.retry hwaiting

/-- The scheduler starts only what is due. -/
lemma isDue_of_scheduling (h : m.NamesServed) (hok : m.Validated parseUri e) {started : Bool}
    (hscheduling : m.scheduling lib id e = some started) :
    ∃ m₁ now, m.scheduledFrom lib e = some (m₁, now) ∧ (m₁.renewal id).isDue now = true := by
  obtain ⟨⟨m₁, now⟩, hfrom, htaken⟩ := Option.bind_eq_some_iff.mp hscheduling
  refine ⟨m₁, now, hfrom, ?_⟩
  rw [← taken_isSome (regular_scheduledFrom h hok hfrom)]
  exact Option.isSome_iff_exists.mpr ⟨started, htaken⟩

end Step

/-! ## What the scheduler has done -/

/-- Every certificate that renews itself and is close to its expiry has a task or waits for a later
time. -/
def RenewsOrWaits (m : CertificateManager) (now : UInt64) : Prop :=
  ∀ config, m.config = some config → ∀ certificate ∈ config.certificates,
    certificate.autoRenew = true → ∀ expiresAt,
    (m.statuses.lookup certificate.id).bind (·.expiresAt) = some expiresAt →
    expiresAt.toNat ≤ now.toNat + renewBefore.toNat →
    certificate.id ∈ m.active ∨
      ∃ retry, m.retry.lookup certificate.id = some retry ∧ now < retry.retryAt

/-- **The scheduler forgets nothing.** -/
lemma renewsOrWaits_scheduleDue (hregular : ∀ config, m.config = some config → config.Regular)
    (hnow : now.toNat < 2 ^ 63) : (m.scheduleDue now).RenewsOrWaits now := by
  intro config hconfig certificate hmem hrenew expiresAt hexpires hclose
  have hconfig' : m.config = some config :=
    (congrArg Prod.fst (m.names_scheduleDue now)).symm.trans hconfig
  have hautomatic := (autoRenew_of_mem hconfig' (hregular config hconfig') hmem).trans hrenew
  have hrenewal := renewal_scheduleDue hregular now certificate.id
  have hretry : (m.scheduleDue now).retry.lookup certificate.id = _ :=
    congrArg Renewal.retry hrenewal
  have hactive : ((m.scheduleDue now).active.lookup certificate.id).isSome = _ :=
    congrArg Renewal.active hrenewal
  have hexpires' : _ = some expiresAt := (congrArg Renewal.expiresAt hrenewal).symm.trans hexpires
  have htaken := taken_isSome hregular now certificate.id
  rw [← AList.lookup_isSome, hactive, hretry]
  cases hresult : m.taken now certificate.id with
  | none =>
    -- it is not due, although it is close to its expiry
    rw [hresult] at htaken hexpires'
    have hnot : (m.renewal certificate.id).isDue now = false := htaken.symm
    have hreached : saturatingSub expiresAt renewBefore ≤ now := by
      rw [UInt64.le_iff_toNat_le, toNat_saturatingSub]
      omega
    have hexpires'' : (m.renewal certificate.id).expiresAt = some expiresAt := hexpires'
    simp only [Renewal.isDue, hautomatic, hexpires'', Option.any_some, hreached, decide_true,
      Bool.true_and, Bool.and_eq_false_iff, Bool.not_eq_false'] at hnot
    rcases hnot with hwaits | hrunning
    · right
      cases hlookup : (m.renewal certificate.id).retry with
      | none => simp [hlookup] at hwaits
      | some retry =>
        refine ⟨retry, hlookup, ?_⟩
        simpa [hlookup] using hwaits
    · exact Or.inl hrunning
  | some started =>
    rw [hresult] at hexpires'
    cases started with
    | true => exact Or.inl rfl
    | false =>
      right
      have hknown : (m.renewal certificate.id).expiresAt = some expiresAt :=
        (Renewal.failed_expiresAt _ certificate.id now).symm.trans hexpires'
      have hcan : (m.renewal certificate.id).canRetry = true := by
        simp [Renewal.canRetry, hautomatic, hknown]
      refine ⟨_, Renewal.failed_retry hcan certificate.id now, ?_⟩
      rw [UInt64.lt_iff_toNat_lt]
      have hlater := le_retryAt_nextRetry certificate.id now (m.renewal certificate.id).retry hnow
      have hpos := Nat.two_pow_pos
        (min ((m.renewal certificate.id).retry.getD ⟨0, now⟩).attempts.toNat 6)
      omega

/-! ## Failures in a row -/

/-- The configurations are valid, and the times are seconds of a `SystemTime` since the epoch, a
signed number of 64 bits. -/
def Timed (parseUri : String → Option Uri) (m : CertificateManager) (e : Event) : Prop :=
  m.Validated parseUri e ∧ ∀ now ∈ e.now?, now.toNat < 2 ^ 63

/-- In a run that has come to the manager, the certificate has failed `k` times, the last time at
`t`.  Since the first failure it was not reloaded, removed or deployed; it renews itself and its
expiry is known. -/
inductive Failing (lib : Libraries) (parseUri : String → Option Uri) (id : String) :
    ℕ → UInt64 → CertificateManager → Prop
  | first {m m' : CertificateManager} {e : Event} {t : UInt64} :
      Reach (step lib) (Timed parseUri) new m → m.Timed parseUri e → step lib m e = some m' →
      m.Fails lib id e → e.now? = some t → (m'.renewal id).canRetry = true →
      Failing lib parseUri id 1 t m'
  | again {k : ℕ} {t t' : UInt64} {m m' : CertificateManager} {e : Event} :
      Failing lib parseUri id k t m → m.Timed parseUri e → step lib m e = some m' →
      ¬ m.Interrupts lib id e → m.Fails lib id e → e.now? = some t' →
      (m'.renewal id).canRetry = true → Failing lib parseUri id (k + 1) t' m'
  | other {k : ℕ} {t : UInt64} {m m' : CertificateManager} {e : Event} :
      Failing lib parseUri id k t m → m.Timed parseUri e → step lib m e = some m' →
      ¬ m.Interrupts lib id e → ¬ m.Fails lib id e → (m'.renewal id).canRetry = true →
      Failing lib parseUri id k t m'

/-- What `k` failures leave: the attempts are counted, and the next one is not before its time. -/
def Backoff (k : ℕ) (t : UInt64) (retry : RetryState) : Prop :=
  min k (2 ^ 32 - 1) ≤ retry.attempts.toNat ∧
    t.toNat + 300 * 2 ^ min (k - 1) 6 ≤ retry.retryAt.toNat

lemma backoff_first (id : String) {t : UInt64} (retry : Option RetryState)
    (ht : t.toNat < 2 ^ 63) : Backoff 1 t (nextRetry id t retry) := by
  have hlater := le_retryAt_nextRetry id t retry ht
  have hpos := Nat.two_pow_pos (min (retry.getD ⟨0, t⟩).attempts.toNat 6)
  refine ⟨?_, ?_⟩
  · rw [toNat_attempts_nextRetry]
    omega
  · show t.toNat + 300 * 1 ≤ _
    omega

/-- One more failure. -/
lemma Backoff.again {k : ℕ} {t t' : UInt64} {retry : RetryState} (h : Backoff k t retry)
    (id : String) (ht : t'.toNat < 2 ^ 63) :
    Backoff (k + 1) t' (nextRetry id t' (some retry)) := by
  have hlater := le_retryAt_nextRetry id t' (some retry) ht
  have hattempts := h.1
  have hpow : 2 ^ min k 6 ≤ 2 ^ min retry.attempts.toNat 6 :=
    Nat.pow_le_pow_right (by omega) (by omega)
  refine ⟨?_, ?_⟩
  · rw [toNat_attempts_nextRetry, Option.getD_some]
    omega
  · rw [Option.getD_some] at hlater
    rw [Nat.add_sub_cancel]
    omega

section Failing

variable {parseUri : String → Option Uri} {k : ℕ} {t : UInt64}

lemma namesServed_of_timed (h : Reach (step lib) (Timed parseUri) new m) : m.NamesServed :=
  namesServed_of_reach (h.mono fun _ _ hok => hok.1)

lemma Failing.reach (h : Failing lib parseUri id k t m) :
    Reach (step lib) (Timed parseUri) new m := by
  induction h with
  | first hreach hok hstep => exact hreach.next hok hstep
  | again _ hok hstep _ _ _ _ ih => exact ih.next hok hstep
  | other _ hok hstep _ _ _ ih => exact ih.next hok hstep

lemma Failing.canRetry (h : Failing lib parseUri id k t m) : (m.renewal id).canRetry = true := by
  cases h <;> assumption

/-- **After `k` failures** the retry state delays the next attempt. -/
lemma Failing.backoff (h : Failing lib parseUri id k t m) :
    ∃ retry, m.retry.lookup id = some retry ∧ Backoff k t retry := by
  induction h with
  | first hreach hok hstep hfails ht hcan =>
    obtain ⟨now, retry, hnow, hlookup, -⟩ :=
      retry_of_fails (namesServed_of_timed hreach) hok.1 hstep hfails hcan
    obtain rfl := Option.some.inj (ht.symm.trans hnow)
    exact ⟨_, hlookup, backoff_first id retry (hok.2 _ hnow)⟩
  | @again k t t' m m' e h hok hstep hnot hfails ht hcan ih =>
    obtain ⟨retry, hretry, hbackoff⟩ := ih
    obtain ⟨now, retry', hnow, hlookup, hsame⟩ :=
      retry_of_fails (namesServed_of_timed h.reach) hok.1 hstep hfails hcan
    obtain rfl := Option.some.inj (ht.symm.trans hnow)
    obtain rfl := (hsame hnot (Bool.and_eq_true_iff.mp h.canRetry).1).trans hretry
    exact ⟨_, hlookup, hbackoff.again id (hok.2 _ hnow)⟩
  | @other k t m m' e h hok hstep hnot hfails hcan ih =>
    obtain ⟨retry, hretry, hbackoff⟩ := ih
    refine ⟨retry, ?_, hbackoff⟩
    rw [retry_of_not_fails (namesServed_of_timed h.reach) hok.1 hstep hfails hnot
      (Bool.and_eq_true_iff.mp h.canRetry).1 (Bool.and_eq_true_iff.mp hcan).1]
    exact hretry

/-- **The scheduler forgets nothing and leaves alone what has failed.**  Whenever it has run at
`now`, every certificate that renews itself and is close to its expiry has a task or waits for a
later time; and it does not start a certificate that has failed `k` times in a row before
`300 * 2 ^ min (k - 1) 6` seconds after the last failure. -/
theorem renewals_scheduled {e : Event} (h : Reach (step lib) (Timed parseUri) new m)
    (hok : m.Timed parseUri e) (hstep : step lib m e = some m') :
    (∀ m₁ now, m.scheduledFrom lib e = some (m₁, now) → m'.RenewsOrWaits now) ∧
    ∀ id k t now, Failing lib parseUri id k t m → ¬ m.Interrupts lib id e →
      m.scheduling lib id e = some true → e.now? = some now →
      t.toNat + 300 * 2 ^ min (k - 1) 6 ≤ now.toNat := by
  have hserved := namesServed_of_timed h
  refine ⟨fun m₁ now hfrom => ?_, fun id k t now hfailing hnot hstart hnow => ?_⟩
  · obtain ⟨rfl, hnow⟩ := step_scheduledFrom hstep hfrom
    exact renewsOrWaits_scheduleDue (regular_scheduledFrom hserved hok.1 hfrom) (hok.2 now hnow)
  · obtain ⟨m₁, now', hfrom, hdue⟩ := isDue_of_scheduling hserved hok.1 hstart
    obtain rfl := Option.some.inj (hnow.symm.trans (step_scheduledFrom hstep hfrom).2)
    obtain ⟨retry, hretry, -, hlater⟩ := hfailing.backoff
    have hsame := renewal_scheduledFrom hok.1 hfrom hnot
      (Bool.and_eq_true_iff.mp hfailing.canRetry).1 (Bool.and_eq_true_iff.mp hdue).1
    rw [hsame] at hdue
    obtain ⟨-, hexpires⟩ := Bool.and_eq_true_iff.mp hdue
    obtain ⟨expiresAt, -, hready⟩ := (Option.any_eq_true _ _).mp hexpires
    have hreached : (m.retry.lookup id).all (fun retry => retry.retryAt ≤ now) = true :=
      (Bool.and_eq_true_iff.mp (Bool.and_eq_true_iff.mp hready).1).2
    rw [hretry, Option.all_some, decide_eq_true_eq, UInt64.le_iff_toNat_le] at hreached
    omega

end Failing

/-! ## A renewal that is refused -/

/-- The sample certificate renews itself; its records are set by a DNS account. -/
def renewingConfig : ProxyConfig :=
  { manualConfig "a.example" with
    dnsAccounts := [⟨"dns", "DNS", .cloudflare, some "token", none, none⟩]
    certificates :=
      [⟨"main", "main", ["a.example"], "acme", some (.dnsAccount "dns"), true, none⟩] }

/-- The libraries read the expiry of the stored certificate. -/
def storedLibraries : Libraries :=
  { noCertificates with cache := CertificateCache.sampleLibraries }

/-- The renewal starts two weeks before the expiry, and its task returns an error. -/
def refusedEvents : List Event :=
  [.apply renewingConfig (fun _ _ => .firstStored) 1774000000, .finish 0 refused]

/-- The certificate fails at 1774000100 and is started again at 1774000401. -/
theorem main_started_after_delay : ∃ m m', step storedLibraries m (.tick 1774000401) = some m' ∧
    Failing storedLibraries (fun _ => none) "main" 1 1774000100 m ∧
    m'.RenewsOrWaits 1774000401 ∧
    m.scheduling storedLibraries "main" (.tick 1774000401) = some true ∧
    (1774000100 : UInt64).toNat + 300 * 2 ^ min (1 - 1) 6 ≤ (1774000401 : UInt64).toNat := by
  have hvalid : renewingConfig.Validated fun _ => none := ⟨renewingConfig, by decide +kernel⟩
  have hrun : (exec (step storedLibraries) Always new refusedEvents).any (fun m =>
      decide (m.Fails storedLibraries "main" (.join 0 1774000100)) &&
        (step storedLibraries m (.join 0 1774000100)).any fun m' =>
          (m'.renewal "main").canRetry &&
            decide (m'.scheduling storedLibraries "main" (.tick 1774000401) = some true)) =
        true := by
    decide +kernel
  obtain ⟨m, hm, hview⟩ := (Option.any_eq_true _ _).mp hrun
  rw [Bool.and_eq_true] at hview
  obtain ⟨m', hm', hview'⟩ := (Option.any_eq_true _ _).mp hview.2
  rw [Bool.and_eq_true] at hview'
  have htimed : ∀ m, ∀ e ∈ refusedEvents, Always m e → Timed (fun _ => none) m e := by
    intro m e he _
    simp only [refusedEvents, List.mem_cons, List.not_mem_nil, or_false] at he
    rcases he with rfl | rfl
    · refine ⟨hvalid, fun now hnow => ?_⟩
      obtain rfl := Option.mem_some.mp hnow
      decide
    · exact ⟨trivial, fun now hnow => by cases hnow⟩
  have hjoin : m.Timed (fun _ => none) (.join 0 1774000100) := by
    refine ⟨trivial, fun now hnow => ?_⟩
    obtain rfl := Option.mem_some.mp hnow
    decide
  have htick : m'.Timed (fun _ => none) (.tick 1774000401) := by
    refine ⟨trivial, fun now hnow => ?_⟩
    obtain rfl := Option.mem_some.mp hnow
    decide
  have hreach := reach_of_exec_imp hm htimed
  have hfailing : Failing storedLibraries (fun _ => none) "main" 1 1774000100 m' :=
    .first hreach hjoin hm' (of_decide_eq_true hview.1) rfl hview'.1
  have hscheduled : m'.scheduling storedLibraries "main" (.tick 1774000401) = some true :=
    of_decide_eq_true hview'.2
  obtain ⟨hwaits, hdelayed⟩ := renewals_scheduled hfailing.reach htick rfl
  exact ⟨m', _, rfl, hfailing, hwaits _ _ rfl, hscheduled,
    hdelayed "main" 1 _ _ hfailing (fun h => by cases h) hscheduled rfl⟩

end CertificateManager

end GateRust.Proxy
