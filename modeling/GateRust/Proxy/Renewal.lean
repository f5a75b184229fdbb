/-
# The renewal of certificates

The scheduler starts the certificates that are close to their expiry and records when one that has
failed is tried again.  The entries of `retry` are made by `fail` and dropped by `deploy` and by
`apply_config`, each for one certificate; the scheduler reads them together with the expiry and the
active task.

Of a certificate, the scheduler sees four values.  Here is what the operations of the manager do to
them: a start, a failure, a run of the scheduler, a configuration that is applied and the end of a
task.
-/
import GateRust.Proxy.Statuses

namespace GateRust.Proxy

open Machine

namespace CertificateManager

/-! ## What decides on a renewal -/

/-- The entry of a certificate after a failure. -/
def nextRetry (certificateId : String) (now : UInt64) (retry : Option RetryState) : RetryState :=
  let retry := retry.getD ⟨0, now⟩
  let delay := UInt64.ofNat (retryDelay retry.attempts)
  ⟨if retry.attempts = -1 then -1 else retry.attempts + 1,
    saturatingAdd (saturatingAdd now delay) (retryJitter certificateId)⟩

/-- What the scheduler sees of a certificate. -/
structure Renewal where
  autoRenew : Bool
  expiresAt : Option UInt64
  active : Bool
  retry : Option RetryState

namespace Renewal

def canRetry (r : Renewal) : Bool := r.autoRenew && r.expiresAt.isSome

def isDue (r : Renewal) (now : UInt64) : Bool :=
  r.autoRenew && r.expiresAt.any fun expiresAt =>
    saturatingSub expiresAt renewBefore ≤ now && r.retry.all (fun retry => retry.retryAt ≤ now) &&
      !r.active

def started (r : Renewal) : Renewal := { r with active := true }

def failed (r : Renewal) (certificateId : String) (now : UInt64) : Renewal :=
  if r.canRetry then { r with retry := some (nextRetry certificateId now r.retry) } else r

@[simp] lemma failed_autoRenew (r : Renewal) (certificateId : String) (now : UInt64) :
    (r.failed certificateId now).autoRenew = r.autoRenew := by
  unfold failed
  split_ifs <;> rfl

@[simp] lemma failed_expiresAt (r : Renewal) (certificateId : String) (now : UInt64) :
    (r.failed certificateId now).expiresAt = r.expiresAt := by
  unfold failed
  split_ifs <;> rfl

@[simp] lemma failed_canRetry (r : Renewal) (certificateId : String) (now : UInt64) :
    (r.failed certificateId now).canRetry = r.canRetry := by
  simp [canRetry]

lemma failed_retry {r : Renewal} (h : r.canRetry = true) (certificateId : String) (now : UInt64) :
    (r.failed certificateId now).retry = some (nextRetry certificateId now r.retry) := by
  rw [failed, if_pos h]

end Renewal

variable {lib : Libraries} {m m' : CertificateManager} {id : String} {now : UInt64}

def renewal (m : CertificateManager) (id : String) : Renewal where
  autoRenew := (m.config.bind (·.certificate? id)).any (·.autoRenew)
  expiresAt := (m.statuses.lookup id).bind (·.expiresAt)
  active := (m.active.lookup id).isSome
  retry := m.retry.lookup id

/-! ## Starts and failures -/

/-- A change of the statuses that keeps the expiry. -/
lemma expiresAt_modify (statuses : HashMap String CertificateRuntimeStatus) (c id : String)
    {f : CertificateRuntimeStatus → CertificateRuntimeStatus}
    (hf : ∀ s, (f s).expiresAt = s.expiresAt) :
    ((statuses.modify c f).lookup id).bind (·.expiresAt) =
      (statuses.lookup id).bind (·.expiresAt) := by
  rw [AList.lookup_modify]
  split_ifs with hid
  · subst hid
    cases statuses.lookup id with
    | none => rfl
    | some s => exact hf s
  · rfl

lemma retry_startIssue (m : CertificateManager) (c : String) (renewal : Bool) :
    (m.startIssue c renewal).2.retry = m.retry := by
  unfold startIssue
  split
  · rfl
  split
  · rfl
  split
  · rfl
  next certificate account dnsAccount _ =>
  by_cases hpermits : (m.openGates account dnsAccount).issuancePermits = 0
  · simp only [if_pos hpermits]
    rfl
  · simp only [if_neg hpermits]
    rfl

lemma config_startIssue (m : CertificateManager) (c : String) (renewal : Bool) :
    (m.startIssue c renewal).2.config = m.config :=
  congrArg Prod.fst (m.names_startIssue c renewal)

/-- A start makes the certificate active, unless it is refused. -/
lemma renewal_startIssue (m : CertificateManager) (c id : String) (renewal : Bool) :
    (m.startIssue c renewal).2.renewal id =
      if id = c ∧ (m.startIssue c renewal).1.isOk = true then (m.renewal id).started
      else m.renewal id := by
  have hretry := m.retry_startIssue c renewal
  have hconfig := m.config_startIssue c renewal
  rcases m.startIssue_cases c renewal with ⟨⟨error, herror⟩, hledger, hstatuses⟩ | ⟨config, _, _, _,
    -, -, -, hok, hledger, hstatuses⟩
  · have hactive : (m.startIssue c renewal).2.active = m.active := congrArg Ledger.active hledger
    rw [if_neg fun h => by simp [herror, Except.isOk, Except.toBool] at h]
    simp only [CertificateManager.renewal, hretry, hconfig, hstatuses, hactive]
  · have hactive : (m.startIssue c renewal).2.active = m.active.insert c _ :=
      congrArg Ledger.active hledger
    have hexpires : ((m.startIssue c renewal).2.statuses.lookup id).bind (·.expiresAt) =
        (m.statuses.lookup id).bind (·.expiresAt) := by
      rw [hstatuses]
      exact expiresAt_modify _ c id fun _ => rfl
    simp only [CertificateManager.renewal, hretry, hconfig, hexpires, hactive, hok,
      AList.lookup_insert_eq]
    by_cases hid : id = c
    · rw [if_pos hid, if_pos ⟨hid, rfl⟩]
      rfl
    · rw [if_neg hid, if_neg fun h => hid h.1]

lemma renewal_startContinue (m : CertificateManager) (c id : String) :
    (m.startContinue c).2.renewal id = m.renewal id ∨
      (m.startContinue c).2.renewal id = (m.renewal id).started := by
  have hretry : (m.startContinue c).2.retry = m.retry := by
    unfold startContinue
    repeat' split
    all_goals rfl
  have hconfig : (m.startContinue c).2.config = m.config :=
    congrArg Prod.fst (m.names_startContinue c)
  rcases m.startContinue_cases c with ⟨hledger, hstatuses⟩ | ⟨config, pending, -, -, -, hledger,
    hstatuses⟩
  · have hactive : (m.startContinue c).2.active = m.active := congrArg Ledger.active hledger
    left
    simp only [CertificateManager.renewal, hretry, hconfig, hstatuses, hactive]
  · have hactive : (m.startContinue c).2.active = m.active.insert c _ :=
      congrArg Ledger.active hledger
    have hexpires : ((m.startContinue c).2.statuses.lookup id).bind (·.expiresAt) =
        (m.statuses.lookup id).bind (·.expiresAt) := by
      rw [hstatuses]
      exact expiresAt_modify _ c id fun _ => rfl
    simp only [CertificateManager.renewal, hretry, hconfig, hexpires, hactive,
      AList.lookup_insert_eq]
    by_cases hid : id = c
    · right
      rw [if_pos hid]
      rfl
    · left
      rw [if_neg hid]

lemma canRetry_eq (m : CertificateManager) (id : String) :
    m.canRetry id = (m.renewal id).canRetry := rfl

/-- A failure is recorded for its own certificate, if that may be tried again. -/
lemma renewal_fail (m : CertificateManager) (c id : String) (error : ProxyError) (now : UInt64) :
    (m.fail c error now).renewal id =
      if id = c then (m.renewal id).failed id now else m.renewal id := by
  have hexpires : ((m.fail c error now).statuses.lookup id).bind (·.expiresAt) =
      (m.statuses.lookup id).bind (·.expiresAt) := by
    unfold fail
    split_ifs
    · exact expiresAt_modify _ c id fun _ => rfl
    · exact expiresAt_modify _ c id fun _ => rfl
  have hconfig : (m.fail c error now).config = m.config :=
    congrArg Prod.fst (m.names_fail c error now)
  have hactive : (m.fail c error now).active = m.active :=
    congrArg Ledger.active (m.ledger_fail c error now)
  have hretry : (m.fail c error now).retry =
      if m.canRetry c then m.retry.insert c (nextRetry c now (m.retry.lookup c)) else m.retry := by
    unfold fail
    split_ifs <;> rfl
  by_cases hid : id = c
  · subst hid
    rw [if_pos rfl, Renewal.failed, ← canRetry_eq]
    by_cases hcan : m.canRetry id = true
    · simp only [CertificateManager.renewal, hexpires, hconfig, hactive, hretry, if_pos hcan,
        AList.lookup_insert]
    · simp only [CertificateManager.renewal, hexpires, hconfig, hactive, hretry, if_neg hcan]
  · have hlookup : (m.fail c error now).retry.lookup id = m.retry.lookup id := by
      rw [hretry]
      split_ifs
      · exact AList.lookup_insert_ne hid
      · rfl
    rw [if_neg hid]
    simp only [CertificateManager.renewal, hexpires, hconfig, hactive, hlookup]

/-! ## The scheduler -/

/-- Whether a renewal starts when the scheduler comes to the certificate, none if it does not. -/
def takeUp (now : UInt64) (id : String) : List String → CertificateManager → Option Bool
  | [], _ => none
  | c :: ids, m =>
    if c = id then some (m.startIssue c true).1.isOk else takeUp now id ids (m.startRenewal now c)

def markAll (m : CertificateManager) (now : UInt64) : CertificateManager :=
  { m with statuses := m.statuses.mapValues (markExpired now) }

/-- Whether `schedule_due` starts the certificate, none if it leaves it alone. -/
def taken (m : CertificateManager) (now : UInt64) (id : String) : Option Bool :=
  match m.config with
  | none => none
  | some config => takeUp now id ((m.markAll now).due now config) (m.markAll now)

/-- The certificate after the scheduler. -/
def Renewal.scheduled (r : Renewal) (certificateId : String) (now : UInt64) :
    Option Bool → Renewal
  | none => r
  | some true => r.started
  | some false => r.failed certificateId now

lemma takeUp_isSome (now : UInt64) (id : String) (ids : List String) (m : CertificateManager) :
    (takeUp now id ids m).isSome = true ↔ id ∈ ids := by
  induction ids generalizing m with
  | nil => simp [takeUp]
  | cons c ids ih =>
    rw [takeUp, List.mem_cons]
    split_ifs with hc
    · simp [hc]
    · rw [ih]
      simp [Ne.symm hc]

lemma renewal_startRenewal (m : CertificateManager) (now : UInt64) (c id : String) :
    (m.startRenewal now c).renewal id =
      if id = c then (m.renewal id).scheduled id now (some (m.startIssue c true).1.isOk)
      else m.renewal id := by
  have hstart := m.renewal_startIssue c id true
  rw [startRenewal, ← Prod.mk.eta (p := m.startIssue c true)]
  cases hresult : (m.startIssue c true).1 with
  | error error =>
    rw [hresult, if_neg fun h => by cases h.2] at hstart
    simp only
    rw [renewal_fail, hstart]
    rfl
  | ok u =>
    rw [hresult] at hstart
    simp only
    rw [hstart]
    by_cases hid : id = c
    · rw [if_pos ⟨hid, rfl⟩, if_pos hid]
      rfl
    · rw [if_neg fun h => hid h.1, if_neg hid]

/-- Every certificate is taken up once. -/
lemma renewal_foldl_startRenewal {ids : List String} (hids : ids.Nodup) (m : CertificateManager)
    (now : UInt64) (id : String) :
    (ids.foldl (startRenewal now) m).renewal id =
      (m.renewal id).scheduled id now (takeUp now id ids m) := by
  induction ids generalizing m with
  | nil => rfl
  | cons c ids ih =>
    obtain ⟨hc, hids⟩ := List.nodup_cons.mp hids
    rw [List.foldl_cons, ih hids, renewal_startRenewal, takeUp]
    by_cases hid : id = c
    · subst hid
      have hnone : takeUp now id ids (m.startRenewal now id) = none := by
        rw [← Option.not_isSome_iff_eq_none, takeUp_isSome]
        exact hc
      rw [if_pos rfl, if_pos rfl, hnone]
      rfl
    · rw [if_neg hid, if_neg (Ne.symm hid)]

@[simp] lemma renewal_markAll (m : CertificateManager) (now : UInt64) (id : String) :
    (m.markAll now).renewal id = m.renewal id := by
  have hexpires : ((m.markAll now).statuses.lookup id).bind (·.expiresAt) =
      (m.statuses.lookup id).bind (·.expiresAt) := by
    rw [markAll, AList.lookup_mapValues]
    cases m.statuses.lookup id with
    | none => rfl
    | some status =>
      show (markExpired now status).expiresAt = status.expiresAt
      unfold markExpired
      split_ifs <;> rfl
  simp only [renewal, hexpires]
  rfl

lemma isDue_eq (m : CertificateManager) (now : UInt64) (certificate : CertificateConfig) :
    m.isDue now certificate = (m.renewal certificate.id).expiresAt.any fun expiresAt =>
      saturatingSub expiresAt renewBefore ≤ now &&
        (m.renewal certificate.id).retry.all (fun retry => retry.retryAt ≤ now) &&
        !(m.renewal certificate.id).active := by
  unfold isDue renewal
  cases (m.statuses.lookup certificate.id).bind (·.expiresAt) <;> rfl

lemma autoRenew_of_mem {config : ProxyConfig} (hconfig : m.config = some config)
    (hregular : config.Regular) {certificate : CertificateConfig}
    (hmem : certificate ∈ config.certificates) :
    (m.renewal certificate.id).autoRenew = certificate.autoRenew := by
  obtain ⟨first, hfirst⟩ := ProxyConfig.certificate?_of_mem hmem
  have hsame : first = certificate := hregular.eq_of_id (ProxyConfig.certificate?_mem hfirst) hmem
    (ProxyConfig.certificate?_id hfirst)
  show (m.config.bind (·.certificate? certificate.id)).any (·.autoRenew) = certificate.autoRenew
  rw [hconfig, Option.bind_some, hfirst, hsame]
  rfl

lemma mem_due_iff {config : ProxyConfig} (hconfig : m.config = some config)
    (hregular : config.Regular) :
    id ∈ m.due now config ↔ (m.renewal id).isDue now = true := by
  rw [due, List.mem_map, Renewal.isDue, Bool.and_eq_true]
  constructor
  · rintro ⟨certificate, hmem, rfl⟩
    obtain ⟨hmem, hdue⟩ := List.mem_filter.mp hmem
    obtain ⟨hmem, hrenew⟩ := List.mem_filter.mp hmem
    rw [isDue_eq] at hdue
    exact ⟨(autoRenew_of_mem hconfig hregular hmem).trans hrenew, hdue⟩
  · rintro ⟨hrenew, hdue⟩
    have hsome : (config.certificate? id).any (·.autoRenew) = true := by
      simpa [renewal, hconfig] using hrenew
    obtain ⟨certificate, hcertificate, hautomatic⟩ := (Option.any_eq_true _ _).mp hsome
    have hid := ProxyConfig.certificate?_id hcertificate
    subst hid
    refine ⟨certificate, List.mem_filter.mpr ⟨List.mem_filter.mpr
      ⟨ProxyConfig.certificate?_mem hcertificate, hautomatic⟩, ?_⟩, rfl⟩
    rw [isDue_eq]
    exact hdue

section Schedule

variable (hregular : ∀ config, m.config = some config → config.Regular)

include hregular

/-- **The scheduler takes up what is due**, and nothing else. -/
lemma taken_isSome (now : UInt64) (id : String) :
    (m.taken now id).isSome = (m.renewal id).isDue now := by
  cases hconfig : m.config with
  | none =>
    have hrenew : (m.renewal id).autoRenew = false := by simp [renewal, hconfig]
    simp [taken, hconfig, Renewal.isDue, hrenew]
  | some config =>
    have hmarked : (m.markAll now).config = some config := hconfig
    have hdue : id ∈ (m.markAll now).due now config ↔
        ((m.markAll now).renewal id).isDue now = true :=
      mem_due_iff hmarked (hregular config hconfig)
    rw [renewal_markAll] at hdue
    simp only [taken, hconfig]
    exact Bool.eq_iff_iff.mpr ((takeUp_isSome now id _ _).trans hdue)

/-- **What the scheduler does to a certificate.** -/
lemma renewal_scheduleDue (now : UInt64) (id : String) :
    (m.scheduleDue now).renewal id = (m.renewal id).scheduled id now (m.taken now id) := by
  have hpublish : ∀ m : CertificateManager, m.publish.renewal id = m.renewal id := fun _ => rfl
  rw [scheduleDue, apply_ite (fun m : CertificateManager => m.renewal id), hpublish, ite_self]
  show ((m.markAll now).startDue now).renewal id = _
  cases hconfig : m.config with
  | none =>
    have hmarked : (m.markAll now).config = none := hconfig
    simp only [startDue, hmarked, taken, hconfig]
    exact m.renewal_markAll now id
  | some config =>
    have hmarked : (m.markAll now).config = some config := hconfig
    have hnodup : ((m.markAll now).due now config).Nodup :=
      (hregular config hconfig).ids.sublist
        ((List.filter_sublist.trans List.filter_sublist).map _)
    simp only [startDue, hmarked, taken, hconfig]
    rw [renewal_foldl_startRenewal hnodup, renewal_markAll]

end Schedule

/-! ## Applying a configuration -/

lemma foldl_discard_retry (ids : List String) (m : CertificateManager) (c : String) :
    (ids.foldl discard m).retry.lookup c = if c ∈ ids then none else m.retry.lookup c := by
  induction ids generalizing m with
  | nil => simp
  | cons id ids ih =>
    rw [List.foldl_cons, ih, discard, AList.lookup_erase_eq]
    split_ifs <;> simp_all

/-- An entry stays where automatic renewal is not switched. -/
lemma lookup_resetRetry {config : ProxyConfig}
    (h : ∀ current, m.config = some current → ∀ certificate ∈ config.certificates,
      certificate.id = id → ∀ item, current.certificate? id = some item →
        item.autoRenew = certificate.autoRenew) :
    (m.resetRetry config).retry.lookup id = m.retry.lookup id := by
  unfold resetRetry
  split
  · rfl
  · next current hcurrent =>
    refine List.foldlRecOn
      (motive := fun retry : HashMap String RetryState => retry.lookup id = m.retry.lookup id)
      _ _ rfl fun retry hretry certificate hmem => ?_
    split
    · next item hitem =>
      by_cases hid : certificate.id = id
      · rw [if_neg]
        · exact hretry
        · rw [hid] at hitem
          exact not_not.mpr (h current hcurrent certificate hmem hid item hitem)
      · split_ifs
        · rw [AList.lookup_erase_ne (Ne.symm hid)]
          exact hretry
        · exact hretry
    · exact hretry

/-- A certificate that is neither reloaded nor removed, and renews itself before and after, stays
as it is. -/
lemma renewal_installConfig (lib : Libraries) (disk : Disk) (now : UInt64) {config : ProxyConfig}
    (hregular : config.Regular) (hreload : id ∉ certificatesRequiringReload m.config config)
    (hremoved : id ∉ m.removedBy config) (hbefore : (m.renewal id).autoRenew = true)
    (hafter : ((m.installConfig lib disk now config).renewal id).autoRenew = true) :
    (m.installConfig lib disk now config).renewal id = m.renewal id := by
  have hgone : id ∉ certificatesRequiringReload m.config config ++ m.removedBy config :=
    fun h => (List.mem_append.mp h).elim hreload hremoved
  have hactive := (lookup_installConfig lib m disk now config id).1
  rw [if_neg hgone] at hactive
  have hstatus := (lookup_of_not_reload (m := m) lib disk now hreload).2
  rw [if_neg hremoved] at hstatus
  have hretry : (m.installConfig lib disk now config).retry.lookup id = m.retry.lookup id := by
    -- the manager before the retry states are reset
    obtain ⟨m₁, hm₁, hconfig, hlookup⟩ : ∃ m₁ : CertificateManager,
        (m.installConfig lib disk now config).retry = (m₁.resetRetry config).retry ∧
        m₁.config = m.config ∧ m₁.retry.lookup id = m.retry.lookup id := by
      have hdiscard : ∀ (ids : List String) (m : CertificateManager),
          (ids.foldl discard m).config = m.config := fun ids m =>
        List.foldlRecOn (motive := fun m' : CertificateManager => m'.config = m.config)
          _ _ rfl fun _ h _ _ => h
      have hremove : ∀ (ids : List String) (m : CertificateManager),
          (ids.foldl removeRuntime m).config = m.config ∧
            (ids.foldl removeRuntime m).retry = m.retry := fun ids m =>
        List.foldlRecOn (motive := fun m' : CertificateManager =>
          m'.config = m.config ∧ m'.retry = m.retry) _ _ ⟨rfl, rfl⟩ fun _ h _ _ => h
      have hinstall : ∀ (rs : List Replacement) (m : CertificateManager),
          (rs.foldl (fun m r => m.installRuntime r.1 r.2.1 r.2.2) m).config = m.config ∧
            (rs.foldl (fun m r => m.installRuntime r.1 r.2.1 r.2.2) m).retry = m.retry :=
        fun rs m => List.foldlRecOn (motive := fun m' : CertificateManager =>
          m'.config = m.config ∧ m'.retry = m.retry) _ _ ⟨rfl, rfl⟩ fun _ h _ _ => h
      refine ⟨_, rfl, ?_, ?_⟩
      · rw [(hinstall _ _).1, (hremove _ _).1, hdiscard]
      · rw [(hinstall _ _).2, (hremove _ _).2, foldl_discard_retry, if_neg hgone]
    rw [hm₁, lookup_resetRetry, hlookup]
    intro current hcurrent certificate hmem hid item hitem
    have hitem' : item.autoRenew = true := by
      simpa [renewal, hconfig.symm.trans hcurrent, hitem] using hbefore
    have hnext : (m.installConfig lib disk now config).config = some config := rfl
    rw [← hid, autoRenew_of_mem hnext hregular hmem] at hafter
    rw [hitem', hafter]
  have hautomatic := hafter.trans hbefore.symm
  simp only [renewal] at hautomatic ⊢
  rw [hautomatic, hactive, hstatus, hretry]

/-! ## The results of tasks -/

/-- What comes of the output of the active task. -/
inductive Handled where
  | deployed
  | failed
  | waiting
deriving DecidableEq

/-- A certificate can be put into its resolver. -/
def deploys (m : CertificateManager) (lib : Libraries) (certificateId : String)
    (certificate : IssuedCertificate) : Bool :=
  (m.resolvers.lookup certificateId).isSome &&
    (lib.tls.setPem certificate.certificatePem certificate.privateKeyPem).isOk

def handled (m : CertificateManager) (lib : Libraries) (output : TaskOutput) : Handled :=
  match output.result with
  | .begin (.ok (.issued certificate)) | .continued (.ok certificate) =>
    if m.deploys lib output.certificateId certificate then .deployed else .failed
  | .begin (.ok (.waiting _)) | .manualNotReady _ _ => .waiting
  | .begin (.error _) | .continued (.error _) => .failed

/-- A certificate that cannot be deployed has failed. -/
lemma deploy_eq_fail {certificateId : String} {certificate : IssuedCertificate}
    (h : m.deploys lib certificateId certificate = false) (now : UInt64) :
    ∃ error, m.deploy lib certificateId certificate now = m.fail certificateId error now := by
  unfold deploy
  cases href : m.resolvers.lookup certificateId with
  | none => exact ⟨_, rfl⟩
  | some ref =>
    cases hpem : lib.tls.setPem certificate.certificatePem certificate.privateKeyPem with
    | error error => exact ⟨_, rfl⟩
    | ok certified =>
      simp [deploys, href, hpem, Except.isOk, Except.toBool] at h

lemma renewal_deploy_of_ne {c : String} (hid : id ≠ c) (certificate : IssuedCertificate)
    (now : UInt64) : (m.deploy lib c certificate now).renewal id = m.renewal id := by
  cases hdeploys : m.deploys lib c certificate with
  | false =>
    obtain ⟨error, herror⟩ := deploy_eq_fail hdeploys now
    rw [herror, renewal_fail, if_neg hid]
  | true =>
    unfold deploy
    split
    · rw [renewal_fail, if_neg hid]
    · split
      · rw [renewal_fail, if_neg hid]
      · simp only [renewal, modifyStatus, AList.lookup_modify, if_neg hid,
          AList.lookup_erase_ne hid]

lemma renewal_storePending (m : CertificateManager) (c id : String) (pending : ManualOrder)
    (error : Option ProxyError) : (m.storePending c pending error).renewal id = m.renewal id := by
  have hexpires := expiresAt_modify m.statuses c id (f := fun status =>
    { status with
      status := .waitingDns
      lastError := error.map ProxyError.display
      manualRecords := pending.records }) fun _ => rfl
  simp only [renewal, storePending, modifyStatus] at hexpires ⊢
  rw [hexpires]

/-- The output of the task of another certificate. -/
lemma renewal_handleTask_of_ne (lib : Libraries) (now : UInt64) {output : TaskOutput}
    (hid : id ≠ output.certificateId) :
    (m.handleTask lib now output).renewal id = m.renewal id := by
  have hpublish : ∀ m : CertificateManager, m.publish.renewal id = m.renewal id := fun _ => rfl
  have herase : ({ m with active := m.active.erase output.certificateId } :
      CertificateManager).renewal id = m.renewal id := by
    simp only [renewal, AList.lookup_erase_ne hid]
  unfold handleTask
  split
  · rw [hpublish]
    split
    · rw [renewal_deploy_of_ne hid, herase]
    · rw [renewal_deploy_of_ne hid, herase]
    · rw [renewal_storePending, herase]
    · rw [renewal_storePending, herase]
    · rw [renewal_fail, if_neg hid, herase]
    · rw [renewal_fail, if_neg hid, herase]
  · rfl

/-- The output of the active task of the certificate, unless it is deployed. -/
lemma renewal_handleTask (lib : Libraries) (now : UInt64) {output : TaskOutput}
    (haccepts : m.accepts output = true) (hhandled : m.handled lib output ≠ .deployed) :
    (m.handleTask lib now output).renewal output.certificateId =
      let r := { m.renewal output.certificateId with active := false }
      if m.handled lib output = .failed then r.failed output.certificateId now else r := by
  have hpublish : ∀ m : CertificateManager,
    m.publish.renewal output.certificateId = m.renewal output.certificateId := fun _ => rfl
  have herase : ({ m with active := m.active.erase output.certificateId } :
      CertificateManager).renewal output.certificateId =
      { m.renewal output.certificateId with active := false } := by
    simp only [renewal, AList.lookup_erase, Option.isSome_none]
  obtain ⟨certificateId, generation, result⟩ := output
  have hdeploy : ∀ certificate : IssuedCertificate,
      m.deploys lib certificateId certificate = false →
      (({ m with active := m.active.erase certificateId } : CertificateManager).deploy lib
        certificateId certificate now).renewal certificateId =
        ({ m.renewal certificateId with active := false } : Renewal).failed certificateId now := by
    intro certificate hdeploys
    obtain ⟨error, herror⟩ := deploy_eq_fail
      (m := { m with active := m.active.erase certificateId }) hdeploys now
    rw [herror, renewal_fail, if_pos rfl, herase]
  rw [handleTask, if_pos haccepts, hpublish]
  cases result with
  | begin result =>
    cases result with
    | error error =>
      simp only [handled, if_true]
      rw [renewal_fail, if_pos rfl, herase]
    | ok result =>
      cases result with
      | issued certificate =>
        have hdeploys : m.deploys lib certificateId certificate = false :=
          Bool.eq_false_iff.mpr fun h => hhandled (if_pos h)
        simp only [handled, hdeploys, Bool.false_eq_true, if_false, if_true]
        exact hdeploy certificate hdeploys
      | waiting pending =>
        simp only [handled, reduceCtorEq, if_false]
        rw [renewal_storePending, herase]
  | continued result =>
    cases result with
    | error error =>
      simp only [handled, if_true]
      rw [renewal_fail, if_pos rfl, herase]
    | ok certificate =>
      have hdeploys : m.deploys lib certificateId certificate = false :=
        Bool.eq_false_iff.mpr fun h => hhandled (if_pos h)
      simp only [handled, hdeploys, Bool.false_eq_true, if_false, if_true]
      exact hdeploy certificate hdeploys
  | manualNotReady pending error =>
    simp only [handled, reduceCtorEq, if_false]
    rw [renewal_storePending, herase]

end CertificateManager

end GateRust.Proxy
