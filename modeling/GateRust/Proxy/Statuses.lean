/-
# Statuses and tasks

For every certificate the manager has a status, which the administrator sees, and it may have an
entry among the active tasks or a waiting order, which decide what the manager does.  The handlers
change them one after the other, with many ways out in between.  The three always agree: a
certificate is being issued or renewed when it has an active task, and waits for DNS records when
it has a waiting order.
-/
import GateRust.Proxy.ActiveTasks
import GateRust.Proxy.ServedNames

namespace GateRust.Proxy

open Machine

/-! ## What the maps say about a certificate -/

/-- A status without a task and without an order. -/
def CertificateStatus.isQuiet : CertificateStatus → Bool
  | .issuing | .renewing | .waitingDns => false
  | .idle | .valid | .failed | .expired => true

/-- The statuses that a task with the given result leaves behind. -/
def TaskResult.Leaves (result : TaskResult) (status : CertificateStatus) : Prop :=
  match result.product with
  | some (.inr _) => status = .waitingDns
  | some (.inl _) | none => status.isQuiet = true

/-- The status of a certificate, and whether it has an active task and a waiting order. -/
structure StatusView where
  status : Option CertificateStatus
  active : Bool
  pending : Bool

def StatusView.Fits (v : StatusView) : Prop :=
  (v.active = true ↔ v.status = some .issuing ∨ v.status = some .renewing) ∧
    (v.pending = true ↔ v.status = some .waitingDns)

namespace StatusView

lemma fits_quiet {status : Option CertificateStatus} (h : ∀ s ∈ status, s.isQuiet = true) :
    Fits ⟨status, false, false⟩ := by
  cases status with
  | none => simp [Fits]
  | some s =>
    have hs := h s rfl
    cases s <;> simp_all [Fits, CertificateStatus.isQuiet]

lemma fits_busy {status : CertificateStatus} (h : status = .issuing ∨ status = .renewing) :
    Fits ⟨some status, true, false⟩ := by
  rcases h with rfl | rfl <;> simp [Fits]

lemma fits_waiting : Fits ⟨some .waitingDns, false, true⟩ := by simp [Fits]

/-- A quiet status can be replaced by another one. -/
lemma Fits.quiet {s s' : CertificateStatus} {active pending : Bool}
    (h : Fits ⟨some s, active, pending⟩) (hs : s.isQuiet = true) (hs' : s'.isQuiet = true) :
    Fits ⟨some s', active, pending⟩ := by
  have hnone : active = false ∧ pending = false := by
    cases s <;> simp_all [Fits, CertificateStatus.isQuiet]
  rw [hnone.1, hnone.2]
  exact fits_quiet (by simpa using hs')

end StatusView

namespace Ledger

variable {l l' : Ledger} {statuses : HashMap String CertificateRuntimeStatus} {c : String}
  {f : CertificateRuntimeStatus → CertificateRuntimeStatus}

def view (l : Ledger) (statuses : HashMap String CertificateRuntimeStatus) (c : String) :
    StatusView :=
  ⟨(statuses.lookup c).map (·.status), (l.active.lookup c).isSome, (l.pending.lookup c).isSome⟩

/-- Every certificate with a resolver has a status, and the statuses fit the tasks and orders. -/
structure Agrees (l : Ledger) (statuses : HashMap String CertificateRuntimeStatus) : Prop where
  fits : ∀ c, (l.view statuses c).Fits
  keys : ∀ c, c ∈ statuses ↔ c ∈ l.resolvers

namespace Agrees

/-- What happens to one certificate has to fit there only. -/
lemma modify (h : l.Agrees statuses) (hresolvers : l'.resolvers = l.resolvers)
    (hother : ∀ c' ≠ c, l'.active.lookup c' = l.active.lookup c' ∧
      l'.pending.lookup c' = l.pending.lookup c')
    (hself : StatusView.Fits ⟨(statuses.lookup c).map fun s => (f s).status,
      (l'.active.lookup c).isSome, (l'.pending.lookup c).isSome⟩) :
    l'.Agrees (statuses.modify c f) := by
  refine ⟨fun c' => ?_, fun c' => ?_⟩
  · rw [view, AList.lookup_modify]
    by_cases hc : c' = c
    · rw [if_pos hc, hc, Option.map_map]
      exact hself
    · rw [if_neg hc, (hother c' hc).1, (hother c' hc).2]
      exact h.fits c'
  · rw [AList.mem_modify, hresolvers]
    exact h.keys c'

/-- The tasks do not matter. -/
lemma of_tasks (h : l.Agrees statuses) (tasks : List Task) :
    { l with tasks := tasks }.Agrees statuses :=
  ⟨h.fits, h.keys⟩

lemma start (h : l.Agrees statuses) (hc : c ∈ l.resolvers) (body : TaskBody) (cacheRoot : String)
    (hf : ∀ s, (f s).status = .issuing ∨ (f s).status = .renewing) :
    (l.start c body cacheRoot).Agrees (statuses.modify c f) := by
  obtain ⟨s, hs⟩ := AList.lookup_of_mem ((h.keys c).mpr hc)
  refine h.modify rfl (fun c' hc' => ⟨AList.lookup_insert_ne hc', AList.lookup_erase_ne hc'⟩) ?_
  have hactive : (l.start c body cacheRoot).active.lookup c = some _ := AList.lookup_insert _
  have hpending : (l.start c body cacheRoot).pending.lookup c = none := AList.lookup_erase _ _
  rw [hs, hactive, hpending]
  exact StatusView.fits_busy (hf s)

lemma fail (h : l.Agrees statuses) (hactive : l.active.lookup c = none)
    (hpending : l.pending.lookup c = none) (hf : ∀ s, (f s).status.isQuiet = true) :
    l.Agrees (statuses.modify c f) := by
  refine h.modify rfl (fun _ _ => ⟨rfl, rfl⟩) ?_
  rw [hactive, hpending]
  refine StatusView.fits_quiet fun s hs => ?_
  obtain ⟨old, -, rfl⟩ := Option.map_eq_some_iff.mp hs
  exact hf old

/-- A certificate with an active task has no waiting order. -/
lemma pending_of_active (h : l.Agrees statuses) {a : ActiveTask}
    (hactive : l.active.lookup c = some a) :
    l.pending.lookup c = none ∧ ∃ s, statuses.lookup c = some s := by
  obtain ⟨hbusy, hwaiting⟩ := h.fits c
  simp only [view, hactive, Option.isSome_some, true_iff] at hbusy
  have hsome : ∃ s, statuses.lookup c = some s := by
    rcases hbusy with hbusy | hbusy
    all_goals
      obtain ⟨s, hs, -⟩ := Option.map_eq_some_iff.mp hbusy
      exact ⟨s, hs⟩
  refine ⟨?_, hsome⟩
  cases hpending : l.pending.lookup c with
  | none => rfl
  | some order =>
    simp only [view, hpending, Option.isSome_some, true_iff] at hwaiting
    rw [hwaiting] at hbusy
    simp at hbusy

/-- The end of the active task leaves an order and the status that waits for it, or a quiet
status. -/
lemma settle (h : l.Agrees statuses) {a : ActiveTask} (hactive : l.active.lookup c = some a)
    {result : TaskResult} (hf : ∀ s, result.Leaves (f s).status) :
    (l.settle c result).Agrees (statuses.modify c f) := by
  obtain ⟨hpending, s, hs⟩ := h.pending_of_active hactive
  have hnone : (l.settle c result).active.lookup c = none := AList.lookup_erase _ _
  refine h.modify rfl (fun c' hc' => ⟨AList.lookup_erase_ne hc', ?_⟩) ?_
  · cases hproduct : result.product with
    | none => simp only [Ledger.settle, hproduct]
    | some product =>
      cases product with
      | inl certificate => simp only [Ledger.settle, hproduct]
      | inr order =>
        simp only [Ledger.settle, hproduct]
        exact AList.lookup_insert_ne hc'
  · have hs' := hf s
    rw [hs, hnone]
    cases hproduct : result.product with
    | none =>
      simp only [TaskResult.Leaves, hproduct] at hs'
      simp only [Ledger.settle, hproduct, hpending]
      exact StatusView.fits_quiet (by simpa using hs')
    | some product =>
      cases product with
      | inl certificate =>
        simp only [TaskResult.Leaves, hproduct] at hs'
        simp only [Ledger.settle, hproduct, hpending]
        exact StatusView.fits_quiet (by simpa using hs')
      | inr order =>
        simp only [TaskResult.Leaves, hproduct] at hs'
        simp only [Ledger.settle, hproduct, AList.lookup_insert, Option.map_some, hs']
        exact StatusView.fits_waiting

lemma markExpired (h : l.Agrees statuses) (now : UInt64) :
    l.Agrees (statuses.mapValues (CertificateManager.markExpired now)) := by
  refine ⟨fun c => ?_, fun c => ?_⟩
  · have hfits := h.fits c
    rw [view, AList.lookup_mapValues]
    rw [view] at hfits
    cases hs : statuses.lookup c with
    | none =>
      rw [hs] at hfits
      exact hfits
    | some s =>
      rw [hs] at hfits
      simp only [Option.map_some, CertificateManager.markExpired] at hfits ⊢
      split_ifs with hexpired
      · -- only a quiet status expires
        rw [Bool.and_eq_true, Bool.or_eq_true, decide_eq_true_eq, decide_eq_true_eq] at hexpired
        refine hfits.quiet ?_ rfl
        rcases hexpired.2 with hstatus | hstatus
        all_goals
          rw [hstatus]
          rfl
      · exact hfits
  · rw [← h.keys, ← AList.lookup_isSome, ← AList.lookup_isSome, AList.lookup_mapValues,
      Option.isSome_map]

end Agrees

/-! ## Orders and the numbers of tasks -/

/-- The orders are those of certificates that are validated by hand, no task has ended abnormally,
and the tasks have different numbers. -/
structure Orderly (l : Ledger) : Prop where
  pending : ∀ c order, l.pending.lookup c = some order →
    order.request.certificate.validation = some .manual
  body : ∀ t ∈ l.tasks, ∀ order, t.body = .manual order →
    order.request.certificate.validation = some .manual
  ended : ∀ t ∈ l.tasks, t.state ≠ .panicked
  numbers : (l.tasks.map (·.cancellation)).Nodup

namespace Orderly

variable {task : Task} {index : Nat}

lemma start (h : l.Orderly) (hl : l.Consistent) {body : TaskBody} (cacheRoot : String)
    (hbody : ∀ order, body = .manual order → l.pending.lookup c = some order) :
    (l.start c body cacheRoot).Orderly := by
  constructor
  case pending =>
    intro c' order horder
    have horder' : (l.pending.erase c).lookup c' = some order := horder
    rw [AList.lookup_erase_eq] at horder'
    split_ifs at horder'
    exact h.pending c' order horder'
  case body =>
    intro t ht order horder
    rcases mem_start ht with ht | rfl
    · exact h.body t ht order horder
    · exact h.pending c order (hbody order horder)
  case ended =>
    intro t ht
    rcases mem_start ht with ht | rfl
    · exact h.ended t ht
    · exact fun hstate => nomatch hstate
  case numbers => exact hl.nodup_start h.numbers c body cacheRoot

lemma applied (h : l.Orderly) {config : ProxyConfig} (happly : l.Applied config l') :
    l'.Orderly := by
  constructor
  case pending => exact fun c order horder => h.pending c order (happly.pending horder).1
  case body => rw [happly.tasks_eq]; exact h.body
  case ended => rw [happly.tasks_eq]; exact h.ended
  case numbers => rw [happly.tasks_eq]; exact h.numbers

lemma finish (h : l.Orderly) (htask : l.tasks[index]? = some task) (result : TaskResult) :
    Orderly { l with tasks := l.tasks.set index { task with state := .returned result } } := by
  have hmem := List.mem_of_getElem? htask
  constructor
  case pending => exact h.pending
  case body =>
    intro t ht
    rcases List.mem_or_eq_of_mem_set ht with ht | rfl
    · exact h.body t ht
    · exact h.body task hmem
  case ended =>
    intro t ht
    rcases List.mem_or_eq_of_mem_set ht with ht | rfl
    · exact h.ended t ht
    · exact fun hstate => nomatch hstate
  case numbers =>
    rw [map_cancellation_set htask]
    exact h.numbers

lemma drop (h : l.Orderly) (index : Nat) :
    Orderly { l with tasks := l.tasks.eraseIdx index } where
  pending := h.pending
  body t ht := h.body t (List.mem_of_mem_eraseIdx ht)
  ended t ht := h.ended t (List.mem_of_mem_eraseIdx ht)
  numbers := h.numbers.sublist ((List.eraseIdx_sublist _ _).map _)

lemma settle (h : l.Orderly) (hl : l.Consistent) (htask : task ∈ l.tasks) {result : TaskResult}
    (hresult : task.state = .returned result) : (l.settle task.certificateId result).Orderly := by
  refine ⟨fun c order horder => ?_, h.body, h.ended, h.numbers⟩
  rcases pending_settle horder with horder | ⟨rfl, hproduct⟩
  · exact h.pending c order horder
  · obtain ⟨answers, rfl⟩ := hl.taskResult task htask result hresult
    rcases (TaskBody.run_order hproduct).2 with hbody | hmanual
    · exact h.body task htask order hbody
    · exact hmanual

end Orderly

/-- A certificate that renews itself has no waiting order. -/
lemma pending_of_autoRenew (hl : l.Consistent) (h : l.Orderly) {config : ProxyConfig}
    (hconfig : l.config = some config) (hregular : config.Regular) {certificate : CertificateConfig}
    (hmem : certificate ∈ config.certificates) (hrenew : certificate.autoRenew = true) :
    l.pending.lookup certificate.id = none := by
  cases hpending : l.pending.lookup certificate.id with
  | none => rfl
  | some order =>
    obtain ⟨config', hconfig', first, account, hfirst, -, -, hvalidation, -⟩ :=
      hl.pendingGiven hpending
    obtain rfl := Option.some.inj (hconfig.symm.trans hconfig')
    have hsame : first = certificate := hregular.eq_of_id (ProxyConfig.certificate?_mem hfirst) hmem
      (ProxyConfig.certificate?_id hfirst)
    obtain ⟨dnsAccountId, hdns⟩ := hregular.renew certificate hmem hrenew
    rw [h.pending _ order hpending, hsame, hdns] at hvalidation
    cases hvalidation

end Ledger

namespace CertificateManager

variable {lib : Libraries} {m m' : CertificateManager}

/-! ## Starts and failures -/

lemma fail_statuses (m : CertificateManager) (certificateId : String) (error : ProxyError)
    (now : UInt64) :
    ∃ f : CertificateRuntimeStatus → CertificateRuntimeStatus,
      (∀ s, (f s).status.isQuiet = true) ∧
      (m.fail certificateId error now).statuses = m.statuses.modify certificateId f := by
  refine ⟨fun status => { status with
    status := if status.expiresAt.any (· ≤ now) then .expired else .failed
    lastError := some error.display
    manualRecords := [] }, fun s => ?_, ?_⟩
  · simp only
    split_ifs <;> rfl
  · unfold fail
    split_ifs <;> rfl

lemma deploy_statuses (m : CertificateManager) (certificateId : String)
    (certificate : IssuedCertificate) (now : UInt64) :
    ∃ f : CertificateRuntimeStatus → CertificateRuntimeStatus,
      (∀ s, (f s).status.isQuiet = true) ∧
      (m.deploy lib certificateId certificate now).statuses =
        m.statuses.modify certificateId f := by
  unfold deploy
  split
  · exact fail_statuses ..
  · split
    · exact fail_statuses ..
    · exact ⟨_, fun _ => rfl, rfl⟩

/-- The output of the active task decides the status. -/
lemma handleTask_statuses (lib : Libraries) {output : TaskOutput} (now : UInt64)
    (h : m.accepts output = true) :
    ∃ f : CertificateRuntimeStatus → CertificateRuntimeStatus,
      (∀ s, output.result.Leaves (f s).status) ∧
      (m.handleTask lib now output).statuses = m.statuses.modify output.certificateId f := by
  obtain ⟨certificateId, generation, result⟩ := output
  have hpublish : ∀ m : CertificateManager, m.publish.statuses = m.statuses := fun _ => rfl
  rw [handleTask, if_pos h, hpublish]
  cases result with
  | begin result =>
    cases result with
    | error error => exact fail_statuses _ certificateId error now
    | ok result =>
      cases result with
      | issued certificate => exact deploy_statuses _ certificateId certificate now
      | waiting pending =>
        refine ⟨_, ?_, rfl⟩
        exact fun _ => rfl
  | continued result =>
    cases result with
    | error error => exact fail_statuses _ certificateId error now
    | ok certificate => exact deploy_statuses _ certificateId certificate now
  | manualNotReady pending error =>
    refine ⟨_, ?_, rfl⟩
    exact fun _ => rfl

/-- The ledger and the statuses of a manager agree. -/
def Agrees (m : CertificateManager) : Prop := m.ledger.Agrees m.statuses

lemma agrees_startIssue (h : m.Agrees) (hm : m.ledger.Consistent) (certificateId : String)
    (renewal : Bool) : (m.startIssue certificateId renewal).2.Agrees := by
  rcases m.startIssue_cases certificateId renewal with ⟨-, hledger, hstatuses⟩ | ⟨config,
    certificate, account, dnsAccount, -, hconfig, hissuance, -, hledger, hstatuses⟩
  · rw [Agrees, hledger, hstatuses]
    exact h
  · have hfind := (ProxyConfig.issuanceConfig_ok hissuance).1
    have hknown : certificateId ∈ m.resolvers := by
      have hmem := hm.known hconfig certificate (ProxyConfig.certificate?_mem hfind)
      rwa [ProxyConfig.certificate?_id hfind] at hmem
    rw [Agrees, hledger, hstatuses]
    refine Ledger.Agrees.start h hknown _ _ fun s => ?_
    cases renewal
    · exact Or.inl rfl
    · exact Or.inr rfl

lemma agrees_startContinue (h : m.Agrees) (certificateId : String) :
    (m.startContinue certificateId).2.Agrees := by
  rcases m.startContinue_cases certificateId with ⟨hledger, hstatuses⟩ | ⟨config, pending, -, -,
    hpending, hledger, hstatuses⟩
  · rw [Agrees, hledger, hstatuses]
    exact h
  · -- a certificate with an order has a status, and so a resolver
    have hwaiting : (m.statuses.lookup certificateId).map (·.status) = some .waitingDns :=
      (h.fits certificateId).2.mp (by rw [Ledger.view, ledger, hpending]; rfl)
    obtain ⟨s, hs, -⟩ := Option.map_eq_some_iff.mp hwaiting
    have hknown : certificateId ∈ m.resolvers := (h.keys certificateId).mp (AList.mem_of_lookup hs)
    rw [Agrees, hledger, hstatuses]
    exact Ledger.Agrees.start h hknown _ _ fun _ => Or.inl rfl

lemma agrees_startRenewal (h : m.Agrees) (hm : m.ledger.Consistent) (now : UInt64)
    {certificateId : String} (hactive : m.active.lookup certificateId = none)
    (hpending : m.pending.lookup certificateId = none) :
    (m.startRenewal now certificateId).Agrees := by
  have hstart := agrees_startIssue h hm certificateId true
  rcases m.startIssue_cases certificateId true with ⟨⟨error, herror⟩, hledger, -⟩ | ⟨_, _, _, _, -,
    -, -, hok, -⟩
  · have heq : m.startRenewal now certificateId =
        (m.startIssue certificateId true).2.fail certificateId error now := by
      rw [startRenewal, ← Prod.mk.eta (p := m.startIssue certificateId true), herror]
    obtain ⟨f, hf, hstatuses⟩ :=
      fail_statuses (m.startIssue certificateId true).2 certificateId error now
    rw [heq, Agrees, ledger_fail, hstatuses]
    exact Ledger.Agrees.fail hstart (hledger ▸ hactive) (hledger ▸ hpending) hf
  · have heq : m.startRenewal now certificateId = (m.startIssue certificateId true).2 := by
      rw [startRenewal, ← Prod.mk.eta (p := m.startIssue certificateId true), hok]
    rw [heq]
    exact hstart

/-- A renewal does not touch the other certificates. -/
lemma lookup_startRenewal (m : CertificateManager) (now : UInt64) {certificateId c : String}
    (hc : c ≠ certificateId) :
    (m.startRenewal now certificateId).active.lookup c = m.active.lookup c ∧
      (m.startRenewal now certificateId).pending.lookup c = m.pending.lookup c := by
  have hledger := m.ledger_startRenewal now certificateId
  have hactive : (m.startRenewal now certificateId).active =
      (m.startIssue certificateId true).2.ledger.active := congrArg Ledger.active hledger
  have hpending : (m.startRenewal now certificateId).pending =
      (m.startIssue certificateId true).2.ledger.pending := congrArg Ledger.pending hledger
  rw [hactive, hpending]
  rcases m.startIssue_cases certificateId true with ⟨-, hstart, -⟩ | ⟨_, _, _, _, -, -, -, -,
    hstart, -⟩
  · rw [hstart]
    exact ⟨rfl, rfl⟩
  · rw [hstart]
    exact ⟨AList.lookup_insert_ne hc, AList.lookup_erase_ne hc⟩

/-! ## The scheduler -/

/-- The renewals are started one after the other; each finds the next certificate without a task
and without an order. -/
lemma agrees_foldl_startRenewal (now : UInt64) (ids : List String) (hids : ids.Nodup)
    (h : m.Agrees) (hm : m.ledger.Consistent)
    (hfree : ∀ c ∈ ids, m.active.lookup c = none ∧ m.pending.lookup c = none) :
    (ids.foldl (startRenewal now) m).Agrees := by
  induction ids generalizing m with
  | nil => exact h
  | cons id ids ih =>
    obtain ⟨hid, hids⟩ := List.nodup_cons.mp hids
    obtain ⟨hactive, hpending⟩ := hfree id List.mem_cons_self
    refine ih hids (agrees_startRenewal h hm now hactive hpending) ?_ fun c hc => ?_
    · rw [ledger_startRenewal]
      exact hm.moves ((keptByStart_moves m.ledger).startIssue .refl id true)
    · have hne : c ≠ id := fun heq => hid (heq ▸ hc)
      rw [(m.lookup_startRenewal now hne).1, (m.lookup_startRenewal now hne).2]
      exact hfree c (List.mem_cons_of_mem _ hc)

lemma agrees_startDue (h : m.Agrees) (hm : m.ledger.Consistent) (horderly : m.ledger.Orderly)
    (hregular : ∀ config, m.config = some config → config.Regular) (now : UInt64) :
    (m.startDue now).Agrees := by
  unfold startDue
  split
  · exact h
  · next config hconfig =>
    refine agrees_foldl_startRenewal now _ ?_ h hm ?_
    · exact (hregular config hconfig).ids.sublist
        ((List.filter_sublist.trans List.filter_sublist).map _)
    · intro c hc
      obtain ⟨certificate, hmem, rfl⟩ := List.mem_map.mp hc
      obtain ⟨hmem, hdue⟩ := List.mem_filter.mp hmem
      obtain ⟨hmem, hrenew⟩ := List.mem_filter.mp hmem
      refine ⟨?_, Ledger.pending_of_autoRenew hm horderly hconfig (hregular config hconfig) hmem
        hrenew⟩
      unfold isDue at hdue
      split at hdue
      · cases hdue
      · rw [Bool.and_eq_true, Bool.not_eq_true', Option.isSome_eq_false_iff,
          Option.isNone_iff_eq_none] at hdue
        exact hdue.2

lemma agrees_scheduleDue (h : m.Agrees) (hm : m.ledger.Consistent) (horderly : m.ledger.Orderly)
    (hregular : ∀ config, m.config = some config → config.Regular) (now : UInt64) :
    (m.scheduleDue now).Agrees := by
  have hpublish : ∀ m : CertificateManager, m.publish.Agrees = m.Agrees := fun _ => rfl
  rw [scheduleDue, apply_ite Agrees, hpublish, ite_self]
  exact agrees_startDue (m := { m with statuses := m.statuses.mapValues (markExpired now) })
    (Ledger.Agrees.markExpired h now) hm horderly hregular now

/-! ## Applying a configuration -/

/-- What is loaded for a certificate has a quiet status. -/
lemma loadCertificateRuntime_quiet (lib : Libraries) (cache : CertificateCache)
    (certificate : CertificateConfig) (now : UInt64) :
    (loadCertificateRuntime lib cache certificate now).2.status.isQuiet = true := by
  unfold loadCertificateRuntime
  split
  · split
    · simp only
      split_ifs <;> rfl
    · rfl
  · simp only
    split_ifs <;> rfl
  · rfl

lemma agrees_installConfig (h : m.Agrees) {config : ProxyConfig} (hconfig : config.Regular)
    (disk : Disk) (now : UInt64) : (m.installConfig lib disk now config).Agrees := by
  refine ⟨fun c => ?_, fun c => ?_⟩
  · obtain ⟨hactive, hpending⟩ := lookup_installConfig lib m disk now config c
    have hview : (m.installConfig lib disk now config).ledger.view
        (m.installConfig lib disk now config).statuses c =
      ⟨((m.installConfig lib disk now config).statuses.lookup c).map (·.status),
        ((m.installConfig lib disk now config).active.lookup c).isSome,
        ((m.installConfig lib disk now config).pending.lookup c).isSome⟩ := rfl
    rw [hview, hactive, hpending]
    by_cases hreload : c ∈ certificatesRequiringReload m.config config
    · obtain ⟨certificate, hcertificate, rfl⟩ := reload_subset hreload
      rw [(lookup_of_reload lib disk now hconfig hcertificate hreload).1,
        if_pos (List.mem_append_left _ hreload), if_pos (List.mem_append_left _ hreload)]
      refine StatusView.fits_quiet fun s hs => ?_
      cases hs
      exact loadCertificateRuntime_quiet ..
    · rw [(lookup_of_not_reload lib disk now hreload).2]
      by_cases hremoved : c ∈ m.removedBy config
      · rw [if_pos hremoved, if_pos (List.mem_append_right _ hremoved),
          if_pos (List.mem_append_right _ hremoved)]
        exact StatusView.fits_quiet (by simp)
      · have hstays : c ∉ certificatesRequiringReload m.config config ++ m.removedBy config := by
          rw [List.mem_append, not_or]
          exact ⟨hreload, hremoved⟩
        rw [if_neg hremoved, if_neg hstays, if_neg hstays]
        exact h.fits c
  · show c ∈ (m.installConfig lib disk now config).statuses ↔
      c ∈ (m.installConfig lib disk now config).resolvers
    by_cases hreload : c ∈ certificatesRequiringReload m.config config
    · obtain ⟨certificate, hcertificate, rfl⟩ := reload_subset hreload
      obtain ⟨hstatus, hresolver⟩ := lookup_of_reload lib disk now hconfig hcertificate hreload
      exact iff_of_true (AList.mem_of_lookup hstatus) hresolver
    · obtain ⟨hresolver, hstatus⟩ := lookup_of_not_reload lib disk now hreload
      rw [← AList.lookup_isSome, ← AList.lookup_isSome, hresolver, hstatus]
      split_ifs
      · rfl
      · rw [AList.lookup_isSome, AList.lookup_isSome]
        exact h.keys c

/-! ## Runs -/

/-- The configurations have passed the validation, and no task ends abnormally. -/
def Ordinary (parseUri : String → Option Uri) (m : CertificateManager) (event : Event) : Prop :=
  m.Validated parseUri event ∧ ∀ index, event ≠ .panic index

/-- No task is left of those that `2 ^ 64` tasks have been started after. -/
def NotOvertaken (m : CertificateManager) : Prop :=
  ∀ t ∈ m.tasks, m.tokens ≤ t.cancellation + 2 ^ 64

instance (m : CertificateManager) : Decidable m.NotOvertaken :=
  inferInstanceAs (Decidable (∀ t ∈ m.tasks, _))

/-- What holds between the statuses, the tasks, the orders and the names. -/
structure Sound (m : CertificateManager) : Prop where
  served : m.NamesServed
  consistent : m.ledger.Consistent
  held : m.ledger.Held
  orderly : m.ledger.Orderly
  agrees : m.Agrees

lemma sound_new : new.Sound where
  served := namesServed_new
  consistent := consistent_new
  held := by simp [Ledger.Held, ledger, new]
  orderly := ⟨by simp [ledger, new], by simp [ledger, new], by simp [ledger, new],
    by simp [ledger, new]⟩
  agrees := ⟨fun c => StatusView.fits_quiet (by simp [new]), by simp [ledger, new]⟩

lemma keptByStart_orderly : KeptByStart fun l => l.Consistent ∧ l.Orderly := by
  rintro l config certificateId body ⟨hl, horderly⟩ hactive hconfig hbody
  refine ⟨?_, horderly.start hl _ ?_⟩
  · rcases hbody with ⟨request, rfl, hgives⟩ | horder
    · exact hl.start hactive hconfig (Or.inl hgives)
    · exact hl.start hactive hconfig (Or.inr horder)
  · rintro order rfl
    rcases hbody with ⟨request, hbegin, -⟩ | ⟨order', horder, heq⟩
    · cases hbegin
    · cases heq
      exact horder

section Step

variable {event : Event}

lemma orderly_step (h : m.ledger.Orderly) (hm : m.ledger.Consistent)
    (hok : ∀ index, event ≠ .panic index) (hstep : step lib m event = some m') :
    m'.ledger.Orderly := by
  cases event with
  | apply config disk now =>
    cases hstep
    have happly := m.applied_installConfig lib disk now config
    exact (keptByStart_orderly.scheduleDue ⟨hm.applied happly, h.applied happly⟩ now).2
  | issue certificateId =>
    cases hstep
    exact (keptByStart_orderly.startIssue ⟨hm, h⟩ certificateId false).2
  | «continue» certificateId =>
    cases hstep
    exact (keptByStart_orderly.startContinue ⟨hm, h⟩ certificateId).2
  | tick now =>
    cases hstep
    exact (keptByStart_orderly.scheduleDue ⟨hm, h⟩ now).2
  | finish index answers =>
    obtain ⟨task, htask, rfl⟩ := endTask_cases hstep
    exact h.finish htask _
  | panic index => exact absurd rfl (hok index)
  | join index now =>
    obtain ⟨task, htask, ⟨-, rfl⟩ | ⟨result, hstate, ⟨-, rfl⟩ | ⟨haccepts, rfl⟩⟩⟩ :=
      join_cases hstep
    · exact h.drop index
    · exact h.drop index
    · rw [handleTask_ledger (m := { m with tasks := m.tasks.eraseIdx index }) lib now haccepts]
      exact (h.settle hm (List.mem_of_getElem? htask) hstate).drop index

lemma agrees_step {parseUri : String → Option Uri} (h : m.Sound) (hok : m.Validated parseUri event)
    (hstep : step lib m event = some m') : m'.Agrees := by
  cases event with
  | apply config disk now =>
    cases hstep
    have hconfig : config.Regular := ProxyConfig.Validated.regular hok
    have happly := m.applied_installConfig lib disk now config
    refine agrees_scheduleDue (agrees_installConfig h.agrees hconfig disk now)
      (h.consistent.applied happly) (h.orderly.applied happly) (fun next hnext => ?_) now
    cases hnext
    exact hconfig
  | issue certificateId =>
    cases hstep
    exact agrees_startIssue h.agrees h.consistent certificateId false
  | «continue» certificateId =>
    cases hstep
    exact agrees_startContinue h.agrees certificateId
  | tick now =>
    cases hstep
    exact agrees_scheduleDue h.agrees h.consistent h.orderly h.served.regular now
  | finish index answers =>
    obtain ⟨task, -, rfl⟩ := endTask_cases hstep
    exact h.agrees.of_tasks _
  | panic index =>
    obtain ⟨task, -, rfl⟩ := endTask_cases hstep
    exact h.agrees.of_tasks _
  | join index now =>
    obtain ⟨task, -, ⟨-, rfl⟩ | ⟨result, -, ⟨-, rfl⟩ | ⟨haccepts, rfl⟩⟩⟩ := join_cases hstep
    · exact h.agrees.of_tasks _
    · exact h.agrees.of_tasks _
    · have hdropped : { m with tasks := m.tasks.eraseIdx index }.Agrees := h.agrees.of_tasks _
      obtain ⟨a, hactive, -⟩ := accepts_iff.mp haccepts
      obtain ⟨f, hf, hstatuses⟩ := handleTask_statuses
        (m := { m with tasks := m.tasks.eraseIdx index }) lib now haccepts
      rw [Agrees, handleTask_ledger (m := { m with tasks := m.tasks.eraseIdx index }) lib now
        haccepts, hstatuses]
      exact Ledger.Agrees.settle hdropped hactive hf

lemma Sound.step {parseUri : String → Option Uri} (h : m.Sound) (hok : m.Ordinary parseUri event)
    (hnot : m.NotOvertaken) (hstep : step lib m event = some m') : m'.Sound where
  served := h.served.step hok.1 hstep
  consistent := by
    refine h.consistent.moves (moves_of_step ?_ hstep)
    cases event with
    | join index now =>
      rw [Timely, timely, Option.all_eq_true]
      intro task htask
      have hle := hnot task (List.mem_of_getElem? htask)
      exact decide_eq_true (by omega)
    | _ => rfl
  held := by
    refine held_step h.held ?_ hstep
    cases event with
    | join index now =>
      rw [Unawaited, unawaited, Option.all_eq_true]
      intro task htask
      simp [h.orderly.ended task (List.mem_of_getElem? htask)]
    | _ => rfl
  orderly := orderly_step h.orderly h.consistent hok.2 hstep
  agrees := agrees_step h hok.1 hstep

end Step

/-- The generations of tasks tell them apart while none is overtaken. -/
lemma Sound.eq_of_generation (h : m.Sound) (hnot : m.NotOvertaken) {t t' : Task}
    (ht : t ∈ m.tasks) (ht' : t' ∈ m.tasks) (hgeneration : t'.generation = t.generation) :
    t' = t := by
  obtain ⟨hlt, hgen⟩ := h.consistent.taskNumber t ht
  obtain ⟨hlt', hgen'⟩ := h.consistent.taskNumber t' ht'
  have hle := hnot t ht
  have hle' := hnot t' ht'
  have hlt : t.cancellation < m.tokens := hlt
  have hlt' : t'.cancellation < m.tokens := hlt'
  rw [hgen, hgen', ← UInt64.toNat_inj, UInt64.toNat_ofNat', UInt64.toNat_ofNat'] at hgeneration
  have hnumber : t'.cancellation = t.cancellation := by omega
  exact List.inj_on_of_nodup_map h.orderly.numbers ht' ht hnumber

/-- The active task of a certificate is the only one with its generation. -/
lemma Sound.unique_task (h : m.Sound) (hnot : m.NotOvertaken) {c : String} {a : ActiveTask}
    (hactive : m.active.lookup c = some a) :
    ∃ t, m.tasks.filter (fun t => t.generation = a.generation) = [t] ∧ t.certificateId = c := by
  obtain ⟨t, ht, hcertificate, hgeneration, -⟩ := h.held c a hactive
  refine ⟨t, ?_, hcertificate⟩
  have hnodup : (m.tasks.filter fun t => t.generation = a.generation).Nodup :=
    (List.Nodup.of_map _ h.orderly.numbers).filter _
  apply List.perm_singleton.mp
  refine (List.perm_ext_iff_of_nodup hnodup (List.nodup_singleton t)).mpr fun t' => ?_
  rw [List.mem_filter, decide_eq_true_eq, List.mem_singleton]
  constructor
  · rintro ⟨ht', hgeneration'⟩
    exact h.eq_of_generation hnot ht ht' (hgeneration'.trans hgeneration.symm)
  · rintro rfl
    exact ⟨ht, hgeneration⟩

lemma Sound.active_iff (h : m.Sound) {c : String} : c ∈ m.active ↔
    ∃ s, m.statuses.lookup c = some s ∧ (s.status = .issuing ∨ s.status = .renewing) := by
  have hfits := (h.agrees.fits c).1
  rw [Ledger.view, AList.lookup_isSome] at hfits
  refine hfits.trans ?_
  simp only [Option.map_eq_some_iff, ← exists_or, ← and_or_left]

lemma Sound.pending_iff (h : m.Sound) {c : String} :
    c ∈ m.pending ↔ ∃ s, m.statuses.lookup c = some s ∧ s.status = .waitingDns := by
  have hfits := (h.agrees.fits c).2
  rw [Ledger.view, AList.lookup_isSome] at hfits
  exact hfits.trans Option.map_eq_some_iff

/-- **The statuses follow the tasks.**  In every run with validated configurations and without
abnormal ends, in which no task is overtaken by `2 ^ 64` others: no certificate has both an active
task and a waiting order; the certificates with a status and those with a resolver are the ones of
the configuration, and only these have tasks and orders; the status says which of the two a
certificate has; and an active task is the only one with its generation. -/
theorem statuses_follow_tasks {parseUri : String → Option Uri}
    (h : Reach (step lib) (fun m event => m.Ordinary parseUri event ∧ m.NotOvertaken) new m)
    (hnot : m.NotOvertaken) :
    (∀ c ∈ m.active, c ∉ m.pending) ∧
    (∀ config, m.config = some config → ∀ c,
      (c ∈ m.statuses ↔ c ∈ config.certificates.map (·.id)) ∧
      (c ∈ m.resolvers ↔ c ∈ config.certificates.map (·.id)) ∧
      (c ∈ m.active → c ∈ config.certificates.map (·.id)) ∧
      (c ∈ m.pending → c ∈ config.certificates.map (·.id))) ∧
    (∀ c, c ∈ m.active ↔
      ∃ s, m.statuses.lookup c = some s ∧ (s.status = .issuing ∨ s.status = .renewing)) ∧
    (∀ c, c ∈ m.pending ↔ ∃ s, m.statuses.lookup c = some s ∧ s.status = .waitingDns) ∧
    ∀ c a, m.active.lookup c = some a →
      ∃ t, m.tasks.filter (fun t => t.generation = a.generation) = [t] ∧ t.certificateId = c := by
  have hsound : m.Sound :=
    h.invariant sound_new fun _ _ _ hm hok hstep => hm.step hok.1 hok.2 hstep
  refine ⟨?_, ?_, fun _ => hsound.active_iff, fun _ => hsound.pending_iff, fun _ _ ha =>
    hsound.unique_task hnot ha⟩
  · intro c hc
    obtain ⟨a, ha⟩ := AList.lookup_of_mem hc
    have hpending : m.pending.lookup c = none := (hsound.agrees.pending_of_active ha).1
    exact AList.lookup_eq_none.mp hpending
  · intro config hconfig c
    have hresolvers : c ∈ m.resolvers ↔ c ∈ config.certificates.map (·.id) := by
      have hknown := hsound.served.serves.known c
      rw [hconfig] at hknown
      exact hknown.trans List.mem_map.symm
    have hstatuses : c ∈ m.statuses ↔ c ∈ config.certificates.map (·.id) :=
      (hsound.agrees.keys c).trans hresolvers
    refine ⟨hstatuses, hresolvers, fun hc => ?_, fun hc => ?_⟩
    · obtain ⟨s, hs, -⟩ := hsound.active_iff.mp hc
      exact hstatuses.mp (AList.mem_of_lookup hs)
    · obtain ⟨s, hs, -⟩ := hsound.pending_iff.mp hc
      exact hstatuses.mp (AList.mem_of_lookup hs)

/-- A certificate is requested, and its domains change while its task runs; both configurations
pass the validation. -/
lemma ordinary_overtakenEvents :
    ∀ m : CertificateManager, ∀ e ∈ overtakenEvents, m.Ordinary (fun _ => none) e := by
  have hold : (manualConfig "old.example.com").Validated fun _ => none :=
    ⟨manualConfig "old.example.com", by decide +kernel⟩
  have hnew : (manualConfig "new.example.com").Validated fun _ => none :=
    ⟨manualConfig "new.example.com", by decide +kernel⟩
  intro m e he
  simp only [overtakenEvents, List.mem_cons, List.not_mem_nil, or_false] at he
  rcases he with rfl | rfl | rfl
  · exact ⟨hold, fun _ h => nomatch h⟩
  · exact ⟨trivial, fun _ h => nomatch h⟩
  · exact ⟨hnew, fun _ h => nomatch h⟩

/-- The certificate is requested again after its domains have changed; the first task still
runs. -/
theorem site_issuing_with_task :
    ∃ m, Reach (step noCertificates)
        (fun m event => m.Ordinary (fun _ => none) event ∧ m.NotOvertaken) new m ∧
      m.tasks.length = 2 ∧ ∃ a, m.active.lookup "site" = some a ∧
      (∃ t, m.tasks.filter (fun t => t.generation = a.generation) = [t] ∧
        t.certificateId = "site") ∧
      ∃ s, m.statuses.lookup "site" = some s ∧ (s.status = .issuing ∨ s.status = .renewing) := by
  have hrun : (exec (step noCertificates) (fun m _ => m.NotOvertaken) new (overtakenEvents ++
      [.issue "site"])).any (fun m => decide (m.NotOvertaken ∧ m.tasks.length = 2 ∧
        m.active.lookup "site" = some ⟨2, 1⟩)) = true := by decide +kernel
  obtain ⟨m, hm, hview⟩ := (Option.any_eq_true _ _).mp hrun
  obtain ⟨hnot, htasks, hactive⟩ := of_decide_eq_true hview
  have hreach : Reach (step noCertificates)
      (fun m event => m.Ordinary (fun _ => none) event ∧ m.NotOvertaken) new m := by
    refine reach_of_exec_imp hm fun m e he hm => ⟨?_, hm⟩
    rcases List.mem_append.mp he with he | he
    · exact ordinary_overtakenEvents m e he
    · rw [List.mem_singleton.mp he]
      exact ⟨trivial, fun _ h => nomatch h⟩
  obtain ⟨-, -, hstatus, -, hunique⟩ := statuses_follow_tasks hreach hnot
  exact ⟨m, hreach, htasks, _, hactive, hunique "site" _ hactive,
    (hstatus "site").mp (AList.mem_of_lookup hactive)⟩

/-- After `2 ^ 64` further tasks the generation of the first one returns.  Two tasks that run carry
the generation of the active one. -/
theorem two_tasks_carry_generation :
    ∃ m a, Reach (step noCertificates) (Ordinary fun _ => none) new m ∧
      m.active.lookup "site" = some a ∧ m.tasks.length = 2 ∧
      ∀ t ∈ m.tasks, t.generation = a.generation ∧ t.state = .running := by
  have hissue : ∀ m : CertificateManager, m.Ordinary (fun _ => none) (.issue "site") :=
    fun m => ⟨trivial, fun _ h => nomatch h⟩
  obtain ⟨m, hreach, hm⟩ := exists_resting ordinary_overtakenEvents hissue
    (fun m => ⟨trivial, fun _ h => nomatch h⟩) (fun m => ⟨trivial, fun _ h => nomatch h⟩)
    (2 ^ 64 - 1)
  obtain ⟨m₁, task, hstart, hm₁⟩ := hm.start noCertificates
  obtain ⟨token, hactive⟩ := hm₁.active
  have hwrapped : UInt64.ofNat (2 ^ 64 - 1 + 1 + 1) = 1 := by decide
  refine ⟨m₁, _, hreach.next (hissue m) hstart, hactive, by rw [hm₁.tasks]; rfl, fun t ht => ?_⟩
  rw [hm₁.tasks] at ht
  simp only [List.mem_cons, List.not_mem_nil, or_false] at ht
  rcases ht with rfl | rfl
  · exact ⟨hwrapped.symm, rfl⟩
  · exact ⟨hm₁.task_generation, hm₁.task_state⟩

end CertificateManager

end GateRust.Proxy
