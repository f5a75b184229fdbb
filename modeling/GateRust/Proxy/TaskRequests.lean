/-
# The certificate of a task

A task stores what it obtains in the cache of the certificate that its request names.  The request
of the task that a certificate waits for, and that of an order that waits for its records, name the
certificate itself and the account that they were made with; and no two tasks have the same token.
-/
import GateRust.Proxy.InstalledResults

namespace GateRust.Proxy

open Machine

/-- The request is for the certificate, and has the account that its certificate refers to. -/
def IssuanceRequest.Names (request : IssuanceRequest) (certificateId : String) : Prop :=
  request.certificate.id = certificateId ∧
    request.certificate.acmeAccountId = request.account.id

/-- The account of the certificate in the configuration is that of the request. -/
lemma ProxyConfig.Gives.acmeAccountId {config : ProxyConfig} {certificate : CertificateConfig}
    {request : IssuanceRequest} {certificateId : String} (h : config.Gives certificateId request)
    (hnames : request.Names certificateId)
    (hcertificate : config.certificate? certificateId = some certificate) :
    request.certificate.acmeAccountId = certificate.acmeAccountId := by
  obtain ⟨certificate', account, hfind, haccount, -, -, hfields, -⟩ := h
  obtain rfl := Option.some.inj (hfind.symm.trans hcertificate)
  have hid : account.id = certificate'.acmeAccountId := by simpa using List.find?_some haccount
  rw [hnames.2, ← hid]
  exact congrArg Prod.fst hfields

namespace Ledger

variable {l l' : Ledger} {certificateId cacheRoot : String} {body : TaskBody} {task : Task}
  {index : Nat}

structure Labelled (l : Ledger) : Prop where
  distinct : (l.tasks.map (·.cancellation)).Nodup
  active : ∀ c a, l.active.lookup c = some a → ∀ t ∈ l.tasks, t.cancellation = a.cancellation →
    t.body.request.Names c
  pending : ∀ c order, l.pending.lookup c = some order → order.request.Names c

namespace Labelled

lemma start (h : l.Labelled) (hconsistent : l.Consistent)
    (hrequest : body.request.Names certificateId) :
    (l.start certificateId body cacheRoot).Labelled := by
  constructor
  case distinct => exact hconsistent.nodup_start h.distinct certificateId body cacheRoot
  case active =>
    intro c a ha t ht htoken
    have ha' : (l.active.insert certificateId ⟨l.generation + 1, l.tokens⟩).lookup c =
      some a := ha
    rw [AList.lookup_insert_eq] at ha'
    split_ifs at ha' with hc
    · cases ha'
      rcases mem_start ht with ht | rfl
      · exact absurd htoken (hconsistent.taskNumber t ht).1.ne
      · exact hc ▸ hrequest
    · rcases mem_start ht with ht | rfl
      · exact h.active c a ha' t ht htoken
      · exact absurd htoken.symm (hconsistent.activeNumber ha').1.ne
  case pending =>
    intro c order horder
    have horder' : (l.pending.erase certificateId).lookup c = some order := horder
    rw [AList.lookup_erase_eq] at horder'
    split_ifs at horder'
    exact h.pending c order horder'

lemma applied (h : l.Labelled) {config : ProxyConfig} (happly : l.Applied config l') :
    l'.Labelled where
  distinct := by
    rw [happly.tasks_eq]
    exact h.distinct
  active c a ha := by
    rw [happly.tasks_eq]
    exact h.active c a (happly.active ha).1
  pending c order horder := h.pending c order (happly.pending horder).1

lemma setState (h : l.Labelled) (htask : l.tasks[index]? = some task) (state : TaskState) :
    Labelled { l with tasks := l.tasks.set index { task with state := state } } := by
  constructor
  case distinct =>
    rw [map_cancellation_set htask]
    exact h.distinct
  case active =>
    intro c a ha t ht htoken
    rcases List.mem_or_eq_of_mem_set ht with ht | rfl
    · exact h.active c a ha t ht htoken
    · exact h.active c a ha task (List.mem_of_getElem? htask) htoken
  case pending => exact h.pending

lemma drop (h : l.Labelled) (index : Nat) :
    Labelled { l with tasks := l.tasks.eraseIdx index } where
  distinct := ((List.eraseIdx_sublist _ _).map _).nodup h.distinct
  active c a ha t ht := h.active c a ha t (List.mem_of_mem_eraseIdx ht)
  pending := h.pending

/-- An order that a task leaves keeps the request of the task. -/
lemma settle (h : l.Labelled) (hconsistent : l.Consistent) {active : ActiveTask}
    {result : TaskResult} (htask : task ∈ l.tasks) (hresult : task.state = .returned result)
    (hactive : l.active.lookup task.certificateId = some active)
    (htoken : task.cancellation = active.cancellation) :
    (l.settle task.certificateId result).Labelled where
  distinct := h.distinct
  active c a ha := by
    have ha' : (l.active.erase task.certificateId).lookup c = some a := ha
    rw [AList.lookup_erase_eq] at ha'
    split_ifs at ha'
    exact h.active c a ha'
  pending c order horder := by
    rcases pending_settle horder with horder | ⟨rfl, hproduct⟩
    · exact h.pending c order horder
    · obtain ⟨answers, rfl⟩ := hconsistent.taskResult task htask result hresult
      rw [(TaskBody.run_order hproduct).1]
      exact h.active _ active hactive task htask htoken

end Labelled

/-- The task is known by its token. -/
lemma Labelled.eq_of_cancellation (h : l.Labelled) {t : Task} (ht : t ∈ l.tasks)
    (htask : task ∈ l.tasks) (htoken : t.cancellation = task.cancellation) : t = task :=
  List.inj_on_of_nodup_map h.distinct ht htask htoken

/-- Some tasks were started: the active ones of before are still active, and the new ones have new
tokens. -/
structure Started (l l' : Ledger) : Prop where
  config : l'.config = l.config
  tokens : l.tokens ≤ l'.tokens
  kept : ∀ c a, l.active.lookup c = some a → l'.active.lookup c = some a
  active : ∀ c a, l'.active.lookup c = some a →
    l.active.lookup c = some a ∨ l.tokens ≤ a.cancellation
  tasks : ∀ t ∈ l'.tasks, t ∈ l.tasks ∨ t.state = .running

lemma Started.refl (l : Ledger) : l.Started l :=
  ⟨rfl, le_rfl, fun _ _ ha => ha, fun _ _ ha => .inl ha, fun _ ht => .inl ht⟩

end Ledger

namespace CertificateManager

variable {lib : Libraries} {m m' : CertificateManager}

lemma keptByStart_started (l : Ledger) : KeptByStart l.Started := by
  intro l' config certificateId body h hactive hconfig _
  constructor
  case config => exact h.config
  case tokens => exact h.tokens.trans (Nat.le_succ _)
  case kept =>
    intro c a ha
    have hkept := h.kept c a ha
    refine (AList.lookup_insert_ne ?_).trans hkept
    rintro rfl
    rw [hactive] at hkept
    cases hkept
  case active =>
    intro c a ha
    have ha' : (l'.active.insert certificateId ⟨l'.generation + 1, l'.tokens⟩).lookup c =
      some a := ha
    rw [AList.lookup_insert_eq] at ha'
    split_ifs at ha'
    · cases ha'
      exact .inr h.tokens
    · exact h.active c a ha'
  case tasks =>
    intro t ht
    rcases Ledger.mem_start ht with ht | rfl
    · exact h.tasks t ht
    · exact .inr rfl

/-- A request that the configuration gives names its certificate and its account. -/
lemma names_of_issuanceConfig {config : ProxyConfig} {certificateId : String}
    {certificate : CertificateConfig} {account : AcmeAccountConfig}
    {dnsAccount : Option DnsAccountConfig}
    (h : config.issuanceConfig certificateId = .ok (certificate, account, dnsAccount)) :
    (m.issuanceRequest certificate account dnsAccount).Names certificateId := by
  obtain ⟨hcertificate, haccount, -⟩ := ProxyConfig.issuanceConfig_ok h
  have hid : account.id = certificate.acmeAccountId := by simpa using List.find?_some haccount
  exact ⟨ProxyConfig.certificate?_id hcertificate, hid.symm⟩

lemma labelled_startIssue (hm : m.ledger.Consistent ∧ m.ledger.Labelled) (certificateId : String)
    (renewal : Bool) : (m.startIssue certificateId renewal).2.ledger.Consistent ∧
      (m.startIssue certificateId renewal).2.ledger.Labelled := by
  refine ⟨hm.1.moves ((keptByStart_moves m.ledger).startIssue .refl certificateId renewal), ?_⟩
  rcases m.startIssue_cases certificateId renewal with ⟨-, hledger, -⟩ | ⟨config, certificate,
    account, dnsAccount, -, -, hissuance, -, hledger, -⟩
  · rw [hledger]
    exact hm.2
  · rw [hledger]
    exact hm.2.start hm.1 (names_of_issuanceConfig hissuance)

lemma labelled_startContinue (hm : m.ledger.Consistent) (h : m.ledger.Labelled)
    (certificateId : String) : (m.startContinue certificateId).2.ledger.Labelled := by
  rcases m.startContinue_cases certificateId with ⟨hledger, -⟩ | ⟨config, pending, -, -, hpending,
    hledger, -⟩
  · rw [hledger]
    exact h
  · rw [hledger]
    exact h.start hm (h.pending certificateId pending hpending)

lemma labelled_scheduleDue (hm : m.ledger.Consistent) (h : m.ledger.Labelled) (now : UInt64) :
    (m.scheduleDue now).ledger.Labelled :=
  (scheduleDue_ledger (P := fun l => l.Consistent ∧ l.Labelled) ⟨hm, h⟩
    (fun _ hm c => labelled_startIssue hm c true) now).2

/-- **Every event keeps the labels.** -/
theorem labelled_step {event : Event} (hm : m.ledger.Consistent) (h : m.ledger.Labelled)
    (htimely : m.Timely event) (hstep : step lib m event = some m') : m'.ledger.Labelled := by
  cases event with
  | apply config disk now =>
    cases hstep
    have happlied := applied_installConfig lib m disk now config
    exact labelled_scheduleDue (hm.applied happlied) (h.applied happlied) now
  | issue certificateId =>
    cases hstep
    exact (labelled_startIssue ⟨hm, h⟩ certificateId false).2
  | «continue» certificateId =>
    cases hstep
    exact labelled_startContinue hm h certificateId
  | tick now =>
    cases hstep
    exact labelled_scheduleDue hm h now
  | finish index answers =>
    obtain ⟨task, htask, rfl⟩ := endTask_cases hstep
    exact h.setState htask _
  | panic index =>
    obtain ⟨task, htask, rfl⟩ := endTask_cases hstep
    exact h.setState htask _
  | join index now =>
    obtain ⟨task, htask, ⟨-, rfl⟩ | ⟨result, hstate, ⟨-, rfl⟩ | ⟨haccepts, rfl⟩⟩⟩ :=
      join_cases hstep
    · exact h.drop index
    · exact h.drop index
    · have hmem := List.mem_of_getElem? htask
      obtain ⟨active, hactive, hgeneration⟩ := accepts_iff.mp haccepts
      have htoken := hm.cancellation_eq hmem hactive hgeneration (timely_join htask htimely)
      rw [handleTask_ledger (m := { m with tasks := m.tasks.eraseIdx index }) lib now haccepts]
      exact (h.settle hm hmem hstate hactive htoken).drop index

end CertificateManager

end GateRust.Proxy
