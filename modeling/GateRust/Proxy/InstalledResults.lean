/-
# Installed results are current

Every event of the certificate manager is a sequence of moves of its ledger, so the ledger is
consistent in every state that the manager reaches.  Hence a certificate that is deployed, or an
order that is stored, comes from a task that was started from what the current configuration
gives for the certificate; the results of cancelled tasks change nothing.

All this is about runs in which no task is overtaken by `2 ^ 64` others.  At the end a run
without this condition installs a certificate for domains that were replaced.
-/
import GateRust.Proxy.IssuanceLedger

namespace GateRust.Proxy

open Machine Relation

namespace CertificateManager

variable {lib : Libraries} {m m' : CertificateManager}

/-- When a task is joined, fewer than `2 ^ 64` tasks have been started after it. -/
def timely (m : CertificateManager) : Event → Bool
  | .join index _ => (m.tasks[index]?).all fun task => m.tokens < task.cancellation + 1 + 2 ^ 64
  | _ => true

def Timely (m : CertificateManager) (event : Event) : Prop := m.timely event = true

instance (m : CertificateManager) (event : Event) : Decidable (m.Timely event) :=
  inferInstanceAs (Decidable (_ = true))

lemma timely_join {index : Nat} {now : UInt64} {task : Task} (htask : m.tasks[index]? = some task)
    (h : m.Timely (.join index now)) : m.tokens < task.cancellation + 1 + 2 ^ 64 := by
  rw [Timely, timely, htask, Option.all_some] at h
  exact of_decide_eq_true h

/-! ## The moves of the manager -/

@[simp] lemma ledger_publish (m : CertificateManager) : m.publish.ledger = m.ledger := rfl

@[simp] lemma ledger_modifyStatus (m : CertificateManager) (certificateId : String)
    (f : CertificateRuntimeStatus → CertificateRuntimeStatus) :
    (m.modifyStatus certificateId f).ledger = m.ledger := rfl

@[simp] lemma ledger_fail (m : CertificateManager) (certificateId : String) (error : ProxyError)
    (now : UInt64) : (m.fail certificateId error now).ledger = m.ledger := by
  rw [fail, ledger_modifyStatus]
  split_ifs <;> rfl

@[simp] lemma ledger_deploy (m : CertificateManager) (certificateId : String)
    (certificate : IssuedCertificate) (now : UInt64) :
    (m.deploy lib certificateId certificate now).ledger = m.ledger := by
  unfold deploy
  split
  · simp
  · split
    · simp
    · rfl

@[simp] lemma ledger_resetRetry (m : CertificateManager) (config : ProxyConfig) :
    (m.resetRetry config).ledger = m.ledger := by
  unfold resetRetry
  split <;> rfl

/-- What a successful start does to the ledger. -/
lemma startIssue_ledger {config : ProxyConfig} {certificateId : String}
    {certificate : CertificateConfig} {account : AcmeAccountConfig}
    {dnsAccount : Option DnsAccountConfig} (renewal : Bool)
    (hactive : m.active.lookup certificateId = none) (hconfig : m.config = some config)
    (hissuance : config.issuanceConfig certificateId = .ok (certificate, account, dnsAccount))
    (hpermits : m.issuancePermits ≠ 0) :
    (m.startIssue certificateId renewal).2.ledger =
      m.ledger.start certificateId (.begin (m.issuanceRequest certificate account dnsAccount))
        config.proxy.cacheDir := by
  have hid := ProxyConfig.certificate?_id (ProxyConfig.issuanceConfig_ok hissuance).1
  have hgates : (m.openGates account dnsAccount).issuancePermits ≠ 0 := hpermits
  simp only [startIssue, hactive, Option.isSome_none, Bool.false_eq_true, hconfig, hissuance,
    hgates, if_false, hid]
  rfl

/-- A start is refused, or a task is spawned and the status says so. -/
lemma startIssue_cases (m : CertificateManager) (certificateId : String) (renewal : Bool) :
    ((∃ error, (m.startIssue certificateId renewal).1 = .error error) ∧
      (m.startIssue certificateId renewal).2.ledger = m.ledger ∧
      (m.startIssue certificateId renewal).2.statuses = m.statuses) ∨
    ∃ config certificate account dnsAccount, m.active.lookup certificateId = none ∧
      m.config = some config ∧
      config.issuanceConfig certificateId = .ok (certificate, account, dnsAccount) ∧
      (m.startIssue certificateId renewal).1 = .ok () ∧
      (m.startIssue certificateId renewal).2.ledger =
        m.ledger.start certificateId (.begin (m.issuanceRequest certificate account dnsAccount))
          config.proxy.cacheDir ∧
      (m.startIssue certificateId renewal).2.statuses =
        m.statuses.modify certificateId fun status => { status with
          status := if renewal then .renewing else .issuing
          lastError := none
          manualRecords := [] } := by
  cases hactive : m.active.lookup certificateId with
  | some active =>
    left
    simp only [startIssue, hactive, Option.isSome_some, if_true]
    exact ⟨⟨_, rfl⟩, trivial, trivial⟩
  | none =>
    cases hconfig : m.config with
    | none =>
      left
      simp only [startIssue, hactive, hconfig, Option.isSome_none, Bool.false_eq_true, if_false]
      exact ⟨⟨_, rfl⟩, trivial, trivial⟩
    | some config =>
      cases hissuance : config.issuanceConfig certificateId with
      | error error =>
        left
        simp only [startIssue, hactive, hconfig, hissuance, Option.isSome_none,
          Bool.false_eq_true, if_false]
        exact ⟨⟨_, rfl⟩, trivial, trivial⟩
      | ok issuance =>
        obtain ⟨certificate, account, dnsAccount⟩ := issuance
        by_cases hpermits : m.issuancePermits = 0
        · -- only the gates of the accounts are new
          have hgates : (m.openGates account dnsAccount).issuancePermits = 0 := hpermits
          left
          simp only [startIssue, hactive, hconfig, hissuance, Option.isSome_none,
            Bool.false_eq_true, if_false, hgates, if_true]
          exact ⟨⟨_, rfl⟩, rfl, rfl⟩
        · have hgates : (m.openGates account dnsAccount).issuancePermits ≠ 0 := hpermits
          have hid := ProxyConfig.certificate?_id (ProxyConfig.issuanceConfig_ok hissuance).1
          refine Or.inr ⟨config, certificate, account, dnsAccount, rfl, rfl, hissuance, ?_,
            startIssue_ledger renewal hactive hconfig hissuance hpermits, ?_⟩
          · simp only [startIssue, hactive, hconfig, hissuance, Option.isSome_none,
              Bool.false_eq_true, if_false, hgates]
          · simp only [startIssue, hactive, hconfig, hissuance, Option.isSome_none,
              Bool.false_eq_true, if_false, hgates, hid]
            rfl

/-- A renewal that is refused changes the ledger no more than a start that is refused. -/
lemma ledger_startRenewal (m : CertificateManager) (now : UInt64) (certificateId : String) :
    (m.startRenewal now certificateId).ledger = (m.startIssue certificateId true).2.ledger := by
  unfold startRenewal
  split
  · next heq => rw [heq]
  · next heq => rw [heq, ledger_fail]

/-- A continuation is refused, or the waiting order goes to a task. -/
lemma startContinue_cases (m : CertificateManager) (certificateId : String) :
    ((m.startContinue certificateId).2.ledger = m.ledger ∧
      (m.startContinue certificateId).2.statuses = m.statuses) ∨
    ∃ config pending, m.active.lookup certificateId = none ∧ m.config = some config ∧
      m.pending.lookup certificateId = some pending ∧
      (m.startContinue certificateId).2.ledger =
        m.ledger.start certificateId (.manual pending) config.proxy.cacheDir ∧
      (m.startContinue certificateId).2.statuses = m.statuses.modify certificateId fun status =>
        { status with status := .issuing, lastError := none } := by
  cases hactive : m.active.lookup certificateId with
  | some active =>
    left
    simp only [startContinue, hactive, Option.isSome_some, if_true, and_self]
  | none =>
    cases hconfig : m.config with
    | none =>
      left
      simp only [startContinue, hactive, hconfig, Option.isSome_none, Bool.false_eq_true,
        if_false, and_self]
    | some config =>
      by_cases hpermits : m.issuancePermits = 0
      · left
        simp only [startContinue, hactive, hconfig, hpermits, Option.isSome_none,
          Bool.false_eq_true, if_false, if_true, and_self]
      · cases hpending : m.pending.lookup certificateId with
        | none =>
          left
          simp only [startContinue, hactive, hconfig, hpermits, hpending, Option.isSome_none,
            Bool.false_eq_true, if_false, and_self]
        | some pending =>
          refine Or.inr ⟨config, pending, rfl, rfl, rfl, ?_, ?_⟩
          · simp only [startContinue, hactive, hconfig, hpermits, hpending, Option.isSome_none,
              Bool.false_eq_true, if_false]
            rw [← hconfig]
            rfl
          · simp only [startContinue, hactive, hconfig, hpermits, hpending, Option.isSome_none,
              Bool.false_eq_true, if_false]
            rfl

/-- What every request for a renewal keeps, the scheduler keeps. -/
lemma scheduleDue_ledger {P : Ledger → Prop} (hm : P m.ledger)
    (hissue : ∀ m : CertificateManager, P m.ledger → ∀ c, P (m.startIssue c true).2.ledger)
    (now : UInt64) : P (m.scheduleDue now).ledger := by
  rw [scheduleDue, apply_ite ledger, ledger_publish, ite_self, startDue]
  split
  · exact hm
  · refine List.foldlRecOn (motive := fun m : CertificateManager => P m.ledger) _ _ hm ?_
    intro m hm c _
    rw [ledger_startRenewal]
    exact hissue m hm c

/-- Every start of a task keeps `P`. -/
def KeptByStart (P : Ledger → Prop) : Prop :=
  ∀ (l : Ledger) (config : ProxyConfig) (certificateId : String) (body : TaskBody), P l →
    l.active.lookup certificateId = none → l.config = some config →
    ((∃ request, body = .begin request ∧ config.Gives certificateId request) ∨
      ∃ order, l.pending.lookup certificateId = some order ∧ body = .manual order) →
    P (l.start certificateId body config.proxy.cacheDir)

section KeptByStart

variable {P : Ledger → Prop}

lemma KeptByStart.startIssue (h : KeptByStart P) (hm : P m.ledger) (certificateId : String)
    (renewal : Bool) : P (m.startIssue certificateId renewal).2.ledger := by
  rcases m.startIssue_cases certificateId renewal with ⟨-, hledger, -⟩ | ⟨config, certificate,
    account, dnsAccount, hactive, hconfig, hissuance, -, hledger, -⟩
  · rw [hledger]
    exact hm
  · rw [hledger]
    exact h m.ledger config certificateId _ hm hactive hconfig
      (Or.inl ⟨_, rfl, ProxyConfig.gives_of_issuanceConfig _ _ hissuance⟩)

lemma KeptByStart.startContinue (h : KeptByStart P) (hm : P m.ledger) (certificateId : String) :
    P (m.startContinue certificateId).2.ledger := by
  rcases m.startContinue_cases certificateId with ⟨hledger, -⟩ | ⟨config, pending, hactive,
    hconfig, hpending, hledger, -⟩
  · rw [hledger]
    exact hm
  · rw [hledger]
    exact h m.ledger config certificateId _ hm hactive hconfig (Or.inr ⟨pending, hpending, rfl⟩)

lemma KeptByStart.scheduleDue (h : KeptByStart P) (hm : P m.ledger) (now : UInt64) :
    P (m.scheduleDue now).ledger :=
  scheduleDue_ledger hm (fun _ hm c => h.startIssue hm c true) now

end KeptByStart

lemma keptByStart_moves (l : Ledger) : KeptByStart (ReflTransGen Ledger.Move l) := by
  rintro l config certificateId body hmoves hactive hconfig (⟨request, rfl, hgives⟩ | horder)
  · exact hmoves.tail (.start hactive hconfig (Or.inl hgives))
  · exact hmoves.tail (.start hactive hconfig (Or.inr horder))

/-! ## Applying a configuration -/

lemma foldl_discard_active (ids : List String) (m : CertificateManager) (c : String) :
    (ids.foldl discard m).active.lookup c = if c ∈ ids then none else m.active.lookup c := by
  induction ids generalizing m with
  | nil => simp
  | cons id ids ih =>
    rw [List.foldl_cons, ih, discard, AList.lookup_erase_eq]
    split_ifs <;> simp_all

lemma foldl_discard_pending (ids : List String) (m : CertificateManager) (c : String) :
    (ids.foldl discard m).pending.lookup c = if c ∈ ids then none else m.pending.lookup c := by
  induction ids generalizing m with
  | nil => simp
  | cons id ids ih =>
    rw [List.foldl_cons, ih, discard, AList.lookup_erase_eq]
    split_ifs <;> simp_all

lemma foldl_discard_cancelled {ids : List String} {m : CertificateManager} {n : Nat}
    (h : n ∈ (ids.foldl discard m).cancelled) : n ∈ m.cancelled ∨
      ∃ c ∈ ids, ∃ a, m.active.lookup c = some a ∧ a.cancellation = n := by
  induction ids generalizing m with
  | nil => exact Or.inl h
  | cons id ids ih =>
    rcases ih h with hn | ⟨c, hc, a, ha, htoken⟩
    · rcases List.mem_append.mp hn with hn | hn
      · obtain ⟨a, ha, htoken⟩ := Option.map_eq_some_iff.mp (Option.mem_toList.mp hn)
        exact Or.inr ⟨id, List.mem_cons_self, a, ha, htoken⟩
      · exact Or.inl hn
    · rw [discard, AList.lookup_erase_eq] at ha
      split_ifs at ha
      exact Or.inr ⟨c, List.mem_cons_of_mem _ hc, a, ha, htoken⟩

lemma foldl_discard_frame (ids : List String) (m : CertificateManager) :
    (ids.foldl discard m).resolvers = m.resolvers ∧ (ids.foldl discard m).tasks = m.tasks ∧
    (ids.foldl discard m).generation = m.generation ∧
    (ids.foldl discard m).tokens = m.tokens := by
  induction ids generalizing m with
  | nil => exact ⟨rfl, rfl, rfl, rfl⟩
  | cons id ids ih => exact ih (m.discard id)

/-- A function that changes nothing of the ledger but the resolvers. -/
def KeepsTasks {α : Type} (f : CertificateManager → α → CertificateManager) : Prop :=
  ∀ m x, (f m x).ledger = { m.ledger with resolvers := (f m x).resolvers }

lemma KeepsTasks.foldl {α : Type} {f : CertificateManager → α → CertificateManager}
    (hf : KeepsTasks f) (m : CertificateManager) (xs : List α) :
    (xs.foldl f m).ledger = { m.ledger with resolvers := (xs.foldl f m).resolvers } := by
  induction xs generalizing m with
  | nil => rfl
  | cons x xs ih =>
    have hrest := ih (f m x)
    rw [hf m x] at hrest
    exact hrest

lemma mem_foldl_removeRuntime {ids : List String} {m : CertificateManager} {c : String}
    (h : c ∈ m.resolvers) (hc : c ∉ ids) : c ∈ (ids.foldl removeRuntime m).resolvers := by
  induction ids generalizing m with
  | nil => exact h
  | cons id ids ih =>
    rw [List.mem_cons, not_or] at hc
    exact ih (AList.mem_erase.mpr ⟨hc.1, h⟩) hc.2

lemma mem_foldl_installRuntime
    {replacements : List (CertificateConfig × Option CertifiedKey × CertificateRuntimeStatus)}
    {m : CertificateManager} {c : String}
    (h : c ∈ m.resolvers ∨ ∃ r ∈ replacements, r.1.id = c) :
    c ∈ (replacements.foldl (fun m r => m.installRuntime r.1 r.2.1 r.2.2) m).resolvers := by
  induction replacements generalizing m with
  | nil => exact h.resolve_right (by simp)
  | cons r rs ih =>
    refine ih ?_
    rcases h with h | ⟨r', hr', rfl⟩
    · exact Or.inl ((AList.mem_insert _).mpr (Or.inr h))
    · rcases List.mem_cons.mp hr' with rfl | hr'
      · exact Or.inl ((AList.mem_insert _).mpr (Or.inl rfl))
      · exact Or.inr ⟨r', hr', rfl⟩

lemma gone_iff {config : ProxyConfig} {c : String} :
    m.ledger.Gone config c ↔
      c ∈ certificatesRequiringReload m.config config ++ m.removedBy config := by
  simp [Ledger.Gone, removedBy, ledger, AList.mem_keys]

/-- Of the ledger, loading the certificates changes only the resolvers. -/
lemma installConfig_ledger (lib : Libraries) (m : CertificateManager) (disk : Disk) (now : UInt64)
    (config : ProxyConfig) :
    (m.installConfig lib disk now config).ledger =
      { ((certificatesRequiringReload m.config config ++ m.removedBy config).foldl
          discard m).ledger with
        config := some config
        resolvers := (m.installConfig lib disk now config).resolvers } := by
  -- the manager after the discarded tasks, the removed and the installed certificates
  obtain ⟨m₁, hm₁⟩ : ∃ m₁, (certificatesRequiringReload m.config config ++
    m.removedBy config).foldl discard m = m₁ := ⟨_, rfl⟩
  obtain ⟨m₂, hm₂⟩ : ∃ m₂, (m.removedBy config).foldl removeRuntime m₁ = m₂ := ⟨_, rfl⟩
  obtain ⟨replacements, hreplacements⟩ : ∃ replacements, ((config.certificates.filter
      fun certificate => (certificatesRequiringReload m.config config).contains
        certificate.id).map fun certificate => (certificate, loadCertificateRuntime lib
      (disk config.proxy.cacheDir certificate.id) certificate now)) = replacements := ⟨_, rfl⟩
  obtain ⟨m₃, hm₃⟩ : ∃ m₃, replacements.foldl
    (fun m r => m.installRuntime r.1 r.2.1 r.2.2) m₂ = m₃ := ⟨_, rfl⟩
  have hledger : (m.installConfig lib disk now config).ledger =
      { m₃.ledger with config := some config } := by
    rw [← ledger_resetRetry m₃ config, ← hm₃, ← hreplacements, ← hm₂, ← hm₁]
    rfl
  have hremove : KeepsTasks removeRuntime := fun _ _ => rfl
  have hinstall : KeepsTasks fun (m : CertificateManager)
      (r : CertificateConfig × Option CertifiedKey × CertificateRuntimeStatus) =>
    m.installRuntime r.1 r.2.1 r.2.2 := fun _ _ => rfl
  have hledger₃ : m₃.ledger = { m₁.ledger with resolvers := m₃.resolvers } := by
    have h₂ := hremove.foldl m₁ (m.removedBy config)
    have h₃ := hinstall.foldl m₂ replacements
    rw [hm₂] at h₂
    rw [hm₃, h₂] at h₃
    exact h₃
  have hresolvers : (m.installConfig lib disk now config).resolvers = m₃.resolvers :=
    congrArg Ledger.resolvers hledger
  rw [hledger, hresolvers, hm₁, hledger₃]

/-- The entries of the certificates that are reloaded or removed go, the others stay. -/
lemma lookup_installConfig (lib : Libraries) (m : CertificateManager) (disk : Disk) (now : UInt64)
    (config : ProxyConfig) (c : String) :
    (m.installConfig lib disk now config).active.lookup c =
        (if c ∈ certificatesRequiringReload m.config config ++ m.removedBy config then none
          else m.active.lookup c) ∧
      (m.installConfig lib disk now config).pending.lookup c =
        (if c ∈ certificatesRequiringReload m.config config ++ m.removedBy config then none
          else m.pending.lookup c) := by
  have hledger := installConfig_ledger lib m disk now config
  rw [← foldl_discard_active, ← foldl_discard_pending]
  exact ⟨congrArg (fun l : Ledger => l.active.lookup c) hledger,
    congrArg (fun l : Ledger => l.pending.lookup c) hledger⟩

/-- A certificate of the configuration that is loaded or known has a resolver afterwards. -/
lemma mem_installConfig {config : ProxyConfig} {certificate : CertificateConfig}
    (disk : Disk) (now : UInt64) (hcertificate : certificate ∈ config.certificates)
    (hmem : certificate.id ∈ certificatesRequiringReload m.config config ∨
      certificate.id ∈ m.resolvers) :
    certificate.id ∈ (m.installConfig lib disk now config).resolvers := by
  have hreset : ∀ m : CertificateManager, (m.resetRetry config).resolvers = m.resolvers :=
    fun m => congrArg Ledger.resolvers (ledger_resetRetry m config)
  show certificate.id ∈ CertificateManager.resolvers (resetRetry _ config)
  rw [hreset]
  refine mem_foldl_installRuntime ?_
  by_cases hreload : certificate.id ∈ certificatesRequiringReload m.config config
  · have hfilter : certificate ∈ config.certificates.filter fun certificate =>
        (certificatesRequiringReload m.config config).contains certificate.id :=
      List.mem_filter.mpr ⟨hcertificate, List.contains_iff_mem.mpr hreload⟩
    exact Or.inr ⟨_, List.mem_map_of_mem hfilter, rfl⟩
  · left
    refine mem_foldl_removeRuntime ?_ fun hremoved => ?_
    · rw [(foldl_discard_frame _ m).1]
      exact hmem.resolve_left hreload
    · have hdesired := (List.mem_filter.mp hremoved).2
      rw [List.contains_iff_mem.mpr (List.mem_map_of_mem hcertificate)] at hdesired
      cases hdesired

/-- **`apply_config` meets its description on the ledger.** -/
theorem applied_installConfig (lib : Libraries) (m : CertificateManager) (disk : Disk)
    (now : UInt64) (config : ProxyConfig) :
    m.ledger.Applied config (m.installConfig lib disk now config).ledger := by
  obtain ⟨-, htasks, hgeneration, htokens⟩ := foldl_discard_frame
    (certificatesRequiringReload m.config config ++ m.removedBy config) m
  have hledger := installConfig_ledger lib m disk now config
  constructor
  case config_eq => rfl
  case tasks_eq => exact (congrArg Ledger.tasks hledger).trans htasks
  case generation_eq => exact (congrArg Ledger.generation hledger).trans hgeneration
  case tokens_eq => exact (congrArg Ledger.tokens hledger).trans htokens
  case active =>
    intro c a ha
    have hlookup : (m.installConfig lib disk now config).active.lookup c = some a := ha
    rw [(lookup_installConfig lib m disk now config c).1] at hlookup
    split_ifs at hlookup with hgone
    exact ⟨hlookup, fun h => hgone (gone_iff.mp h)⟩
  case pending =>
    intro c order horder
    have hlookup : (m.installConfig lib disk now config).pending.lookup c = some order := horder
    rw [(lookup_installConfig lib m disk now config c).2] at hlookup
    split_ifs at hlookup with hgone
    exact ⟨hlookup, fun h => hgone (gone_iff.mp h)⟩
  case cancelled =>
    intro n hn
    rw [hledger] at hn
    refine (foldl_discard_cancelled hn).imp_right ?_
    rintro ⟨c, hc, a, ha, htoken⟩
    exact ⟨c, a, gone_iff.mpr hc, ha, htoken⟩
  case resolvers => exact fun certificate hcertificate => mem_installConfig disk now hcertificate

/-! ## The results of tasks -/

lemma handleTask_of_not_accepts {output : TaskOutput} (now : UInt64)
    (h : m.accepts output = false) : m.handleTask lib now output = m := by
  rw [handleTask, h, if_neg Bool.false_ne_true]

lemma handleTask_ledger (lib : Libraries) {output : TaskOutput} (now : UInt64)
    (h : m.accepts output = true) :
    (m.handleTask lib now output).ledger =
      m.ledger.settle output.certificateId output.result := by
  obtain ⟨certificateId, generation, result⟩ := output
  rw [handleTask, if_pos h, ledger_publish]
  cases result with
  | begin result =>
    cases result with
    | error error => rw [ledger_fail]; rfl
    | ok result =>
      cases result with
      | issued certificate => rw [ledger_deploy]; rfl
      | waiting pending => rfl
  | continued result =>
    cases result with
    | error error => rw [ledger_fail]; rfl
    | ok certificate => rw [ledger_deploy]; rfl
  | manualNotReady pending error => rfl

lemma accepts_iff {output : TaskOutput} : m.accepts output = true ↔
    ∃ active, m.active.lookup output.certificateId = some active ∧
      active.generation = output.generation := by
  simp [accepts, Option.any_eq_true]

/-! ## Events -/

lemma endTask_cases {index : Nat} {state : Task → TaskState} (h : m.endTask index state = some m') :
    ∃ task, m.tasks[index]? = some task ∧
      m' = { m with tasks := m.tasks.set index { task with state := state task } } := by
  unfold endTask at h
  cases htask : m.tasks[index]? with
  | none => simp only [htask] at h; cases h
  | some task =>
    simp only [htask] at h
    split_ifs at h
    cases h
    exact ⟨task, rfl, rfl⟩

/-- Joining a task is handling its output, if it has one. -/
lemma join_cases {index : Nat} {now : UInt64} (hstep : step lib m (.join index now) = some m') :
    ∃ task, m.tasks[index]? = some task ∧
      ((task.state = .panicked ∧ m' = { m with tasks := m.tasks.eraseIdx index }) ∨
      ∃ result, task.state = .returned result ∧
        ((m.accepts (task.output result) = false ∧
          m' = { m with tasks := m.tasks.eraseIdx index }) ∨
        (m.accepts (task.output result) = true ∧
          m' = { m with tasks := m.tasks.eraseIdx index }.handleTask lib now
            (task.output result)))) := by
  simp only [step] at hstep
  cases htask : m.tasks[index]? with
  | none => simp only [htask] at hstep; cases hstep
  | some task =>
    simp only [htask] at hstep
    refine ⟨task, rfl, ?_⟩
    cases hstate : task.state with
    | running => simp only [hstate] at hstep; cases hstep
    | panicked =>
      simp only [hstate] at hstep
      cases hstep
      exact Or.inl ⟨rfl, rfl⟩
    | returned result =>
      simp only [hstate] at hstep
      cases hstep
      refine Or.inr ⟨result, rfl, ?_⟩
      cases haccepts : m.accepts (task.output result) with
      | false => exact Or.inl ⟨rfl, handleTask_of_not_accepts now haccepts⟩
      | true => exact Or.inr ⟨rfl, rfl⟩

/-- **An event is a sequence of moves.** -/
theorem moves_of_step {event : Event} (htimely : m.Timely event)
    (h : step lib m event = some m') : ReflTransGen Ledger.Move m.ledger m'.ledger := by
  have hstart := keptByStart_moves m.ledger
  cases event with
  | apply config disk now =>
    cases h
    exact hstart.scheduleDue (.single (.apply (m.applied_installConfig lib disk now config))) now
  | issue certificateId =>
    cases h
    exact hstart.startIssue .refl certificateId false
  | «continue» certificateId =>
    cases h
    exact hstart.startContinue .refl certificateId
  | tick now =>
    cases h
    exact hstart.scheduleDue .refl now
  | finish index answers =>
    obtain ⟨task, htask, rfl⟩ := endTask_cases h
    refine .single (.finish htask fun result hresult => ⟨answers, ?_⟩)
    exact (TaskState.returned.inj hresult).symm
  | panic index =>
    obtain ⟨task, htask, rfl⟩ := endTask_cases h
    exact .single (.finish htask fun result hresult => nomatch hresult)
  | join index now =>
    obtain ⟨task, htask, ⟨-, rfl⟩ | ⟨result, hstate, ⟨-, rfl⟩ | ⟨haccepts, rfl⟩⟩⟩ := join_cases h
    · exact .single (.drop index)
    · exact .single (.drop index)
    · rw [handleTask_ledger (m := { m with tasks := m.tasks.eraseIdx index }) lib now haccepts]
      obtain ⟨active, hactive, hgeneration⟩ := accepts_iff.mp haccepts
      have hlate := timely_join htask htimely
      -- the result is taken while the task is still in the set, then the task is dropped
      exact .head (.settle (List.mem_of_getElem? htask) hstate hactive hgeneration hlate)
        (.single (.drop index))

lemma consistent_new : new.ledger.Consistent where
  generation := rfl
  taskNumber := by simp [ledger, new]
  taskResult := by simp [ledger, new]
  activeNumber := by simp [ledger, new]
  activeNewest := by simp [ledger, new]
  activeGiven := by simp [ledger, new]
  activeDistinct := by simp [ledger, new]
  pendingGiven := by simp [ledger, new]
  known := by simp [ledger, new]
  cancelledNumber := by simp [ledger, new]
  activeNotCancelled := by simp [ledger, new]

/-- **The ledger is consistent in every state that the manager reaches.** -/
theorem consistent_of_reach (h : Reach (step lib) Timely new m) : m.ledger.Consistent := by
  refine h.invariant (I := fun m => m.ledger.Consistent) consistent_new ?_
  intro m event m' hm htimely hstep
  exact hm.moves (moves_of_step htimely hstep)

/-! ## Installed results -/

/-- `handle_task` deploys the certificate of the output or stores its order. -/
def Installs (m : CertificateManager) (output : TaskOutput) : Prop :=
  m.accepts output = true ∧ output.result.product.isSome = true

/-- The task has not been cancelled, and it was started from a request and with a cache directory
that the configuration gives for its certificate now. -/
def Current (m : CertificateManager) (task : Task) : Prop :=
  task.cancellation ∉ m.cancelled ∧ ∃ config, m.config = some config ∧
    config.Gives task.certificateId task.body.request ∧ task.cacheRoot = config.proxy.cacheDir

lemma current_of_accepts (hm : m.ledger.Consistent) {task : Task} {result : TaskResult}
    (htask : task ∈ m.tasks) (htimely : m.tokens < task.cancellation + 1 + 2 ^ 64)
    (haccepts : m.accepts (task.output result) = true) : m.Current task := by
  obtain ⟨active, hactive, hgeneration⟩ := accepts_iff.mp haccepts
  have htoken := hm.cancellation_eq htask hactive hgeneration htimely
  obtain ⟨config, hconfig, -, hgiven⟩ := hm.activeGiven hactive
  obtain ⟨hgives, hroot⟩ := hgiven task htask htoken
  refine ⟨?_, config, hconfig, hgives, hroot⟩
  rw [htoken]
  exact hm.activeNotCancelled hactive

/-- **Installed results are current.**  In a run in which no task is overtaken by `2 ^ 64` others,
a certificate is deployed or an order stored only for a task that was not cancelled and that was
started from what the current configuration gives for its certificate.  Joining any other task
changes nothing. -/
theorem installed_results_are_current (hm : Reach (step lib) Timely new m) {index : Nat}
    {now : UInt64} {task : Task} {result : TaskResult} (htask : m.tasks[index]? = some task)
    (hresult : task.state = .returned result) (htimely : m.Timely (.join index now)) :
    (m.Installs (task.output result) → m.Current task) ∧
    (¬ m.Current task →
      step lib m (.join index now) = some { m with tasks := m.tasks.eraseIdx index }) := by
  have hmem := List.mem_of_getElem? htask
  have hconsistent := consistent_of_reach hm
  have hlate := timely_join htask htimely
  refine ⟨fun h => current_of_accepts hconsistent hmem hlate h.1, fun hstale => ?_⟩
  have hrejected : m.accepts (task.output result) = false := by
    by_contra haccepts
    exact hstale (current_of_accepts hconsistent hmem hlate (Bool.not_eq_false _ ▸ haccepts))
  simp only [step, htask, hresult]
  exact congrArg some (handleTask_of_not_accepts now hrejected)

/-! ## A counter that returns -/

def stagingAccount : AcmeAccountConfig :=
  ⟨"acme", "ACME", .letsEncrypt, .staging, "admin@example.com", .ec256, none, none⟩

/-- A certificate that is validated by hand. -/
def manualCertificate (domain : String) : CertificateConfig :=
  ⟨"site", "站点", [domain], "acme", some .manual, false, none⟩

def manualConfig (domain : String) : ProxyConfig where
  proxy := ⟨⟨.v4 0x7f000001, 80⟩, ⟨.v4 0x7f000001, 443⟩, "cache", 16⟩
  acmeAccounts := [stagingAccount]
  dnsAccounts := []
  certificates := [manualCertificate domain]
  routes := []

lemma manualConfig_issuance (domain : String) : (manualConfig domain).issuanceConfig "site" =
    .ok (manualCertificate domain, stagingAccount, none) := rfl

/-- In the runs below no file holds a certificate. -/
def noCertificates : Libraries where
  cache :=
    { parseCertificateExpiry := fun _ => .error (.tls "证书链为空")
      metadata := .ofTable []
      legacyMetadata := .ofTable [] }
  tls :=
    { certs := fun _ => .ok []
      privateKey := fun _ => .ok none
      anySupportedType := fun _ => .error "failed to parse private key"
      keysMatch := fun _ => .ok () }

def emptyDisk : Disk := fun _ _ => .empty

/-- A task that gets an order from the server. -/
def ordered : Answers where
  loadAccount := .ok ()
  order := .ok "order/1"
  collectChallenges := .ok (["challenge/1"], [⟨"_acme-challenge.old.example.com", "token"⟩])
  dnsClient := .ok ()
  authorizeAutomatically := .ok ()
  verifyDnsRecords := .ok ()
  validateChallenges := .ok ()
  finalize := .error (.acme "ACME 订单未返回证书链")

/-- A task that cannot use its account. -/
def refused : Answers := { ordered with loadAccount := .error (.acme "证书申请已取消") }

/-- A certificate is requested, and its task returns an order. -/
def orderEvents : List Event :=
  [.apply (manualConfig "old.example.com") emptyDisk 0, .issue "site", .finish 0 ordered]

/-- The task that asked for an order has not been replaced, and the order is stored. -/
theorem stored_order_is_current : ∃ m task result,
    Reach (step noCertificates) Timely new m ∧ m.tasks[0]? = some task ∧
    m.Installs (task.output result) ∧ m.Current task := by
  have hrun : (exec (step noCertificates) Timely new orderEvents).any (fun m =>
      m.timely (.join 0 0) && (m.tasks[0]?).any fun task => match task.state with
        | .returned result => m.accepts (task.output result) && result.product.isSome
        | _ => false) = true := by decide +kernel
  obtain ⟨m, hexec, hm⟩ := (Option.any_eq_true _ _).mp hrun
  rw [Bool.and_eq_true] at hm
  obtain ⟨task, htask, hresult⟩ := (Option.any_eq_true _ _).mp hm.2
  cases hstate : task.state with
  | running => simp [hstate] at hresult
  | panicked => simp [hstate] at hresult
  | returned result =>
    simp only [hstate, Bool.and_eq_true] at hresult
    exact ⟨m, task, result, reach_of_exec hexec, htask, hresult,
      (installed_results_are_current (reach_of_exec hexec) htask hstate hm.1).1 hresult⟩

/-- The task that is overtaken. -/
def overtaken : Task where
  certificateId := "site"
  generation := 1
  cancellation := 0
  body := .begin (new.issuanceRequest (manualCertificate "old.example.com") stagingAccount none)
  cacheRoot := "cache"
  state := .running

/-- Between two tasks the overtaken one runs, and `n` tasks have been started. -/
structure Resting (n : Nat) (m : CertificateManager) : Prop where
  config : m.config = some (manualConfig "new.example.com")
  active : m.active.lookup "site" = none
  tasks : m.tasks = [overtaken]
  generation : m.generation = UInt64.ofNat n
  tokens : m.tokens = n

/-- The domains of the certificate change while its first task runs. -/
def overtakenEvents : List Event :=
  [.apply (manualConfig "old.example.com") emptyDisk 0, .issue "site",
    .apply (manualConfig "new.example.com") emptyDisk 0]

lemma exists_resting_one {ok : CertificateManager → Event → Prop}
    (hok : ∀ m, ∀ e ∈ overtakenEvents, ok m e) :
    ∃ m, Reach (step noCertificates) ok new m ∧ m.Resting 1 := by
  have hrun : (exec (step noCertificates) Always new overtakenEvents).any (fun m =>
      decide (m.config = some (manualConfig "new.example.com") ∧ m.active.lookup "site" = none ∧
        m.tasks = [overtaken] ∧ m.generation = UInt64.ofNat 1 ∧ m.tokens = 1)) = true := by
    decide +kernel
  obtain ⟨m, hexec, hm⟩ := (Option.any_eq_true _ _).mp hrun
  obtain ⟨hconfig, hactive, htasks, hgeneration, htokens⟩ := of_decide_eq_true hm
  have hreach : Reach (step noCertificates) ok new m :=
    reach_of_exec_imp hexec fun m e he _ => hok m e he
  exact ⟨m, hreach, hconfig, hactive, htasks, hgeneration, htokens⟩

/-- The `n`-th task is the active one. -/
structure Overtaking (n : Nat) (task : Task) (m : CertificateManager) : Prop where
  config : m.config = some (manualConfig "new.example.com")
  active : ∃ token, m.active.lookup "site" = some ⟨UInt64.ofNat n, token⟩
  tasks : m.tasks = [overtaken, task]
  generation : m.generation = UInt64.ofNat n
  tokens : m.tokens = n
  task_id : task.certificateId = "site"
  task_generation : task.generation = UInt64.ofNat n
  task_state : task.state = .running

lemma Resting.start (lib : Libraries) {n : Nat} (h : m.Resting n) :
    ∃ m' task, step lib m (.issue "site") = some m' ∧ m'.Overtaking (n + 1) task := by
  have hpermits : m.issuancePermits ≠ 0 := by
    rw [issuancePermits, h.tasks]
    decide
  have hnext : m.generation + 1 = UInt64.ofNat (n + 1) := by
    rw [h.generation, UInt64.ofNat_add]
    rfl
  have hledger := startIssue_ledger false h.active h.config
    (manualConfig_issuance "new.example.com") hpermits
  refine ⟨_, ⟨"site", m.generation + 1, m.tokens, .begin (m.issuanceRequest
    (manualCertificate "new.example.com") stagingAccount none), "cache", .running⟩, rfl, ?_⟩
  constructor
  case config => exact (congrArg Ledger.config hledger).trans h.config
  case active =>
    refine ⟨m.tokens, ?_⟩
    have hactive : (m.startIssue "site" false).2.active = m.active.insert "site" _ :=
      congrArg Ledger.active hledger
    rw [hactive, AList.lookup_insert]
    exact congrArg (fun g => some (ActiveTask.mk g m.tokens)) hnext
  case tasks =>
    have htasks : (m.startIssue "site" false).2.tasks = m.tasks ++ _ :=
      congrArg Ledger.tasks hledger
    rw [htasks, h.tasks]
    rfl
  case generation => exact (congrArg Ledger.generation hledger).trans hnext
  case tokens => exact (congrArg Ledger.tokens hledger).trans (congrArg (· + 1) h.tokens)
  case task_id => rfl
  case task_generation => exact hnext
  case task_state => rfl

/-- The new task fails, and the manager is as before it. -/
lemma Overtaking.failed (lib : Libraries) {n : Nat} {task : Task} (h : m.Overtaking n task)
    {ok : CertificateManager → Event → Prop} (hfinished : ∀ m, ok m (.finish 1 refused))
    (hjoined : ∀ m, ok m (.join 1 0)) : ∃ m', Reach (step lib) ok m m' ∧ m'.Resting n := by
  obtain ⟨result, hresult⟩ : ∃ result, task.body.run refused = result := ⟨_, rfl⟩
  have hfinish : step lib m (.finish 1 refused) = some { m with
      tasks := [overtaken, { task with state := .returned result }] } := by
    rw [← hresult]
    simp [step, endTask, h.tasks, h.task_state, TaskState.isRunning]
  obtain ⟨token, hactive⟩ := h.active
  have haccepts : { m with tasks := [overtaken] }.accepts
      ({ task with state := .returned result : Task }.output result) = true :=
    accepts_iff.mpr ⟨_, h.task_id ▸ hactive, h.task_generation.symm⟩
  have hledger := handleTask_ledger lib 0 haccepts
  have hjoin : step lib { m with tasks := [overtaken, { task with state := .returned result }] }
      (.join 1 0) = some ({ m with tasks := [overtaken] }.handleTask lib 0
        ({ task with state := .returned result : Task }.output result)) := by
    simp [step]
  refine ⟨_, (Reach.init.next (hfinished _) hfinish).next (hjoined _) hjoin, ?_⟩
  constructor
  case config => exact (congrArg Ledger.config hledger).trans h.config
  case active =>
    have herased := congrArg (fun l : Ledger => l.active.lookup "site") hledger
    refine herased.trans ?_
    rw [Ledger.settle, Task.output, h.task_id]
    exact AList.lookup_erase "site" _
  case tasks => exact congrArg Ledger.tasks hledger
  case generation => exact (congrArg Ledger.generation hledger).trans h.generation
  case tokens => exact (congrArg Ledger.tokens hledger).trans h.tokens

/-- The task of the certificate fails again and again, while the overtaken one runs. -/
lemma exists_resting {ok : CertificateManager → Event → Prop}
    (hok : ∀ m, ∀ e ∈ overtakenEvents, ok m e) (hissued : ∀ m, ok m (.issue "site"))
    (hfinished : ∀ m, ok m (.finish 1 refused)) (hjoined : ∀ m, ok m (.join 1 0)) (n : Nat) :
    ∃ m, Reach (step noCertificates) ok new m ∧ m.Resting (n + 1) := by
  induction n with
  | zero => exact exists_resting_one hok
  | succ n ih =>
    obtain ⟨m, hreach, hm⟩ := ih
    obtain ⟨m₁, task, hstart, hm₁⟩ := hm.start noCertificates
    obtain ⟨m₂, hfailed, hm₂⟩ := hm₁.failed noCertificates hfinished hjoined
    exact ⟨m₂, (hreach.next (hissued m) hstart).trans hfailed, hm₂⟩

/-- The order that the overtaken task gets from the server. -/
def overtakenOrder : ManualOrder :=
  ⟨overtaken.body.request, "order/1", ["challenge/1"],
    [⟨"_acme-challenge.old.example.com", "token"⟩]⟩

/-- A task is cancelled because the domains of its certificate change, and `2 ^ 64` tasks are
started after it.  Its generation is then the one of the active task, and its order is stored for
domains that the configuration no longer has. -/
theorem overtaken_order_is_stored : ∃ m m' task result,
    Reach (step noCertificates) Always new m ∧ m.tasks[0]? = some task ∧
    task.state = .returned result ∧ m.Installs (task.output result) ∧ ¬ m.Current task ∧
    step noCertificates m (.join 0 0) = some m' ∧
    m'.config = some (manualConfig "new.example.com") ∧
    m'.pending.lookup "site" = some overtakenOrder ∧
    overtakenOrder.request.certificate.domains = ["old.example.com"] := by
  -- the task started next has the number `2 ^ 64`, and with it the generation of the first one
  have halways : ∀ (m : CertificateManager) (e : Event), Always m e := fun _ _ => trivial
  obtain ⟨m, hreach, hm⟩ := exists_resting (fun m e _ => halways m e) (fun m => halways m _)
    (fun m => halways m _) (fun m => halways m _) (2 ^ 64 - 1)
  obtain ⟨m₁, task, hstart, hm₁⟩ := hm.start noCertificates
  obtain ⟨token, hactive⟩ := hm₁.active
  have hfinish : step noCertificates m₁ (.finish 0 ordered) = some { m₁ with
      tasks := [{ overtaken with state := .returned (.begin (.ok (.waiting overtakenOrder))) },
        task] } := by
    simp only [step, endTask, hm₁.tasks]
    rfl
  have hwrapped : UInt64.ofNat (2 ^ 64 - 1 + 1 + 1) = 1 := by decide
  have haccepts : { m₁ with tasks := [task] }.accepts
      ⟨"site", 1, .begin (.ok (.waiting overtakenOrder))⟩ = true :=
    accepts_iff.mpr ⟨_, hactive, hwrapped⟩
  have hledger := handleTask_ledger noCertificates 0 haccepts
  refine ⟨_, _, { overtaken with state := .returned (.begin (.ok (.waiting overtakenOrder))) }, _,
    (hreach.next trivial hstart).next trivial hfinish, rfl, rfl, ⟨haccepts, rfl⟩, ?_, rfl,
    (congrArg Ledger.config hledger).trans hm₁.config, ?_, rfl⟩
  · rintro ⟨-, config, hconfig, hgives, -⟩
    obtain rfl := Option.some.inj (hm₁.config.symm.trans hconfig)
    exact absurd (hgives.domains rfl) (by decide)
  · refine (congrArg (fun l : Ledger => l.pending.lookup "site") hledger).trans ?_
    exact AList.lookup_insert _

end CertificateManager

end GateRust.Proxy
