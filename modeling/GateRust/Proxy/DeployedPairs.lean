/-
# The pair that is deployed last

In the runs in which no task that was replaced writes over what the current one has written or what
is deployed, the cache has exactly the pair that was deployed last, until the current task begins to
write, and a restart serves this pair.  Without this condition the directory can have the
certificate of one task and the key of another.
-/
import GateRust.Proxy.CacheWrites

namespace GateRust.Proxy

open Machine

namespace CachingManager

variable {lib : Libraries} {s s' : CachingManager} {task : Task} {call : StoreCall} {index n : ℕ}
  {c : String} {a : ActiveTask} {p : IssuedCertificate} {w : CertificateCache.AtomicWrite}

/-! ## What holds in every state -/

/-- The current task of the certificate has written the first files of its pair, and nothing has
been written over them. -/
structure Writing (lib : Libraries) (s : CachingManager) (c : String) (call : StoreCall)
    (config : ProxyConfig) : Prop where
  applied : s.manager.config = some config
  gives : config.Gives c call.request
  names : call.request.Names c
  root : call.cacheRoot = config.proxy.cacheDir
  files : ∀ w ∈ (call.plan lib.cache).1.take call.written,
    (s.disk config.proxy.cacheDir c).directory.has w = true

/-- The directory of the certificate has the pair. -/
structure Kept (lib : Libraries) (s : CachingManager) (c : String) (p : IssuedCertificate)
    (config : ProxyConfig) (certificate : CertificateConfig) : Prop where
  applied : s.manager.config = some config
  found : config.certificate? c = some certificate
  stored : Stored lib.cache (s.disk config.proxy.cacheDir c).directory certificate p

structure Invariant (lib : Libraries) (s : CachingManager) : Prop where
  consistent : s.manager.ledger.Consistent
  labelled : s.manager.ledger.Labelled
  numbered : ∀ n call, s.calls.lookup n = some call → n < s.manager.tokens
  agrees : ∀ t ∈ s.manager.tasks, ∀ result, t.state = .returned result →
    s.agrees lib t result = true
  current : ∀ c a call, s.manager.active.lookup c = some a →
    s.calls.lookup a.cancellation = some call → ∃ config, s.Writing lib c call config
  kept : ∀ c p, s.deployed c = some p → s.progress c = 0 →
    ∃ config certificate, s.Kept lib c p config certificate
  valid : ∀ c p, s.deployed c = some p →
    ∃ key, lib.tls.setPem p.certificatePem p.privateKeyPem = .ok key
  writers : ∀ c a, s.manager.active.lookup c = some a → 0 < s.progress c →
    a.generation ∈ s.writers c

lemma progress_of_active (h : s.manager.active.lookup c = some a) :
    s.progress c = ((s.calls.lookup a.cancellation).map (·.written)).getD 0 := by
  rw [progress, h]

lemma progress_of_none (h : s.manager.active.lookup c = none) : s.progress c = 0 := by
  rw [progress, h]

/-- The progress depends on the active task and its call. -/
lemma progress_congr {m' : CertificateManager} {disk : Disk}
    {deployed : String → Option IssuedCertificate} {writers : String → List UInt64}
    (h : m'.active.lookup c = s.manager.active.lookup c) :
    CachingManager.progress ⟨m', disk, s.calls, deployed, writers⟩ c = s.progress c := by
  rw [progress, progress, h]

/-- A task that has been started later has written nothing. -/
lemma Invariant.calls_of_le (h : s.Invariant lib) (hn : s.manager.tokens ≤ n) :
    s.calls.lookup n = none := by
  cases hcall : s.calls.lookup n with
  | none => rfl
  | some call => exact absurd (h.numbered n call hcall) (Nat.not_lt.mpr hn)

/-! ## What the manager does -/

/-- What the manager does keeps the invariant if the configuration still gives the requests of the
active tasks of before, and if the pairs that are deployed are there. -/
lemma Invariant.transport (h : s.Invariant lib) {m' : CertificateManager}
    {deployed : String → Option IssuedCertificate} {writers : String → List UInt64}
    (hs' : s' = ⟨m', s.disk, s.calls, deployed, writers⟩)
    (hconsistent : m'.ledger.Consistent) (hlabelled : m'.ledger.Labelled)
    (htokens : s.manager.tokens ≤ m'.tokens)
    (hagrees : ∀ t ∈ m'.tasks, ∀ result, t.state = .returned result →
      s.agrees lib t result = true)
    (hactive : ∀ c a, m'.active.lookup c = some a →
      (s.manager.active.lookup c = some a ∧ writers c = s.writers c ∧
        ∀ config request, s.manager.config = some config → config.Gives c request →
          ∃ config', m'.config = some config' ∧ config'.Gives c request ∧
            config.proxy.cacheDir = config'.proxy.cacheDir) ∨
      s.manager.tokens ≤ a.cancellation)
    (hkept : ∀ c p, deployed c = some p → s'.progress c = 0 →
      ∃ config certificate, s'.Kept lib c p config certificate)
    (hvalid : ∀ c p, deployed c = some p →
      ∃ key, lib.tls.setPem p.certificatePem p.privateKeyPem = .ok key) : s'.Invariant lib := by
  subst hs'
  constructor
  case consistent => exact hconsistent
  case labelled => exact hlabelled
  case numbered => exact fun n call hcall => (h.numbered n call hcall).trans_le htokens
  case agrees => exact hagrees
  case current =>
    intro c a call ha hcall
    rcases hactive c a ha with ⟨hold, -, hstays⟩ | hnew
    · obtain ⟨config, hwriting⟩ := h.current c a call hold hcall
      obtain ⟨config', hconfig', hgives, hdir⟩ := hstays config _ hwriting.applied hwriting.gives
      refine ⟨config', hconfig', hgives, hwriting.names, hwriting.root.trans hdir, ?_⟩
      rw [← hdir]
      exact hwriting.files
    · rw [h.calls_of_le hnew] at hcall
      cases hcall
  case kept => exact hkept
  case valid => exact hvalid
  case writers =>
    intro c a ha hprogress
    rw [progress_of_active ha] at hprogress
    rcases hactive c a ha with ⟨hold, hwriters, -⟩ | hnew
    · dsimp only
      rw [hwriters]
      refine h.writers c a hold ?_
      rw [progress_of_active hold]
      exact hprogress
    · dsimp only at hprogress
      rw [h.calls_of_le hnew] at hprogress
      exact absurd hprogress (Nat.lt_irrefl 0)

lemma Invariant.started (h : s.Invariant lib) {m' : CertificateManager}
    (hconsistent : m'.ledger.Consistent) (hlabelled : m'.ledger.Labelled)
    (hstarted : s.manager.ledger.Started m'.ledger) :
    CachingManager.Invariant lib { s with manager := m' } := by
  have hconfig : m'.config = s.manager.config := hstarted.config
  refine h.transport rfl hconsistent hlabelled hstarted.tokens ?_ ?_ ?_ h.valid
  · intro t ht result hresult
    rcases hstarted.tasks t ht with ht | hrunning
    · exact h.agrees t ht result hresult
    · rw [hrunning] at hresult
      cases hresult
  · intro c a ha
    refine (hstarted.active c a ha).imp_left fun hold => ⟨hold, rfl, ?_⟩
    exact fun config request happlied hgives => ⟨config, hconfig.trans happlied, hgives, rfl⟩
  · intro c p hdeployed hprogress
    have hbefore : s.progress c = 0 := by
      cases ha : s.manager.active.lookup c with
      | none => exact progress_of_none ha
      | some a =>
        have hsame : m'.active.lookup c = s.manager.active.lookup c :=
          (hstarted.kept c a ha).trans ha.symm
        exact (progress_congr hsame).symm.trans hprogress
    obtain ⟨config, certificate, hkept⟩ := h.kept c p hdeployed hbefore
    exact ⟨config, certificate, hconfig.trans hkept.applied, hkept.found, hkept.stored⟩

lemma sameStore_some {current : Option ProxyConfig} {config next : ProxyConfig}
    {certificate : CertificateConfig} (h : sameStore current next c = true)
    (hconfig : current = some config) (hcertificate : config.certificate? c = some certificate) :
    ∃ nextCertificate, next.certificate? c = some nextCertificate ∧
      nextCertificate.acmeAccountId = certificate.acmeAccountId ∧
      nextCertificate.domains = certificate.domains ∧
      config.proxy.cacheDir = next.proxy.cacheDir := by
  simp only [sameStore, hconfig, hcertificate] at h
  split at h
  case h_1 currentCertificate nextCertificate heq hnext =>
    cases heq
    simp only [Bool.and_eq_true, decide_eq_true_eq] at h
    exact ⟨nextCertificate, hnext, h.1.2.symm, h.2.symm, h.1.1⟩
  case h_2 => cases h

/-- The certificates that stay keep what they have written, and a pair that is still the one to be
loaded is in its directory. -/
lemma Invariant.applied (h : s.Invariant lib) {config : ProxyConfig} (disk : Disk) (now : UInt64)
    (hkeeps : s.keepsWriting config = true) :
    (s.record lib (s.manager.installConfig lib disk now config)
      (.apply config disk now)).Invariant lib := by
  have happlied := s.manager.applied_installConfig lib disk now config
  have hlookup := s.manager.lookup_installConfig lib disk now config
  refine h.transport rfl (h.consistent.applied happlied) (h.labelled.applied happlied)
    happlied.tokens_eq.ge ?_ ?_ ?_ ?_
  · intro t ht
    rw [show (s.manager.installConfig lib disk now config).tasks = s.manager.tasks from
      happlied.tasks_eq] at ht
    exact h.agrees t ht
  · intro c a ha
    obtain ⟨hold, hgone⟩ := happlied.active ha
    refine .inl ⟨hold, rfl, fun current request hcurrent hgives => ?_⟩
    obtain ⟨certificate, -, hfind, -⟩ := id hgives
    obtain ⟨hnext, hdir⟩ := (h.consistent.stays hcurrent ⟨certificate,
      ProxyConfig.certificate?_mem hfind, ProxyConfig.certificate?_id hfind⟩ hgone).2 hgives
    exact ⟨config, rfl, hnext, hdir⟩
  · intro c p hp hprogress
    split_ifs at hp with hsame
    have hbefore : s.progress c = 0 := by
      by_cases hmem : c ∈ certificatesRequiringReload s.manager.config config ++
          s.manager.removedBy config
      · have hkeep := List.all_eq_true.mp hkeeps c hmem
        simpa [hp, hsame] using hkeep
      · exact (progress_congr ((hlookup c).1.trans (if_neg hmem))).symm.trans hprogress
    obtain ⟨current, certificate, hkept⟩ := h.kept c p hp hbefore
    obtain ⟨next, hnext, haccount, hdomains, hdir⟩ :=
      sameStore_some hsame hkept.applied hkept.found
    refine ⟨config, next, rfl, hnext, ?_⟩
    rw [← hdir]
    exact hkept.stored.of_same haccount hdomains
  · intro c p hp
    split_ifs at hp
    exact h.valid c p hp

/-- The tasks may change their state and may disappear. -/
lemma Invariant.tasks (h : s.Invariant lib) {tasks : List Task}
    (hconsistent : Ledger.Consistent { s.manager.ledger with tasks := tasks })
    (hlabelled : Ledger.Labelled { s.manager.ledger with tasks := tasks })
    (hagrees : ∀ t ∈ tasks, ∀ result, t.state = .returned result →
      s.agrees lib t result = true) :
    CachingManager.Invariant lib { s with manager := { s.manager with tasks := tasks } } := by
  refine h.transport rfl hconsistent hlabelled le_rfl hagrees ?_ ?_ h.valid
  · exact fun c a ha =>
      .inl ⟨ha, rfl, fun config _ hconfig hgives => ⟨config, hconfig, hgives, rfl⟩⟩
  · intro c p hdeployed hprogress
    obtain ⟨config, certificate, hkept⟩ := h.kept c p hdeployed hprogress
    exact ⟨config, certificate, hkept.applied, hkept.found, hkept.stored⟩

lemma Invariant.drop (h : s.Invariant lib) (index : ℕ) : CachingManager.Invariant lib
    { s with manager := { s.manager with tasks := s.manager.tasks.eraseIdx index } } :=
  h.tasks (h.consistent.drop index) (h.labelled.drop index)
    fun t ht => h.agrees t (List.mem_of_mem_eraseIdx ht)

lemma Invariant.ended (h : s.Invariant lib) (htask : s.manager.tasks[index]? = some task)
    {state : TaskState}
    (hrun : ∀ result, state = .returned result → ∃ answers, result = task.body.run answers)
    (hagrees : ∀ result, state = .returned result → s.agrees lib task result = true) :
    CachingManager.Invariant lib { s with manager := { s.manager with
      tasks := s.manager.tasks.set index { task with state := state } } } := by
  refine h.tasks (h.consistent.finish htask hrun) (h.labelled.setState htask state) ?_
  intro t ht result hresult
  rcases List.mem_or_eq_of_mem_set ht with ht | rfl
  · exact h.agrees t ht result hresult
  · exact hagrees result hresult

/-! ## Joining a task -/

/-- What is deployed comes from the current task of its certificate. -/
lemma deployment_some {m : CertificateManager} (h : deployment lib m index = some (c, p)) :
    ∃ task result, m.tasks[index]? = some task ∧ task.state = .returned result ∧
      task.certificateId = c ∧ m.accepts (task.output result) = true ∧
      result.product = some (.inl p) ∧
      ∃ key, lib.tls.setPem p.certificatePem p.privateKeyPem = .ok key := by
  unfold deployment at h
  split at h
  case h_2 => cases h
  case h_1 certificateId generation cancellation body cacheRoot result htask =>
    split at h
    case h_2 => cases h
    case h_1 certificate haccepts hproduct =>
      split_ifs at h with hdeploys
      cases h
      refine ⟨_, result, htask, rfl, rfl, haccepts, hproduct, ?_⟩
      cases hkey : lib.tls.setPem p.certificatePem p.privateKeyPem with
      | error error =>
        rw [hkey] at hdeploys
        cases hdeploys.2
      | ok key => exact ⟨key, rfl⟩

/-- A task that returns a certificate has stored it. -/
lemma Invariant.stored_of_returned (h : s.Invariant lib)
    (hread : ∀ m, lib.cache.metadata.RoundTrips m) {result : TaskResult}
    (htask : task ∈ s.manager.tasks) (hstate : task.state = .returned result)
    (hactive : s.manager.active.lookup c = some a) (htoken : task.cancellation = a.cancellation)
    (hproduct : result.product = some (.inl p)) :
    ∃ config certificate, s.Kept lib c p config certificate := by
  have hagrees := h.agrees task htask result hstate
  unfold CachingManager.agrees at hagrees
  cases hcall : s.calls.lookup task.cancellation with
  | none =>
    rw [hcall, hproduct] at hagrees
    cases hagrees
  | some call =>
    rw [hcall] at hagrees
    obtain ⟨issued, hissued, hresult⟩ := (Option.any_eq_true _ _).mp hagrees
    -- the result of the task is that of its call
    have hok : issued = .ok p := by
      rw [of_decide_eq_true hresult] at hproduct
      cases hbody : task.body with
      | begin request =>
        rw [hbody] at hproduct
        cases issued with
        | error error => cases hproduct
        | ok certificate => cases hproduct; rfl
      | manual order =>
        rw [hbody] at hproduct
        cases issued with
        | error error => cases hproduct
        | ok certificate => cases hproduct; rfl
    rw [htoken] at hcall
    obtain ⟨config, hwriting⟩ := h.current c a call hactive hcall
    obtain ⟨certificate, -, hfind, -⟩ := id hwriting.gives
    have hstored := stored_of_result hread (hok ▸ hissued) hwriting.files
    have haccount := hwriting.gives.acmeAccountId hwriting.names hfind
    have hdomains := hwriting.gives.domains hfind
    exact ⟨config, certificate, hwriting.applied, hfind,
      hstored.of_same haccount.symm hdomains.symm⟩

/-- The current task of a certificate is joined.  What is deployed for the certificate then, is in
its directory. -/
lemma Invariant.settled (h : s.Invariant lib) {m' : CertificateManager} {result : TaskResult}
    {deployed : String → Option IssuedCertificate} {writers : String → List UInt64}
    (hconsistent : m'.ledger.Consistent) (hlabelled : m'.ledger.Labelled)
    (hledger : m'.ledger = Ledger.settle
      { s.manager.ledger with tasks := s.manager.tasks.eraseIdx index } c result)
    (hdeployed : ∀ c', c' ≠ c → deployed c' = s.deployed c')
    (hwriters : ∀ c', c' ≠ c → writers c' = s.writers c')
    (hkept : ∀ p, deployed c = some p →
      (∃ config certificate, s.Kept lib c p config certificate) ∧
        ∃ key, lib.tls.setPem p.certificatePem p.privateKeyPem = .ok key) :
    CachingManager.Invariant lib ⟨m', s.disk, s.calls, deployed, writers⟩ := by
  have hconfig : m'.config = s.manager.config := congrArg Ledger.config hledger
  have hlookup : ∀ c', m'.active.lookup c' =
      if c' = c then none else s.manager.active.lookup c' := by
    intro c'
    have hactive := congrArg (fun l : Ledger => l.active.lookup c') hledger
    exact hactive.trans (AList.lookup_erase_eq _ _ _)
  refine h.transport rfl hconsistent hlabelled (congrArg Ledger.tokens hledger).ge ?_ ?_ ?_ ?_
  · intro t ht
    rw [show m'.tasks = s.manager.tasks.eraseIdx index from congrArg Ledger.tasks hledger] at ht
    exact h.agrees t (List.mem_of_mem_eraseIdx ht)
  · intro c' a ha
    rw [hlookup] at ha
    split_ifs at ha with hc
    exact .inl ⟨ha, hwriters c' hc, fun config _ happlied hgives =>
      ⟨config, hconfig.trans happlied, hgives, rfl⟩⟩
  · intro c' p hp hprogress
    suffices hbefore : ∃ config certificate, s.Kept lib c' p config certificate by
      obtain ⟨config, certificate, hkept⟩ := hbefore
      exact ⟨config, certificate, hconfig.trans hkept.applied, hkept.found, hkept.stored⟩
    by_cases hc : c' = c
    · subst hc
      exact (hkept p hp).1
    · rw [hdeployed c' hc] at hp
      exact h.kept c' p hp ((progress_congr ((hlookup c').trans (if_neg hc))).symm.trans hprogress)
  · intro c' p hp
    by_cases hc : c' = c
    · subst hc
      exact (hkept p hp).2
    · rw [hdeployed c' hc] at hp
      exact h.valid c' p hp

lemma Invariant.joined (h : s.Invariant lib) (hread : ∀ m, lib.cache.metadata.RoundTrips m)
    {m' : CertificateManager} {now : UInt64} (htimely : s.manager.Timely (.join index now))
    (hdeploys : s.deploysWritten lib index = true)
    (hstep : s.manager.step lib (.join index now) = some m') :
    (s.record lib m' (.join index now)).Invariant lib := by
  have hconsistent := h.consistent.moves (CertificateManager.moves_of_step htimely hstep)
  have hlabelled := CertificateManager.labelled_step h.consistent h.labelled htimely hstep
  obtain ⟨task, htask, hcases⟩ := CertificateManager.join_cases hstep
  have hmem := List.mem_of_getElem? htask
  cases hdeployment : deployment lib s.manager index with
  | none =>
    have hrecord : s.record lib m' (.join index now) = { s with manager := m' } := by
      simp only [record, hdeployment]
    rw [hrecord]
    rcases hcases with ⟨-, rfl⟩ | ⟨result, hstate, ⟨-, rfl⟩ | ⟨haccepts, rfl⟩⟩
    · exact h.drop index
    · exact h.drop index
    · have hledger := CertificateManager.handleTask_ledger lib now
        (m := { s.manager with tasks := s.manager.tasks.eraseIdx index }) haccepts
      refine h.settled hconsistent hlabelled hledger (fun _ _ => rfl) (fun _ _ => rfl) ?_
      intro p hp
      -- the current task has written nothing, so the pair of before is there
      have hprogress : s.progress task.certificateId = 0 := by
        simp only [deploysWritten, htask, hstate, haccepts, hdeployment, Option.all_some]
          at hdeploys
        simpa using hdeploys
      exact ⟨h.kept _ p hp hprogress, h.valid _ p hp⟩
  | some deployed =>
    obtain ⟨c, p⟩ := deployed
    have hrecord : s.record lib m' (.join index now) = { s with
        manager := m'
        deployed := Function.update s.deployed c (some p)
        writers := Function.update s.writers c [] } := by
      simp only [record, hdeployment]
    rw [hrecord]
    obtain ⟨task', result, htask', hstate, rfl, haccepts, hproduct, hkey⟩ :=
      deployment_some hdeployment
    obtain rfl := Option.some.inj (htask.symm.trans htask')
    rcases hcases with ⟨hpanicked, -⟩ | ⟨result', hstate', ⟨hrejected, -⟩ | ⟨-, rfl⟩⟩
    · rw [hpanicked] at hstate
      cases hstate
    · obtain rfl := TaskState.returned.inj (hstate.symm.trans hstate')
      rw [hrejected] at haccepts
      cases haccepts
    · obtain rfl := TaskState.returned.inj (hstate.symm.trans hstate')
      have hledger := CertificateManager.handleTask_ledger lib now
        (m := { s.manager with tasks := s.manager.tasks.eraseIdx index }) haccepts
      refine h.settled hconsistent hlabelled hledger (fun c' hc => Function.update_of_ne hc _ _)
        (fun c' hc => Function.update_of_ne hc _ _) ?_
      intro p' hp'
      have hnew : Function.update s.deployed task.certificateId (some p) task.certificateId =
        some p' := hp'
      rw [Function.update_self] at hnew
      obtain rfl := Option.some.inj hnew
      obtain ⟨a, hactive, hgeneration⟩ := CertificateManager.accepts_iff.mp haccepts
      have htoken := h.consistent.cancellation_eq hmem hactive hgeneration
        (CertificateManager.timely_join htask htimely)
      exact ⟨h.stored_of_returned hread hmem hstate hactive htoken hproduct, hkey⟩

/-! ## What a task does -/

lemma storing_some (h : s.storing index = some (task, call)) :
    task ∈ s.manager.tasks ∧ task.state = .running ∧
      s.calls.lookup task.cancellation = some call := by
  unfold storing at h
  split at h
  case h_2 => cases h
  case h_1 t htask =>
    split_ifs at h with hrunning
    obtain ⟨call', hcall, heq⟩ := Option.map_eq_some_iff.mp h
    cases heq
    exact ⟨List.mem_of_getElem? htask, TaskState.eq_running hrunning, hcall⟩

/-- The call of a running task is not that of a task that has returned. -/
lemma Invariant.agrees_insert (h : s.Invariant lib) (htask : task ∈ s.manager.tasks)
    (hrunning : task.state = .running) (call : StoreCall) {disk : Disk}
    {writers : String → List UInt64} {t : Task} (ht : t ∈ s.manager.tasks) {result : TaskResult}
    (hresult : t.state = .returned result) :
    CachingManager.agrees lib
      ⟨s.manager, disk, s.calls.insert task.cancellation call, s.deployed, writers⟩ t result =
        true := by
  have hne : t.cancellation ≠ task.cancellation := by
    intro htoken
    rw [h.labelled.eq_of_cancellation ht htask htoken, hrunning] at hresult
    cases hresult
  have hlookup : (s.calls.insert task.cancellation call).lookup t.cancellation =
    s.calls.lookup t.cancellation := AList.lookup_insert_ne hne
  have hagrees := h.agrees t ht result hresult
  unfold CachingManager.agrees at hagrees ⊢
  rw [hlookup]
  exact hagrees

/-- The progress after a step of a running task. -/
lemma progress_insert {disk : Disk} {writers : String → List UInt64} (n : ℕ) (call : StoreCall)
    (c : String) :
    CachingManager.progress ⟨s.manager, disk, s.calls.insert n call, s.deployed, writers⟩ c =
      if (s.manager.active.lookup c).any (fun a => a.cancellation = n) then call.written
      else s.progress c := by
  rw [progress, progress]
  cases s.manager.active.lookup c with
  | none => rfl
  | some a =>
    simp only [Option.any_some, decide_eq_true_eq, AList.lookup_insert_eq]
    split_ifs <;> rfl

/-- A step of a task keeps the invariant if the first files of its pair are there when it is a
current one, and if the other files stay. -/
lemma Invariant.called (h : s.Invariant lib) (htask : task ∈ s.manager.tasks)
    (hrunning : task.state = .running) {disk : Disk} {writers : String → List UInt64}
    (hwritten : ∀ before, s.calls.lookup task.cancellation = some before →
      before.written ≤ call.written)
    (hown : ∀ c a, s.manager.active.lookup c = some a → a.cancellation = task.cancellation →
      ∃ config, CachingManager.Writing lib
        ⟨s.manager, disk, s.calls.insert task.cancellation call, s.deployed, writers⟩ c call config)
    (hothers : ∀ c a call' config, s.manager.active.lookup c = some a →
      a.cancellation ≠ task.cancellation → s.calls.lookup a.cancellation = some call' →
      s.Writing lib c call' config →
      ∀ w ∈ (call'.plan lib.cache).1.take call'.written,
        (disk config.proxy.cacheDir c).directory.has w = true)
    (hstays : ∀ c p config certificate, s.deployed c = some p → s.progress c = 0 →
      (∀ a, s.manager.active.lookup c = some a → a.cancellation = task.cancellation →
        call.written = 0) →
      s.Kept lib c p config certificate →
        Stored lib.cache (disk config.proxy.cacheDir c).directory certificate p)
    (hwriters : ∀ c, s.writers c ⊆ writers c)
    (hwriter : 0 < call.written → ∀ c a, s.manager.active.lookup c = some a →
      a.cancellation = task.cancellation → a.generation ∈ writers c) :
    CachingManager.Invariant lib
      ⟨s.manager, disk, s.calls.insert task.cancellation call, s.deployed, writers⟩ := by
  constructor
  case consistent => exact h.consistent
  case labelled => exact h.labelled
  case numbered =>
    intro n call' hcall
    have hcall' : (s.calls.insert task.cancellation call).lookup n = some call' := hcall
    rw [AList.lookup_insert_eq] at hcall'
    split_ifs at hcall' with hn
    · exact hn ▸ (h.consistent.taskNumber task htask).1
    · exact h.numbered n call' hcall'
  case agrees => exact fun t ht result hresult => h.agrees_insert htask hrunning call ht hresult
  case current =>
    intro c a call' ha hcall
    have hcall' : (s.calls.insert task.cancellation call).lookup a.cancellation =
      some call' := hcall
    rw [AList.lookup_insert_eq] at hcall'
    split_ifs at hcall' with htoken
    · obtain rfl := Option.some.inj hcall'
      exact hown c a ha htoken
    · obtain ⟨config, hwriting⟩ := h.current c a call' ha hcall'
      exact ⟨config, hwriting.applied, hwriting.gives, hwriting.names, hwriting.root,
        hothers c a call' config ha htoken hcall' hwriting⟩
  case kept =>
    intro c p hdeployed hprogress
    rw [progress_insert] at hprogress
    have hbefore : s.progress c = 0 ∧ ∀ a, s.manager.active.lookup c = some a →
        a.cancellation = task.cancellation → call.written = 0 := by
      cases ha : s.manager.active.lookup c with
      | none => exact ⟨progress_of_none ha, nofun⟩
      | some a =>
        rw [ha, Option.any_some] at hprogress
        by_cases htoken : a.cancellation = task.cancellation
        · rw [if_pos (decide_eq_true htoken)] at hprogress
          refine ⟨?_, fun _ _ _ => hprogress⟩
          rw [progress_of_active ha, htoken]
          cases hcall : s.calls.lookup task.cancellation with
          | none => rfl
          | some before => exact Nat.le_zero.mp (hprogress ▸ hwritten before hcall)
        · rw [if_neg (by simpa using htoken)] at hprogress
          refine ⟨hprogress, fun a' ha' htoken' => ?_⟩
          rw [Option.some.inj ha'] at htoken
          exact absurd htoken' htoken
    obtain ⟨config, certificate, hkept⟩ := h.kept c p hdeployed hbefore.1
    exact ⟨config, certificate, hkept.applied, hkept.found,
      hstays c p config certificate hdeployed hbefore.1 hbefore.2 hkept⟩
  case valid => exact h.valid
  case writers =>
    intro c a ha hprogress
    rw [progress_insert, show s.manager.active.lookup c = some a from ha, Option.any_some]
      at hprogress
    by_cases htoken : a.cancellation = task.cancellation
    · rw [if_pos (decide_eq_true htoken)] at hprogress
      exact hwriter hprogress c a ha htoken
    · rw [if_neg (by simpa using htoken)] at hprogress
      exact hwriters c (h.writers c a ha hprogress)

lemma Invariant.stored (h : s.Invariant lib) (htask : task ∈ s.manager.tasks)
    (hrunning : task.state = .running) (hnone : s.calls.lookup task.cancellation = none)
    {certificate privateKey : Bytes}
    (hcall : call = ⟨task.body.request, task.cacheRoot, certificate, privateKey, 0, none⟩) :
    CachingManager.Invariant lib
      { s with calls := s.calls.insert task.cancellation call } := by
  subst hcall
  refine h.called htask hrunning ?_ ?_ ?_ ?_ (fun _ => List.Subset.refl _) ?_
  · intro before hbefore
    rw [hnone] at hbefore
    cases hbefore
  · intro c a ha htoken
    obtain ⟨config, hconfig, -, hgiven⟩ := h.consistent.activeGiven ha
    obtain ⟨hgives, hroot⟩ := hgiven task htask htoken.symm
    exact ⟨config, hconfig, hgives, h.labelled.active c a ha task htask htoken.symm, hroot,
      fun w hw => absurd hw (by simp)⟩
  · exact fun c a call' config _ _ _ hwriting => hwriting.files
  · exact fun c p config certificate _ _ _ hkept => hkept.stored
  · exact fun hpositive => absurd hpositive (Nat.lt_irrefl 0)

/-- A failed write leaves the files as they are. -/
lemma Invariant.failed (h : s.Invariant lib) (htask : task ∈ s.manager.tasks)
    (hrunning : task.state = .running) (hcall : s.calls.lookup task.cancellation = some call)
    (failed : Option ProxyError) :
    CachingManager.Invariant lib { s with
      calls := s.calls.insert task.cancellation { call with failed := failed } } := by
  refine h.called htask hrunning ?_ ?_ ?_ ?_ (fun _ => List.Subset.refl _) ?_
  · intro before hbefore
    rw [hcall] at hbefore
    cases hbefore
    exact le_rfl
  · intro c a ha htoken
    rw [← htoken] at hcall
    obtain ⟨config, hwriting⟩ := h.current c a call ha hcall
    exact ⟨config, hwriting.applied, hwriting.gives, hwriting.names, hwriting.root, hwriting.files⟩
  · exact fun c a call' config _ _ _ hwriting => hwriting.files
  · exact fun c p config certificate _ _ _ hkept => hkept.stored
  · intro hpositive c a ha htoken
    refine h.writers c a ha ?_
    rw [progress_of_active ha, htoken, hcall]
    exact hpositive

/-- What a harmless write of a task that is not the current one does to a file of the configured
directory: the file stays as it is, or it is still to be written by the current task. -/
lemma harmless_cases {config : ProxyConfig} (h : s.harmless task call w = true)
    (hid : call.request.certificate.id = c) (hroot : call.cacheRoot = config.proxy.cacheDir)
    (hconfig : s.manager.config = some config)
    (hcurrent : ∀ a, s.manager.active.lookup c = some a → a.cancellation ≠ task.cancellation) :
    (s.disk config.proxy.cacheDir c).directory.has w = true ∨
      ((s.deployed c).isNone = true ∨ 0 < s.progress c) ∧ s.progress c ≤ w.place := by
  have hother : (s.manager.active.lookup c).any (fun a => a.cancellation = task.cancellation) =
      false := by
    cases ha : s.manager.active.lookup c with
    | none => rfl
    | some a => exact decide_eq_false (hcurrent a ha)
  subst hid
  simpa [harmless, hother, hconfig, hroot] using h

lemma Invariant.wrote (h : s.Invariant lib) (htask : task ∈ s.manager.tasks)
    (hrunning : task.state = .running) (hcall : s.calls.lookup task.cancellation = some call)
    (hnext : call.next lib.cache = some w) (hharmless : s.harmless task call w = true)
    {id : String} (hid : call.request.certificate.id = id) :
    CachingManager.Invariant lib { s with
      disk := Disk.write s.disk call.cacheRoot id w
      calls := s.calls.insert task.cancellation { call with written := call.written + 1 }
      writers := Function.update s.writers id (task.generation :: s.writers id) } := by
  have hplan : (call.plan lib.cache).1[call.written]? = some w := by
    unfold StoreCall.next at hnext
    split at hnext
    · exact hnext
    · cases hnext
  refine h.called htask hrunning ?_ ?_ ?_ ?_ ?_ ?_
  · intro before hbefore
    rw [hcall] at hbefore
    cases hbefore
    exact Nat.le_succ _
  · intro c a ha htoken
    rw [← htoken] at hcall
    obtain ⟨config, hwriting⟩ := h.current c a call ha hcall
    obtain rfl : id = c := hid.symm.trans hwriting.names.1
    refine ⟨config, hwriting.applied, hwriting.gives, hwriting.names, hwriting.root, ?_⟩
    have hfiles := hwriting.files
    rw [← hwriting.root] at hfiles ⊢
    exact has_next hplan hfiles
  · intro c a call' config ha htoken hcall' hwriting
    by_cases hsame : config.proxy.cacheDir = call.cacheRoot ∧ c = id
    · obtain ⟨hroot, rfl⟩ := hsame
      rcases harmless_cases hharmless hid hroot.symm hwriting.applied fun a' ha' =>
        Option.some.inj (ha.symm.trans ha') ▸ htoken with hhas | ⟨-, hle⟩
      · rw [hroot] at hhas
        rw [diskWrite_of_has hhas]
        exact hwriting.files
      · -- the current task is past the files that it has written
        rw [progress_of_active ha, hcall'] at hle
        exact has_of_written_le hle hwriting.files
    · rw [diskWrite_of_ne hsame]
      exact hwriting.files
  · intro c p config certificate hdeployed hprogress hcurrent hkept
    by_cases hsame : config.proxy.cacheDir = call.cacheRoot ∧ c = id
    · obtain ⟨hroot, rfl⟩ := hsame
      rcases harmless_cases hharmless hid hroot.symm hkept.applied fun a ha htoken =>
        Nat.succ_ne_zero _ (hcurrent a ha htoken) with hhas | ⟨hnone | hpositive, -⟩
      · rw [hroot] at hhas ⊢
        rw [diskWrite_of_has hhas, ← hroot]
        exact hkept.stored
      · rw [hdeployed] at hnone
        cases hnone
      · exact absurd hprogress hpositive.ne'
    · rw [diskWrite_of_ne hsame]
      exact hkept.stored
  · intro c
    by_cases hc : c = id
    · subst hc
      rw [Function.update_self]
      exact List.subset_cons_self _ _
    · rw [Function.update_of_ne hc]
      exact List.Subset.refl _
  · intro _ c a ha htoken
    rw [← htoken] at hcall
    obtain ⟨config, hwriting⟩ := h.current c a call ha hcall
    obtain rfl : id = c := hid.symm.trans hwriting.names.1
    have hgeneration : a.generation = task.generation := by
      rw [(h.consistent.activeNumber ha).2, (h.consistent.taskNumber task htask).2, htoken]
    rw [Function.update_self, hgeneration]
    exact List.mem_cons_self

lemma labelled_new : CertificateManager.new.ledger.Labelled where
  distinct := by simp [CertificateManager.ledger, CertificateManager.new]
  active := by simp [CertificateManager.ledger, CertificateManager.new]
  pending := by simp [CertificateManager.ledger, CertificateManager.new]

lemma invariant_start (disk : Disk) : (start disk).Invariant lib where
  consistent := CertificateManager.consistent_new
  labelled := labelled_new
  numbered := by simp [start]
  agrees := by simp [start, CertificateManager.new]
  current := by simp [start, CertificateManager.new]
  kept := by simp [start]
  valid := by simp [start]
  writers := by simp [start, CertificateManager.new]

lemma timely_of_orderly {e : CertificateManager.Event} (h : s.Orderly lib (.manage e)) :
    s.manager.Timely e := by
  unfold Orderly orderly at h
  exact (Bool.and_eq_true_iff.mp h).1

lemma keepsWriting_of_orderly {config : ProxyConfig} {disk : Disk} {now : UInt64}
    (h : s.Orderly lib (.manage (.apply config disk now))) : s.keepsWriting config = true := by
  unfold Orderly orderly at h
  exact (Bool.and_eq_true_iff.mp h).2

lemma deploysWritten_of_orderly {now : UInt64}
    (h : s.Orderly lib (.manage (.join index now))) : s.deploysWritten lib index = true := by
  rw [Orderly, orderly, Bool.and_eq_true] at h
  exact h.2

lemma harmless_of_orderly (h : s.Orderly lib (.write index (.ok ())))
    (hstoring : s.storing index = some (task, call)) (hnext : call.next lib.cache = some w) :
    s.harmless task call w = true := by
  rw [Orderly, orderly, hstoring] at h
  simpa only [hnext, Option.all_some] using h

lemma Invariant.managed (h : s.Invariant lib) (hread : ∀ m, lib.cache.metadata.RoundTrips m)
    {e : CertificateManager.Event} {m' : CertificateManager} (horderly : s.Orderly lib (.manage e))
    (happens : s.mayHappen lib e = true) (hstep : s.manager.step lib e = some m') :
    (s.record lib m' e).Invariant lib := by
  have htimely := timely_of_orderly horderly
  have hconsistent := h.consistent.moves (CertificateManager.moves_of_step htimely hstep)
  have hlabelled := CertificateManager.labelled_step h.consistent h.labelled htimely hstep
  have hstart := CertificateManager.keptByStart_started s.manager.ledger
  cases e with
  | apply config disk now =>
    cases hstep
    have hinstalled := CertificateManager.keptByStart_started
      (s.manager.installConfig lib disk now config).ledger
    exact (h.applied disk now (keepsWriting_of_orderly horderly)).started hconsistent hlabelled
      (hinstalled.scheduleDue (.refl _) now)
  | issue certificateId =>
    cases hstep
    exact h.started hconsistent hlabelled (hstart.startIssue (.refl _) certificateId false)
  | «continue» certificateId =>
    cases hstep
    exact h.started hconsistent hlabelled (hstart.startContinue (.refl _) certificateId)
  | tick now =>
    cases hstep
    exact h.started hconsistent hlabelled (hstart.scheduleDue (.refl _) now)
  | finish index answers =>
    obtain ⟨task, htask, rfl⟩ := CertificateManager.endTask_cases hstep
    rw [mayHappen, htask, Option.all_some] at happens
    refine h.ended htask (fun result hresult => ⟨answers, ?_⟩) fun result hresult => ?_
    · exact (TaskState.returned.inj hresult).symm
    · exact TaskState.returned.inj hresult ▸ happens
  | panic index =>
    obtain ⟨task, htask, rfl⟩ := CertificateManager.endTask_cases hstep
    refine h.ended htask (fun result hresult => ?_) fun result hresult => ?_
    · cases hresult
    · cases hresult
  | join index now =>
    exact h.joined hread htimely (deploysWritten_of_orderly horderly) hstep

/-- **Every orderly step keeps the invariant.** -/
theorem invariant_step (h : s.Invariant lib) (hread : ∀ m, lib.cache.metadata.RoundTrips m)
    {e : Event} (horderly : s.Orderly lib e) (hstep : s.step lib e = some s') :
    s'.Invariant lib := by
  cases e with
  | manage e =>
    simp only [step] at hstep
    split_ifs at hstep with happens
    obtain ⟨m', hm', rfl⟩ := Option.map_eq_some_iff.mp hstep
    exact h.managed hread horderly happens hm'
  | store index certificate privateKey =>
    simp only [step] at hstep
    split at hstep
    case h_2 => cases hstep
    case h_1 task htask =>
      split_ifs at hstep with hstores
      obtain rfl := Option.some.inj hstep
      simp only [Bool.and_eq_true, Option.isNone_iff_eq_none] at hstores
      exact h.stored (List.mem_of_getElem? htask) (TaskState.eq_running hstores.1.1) hstores.2 rfl
  | write index io =>
    simp only [step] at hstep
    split at hstep
    case h_2 => cases hstep
    case h_1 task call hstoring =>
      obtain ⟨htask, hrunning, hcall⟩ := storing_some hstoring
      split at hstep
      case h_1 w hnext =>
        obtain rfl := Option.some.inj hstep
        have hharmless := harmless_of_orderly horderly hstoring hnext
        exact h.wrote htask hrunning hcall hnext hharmless rfl
      case h_2 =>
        obtain rfl := Option.some.inj hstep
        exact h.failed htask hrunning hcall _
      case h_3 => cases hstep

/-! ## The cache and what is deployed -/

/-- No task with the current generation of the certificate has written since its deployment. -/
def Quiet (s : CachingManager) (c : String) : Prop :=
  ∀ a, s.manager.active.lookup c = some a → a.generation ∉ s.writers c

/-- Loading the certificate with its current configuration gives the pair, and a restart serves
it. -/
def Restores (lib : Libraries) (s : CachingManager) (c : String) (p : IssuedCertificate) : Prop :=
  ∃ config certificate key, s.manager.config = some config ∧
    config.certificate? c = some certificate ∧
    (s.disk config.proxy.cacheDir c).loadCertificate lib.cache certificate =
      .ok (some ⟨p.certificatePem, p.privateKeyPem, p.expiresAt⟩) ∧
    lib.tls.setPem p.certificatePem p.privateKeyPem = .ok key ∧
    ∀ now, (CertificateManager.loadCertificateRuntime lib (s.disk config.proxy.cacheDir c)
      certificate now).1 = some key

/-- **The cache has what is deployed** in every run of orderly steps: while no task with the
current generation of a certificate has written since a pair was deployed for it, the pair is
loaded from the cache, and a restart serves it. -/
theorem deployed_pair_restored (hread : ∀ m, lib.cache.metadata.RoundTrips m) {disk : Disk}
    (hreach : Reach (step lib) (Orderly lib) (start disk) s) (hdeployed : s.deployed c = some p)
    (hquiet : s.Quiet c) : s.Restores lib c p := by
  have h : s.Invariant lib := hreach.invariant (invariant_start disk)
    fun _ _ _ h horderly hstep => invariant_step h hread horderly hstep
  have hprogress : s.progress c = 0 := by
    cases ha : s.manager.active.lookup c with
    | none => exact progress_of_none ha
    | some a =>
      by_contra hwritten
      exact hquiet a ha (h.writers c a ha (Nat.pos_of_ne_zero hwritten))
  obtain ⟨config, certificate, hkept⟩ := h.kept c p hdeployed hprogress
  obtain ⟨key, hkey⟩ := h.valid c p hdeployed
  have hload := hkept.stored.load
  refine ⟨config, certificate, key, hkept.applied, hkept.found, hload, hkey, fun now => ?_⟩
  rw [CertificateManager.loadCertificateRuntime, hload]
  simp only [hkey]

/-! ## Two tasks of one certificate -/

/-- Libraries that take every file for one certificate or one key, and know which belong to each
other. -/
def pairLibraries : Libraries where
  cache := CertificateCache.sampleLibraries
  tls :=
    { certs := fun pem => .ok [pem]
      privateKey := fun pem => .ok (some pem)
      anySupportedType := fun key => .ok key
      keysMatch := fun key =>
        if key ∈ [⟨[CertificateCache.firstCertificate], CertificateCache.firstKey⟩,
            ⟨[CertificateCache.reissuedCertificate], CertificateCache.reissuedKey⟩,
            (⟨[CertificateCache.renewedCertificate], CertificateCache.renewedKey⟩ :
              CertifiedKey)] then .ok ()
        else .error "keys may not be consistent: KeyMismatch" }

/-- The sample certificate with records set by a DNS account; its ACME account has the given
address. -/
def dnsConfig (email : String) : ProxyConfig where
  proxy := ⟨⟨.v4 0x7f000001, 80⟩, ⟨.v4 0x7f000001, 443⟩, "cache", 16⟩
  acmeAccounts := [⟨"acme", "ACME", .letsEncrypt, .staging, email, .ec256, none, none⟩]
  dnsAccounts := [⟨"dns", "DNS", .cloudflare, some "token", none, none⟩]
  certificates := [⟨"main", "main", ["a.example"], "acme", some (.dnsAccount "dns"), false, none⟩]
  routes := []

def reissuedPair : IssuedCertificate :=
  ⟨CertificateCache.reissuedCertificate, CertificateCache.reissuedKey, 1775001600⟩

/-- All calls of the task succeed. -/
def issuedAnswers : Answers := { CertificateManager.ordered with finalize := .ok reissuedPair }

/-- The address of the account changes when a task is about to store the first pair; a second task
is started, stores the other pair, and is joined.  The first task makes `early` of its writes before
the second one stores its pair, and `late` after this pair is deployed. -/
def replacedEvents (early late : ℕ) : List Event :=
  [.manage (.apply (dnsConfig "old@example.com") CertificateManager.emptyDisk 0),
    .manage (.issue "main"), .store 0 CertificateCache.firstCertificate CertificateCache.firstKey,
    .manage (.apply (dnsConfig "new@example.com") CertificateManager.emptyDisk 0),
    .manage (.issue "main")] ++
  List.replicate early (.write 0 (.ok ())) ++
  [.store 1 CertificateCache.reissuedCertificate CertificateCache.reissuedKey,
    .write 1 (.ok ()), .write 1 (.ok ()), .write 1 (.ok ()), .manage (.finish 1 issuedAnswers),
    .manage (.join 1 0)] ++
  List.replicate late (.write 0 (.ok ()))

/-- The task that was replaced has written its three files before the other one begins. -/
theorem pair_restored_after_early_writes : ∃ s,
    Reach (step pairLibraries) (Orderly pairLibraries) (start CertificateManager.emptyDisk) s ∧
    s.deployed "main" = some reissuedPair ∧ s.Restores pairLibraries "main" reissuedPair := by
  have hrun : (exec (step pairLibraries) (Orderly pairLibraries)
      (start CertificateManager.emptyDisk) (replacedEvents 3 0)).any (fun s =>
        decide (s.deployed "main" = some reissuedPair ∧
          s.manager.active.lookup "main" = none)) = true := by
    decide +kernel
  obtain ⟨s, hexec, hs⟩ := (Option.any_eq_true _ _).mp hrun
  obtain ⟨hdeployed, hnone⟩ := of_decide_eq_true hs
  refine ⟨s, reach_of_exec hexec, hdeployed, deployed_pair_restored
    CertificateCache.sample_roundTrips (reach_of_exec hexec) hdeployed fun a ha => ?_⟩
  rw [hnone] at ha
  cases ha

/-- A task that was replaced writes its certificate after the pair of the other task is deployed.
Both certificates expire on the same day: loading returns the certificate of the one and the key of
the other, and a restart serves nothing. -/
theorem replaced_task_mixes_pair : ∃ s,
    Reach (step pairLibraries) Always (start CertificateManager.emptyDisk) s ∧
    s.deployed "main" = some reissuedPair ∧ s.Quiet "main" ∧
    ¬ s.Restores pairLibraries "main" reissuedPair ∧
    ∃ config certificate, s.manager.config = some config ∧
      config.certificate? "main" = some certificate ∧
      (s.disk config.proxy.cacheDir "main").loadCertificate pairLibraries.cache certificate =
        .ok (some ⟨CertificateCache.firstCertificate, CertificateCache.reissuedKey, 1775001600⟩) ∧
      (CertificateManager.loadCertificateRuntime pairLibraries
        (s.disk config.proxy.cacheDir "main") certificate 0).1 = none := by
  have hrun : (exec (step pairLibraries) Always (start CertificateManager.emptyDisk)
      (replacedEvents 0 1)).any (fun s =>
        decide (s.deployed "main" = some reissuedPair ∧ s.manager.active.lookup "main" = none) &&
        s.manager.config.any fun config =>
          (config.certificate? "main").any fun certificate =>
            decide ((s.disk config.proxy.cacheDir "main").loadCertificate pairLibraries.cache
                certificate =
              .ok (some ⟨CertificateCache.firstCertificate, CertificateCache.reissuedKey,
                1775001600⟩) ∧
              (CertificateManager.loadCertificateRuntime pairLibraries
                (s.disk config.proxy.cacheDir "main") certificate 0).1 = none)) = true := by
    decide +kernel
  obtain ⟨s, hexec, hs⟩ := (Option.any_eq_true _ _).mp hrun
  rw [Bool.and_eq_true] at hs
  obtain ⟨hdeployed, hnone⟩ := of_decide_eq_true hs.1
  obtain ⟨config, hconfig, hfound⟩ := (Option.any_eq_true _ _).mp hs.2
  obtain ⟨certificate, hcertificate, hloads⟩ := (Option.any_eq_true _ _).mp hfound
  obtain ⟨hload, hserved⟩ := of_decide_eq_true hloads
  refine ⟨s, reach_of_exec hexec, hdeployed, fun a ha => ?_, ?_, config, certificate, hconfig,
    hcertificate, hload, hserved⟩
  · rw [hnone] at ha
    cases ha
  · rintro ⟨config', certificate', key, hconfig', hcertificate', -, -, hrestart⟩
    obtain rfl := Option.some.inj (hconfig.symm.trans hconfig')
    obtain rfl := Option.some.inj (hcertificate.symm.trans hcertificate')
    rw [hrestart 0] at hserved
    cases hserved

end CachingManager

end GateRust.Proxy
