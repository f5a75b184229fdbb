/-
# Active certificates and their tasks

A certificate in the active map waits for the output of one task.  The output names the
certificate; a task that ends abnormally has none, and then the run loop cannot tell whose entry
it has to remove.  As long as no awaited task ends so, every entry of the active map has its task
in the `JoinSet`, and a certificate without a task can be issued and is considered by the
scheduler.
-/
import GateRust.Proxy.InstalledResults

namespace GateRust.Proxy

open Machine

/-! ## Entries and tasks -/

namespace Ledger

variable {l l' : Ledger} {task : Task} {index : Nat}

/-- Every entry of the active map has its task among those that have not been joined. -/
def Held (l : Ledger) : Prop :=
  ∀ c a, l.active.lookup c = some a → ∃ t ∈ l.tasks, t.certificateId = c ∧
    t.generation = a.generation ∧ t.cancellation = a.cancellation

lemma mem_eraseIdx_of_ne {t : Task} (ht : t ∈ l.tasks) (htask : l.tasks[index]? = some task)
    (hne : t ≠ task) : t ∈ l.tasks.eraseIdx index := by
  obtain ⟨i, hi⟩ := List.mem_iff_getElem?.mp ht
  refine List.mem_eraseIdx_iff_getElem?.mpr ⟨i, ?_, hi⟩
  rintro rfl
  rw [htask] at hi
  exact hne (Option.some.inj hi).symm

lemma Held.start (h : l.Held) (certificateId : String) (body : TaskBody) (cacheRoot : String) :
    (l.start certificateId body cacheRoot).Held := by
  intro c a ha
  have ha' : (l.active.insert certificateId ⟨l.generation + 1, l.tokens⟩).lookup c = some a := ha
  rw [AList.lookup_insert_eq] at ha'
  split_ifs at ha' with hc
  · cases ha'
    exact ⟨_, List.mem_append_right _ (List.mem_singleton_self _), hc.symm, rfl, rfl⟩
  · obtain ⟨t, ht, hheld⟩ := h c a ha'
    exact ⟨t, List.mem_append_left _ ht, hheld⟩

lemma Held.applied (h : l.Held) {config : ProxyConfig} (happly : l.Applied config l') :
    l'.Held := by
  intro c a ha
  rw [happly.tasks_eq]
  exact h c a (happly.active ha).1

lemma Held.setState (h : l.Held) (htask : l.tasks[index]? = some task) (state : TaskState) :
    Held { l with tasks := l.tasks.set index { task with state := state } } := by
  intro c a ha
  obtain ⟨t, ht, hheld⟩ := h c a ha
  obtain ⟨i, hi⟩ := List.mem_iff_getElem?.mp ht
  by_cases hindex : index = i
  · subst hindex
    obtain rfl := Option.some.inj (hi.symm.trans htask)
    refine ⟨{ t with state := state }, List.mem_iff_getElem?.mpr ⟨index, ?_⟩, hheld⟩
    rw [List.getElem?_set_self (List.getElem?_eq_some_iff.mp hi).1]
  · refine ⟨t, List.mem_iff_getElem?.mpr ⟨i, ?_⟩, hheld⟩
    rw [List.getElem?_set_ne hindex]
    exact hi

/-- The entry that waited for the task is removed with it. -/
lemma Held.settle (h : l.Held) (htask : l.tasks[index]? = some task) (result : TaskResult) :
    Held { l.settle task.certificateId result with tasks := l.tasks.eraseIdx index } := by
  intro c a ha
  have ha' : (l.active.erase task.certificateId).lookup c = some a := ha
  rw [AList.lookup_erase_eq] at ha'
  split_ifs at ha' with hc
  obtain ⟨t, ht, hcertificate, hheld⟩ := h c a ha'
  refine ⟨t, mem_eraseIdx_of_ne ht htask ?_, hcertificate, hheld⟩
  rintro rfl
  exact hc hcertificate.symm

/-- A task that no entry waits for can go. -/
lemma Held.drop (h : l.Held) (htask : l.tasks[index]? = some task)
    (hstale : ∀ a, l.active.lookup task.certificateId = some a →
      a.generation ≠ task.generation) :
    Held { l with tasks := l.tasks.eraseIdx index } := by
  intro c a ha
  obtain ⟨t, ht, hcertificate, hgeneration, htoken⟩ := h c a ha
  refine ⟨t, mem_eraseIdx_of_ne ht htask ?_, hcertificate, hgeneration, htoken⟩
  rintro rfl
  exact hstale a (hcertificate ▸ ha) hgeneration.symm

end Ledger

namespace CertificateManager

variable {lib : Libraries} {m m' : CertificateManager}

lemma keptByStart_held : KeptByStart Ledger.Held :=
  fun _ config certificateId body h _ _ _ => h.start certificateId body config.proxy.cacheDir

/-! ## Runs without a lost task -/

/-- A task that is joined after an abnormal end is not the one that its certificate waits for. -/
def unawaited (m : CertificateManager) : Event → Bool
  | .join index _ => (m.tasks[index]?).all fun task =>
      task.state ≠ .panicked ||
        (m.active.lookup task.certificateId).all fun active =>
          active.generation ≠ task.generation
  | _ => true

def Unawaited (m : CertificateManager) (event : Event) : Prop := m.unawaited event = true

instance (m : CertificateManager) (event : Event) : Decidable (m.Unawaited event) :=
  inferInstanceAs (Decidable (_ = true))

lemma held_step {event : Event} (h : m.ledger.Held) (hok : m.Unawaited event)
    (hstep : step lib m event = some m') : m'.ledger.Held := by
  cases event with
  | apply config disk now =>
    cases hstep
    exact keptByStart_held.scheduleDue (h.applied (m.applied_installConfig lib disk now config)) now
  | issue certificateId =>
    cases hstep
    exact keptByStart_held.startIssue h certificateId false
  | «continue» certificateId =>
    cases hstep
    exact keptByStart_held.startContinue h certificateId
  | tick now =>
    cases hstep
    exact keptByStart_held.scheduleDue h now
  | finish index answers =>
    obtain ⟨task, htask, rfl⟩ := endTask_cases hstep
    exact h.setState htask _
  | panic index =>
    obtain ⟨task, htask, rfl⟩ := endTask_cases hstep
    exact h.setState htask _
  | join index now =>
    obtain ⟨task, htask, ⟨hstate, rfl⟩ | ⟨result, -, ⟨haccepts, rfl⟩ | ⟨haccepts, rfl⟩⟩⟩ :=
      join_cases hstep
    · refine h.drop htask fun a ha => ?_
      have ha' : m.active.lookup task.certificateId = some a := ha
      rw [Unawaited, unawaited, htask, Option.all_some, hstate, ha', Option.all_some] at hok
      simpa using hok
    · refine h.drop htask fun a ha hgeneration => ?_
      rw [accepts_iff.mpr ⟨a, ha, hgeneration⟩] at haccepts
      cases haccepts
    · rw [handleTask_ledger (m := { m with tasks := m.tasks.eraseIdx index }) lib now haccepts]
      exact h.settle htask result

/-- **A certificate is active only while its task is there.**  In every run in which no awaited
task ends abnormally, and hence a certificate without a task can be issued, and the scheduler
considers it. -/
theorem active_only_with_task (h : Reach (step lib) Unawaited new m) :
    (∀ c a, m.active.lookup c = some a →
      ∃ t ∈ m.tasks, t.certificateId = c ∧ t.generation = a.generation) ∧
    ∀ c, (∀ t ∈ m.tasks, t.certificateId ≠ c) →
      (∀ config issuance, m.config = some config → config.issuanceConfig c = .ok issuance →
        m.issuancePermits ≠ 0 → (m.startIssue c false).1 = .ok ()) ∧
      ∀ now certificate, certificate.id = c → (m.isDue now certificate = true ↔
        ∃ expiresAt, (m.statuses.lookup c).bind (·.expiresAt) = some expiresAt ∧
          saturatingSub expiresAt renewBefore ≤ now ∧
          ∀ retry, m.retry.lookup c = some retry → retry.retryAt ≤ now) := by
  have hheld : m.ledger.Held := by
    refine h.invariant (I := fun m => m.ledger.Held) (by simp [Ledger.Held, ledger, new]) ?_
    intro m event m' hm hok hstep
    exact held_step hm hok hstep
  refine ⟨?_, ?_⟩
  · intro c a ha
    obtain ⟨t, ht, hcertificate, hgeneration, -⟩ := hheld c a ha
    exact ⟨t, ht, hcertificate, hgeneration⟩
  · intro c hnone
    have hactive : m.active.lookup c = none := by
      cases ha : m.active.lookup c with
      | none => rfl
      | some a =>
        obtain ⟨t, ht, hcertificate, -⟩ := hheld c a ha
        exact absurd hcertificate (hnone t ht)
    refine ⟨?_, ?_⟩
    · rintro config ⟨certificate, account, dnsAccount⟩ hconfig hissuance hpermits
      have hgates : (m.openGates account dnsAccount).issuancePermits ≠ 0 := hpermits
      simp only [startIssue, hactive, hconfig, hissuance, Option.isSome_none, Bool.false_eq_true,
        if_false, hgates]
    · rintro now certificate rfl
      unfold isDue
      cases hexpiry : (m.statuses.lookup certificate.id).bind (·.expiresAt) with
      | none => simp
      | some expiresAt =>
        simp only [hactive, Option.isSome_none, Bool.not_false, Bool.and_true, Bool.and_eq_true,
          decide_eq_true_eq, Option.all_eq_true, Option.some.injEq, exists_eq_left']

/-- A task that was replaced by a reload ends abnormally; the certificate is issued again. -/
theorem site_active_after_stale_panic :
    ∃ m a, Reach (step noCertificates) Unawaited new m ∧ m.active.lookup "site" = some a ∧
      ∃ t ∈ m.tasks, t.certificateId = "site" ∧ t.generation = a.generation := by
  have hrun : (exec (step noCertificates) Unawaited new (overtakenEvents ++
      [.panic 0, .join 0 0, .issue "site"])).map (fun m => m.active.lookup "site") =
      some (some ⟨2, 1⟩) := by decide +kernel
  obtain ⟨m, hm, hactive⟩ := Option.map_eq_some_iff.mp hrun
  have hreach := reach_of_exec hm
  exact ⟨m, _, hreach, hactive, (active_only_with_task hreach).1 "site" _ hactive⟩

/-- The task of a certificate ends abnormally and is joined.  The certificate stays active without
a task, and its next request is refused. -/
theorem site_stays_active_after_panic :
    ∃ m, Reach (step noCertificates) Always new m ∧ m.tasks = [] ∧
      (m.active.lookup "site").isSome = true ∧
      (m.startIssue "site" false).1 = .error (.runtime "该证书正在申请中") := by
  have hrun : (exec (step noCertificates) Always new
      [.apply (manualConfig "old.example.com") emptyDisk 0, .issue "site", .panic 0,
        .join 0 0]).any (fun m => decide (m.tasks = [] ∧
        (m.active.lookup "site").isSome = true ∧
        (m.startIssue "site" false).1 = .error (.runtime "该证书正在申请中"))) = true := by
    decide +kernel
  obtain ⟨m, hm, hview⟩ := (Option.any_eq_true _ _).mp hrun
  exact ⟨m, reach_of_exec hm, of_decide_eq_true hview⟩

end CertificateManager

end GateRust.Proxy
