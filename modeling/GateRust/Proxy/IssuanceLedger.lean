/-
# Which results are installed

Of the data of the certificate manager, a small part decides which results of tasks are
installed: the configuration, the certificates with a resolver, the active tasks, the waiting
orders, the tasks that have not been joined, the counter of generations and the cancelled
tokens.  This part is the *ledger*.  Whatever the manager does is a sequence of five moves of
the ledger, and the moves keep it consistent: an active task and a waiting order belong to what
the current configuration gives for their certificate.

A result is compared with the active task by a counter of 64 bits.  The counter returns to the
same value after `2 ^ 64` tasks, so the results below are about runs in which fewer tasks than
that are started between the start of a task and its end; without this condition they fail.
-/
import Mathlib.Logic.Relation
import GateRust.Proxy.Reload

namespace GateRust.Proxy

open Machine Relation

/-! ## The ledger and its moves -/

structure Ledger where
  config : Option ProxyConfig
  resolvers : HashMap String ResolverRef
  active : HashMap String ActiveTask
  pending : HashMap String ManualOrder
  tasks : List Task
  generation : UInt64
  tokens : Nat
  cancelled : List Nat

def CertificateManager.ledger (m : CertificateManager) : Ledger :=
  ⟨m.config, m.resolvers, m.active, m.pending, m.tasks, m.generation, m.tokens, m.cancelled⟩

namespace Ledger

/-- A task is started. -/
def start (l : Ledger) (certificateId : String) (body : TaskBody) (cacheRoot : String) : Ledger :=
  { l with
    pending := l.pending.erase certificateId
    generation := l.generation + 1
    tokens := l.tokens + 1
    tasks := l.tasks ++ [⟨certificateId, l.generation + 1, l.tokens, body, cacheRoot, .running⟩]
    active := l.active.insert certificateId ⟨l.generation + 1, l.tokens⟩ }

/-- The result of the active task of a certificate is taken. -/
def settle (l : Ledger) (certificateId : String) (result : TaskResult) : Ledger :=
  { l with
    active := l.active.erase certificateId
    pending := match result.product with
      | some (.inr order) => l.pending.insert certificateId order
      | some (.inl _) | none => l.pending }

lemma mem_start {l : Ledger} {certificateId cacheRoot : String} {body : TaskBody} {t : Task}
    (h : t ∈ (l.start certificateId body cacheRoot).tasks) : t ∈ l.tasks ∨
      t = ⟨certificateId, l.generation + 1, l.tokens, body, cacheRoot, .running⟩ :=
  (List.mem_append.mp h).imp_right List.mem_singleton.mp

/-- The end of a task does not change the tokens. -/
lemma map_cancellation_set {tasks : List Task} {index : Nat} {task : Task}
    (htask : tasks[index]? = some task) (state : TaskState) :
    (tasks.set index { task with state := state }).map (·.cancellation) =
      tasks.map (·.cancellation) := by
  rw [List.map_set]
  refine List.ext_getElem? fun i => ?_
  by_cases hi : index = i
  · rw [← hi, List.getElem?_set_self', List.getElem?_map, htask]
    rfl
  · rw [List.getElem?_set_ne hi]

/-- An order that waits after the end of a task waited before, or comes from the task. -/
lemma pending_settle {l : Ledger} {certificateId c : String} {result : TaskResult}
    {order : ManualOrder} (h : (l.settle certificateId result).pending.lookup c = some order) :
    l.pending.lookup c = some order ∨
      c = certificateId ∧ result.product = some (.inr order) := by
  cases hproduct : result.product with
  | none =>
    simp only [settle, hproduct] at h
    exact Or.inl h
  | some product =>
    cases product with
    | inl certificate =>
      simp only [settle, hproduct] at h
      exact Or.inl h
    | inr stored =>
      simp only [settle, hproduct, AList.lookup_insert_eq] at h
      split_ifs at h with hc
      · cases h
        exact Or.inr ⟨hc, rfl⟩
      · exact Or.inl h

/-- The certificate is reloaded by the new configuration, or no longer part of it. -/
def Gone (l : Ledger) (config : ProxyConfig) (certificateId : String) : Prop :=
  certificateId ∈ certificatesRequiringReload l.config config ∨
    certificateId ∈ l.resolvers ∧ certificateId ∉ config.certificates.map (·.id)

/-- What applying `config` does to the ledger. -/
structure Applied (l : Ledger) (config : ProxyConfig) (l' : Ledger) : Prop where
  config_eq : l'.config = some config
  tasks_eq : l'.tasks = l.tasks
  generation_eq : l'.generation = l.generation
  tokens_eq : l'.tokens = l.tokens
  active : ∀ {c a}, l'.active.lookup c = some a → l.active.lookup c = some a ∧ ¬ l.Gone config c
  pending : ∀ {c p}, l'.pending.lookup c = some p →
    l.pending.lookup c = some p ∧ ¬ l.Gone config c
  cancelled : ∀ n ∈ l'.cancelled, n ∈ l.cancelled ∨
    ∃ c a, l.Gone config c ∧ l.active.lookup c = some a ∧ a.cancellation = n
  resolvers : ∀ certificate ∈ config.certificates,
    certificate.id ∈ certificatesRequiringReload l.config config ∨ certificate.id ∈ l.resolvers →
    certificate.id ∈ l'.resolvers

/-- The moves of the ledger. -/
inductive Move : Ledger → Ledger → Prop
  | start {l : Ledger} {config : ProxyConfig} {certificateId : String} {body : TaskBody} :
      l.active.lookup certificateId = none → l.config = some config →
      (config.Gives certificateId body.request ∨
        ∃ order, l.pending.lookup certificateId = some order ∧ body = .manual order) →
      Move l (l.start certificateId body config.proxy.cacheDir)
  | apply {l l' : Ledger} {config : ProxyConfig} : l.Applied config l' → Move l l'
  | finish {l : Ledger} {index : Nat} {task : Task} {state : TaskState} :
      l.tasks[index]? = some task →
      (∀ result, state = .returned result → ∃ answers, result = task.body.run answers) →
      Move l { l with tasks := l.tasks.set index { task with state := state } }
  | settle {l : Ledger} {task : Task} {active : ActiveTask} {result : TaskResult} :
      task ∈ l.tasks → task.state = .returned result →
      l.active.lookup task.certificateId = some active →
      active.generation = task.generation → l.tokens < task.cancellation + 1 + 2 ^ 64 →
      Move l (l.settle task.certificateId result)
  | drop {l : Ledger} (index : Nat) : Move l { l with tasks := l.tasks.eraseIdx index }

/-! ## The consistent ledgers -/

/-- Tasks are numbered by their tokens, and generations are these numbers in 64 bits.  The
active task of a certificate is its newest one, is not cancelled, and was started from a request
that the configuration gives, as was every waiting order. -/
structure Consistent (l : Ledger) : Prop where
  generation : l.generation = UInt64.ofNat l.tokens
  taskNumber : ∀ t ∈ l.tasks,
    t.cancellation < l.tokens ∧ t.generation = UInt64.ofNat (t.cancellation + 1)
  taskResult : ∀ t ∈ l.tasks, ∀ result, t.state = .returned result →
    ∃ answers, result = t.body.run answers
  activeNumber : ∀ {c a}, l.active.lookup c = some a →
    a.cancellation < l.tokens ∧ a.generation = UInt64.ofNat (a.cancellation + 1)
  activeNewest : ∀ {c a}, l.active.lookup c = some a →
    ∀ t ∈ l.tasks, t.certificateId = c → t.cancellation ≤ a.cancellation
  activeGiven : ∀ {c a}, l.active.lookup c = some a → ∃ config, l.config = some config ∧
    (∃ certificate ∈ config.certificates, certificate.id = c) ∧
    ∀ t ∈ l.tasks, t.cancellation = a.cancellation →
      config.Gives c t.body.request ∧ t.cacheRoot = config.proxy.cacheDir
  activeDistinct : ∀ {c c' a a'}, l.active.lookup c = some a → l.active.lookup c' = some a' →
    a.cancellation = a'.cancellation → c = c'
  pendingGiven : ∀ {c order}, l.pending.lookup c = some order → ∃ config,
    l.config = some config ∧ config.Gives c order.request
  known : ∀ {config}, l.config = some config →
    ∀ certificate ∈ config.certificates, certificate.id ∈ l.resolvers
  cancelledNumber : ∀ n ∈ l.cancelled, n < l.tokens
  activeNotCancelled : ∀ {c a}, l.active.lookup c = some a → a.cancellation ∉ l.cancelled

namespace Consistent

variable {l l' : Ledger}

/-- A result with the generation of the active task is the result of the active task. -/
lemma cancellation_eq (h : l.Consistent) {task : Task} {active : ActiveTask}
    (htask : task ∈ l.tasks) (hactive : l.active.lookup task.certificateId = some active)
    (hgeneration : active.generation = task.generation)
    (htimely : l.tokens < task.cancellation + 1 + 2 ^ 64) :
    task.cancellation = active.cancellation := by
  obtain ⟨hlt, hgen⟩ := h.activeNumber hactive
  have hle := h.activeNewest hactive task htask rfl
  rw [hgen, (h.taskNumber task htask).2, ← UInt64.toNat_inj, UInt64.toNat_ofNat',
    UInt64.toNat_ofNat'] at hgeneration
  omega

lemma start (h : l.Consistent) {config : ProxyConfig} {certificateId : String} {body : TaskBody}
    (hactive : l.active.lookup certificateId = none) (hconfig : l.config = some config)
    (hbody : config.Gives certificateId body.request ∨
      ∃ order, l.pending.lookup certificateId = some order ∧ body = .manual order) :
    (l.start certificateId body config.proxy.cacheDir).Consistent := by
  have hgives : config.Gives certificateId body.request := by
    rcases hbody with hgives | ⟨order, horder, rfl⟩
    · exact hgives
    · obtain ⟨config', hconfig', hgives⟩ := h.pendingGiven horder
      obtain rfl := Option.some.inj (hconfig.symm.trans hconfig')
      exact hgives
  have hnext : l.generation + 1 = UInt64.ofNat (l.tokens + 1) := by
    rw [h.generation, UInt64.ofNat_add]
    rfl
  -- an entry of the new ledger is the new one, with the next number, or an older one
  have hentry : ∀ {c a}, (l.active.insert certificateId ⟨l.generation + 1, l.tokens⟩).lookup c =
      some a → (c = certificateId ∧ a = ⟨l.generation + 1, l.tokens⟩) ∨
        (c ≠ certificateId ∧ l.active.lookup c = some a) := by
    intro c a ha
    rw [AList.lookup_insert_eq] at ha
    split_ifs at ha with hc
    · exact Or.inl ⟨hc, (Option.some.inj ha).symm⟩
    · exact Or.inr ⟨hc, ha⟩
  constructor
  case generation => exact hnext
  case taskNumber =>
    intro t ht
    rcases mem_start ht with ht | rfl
    · exact ⟨(h.taskNumber t ht).1.trans (Nat.lt_succ_self _), (h.taskNumber t ht).2⟩
    · exact ⟨Nat.lt_succ_self _, hnext⟩
  case taskResult =>
    intro t ht result hresult
    rcases mem_start ht with ht | rfl
    · exact h.taskResult t ht result hresult
    · cases hresult
  case activeNumber =>
    intro c a ha
    rcases hentry ha with ⟨-, rfl⟩ | ⟨-, ha⟩
    · exact ⟨Nat.lt_succ_self _, hnext⟩
    · exact ⟨(h.activeNumber ha).1.trans (Nat.lt_succ_self _), (h.activeNumber ha).2⟩
  case activeNewest =>
    -- the new task has the greatest number of all
    intro c a ha t ht htc
    rcases hentry ha with ⟨rfl, rfl⟩ | ⟨hc, ha⟩
    · rcases mem_start ht with ht | rfl
      · exact (h.taskNumber t ht).1.le
      · exact le_rfl
    · rcases mem_start ht with ht | rfl
      · exact h.activeNewest ha t ht htc
      · exact absurd htc.symm hc
  case activeGiven =>
    intro c a ha
    rcases hentry ha with ⟨rfl, rfl⟩ | ⟨hc, ha⟩
    · obtain ⟨certificate, _, hcertificate, -⟩ := id hgives
      refine ⟨config, hconfig, ⟨certificate, ProxyConfig.certificate?_mem hcertificate,
        ProxyConfig.certificate?_id hcertificate⟩, fun t ht htoken => ?_⟩
      rcases mem_start ht with ht | rfl
      · exact absurd htoken (h.taskNumber t ht).1.ne
      · exact ⟨hgives, rfl⟩
    · obtain ⟨config', hconfig', hmem, htasks⟩ := h.activeGiven ha
      refine ⟨config', hconfig', hmem, fun t ht htoken => ?_⟩
      rcases mem_start ht with ht | rfl
      · exact htasks t ht htoken
      · exact absurd htoken.symm (h.activeNumber ha).1.ne
  case activeDistinct =>
    intro c c' a a' ha ha' htoken
    rcases hentry ha with ⟨hc, rfl⟩ | ⟨-, hold⟩ <;>
      rcases hentry ha' with ⟨hc', rfl⟩ | ⟨-, hold'⟩
    · exact hc.trans hc'.symm
    · exact absurd htoken.symm (h.activeNumber hold').1.ne
    · exact absurd htoken (h.activeNumber hold).1.ne
    · exact h.activeDistinct hold hold' htoken
  case pendingGiven =>
    intro c order horder
    have horder' : (l.pending.erase certificateId).lookup c = some order := horder
    rw [AList.lookup_erase_eq] at horder'
    split_ifs at horder'
    exact h.pendingGiven horder'
  case known => exact h.known
  case cancelledNumber => exact fun n hn => (h.cancelledNumber n hn).trans (Nat.lt_succ_self _)
  case activeNotCancelled =>
    intro c a ha
    rcases hentry ha with ⟨-, rfl⟩ | ⟨-, ha⟩
    · exact fun hn => absurd (h.cancelledNumber _ hn) (lt_irrefl _)
    · exact h.activeNotCancelled ha

/-- A new task has another token than those before it. -/
lemma nodup_start (h : l.Consistent) (hnodup : (l.tasks.map (·.cancellation)).Nodup)
    (certificateId : String) (body : TaskBody) (cacheRoot : String) :
    ((l.start certificateId body cacheRoot).tasks.map (·.cancellation)).Nodup := by
  have hnew : l.tokens ∉ l.tasks.map (·.cancellation) := by
    intro hmem
    obtain ⟨t, ht, htoken⟩ := List.mem_map.mp hmem
    exact absurd htoken (h.taskNumber t ht).1.ne
  rw [Ledger.start, List.map_append]
  exact List.nodup_append_comm.mp (List.nodup_cons.mpr ⟨hnew, hnodup⟩)

/-- A certificate that stays is in both configurations, and its requests stay current. -/
lemma stays (h : l.Consistent) {config next : ProxyConfig} {certificateId : String}
    (hconfig : l.config = some config)
    (hmem : ∃ certificate ∈ config.certificates, certificate.id = certificateId)
    (hgone : ¬ l.Gone next certificateId) :
    (∃ certificate ∈ next.certificates, certificate.id = certificateId) ∧
      ∀ {request}, config.Gives certificateId request → next.Gives certificateId request ∧
        config.proxy.cacheDir = next.proxy.cacheDir := by
  obtain ⟨certificate, hcertificate, rfl⟩ := hmem
  have hresolvers := h.known hconfig certificate hcertificate
  have hdesired : certificate.id ∈ next.certificates.map (·.id) := by
    by_contra hnot
    exact hgone (Or.inr ⟨hresolvers, hnot⟩)
  obtain ⟨nextCertificate, hnextMem, hid⟩ := List.mem_map.mp hdesired
  obtain ⟨first, hfirst⟩ := ProxyConfig.certificate?_of_mem hnextMem
  rw [hid] at hfirst
  refine ⟨⟨nextCertificate, hnextMem, hid⟩, fun hgives => hgives.of_not_reload hfirst ?_⟩
  rw [← hconfig]
  exact fun hreload => hgone (Or.inl hreload)

lemma applied (h : l.Consistent) {config : ProxyConfig} (happly : l.Applied config l') :
    l'.Consistent := by
  constructor
  case generation => rw [happly.generation_eq, happly.tokens_eq, h.generation]
  case taskNumber => rw [happly.tasks_eq, happly.tokens_eq]; exact h.taskNumber
  case taskResult => rw [happly.tasks_eq]; exact h.taskResult
  case activeNumber =>
    intro c a ha
    rw [happly.tokens_eq]
    exact h.activeNumber (happly.active ha).1
  case activeNewest =>
    intro c a ha
    rw [happly.tasks_eq]
    exact h.activeNewest (happly.active ha).1
  case activeGiven =>
    intro c a ha
    obtain ⟨hold, hgone⟩ := happly.active ha
    obtain ⟨current, hcurrent, hmem, htasks⟩ := h.activeGiven hold
    obtain ⟨hnext, hgives⟩ := h.stays hcurrent hmem hgone
    refine ⟨config, happly.config_eq, hnext, ?_⟩
    rw [happly.tasks_eq]
    intro t ht htoken
    obtain ⟨hrequest, hroot⟩ := htasks t ht htoken
    exact ⟨(hgives hrequest).1, hroot.trans (hgives hrequest).2⟩
  case activeDistinct =>
    intro c c' a a' ha ha'
    exact h.activeDistinct (happly.active ha).1 (happly.active ha').1
  case pendingGiven =>
    intro c order horder
    obtain ⟨hold, hgone⟩ := happly.pending horder
    obtain ⟨current, hcurrent, hrequest⟩ := h.pendingGiven hold
    obtain ⟨certificate, _, hcertificate, -⟩ := id hrequest
    obtain ⟨-, hgives⟩ := h.stays hcurrent ⟨certificate, ProxyConfig.certificate?_mem hcertificate,
      ProxyConfig.certificate?_id hcertificate⟩ hgone
    exact ⟨config, happly.config_eq, (hgives hrequest).1⟩
  case known =>
    intro config' hconfig' certificate hcertificate
    obtain rfl := Option.some.inj (happly.config_eq.symm.trans hconfig')
    refine happly.resolvers certificate hcertificate ?_
    by_contra hnot
    rw [not_or] at hnot
    -- a certificate that is not reloaded was in the configuration before
    cases hcurrent : l.config with
    | none =>
      rw [hcurrent] at hnot
      exact hnot.1 (List.mem_map_of_mem hcertificate)
    | some current =>
      rw [hcurrent] at hnot
      obtain ⟨currentCertificate, hfind, -⟩ := unchanged_of_not_mem_reload hcertificate hnot.1
      have hknown := h.known hcurrent _ (ProxyConfig.certificate?_mem hfind)
      rw [ProxyConfig.certificate?_id hfind] at hknown
      exact hnot.2 hknown
  case cancelledNumber =>
    intro n hn
    rw [happly.tokens_eq]
    rcases happly.cancelled n hn with hn | ⟨c, a, -, ha, rfl⟩
    · exact h.cancelledNumber n hn
    · exact (h.activeNumber ha).1
  case activeNotCancelled =>
    -- what is cancelled now belonged to a certificate that is gone
    intro c a ha hn
    obtain ⟨hold, hgone⟩ := happly.active ha
    rcases happly.cancelled _ hn with hn | ⟨c', a', hgone', ha', htoken⟩
    · exact h.activeNotCancelled hold hn
    · obtain rfl := h.activeDistinct ha' hold htoken
      exact hgone hgone'

/-- The tasks may change their state and may disappear. -/
lemma of_tasks (h : l.Consistent) {tasks : List Task}
    (htasks : ∀ t ∈ tasks, ∃ old ∈ l.tasks, t = { old with state := t.state })
    (hresult : ∀ t ∈ tasks, ∀ result, t.state = .returned result →
      ∃ answers, result = t.body.run answers) :
    { l with tasks := tasks }.Consistent := by
  constructor
  case generation => exact h.generation
  case taskNumber =>
    intro t ht
    obtain ⟨old, hold, heq⟩ := htasks t ht
    rw [heq]
    exact h.taskNumber old hold
  case taskResult => exact hresult
  case activeNumber => exact h.activeNumber
  case activeNewest =>
    intro c a ha t ht
    obtain ⟨old, hold, heq⟩ := htasks t ht
    rw [heq]
    exact h.activeNewest ha old hold
  case activeGiven =>
    intro c a ha
    obtain ⟨config, hconfig, hmem, hgiven⟩ := h.activeGiven ha
    refine ⟨config, hconfig, hmem, fun t ht => ?_⟩
    obtain ⟨old, hold, heq⟩ := htasks t ht
    rw [heq]
    exact hgiven old hold
  case activeDistinct => exact h.activeDistinct
  case pendingGiven => exact h.pendingGiven
  case known => exact h.known
  case cancelledNumber => exact h.cancelledNumber
  case activeNotCancelled => exact h.activeNotCancelled

lemma finish (h : l.Consistent) {index : Nat} {task : Task} {state : TaskState}
    (htask : l.tasks[index]? = some task)
    (hstate : ∀ result, state = .returned result → ∃ answers, result = task.body.run answers) :
    { l with tasks := l.tasks.set index { task with state := state } }.Consistent := by
  refine h.of_tasks (fun t ht => ?_) (fun t ht result hresult => ?_)
  · rcases List.mem_or_eq_of_mem_set ht with ht | rfl
    · exact ⟨t, ht, rfl⟩
    · exact ⟨task, List.mem_of_getElem? htask, rfl⟩
  · rcases List.mem_or_eq_of_mem_set ht with ht | rfl
    · exact h.taskResult t ht result hresult
    · exact hstate result hresult

lemma drop (h : l.Consistent) (index : Nat) :
    { l with tasks := l.tasks.eraseIdx index }.Consistent :=
  h.of_tasks (fun t ht => ⟨t, List.mem_of_mem_eraseIdx ht, rfl⟩)
    (fun t ht => h.taskResult t (List.mem_of_mem_eraseIdx ht))

lemma settle (h : l.Consistent) {task : Task} {active : ActiveTask} {result : TaskResult}
    (htask : task ∈ l.tasks) (hresult : task.state = .returned result)
    (hactive : l.active.lookup task.certificateId = some active)
    (hgeneration : active.generation = task.generation)
    (htimely : l.tokens < task.cancellation + 1 + 2 ^ 64) :
    (l.settle task.certificateId result).Consistent := by
  have hentry : ∀ {c a}, (l.active.erase task.certificateId).lookup c = some a →
      l.active.lookup c = some a := by
    intro c a ha
    rw [AList.lookup_erase_eq] at ha
    split_ifs at ha
    exact ha
  constructor
  case generation => exact h.generation
  case taskNumber => exact h.taskNumber
  case taskResult => exact h.taskResult
  case activeNumber => exact fun ha => h.activeNumber (hentry ha)
  case activeNewest => exact fun ha => h.activeNewest (hentry ha)
  case activeGiven => exact fun ha => h.activeGiven (hentry ha)
  case activeDistinct => exact fun ha ha' => h.activeDistinct (hentry ha) (hentry ha')
  case pendingGiven =>
    intro c order horder
    rcases pending_settle horder with horder | ⟨rfl, hproduct⟩
    · exact h.pendingGiven horder
    · -- the stored order keeps the request of the active task
      obtain ⟨answers, rfl⟩ := h.taskResult task htask result hresult
      obtain ⟨config, hconfig, -, htasks⟩ := h.activeGiven hactive
      have htoken := h.cancellation_eq htask hactive hgeneration htimely
      rw [(TaskBody.run_order hproduct).1]
      exact ⟨config, hconfig, (htasks task htask htoken).1⟩
  case known => exact h.known
  case cancelledNumber => exact h.cancelledNumber
  case activeNotCancelled => exact fun ha => h.activeNotCancelled (hentry ha)

/-- **Every move keeps the ledger consistent.** -/
theorem move (h : l.Consistent) (hmove : l.Move l') : l'.Consistent := by
  cases hmove with
  | start hactive hconfig hbody => exact h.start hactive hconfig hbody
  | apply happly => exact h.applied happly
  | finish htask hstate => exact h.finish htask hstate
  | settle htask hresult hactive hgeneration htimely =>
    exact h.settle htask hresult hactive hgeneration htimely
  | drop index => exact h.drop index

lemma moves (h : l.Consistent) (hmoves : ReflTransGen Move l l') : l'.Consistent := by
  induction hmoves with
  | refl => exact h
  | tail _ hmove ih => exact ih.move hmove

end Consistent

end Ledger

end GateRust.Proxy
