/-
# The cache and its writers

A task stores the pair that it has obtained with three writes, each of them atomic, and returns it;
the manager deploys what the current task of a certificate returns.  `apply_config` cancels a task
without waiting for it: a task that is past its last look at its token writes on, in the directory
in which the task that follows it stores its own pair.

Here are the manager and the disk with the writes of the tasks as steps of their own, the runs in
which no task writes over the files of another, and what a write does to a directory.
-/
import GateRust.Proxy.TaskRequests

namespace GateRust.Proxy

open Machine

/-! ## The writes of a task -/

/-- The file of a write, by its place in the order of `store_certificate`. -/
def CertificateCache.AtomicWrite.place : CertificateCache.AtomicWrite → ℕ
  | .certificate _ => 0
  | .privateKey _ => 1
  | .metadata _ => 2

/-- The file has the content of the write. -/
def CacheDirectory.has (d : CacheDirectory) : CertificateCache.AtomicWrite → Bool
  | .certificate content => d.certificate = some content
  | .privateKey content => d.privateKey = some content
  | .metadata content => d.metadata = some content

/-- A call of `store_certificate` by a task. -/
structure StoreCall where
  request : IssuanceRequest
  cacheRoot : String
  certificate : Bytes
  privateKey : Bytes
  /-- The number of files that are written. -/
  written : ℕ
  failed : Option ProxyError

namespace StoreCall

variable (lib : CacheLibraries) (call : StoreCall)

def plan : List CertificateCache.AtomicWrite × Except ProxyError UInt64 :=
  CertificateCache.storePlan lib call.request.certificate call.certificate call.privateKey

def next : Option CertificateCache.AtomicWrite :=
  match call.failed with
  | none => (call.plan lib).1[call.written]?
  | some _ => none

/-- What `finalize` returns once the call has ended. -/
def result : Option (Except ProxyError IssuedCertificate) :=
  match call.failed with
  | some error => some (.error error)
  | none =>
    if call.written = (call.plan lib).1.length then
      some ((call.plan lib).2.map fun expiresAt => ⟨call.certificate, call.privateKey, expiresAt⟩)
    else none

end StoreCall

lemma TaskState.eq_running {state : TaskState} (h : state.isRunning = true) : state = .running := by
  cases state with
  | running => rfl
  | returned result => cases h
  | panicked => cases h

/-- The task comes to `finalize` if nothing fails before. -/
def TaskBody.finalizes : TaskBody → Bool
  | .begin request =>
    match request.certificate.validation with
    | some (.dnsAccount _) => request.dnsAccount.isSome
    | some .manual | none => false
  | .manual _ => true

/-- The result of a task that has come to the end of `finalize`. -/
def TaskBody.finalized (result : Except ProxyError IssuedCertificate) : TaskBody → TaskResult
  | .begin _ => .begin (result.map .issued)
  | .manual _ => .continued result

/-! ## The manager and the cache -/

def Disk.write (disk : Disk) (root certificateId : String) (w : CertificateCache.AtomicWrite) :
    Disk := fun root' certificateId' =>
  if root' = root ∧ certificateId' = certificateId then
    (disk root' certificateId').write w
  else disk root' certificateId'

/-- The manager, the disk, and the calls of `store_certificate` by the tokens of their tasks. -/
structure CachingManager where
  manager : CertificateManager
  disk : Disk
  calls : HashMap ℕ StoreCall
  /-- History: what was deployed last for the certificates, as long as they keep the account, the
  domains and the directory. -/
  deployed : String → Option IssuedCertificate
  /-- History: the generations of the tasks that have written since. -/
  writers : String → List UInt64

namespace CachingManager

/-- What an `Apply` reads while tasks write is left open. -/
inductive Event where
  | manage (e : CertificateManager.Event)
  /-- A task is past its last look at its token and calls `store_certificate`. -/
  | store (index : ℕ) (certificate privateKey : Bytes)
  /-- The next write of a task, or its failure. -/
  | write (index : ℕ) (io : Except String Unit)

def start (disk : Disk) : CachingManager := ⟨.new, disk, ∅, fun _ => none, fun _ => []⟩

variable (lib : Libraries) (s : CachingManager)

/-- A task returns a certificate if and only if it has stored it. -/
def agrees (task : Task) (result : TaskResult) : Bool :=
  match s.calls.lookup task.cancellation with
  | some call => (call.result lib.cache).any fun issued => result = task.body.finalized issued
  | none =>
    match result.product with
    | some (.inl _) => false
    | some (.inr _) | none => true

def mayHappen : CertificateManager.Event → Bool
  | .finish index answers =>
    (s.manager.tasks[index]?).all fun task => s.agrees lib task (task.body.run answers)
  | _ => true

/-- The certificate that is deployed when the manager joins a task. -/
def deployment (m : CertificateManager) (index : ℕ) : Option (String × IssuedCertificate) :=
  match m.tasks[index]? with
  | some ⟨certificateId, generation, _, _, _, .returned result⟩ =>
    match m.accepts ⟨certificateId, generation, result⟩, result.product with
    | true, some (.inl certificate) =>
      if certificateId ∈ m.resolvers ∧
          (lib.tls.setPem certificate.certificatePem certificate.privateKeyPem).isOk then
        some (certificateId, certificate)
      else none
    | _, _ => none
  | _ => none

/-- The certificate has the same account, domains and directory in both configurations. -/
def sameStore (current : Option ProxyConfig) (next : ProxyConfig) (c : String) : Bool :=
  match current with
  | some current =>
    match current.certificate? c, next.certificate? c with
    | some currentCertificate, some nextCertificate =>
      current.proxy.cacheDir = next.proxy.cacheDir &&
        currentCertificate.acmeAccountId = nextCertificate.acmeAccountId &&
        currentCertificate.domains = nextCertificate.domains
    | _, _ => false
  | none => false

/-- The history after an event of the manager. -/
def record (m' : CertificateManager) : CertificateManager.Event → CachingManager
  | .apply config _ _ =>
    { s with
      manager := m'
      deployed := fun c => if sameStore s.manager.config config c then s.deployed c else none }
  | .join index _ =>
    match deployment lib s.manager index with
    | some (c, certificate) =>
      { s with
        manager := m'
        deployed := Function.update s.deployed c (some certificate)
        writers := Function.update s.writers c [] }
    | none => { s with manager := m' }
  | _ => { s with manager := m' }

/-- The running task with the given number, and its call. -/
def storing (index : ℕ) : Option (Task × StoreCall) :=
  match s.manager.tasks[index]? with
  | some task =>
    if task.state.isRunning then (s.calls.lookup task.cancellation).map fun call => (task, call)
    else none
  | none => none

def step : Event → Option CachingManager
  | .manage e =>
    if s.mayHappen lib e then (s.manager.step lib e).map fun m' => s.record lib m' e else none
  | .store index certificate privateKey =>
    match s.manager.tasks[index]? with
    | some task =>
      if task.state.isRunning && task.body.finalizes &&
          (s.calls.lookup task.cancellation).isNone then
        let call := ⟨task.body.request, task.cacheRoot, certificate, privateKey, 0, none⟩
        some { s with calls := s.calls.insert task.cancellation call }
      else none
    | none => none
  | .write index io =>
    match s.storing index with
    | some (task, call) =>
      match call.next lib.cache, io with
      | some w, .ok () =>
        let id := call.request.certificate.id
        some { s with
          disk := Disk.write s.disk call.cacheRoot id w
          calls := s.calls.insert task.cancellation { call with written := call.written + 1 }
          writers := Function.update s.writers id (task.generation :: s.writers id) }
      | some _, .error error =>
        some { s with
          calls := s.calls.insert task.cancellation { call with failed := some (.io error) } }
      | none, _ => none
    | none => none

/-! ## Orderly writes -/

/-- The number of files that the current task of a certificate has written. -/
def progress (c : String) : ℕ :=
  match s.manager.active.lookup c with
  | some a => ((s.calls.lookup a.cancellation).map (·.written)).getD 0
  | none => 0

/-- The task is the current one of its certificate, or its write is over at once: the file has the
content already, or is not in the directory of the configuration, or the current task still has to
write it and the pair that was deployed is not there any more.  Directories with two texts are two
directories. -/
def harmless (task : Task) (call : StoreCall) (w : CertificateCache.AtomicWrite) : Bool :=
  let id := call.request.certificate.id
  (s.manager.active.lookup id).any (fun a => a.cancellation = task.cancellation) ||
    (s.disk call.cacheRoot id).directory.has w ||
    s.manager.config.all (fun config => config.proxy.cacheDir ≠ call.cacheRoot) ||
    (((s.deployed id).isNone || 0 < s.progress id) && s.progress id ≤ w.place)

/-- A current task that has written is joined with a certificate that can be deployed. -/
def deploysWritten (index : ℕ) : Bool :=
  (s.manager.tasks[index]?).all fun task =>
    match task.state with
    | .returned result =>
      !s.manager.accepts (task.output result) || s.progress task.certificateId = 0 ||
        (deployment lib s.manager index).isSome
    | .running | .panicked => true

/-- A task that has begun to write is not cancelled while the pair of before is still the one to be
loaded. -/
def keepsWriting (config : ProxyConfig) : Bool :=
  (certificatesRequiringReload s.manager.config config ++ s.manager.removedBy config).all fun c =>
    s.progress c = 0 || (s.deployed c).isNone || !sameStore s.manager.config config c

def orderly : Event → Bool
  | .manage e =>
    s.manager.timely e && match e with
      | .apply config _ _ => s.keepsWriting config
      | .join index _ => s.deploysWritten lib index
      | _ => true
  | .write index (.ok ()) =>
    match s.storing index with
    | some (task, call) => (call.next lib.cache).all (s.harmless task call)
    | none => true
  | _ => true

def Orderly (e : Event) : Prop := s.orderly lib e = true

instance (e : Event) : Decidable (s.Orderly lib e) := inferInstanceAs (Decidable (_ = true))

end CachingManager

/-! ## The files of a directory -/

section Files

open CertificateCache

variable {cache : CertificateCache} {disk : Disk} {w w' : AtomicWrite} {lib : CacheLibraries}
  {certificate : CertificateConfig} {p : IssuedCertificate} {d : CacheDirectory}
  {root root' c c' : String}

lemma has_write (cache : CertificateCache) (w : AtomicWrite) : (cache.write w).directory.has w := by
  cases w <;> simp [write, CacheDirectory.has]

lemma has_write_of_ne (h : w.place ≠ w'.place) (hw : cache.directory.has w' = true) :
    (cache.write w).directory.has w' = true := by
  cases w <;> cases w' <;> first | exact hw | exact absurd rfl h

lemma write_of_has (h : cache.directory.has w = true) : cache.write w = cache := by
  obtain ⟨⟨certificate, privateKey, metadata⟩, legacyDirectory⟩ := cache
  cases w <;>
    · simp only [CacheDirectory.has, decide_eq_true_eq] at h
      simp only [write, h]

lemma diskWrite_of_has (h : (disk root c).directory.has w = true) :
    Disk.write disk root c w = disk := by
  funext root' c'
  unfold Disk.write
  split
  case isTrue heq =>
    obtain ⟨rfl, rfl⟩ := heq
    exact write_of_has h
  case isFalse => rfl

lemma diskWrite_of_ne (h : ¬ (root' = root ∧ c' = c)) :
    Disk.write disk root c w root' c' = disk root' c' := if_neg h

lemma has_diskWrite_self : (Disk.write disk root c w root c).directory.has w = true := by
  rw [Disk.write, if_pos ⟨rfl, rfl⟩]
  exact has_write _ _

/-- A write keeps the other files. -/
lemma has_diskWrite (h : root' = root → c' = c → w.place ≠ w'.place)
    (hw : (disk root' c').directory.has w' = true) :
    (Disk.write disk root c w root' c').directory.has w' = true := by
  unfold Disk.write
  split
  case isTrue heq => exact has_write_of_ne (h heq.1 heq.2) hw
  case isFalse => exact hw

lemma place_of_plan {config : CertificateConfig} {certificate privateKey : Bytes} {i : ℕ}
    (h : (storePlan lib config certificate privateKey).1[i]? = some w) : w.place = i := by
  unfold storePlan at h
  split at h
  · cases h
  · split at h
    all_goals
      match i with
      | 0 => cases h; rfl
      | 1 => cases h; rfl
      | 2 => cases h <;> rfl
      | i + 3 => cases h

lemma place_lt_of_mem_take {call : StoreCall} {n : ℕ} (h : w ∈ (call.plan lib).1.take n) :
    w.place < n := by
  obtain ⟨i, hi⟩ := List.mem_iff_getElem?.mp h
  rw [List.getElem?_take] at hi
  split_ifs at hi with hlt
  rw [place_of_plan hi]
  exact hlt

/-- The next write of a call keeps the files that the call has written. -/
lemma has_next {call : StoreCall} (hnext : (call.plan lib).1[call.written]? = some w)
    (hfiles : ∀ w' ∈ (call.plan lib).1.take call.written,
      (disk root c).directory.has w' = true) :
    ∀ w' ∈ (call.plan lib).1.take (call.written + 1),
      (Disk.write disk root c w root c).directory.has w' = true := by
  intro w' hw'
  rw [List.take_add_one, hnext, List.mem_append] at hw'
  rcases hw' with hbefore | hlast
  · refine has_diskWrite (fun _ _ => ?_) (hfiles w' hbefore)
    rw [place_of_plan hnext]
    exact (place_lt_of_mem_take hbefore).ne'
  · obtain rfl := List.mem_singleton.mp hlast
    exact has_diskWrite_self

/-- A write to a file that a call has still to write keeps those that it has written. -/
lemma has_of_written_le {call : StoreCall} (hle : call.written ≤ w.place)
    (hfiles : ∀ w' ∈ (call.plan lib).1.take call.written,
      (disk root' c').directory.has w' = true) :
    ∀ w' ∈ (call.plan lib).1.take call.written,
      (Disk.write disk root c w root' c').directory.has w' = true := by
  intro w' hw'
  exact has_diskWrite (fun _ _ => ((place_lt_of_mem_take hw').trans_le hle).ne') (hfiles w' hw')

/-- The directory has the pair, with metadata for the certificate. -/
structure Stored (lib : CacheLibraries) (d : CacheDirectory) (certificate : CertificateConfig)
    (p : IssuedCertificate) : Prop where
  pem : d.certificate = some p.certificatePem
  key : d.privateKey = some p.privateKeyPem
  expiry : lib.parseCertificateExpiry p.certificatePem = .ok p.expiresAt
  metadata : ∃ content, d.metadata = some content ∧
    lib.metadata.fromSlice content = .ok (.new certificate p.expiresAt)

lemma Stored.of_same (h : Stored lib d certificate p) {certificate' : CertificateConfig}
    (haccount : certificate'.acmeAccountId = certificate.acmeAccountId)
    (hdomains : certificate'.domains = certificate.domains) : Stored lib d certificate' p := by
  have hnew : CertificateMetadata.new certificate' p.expiresAt = .new certificate p.expiresAt := by
    rw [CertificateMetadata.new, CertificateMetadata.new, haccount, hdomains]
  exact ⟨h.pem, h.key, h.expiry, hnew ▸ h.metadata⟩

/-- What is stored is loaded. -/
lemma Stored.load (h : Stored lib cache.directory certificate p) :
    cache.loadCertificate lib certificate =
      .ok (some ⟨p.certificatePem, p.privateKeyPem, p.expiresAt⟩) := by
  obtain ⟨content, hcontent, hread⟩ := h.metadata
  have hmatches : (CertificateMetadata.new certificate p.expiresAt).matches certificate = true :=
    (matches_iff _).mpr ⟨rfl, rfl⟩
  have hcurrent : cache.loadCurrent lib certificate =
      .ok (some ⟨p.certificatePem, p.privateKeyPem, p.expiresAt⟩) := by
    have hexpiry : (CertificateMetadata.new certificate p.expiresAt).expiresAt = p.expiresAt := rfl
    simp [loadCurrent, hcontent, hread, hmatches, readPair, h.pem, h.key, h.expiry, hexpiry]
  rw [loadCertificate, hcurrent]

/-- A call that has succeeded has written the three files. -/
lemma stored_of_result {call : StoreCall} (hread : ∀ m, lib.metadata.RoundTrips m)
    (hresult : call.result lib = some (.ok p))
    (hfiles : ∀ w ∈ (call.plan lib).1.take call.written, d.has w = true) :
    Stored lib d call.request.certificate p := by
  unfold StoreCall.result at hresult
  split at hresult
  case h_1 => cases hresult
  case h_2 =>
    split_ifs at hresult with hwritten
    rw [hwritten, List.take_length] at hfiles
    have hissued := Option.some.inj hresult
    unfold StoreCall.plan storePlan at hissued
    split at hissued
    case h_1 => cases hissued
    case h_2 expiresAt hparse =>
      split at hissued
      case h_1 => cases hissued
      case h_2 content hvec =>
        cases hissued
        rw [StoreCall.plan, storePlan_writes hparse hvec] at hfiles
        have hpem := hfiles (.certificate call.certificate) (by simp)
        have hkey := hfiles (.privateKey call.privateKey) (by simp)
        have hmetadata := hfiles (.metadata content) (by simp)
        exact ⟨of_decide_eq_true hpem, of_decide_eq_true hkey, hparse, content,
          of_decide_eq_true hmetadata, hread _ content hvec⟩

end Files

end GateRust.Proxy
