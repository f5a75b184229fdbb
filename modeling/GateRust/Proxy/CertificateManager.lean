/-
# The certificate manager

The manager of `runtime.rs` owns all mutable data about certificates.  It handles one event at
a time: a configuration to apply, a request to issue a certificate or to continue an order, the
end of a task, the tick of the scheduler.  Tasks run beside it and may end at any time, also
after they have been cancelled; what they produce is handled when the manager joins them.

An event carries the time at which it is handled and what the disk holds.  The test of DNS
credentials is left out, since it does not touch the data of the manager.
-/
import Mathlib.Algebra.Ring.Nat
import Mathlib.Data.List.Sort
import GateRust.Lib.Machine
import GateRust.Proxy.CertificateResolver
import GateRust.Proxy.Issuance

namespace GateRust.Proxy

/-! ## The data of the manager -/

inductive CertificateStatus where
  | idle
  | issuing
  | waitingDns
  | valid
  | renewing
  | failed
  | expired
deriving DecidableEq, Repr

structure CertificateRuntimeStatus where
  certificateId : String
  status : CertificateStatus
  expiresAt : Option UInt64
  lastError : Option String
  manualRecords : List ManualDnsRecord
deriving DecidableEq, Repr

/-- The entry of a certificate that is being issued.  A cancellation token is the number of
tasks that were started before the token was made. -/
structure ActiveTask where
  generation : UInt64
  cancellation : Nat
deriving DecidableEq, Repr

structure RetryState where
  attempts : UInt32
  retryAt : UInt64
deriving DecidableEq, Repr

/-- A task runs until its body returns or panics; then it waits for the run loop to join it. -/
inductive TaskState where
  | running
  | returned (result : TaskResult)
  | panicked
deriving DecidableEq

def TaskState.isRunning : TaskState → Bool
  | .running => true
  | .returned _ | .panicked => false

/-- A task in the `JoinSet`. -/
structure Task where
  certificateId : String
  generation : UInt64
  cancellation : Nat
  body : TaskBody
  cacheRoot : String
  state : TaskState
deriving DecidableEq

structure TaskOutput where
  certificateId : String
  generation : UInt64
  result : TaskResult

def Task.output (task : Task) (result : TaskResult) : TaskOutput :=
  ⟨task.certificateId, task.generation, result⟩

/-- The manager, the certificates in the resolvers it refers to, and the tokens it has made. -/
structure CertificateManager where
  resolver : CertificateResolver
  snapshot : List CertificateRuntimeStatus
  config : Option ProxyConfig
  resolvers : HashMap String ResolverRef
  directs : List (Option CertifiedKey)
  statuses : HashMap String CertificateRuntimeStatus
  active : HashMap String ActiveTask
  pending : HashMap String ManualOrder
  tasks : List Task
  retry : HashMap String RetryState
  accountGates : HashMap String Nat
  dnsGates : HashMap String Nat
  generation : UInt64
  tokens : Nat
  cancelled : List Nat

/-- The libraries that the manager uses. -/
structure Libraries where
  cache : CacheLibraries
  tls : TlsLibraries

/-- The cache directories, by root and certificate. -/
abbrev Disk := String → String → CertificateCache

def maxConcurrentIssuance : Nat := 4

/-- `RENEW_BEFORE`, 336 hours. -/
def renewBefore : UInt64 := 1209600

def retryBase : Nat := 300

def retryMax : Nat := 21600

def saturatingAdd (a b : UInt64) : UInt64 := if a.toNat + b.toNat < 2 ^ 64 then a + b else -1

def saturatingSub (a b : UInt64) : UInt64 := if b ≤ a then a - b else 0

/-! ## What a configuration says about a certificate -/

/-- The first certificate with the given identifier. -/
def ProxyConfig.certificate? (config : ProxyConfig) (certificateId : String) :
    Option CertificateConfig :=
  config.certificates.find? fun certificate => certificate.id = certificateId

def ProxyConfig.acmeAccount? (config : ProxyConfig) (accountId : String) :
    Option AcmeAccountConfig :=
  config.acmeAccounts.find? fun account => account.id = accountId

def ProxyConfig.dnsAccount? (config : ProxyConfig) (accountId : String) :
    Option DnsAccountConfig :=
  config.dnsAccounts.find? fun account => account.id = accountId

def dnsAccountForCertificate (config : ProxyConfig) (certificate : CertificateConfig) :
    Option DnsAccountConfig :=
  match certificate.validation with
  | some (.dnsAccount dnsAccountId) => config.dnsAccount? dnsAccountId
  | some .manual | none => none

def sameAcmeRuntimeAccount : Option AcmeAccountConfig → Option AcmeAccountConfig → Bool
  | some current, some next =>
    current.id = next.id && current.provider = next.provider &&
      current.environment = next.environment && current.email = next.email &&
      current.keyAlgorithm = next.keyAlgorithm && current.eabKeyId = next.eabKeyId &&
      current.eabHmacKey = next.eabHmacKey
  | none, none => true
  | _, _ => false

def sameDnsRuntimeAccount : Option DnsAccountConfig → Option DnsAccountConfig → Bool
  | some current, some next =>
    current.id = next.id && current.provider = next.provider &&
      current.apiToken = next.apiToken && current.accessKey = next.accessKey &&
      current.secretKey = next.secretKey
  | none, none => true
  | _, _ => false

/-- The directories are compared by their texts. -/
def certificateRuntimeChanged (current next : ProxyConfig)
    (currentCertificate nextCertificate : CertificateConfig) : Bool :=
  current.proxy.cacheDir ≠ next.proxy.cacheDir ||
    currentCertificate.domains ≠ nextCertificate.domains ||
    currentCertificate.acmeAccountId ≠ nextCertificate.acmeAccountId ||
    currentCertificate.validation ≠ nextCertificate.validation ||
    currentCertificate.migrationError ≠ nextCertificate.migrationError ||
    !sameAcmeRuntimeAccount (current.acmeAccount? currentCertificate.acmeAccountId)
      (next.acmeAccount? nextCertificate.acmeAccountId) ||
    !sameDnsRuntimeAccount (dnsAccountForCertificate current currentCertificate)
      (dnsAccountForCertificate next nextCertificate)

def certificatesRequiringReload (current : Option ProxyConfig) (next : ProxyConfig) :
    List String :=
  match current with
  | none => next.certificates.map (·.id)
  | some current =>
    (next.certificates.filter fun nextCertificate =>
      match current.certificate? nextCertificate.id with
      | none => true
      | some currentCertificate =>
        certificateRuntimeChanged current next currentCertificate nextCertificate).map (·.id)

/-- The certificate and the accounts that an issuance uses, or why it cannot start. -/
def ProxyConfig.issuanceConfig (config : ProxyConfig) (certificateId : String) :
    Except ProxyError (CertificateConfig × AcmeAccountConfig × Option DnsAccountConfig) :=
  match config.certificate? certificateId with
  | none => .error (.runtime "证书不存在")
  | some certificate =>
    match certificate.validation with
    | none => .error (.runtime (certificate.migrationError.getD "证书尚未选择验证方式"))
    | some validation =>
      match config.acmeAccount? certificate.acmeAccountId with
      | none => .error (.runtime "ACME 账户不存在")
      | some account =>
        match validation with
        | .manual => .ok (certificate, account, none)
        | .dnsAccount dnsAccountId =>
          match config.dnsAccount? dnsAccountId with
          | none => .error (.runtime "DNS 账户不存在")
          | some dnsAccount => .ok (certificate, account, some dnsAccount)

/-- The semaphore of an account, made when it is first used. -/
def gateFor (gates : HashMap String Nat) (accountId : String) : Nat × HashMap String Nat :=
  match gates.lookup accountId with
  | some gate => (gate, gates)
  | none => (gates.size, gates.insert accountId gates.size)

namespace CertificateManager

def new : CertificateManager where
  resolver := .new
  snapshot := []
  config := none
  resolvers := ∅
  directs := []
  statuses := ∅
  active := ∅
  pending := ∅
  tasks := []
  retry := ∅
  accountGates := ∅
  dnsGates := ∅
  generation := 0
  tokens := 0
  cancelled := []

/-- The permits that are left: a task holds one until it has ended. -/
def issuancePermits (m : CertificateManager) : Nat :=
  maxConcurrentIssuance - m.tasks.countP fun task => task.state.isRunning

def publish (m : CertificateManager) : CertificateManager :=
  { m with snapshot := (m.statuses.entries.map Sigma.snd).insertionSort fun left right =>
      left.certificateId ≤ right.certificateId }

def modifyStatus (m : CertificateManager) (certificateId : String)
    (f : CertificateRuntimeStatus → CertificateRuntimeStatus) : CertificateManager :=
  { m with statuses := m.statuses.modify certificateId f }

/-! ## Starting a task -/

/-- A task with a new generation is spawned and entered as the active one. -/
def spawn (m : CertificateManager) (certificateId : String) (body : TaskBody)
    (cacheRoot : String) : CertificateManager :=
  let generation := m.generation + 1
  { m with
    generation := generation
    tokens := m.tokens + 1
    tasks := m.tasks ++ [⟨certificateId, generation, m.tokens, body, cacheRoot, .running⟩]
    active := m.active.insert certificateId ⟨generation, m.tokens⟩ }

/-- The semaphores of the accounts are made. -/
def openGates (m : CertificateManager) (account : AcmeAccountConfig)
    (dnsAccount : Option DnsAccountConfig) : CertificateManager :=
  { m with
    accountGates := (gateFor m.accountGates account.id).2
    dnsGates := match dnsAccount with
      | some account => (gateFor m.dnsGates account.id).2
      | none => m.dnsGates }

def issuanceRequest (m : CertificateManager) (certificate : CertificateConfig)
    (account : AcmeAccountConfig) (dnsAccount : Option DnsAccountConfig) : IssuanceRequest where
  certificate := certificate
  account := account
  dnsAccount := dnsAccount
  accountGate := (gateFor m.accountGates account.id).1
  dnsGate := dnsAccount.map fun account => (gateFor m.dnsGates account.id).1

def startIssue (m : CertificateManager) (certificateId : String) (renewal : Bool) :
    Except ProxyError Unit × CertificateManager :=
  if (m.active.lookup certificateId).isSome then (.error (.runtime "该证书正在申请中"), m)
  else
    match m.config with
    | none => (.error (.runtime "代理配置尚未应用"), m)
    | some config =>
      match config.issuanceConfig certificateId with
      | .error error => (.error error, m)
      | .ok (certificate, account, dnsAccount) =>
        let request := m.issuanceRequest certificate account dnsAccount
        -- the gates stay even when no permit is left
        let m := m.openGates account dnsAccount
        if m.issuancePermits = 0 then (.error (.runtime "证书签发任务已达到并发上限"), m)
        else
          let m := { m with pending := m.pending.erase certificateId }
          let m := m.spawn certificate.id (.begin request) config.proxy.cacheDir
          let m := m.modifyStatus certificate.id fun status =>
            { status with
              status := if renewal then .renewing else .issuing
              lastError := none
              manualRecords := [] }
          (.ok (), m.publish)

def startContinue (m : CertificateManager) (certificateId : String) :
    Except ProxyError Unit × CertificateManager :=
  if (m.active.lookup certificateId).isSome then (.error (.runtime "该证书正在申请中"), m)
  else
    match m.config with
    | none => (.error (.runtime "代理配置尚未应用"), m)
    | some config =>
      if m.issuancePermits = 0 then (.error (.runtime "证书签发任务已达到并发上限"), m)
      else
        match m.pending.lookup certificateId with
        | none => (.error (.runtime "没有等待手动解析的 ACME 订单"), m)
        | some pending =>
          let m := { m with pending := m.pending.erase certificateId }
          let m := m.spawn certificateId (.manual pending) config.proxy.cacheDir
          let m := m.modifyStatus certificateId fun status =>
            { status with status := .issuing, lastError := none }
          (.ok (), m.publish)

/-! ## Failures and deployment -/

/-- The delay before the next attempt, in seconds. -/
def retryDelay (attempts : UInt32) : Nat := min (retryBase * 2 ^ min attempts.toNat 6) retryMax

def retryJitter (certificateId : String) : UInt64 :=
  (certificateId.toUTF8.toList.foldl (fun value byte => value + byte.toUInt64) 0) % 60

/-- Only a certificate that renews itself and has an expiry is tried again. -/
def canRetry (m : CertificateManager) (certificateId : String) : Bool :=
  (m.config.bind (·.certificate? certificateId)).any (·.autoRenew) &&
    ((m.statuses.lookup certificateId).bind (·.expiresAt)).isSome

def scheduleRetry (m : CertificateManager) (certificateId : String) (now : UInt64) :
    CertificateManager :=
  let retry := (m.retry.lookup certificateId).getD ⟨0, now⟩
  let delay := UInt64.ofNat (retryDelay retry.attempts)
  let retryAt := saturatingAdd (saturatingAdd now delay) (retryJitter certificateId)
  let attempts := if retry.attempts = -1 then -1 else retry.attempts + 1
  { m with retry := m.retry.insert certificateId ⟨attempts, retryAt⟩ }

def fail (m : CertificateManager) (certificateId : String) (error : ProxyError) (now : UInt64) :
    CertificateManager :=
  let m := if m.canRetry certificateId then m.scheduleRetry certificateId now else m
  m.modifyStatus certificateId fun status =>
    { status with
      status := if status.expiresAt.any (· ≤ now) then .expired else .failed
      lastError := some error.display
      manualRecords := [] }

def deploy (m : CertificateManager) (lib : Libraries) (certificateId : String)
    (certificate : IssuedCertificate) (now : UInt64) : CertificateManager :=
  match m.resolvers.lookup certificateId with
  | none => m.fail certificateId (.runtime "证书解析器不存在") now
  | some ref =>
    match lib.tls.setPem certificate.certificatePem certificate.privateKeyPem with
    | .error error => m.fail certificateId error now
    | .ok certified =>
      let m := { m with
        directs := m.directs.set ref (some certified)
        retry := m.retry.erase certificateId }
      m.modifyStatus certificateId fun status =>
        { status with
          status := .valid
          expiresAt := some certificate.expiresAt
          lastError := none
          manualRecords := [] }

/-- An order waits for its DNS records. -/
def storePending (m : CertificateManager) (certificateId : String) (pending : ManualOrder)
    (error : Option ProxyError) : CertificateManager :=
  let m := { m with pending := m.pending.insert certificateId pending }
  m.modifyStatus certificateId fun status =>
    { status with
      status := .waitingDns
      lastError := error.map ProxyError.display
      manualRecords := pending.records }

/-- The output is that of the task entered as active, as far as its generation tells. -/
def accepts (m : CertificateManager) (output : TaskOutput) : Bool :=
  (m.active.lookup output.certificateId).any fun active => active.generation = output.generation

def handleTask (m : CertificateManager) (lib : Libraries) (now : UInt64) (output : TaskOutput) :
    CertificateManager :=
  if m.accepts output then
    let m := { m with active := m.active.erase output.certificateId }
    let m := match output.result with
      | .begin (.ok (.issued certificate)) | .continued (.ok certificate) =>
        m.deploy lib output.certificateId certificate now
      | .begin (.ok (.waiting pending)) => m.storePending output.certificateId pending none
      | .manualNotReady pending error =>
        m.storePending output.certificateId pending (some error)
      | .begin (.error error) | .continued (.error error) =>
        m.fail output.certificateId error now
    m.publish
  else m

/-! ## The scheduler -/

/-- A certificate whose time is over. -/
def markExpired (now : UInt64) (status : CertificateRuntimeStatus) : CertificateRuntimeStatus :=
  if status.expiresAt.any (· ≤ now) && (status.status = .valid || status.status = .failed) then
    { status with status := .expired }
  else status

/-- The certificate is to be renewed at `now`. -/
def isDue (m : CertificateManager) (now : UInt64) (certificate : CertificateConfig) : Bool :=
  match (m.statuses.lookup certificate.id).bind (·.expiresAt) with
  | none => false
  | some expiresAt =>
    saturatingSub expiresAt renewBefore ≤ now &&
      (m.retry.lookup certificate.id).all (fun retry => retry.retryAt ≤ now) &&
      !(m.active.lookup certificate.id).isSome

def due (m : CertificateManager) (now : UInt64) (config : ProxyConfig) : List String :=
  ((config.certificates.filter (·.autoRenew)).filter (m.isDue now)).map (·.id)

def startRenewal (now : UInt64) (m : CertificateManager) (certificateId : String) :
    CertificateManager :=
  match m.startIssue certificateId true with
  | (.ok (), m) => m
  | (.error error, m) => m.fail certificateId error now

def startDue (m : CertificateManager) (now : UInt64) : CertificateManager :=
  match m.config with
  | none => m
  | some config => (m.due now config).foldl (startRenewal now) m

def scheduleDue (m : CertificateManager) (now : UInt64) : CertificateManager :=
  let statusChanged := m.statuses.entries.any fun e => markExpired now e.2 ≠ e.2
  let m := { m with statuses := m.statuses.mapValues (markExpired now) }
  let m := m.startDue now
  -- a start publishes by itself, a start that fails does not
  if statusChanged then m.publish else m

/-! ## Applying a configuration -/

/-- The resolver content and the status that a certificate starts with. -/
def loadCertificateRuntime (lib : Libraries) (cache : CertificateCache)
    (certificate : CertificateConfig) (now : UInt64) :
    Option CertifiedKey × CertificateRuntimeStatus :=
  match cache.loadCertificate lib.cache certificate with
  | .ok (some cached) =>
    match lib.tls.setPem cached.certificate cached.privateKey with
    | .ok certified =>
      -- an expired certificate is served until it is renewed
      (some certified,
        { certificateId := certificate.id
          status := if cached.expiresAt ≤ now then .expired else .valid
          expiresAt := some cached.expiresAt
          lastError := certificate.migrationError
          manualRecords := [] })
    | .error error =>
      (none, ⟨certificate.id, .failed, some cached.expiresAt, some error.display, []⟩)
  | .ok none =>
    (none,
      { certificateId := certificate.id
        status := if certificate.migrationError.isSome then .failed else .idle
        expiresAt := none
        lastError := certificate.migrationError
        manualRecords := [] })
  | .error error => (none, ⟨certificate.id, .failed, none, some error.display, []⟩)

/-- The task of a certificate is cancelled and its order forgotten. -/
def discard (m : CertificateManager) (certificateId : String) : CertificateManager :=
  { m with
    cancelled := ((m.active.lookup certificateId).map (·.cancellation)).toList ++ m.cancelled
    active := m.active.erase certificateId
    pending := m.pending.erase certificateId
    retry := m.retry.erase certificateId }

def removeRuntime (m : CertificateManager) (certificateId : String) : CertificateManager :=
  { m with
    resolver := m.resolver.remove certificateId
    resolvers := m.resolvers.erase certificateId
    statuses := m.statuses.erase certificateId }

def installRuntime (m : CertificateManager) (certificate : CertificateConfig)
    (direct : Option CertifiedKey) (status : CertificateRuntimeStatus) : CertificateManager :=
  let ref := m.directs.length
  { m with
    directs := m.directs ++ [direct]
    resolver := m.resolver.replaceDirect certificate.id certificate.domains ref
    resolvers := m.resolvers.insert certificate.id ref
    statuses := m.statuses.insert certificate.id status }

/-- The retry state is dropped where automatic renewal was switched on or off. -/
def resetRetry (m : CertificateManager) (config : ProxyConfig) : CertificateManager :=
  match m.config with
  | none => m
  | some current =>
    { m with retry := config.certificates.foldl (fun retry certificate =>
        match current.certificate? certificate.id with
        | some item =>
          if item.autoRenew ≠ certificate.autoRenew then retry.erase certificate.id else retry
        | none => retry) m.retry }

/-- The certificates that the manager knows and the new configuration does not have. -/
def removedBy (m : CertificateManager) (config : ProxyConfig) : List String :=
  m.resolvers.keys.filter fun id => !(config.certificates.map (·.id)).contains id

/-- `apply_config` up to the scheduling of what is due. -/
def installConfig (m : CertificateManager) (lib : Libraries) (disk : Disk) (now : UInt64)
    (config : ProxyConfig) : CertificateManager :=
  let reload := certificatesRequiringReload m.config config
  let removed := m.removedBy config
  let m := (reload ++ removed).foldl discard m
  -- everything is loaded before the first resolver is replaced
  let replacements := (config.certificates.filter fun certificate =>
      reload.contains certificate.id).map fun certificate =>
    (certificate, loadCertificateRuntime lib (disk config.proxy.cacheDir certificate.id)
      certificate now)
  let m := removed.foldl removeRuntime m
  let m := replacements.foldl (fun m r => m.installRuntime r.1 r.2.1 r.2.2) m
  let m := m.resetRetry config
  { m with config := some config }.publish

def applyConfig (m : CertificateManager) (lib : Libraries) (disk : Disk) (now : UInt64)
    (config : ProxyConfig) : CertificateManager :=
  (m.installConfig lib disk now config).scheduleDue now

/-! ## Events -/

/-- What the run loop handles, and the end of a task. -/
inductive Event where
  | apply (config : ProxyConfig) (disk : Disk) (now : UInt64)
  | issue (certificateId : String)
  | continue (certificateId : String)
  | tick (now : UInt64)
  /-- The body of a task returns. -/
  | finish (index : Nat) (answers : Answers)
  | panic (index : Nat)
  /-- The run loop joins a task that has ended. -/
  | join (index : Nat) (now : UInt64)

/-- The task with the given number ends. -/
def endTask (m : CertificateManager) (index : Nat) (result : Task → TaskState) :
    Option CertificateManager :=
  match m.tasks[index]? with
  | none => none
  | some task =>
    if task.state.isRunning then
      some { m with tasks := m.tasks.set index { task with state := result task } }
    else none

def step (lib : Libraries) (m : CertificateManager) : Event → Option CertificateManager
  | .apply config disk now => some (m.applyConfig lib disk now config)
  | .issue certificateId => some (m.startIssue certificateId false).2
  | .continue certificateId => some (m.startContinue certificateId).2
  | .tick now => some (m.scheduleDue now)
  | .finish index answers => m.endTask index fun task => .returned (task.body.run answers)
  | .panic index => m.endTask index fun _ => .panicked
  | .join index now =>
    match m.tasks[index]? with
    | none => none
    | some task =>
      let m := { m with tasks := m.tasks.eraseIdx index }
      match task.state with
      | .running => none
      | .returned result => some (m.handleTask lib now (task.output result))
      | .panicked => some m

end CertificateManager

end GateRust.Proxy
