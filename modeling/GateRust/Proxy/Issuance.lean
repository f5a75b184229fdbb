/-
# Issuing a certificate

The tasks of `acme.rs` that obtain a certificate.  A task works on a request, which is copied
from the configuration when the task starts, and stops at the first failure.  What the ACME
server, the name servers and the disk answer is an argument: the results below hold for all
answers, and so also for a task that goes on after it has been cancelled.
-/
import GateRust.Lib.Results
import GateRust.Proxy.CertificateCache

namespace GateRust.Proxy

structure IssuanceRequest where
  certificate : CertificateConfig
  account : AcmeAccountConfig
  dnsAccount : Option DnsAccountConfig
  /-- The semaphores of the two accounts, by number. -/
  accountGate : Nat
  dnsGate : Option Nat
deriving DecidableEq, Repr

structure IssuedCertificate where
  certificatePem : Bytes
  privateKeyPem : Bytes
  expiresAt : UInt64
deriving DecidableEq, Repr

structure ManualDnsRecord where
  name : String
  value : String
deriving DecidableEq, Repr

/-- An order that waits for DNS records set by hand.  The order and its challenges belong to
the ACME library; they are known by their addresses. -/
structure ManualOrder where
  request : IssuanceRequest
  order : String
  challenges : List String
  records : List ManualDnsRecord
deriving DecidableEq, Repr

inductive IssueResult where
  | issued (certificate : IssuedCertificate)
  | waiting (order : ManualOrder)
deriving DecidableEq, Repr

/-- The results of the calls that leave the process. -/
structure Answers where
  loadAccount : Except ProxyError Unit
  order : Except ProxyError String
  collectChallenges : Except ProxyError (List String × List ManualDnsRecord)
  dnsClient : Except ProxyError Unit
  authorizeAutomatically : Except ProxyError Unit
  verifyDnsRecords : Except ProxyError Unit
  validateChallenges : Except ProxyError Unit
  finalize : Except ProxyError IssuedCertificate

def beginIssue (request : IssuanceRequest) (answers : Answers) :
    Except ProxyError IssueResult := do
  answers.loadAccount
  let order ← answers.order
  let (challenges, records) ← answers.collectChallenges
  match request.certificate.validation with
  | some (.dnsAccount _) =>
    -- `start_issue` has looked the account up, so the error does not occur
    let some _ := request.dnsAccount | throw (.invalidConfig "证书引用的 DNS 账户不存在")
    answers.dnsClient
    answers.authorizeAutomatically
    return .issued (← answers.finalize)
  | some .manual => return .waiting ⟨request, order, challenges, records⟩
  | none => throw (.invalidConfig "待迁移证书不能发起申请")

def continueManual (answers : Answers) : Except ProxyError IssuedCertificate := do
  answers.validateChallenges
  answers.finalize

def verifyManual (answers : Answers) : Except ProxyError Unit :=
  answers.verifyDnsRecords

/-! ## The tasks -/

/-- The two kinds of tasks that the manager starts. -/
inductive TaskBody where
  | begin (request : IssuanceRequest)
  | manual (pending : ManualOrder)
deriving DecidableEq, Repr

/-- The request that a task was started from. -/
def TaskBody.request : TaskBody → IssuanceRequest
  | .begin request => request
  | .manual pending => pending.request

inductive TaskResult where
  | begin (result : Except ProxyError IssueResult)
  | continued (result : Except ProxyError IssuedCertificate)
  | manualNotReady (pending : ManualOrder) (error : ProxyError)
deriving DecidableEq

/-- The body of a spawned task. -/
def TaskBody.run (answers : Answers) : TaskBody → TaskResult
  | .begin request => .begin (beginIssue request answers)
  | .manual pending =>
    match verifyManual answers with
    | .ok () => .continued (continueManual answers)
    | .error error => .manualNotReady pending error

/-- The certificate or the order that a result asks the manager to install. -/
def TaskResult.product : TaskResult → Option (IssuedCertificate ⊕ ManualOrder)
  | .begin (.ok (.issued certificate)) => some (.inl certificate)
  | .begin (.ok (.waiting pending)) => some (.inr pending)
  | .begin (.error _) => none
  | .continued (.ok certificate) => some (.inl certificate)
  | .continued (.error _) => none
  | .manualNotReady pending _ => some (.inr pending)

/-- The order of an initial request keeps the request, which asks for records set by hand. -/
lemma beginIssue_waiting {request : IssuanceRequest} {answers : Answers} {order : ManualOrder}
    (h : beginIssue request answers = .ok (.waiting order)) :
    order.request = request ∧ request.certificate.validation = some .manual := by
  obtain ⟨-, -, h⟩ := Except.exists_ok_of_bind h
  obtain ⟨url, -, h⟩ := Except.exists_ok_of_bind h
  obtain ⟨⟨challenges, records⟩, -, h⟩ := Except.exists_ok_of_bind h
  cases hvalidation : request.certificate.validation with
  | none => simp only [hvalidation] at h; cases h
  | some validation =>
    cases validation with
    | manual =>
      simp only [hvalidation] at h
      cases h
      exact ⟨rfl, rfl⟩
    | dnsAccount dnsAccountId =>
      simp only [hvalidation] at h
      cases hdns : request.dnsAccount with
      | none => simp only [hdns] at h; cases h
      | some account =>
        simp only [hdns] at h
        obtain ⟨-, -, h⟩ := Except.exists_ok_of_bind h
        obtain ⟨-, -, h⟩ := Except.exists_ok_of_bind h
        obtain ⟨certificate, -, h⟩ := Except.exists_ok_of_bind h
        cases h

/-- An order that a task hands over keeps the request the task was started from.  It is the order
that the task had, or a new one, whose records are set by hand. -/
lemma TaskBody.run_order {body : TaskBody} {answers : Answers} {order : ManualOrder}
    (h : (body.run answers).product = some (.inr order)) : order.request = body.request ∧
      (body = .manual order ∨ order.request.certificate.validation = some .manual) := by
  cases body with
  | begin request =>
    rw [TaskBody.run] at h
    cases hbegin : beginIssue request answers with
    | error e => rw [hbegin] at h; cases h
    | ok result =>
      rw [hbegin] at h
      cases result with
      | issued certificate => cases h
      | waiting pending =>
        cases h
        obtain ⟨hrequest, hmanual⟩ := beginIssue_waiting hbegin
        exact ⟨hrequest, Or.inr (hrequest ▸ hmanual)⟩
  | manual pending =>
    rw [TaskBody.run] at h
    cases hverify : verifyManual answers with
    | ok u =>
      rw [hverify] at h
      cases hcontinue : continueManual answers with
      | error e => rw [hcontinue] at h; cases h
      | ok certificate => rw [hcontinue] at h; cases h
    | error e =>
      rw [hverify] at h
      cases h
      exact ⟨rfl, Or.inl rfl⟩

end GateRust.Proxy
