/-
# Downloading the certificate of the server

A client that has the key of a group but not the certificate of the server downloads the
certificate (`fetch_server_certificate`).  It accepts any certificate in the TLS handshake, sends a
proof that it has the key, and takes the certificate when the answer of the server proves the key
for the same certificate and the same random numbers (`bootstrap.rs`).

The proofs are tags of a symbolic message authentication code.  The network belongs to an attacker:
it opens connections to all parties, presents certificates of its own, and delivers, changes or
drops messages.  It knows some of the keys.  The messages that are authenticated are strings of
bytes, as `update_proof` writes them.
-/
import Mathlib.Data.Set.Function
import GateRust.Lib.Machine
import GateRust.Lib.HashMap
import GateRust.Lib.SymbolicMac
import GateRust.Tunnel.Protocol

namespace GateRust.Tunnel

open Machine SymbolicMac
open Framing (toBE)

/-! ## Proofs -/

abbrev Nonce := Vector UInt8 32

/-- The bytes of a certificate. -/
abbrev Certificate := List UInt8

abbrev Proof := Tag GroupSecret (List UInt8)

def clientProofDomain : List UInt8 :=
  "gaterust/certificate-bootstrap/client/v1".toList.map fun c => c.toNat.toUInt8

def serverProofDomain : List UInt8 :=
  "gaterust/certificate-bootstrap/server/v1".toList.map fun c => c.toNat.toUInt8

variable (sha256 : Certificate → Vector UInt8 32)

/-- The bytes that `update_proof` feeds into the code. -/
def updateProof (domain : List UInt8) (version : UInt16) (clientNonce : Nonce)
    (serverNonce : Option Nonce) (certificate : Certificate) : List UInt8 :=
  domain ++ toBE 2 version.toNat ++ clientNonce.toList ++
    (serverNonce.elim [] Vector.toList) ++ (sha256 certificate).toList

def clientProof (key : GroupSecret) (version : UInt16) (clientNonce : Nonce)
    (certificate : Certificate) : Proof :=
  .mac key (updateProof sha256 clientProofDomain version clientNonce none certificate)

def serverProof (key : GroupSecret) (version : UInt16) (clientNonce serverNonce : Nonce)
    (certificate : Certificate) : Proof :=
  .mac key (updateProof sha256 serverProofDomain version clientNonce (some serverNonce) certificate)

def verifyClientProof (key : GroupSecret) (version : UInt16) (clientNonce : Nonce)
    (certificate : Certificate) (candidate : Proof) : Bool :=
  verify key (updateProof sha256 clientProofDomain version clientNonce none certificate) candidate

def verifyServerProof (key : GroupSecret) (version : UInt16) (clientNonce serverNonce : Nonce)
    (certificate : Certificate) (candidate : Proof) : Bool :=
  verify key
    (updateProof sha256 serverProofDomain version clientNonce (some serverNonce) certificate)
    candidate

/-! What the bytes of a proof are about can be read off them: the domains have one length and are
different, and all fields behind them have a fixed length. -/

/-- What a proof is about.  The proof of a client has no random number of the server. -/
structure ProofSubject where
  key : GroupSecret
  version : UInt16
  clientNonce : Nonce
  serverNonce : Option Nonce
  certificate : Certificate
deriving DecidableEq, Repr

namespace ProofSubject

def proof (p : ProofSubject) : Proof :=
  match p.serverNonce with
  | none => clientProof sha256 p.key p.version p.clientNonce p.certificate
  | some serverNonce => serverProof sha256 p.key p.version p.clientNonce serverNonce p.certificate

def verify (p : ProofSubject) (candidate : Proof) : Bool :=
  match p.serverNonce with
  | none => verifyClientProof sha256 p.key p.version p.clientNonce p.certificate candidate
  | some serverNonce =>
    verifyServerProof sha256 p.key p.version p.clientNonce serverNonce p.certificate candidate

/-- The domain of the role that makes the proof. -/
def domain (p : ProofSubject) : List UInt8 :=
  if p.serverNonce.isSome then serverProofDomain else clientProofDomain

variable {sha256} {p q : ProofSubject} {candidate : Proof}

lemma proof_eq :
    p.proof sha256 =
      .mac p.key
        (updateProof sha256 p.domain p.version p.clientNonce p.serverNonce p.certificate) := by
  obtain ⟨key, version, clientNonce, _ | serverNonce, certificate⟩ := p <;> rfl

lemma verify_iff : p.verify sha256 candidate = true ↔ candidate = p.proof sha256 := by
  obtain ⟨key, version, clientNonce, _ | serverNonce, certificate⟩ := p
  · exact SymbolicMac.verify_iff
  · exact SymbolicMac.verify_iff

lemma length_domain : p.domain.length = 40 := by
  unfold domain
  split
  · decide +kernel
  · decide +kernel

lemma serverNonce_isSome_of_domain (h : p.domain = q.domain) :
    p.serverNonce.isSome = q.serverNonce.isSome := by
  have hne : serverProofDomain ≠ clientProofDomain := by decide +kernel
  unfold domain at h
  split at h
  case isTrue hp =>
    split at h
    case isTrue hq => rw [hp, hq]
    case isFalse => exact absurd h hne
  case isFalse hp =>
    split at h
    case isTrue => exact absurd h hne.symm
    case isFalse hq => rw [Bool.eq_false_of_not_eq_true hp, Bool.eq_false_of_not_eq_true hq]

lemma toBE_version_inj {v w : UInt16} (h : toBE 2 v.toNat = toBE 2 w.toNat) : v = w := by
  have hv : Framing.ofBE (toBE 2 v.toNat) = v.toNat := Framing.ofBE_toBE v.toNat_lt
  have hw : Framing.ofBE (toBE 2 w.toNat) = w.toNat := Framing.ofBE_toBE w.toNat_lt
  rw [h, hw] at hv
  exact UInt16.toNat_inj.mp hv.symm

/-- Numbers of the server of one role, each followed by a digest. -/
lemma serverNonce_append_inj {n n' : Option Nonce} {d d' : Vector UInt8 32}
    (hrole : n.isSome = n'.isSome)
    (h : n.elim [] Vector.toList ++ d.toList = n'.elim [] Vector.toList ++ d'.toList) :
    n = n' ∧ d = d' := by
  cases n with
  | none =>
    cases n' with
    | none => exact ⟨rfl, Vector.toList_inj.mp h⟩
    | some n' => cases hrole
  | some n =>
    cases n' with
    | none => cases hrole
    | some n' =>
      obtain ⟨hn, hd⟩ := List.append_inj h (by simp)
      exact ⟨congrArg some (Vector.toList_inj.mp hn), Vector.toList_inj.mp hd⟩

/-- **A proof is about one thing only.** -/
theorem proof_inj {certificates : Set Certificate} (hinj : Set.InjOn sha256 certificates)
    (hp : p.certificate ∈ certificates) (hq : q.certificate ∈ certificates)
    (h : p.proof sha256 = q.proof sha256) : p = q := by
  rw [proof_eq, proof_eq] at h
  obtain ⟨hkey, hbytes⟩ := Tag.mac.inj h
  simp only [updateProof, List.append_assoc] at hbytes
  obtain ⟨hdomain, hbytes⟩ := List.append_inj hbytes (by rw [length_domain, length_domain])
  obtain ⟨hversion, hbytes⟩ := List.append_inj hbytes (by simp)
  obtain ⟨hclient, hbytes⟩ := List.append_inj hbytes (by simp)
  have hrole := serverNonce_isSome_of_domain hdomain
  obtain ⟨hserver, hdigest⟩ := serverNonce_append_inj hrole hbytes
  have hcertificate := hinj hp hq hdigest
  obtain ⟨pkey, pversion, pclient, pserver, pcertificate⟩ := p
  obtain ⟨qkey, qversion, qclient, qserver, qcertificate⟩ := q
  simp only [ProofSubject.mk.injEq]
  exact ⟨hkey, toBE_version_inj hversion, Vector.toList_inj.mp hclient, hserver, hcertificate⟩

end ProofSubject

structure CertificateBootstrapRequest where
  version : UInt16
  clientNonce : Nonce
  proof : Proof
deriving DecidableEq, Repr

inductive CertificateBootstrapResponse where
  | accepted (serverNonce : Nonce) (proof : Proof)
  | rejected (message : String)
deriving DecidableEq, Repr

/-! ## The two parties -/

/-- The group whose key verifies the request, and the answer of the server. -/
def bootstrapCertificate (groups : List (String × GroupSecret)) (certificate : Certificate)
    (request : CertificateBootstrapRequest) (serverNonce : Nonce) :
    Option GroupSecret × CertificateBootstrapResponse :=
  let accepted :=
    if request.version = protocolVersion then
      groups.find? fun e =>
        verifyClientProof sha256 e.2 request.version request.clientNonce certificate request.proof
    else none
  match accepted with
  | some (_, secret) =>
    (some secret, .accepted serverNonce
      (serverProof sha256 secret request.version request.clientNonce serverNonce certificate))
  | none => (none, .rejected "密钥验证失败")

def bootstrapRequest (key : GroupSecret) (clientNonce : Nonce) (certificate : Certificate) :
    CertificateBootstrapRequest :=
  ⟨protocolVersion, clientNonce,
    clientProof sha256 key protocolVersion clientNonce certificate⟩

structure DownloadedServerCertificate where
  pem : String
  serverName : String
deriving DecidableEq, Repr

/-- `bootstrap_at_address` after the response has arrived.  Reading the chain is the work of a
library. -/
def finishBootstrap
    (fromChain : List Certificate → Except TunnelError DownloadedServerCertificate)
    (key : GroupSecret) (clientNonce : Nonce) (certificate : Certificate)
    (intermediates : List Certificate) :
    CertificateBootstrapResponse → Except TunnelError DownloadedServerCertificate
  | .accepted serverNonce proof =>
    if verifyServerProof sha256 key protocolVersion clientNonce serverNonce certificate proof then
      fromChain (certificate :: intermediates)
    else .error (.authentication "服务端证书密钥证明无效")
  | .rejected message => .error (.authentication message)

/-! ## The network -/

structure HonestServer where
  certificate : Certificate
  groups : List (String × GroupSecret)
deriving DecidableEq, Repr

/-- A connection that a server has accepted, with the certificate that it had at that time. -/
structure ServerConnection where
  server : ℕ
  certificate : Certificate
deriving DecidableEq, Repr

/-- Who completes the TLS handshake with a client. -/
inductive Peer where
  | server (id : ℕ)
  | attacker
deriving DecidableEq, Repr

/-- A connection on which a client downloads a certificate. -/
structure Fetch where
  key : GroupSecret
  peer : Peer
  certificate : Certificate
  intermediates : List Certificate
  clientNonce : Nonce
  outcome : Option (Except TunnelError DownloadedServerCertificate)

/-- History: a server has proved the key for a request. -/
structure Answer where
  server : ℕ
  key : GroupSecret
  version : UInt16
  clientNonce : Nonce
  serverNonce : Nonce
  certificate : Certificate
deriving DecidableEq, Repr

/-- What the attacker has: some of the keys of groups, and the private keys of some certificates. -/
structure Attacker where
  knows : GroupSecret → Bool
  owns : Certificate → Bool

structure BootstrapNetwork where
  servers : HashMap ℕ HonestServer
  connections : HashMap ℕ ServerConnection
  fetches : HashMap ℕ Fetch
  /-- The proofs that the honest parties have sent. -/
  sent : List Proof
  /-- History: all configurations that the servers have had. -/
  configured : List (ℕ × HonestServer)
  answers : List Answer

inductive BootstrapEvent where
  /-- A server starts or is reloaded. -/
  | configure (id : ℕ) (server : HonestServer)
  /-- A server accepts a connection. -/
  | accept (connection server : ℕ)
  /-- A client connects and sends its request. -/
  | fetch (id : ℕ) (key : GroupSecret) (peer : Peer) (certificate : Certificate)
      (intermediates : List Certificate) (clientNonce : Nonce)
  /-- A request is delivered to a server. -/
  | request (connection : ℕ) (request : CertificateBootstrapRequest) (serverNonce : Nonce)
  /-- A response is delivered to a client. -/
  | respond (id : ℕ) (response : CertificateBootstrapResponse)

namespace BootstrapNetwork

def new : BootstrapNetwork := ⟨∅, ∅, ∅, [], [], []⟩

/-- The server has had the certificate. -/
def hasHad (s : BootstrapNetwork) (id : ℕ) (certificate : Certificate) : Bool :=
  s.configured.any fun e => e.1 = id && e.2.certificate = certificate

/-- TLS: whoever completes a handshake has the private key of the certificate. -/
def presentable (attacker : Attacker) (s : BootstrapNetwork) (peer : Peer)
    (certificate : Certificate) : Bool :=
  match peer with
  | .server id => s.hasHad id certificate
  | .attacker => attacker.owns certificate

/-- The attacker can deliver the response. -/
def deliverable (attacker : Attacker) (s : BootstrapNetwork) :
    CertificateBootstrapResponse → Bool
  | .accepted _ proof => presents attacker.knows s.sent proof
  | .rejected _ => true

variable (fromChain : List Certificate → Except TunnelError DownloadedServerCertificate)
  (attacker : Attacker)

def step (s : BootstrapNetwork) : BootstrapEvent → Option BootstrapNetwork
  | .configure id server =>
    -- the private keys of honest servers stay with them
    if attacker.owns server.certificate then none
    else some { s with
      servers := s.servers.insert id server, configured := (id, server) :: s.configured }
  | .accept connection id =>
    (s.servers.lookup id).map fun server =>
      { s with connections := s.connections.insert connection ⟨id, server.certificate⟩ }
  | .fetch id key peer certificate intermediates clientNonce =>
    -- random numbers do not repeat
    if !s.fetches.keys.contains id && s.presentable attacker peer certificate &&
        s.fetches.entries.all (fun e => e.2.clientNonce ≠ clientNonce) then
      some { s with
        fetches :=
          s.fetches.insert id ⟨key, peer, certificate, intermediates, clientNonce, none⟩
        sent := (bootstrapRequest sha256 key clientNonce certificate).proof :: s.sent }
    else none
  | .request connection request serverNonce => do
    let accepted ← s.connections.lookup connection
    let server ← s.servers.lookup accepted.server
    if presents attacker.knows s.sent request.proof then
      match bootstrapCertificate sha256 server.groups accepted.certificate request serverNonce with
      | (some key, .accepted _ proof) =>
        some { s with
          sent := proof :: s.sent
          answers := ⟨accepted.server, key, request.version, request.clientNonce, serverNonce,
            accepted.certificate⟩ :: s.answers }
      | _ => some s
    else none
  | .respond id response => do
    let fetch ← s.fetches.lookup id
    if fetch.outcome.isNone && s.deliverable attacker response then
      some { s with
        fetches := s.fetches.insert id { fetch with
          outcome := some (finishBootstrap sha256 fromChain fetch.key fetch.clientNonce
            fetch.certificate fetch.intermediates response) } }
    else none

/-! ## What holds in every run -/

/-- What the proof of the request of a client is about. -/
def requestSubject (fetch : Fetch) : ProofSubject :=
  ⟨fetch.key, protocolVersion, fetch.clientNonce, none, fetch.certificate⟩

/-- What the proof that a client waits for is about. -/
def responseSubject (fetch : Fetch) (serverNonce : Nonce) : ProofSubject :=
  ⟨fetch.key, protocolVersion, fetch.clientNonce, some serverNonce, fetch.certificate⟩

def answerSubject (answer : Answer) : ProofSubject :=
  ⟨answer.key, answer.version, answer.clientNonce, some answer.serverNonce, answer.certificate⟩

/-- The answer comes from a server that has had its certificate and its key. -/
def FromServer (s : BootstrapNetwork) (answer : Answer) : Prop :=
  s.hasHad answer.server answer.certificate ∧
    ∃ server, (answer.server, server) ∈ s.configured ∧ ∃ group, (group, answer.key) ∈ server.groups

/-- The client has accepted the certificate. -/
def Accepted (fetch : Fetch) : Prop := ∃ downloaded, fetch.outcome = some (.ok downloaded)

variable {sha256 fromChain attacker} {s s' : BootstrapNetwork}

structure Invariant (sha256 : Certificate → Vector UInt8 32) (attacker : Attacker)
    (s : BootstrapNetwork) : Prop where
  /-- A proof that was sent belongs to the request of a client or to an answer of a server. -/
  sent : ∀ proof ∈ s.sent,
    (∃ id fetch, s.fetches.lookup id = some fetch ∧ proof = (requestSubject fetch).proof sha256) ∨
      ∃ answer ∈ s.answers, proof = (answerSubject answer).proof sha256
  answers : ∀ answer ∈ s.answers, s.FromServer answer
  connections : ∀ id connection, s.connections.lookup id = some connection →
    s.hasHad connection.server connection.certificate
  servers : ∀ id server, s.servers.lookup id = some server → (id, server) ∈ s.configured
  honest : ∀ e ∈ s.configured, attacker.owns e.2.certificate = false
  peers : ∀ id fetch, s.fetches.lookup id = some fetch →
    s.presentable attacker fetch.peer fetch.certificate
  nonces : ∀ id fetch id' fetch', s.fetches.lookup id = some fetch →
    s.fetches.lookup id' = some fetch' → fetch.clientNonce = fetch'.clientNonce → id = id'
  /-- A client that has accepted was shown a proof that somebody has sent. -/
  accepted : ∀ id fetch, s.fetches.lookup id = some fetch → Accepted fetch →
    attacker.knows fetch.key = true ∨
      ∃ serverNonce, (responseSubject fetch serverNonce).proof sha256 ∈ s.sent

lemma invariant_new : Invariant sha256 attacker new := by
  constructor <;> simp [new]

lemma mem_configured_of_hasHad {id : ℕ} {certificate : Certificate}
    (h : s.hasHad id certificate = true) :
    ∃ server, (id, server) ∈ s.configured ∧ server.certificate = certificate := by
  simp only [hasHad, List.any_eq_true, Bool.and_eq_true, decide_eq_true_eq] at h
  obtain ⟨⟨_, server⟩, hmem, rfl, hcertificate⟩ := h
  exact ⟨server, hmem, hcertificate⟩

lemma hasHad_of_mem {id : ℕ} {server : HonestServer} (h : (id, server) ∈ s.configured) :
    s.hasHad id server.certificate = true := by
  simp only [hasHad, List.any_eq_true, Bool.and_eq_true, decide_eq_true_eq]
  exact ⟨_, h, rfl, rfl⟩

lemma hasHad_mono (hsub : s.configured ⊆ s'.configured) {id : ℕ} {certificate : Certificate}
    (h : s.hasHad id certificate = true) : s'.hasHad id certificate = true := by
  obtain ⟨server, hmem, rfl⟩ := mem_configured_of_hasHad h
  exact hasHad_of_mem (hsub hmem)

lemma presentable_mono (hsub : s.configured ⊆ s'.configured) {peer : Peer}
    {certificate : Certificate} (h : s.presentable attacker peer certificate = true) :
    s'.presentable attacker peer certificate = true := by
  cases peer with
  | server id => exact hasHad_mono hsub h
  | attacker => exact h

lemma FromServer.mono (hsub : s.configured ⊆ s'.configured) {answer : Answer}
    (h : s.FromServer answer) : s'.FromServer answer := by
  obtain ⟨hcertificate, server, hmem, hkey⟩ := h
  exact ⟨hasHad_mono hsub hcertificate, server, hsub hmem, hkey⟩

lemma Invariant.configure (h : Invariant sha256 attacker s) {id : ℕ} {server : HonestServer}
    (howns : attacker.owns server.certificate = false) :
    Invariant sha256 attacker { s with
      servers := s.servers.insert id server, configured := (id, server) :: s.configured } where
  sent := h.sent
  answers answer hanswer := (h.answers answer hanswer).mono (List.subset_cons_self _ _)
  connections id connection hlookup :=
    hasHad_mono (List.subset_cons_self _ _) (h.connections id connection hlookup)
  servers := by
    intro id' server' hlookup
    rw [AList.lookup_insert_eq] at hlookup
    split at hlookup
    case isTrue hid =>
      cases hlookup
      rw [hid]
      exact List.mem_cons_self
    case isFalse => exact List.mem_cons_of_mem _ (h.servers id' server' hlookup)
  honest := List.forall_mem_cons.mpr ⟨howns, h.honest⟩
  peers id fetch hlookup :=
    presentable_mono (List.subset_cons_self _ _) (h.peers id fetch hlookup)
  nonces := h.nonces
  accepted := h.accepted

lemma Invariant.accept (h : Invariant sha256 attacker s) {connection id : ℕ}
    {server : HonestServer} (hserver : s.servers.lookup id = some server) :
    Invariant sha256 attacker { s with
      connections := s.connections.insert connection ⟨id, server.certificate⟩ } where
  sent := h.sent
  answers := h.answers
  connections := by
    intro id' connection' hlookup
    rw [AList.lookup_insert_eq] at hlookup
    split at hlookup
    case isTrue =>
      cases hlookup
      exact hasHad_of_mem (h.servers id server hserver)
    case isFalse => exact h.connections id' connection' hlookup
  servers := h.servers
  honest := h.honest
  peers := h.peers
  nonces := h.nonces
  accepted := h.accepted

lemma Invariant.fetch (h : Invariant sha256 attacker s) {id : ℕ} {fetch : Fetch}
    (hnew : id ∉ s.fetches) (hpeer : s.presentable attacker fetch.peer fetch.certificate = true)
    (hnonce : ∀ id' fetch', s.fetches.lookup id' = some fetch' →
      fetch'.clientNonce ≠ fetch.clientNonce)
    (hwaiting : fetch.outcome = none) :
    Invariant sha256 attacker { s with
      fetches := s.fetches.insert id fetch
      sent := (requestSubject fetch).proof sha256 :: s.sent } := by
  have hlookup_cases : ∀ id' fetch', (s.fetches.insert id fetch).lookup id' = some fetch' →
      (id' = id ∧ fetch' = fetch) ∨ s.fetches.lookup id' = some fetch' := by
    intro id' fetch' hlookup
    rw [AList.lookup_insert_eq] at hlookup
    split at hlookup
    case isTrue hid => exact .inl ⟨hid, (Option.some.inj hlookup).symm⟩
    case isFalse => exact .inr hlookup
  refine ⟨?_, h.answers, h.connections, h.servers, h.honest, ?_, ?_, ?_⟩
  · intro proof hproof
    obtain rfl | hproof := List.mem_cons.mp hproof
    · exact .inl ⟨id, fetch, AList.lookup_insert _, rfl⟩
    · obtain ⟨id', fetch', hlookup, hsubject⟩ | hanswer := h.sent proof hproof
      · have hne : id' ≠ id := by
          rintro rfl
          exact hnew (AList.mem_of_lookup hlookup)
        exact .inl ⟨id', fetch', (AList.lookup_insert_ne hne).trans hlookup, hsubject⟩
      · exact .inr hanswer
  · intro id' fetch' hlookup
    obtain ⟨-, rfl⟩ | hold := hlookup_cases id' fetch' hlookup
    · exact hpeer
    · exact h.peers id' fetch' hold
  · intro id₁ fetch₁ id₂ fetch₂ h₁ h₂ heq
    obtain ⟨rfl, rfl⟩ | hold₁ := hlookup_cases id₁ fetch₁ h₁
    · obtain ⟨rfl, -⟩ | hold₂ := hlookup_cases id₂ fetch₂ h₂
      · rfl
      · exact absurd heq.symm (hnonce id₂ fetch₂ hold₂)
    · obtain ⟨rfl, rfl⟩ | hold₂ := hlookup_cases id₂ fetch₂ h₂
      · exact absurd heq (hnonce id₁ fetch₁ hold₁)
      · exact h.nonces id₁ fetch₁ id₂ fetch₂ hold₁ hold₂ heq
  · intro id' fetch' hlookup haccepted
    obtain ⟨-, rfl⟩ | hold := hlookup_cases id' fetch' hlookup
    · obtain ⟨downloaded, hdownloaded⟩ := haccepted
      rw [hwaiting] at hdownloaded
      cases hdownloaded
    · obtain hknows | ⟨serverNonce, hsent⟩ := h.accepted id' fetch' hold haccepted
      · exact .inl hknows
      · exact .inr ⟨serverNonce, List.mem_cons_of_mem _ hsent⟩

/-- The server only answers with a key of one of its groups. -/
lemma bootstrapCertificate_accepted {groups : List (String × GroupSecret)}
    {certificate : Certificate} {request : CertificateBootstrapRequest}
    {serverNonce serverNonce' : Nonce} {key : GroupSecret} {proof : Proof}
    (h : bootstrapCertificate sha256 groups certificate request serverNonce =
      (some key, .accepted serverNonce' proof)) :
    (∃ group, (group, key) ∈ groups) ∧
      proof = serverProof sha256 key request.version request.clientNonce serverNonce
        certificate := by
  simp only [bootstrapCertificate] at h
  split at h
  case h_2 => cases h
  case h_1 group secret hfound =>
    obtain ⟨hkey, hresponse⟩ := Prod.mk.inj h
    cases hkey
    cases hresponse
    split at hfound
    case isFalse => cases hfound
    case isTrue => exact ⟨⟨group, List.mem_of_find?_eq_some hfound⟩, rfl⟩

lemma Invariant.answer (h : Invariant sha256 attacker s) {answer : Answer}
    (hanswer : s.FromServer answer) :
    Invariant sha256 attacker { s with
      sent := (answerSubject answer).proof sha256 :: s.sent, answers := answer :: s.answers } where
  sent := by
    intro proof hproof
    obtain rfl | hproof := List.mem_cons.mp hproof
    · exact .inr ⟨answer, List.mem_cons_self, rfl⟩
    · obtain hfetch | ⟨answer', hmem, hsubject⟩ := h.sent proof hproof
      · exact .inl hfetch
      · exact .inr ⟨answer', List.mem_cons_of_mem _ hmem, hsubject⟩
  answers := List.forall_mem_cons.mpr ⟨hanswer, h.answers⟩
  connections := h.connections
  servers := h.servers
  honest := h.honest
  peers := h.peers
  nonces := h.nonces
  accepted := by
    intro id fetch hlookup haccepted
    obtain hknows | ⟨serverNonce, hsent⟩ := h.accepted id fetch hlookup haccepted
    · exact .inl hknows
    · exact .inr ⟨serverNonce, List.mem_cons_of_mem _ hsent⟩

/-- A client only accepts a response that verifies. -/
lemma verify_of_finishBootstrap {fetch : Fetch} {response : CertificateBootstrapResponse}
    {downloaded : DownloadedServerCertificate}
    (h : finishBootstrap sha256 fromChain fetch.key fetch.clientNonce fetch.certificate
      fetch.intermediates response = .ok downloaded) :
    ∃ serverNonce proof, response = .accepted serverNonce proof ∧
      (responseSubject fetch serverNonce).verify sha256 proof = true := by
  cases response with
  | rejected message => cases h
  | accepted serverNonce proof =>
    refine ⟨serverNonce, proof, rfl, ?_⟩
    simp only [finishBootstrap] at h
    split at h
    case isTrue hverify => exact hverify
    case isFalse => cases h

lemma Invariant.respond (h : Invariant sha256 attacker s) {id : ℕ} {fetch : Fetch}
    {response : CertificateBootstrapResponse} (hlookup : s.fetches.lookup id = some fetch)
    (hdeliverable : s.deliverable attacker response = true) :
    Invariant sha256 attacker { s with
      fetches := s.fetches.insert id { fetch with
        outcome := some (finishBootstrap sha256 fromChain fetch.key fetch.clientNonce
          fetch.certificate fetch.intermediates response) } } := by
  have hold : ∀ id' fetch', (s.fetches.insert id { fetch with
      outcome := some (finishBootstrap sha256 fromChain fetch.key fetch.clientNonce
        fetch.certificate fetch.intermediates response) }).lookup id' = some fetch' →
      ∃ fetch₀, s.fetches.lookup id' = some fetch₀ ∧ fetch' = { fetch₀ with
        outcome := fetch'.outcome } ∧ (id' = id ∨ fetch' = fetch₀) := by
    intro id' fetch' h'
    rw [AList.lookup_insert_eq] at h'
    split at h'
    case isTrue hid =>
      cases h'
      exact ⟨fetch, hid ▸ hlookup, rfl, .inl hid⟩
    case isFalse => exact ⟨fetch', h', rfl, .inr rfl⟩
  refine ⟨?_, h.answers, h.connections, h.servers, h.honest, ?_, ?_, ?_⟩
  · intro proof hproof
    obtain ⟨id', fetch', hfetch, hsubject⟩ | hanswer := h.sent proof hproof
    · by_cases hid : id' = id
      · subst hid
        rw [hlookup] at hfetch
        cases hfetch
        exact .inl ⟨id', _, AList.lookup_insert _, hsubject⟩
      · exact .inl ⟨id', fetch', (AList.lookup_insert_ne hid).trans hfetch, hsubject⟩
    · exact .inr hanswer
  · intro id' fetch' hfetch
    obtain ⟨fetch₀, hfetch₀, heq, -⟩ := hold id' fetch' hfetch
    rw [heq]
    exact h.peers id' fetch₀ hfetch₀
  · intro id₁ fetch₁ id₂ fetch₂ h₁ h₂ hnonce
    obtain ⟨old₁, hold₁, heq₁, -⟩ := hold id₁ fetch₁ h₁
    obtain ⟨old₂, hold₂, heq₂, -⟩ := hold id₂ fetch₂ h₂
    rw [heq₁, heq₂] at hnonce
    exact h.nonces id₁ old₁ id₂ old₂ hold₁ hold₂ hnonce
  · intro id' fetch' hfetch haccepted
    rw [AList.lookup_insert_eq] at hfetch
    split at hfetch
    case isFalse => exact h.accepted id' fetch' hfetch haccepted
    case isTrue =>
      cases hfetch
      obtain ⟨downloaded, hdownloaded⟩ := haccepted
      obtain ⟨serverNonce, proof, rfl, hverify⟩ :=
        verify_of_finishBootstrap (Option.some.inj hdownloaded)
      obtain hknows | hsent := mem_of_verify (K := GroupSecret) hverify hdeliverable
      · exact .inl hknows
      · exact .inr ⟨serverNonce, hsent⟩

lemma Invariant.step {e : BootstrapEvent} (h : Invariant sha256 attacker s)
    (hstep : s.step sha256 fromChain attacker e = some s') : Invariant sha256 attacker s' := by
  cases e with
  | configure id server =>
    simp only [BootstrapNetwork.step] at hstep
    split at hstep
    case isTrue => cases hstep
    case isFalse howns =>
      cases hstep
      exact h.configure (Bool.eq_false_of_not_eq_true howns)
  | accept connection id =>
    obtain ⟨server, hserver, rfl⟩ := Option.map_eq_some_iff.mp hstep
    exact h.accept hserver
  | fetch id key peer certificate intermediates clientNonce =>
    simp only [BootstrapNetwork.step] at hstep
    split at hstep
    case isFalse => cases hstep
    case isTrue hguard =>
      cases hstep
      simp only [Bool.and_eq_true, Bool.not_eq_true', List.contains_eq_mem,
        decide_eq_false_iff_not, List.all_eq_true, decide_eq_true_eq] at hguard
      obtain ⟨⟨hnew, hpeer⟩, hnonce⟩ := hguard
      refine h.fetch (AList.mem_keys.not.mpr hnew) hpeer ?_ rfl
      intro id' fetch' hlookup
      exact hnonce _ (AList.lookup_eq_some_iff.mp hlookup)
  | request connection request serverNonce =>
    simp only [BootstrapNetwork.step, Option.bind_eq_bind, Option.bind_eq_some_iff] at hstep
    obtain ⟨accepted, haccepted, server, hserver, hstep⟩ := hstep
    split at hstep
    case isFalse => cases hstep
    case isTrue =>
      split at hstep
      case h_1 key _ proof hanswer =>
        cases hstep
        obtain ⟨⟨group, hgroup⟩, rfl⟩ := bootstrapCertificate_accepted hanswer
        have hconfigured := h.servers accepted.server server hserver
        have hanswer : s.FromServer ⟨accepted.server, key, request.version, request.clientNonce,
            serverNonce, accepted.certificate⟩ :=
          ⟨h.connections connection accepted haccepted, server, hconfigured, group, hgroup⟩
        exact h.answer hanswer
      case h_2 =>
        cases hstep
        exact h
  | respond id response =>
    simp only [BootstrapNetwork.step, Option.bind_eq_bind, Option.bind_eq_some_iff] at hstep
    obtain ⟨fetch, hfetch, hstep⟩ := hstep
    split at hstep
    case isFalse => cases hstep
    case isTrue hguard =>
      cases hstep
      exact h.respond hfetch (Bool.and_eq_true_iff.mp hguard).2

lemma invariant_of_reach (h : Reach (step sha256 fromChain attacker) Always new s) :
    Invariant sha256 attacker s :=
  h.invariant invariant_new fun _ _ _ hinv _ hstep => hinv.step hstep

/-! ## Authenticity -/

/-- The certificates that occur in a run. -/
def certificates (s : BootstrapNetwork) : Set Certificate :=
  {c | (∃ e ∈ s.configured, e.2.certificate = c) ∨
    ∃ id fetch, s.fetches.lookup id = some fetch ∧ fetch.certificate = c}

/-- The server has proved the key on the request of the client, for the certificate that the
client was presented, and the client is connected to a server with this certificate. -/
structure Authentic (s : BootstrapNetwork) (fetch : Fetch) (answer : Answer) : Prop where
  key : answer.key = fetch.key
  version : answer.version = protocolVersion
  certificate : answer.certificate = fetch.certificate
  clientNonce : answer.clientNonce = fetch.clientNonce
  fromServer : s.FromServer answer
  connected : ∃ id, fetch.peer = .server id ∧ s.hasHad id fetch.certificate

lemma authentic_of_proof (h : Invariant sha256 attacker s)
    (hinj : Set.InjOn sha256 s.certificates) {id : ℕ} {fetch : Fetch} {serverNonce : Nonce}
    (hfetch : s.fetches.lookup id = some fetch)
    (hsent : (responseSubject fetch serverNonce).proof sha256 ∈ s.sent) :
    ∃ answer ∈ s.answers, s.Authentic fetch answer := by
  have hcertificate : fetch.certificate ∈ s.certificates := .inr ⟨id, fetch, hfetch, rfl⟩
  obtain ⟨id', fetch', hfetch', hproof⟩ | ⟨answer, hanswer, hproof⟩ := h.sent _ hsent
  · -- the proof of a client is not that of a server
    have hsubject := ProofSubject.proof_inj hinj hcertificate (.inr ⟨id', fetch', hfetch', rfl⟩)
      hproof
    cases congrArg ProofSubject.serverNonce hsubject
  · have hserver := h.answers answer hanswer
    obtain ⟨server, hmem, hserverCertificate⟩ := mem_configured_of_hasHad hserver.1
    have hsubject := ProofSubject.proof_inj hinj hcertificate (.inl ⟨_, hmem, hserverCertificate⟩)
      hproof
    have hsame : answer.certificate = fetch.certificate :=
      (congrArg ProofSubject.certificate hsubject).symm
    refine ⟨answer, hanswer, (congrArg ProofSubject.key hsubject).symm,
      (congrArg ProofSubject.version hsubject).symm, hsame,
      (congrArg ProofSubject.clientNonce hsubject).symm, hserver, ?_⟩
    -- the attacker does not have the private key of this certificate
    have hpeer := h.peers id fetch hfetch
    have howns : attacker.owns fetch.certificate = false := by
      rw [← hsame, ← hserverCertificate]
      exact h.honest _ hmem
    cases hp : fetch.peer with
    | server id' =>
      rw [hp] at hpeer
      exact ⟨id', rfl, hpeer⟩
    | attacker =>
      rw [hp] at hpeer
      exact absurd (howns.symm.trans hpeer) Bool.false_ne_true

/-- **The downloaded certificate is authentic.**  In every run, with any number of servers,
clients and groups and an attacker on all connections: when a client has accepted a certificate
for a key that the attacker does not know, a server that has had this certificate and this key has
proved the key for the random number of this client, which no other connection of a client has.  A
proof verifies only for the role, the key, the version, the random numbers and the certificate that
it was made for. -/
theorem bootstrap_authentic (h : Reach (step sha256 fromChain attacker) Always new s)
    (hinj : Set.InjOn sha256 s.certificates) :
    (∀ id fetch, s.fetches.lookup id = some fetch → Accepted fetch →
      attacker.knows fetch.key = false → ∃ answer ∈ s.answers, s.Authentic fetch answer) ∧
    (∀ id fetch id' fetch', s.fetches.lookup id = some fetch → s.fetches.lookup id' = some fetch' →
      fetch.clientNonce = fetch'.clientNonce → id = id') ∧
    ∀ p q : ProofSubject, p.certificate ∈ s.certificates → q.certificate ∈ s.certificates →
      (p.verify sha256 (q.proof sha256) = true ↔ p = q) := by
  have hinv := invariant_of_reach h
  refine ⟨?_, hinv.nonces, ?_⟩
  · intro id fetch hfetch haccepted hunknown
    obtain hknows | ⟨serverNonce, hsent⟩ := hinv.accepted id fetch hfetch haccepted
    · exact absurd (hunknown.symm.trans hknows) Bool.false_ne_true
    · exact authentic_of_proof hinv hinj hfetch hsent
  · intro p q hp hq
    rw [ProofSubject.verify_iff]
    constructor
    · intro hproof
      exact (ProofSubject.proof_inj hinj hq hp hproof).symm
    · rintro rfl
      rfl

/-! ## A download without an attack -/

/-- A certificate of the server `gate.test`. -/
def sampleCertificate : Certificate :=
  [0x30, 0x82, 0x01, 0x05, 0x30, 0x81, 0xb8, 0xa0, 0x03, 0x02, 0x01, 0x02, 0x02, 0x14,
   0x58, 0x39, 0xd2, 0x0b, 0x14, 0x6f, 0xd4, 0xa0, 0x66, 0x84, 0xf2, 0x82, 0x16, 0x3f,
   0xb6, 0x9d, 0x2d, 0x5e, 0x54, 0x56, 0x30, 0x05, 0x06, 0x03, 0x2b, 0x65, 0x70, 0x30,
   0x0f, 0x31, 0x0d, 0x30, 0x0b, 0x06, 0x03, 0x55, 0x04, 0x03, 0x0c, 0x04, 0x67, 0x61,
   0x74, 0x65, 0x30, 0x1e, 0x17, 0x0d, 0x32, 0x36, 0x31, 0x31, 0x31, 0x38, 0x30, 0x37,
   0x31, 0x38, 0x32, 0x36, 0x5a, 0x17, 0x0d, 0x33, 0x36, 0x31, 0x31, 0x31, 0x35, 0x30,
   0x37, 0x31, 0x38, 0x32, 0x36, 0x5a, 0x30, 0x0f, 0x31, 0x0d, 0x30, 0x0b, 0x06, 0x03,
   0x55, 0x04, 0x03, 0x0c, 0x04, 0x67, 0x61, 0x74, 0x65, 0x30, 0x2a, 0x30, 0x05, 0x06,
   0x03, 0x2b, 0x65, 0x70, 0x03, 0x21, 0x00, 0x23, 0x36, 0x40, 0x83, 0x1b, 0x55, 0x2f,
   0x6b, 0x7b, 0xd3, 0x02, 0x2c, 0x51, 0x1c, 0x33, 0xa9, 0x57, 0x9a, 0x62, 0x2d, 0x15,
   0xcb, 0xb6, 0x37, 0x2a, 0xf7, 0x2a, 0xd3, 0x72, 0x84, 0x1b, 0x99, 0xa3, 0x26, 0x30,
   0x24, 0x30, 0x14, 0x06, 0x03, 0x55, 0x1d, 0x11, 0x04, 0x0d, 0x30, 0x0b, 0x82, 0x09,
   0x67, 0x61, 0x74, 0x65, 0x2e, 0x74, 0x65, 0x73, 0x74, 0x30, 0x0c, 0x06, 0x03, 0x55,
   0x1d, 0x13, 0x01, 0x01, 0xff, 0x04, 0x02, 0x30, 0x00, 0x30, 0x05, 0x06, 0x03, 0x2b,
   0x65, 0x70, 0x03, 0x41, 0x00, 0x6b, 0x06, 0x43, 0x04, 0x5e, 0xe7, 0x68, 0xc9, 0x98,
   0x15, 0x0d, 0xf2, 0x92, 0xbf, 0x82, 0x54, 0x95, 0x43, 0x09, 0xa7, 0x4d, 0xb5, 0x9f,
   0xbc, 0x6a, 0xb7, 0xb2, 0x55, 0xd1, 0xff, 0x11, 0x41, 0xf1, 0xbd, 0xf3, 0x1d, 0x75,
   0x35, 0xee, 0xa9, 0x52, 0xb3, 0x09, 0x2c, 0x54, 0x18, 0xd4, 0x46, 0x04, 0x24, 0xc1,
   0x84, 0x3f, 0x4b, 0x23, 0x28, 0x76, 0x4c, 0x45, 0xbc, 0x34, 0x52, 0xe7, 0x0c]

def sampleDigest : Vector UInt8 32 :=
  #v[0xba, 0xda, 0xc5, 0x0c, 0x99, 0xf5, 0x60, 0xc5, 0x12, 0xfe, 0xa4, 0x43, 0x11, 0x4c,
    0x42, 0x46, 0xad, 0xde, 0xc4, 0x2e, 0x49, 0xad, 0x1d, 0xfe, 0x61, 0x16, 0x62, 0xcc,
    0xe2, 0x73, 0xd6, 0x53]

/-- The digest of the sample certificate; no other is needed. -/
def sampleSha256 (_ : Certificate) : Vector UInt8 32 := sampleDigest

def samplePem : String :=
  String.join ((["-----BEGIN CERTIFICATE-----",
    "MIIBBTCBuKADAgECAhRYOdILFG/UoGaE8oIWP7adLV5UVjAFBgMrZXAwDzENMAsG",
    "A1UEAwwEZ2F0ZTAeFw0yNjExMTgwNzE4MjZaFw0zNjExMTUwNzE4MjZaMA8xDTAL",
    "BgNVBAMMBGdhdGUwKjAFBgMrZXADIQAjNkCDG1Uva3vTAixRHDOpV5piLRXLtjcq",
    "9yrTcoQbmaMmMCQwFAYDVR0RBA0wC4IJZ2F0ZS50ZXN0MAwGA1UdEwEB/wQCMAAw",
    "BQYDK2VwA0EAawZDBF7naMmYFQ3ykr+CVJVDCadNtZ+8areyVdH/EUHxvfMddTXu",
    "qVKzCSxUGNRGBCTBhD9LIyh2TEW8NFLnDA==",
    "-----END CERTIFICATE-----"] :
    List String).map (· ++ "\r\n"))

def sampleFromChain (_ : List Certificate) : Except TunnelError DownloadedServerCertificate :=
  .ok ⟨samplePem, "gate.test"⟩

def sampleKey : GroupSecret := List.replicate 32 0x6b

def sampleAttacker : Attacker := ⟨fun key => key ≠ sampleKey, fun c => c ≠ sampleCertificate⟩

def sampleClientNonce : Nonce := Vector.replicate 32 1

def sampleServerNonce : Nonce := Vector.replicate 32 2

/-- A server starts, a client connects to it, and the messages are delivered unchanged. -/
def sampleDownload : List BootstrapEvent :=
  [.configure 0 ⟨sampleCertificate, [("home", sampleKey)]⟩,
    .fetch 0 sampleKey (.server 0) sampleCertificate [] sampleClientNonce,
    .accept 0 0,
    .request 0 (bootstrapRequest sampleSha256 sampleKey sampleClientNonce sampleCertificate)
      sampleServerNonce,
    .respond 0 (.accepted sampleServerNonce (serverProof sampleSha256 sampleKey protocolVersion
      sampleClientNonce sampleServerNonce sampleCertificate))]

/-- Only the sample certificate occurs, and the client `0` has accepted it. -/
def sampleOutcome (s : BootstrapNetwork) : Bool :=
  s.configured.all (fun e => e.2.certificate = sampleCertificate) &&
    s.fetches.entries.all (fun e => e.2.certificate = sampleCertificate) &&
    (s.fetches.lookup 0).any fun fetch => fetch.key = sampleKey &&
      fetch.outcome.any fun outcome => outcome.toOption = some ⟨samplePem, "gate.test"⟩

/-- The client accepts the certificate, and it is that of the server. -/
theorem sample_certificate_authentic :
    ∃ s fetch answer, Reach (step sampleSha256 sampleFromChain sampleAttacker) Always new s ∧
      s.fetches.lookup 0 = some fetch ∧ Accepted fetch ∧ answer ∈ s.answers ∧
      s.Authentic fetch answer := by
  have hrun : (exec (step sampleSha256 sampleFromChain sampleAttacker) Always new
      sampleDownload).map sampleOutcome = some true := by
    decide +kernel
  obtain ⟨s, hs, houtcome⟩ := Option.map_eq_some_iff.mp hrun
  simp only [sampleOutcome, Bool.and_eq_true, List.all_eq_true, decide_eq_true_eq,
    Option.any_eq_true] at houtcome
  obtain ⟨⟨hconfigured, hfetches⟩, fetch, hfetch, hkey, outcome, houtcome, hok⟩ := houtcome
  have honly : ∀ c ∈ s.certificates, c = sampleCertificate := by
    rintro c (⟨e, he, rfl⟩ | ⟨id, other, hother, rfl⟩)
    · exact hconfigured e he
    · exact hfetches _ (AList.lookup_eq_some_iff.mp hother)
  have hinj : Set.InjOn sampleSha256 s.certificates := by
    intro c hc c' hc' _
    rw [honly c hc, honly c' hc']
  have haccepted : Accepted fetch := by
    cases outcome with
    | ok downloaded => exact ⟨downloaded, houtcome⟩
    | error e => cases hok
  have hunknown : sampleAttacker.knows fetch.key = false := by simp [sampleAttacker, hkey]
  obtain ⟨answer, hanswer, hauthentic⟩ :=
    (bootstrap_authentic (reach_of_exec hs) hinj).1 0 fetch hfetch haccepted hunknown
  exact ⟨s, fetch, answer, reach_of_exec hs, hfetch, haccepted, hanswer, hauthentic⟩

end BootstrapNetwork

end GateRust.Tunnel
