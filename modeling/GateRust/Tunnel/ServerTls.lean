/-
# The credentials that the server offers

`tls::server_credentials` makes the certificate and the private key of the configuration into the
TLS configuration of the QUIC endpoint.  The files are read when the endpoint is bound, and again
when a reload finds another `quic` section; a reload with the section that is in force does not
look at them.

The files may change at any time, also while a reload runs, which reads the configuration, then
the certificate and then the private key.
-/
import GateRust.Tunnel.ServerReload

namespace GateRust.Tunnel

open Machine

abbrev PrivateKey := List UInt8

/-- What is read of a certificate: the flag of its basic constraints, none when it has no such
extension, and an error when the extension is invalid. -/
structure X509Certificate where
  basicConstraints : Except Unit (Option Bool)

/-- The libraries for PEM, X.509 and TLS. -/
structure TlsLibrary where
  certs (pem : List UInt8) : Except String (List (List UInt8))
  privateKey (pem : List UInt8) : Except String (Option PrivateKey)
  parseX509Certificate (certificate : List UInt8) : Option X509Certificate
  withSingleCert (certificates : List (List UInt8)) (key : PrivateKey) : Except String Unit

/-- The content of a file, or why it cannot be opened. -/
abbrev FileContent := Except String (List UInt8)

/-! ## Loading the credentials -/

def validateServerLeaf (tls : TlsLibrary) (certificate : List UInt8) : Except TunnelError Unit :=
  match tls.parseX509Certificate certificate with
  | none => .error (.tls "解析服务端叶证书失败")
  | some certificate =>
    match certificate.basicConstraints with
    | .error () => .error (.tls "解析服务端证书 Basic Constraints 失败")
    | .ok (some true) => .error .serverCertificateIsCa
    | .ok _ => .ok ()

def readCertificates (tls : TlsLibrary) (path : String) (file : FileContent) :
    Except TunnelError (List (List UInt8)) := do
  let pem ← file.mapError (.readConfig path)
  let certificates ← (tls.certs pem).mapError .io
  if certificates.isEmpty then .error (.tls s!"证书文件 {path} 不包含证书") else .ok certificates

def readPrivateKey (tls : TlsLibrary) (path : String) (file : FileContent) :
    Except TunnelError PrivateKey := do
  let pem ← file.mapError (.readConfig path)
  match ← (tls.privateKey pem).mapError .io with
  | none => .error (.tls s!"私钥文件 {path} 不包含私钥")
  | some key => .ok key

/-- The contents of the certificate and of the private key, as they were read one after the
other. -/
structure TlsFiles where
  certificate : FileContent
  privateKey : FileContent

def serverCredentials (tls : TlsLibrary) (config : ServerQuicConfig) (files : TlsFiles) :
    Except TunnelError ServerCredentials := do
  let certificates ← readCertificates tls config.certificate files.certificate
  match certificates.head? with
  | none => .error (.tls "服务端证书文件不包含叶证书")
  | some certificate =>
    validateServerLeaf tls certificate
    let privateKey ← readPrivateKey tls config.privateKey files.privateKey
    (tls.withSingleCert certificates privateKey).mapError .tls
    return ⟨⟨certificates, privateKey⟩, certificate⟩

/-! ## The files -/

/-- What the configuration file is parsed to, with its paths resolved, and what the other files
contain. -/
structure Disk where
  config : Except TunnelError ServerConfig
  file (path : String) : FileContent

namespace Disk

def load (disk : Disk) : Except TunnelError ServerConfig :=
  disk.config.bind fun config => config.validate.map fun _ => config

/-- The files of the section, where the private key is read from a later state of the disk. -/
def tlsFiles (disk later : Disk) (config : ServerQuicConfig) : TlsFiles :=
  ⟨disk.file config.certificate, later.file config.privateKey⟩

/-- The credentials that a server loads which is started from the disk. -/
def freshCredentials (disk : Disk) (tls : TlsLibrary) : Except TunnelError ServerCredentials :=
  disk.load.bind fun config => serverCredentials tls config.quic (disk.tlsFiles disk config.quic)

end Disk

/-! ## The running server -/

/-- The server and the disk, with what the latest load of credentials took from the files. -/
structure ServerProcess where
  server : TunnelServer
  disk : Disk
  taken : TlsFiles

/-- The disk when a reload reads the certificate, when it reads the private key and when it
reports, and what the system does. -/
structure ReloadCourse where
  certificate : Disk
  privateKey : Disk
  report : Disk
  bound : Except TunnelError Unit
  rebound : Except TunnelError Unit
  finished : List ℕ
  finishedLater : List ℕ

inductive ProcessEvent where
  | edit (disk : Disk)
  | reload (course : ReloadCourse)
  | operate (op : TunnelRuntime.Operation)

namespace ServerProcess

/-- What the reload reads, if it reads the files. -/
def offered (course : ReloadCourse) (config : ServerQuicConfig) : TlsFiles :=
  course.certificate.tlsFiles course.privateKey config

def input (tls : TlsLibrary) (s : ServerProcess) (course : ReloadCourse) : ReloadInput where
  parsed := s.disk.config
  credentials := s.disk.config.bind fun config =>
    serverCredentials tls config.quic (offered course config.quic)
  bound := course.bound
  rebound := course.rebound
  finished := course.finished
  finishedLater := course.finishedLater

/-- `reload_server`, which reads the configuration file first. -/
def reloadServer (sha256 : GroupSecret → Digest) (system : System) (tls : TlsLibrary)
    (s : ServerProcess) (course : ReloadCourse) : Except String Unit × ServerProcess :=
  let (result, server) := s.server.reload sha256 system (s.input tls course)
  (result, {
    server
    disk := course.report
    -- the section in force changes only together with the credentials
    taken := if server.quic.config = s.server.quic.config then s.taken
      else offered course server.quic.config })

def step (sha256 : GroupSecret → Digest) (system : System) (tls : TlsLibrary) (s : ServerProcess) :
    ProcessEvent → Option ServerProcess
  | .edit disk => some { s with disk }
  | .reload course => some (s.reloadServer sha256 system tls course).2
  | .operate op => (s.server.step sha256 system (.operate op)).map fun server => { s with server }

def Admissible (s : ServerProcess) : ProcessEvent → Prop
  | .operate op => s.server.Admissible (.operate op)
  | _ => True

instance (s : ServerProcess) : (e : ProcessEvent) → Decidable (s.Admissible e)
  | .operate op => inferInstanceAs (Decidable (s.server.Admissible (.operate op)))
  | .edit _ => inferInstanceAs (Decidable True)
  | .reload _ => inferInstanceAs (Decidable True)

/-- The start reads the configuration, the certificate and the private key, too. -/
def start (sha256 : GroupSecret → Digest) (system : System) (tls : TlsLibrary)
    (disk certificate privateKey : Disk) : Option ServerProcess := do
  let config ← disk.load.toOption
  let taken := certificate.tlsFiles privateKey config.quic
  let credentials ← (serverCredentials tls config.quic taken).toOption
  let server ← TunnelServer.start sha256 system ⟨config.quic.bind, config.quic, credentials⟩ config
  return ⟨server, privateKey, taken⟩

end ServerProcess

/-! ## Which files the credentials come from -/

namespace QuicEndpoint

variable {quic quic' : QuicEndpoint} {config : ServerQuicConfig} {update : QuicUpdate}
  {credentials : Except TunnelError ServerCredentials} {bound rebound : Except TunnelError Unit}

/-- There is nothing to do for the section in force; for another one the credentials were
loaded. -/
lemma prepare_ok {prepared : Option QuicUpdate}
    (h : quic.prepare config credentials bound = .ok prepared) :
    (config = quic.config ∧ prepared = none) ∨
      config ≠ quic.config ∧ ∃ loaded socket, credentials = .ok loaded ∧
        prepared = some ⟨config, loaded, socket⟩ := by
  unfold prepare at h
  split at h
  case isTrue hsame =>
    cases h
    exact .inl ⟨hsame, rfl⟩
  case isFalse hne =>
    cases credentials with
    | error error => cases h
    | ok loaded =>
      refine .inr ⟨hne, loaded, ?_⟩
      simp only [Except.bind] at h
      split at h
      · cases bound with
        | error error => cases h
        | ok done =>
          cases h
          exact ⟨some config.bind, rfl, rfl⟩
      · cases h
        exact ⟨none, rfl, rfl⟩

lemma apply_error {error : TunnelError} (h : quic.apply update rebound = (.error error, quic')) :
    quic' = quic := by
  unfold apply at h
  split at h
  · cases h
  · split at h
    · exact (Prod.mk.inj h).2.symm
    · cases h

lemma apply_ok (h : quic.apply update rebound = (.ok (), quic')) :
    quic'.config = update.config ∧ quic'.credentials = update.credentials := by
  unfold apply at h
  split at h
  · cases h
    exact ⟨rfl, rfl⟩
  · split at h
    · cases h
    · cases h
      exact ⟨rfl, rfl⟩

end QuicEndpoint

namespace TunnelServer

variable {sha256 : GroupSecret → Digest} {system : System} {s s' : TunnelServer}
  {input : ReloadInput} {result : Except String Unit}

lemma quic_putBack (system : System) (s : TunnelServer) (finished : List ℕ)
    (previous : List ServerTunnelConfig) (error : TunnelError) :
    (s.putBack system finished previous error).2.quic = s.quic ∧
      (s.putBack system finished previous error).1 ≠ .ok () := by
  unfold putBack
  split
  · exact ⟨rfl, by simp⟩
  · exact ⟨rfl, by simp⟩

/-- A reload leaves the endpoint as it is, and then it fails or its section is the one in force, or
it switches the endpoint to another section and to what the files of that section give. -/
lemma reload_quic (h : s.reload sha256 system input = (result, s')) :
    (s'.quic = s.quic ∧ (result = .ok () →
      ∃ config, input.load = .ok config ∧ config.quic = s.quic.config)) ∨
    ∃ config, input.load = .ok config ∧ config.quic ≠ s.quic.config ∧
      s'.quic.config = config.quic ∧ input.credentials = .ok s'.quic.credentials := by
  unfold reload at h
  split at h
  case h_1 error hload =>
    cases h
    exact .inl ⟨rfl, by simp⟩
  case h_2 config hload =>
    split at h
    case h_1 error hprepare =>
      cases h
      exact .inl ⟨rfl, by simp⟩
    case h_2 update hprepare =>
      unfold applyUpdate at h
      split at h
      case h_1 error listeners happly =>
        cases h
        exact .inl ⟨rfl, by simp⟩
      case h_2 listeners happly =>
        rcases QuicEndpoint.prepare_ok hprepare with
          ⟨hsame, rfl⟩ | ⟨hne, loaded, socket, hloaded, rfl⟩
        · cases h
          exact .inl ⟨rfl, fun _ => ⟨config, hload, hsame⟩⟩
        · simp only at h
          split at h
          case h_1 error quic hquic =>
            obtain rfl := QuicEndpoint.apply_error hquic
            obtain ⟨hkept, herror⟩ := quic_putBack system { s with listeners }
              input.finishedLater (system.order s.listeners.binds s.listeners.configs) error
            rw [h] at hkept herror
            exact .inl ⟨hkept, fun hok => absurd hok herror⟩
          case h_2 quic hquic =>
            obtain ⟨hconfig, hcredentials⟩ := QuicEndpoint.apply_ok hquic
            cases h
            refine .inr ⟨config, hload, hne, hconfig, ?_⟩
            rw [hloaded]
            exact congrArg Except.ok hcredentials.symm

end TunnelServer

lemma Disk.config_of_load {disk : Disk} {config : ServerConfig} (h : disk.load = .ok config) :
    disk.config = .ok config := by
  unfold load at h
  cases hconfig : disk.config with
  | error error =>
    rw [hconfig] at h
    cases h
  | ok parsed =>
    simp only [hconfig, Except.bind] at h
    cases hvalid : parsed.validate with
    | error error =>
      rw [hvalid] at h
      cases h
    | ok done =>
      rw [hvalid] at h
      cases h
      rfl

namespace ServerProcess

variable {sha256 : GroupSecret → Digest} {system : System} {tls : TlsLibrary}
  {s s' : ServerProcess} {course : ReloadCourse} {result : Except String Unit}

/-- The credentials in force are what the files gave when they were read last. -/
def Loaded (tls : TlsLibrary) (s : ServerProcess) : Prop :=
  serverCredentials tls s.server.quic.config s.taken = .ok s.server.quic.credentials

lemma loaded_start {disk certificate privateKey : Disk}
    (h : start sha256 system tls disk certificate privateKey = some s) : s.Loaded tls := by
  simp only [start, Option.bind_eq_bind, Option.bind_eq_some_iff] at h
  obtain ⟨config, -, credentials, hcredentials, server, hserver, heq⟩ := h
  cases heq
  have hquic : server.quic = ⟨config.quic.bind, config.quic, credentials⟩ := by
    simp only [TunnelServer.start] at hserver
    split at hserver
    · cases hserver
      rfl
    · cases hserver
  rw [Loaded, hquic]
  cases hload : serverCredentials tls config.quic (certificate.tlsFiles privateKey config.quic) with
  | error error =>
    rw [hload] at hcredentials
    cases hcredentials
  | ok loaded =>
    rw [hload] at hcredentials
    cases hcredentials
    rfl

/-- What a reload does to the credentials and to the record of what was read. -/
lemma reloadServer_cases (h : s.reloadServer sha256 system tls course = (result, s')) :
    s'.disk = course.report ∧
    ((s'.server.quic = s.server.quic ∧ s'.taken = s.taken ∧ (result = .ok () →
      ∃ config, s.disk.load = .ok config ∧ config.quic = s.server.quic.config)) ∨
    ∃ config, s.disk.load = .ok config ∧ config.quic ≠ s.server.quic.config ∧
      s'.server.quic.config = config.quic ∧ s'.taken = offered course config.quic ∧
      serverCredentials tls config.quic s'.taken = .ok s'.server.quic.credentials) := by
  simp only [reloadServer] at h
  rcases hreload : s.server.reload sha256 system (s.input tls course) with ⟨result', server⟩
  rw [hreload] at h
  cases h
  refine ⟨rfl, ?_⟩
  rcases TunnelServer.reload_quic hreload with ⟨hquic, hok⟩ | ⟨config, hload, hne, hconfig, hloaded⟩
  · refine .inl ⟨hquic, ?_, hok⟩
    show (if server.quic.config = s.server.quic.config then _ else _) = _
    rw [if_pos (congrArg QuicEndpoint.config hquic)]
  · have htaken : (if server.quic.config = s.server.quic.config then s.taken
        else offered course server.quic.config) = offered course config.quic := by
      rw [hconfig, if_neg hne]
    refine .inr ⟨config, hload, hne, hconfig, htaken, ?_⟩
    show serverCredentials tls config.quic (if server.quic.config = s.server.quic.config
      then s.taken else offered course server.quic.config) = _
    rw [htaken, ← hloaded]
    have hparsed : s.disk.config = .ok config := Disk.config_of_load hload
    simp only [input, hparsed, Except.bind]

lemma Loaded.reload (h : s.Loaded tls)
    (hreload : s.reloadServer sha256 system tls course = (result, s')) : s'.Loaded tls := by
  obtain ⟨-, ⟨hquic, htaken, -⟩ | ⟨config, -, -, hconfig, -, hloaded⟩⟩ := reloadServer_cases hreload
  · rw [Loaded, hquic, htaken]
    exact h
  · rw [Loaded, hconfig]
    exact hloaded

lemma Loaded.step {e : ProcessEvent} (h : s.Loaded tls)
    (hstep : s.step sha256 system tls e = some s') : s'.Loaded tls := by
  cases e with
  | edit disk =>
    cases hstep
    exact h
  | reload course =>
    cases hstep
    exact h.reload (Prod.mk.eta (p := s.reloadServer sha256 system tls course)).symm
  | operate op =>
    simp only [ServerProcess.step, TunnelServer.step, Option.map_some, Option.some.injEq] at hstep
    subst hstep
    exact h

/-- The files do not change while the reload runs. -/
def AtRest (s : ServerProcess) (course : ReloadCourse) : Prop :=
  course.certificate = s.disk ∧ course.privateKey = s.disk ∧ course.report = s.disk

/-- **A reload offers what the files gave when they were read last.**  In every reachable state,
and for every reload that reports the configuration as applied: with another section than the one
in force, the files were read by this reload, and at rest that gives what a fresh start gives; with
the section in force, the credentials stay.  They are those of a fresh start exactly when the files
load to what they loaded to when they were read. -/
theorem reload_offers_last_read {s₀ : ServerProcess} {disk certificate privateKey : Disk}
    (hstart : start sha256 system tls disk certificate privateKey = some s₀)
    (hreach : Reach (step sha256 system tls) Admissible s₀ s)
    (hreload : s.reloadServer sha256 system tls course = (.ok (), s')) :
    ∃ config, s.disk.load = .ok config ∧ s'.server.quic.config = config.quic ∧
      serverCredentials tls config.quic s'.taken = .ok s'.server.quic.credentials ∧
      (config.quic ≠ s.server.quic.config → s'.taken = offered course config.quic ∧
        (s.AtRest course → s'.disk.freshCredentials tls = .ok s'.server.quic.credentials)) ∧
      (config.quic = s.server.quic.config → s'.taken = s.taken ∧
        s'.server.quic.credentials = s.server.quic.credentials) ∧
      (s'.disk.freshCredentials tls = .ok s'.server.quic.credentials ↔
        s'.disk.freshCredentials tls = serverCredentials tls config.quic s'.taken) := by
  have hloaded : s.Loaded tls := hreach.invariant (loaded_start hstart)
    fun _ _ _ hs _ hstep => hs.step hstep
  have hloaded' := hloaded.reload hreload
  obtain ⟨hdisk, ⟨hquic, htaken, hok⟩ | ⟨config, hload, hne, hconfig, htaken, hnew⟩⟩ :=
    reloadServer_cases hreload
  · obtain ⟨config, hload, hsame⟩ := hok rfl
    have hconfig : s'.server.quic.config = config.quic := by rw [hquic, hsame]
    rw [Loaded, hconfig] at hloaded'
    refine ⟨config, hload, hconfig, hloaded', fun hne => absurd hsame hne,
      fun _ => ⟨htaken, by rw [hquic]⟩, by rw [hloaded']⟩
  · refine ⟨config, hload, hconfig, hnew, fun _ => ⟨htaken, ?_⟩, fun hsame => absurd hsame hne,
      by rw [hnew]⟩
    rintro ⟨hcertificate, hkey, hreport⟩
    have htakenAtRest : s'.taken = s.disk.tlsFiles s.disk config.quic := by
      rw [htaken, offered, hcertificate, hkey]
    have hfresh : s.disk.freshCredentials tls =
        serverCredentials tls config.quic (s.disk.tlsFiles s.disk config.quic) := by
      simp only [Disk.freshCredentials, hload, Except.bind]
    rw [hdisk, hreport, hfresh, ← htakenAtRest]
    exact hnew

/-! ## Two reloads -/

/-- Libraries that take every file for one certificate or one key. -/
def sampleTls : TlsLibrary where
  certs pem := .ok [pem]
  privateKey pem := .ok (some pem)
  parseX509Certificate _ := some ⟨.ok none⟩
  withSingleCert _ _ := .ok ()

/-- The endpoint is on the given port, and the files have the given serial number. -/
def sampleDisk (port : UInt16) (serial : UInt8) : Disk where
  config := .ok (TunnelServer.officeConfig port [])
  file path := .ok [if path = "server.pem" then 1 else 2, serial]

/-- A reload during which the disk stays as it is. -/
def sampleCourse (disk : Disk) : ReloadCourse where
  certificate := disk
  privateKey := disk
  report := disk
  bound := .ok ()
  rebound := .ok ()
  finished := []
  finishedLater := []

def sampleStart : Option ServerProcess :=
  start TunnelRuntime.sampleSha256 TunnelServer.freeSystem sampleTls (sampleDisk 4433 1)
    (sampleDisk 4433 1) (sampleDisk 4433 1)

/-- The files are renewed, and then the configuration is reloaded. -/
def renew (disk : Disk) (s₀ : ServerProcess) : Except String Unit × ServerProcess :=
  { s₀ with disk }.reloadServer TunnelRuntime.sampleSha256 TunnelServer.freeSystem sampleTls
    (sampleCourse disk)

lemma reach_edit (s₀ : ServerProcess) (disk : Disk) :
    Reach (step TunnelRuntime.sampleSha256 TunnelServer.freeSystem sampleTls) Admissible s₀
      { s₀ with disk } :=
  Reach.init.next (e := .edit disk) trivial rfl

/-- The section has another port, so the renewed files are loaded. -/
theorem renewed_with_new_port :
    ∃ s₀ s', sampleStart = some s₀ ∧ renew (sampleDisk 4434 2) s₀ = (.ok (), s') ∧
      s'.disk.freshCredentials sampleTls = .ok s'.server.quic.credentials := by
  have hrun : sampleStart.map (fun s₀ => (s₀.server.quic.config.bind,
      (renew (sampleDisk 4434 2) s₀).1)) =
      some (TunnelRuntime.samplePeer 4433, .ok ()) := by decide +kernel
  obtain ⟨s₀, hstart, hview⟩ := Option.map_eq_some_iff.mp hrun
  obtain ⟨hbind, hok⟩ := Prod.mk.inj hview
  have hreload : renew (sampleDisk 4434 2) s₀ = (.ok (), _) := Prod.ext hok rfl
  obtain ⟨config, hload, -, -, hchanged, -⟩ :=
    reload_offers_last_read hstart (reach_edit s₀ (sampleDisk 4434 2)) hreload
  have hconfig : (sampleDisk 4434 2).load = .ok (TunnelServer.officeConfig 4434 []) := by
    decide +kernel
  obtain rfl := Except.ok.inj (hconfig.symm.trans hload)
  have hne : (TunnelServer.officeConfig 4434 []).quic ≠ s₀.server.quic.config := by
    intro hsame
    rw [← hsame] at hbind
    revert hbind
    decide
  exact ⟨s₀, _, hstart, hreload, (hchanged hne).2 ⟨rfl, rfl, rfl⟩⟩

/-- The section is the one in force: the reload is reported as applied, and the old certificate
and key are still offered. -/
theorem renewed_files_not_offered :
    ¬ ∀ (sha256 : GroupSecret → Digest) (system : System) (tls : TlsLibrary)
      (disk certificate privateKey : Disk) (s₀ s s' : ServerProcess) (course : ReloadCourse),
      start sha256 system tls disk certificate privateKey = some s₀ →
      Reach (step sha256 system tls) Admissible s₀ s →
      s.reloadServer sha256 system tls course = (.ok (), s') →
      s'.disk.freshCredentials tls = .ok s'.server.quic.credentials := by
  intro hfresh
  have hrun : sampleStart.map (fun s₀ => ((renew (sampleDisk 4433 2) s₀).1,
      decide ((renew (sampleDisk 4433 2) s₀).2.disk.freshCredentials sampleTls =
        .ok (renew (sampleDisk 4433 2) s₀).2.server.quic.credentials))) =
      some (.ok (), false) := by decide +kernel
  obtain ⟨s₀, hstart, hview⟩ := Option.map_eq_some_iff.mp hrun
  obtain ⟨hok, hstale⟩ := Prod.mk.inj hview
  have hreload : renew (sampleDisk 4433 2) s₀ = (.ok (), _) := Prod.ext hok rfl
  exact of_decide_eq_false hstale
    (hfresh _ _ _ _ _ _ _ _ _ _ hstart (reach_edit s₀ (sampleDisk 4433 2)) hreload)

end ServerProcess

end GateRust.Tunnel
