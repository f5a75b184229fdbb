/-
# The configuration that was saved and the one that is applied

The control plane makes the path of a configuration file absolute (`absolute_path` in `store.rs`),
a module uses the path as it is given on the command line.  Both resolve the relative paths in the
file against the directory of the path they have, and `wait_for_config` compares what they have
loaded: the tunnel server by a fingerprint of the text that the configuration is written as, the
proxy by the equality of the configurations.
-/
import GateRust.Lib.UnixPath
import GateRust.Control.Store
import GateRust.Tunnel.Runtime
import GateRust.Proxy.Config

namespace GateRust.Control

open Tunnel (SocketAddr GroupConfig ServerTunnelConfig ServerConfig ServerQuicConfig Digest)
open Proxy (AcmeAccountConfig DnsAccountConfig CertificateConfig RouteConfig ProxyConfig)

/-! ## Loading a file -/

/-- The value of a path in the file, relative to the directory of the file. -/
def resolvePath (configPath value : UnixPath) : UnixPath :=
  if value.isAbsolute then value
  else (configPath.parent.getD (.ofString ".")).join value

/-- What `ServerConfig::load` returns. -/
structure LoadedServerConfig where
  bind : SocketAddr
  certificate : UnixPath
  privateKey : UnixPath
  groups : List GroupConfig
  tunnels : List ServerTunnelConfig
deriving DecidableEq

def LoadedServerConfig.resolve (path : UnixPath) (config : ServerConfig) : LoadedServerConfig where
  bind := config.quic.bind
  certificate := resolvePath path (.ofString config.quic.certificate)
  privateKey := resolvePath path (.ofString config.quic.privateKey)
  groups := config.groups
  tunnels := config.tunnels

def loadServerConfig (f : ConfigFormat ServerConfig) (fs : UnixFiles) (path : UnixPath) :
    Except String LoadedServerConfig := do
  let text ← fs.read path
  let config ← f.read text
  return .resolve path config

/-- What `ProxyConfig::load` returns. -/
structure LoadedProxyConfig where
  httpBind : SocketAddr
  httpsBind : SocketAddr
  cacheDir : UnixPath
  maxConnections : ℕ
  acmeAccounts : List AcmeAccountConfig
  dnsAccounts : List DnsAccountConfig
  certificates : List CertificateConfig
  routes : List RouteConfig

/-- The derived equality, which compares the components of paths. -/
instance : BEq LoadedProxyConfig where
  beq a b :=
    a.httpBind = b.httpBind && a.httpsBind = b.httpsBind &&
      a.cacheDir.components = b.cacheDir.components && a.maxConnections = b.maxConnections &&
      a.acmeAccounts = b.acmeAccounts && a.dnsAccounts = b.dnsAccounts &&
      a.certificates = b.certificates && a.routes = b.routes

lemma LoadedProxyConfig.components_of_beq {a b : LoadedProxyConfig} (h : (a == b) = true) :
    a.cacheDir.components = b.cacheDir.components := by
  simp only [BEq.beq, Bool.and_eq_true] at h
  exact of_decide_eq_true h.1.1.1.1.1.2

lemma LoadedProxyConfig.beq_self (a : LoadedProxyConfig) : (a == a) = true := by
  simp [BEq.beq]

def LoadedProxyConfig.resolve (path : UnixPath) (config : ProxyConfig) : LoadedProxyConfig where
  httpBind := config.proxy.httpBind
  httpsBind := config.proxy.httpsBind
  cacheDir := resolvePath path (.ofString config.proxy.cacheDir)
  maxConnections := config.proxy.maxConnections
  acmeAccounts := config.acmeAccounts
  dnsAccounts := config.dnsAccounts
  certificates := config.certificates
  routes := config.routes

def loadProxyConfig (f : ConfigFormat ProxyConfig) (fs : UnixFiles) (path : UnixPath) :
    Except String LoadedProxyConfig := do
  let text ← fs.read path
  let config ← f.read text
  return .resolve path config

/-! ## The report of a module -/

structure ConfigStatus where
  revision : UInt64
  lastApplyError : Option String
deriving DecidableEq, Repr

/-- What a module has reported last, for the tunnel server with the fingerprint of the
configuration and for the proxy with the configuration. -/
structure ConfigApplyState (K : Type) where
  key : Option K
  status : ConfigStatus

namespace ConfigApplyState

variable {K : Type}

def publishConfigStatus (state : ConfigApplyState K) (key : K) (error : Option String) :
    ConfigApplyState K :=
  ⟨some key, state.status.revision + 1, error⟩

/-- What the loop of `wait_for_config` does with a state: it returns the status or waits on. -/
def waitForConfig [BEq K] (state : ConfigApplyState K) (key : K) (afterRevision : UInt64) :
    Option ConfigStatus :=
  if state.status.revision ≠ afterRevision && state.key.any (· == key) then some state.status
  else none

/-- The first report after the given revision is the one that is waited for, if the keys agree. -/
lemma waitForConfig_publish [BEq K] (state : ConfigApplyState K) (key key' : K)
    (error : Option String) :
    (state.publishConfigStatus key error).waitForConfig key' state.status.revision =
      if key == key' then some ⟨state.status.revision + 1, error⟩ else none := by
  have hrevision : state.status.revision + 1 ≠ state.status.revision := by
    simp
  simp [publishConfigStatus, waitForConfig, hrevision]

end ConfigApplyState

/-- `config_fingerprint`: the digest of the text that the configuration is written as. -/
def configFingerprint (toml : LoadedServerConfig → List UInt8) (sha256 : List UInt8 → Digest)
    (config : LoadedServerConfig) : Digest :=
  sha256 (toml config)

/-! ## Agreement -/

section Agreement

variable {fs : UnixFiles} {path value : UnixPath}

/-- A path that can be read has a directory. -/
lemma isAbsolute_resolvePath (hfile : path.fileName.isSome = true) (value : UnixPath) :
    (resolvePath path value).isAbsolute = (path.isAbsolute || value.isAbsolute) := by
  obtain ⟨directory, hdirectory⟩ := UnixPath.exists_parent_of_fileName hfile
  unfold resolvePath
  split
  case isTrue habs => rw [habs, Bool.or_true]
  case isFalse =>
    rw [hdirectory, Option.getD_some, UnixPath.isAbsolute_join,
      UnixPath.isAbsolute_of_parent hdirectory]

/-- The value is resolved in the same way by both sides. -/
lemma resolvePath_absolute (cwd : UnixPath)
    (h : path.isAbsolute = true ∨ value.isAbsolute = true) :
    resolvePath (.absolute cwd path) value = resolvePath path value := by
  rcases h with habs | habs
  · rw [UnixPath.absolute, if_pos habs]
  · rw [resolvePath, resolvePath, if_pos habs, if_pos habs]

/-- Otherwise the control plane has an absolute path, and the module a relative one. -/
lemma isAbsolute_of_resolvePath_components {text : String} (hread : fs.read path = .ok text)
    (h : (resolvePath (.absolute fs.cwd path) value).components =
      (resolvePath path value).components) :
    path.isAbsolute = true ∨ value.isAbsolute = true := by
  have hfile := fs.read_fileName path text hread
  have hfile' := fs.read_fileName (.absolute fs.cwd path) text
    ((fs.read_absolute path).trans hread)
  have habs := UnixPath.isAbsolute_of_components h
  rw [isAbsolute_resolvePath hfile', isAbsolute_resolvePath hfile,
    UnixPath.isAbsolute_absolute fs.cwd_absolute, Bool.true_or] at habs
  rw [← Bool.or_eq_true]
  exact habs.symm

/-- The control plane and the tunnel server load the same configuration from the file, and the
control plane finds the report of the server. -/
def TunnelReportFound (f : ConfigFormat ServerConfig) (fs : UnixFiles)
    (fingerprint : LoadedServerConfig → Digest) (path : UnixPath)
    (state : ConfigApplyState Digest) (error : Option String) : Prop :=
  ∃ saved applied, loadServerConfig f fs (.absolute fs.cwd path) = .ok saved ∧
    loadServerConfig f fs path = .ok applied ∧ fingerprint saved = fingerprint applied ∧
    (state.publishConfigStatus (fingerprint applied) error).waitForConfig (fingerprint saved)
      state.status.revision = some ⟨state.status.revision + 1, error⟩

def ProxyReportFound (f : ConfigFormat ProxyConfig) (fs : UnixFiles) (path : UnixPath)
    (state : ConfigApplyState LoadedProxyConfig) (error : Option String) : Prop :=
  ∃ saved applied, loadProxyConfig f fs (.absolute fs.cwd path) = .ok saved ∧
    loadProxyConfig f fs path = .ok applied ∧ (applied == saved) = true ∧
    (state.publishConfigStatus applied error).waitForConfig saved state.status.revision =
      some ⟨state.status.revision + 1, error⟩

/-- The fingerprint tells apart what the two sides load from the file. -/
def TellsApart (f : ConfigFormat ServerConfig) (fs : UnixFiles)
    (fingerprint : LoadedServerConfig → Digest) (path : UnixPath) : Prop :=
  ∀ saved applied, loadServerConfig f fs (.absolute fs.cwd path) = .ok saved →
    loadServerConfig f fs path = .ok applied → fingerprint saved = fingerprint applied →
    saved = applied

lemma loadServerConfig_eq {f : ConfigFormat ServerConfig} {text : String} {config : ServerConfig}
    (hread : fs.read path = .ok text) (hconfig : f.read text = .ok config) :
    loadServerConfig f fs path = .ok (.resolve path config) := by
  unfold loadServerConfig
  rw [hread]
  show (f.read text).bind _ = _
  rw [hconfig]
  rfl

lemma loadProxyConfig_eq {f : ConfigFormat ProxyConfig} {text : String} {config : ProxyConfig}
    (hread : fs.read path = .ok text) (hconfig : f.read text = .ok config) :
    loadProxyConfig f fs path = .ok (.resolve path config) := by
  unfold loadProxyConfig
  rw [hread]
  show (f.read text).bind _ = _
  rw [hconfig]
  rfl

lemma tunnelReportFound_iff {f : ConfigFormat ServerConfig}
    {fingerprint : LoadedServerConfig → Digest} {text : String} {config : ServerConfig}
    (hread : fs.read path = .ok text) (hconfig : f.read text = .ok config)
    (hfingerprint : TellsApart f fs fingerprint path) (state : ConfigApplyState Digest)
    (error : Option String) :
    TunnelReportFound f fs fingerprint path state error ↔
      path.isAbsolute = true ∨ ((UnixPath.ofString config.quic.certificate).isAbsolute = true ∧
        (UnixPath.ofString config.quic.privateKey).isAbsolute = true) := by
  have hread' : fs.read (.absolute fs.cwd path) = .ok text := (fs.read_absolute path).trans hread
  have hsaved := loadServerConfig_eq hread' hconfig
  have happlied := loadServerConfig_eq hread hconfig
  constructor
  · rintro ⟨saved, applied, hs, ha, hsame, -⟩
    have heq := hfingerprint saved applied hs ha hsame
    rw [hsaved, Except.ok.injEq] at hs
    rw [happlied, Except.ok.injEq] at ha
    have hconfigs : LoadedServerConfig.resolve (.absolute fs.cwd path) config =
        .resolve path config := (hs.trans heq).trans ha.symm
    have hcertificate := congrArg LoadedServerConfig.certificate hconfigs
    have hkey := congrArg LoadedServerConfig.privateKey hconfigs
    rw [or_and_left]
    exact ⟨isAbsolute_of_resolvePath_components hread (congrArg UnixPath.components hcertificate),
      isAbsolute_of_resolvePath_components hread (congrArg UnixPath.components hkey)⟩
  · intro habs
    rw [or_and_left] at habs
    have hconfigs : LoadedServerConfig.resolve (.absolute fs.cwd path) config =
        .resolve path config := by
      unfold LoadedServerConfig.resolve
      rw [resolvePath_absolute fs.cwd habs.1, resolvePath_absolute fs.cwd habs.2]
    refine ⟨_, _, hsaved, happlied, by rw [hconfigs], ?_⟩
    rw [ConfigApplyState.waitForConfig_publish, hconfigs, if_pos (beq_self_eq_true _)]

lemma proxyReportFound_iff {f : ConfigFormat ProxyConfig} {text : String} {config : ProxyConfig}
    (hread : fs.read path = .ok text) (hconfig : f.read text = .ok config)
    (state : ConfigApplyState LoadedProxyConfig) (error : Option String) :
    ProxyReportFound f fs path state error ↔
      path.isAbsolute = true ∨ (UnixPath.ofString config.proxy.cacheDir).isAbsolute = true := by
  have hread' : fs.read (.absolute fs.cwd path) = .ok text := (fs.read_absolute path).trans hread
  have hsaved := loadProxyConfig_eq hread' hconfig
  have happlied := loadProxyConfig_eq hread hconfig
  constructor
  · rintro ⟨saved, applied, hs, ha, hsame, -⟩
    rw [hsaved, Except.ok.injEq] at hs
    rw [happlied, Except.ok.injEq] at ha
    subst hs ha
    have hcache := LoadedProxyConfig.components_of_beq hsame
    exact isAbsolute_of_resolvePath_components hread hcache.symm
  · intro habs
    have hconfigs : LoadedProxyConfig.resolve (.absolute fs.cwd path) config =
        .resolve path config := by
      unfold LoadedProxyConfig.resolve
      rw [resolvePath_absolute fs.cwd habs]
    have hself := LoadedProxyConfig.beq_self (.resolve path config)
    refine ⟨_, _, hsaved, happlied, by rw [hconfigs, hself], ?_⟩
    rw [ConfigApplyState.waitForConfig_publish, hconfigs, if_pos hself]

/-- **When the control plane and the modules agree.**  For every file that can be read, the control
plane finds the report of the module exactly when the path of the file is absolute or the file has
no relative path that is resolved. -/
theorem report_found_iff (f : ConfigFormat ServerConfig) (g : ConfigFormat ProxyConfig)
    (fs : UnixFiles) (toml : LoadedServerConfig → List UInt8) (sha256 : List UInt8 → Digest) :
    (∀ path text config state error, fs.read path = .ok text → f.read text = .ok config →
      TellsApart f fs (configFingerprint toml sha256) path →
      (TunnelReportFound f fs (configFingerprint toml sha256) path state error ↔
        path.isAbsolute = true ∨ ((UnixPath.ofString config.quic.certificate).isAbsolute = true ∧
          (UnixPath.ofString config.quic.privateKey).isAbsolute = true))) ∧
    (∀ path text config state error, fs.read path = .ok text → g.read text = .ok config →
      (ProxyReportFound g fs path state error ↔
        path.isAbsolute = true ∨ (UnixPath.ofString config.proxy.cacheDir).isAbsolute = true)) :=
  ⟨fun _ _ _ state error hread hconfig hfingerprint =>
      tunnelReportFound_iff hread hconfig hfingerprint state error,
    fun _ _ _ state error hread hconfig => proxyReportFound_iff hread hconfig state error⟩

/-! ### A configuration with relative paths -/

def sampleCwd : UnixPath := .ofString "/srv/gate"

def serverText : String :=
  "[quic]\nbind = \"0.0.0.0:2333\"\ncertificate = \"../certs/server.pem\"\n" ++
    "private_key = \"../certs/server-key.pem\"\n"

def proxyText : String :=
  "[proxy]\nhttp_bind = \"0.0.0.0:80\"\nhttps_bind = \"0.0.0.0:443\"\n" ++
    "cache_dir = \"../data/acme\"\n"

def relativeServerFormat : ConfigFormat ServerConfig where
  default := ⟨⟨⟨.v4 0, 2333⟩, "/etc/gaterust/tunnel/server.pem",
    "/etc/gaterust/tunnel/server-key.pem"⟩, [], []⟩
  toToml _ := .ok serverText
  read text :=
    if text = serverText then
      .ok ⟨⟨⟨.v4 0, 2333⟩, "../certs/server.pem", "../certs/server-key.pem"⟩, [], []⟩
    else .error "TOML parse error"

def relativeProxyFormat : ConfigFormat ProxyConfig where
  default := ⟨⟨⟨.v4 0, 80⟩, ⟨.v4 0, 443⟩, "/var/lib/gaterust/proxy/acme", 2048⟩, [], [], [], []⟩
  toToml _ := .ok proxyText
  read text :=
    if text = proxyText then
      .ok ⟨⟨⟨.v4 0, 80⟩, ⟨.v4 0, 443⟩, "../data/acme", 2048⟩, [], [], [], []⟩
    else .error "TOML parse error"

def serverFile : UnixPath := .ofString "config/server.toml"

def proxyFile : UnixPath := .ofString "config/proxy.toml"

/-- The file is only found under its two paths. -/
lemma fileName_of_absolute {p file : UnixPath} (hfile : file.fileName.isSome = true)
    (hrel : file.isAbsolute = false) (hjoined : (sampleCwd.join file).fileName.isSome = true)
    (h : UnixPath.absolute sampleCwd p = sampleCwd.join file) : p.fileName.isSome = true := by
  unfold UnixPath.absolute at h
  split at h
  case isTrue =>
    rw [h]
    exact hjoined
  case isFalse hp =>
    rw [Bool.not_eq_true] at hp
    rw [(UnixPath.join_right_inj hp hrel).mp h]
    exact hfile

/-- The two files of the server in the directory `config`. -/
def sampleFiles : UnixFiles where
  cwd := sampleCwd
  read p :=
    if UnixPath.absolute sampleCwd p = sampleCwd.join serverFile then .ok serverText
    else if UnixPath.absolute sampleCwd p = sampleCwd.join proxyFile then .ok proxyText
    else .error "No such file or directory (os error 2)"
  cwd_absolute := by decide +kernel
  read_absolute p := by rw [UnixPath.absolute_absolute (by decide +kernel)]
  read_fileName p text h := by
    split at h
    case isTrue hserver =>
      exact fileName_of_absolute (by decide +kernel) (by decide +kernel) (by decide +kernel) hserver
    case isFalse =>
      split at h
      case isTrue hproxy =>
        exact fileName_of_absolute (by decide +kernel) (by decide +kernel) (by decide +kernel)
          hproxy
      case isFalse => cases h

/-- The paths of a configuration as TOML. -/
def sampleToml (config : LoadedServerConfig) : List UInt8 :=
  "[quic]\nbind = \"0.0.0.0:2333\"\ncertificate = \"".toUTF8.toList ++ config.certificate.bytes ++
    "\"\nprivate_key = \"".toUTF8.toList ++ config.privateKey.bytes ++ "\"\n".toUTF8.toList

lemma tellsApart_of_absolute {f : ConfigFormat ServerConfig}
    {fingerprint : LoadedServerConfig → Digest} (habs : path.isAbsolute = true) :
    TellsApart f fs fingerprint path := by
  intro saved applied hs ha _
  rw [UnixPath.absolute, if_pos habs, ha] at hs
  exact (Except.ok.inj hs).symm

/-- The files are given by their absolute paths. -/
theorem absolute_paths_reported :
    TunnelReportFound relativeServerFormat sampleFiles (configFingerprint sampleToml id)
        (sampleCwd.join serverFile) ⟨none, 0, none⟩ none ∧
      ProxyReportFound relativeProxyFormat sampleFiles (sampleCwd.join proxyFile) ⟨none, 0, none⟩
        none := by
  have hserver : (sampleCwd.join serverFile).isAbsolute = true := by decide +kernel
  have hproxy : (sampleCwd.join proxyFile).isAbsolute = true := by decide +kernel
  obtain ⟨htunnel, hproxies⟩ :=
    report_found_iff relativeServerFormat relativeProxyFormat sampleFiles sampleToml id
  constructor
  · refine (htunnel (sampleCwd.join serverFile) serverText _ _ _ (by decide +kernel) rfl
      (tellsApart_of_absolute hserver)).mpr (.inl hserver)
  · exact (hproxies (sampleCwd.join proxyFile) proxyText _ _ _ (by decide +kernel) rfl).mpr
      (.inl hproxy)

/-- The files are given by their paths in the working directory. -/
theorem relative_paths_not_reported :
    sampleFiles.read serverFile = .ok serverText ∧ sampleFiles.read proxyFile = .ok proxyText ∧
      ¬ TunnelReportFound relativeServerFormat sampleFiles (configFingerprint sampleToml id)
        serverFile ⟨none, 0, none⟩ none ∧
      ¬ ProxyReportFound relativeProxyFormat sampleFiles proxyFile ⟨none, 0, none⟩ none := by
  have hserver : sampleFiles.read serverFile = .ok serverText := by decide +kernel
  have hproxy : sampleFiles.read proxyFile = .ok proxyText := by decide +kernel
  have hserver' : sampleFiles.read (.absolute sampleFiles.cwd serverFile) = .ok serverText :=
    (sampleFiles.read_absolute serverFile).trans hserver
  refine ⟨hserver, hproxy, ?_, ?_⟩
  · rintro ⟨saved, applied, hs, ha, hsame, -⟩
    rw [loadServerConfig_eq hserver' rfl, Except.ok.injEq] at hs
    rw [loadServerConfig_eq hserver rfl, Except.ok.injEq] at ha
    subst hs ha
    revert hsame
    decide +kernel
  · rw [proxyReportFound_iff hproxy rfl]
    decide +kernel

end Agreement

end GateRust.Control
