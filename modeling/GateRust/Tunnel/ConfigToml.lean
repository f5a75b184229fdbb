/-
# The configuration files of the tunnel

How the structures of `config.rs` are written to a TOML document and read from one: the fields under
their names in the file, with their defaults.  An integer of a document is below `2 ^ 63`, so a
configuration with a greater limit cannot be written.
-/
import GateRust.Lib.Toml
import GateRust.Tunnel.AddressTexts
import GateRust.Tunnel.ServerConfig
import GateRust.Tunnel.TunnelSelection

namespace GateRust.Tunnel

open Toml

def TunnelKind.name : TunnelKind → String
  | .tcp => "tcp"
  | .udp => "udp"
  | .socks5 => "socks5"

def defaultMaxConnections : ℕ := 128
def defaultMaxUdpSessions : ℕ := 128
def defaultUdpIdleSeconds : UInt64 := 60

/-! ## Reading -/

def kind? : Toml → Option TunnelKind := variant? TunnelKind.name [.tcp, .udp, .socks5]

/-- A `usize`. -/
def usize? : Toml → Option ℕ := natural? (2 ^ 64)

def u64? (value : Toml) : Option UInt64 := (value.natural? (2 ^ 64)).map .ofNat

/-- A `NonZeroU16`. -/
def nonZeroU16? (value : Toml) : Option UInt16 :=
  ((value.natural? (2 ^ 16)).filter (· ≠ 0)).map .ofNat

/-- A `NonZeroU64`. -/
def nonZeroU64? (value : Toml) : Option UInt64 :=
  ((value.natural? (2 ^ 64)).filter (· ≠ 0)).map .ofNat

def GroupConfig.deserialize (value : Toml) : Option GroupConfig := do
  let fields ← value.fields? ["name", "key"]
  let name ← fields.required "name" string?
  let key ← fields.required "key" string?
  return { name, key }

section Addresses

variable (parseAddr : String → Option SocketAddr)

def ServerQuicConfig.deserialize (value : Toml) : Option ServerQuicConfig := do
  let fields ← value.fields? ["bind", "certificate", "private_key"]
  let bind ← fields.required "bind" fun text => text.string?.bind parseAddr
  let certificate ← fields.required "certificate" string?
  let privateKey ← fields.required "private_key" string?
  return { bind, certificate, privateKey }

def ServerTunnelConfig.deserialize (value : Toml) : Option ServerTunnelConfig := do
  let fields ← value.fields?
    ["name", "group", "kind", "bind", "local_ip", "local_port", "limit_bps", "max_connections",
      "max_udp_sessions", "udp_idle_seconds"]
  let name ← fields.required "name" string?
  let group ← fields.required "group" string?
  let kind ← fields.required "kind" kind?
  let bind ← fields.required "bind" fun text => text.string?.bind parseAddr
  let localIp ← fields.withDefault "local_ip" string? defaultLocalIp
  let localPort ← fields.withDefault "local_port" (fun port => (nonZeroU16? port).map some) none
  let limitBps ← fields.optional "limit_bps" nonZeroU64?
  let maxConnections ← fields.withDefault "max_connections" usize? defaultMaxConnections
  let maxUdpSessions ← fields.withDefault "max_udp_sessions" usize? defaultMaxUdpSessions
  let udpIdleSeconds ← fields.withDefault "udp_idle_seconds" u64? defaultUdpIdleSeconds
  return ⟨name, group, kind, bind, localIp, localPort, limitBps, maxConnections, maxUdpSessions,
    udpIdleSeconds⟩

def ServerConfig.deserialize (value : Toml) : Option ServerConfig := do
  let fields ← value.fields? ["quic", "groups", "tunnels"]
  let quic ← fields.required "quic" (ServerQuicConfig.deserialize parseAddr)
  let groups ← fields.withDefault "groups" (array? GroupConfig.deserialize) []
  let tunnels ← fields.withDefault "tunnels" (array? (ServerTunnelConfig.deserialize parseAddr)) []
  return { quic, groups, tunnels }

end Addresses

def ClientServerConfig.deserialize (value : Toml) : Option ClientServerConfig := do
  let fields ← value.fields? ["address", "name", "ca_certificate"]
  let address ← fields.required "address" string?
  let name ← fields.withDefault "name" (fun text => text.string?.map some) none
  let caCertificate ← fields.withDefault "ca_certificate" (fun text => text.string?.map some) none
  return { address, name, caCertificate }

def ClientServiceConfig.deserialize (value : Toml) : Option ClientServiceConfig := do
  let fields ← value.fields? ["name", "kind", "target"]
  let name ← fields.required "name" string?
  let kind ← fields.required "kind" kind?
  let target ← fields.optional "target" string?
  return { name, kind, target }

def ClientConfig.deserialize (value : Toml) : Option ClientConfig := do
  let fields ← value.fields? ["key", "server", "services"]
  let key ← fields.required "key" string?
  let server ← fields.required "server" ClientServerConfig.deserialize
  let services ← fields.withDefault "services" (array? ClientServiceConfig.deserialize) []
  return { key, server, services }

/-! ## Writing -/

/-- An integer, if a document can have it. -/
def integer? (n : ℕ) : Option Toml := if n < 2 ^ 63 then some (integer n) else none

def GroupConfig.serialize (group : GroupConfig) : Toml :=
  table [("name", string group.name), ("key", string group.key)]

def ServerQuicConfig.serialize (quic : ServerQuicConfig) : Toml :=
  table [("bind", string quic.bind.display), ("certificate", string quic.certificate),
    ("private_key", string quic.privateKey)]

/-- The entry of an optional number. -/
def numberEntry? (name : String) : Option ℕ → Option Document
  | none => some []
  | some n => (integer? n).map fun value => [(name, value)]

def ServerTunnelConfig.serialize? (tunnel : ServerTunnelConfig) : Option Toml := do
  let limitBps ← numberEntry? "limit_bps" (tunnel.limitBps.map (·.toNat))
  let maxConnections ← integer? tunnel.maxConnections
  let maxUdpSessions ← integer? tunnel.maxUdpSessions
  let udpIdleSeconds ← integer? tunnel.udpIdleSeconds.toNat
  return table ([("name", string tunnel.name), ("group", string tunnel.group),
    ("kind", string tunnel.kind.name), ("bind", string tunnel.bind.display),
    ("local_ip", string tunnel.localIp)] ++
    optionalEntry "local_port" (fun port => integer (port.toNat : ℤ)) tunnel.localPort ++
    limitBps ++
    [("max_connections", maxConnections), ("max_udp_sessions", maxUdpSessions),
      ("udp_idle_seconds", udpIdleSeconds)])

def ServerConfig.serialize? (config : ServerConfig) : Option Document := do
  let tunnels ← config.tunnels.mapM (·.serialize?)
  return [("quic", config.quic.serialize),
    ("groups", array (config.groups.map (·.serialize))), ("tunnels", array tunnels)]

def ClientServerConfig.serialize (server : ClientServerConfig) : Toml :=
  table ([("address", string server.address)] ++ optionalEntry "name" string server.name ++
    optionalEntry "ca_certificate" string server.caCertificate)

def ClientServiceConfig.serialize (service : ClientServiceConfig) : Toml :=
  table ([("name", string service.name), ("kind", string service.kind.name)] ++
    optionalEntry "target" string service.target)

def ClientConfig.serialize (config : ClientConfig) : Document :=
  [("key", string config.key), ("server", config.server.serialize),
    ("services", array (config.services.map (·.serialize)))]

/-! ## What is written is read back -/

lemma GroupConfig.deserialize_serialize (group : GroupConfig) :
    deserialize group.serialize = some group := rfl

lemma ClientServerConfig.deserialize_serialize (server : ClientServerConfig) :
    deserialize server.serialize = some server := by
  obtain ⟨address, name, caCertificate⟩ := server
  cases name <;> cases caCertificate <;> rfl

lemma ClientServiceConfig.deserialize_serialize (service : ClientServiceConfig) :
    deserialize service.serialize = some service := by
  obtain ⟨name, kind, target⟩ := service
  cases kind <;> cases target <;> rfl

/-- **The configuration of a client is read back from its document.** -/
theorem ClientConfig.deserialize_serialize (config : ClientConfig) :
    deserialize (table config.serialize) = some config := by
  have hservices := array?_array
    fun (service : ClientServiceConfig) (_ : service ∈ config.services) =>
      service.deserialize_serialize
  exact bind_of_eq_some rfl <| bind_of_eq_some rfl <|
    bind_of_eq_some config.server.deserialize_serialize <| bind_of_eq_some hservices rfl

/-! ### The server -/

/-- The address is read from its own text, and the port and the limit are not zero. -/
structure ServerTunnelConfig.Readable (parseAddr : String → Option SocketAddr)
    (tunnel : ServerTunnelConfig) : Prop where
  bind : parseAddr tunnel.bind.display = some tunnel.bind
  localPort : tunnel.localPort ≠ some 0
  limitBps : tunnel.limitBps ≠ some 0

lemma exists_of_integer? {n : ℕ} {value : Toml} (h : integer? n = some value) :
    n < 2 ^ 63 ∧ value = integer n := by
  rw [integer?, Option.ite_none_right_eq_some] at h
  exact ⟨h.1, (Option.some.inj h.2).symm⟩

lemma usize?_of_integer? {n : ℕ} {value : Toml} (h : integer? n = some value) :
    usize? value = some n := by
  obtain ⟨hlt, rfl⟩ := exists_of_integer? h
  exact natural?_integer (Nat.lt_trans hlt (by decide))

lemma u64?_of_integer? {n : UInt64} {value : Toml} (h : integer? n.toNat = some value) :
    u64? value = some n := by
  obtain ⟨-, rfl⟩ := exists_of_integer? h
  rw [u64?, natural?_integer n.toNat_lt, Option.map_some, UInt64.ofNat_toNat]

lemma nonZeroU64?_of_integer? {n : UInt64} {value : Toml} (h : integer? n.toNat = some value)
    (hne : n ≠ 0) : nonZeroU64? value = some n := by
  obtain ⟨-, rfl⟩ := exists_of_integer? h
  have hzero : n.toNat ≠ 0 := fun h => hne (UInt64.toNat_inj.mp h)
  rw [nonZeroU64?, natural?_integer n.toNat_lt]
  simp [Option.filter, hzero]

lemma nonZeroU16?_integer {n : UInt16} (hne : n ≠ 0) :
    nonZeroU16? (integer (n.toNat : ℤ)) = some n := by
  have hzero : n.toNat ≠ 0 := fun h => hne (UInt16.toNat_inj.mp h)
  rw [nonZeroU16?, natural?_integer n.toNat_lt]
  simp [Option.filter, hzero]

lemma kind?_name (kind : TunnelKind) : kind? (string kind.name) = some kind := by
  cases kind <;> rfl

/-- The fields of a tunnel, one after the other. -/
lemma ServerTunnelConfig.deserialize_of_fields {parseAddr : String → Option SocketAddr}
    {value : Toml} {fields : Fields} {tunnel : ServerTunnelConfig}
    (hfields : value.fields? ["name", "group", "kind", "bind", "local_ip", "local_port",
      "limit_bps", "max_connections", "max_udp_sessions", "udp_idle_seconds"] = some fields)
    (hname : fields.required "name" string? = some tunnel.name)
    (hgroup : fields.required "group" string? = some tunnel.group)
    (hkind : fields.required "kind" kind? = some tunnel.kind)
    (hbind : fields.required "bind" (fun text => text.string?.bind parseAddr) = some tunnel.bind)
    (hlocalIp : fields.withDefault "local_ip" string? defaultLocalIp = some tunnel.localIp)
    (hlocalPort : fields.withDefault "local_port" (fun port => (nonZeroU16? port).map some) none =
      some tunnel.localPort)
    (hlimitBps : fields.optional "limit_bps" nonZeroU64? = some tunnel.limitBps)
    (hconnections : fields.withDefault "max_connections" usize? defaultMaxConnections =
      some tunnel.maxConnections)
    (hsessions : fields.withDefault "max_udp_sessions" usize? defaultMaxUdpSessions =
      some tunnel.maxUdpSessions)
    (hidle : fields.withDefault "udp_idle_seconds" u64? defaultUdpIdleSeconds =
      some tunnel.udpIdleSeconds) :
    deserialize parseAddr value = some tunnel :=
  bind_of_eq_some hfields <| bind_of_eq_some hname <| bind_of_eq_some hgroup <|
    bind_of_eq_some hkind <| bind_of_eq_some hbind <| bind_of_eq_some hlocalIp <|
    bind_of_eq_some hlocalPort <| bind_of_eq_some hlimitBps <| bind_of_eq_some hconnections <|
    bind_of_eq_some hsessions <| bind_of_eq_some hidle rfl

lemma ServerTunnelConfig.deserialize_of_serialize {parseAddr : String → Option SocketAddr}
    {tunnel : ServerTunnelConfig} {value : Toml} (h : tunnel.serialize? = some value)
    (hreadable : tunnel.Readable parseAddr) : deserialize parseAddr value = some tunnel := by
  obtain ⟨limit, hlimit, h⟩ := Option.bind_eq_some_iff.mp h
  obtain ⟨connections, hconnections, h⟩ := Option.bind_eq_some_iff.mp h
  obtain ⟨sessions, hsessions, h⟩ := Option.bind_eq_some_iff.mp h
  obtain ⟨idle, hidle, h⟩ := Option.bind_eq_some_iff.mp h
  cases h
  have hbind := hreadable.bind
  replace hconnections := usize?_of_integer? hconnections
  replace hsessions := usize?_of_integer? hsessions
  replace hidle := u64?_of_integer? hidle
  have hportRead (port : UInt16) (hport : tunnel.localPort = some port) :
      (nonZeroU16? (integer (port.toNat : ℤ))).map some = some tunnel.localPort := by
    rw [hport, nonZeroU16?_integer fun hzero => hreadable.localPort (hzero ▸ hport),
      Option.map_some]
  -- which entries the table has depends on the two that may be left out
  cases hbps : tunnel.limitBps with
  | none =>
    rw [hbps] at hlimit
    cases hlimit
    have hnoBps : some none = some tunnel.limitBps := congrArg some hbps.symm
    cases hport : tunnel.localPort with
    | none =>
      exact deserialize_of_fields rfl rfl rfl (kind?_name tunnel.kind) hbind rfl
        (congrArg some hport.symm) hnoBps hconnections hsessions hidle
    | some port =>
      exact deserialize_of_fields rfl rfl rfl (kind?_name tunnel.kind) hbind rfl
        ((Fields.withDefault_of_get? rfl).trans (hportRead port hport)) hnoBps hconnections
        hsessions hidle
  | some bps =>
    rw [hbps] at hlimit
    obtain ⟨value, hvalue, rfl⟩ := Option.map_eq_some_iff.mp hlimit
    have hbpsRead : (nonZeroU64? value).map some = some tunnel.limitBps := by
      rw [hbps, nonZeroU64?_of_integer? hvalue fun hzero => hreadable.limitBps (hzero ▸ hbps),
        Option.map_some]
    cases hport : tunnel.localPort with
    | none =>
      exact deserialize_of_fields rfl rfl rfl (kind?_name tunnel.kind) hbind rfl
        (congrArg some hport.symm) hbpsRead hconnections hsessions hidle
    | some port =>
      exact deserialize_of_fields rfl rfl rfl (kind?_name tunnel.kind) hbind rfl
        ((Fields.withDefault_of_get? rfl).trans (hportRead port hport)) hbpsRead hconnections
        hsessions hidle

/-- The addresses are read from their own texts, and no port and no limit is zero. -/
structure ServerConfig.Readable (parseAddr : String → Option SocketAddr) (config : ServerConfig) :
    Prop where
  quic : parseAddr config.quic.bind.display = some config.quic.bind
  tunnels : ∀ tunnel ∈ config.tunnels, tunnel.Readable parseAddr

/-- The parser of socket addresses reads all addresses back; the types of the ports and the limits
exclude zero. -/
lemma ServerConfig.readable_parseSocketAddr {config : ServerConfig}
    (hnonzero : ∀ tunnel ∈ config.tunnels, tunnel.localPort ≠ some 0 ∧ tunnel.limitBps ≠ some 0) :
    config.Readable parseSocketAddr where
  quic := parseSocketAddr_display config.quic.bind
  tunnels tunnel htunnel :=
    ⟨parseSocketAddr_display tunnel.bind, (hnonzero tunnel htunnel).1, (hnonzero tunnel htunnel).2⟩

/-- **A configuration that can be written is read back from its document.** -/
theorem ServerConfig.deserialize_of_serialize {parseAddr : String → Option SocketAddr}
    {config : ServerConfig} {document : Document} (h : config.serialize? = some document)
    (hreadable : config.Readable parseAddr) :
    deserialize parseAddr (table document) = some config := by
  obtain ⟨items, hitems, h⟩ := Option.bind_eq_some_iff.mp h
  cases h
  have hquic : ServerQuicConfig.deserialize parseAddr config.quic.serialize = some config.quic :=
    bind_of_eq_some rfl <| bind_of_eq_some hreadable.quic <| bind_of_eq_some rfl <|
      bind_of_eq_some rfl rfl
  have hgroups := array?_array fun (group : GroupConfig) (_ : group ∈ config.groups) =>
    group.deserialize_serialize
  have htunnels : (array items).array? (ServerTunnelConfig.deserialize parseAddr) =
      some config.tunnels :=
    array?_of_mapM hitems fun tunnel htunnel value hvalue =>
      ServerTunnelConfig.deserialize_of_serialize hvalue (hreadable.tunnels tunnel htunnel)
  exact bind_of_eq_some rfl <| bind_of_eq_some hquic <| bind_of_eq_some hgroups <|
    bind_of_eq_some htunnels rfl

/-! ### Which configurations can be written -/

lemma validateTunnel_numbers {groups : List String} {seen seen' : SeenTunnels}
    {tunnel : ServerTunnelConfig} (h : validateTunnel groups seen tunnel = .ok seen') :
    tunnel.maxConnections ≤ maxDataStreams ∧ tunnel.maxUdpSessions ≤ maxUdpSessions ∧
      tunnel.udpIdleSeconds ≤ maxUdpIdleSeconds := by
  obtain ⟨-, -, h⟩ := Except.exists_ok_of_bind h
  obtain ⟨⟨⟩, hchecks, -⟩ := Except.exists_ok_of_bind h
  have hconnections := Except.of_reject_ok hchecks (List.mem_of_getElem? (i := 7) rfl)
  have hsessions := Except.of_reject_ok hchecks (List.mem_of_getElem? (i := 8) rfl)
  have hidle := Except.of_reject_ok hchecks (List.mem_of_getElem? (i := 9) rfl)
  simp only [Bool.not_eq_false', Bool.and_eq_true, decide_eq_true_eq]
    at hconnections hsessions hidle
  exact ⟨hconnections.2, hsessions.2, hidle.2⟩

lemma ServerTunnelConfig.exists_serialize?_iff {tunnel : ServerTunnelConfig}
    (hconnections : tunnel.maxConnections < 2 ^ 63) (hsessions : tunnel.maxUdpSessions < 2 ^ 63)
    (hidle : tunnel.udpIdleSeconds.toNat < 2 ^ 63) :
    (∃ value, tunnel.serialize? = some value) ↔
      ∀ limit, tunnel.limitBps = some limit → limit.toNat < 2 ^ 63 := by
  constructor
  · rintro ⟨value, hvalue⟩ limit hlimit
    obtain ⟨entry, hentry, -⟩ := Option.bind_eq_some_iff.mp hvalue
    rw [hlimit] at hentry
    obtain ⟨number, hnumber, -⟩ := Option.map_eq_some_iff.mp hentry
    exact (exists_of_integer? hnumber).1
  · intro hlimit
    have hentry : ∃ entry,
        numberEntry? "limit_bps" (tunnel.limitBps.map (·.toNat)) = some entry := by
      cases hbps : tunnel.limitBps with
      | none => exact ⟨[], rfl⟩
      | some limit => exact ⟨_, Option.map_eq_some_iff.mpr ⟨_, if_pos (hlimit limit hbps), rfl⟩⟩
    obtain ⟨entry, hentry⟩ := hentry
    exact ⟨_, bind_of_eq_some hentry <| bind_of_eq_some (if_pos hconnections) <|
      bind_of_eq_some (if_pos hsessions) <| bind_of_eq_some (if_pos hidle) rfl⟩

/-- **A valid configuration can be written exactly if every limit is an integer of TOML**, and what
is written is read back. -/
theorem ServerConfig.written_iff {parseAddr : String → Option SocketAddr} {config : ServerConfig}
    (hvalid : config.validate = .ok ()) (hreadable : config.Readable parseAddr) :
    (∃ document, config.serialize? = some document ∧
        deserialize parseAddr (table document) = some config) ↔
      ∀ tunnel ∈ config.tunnels, ∀ limit, tunnel.limitBps = some limit → limit.toNat < 2 ^ 63 := by
  have hnumbers : ∀ tunnel ∈ config.tunnels, tunnel.maxConnections ≤ maxDataStreams ∧
      tunnel.maxUdpSessions ≤ maxUdpSessions ∧ tunnel.udpIdleSeconds ≤ maxUdpIdleSeconds := by
    obtain ⟨-, -, hvalid⟩ := Except.exists_ok_of_bind hvalid
    obtain ⟨groups, -, hvalid⟩ := Except.exists_ok_of_bind hvalid
    obtain ⟨seen, htunnels, -⟩ := Except.exists_ok_of_bind hvalid
    exact Except.foldlM_forall htunnels fun _ _ _ hround => validateTunnel_numbers hround
  have hwritten : ∀ tunnel ∈ config.tunnels, (∃ value, tunnel.serialize? = some value) ↔
      ∀ limit, tunnel.limitBps = some limit → limit.toNat < 2 ^ 63 := by
    intro tunnel htunnel
    obtain ⟨hconnections, hsessions, hidle⟩ := hnumbers tunnel htunnel
    have hidle' : tunnel.udpIdleSeconds.toNat ≤ 3600 := hidle
    exact ServerTunnelConfig.exists_serialize?_iff
      (Nat.lt_of_le_of_lt hconnections (by decide)) (Nat.lt_of_le_of_lt hsessions (by decide))
      (Nat.lt_of_le_of_lt hidle' (by decide))
  rw [← forall₂_congr hwritten, ← exists_mapM_iff]
  constructor
  · rintro ⟨document, hdocument, -⟩
    obtain ⟨items, hitems, -⟩ := Option.bind_eq_some_iff.mp hdocument
    exact ⟨items, hitems⟩
  · rintro ⟨items, hitems⟩
    have hdocument : config.serialize? = some
        [("quic", config.quic.serialize), ("groups", array (config.groups.map (·.serialize))),
          ("tunnels", array items)] := bind_of_eq_some hitems rfl
    exact ⟨_, hdocument, deserialize_of_serialize hdocument hreadable⟩

/-- A tunnel with a limit of so many bytes a second. -/
def limitedConfig (limit : UInt64) : ServerConfig where
  quic := ⟨⟨.v4 0, 2333⟩, "/etc/gaterust/tunnel/server.pem", "/etc/gaterust/tunnel/server-key.pem"⟩
  groups := [⟨"office", "0123456789abcdef0123456789abcdef"⟩]
  tunnels :=
    [⟨"ssh", "office", .tcp, ⟨.v4 0, 22022⟩, "127.0.0.1", some 22, some limit, 128, 128, 60⟩]

theorem ServerConfig.written_limited :
    (∃ document, (limitedConfig 9223372036854775807).serialize? = some document ∧
        deserialize parseSocketAddr (table document) = some (limitedConfig 9223372036854775807)) ∧
      ¬∃ document, (limitedConfig 9223372036854775808).serialize? = some document ∧
        deserialize parseSocketAddr (table document) =
          some (limitedConfig 9223372036854775808) := by
  have hreadable (limit : UInt64) (hlimit : limit ≠ 0) :
      (limitedConfig limit).Readable parseSocketAddr := by
    refine readable_parseSocketAddr fun tunnel hmem => ?_
    rw [List.mem_singleton.mp hmem]
    exact ⟨fun h => absurd (Option.some.inj h) (by decide), fun h => hlimit (Option.some.inj h)⟩
  have hfits : ∀ tunnel ∈ (limitedConfig 9223372036854775807).tunnels, ∀ limit,
      tunnel.limitBps = some limit → limit.toNat < 2 ^ 63 := by
    intro tunnel hmem limit hlimit
    rw [List.mem_singleton.mp hmem] at hlimit
    rw [← Option.some.inj hlimit]
    decide +kernel
  constructor
  · exact (written_iff (by decide +kernel) (hreadable _ (by decide +kernel))).mpr hfits
  · intro hwritten
    have hlimits := (written_iff (by decide +kernel) (hreadable _ (by decide +kernel))).mp hwritten
    exact absurd (hlimits _ (List.mem_singleton_self _) _ rfl) (by decide +kernel)

end GateRust.Tunnel
