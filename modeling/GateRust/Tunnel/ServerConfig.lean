/-
# Validation of the server configuration

`ServerConfig::validate`: the checks of the groups and of the tunnels, in their order, with the
texts of their errors.  The sets that the checks fill are part of the state of the loop.
-/
import GateRust.Lib.Results
import GateRust.Tunnel.Addresses
import GateRust.Tunnel.Protocol

namespace GateRust.Tunnel

def maxDataStreams : ℕ := 512
def maxUdpSessions : ℕ := 128
def maxUdpIdleSeconds : UInt64 := 3600

inductive Transport where
  | tcp
  | udp
deriving DecidableEq, Repr

/-- Where a tunnel listens: TCP and SOCKS5 tunnels share one set of addresses, UDP tunnels have
another one. -/
def ServerTunnelConfig.endpoint (c : ServerTunnelConfig) : Transport × SocketAddr :=
  match c.kind with
  | .tcp | .socks5 => (.tcp, c.bind)
  | .udp => (.udp, c.bind)

/-- The first check that fails makes the configuration invalid. -/
def reject (checks : List (Bool × String)) : Except TunnelError Unit :=
  Except.reject .invalidConfig checks

def validateName (kind name : String) : Except TunnelError Unit :=
  reject
    [(name = "" || 64 < name.utf8ByteSize, s!"{kind}名称长度必须为 1..=64"),
      (!name.toUTF8.toList.all nameByte, s!"{kind}名称只能包含 ASCII 字母、数字、- 和 _")]

/-- The groups and keys that were checked. -/
structure SeenGroups where
  names : List String
  keys : List String

def validateGroup (seen : SeenGroups) (group : GroupConfig) : Except TunnelError SeenGroups := do
  validateName "分组" group.name
  reject
    [(group.name ∈ seen.names, s!"分组名称重复: {group.name}"),
      (!validateGroupKey group.key,
        s!"分组密钥长度必须为 {minGroupKeyLength}..={maxGroupKeyLength} 个字符"),
      (group.key ∈ seen.keys, "不同分组不能使用相同密钥")]
  return ⟨group.name :: seen.names, group.key :: seen.keys⟩

/-- The tunnels that were checked: their names, their groups and where they listen. -/
structure SeenTunnels where
  names : List String
  groups : List String
  endpoints : List (Transport × SocketAddr)

def validateTunnel (groups : List String) (seen : SeenTunnels) (tunnel : ServerTunnelConfig) :
    Except TunnelError SeenTunnels := do
  validateName "隧道" tunnel.name
  reject
    [(tunnel.name ∈ seen.names, s!"隧道名称重复: {tunnel.name}"),
      (tunnel.group ∉ groups, s!"隧道 {tunnel.name} 引用了不存在的分组 {tunnel.group}"),
      (maxClientServices < seen.groups.count tunnel.group + 1,
        s!"分组 {tunnel.group} 的隧道不能超过 {maxClientServices} 个"),
      (tunnel.bind.port = 0, s!"隧道 {tunnel.name} 的监听端口不能为 0"),
      (tunnel.kind = .socks5 && tunnel.localPort.isSome,
        s!"SOCKS5 隧道 {tunnel.name} 不应配置 local_port"),
      (tunnel.kind ≠ .socks5 && tunnel.localIp ≠ "localhost" &&
          (parseIpAddr tunnel.localIp).isNone,
        s!"隧道 {tunnel.name} 的 local_ip 必须为 localhost 或有效 IP 地址"),
      (tunnel.kind = .socks5 && !tunnel.bind.ip.isLoopback,
        s!"未配置认证的 SOCKS5 隧道 {tunnel.name} 只能监听回环地址"),
      (!(1 ≤ tunnel.maxConnections && tunnel.maxConnections ≤ maxDataStreams),
        s!"隧道 {tunnel.name} 的 max_connections 必须为 1..={maxDataStreams}"),
      (!(1 ≤ tunnel.maxUdpSessions && tunnel.maxUdpSessions ≤ maxUdpSessions),
        s!"隧道 {tunnel.name} 的 max_udp_sessions 必须为 1..={maxUdpSessions}"),
      (!(1 ≤ tunnel.udpIdleSeconds && tunnel.udpIdleSeconds ≤ maxUdpIdleSeconds),
        s!"隧道 {tunnel.name} 的 udp_idle_seconds 必须为 1..={maxUdpIdleSeconds}"),
      (tunnel.endpoint ∈ seen.endpoints, s!"监听地址重复: {tunnel.bind.display}")]
  return ⟨tunnel.name :: seen.names, tunnel.group :: seen.groups,
    tunnel.endpoint :: seen.endpoints⟩

def ServerConfig.validate (config : ServerConfig) : Except TunnelError Unit := do
  reject [(256 < config.groups.length || 1024 < config.tunnels.length,
    "分组不能超过 256 个，隧道不能超过 1024 个")]
  let groups ← config.groups.foldlM validateGroup ⟨[], []⟩
  let _ ← config.tunnels.foldlM (validateTunnel groups.names) ⟨[], [], []⟩
  return ()

/-! ## What a validated configuration has -/

/-- The tunnels of a configuration that passed the validation. -/
def ValidTunnels (tunnels : List ServerTunnelConfig) : Prop :=
  ∃ config : ServerConfig, config.validate = .ok () ∧ config.tunnels = tunnels

lemma validateTunnel_ok {groups : List String} {seen seen' : SeenTunnels}
    {tunnel : ServerTunnelConfig} (h : validateTunnel groups seen tunnel = .ok seen') :
    tunnel.name ∉ seen.names ∧ tunnel.endpoint ∉ seen.endpoints ∧
      seen' = ⟨tunnel.name :: seen.names, tunnel.group :: seen.groups,
        tunnel.endpoint :: seen.endpoints⟩ := by
  obtain ⟨-, -, h⟩ := Except.exists_ok_of_bind h
  obtain ⟨⟨⟩, hchecks, h⟩ := Except.exists_ok_of_bind h
  cases h
  have hname := Except.of_reject_ok hchecks List.mem_cons_self
  have hend := Except.of_reject_ok hchecks (List.mem_of_getLast? rfl)
  exact ⟨by simpa using hname, by simpa using hend, rfl⟩

/-- What the loop over the tunnels has seen, it has seen once. -/
structure SeenTunnels.Once (tunnels : List ServerTunnelConfig) (seen : SeenTunnels) : Prop where
  names : seen.names.Perm (tunnels.map (·.name))
  endpoints : seen.endpoints.Perm (tunnels.map (·.endpoint))
  names_nodup : seen.names.Nodup
  endpoints_nodup : seen.endpoints.Nodup

lemma SeenTunnels.Once.snoc {tunnels : List ServerTunnelConfig} {seen seen' : SeenTunnels}
    {groups : List String} {tunnel : ServerTunnelConfig} (h : seen.Once tunnels)
    (hvalid : validateTunnel groups seen tunnel = .ok seen') :
    seen'.Once (tunnels ++ [tunnel]) := by
  obtain ⟨hname, hend, rfl⟩ := validateTunnel_ok hvalid
  constructor
  · rw [List.map_append]
    exact (h.names.cons tunnel.name).trans (List.perm_append_singleton _ _).symm
  · rw [List.map_append]
    exact (h.endpoints.cons tunnel.endpoint).trans (List.perm_append_singleton _ _).symm
  · exact List.nodup_cons.mpr ⟨hname, h.names_nodup⟩
  · exact List.nodup_cons.mpr ⟨hend, h.endpoints_nodup⟩

/-- The names of the tunnels differ, and so do the endpoints they listen on. -/
lemma ValidTunnels.nodup {tunnels : List ServerTunnelConfig} (h : ValidTunnels tunnels) :
    (tunnels.map (·.name)).Nodup ∧ (tunnels.map (·.endpoint)).Nodup := by
  obtain ⟨config, hvalid, rfl⟩ := h
  obtain ⟨-, -, hvalid⟩ := Except.exists_ok_of_bind hvalid
  obtain ⟨groups, -, hvalid⟩ := Except.exists_ok_of_bind hvalid
  obtain ⟨seen, htunnels, -⟩ := Except.exists_ok_of_bind hvalid
  have honce : seen.Once config.tunnels := Except.foldlM_invariant
    (I := fun tunnels seen => seen.Once tunnels) htunnels
    ⟨.nil, .nil, List.nodup_nil, List.nodup_nil⟩ fun _ _ _ _ h hvalid => h.snoc hvalid
  exact ⟨honce.names.nodup_iff.mp honce.names_nodup,
    honce.endpoints.nodup_iff.mp honce.endpoints_nodup⟩

lemma validName_of_validateName {kind name : String} (h : validateName kind name = .ok ()) :
    validName name = true := by
  have hlength := Except.of_reject_ok h List.mem_cons_self
  have hbytes := Except.of_reject_ok h (List.mem_of_getElem? (i := 1) rfl)
  simp only [Bool.or_eq_false_iff, decide_eq_false_iff_not, not_lt] at hlength
  simp only [Bool.not_eq_false'] at hbytes
  rw [validName, hbytes, Bool.and_true, Bool.and_eq_true, decide_eq_true_iff, decide_eq_true_iff]
  exact hlength

/-- The text of the local address of a tunnel. -/
def ServerTunnelConfig.LocalIpValid (c : ServerTunnelConfig) : Prop :=
  c.kind ≠ .socks5 → c.localIp = "localhost" ∨ ∃ ip, parseIpAddr c.localIp = some ip

lemma validateTunnel_checks {groups : List String} {seen seen' : SeenTunnels}
    {tunnel : ServerTunnelConfig} (h : validateTunnel groups seen tunnel = .ok seen') :
    validName tunnel.name = true ∧ tunnel.LocalIpValid ∧
      seen.groups.count tunnel.group + 1 ≤ maxClientServices := by
  obtain ⟨⟨⟩, hname, h⟩ := Except.exists_ok_of_bind h
  obtain ⟨⟨⟩, hchecks, -⟩ := Except.exists_ok_of_bind h
  have hcount := Except.of_reject_ok hchecks (List.mem_of_getElem? (i := 2) rfl)
  have hip := Except.of_reject_ok hchecks (List.mem_of_getElem? (i := 5) rfl)
  refine ⟨validName_of_validateName hname, fun hkind => ?_, by simpa using hcount⟩
  by_cases hlocal : tunnel.localIp = "localhost"
  · exact .inl hlocal
  · simp only [hkind, hlocal, ne_eq, not_false_eq_true, decide_true, Bool.true_and,
      Option.isNone_eq_false_iff] at hip
    exact .inr (Option.isSome_iff_exists.mp hip)

/-- The names and the local addresses of the tunnels are well formed. -/
lemma ValidTunnels.forall_checked {tunnels : List ServerTunnelConfig} (h : ValidTunnels tunnels) :
    ∀ tunnel ∈ tunnels, validName tunnel.name = true ∧ tunnel.LocalIpValid := by
  obtain ⟨config, hvalid, rfl⟩ := h
  obtain ⟨-, -, hvalid⟩ := Except.exists_ok_of_bind hvalid
  obtain ⟨groups, -, hvalid⟩ := Except.exists_ok_of_bind hvalid
  obtain ⟨seen, htunnels, -⟩ := Except.exists_ok_of_bind hvalid
  refine Except.foldlM_forall htunnels fun _ _ _ hround => ?_
  obtain ⟨hname, hip, -⟩ := validateTunnel_checks hround
  exact ⟨hname, hip⟩

/-- No group has more tunnels than a client may declare. -/
lemma ValidTunnels.group_count_le {tunnels : List ServerTunnelConfig} (h : ValidTunnels tunnels)
    (group : String) : (tunnels.map (·.group)).count group ≤ maxClientServices := by
  obtain ⟨config, hvalid, rfl⟩ := h
  obtain ⟨-, -, hvalid⟩ := Except.exists_ok_of_bind hvalid
  obtain ⟨groups, -, hvalid⟩ := Except.exists_ok_of_bind hvalid
  obtain ⟨seen, htunnels, -⟩ := Except.exists_ok_of_bind hvalid
  refine And.right (@Except.foldlM_invariant _ _ _ _ _ _ _ (fun done seen =>
    seen.groups.Perm (done.map (·.group)) ∧
      (done.map (·.group)).count group ≤ maxClientServices) htunnels ⟨.nil, Nat.zero_le _⟩ ?_)
  rintro done tunnel t t' ⟨hperm, hle⟩ hround
  obtain ⟨-, -, hcount⟩ := validateTunnel_checks hround
  obtain ⟨-, -, rfl⟩ := validateTunnel_ok hround
  rw [List.map_append, List.map_singleton]
  refine ⟨(hperm.cons tunnel.group).trans (List.perm_append_singleton _ _).symm, ?_⟩
  rw [List.count_append, List.count_singleton]
  by_cases heq : tunnel.group = group
  · subst heq
    rw [hperm.count_eq] at hcount
    simpa using hcount
  · simpa [heq] using hle

lemma validateGroup_ok {seen seen' : SeenGroups} {group : GroupConfig}
    (h : validateGroup seen group = .ok seen') :
    group.name ∉ seen.names ∧ seen'.names = group.name :: seen.names := by
  obtain ⟨-, -, h⟩ := Except.exists_ok_of_bind h
  obtain ⟨⟨⟩, hchecks, h⟩ := Except.exists_ok_of_bind h
  cases h
  have hname := Except.of_reject_ok hchecks List.mem_cons_self
  exact ⟨by simpa using hname, rfl⟩

/-- The names of the groups differ. -/
lemma ServerConfig.groups_nodup {config : ServerConfig} (h : config.validate = .ok ()) :
    (config.groups.map (·.name)).Nodup := by
  obtain ⟨-, -, h⟩ := Except.exists_ok_of_bind h
  obtain ⟨groups, hgroups, -⟩ := Except.exists_ok_of_bind h
  exact Except.foldlM_nodup (o := SeenGroups.names) hgroups rfl fun _ _ _ h => validateGroup_ok h

end GateRust.Tunnel
