/-
# The sockets of a server configuration

The server opens one UDP socket for its QUIC endpoint and one socket for each tunnel, a UDP one
for the UDP tunnels and a TCP one for the others.  The validation keeps two sets of addresses,
one for each transport, and fills them with the addresses of the tunnels only: the address of
the endpoint is in neither of them.
-/
import GateRust.Tunnel.ServerConfig

namespace GateRust.Tunnel

/-- `QuicEndpoint::bind`: the socket of the endpoint. -/
def ServerQuicConfig.endpoint (config : ServerQuicConfig) : Transport × SocketAddr :=
  (.udp, config.bind)

/-- The sockets that the server opens: the one of the endpoint, and those of `start_listener`. -/
def ServerConfig.sockets (config : ServerConfig) : List (Transport × SocketAddr) :=
  config.quic.endpoint :: config.tunnels.map (·.endpoint)

/-! ## What the checks of the groups leave -/

lemma validateGroup_key {seen seen' : SeenGroups} {group : GroupConfig}
    (h : validateGroup seen group = .ok seen') :
    group.key ∉ seen.keys ∧ seen'.keys = group.key :: seen.keys := by
  obtain ⟨-, -, h⟩ := Except.exists_ok_of_bind h
  obtain ⟨⟨⟩, hchecks, h⟩ := Except.exists_ok_of_bind h
  cases h
  have hkey := Except.of_reject_ok hchecks (List.mem_of_getLast? rfl)
  exact ⟨by simpa using hkey, rfl⟩

/-- The keys of the groups differ. -/
lemma ServerConfig.keys_nodup {config : ServerConfig} (h : config.validate = .ok ()) :
    (config.groups.map (·.key)).Nodup := by
  obtain ⟨-, -, h⟩ := Except.exists_ok_of_bind h
  obtain ⟨groups, hgroups, -⟩ := Except.exists_ok_of_bind h
  exact Except.foldlM_nodup (o := SeenGroups.keys) hgroups rfl fun _ _ _ h => validateGroup_key h

/-- The names that the loop over the groups has seen are names of groups. -/
lemma mem_groups_of_seen {groups : List GroupConfig} {seen : SeenGroups}
    (h : groups.foldlM validateGroup ⟨[], []⟩ = .ok seen) :
    ∀ name ∈ seen.names, ∃ group ∈ groups, group.name = name := by
  refine Except.foldlM_invariant
    (I := fun done seen => ∀ name ∈ seen.names, ∃ group ∈ done, group.name = name) h (by simp) ?_
  intro done group s s' hseen hround name hname
  obtain ⟨-, hnames⟩ := validateGroup_ok hround
  rw [hnames] at hname
  rcases List.mem_cons.mp hname with rfl | hname
  · exact ⟨group, by simp, rfl⟩
  · obtain ⟨group', hgroup', rfl⟩ := hseen name hname
    exact ⟨group', by simp [hgroup'], rfl⟩

/-! ## What the checks of the tunnels leave -/

lemma validateTunnel_group {groups : List String} {seen seen' : SeenTunnels}
    {tunnel : ServerTunnelConfig} (h : validateTunnel groups seen tunnel = .ok seen') :
    tunnel.group ∈ groups ∧ (tunnel.kind = .socks5 → tunnel.bind.ip.isLoopback = true) := by
  obtain ⟨-, -, h⟩ := Except.exists_ok_of_bind h
  obtain ⟨⟨⟩, hchecks, -⟩ := Except.exists_ok_of_bind h
  have hgroup := Except.of_reject_ok hchecks (List.mem_of_getElem? (i := 1) rfl)
  have hloopback := Except.of_reject_ok hchecks (List.mem_of_getElem? (i := 6) rfl)
  refine ⟨by simpa using hgroup, fun hkind => ?_⟩
  simpa [hkind] using hloopback

/-- A tunnel of a validated configuration belongs to one of its groups, and it listens on a
loopback address when it is a SOCKS5 tunnel. -/
lemma ServerConfig.forall_tunnel {config : ServerConfig} (h : config.validate = .ok ()) :
    ∀ tunnel ∈ config.tunnels, (∃ group ∈ config.groups, group.name = tunnel.group) ∧
      (tunnel.kind = .socks5 → tunnel.bind.ip.isLoopback = true) := by
  obtain ⟨-, -, h⟩ := Except.exists_ok_of_bind h
  obtain ⟨groups, hgroups, h⟩ := Except.exists_ok_of_bind h
  obtain ⟨seen, htunnels, -⟩ := Except.exists_ok_of_bind h
  refine Except.foldlM_forall htunnels fun _ _ _ hround => ?_
  obtain ⟨hgroup, hloopback⟩ := validateTunnel_group hround
  exact ⟨mem_groups_of_seen hgroups _ hgroup, hloopback⟩

lemma ServerConfig.endpoint_ne_quic_iff {config : ServerConfig} {tunnel : ServerTunnelConfig} :
    tunnel.endpoint ≠ config.quic.endpoint ↔
      (tunnel.kind = .udp → tunnel.bind ≠ config.quic.bind) := by
  cases hkind : tunnel.kind <;> simp [ServerTunnelConfig.endpoint, ServerQuicConfig.endpoint, hkind]

/-! ## Self-consistent configurations -/

/-- What a configuration promises to the code that binds its sockets and serves its groups. -/
structure ServerConfig.SelfConsistent (config : ServerConfig) : Prop where
  /-- No two sockets have one transport and one address. -/
  sockets : config.sockets.Nodup
  tunnelNames : (config.tunnels.map (·.name)).Nodup
  groupNames : (config.groups.map (·.name)).Nodup
  groupKeys : (config.groups.map (·.key)).Nodup
  groups : ∀ tunnel ∈ config.tunnels, ∃ group ∈ config.groups, group.name = tunnel.group
  groupSizes : ∀ name, (config.tunnels.filter (·.group = name)).length ≤ 256
  loopback : ∀ tunnel ∈ config.tunnels, tunnel.kind = .socks5 →
    tunnel.bind.ip.isLoopback = true

/-- The sockets of a validated configuration differ exactly when no UDP tunnel is on the address
of the endpoint. -/
lemma ServerConfig.sockets_nodup_iff {config : ServerConfig} (h : config.validate = .ok ()) :
    config.sockets.Nodup ↔
      ∀ tunnel ∈ config.tunnels, tunnel.kind = .udp → tunnel.bind ≠ config.quic.bind := by
  obtain ⟨-, hends⟩ := ValidTunnels.nodup ⟨config, h, rfl⟩
  rw [sockets, List.nodup_cons, and_iff_left hends]
  constructor
  · intro hquic tunnel htunnel
    refine endpoint_ne_quic_iff.mp fun heq => hquic ?_
    exact List.mem_map.mpr ⟨tunnel, htunnel, heq⟩
  · intro hfree hquic
    obtain ⟨tunnel, htunnel, heq⟩ := List.mem_map.mp hquic
    exact endpoint_ne_quic_iff.mpr (hfree tunnel htunnel) heq

/-- **A validated configuration is self-consistent exactly when no UDP tunnel listens on the
address of the QUIC endpoint.**  Everything else that it promises, the validation has checked. -/
theorem ServerConfig.selfConsistent_iff {config : ServerConfig} (h : config.validate = .ok ()) :
    config.SelfConsistent ↔
      ∀ tunnel ∈ config.tunnels, tunnel.kind = .udp → tunnel.bind ≠ config.quic.bind := by
  constructor
  · intro hconsistent
    exact (sockets_nodup_iff h).mp hconsistent.sockets
  · intro hfree
    obtain ⟨hnames, -⟩ := ValidTunnels.nodup ⟨config, h, rfl⟩
    constructor
    case sockets => exact (sockets_nodup_iff h).mpr hfree
    case tunnelNames => exact hnames
    case groupNames => exact groups_nodup h
    case groupKeys => exact keys_nodup h
    case groups => exact fun tunnel htunnel => (forall_tunnel h tunnel htunnel).1
    case groupSizes =>
      intro name
      have hcount := ValidTunnels.group_count_le ⟨config, h, rfl⟩ name
      rwa [List.count, List.countP_map, List.countP_eq_length_filter] at hcount
    case loopback => exact fun tunnel htunnel => (forall_tunnel h tunnel htunnel).2

/-- A group with one tunnel of each kind on the loopback addresses, the UDP one on the given
port, and the endpoint on port 7000. -/
def oneOfEachKind (udpPort : UInt16) : ServerConfig where
  quic := ⟨⟨.v4 0x7F000001, 7000⟩, "server.crt", "server.key"⟩
  groups := [⟨"home", "0123456789abcdef0123456789abcdef"⟩]
  tunnels :=
    [⟨"dns", "home", .udp, ⟨.v4 0x7F000001, udpPort⟩, "127.0.0.1", none, none, 128, 128, 60⟩,
      ⟨"web", "home", .tcp, ⟨.v4 0x7F000001, 7000⟩, "127.0.0.1", none, none, 128, 128, 60⟩,
      ⟨"proxy", "home", .socks5, ⟨.v4 0x7F000001, 1080⟩, "127.0.0.1", none, none, 128, 128, 60⟩]

/-- On another port than the one of the endpoint, the UDP tunnel does no harm. -/
theorem oneOfEachKind_selfConsistent :
    (oneOfEachKind 53).SelfConsistent ∧ ¬ (oneOfEachKind 7000).SelfConsistent :=
  ⟨(ServerConfig.selfConsistent_iff (by decide +kernel)).mpr (by decide +kernel),
    mt (ServerConfig.selfConsistent_iff (by decide +kernel)).mp (by decide +kernel)⟩

/-- A configuration with a UDP tunnel on the address of the endpoint passes the validation. -/
theorem validate_not_selfConsistent :
    ¬ ∀ config : ServerConfig, config.validate = .ok () → config.SelfConsistent := by
  intro hall
  have hsockets := (hall (oneOfEachKind 7000) (by decide +kernel)).sockets
  exact absurd hsockets (by decide +kernel)

end GateRust.Tunnel
