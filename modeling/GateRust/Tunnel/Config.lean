/-
# Configuration of the tunnel server and the tunnel client

The data of `config.rs` that the tunnel runtime and the client loop work with, and the
predicates on it that they use.
-/
import Mathlib.Tactic.Common

namespace GateRust.Tunnel

inductive TunnelKind where
  | tcp
  | udp
  | socks5
deriving DecidableEq, Repr

inductive IpAddr where
  | v4 (bits : BitVec 32)
  | v6 (bits : BitVec 128)
deriving DecidableEq, Repr

/-- A socket address.  The scope id and the flow information of an IPv6 address are left out: the
first is zero unless the text has one behind a `%`, the second is zero in a parsed address. -/
structure SocketAddr where
  ip : IpAddr
  port : UInt16
deriving DecidableEq, Repr

/-- A tunnel of the server configuration. -/
structure ServerTunnelConfig where
  name : String
  group : String
  kind : TunnelKind
  bind : SocketAddr
  localIp : String
  localPort : Option UInt16
  limitBps : Option UInt64
  maxConnections : ℕ
  maxUdpSessions : ℕ
  udpIdleSeconds : UInt64
deriving DecidableEq, Repr

def ServerTunnelConfig.clientLocalPort (c : ServerTunnelConfig) : Option UInt16 :=
  match c.kind with
  | .tcp | .udp => some (c.localPort.getD c.bind.port)
  | .socks5 => none

def ServerTunnelConfig.clientLocalIp (c : ServerTunnelConfig) : Option String :=
  if c.kind ≠ .socks5 then some c.localIp else none

structure GroupConfig where
  name : String
  key : String
deriving DecidableEq, Repr

/-- The paths are texts, and two texts are taken for two paths: a path is supposed to be spelled in
one way, where the source compares the components, as in `a//b` and `a/b`. -/
structure ServerQuicConfig where
  bind : SocketAddr
  certificate : String
  privateKey : String
deriving DecidableEq, Repr

structure ServerConfig where
  quic : ServerQuicConfig
  groups : List GroupConfig
  tunnels : List ServerTunnelConfig
deriving DecidableEq, Repr

/-- The bytes of a group key. -/
abbrev GroupSecret := List UInt8

structure ClientServerConfig where
  address : String
  name : Option String
  caCertificate : Option String
deriving DecidableEq, Repr

structure ClientServiceConfig where
  name : String
  kind : TunnelKind
  target : Option String
deriving DecidableEq, Repr

structure ClientConfig where
  key : String
  server : ClientServerConfig
  services : List ClientServiceConfig
deriving DecidableEq, Repr

def minGroupKeyLength : ℕ := 32
def maxGroupKeyLength : ℕ := 124
def maxClientServices : ℕ := 256

/-- `validate_group_key`: only the first 125 characters are counted. -/
def validateGroupKey (value : String) : Bool :=
  let length := (value.toList.take (maxGroupKeyLength + 1)).length
  decide (minGroupKeyLength ≤ length ∧ length ≤ maxGroupKeyLength)

/-- The bytes allowed in the names of services, tunnels, groups and devices. -/
def nameByte (byte : UInt8) : Bool :=
  let c := Char.ofNat byte.toNat
  c.isAlphanum || c = '-' || c = '_'

/-- The length and the alphabet that names and device ids share. -/
def validName (name : String) : Bool :=
  name ≠ "" && name.utf8ByteSize ≤ 64 && name.toUTF8.toList.all nameByte

/-- `validate_device_id` of `identity.rs`. -/
def validateDeviceId (id : String) : Bool := validName id

end GateRust.Tunnel
