/-
# Selecting tunnels on the client

`ClientRuntime::enable_tunnels` turns the names that the user selects into services: it takes
the tunnels of the last status, adds the names of all tunnels that are enabled in it, and makes
a service of each tunnel that is named.
-/
import Mathlib.Data.List.Dedup
import Mathlib.Data.List.Sort
import GateRust.Tunnel.Addresses
import GateRust.Tunnel.Protocol

namespace GateRust.Tunnel

inductive ClientError where
  | invalidOperation (message : String)
deriving DecidableEq, Repr

def defaultLocalIp : String := "127.0.0.1"

def ClientTunnel.localTarget (tunnel : ClientTunnel) : Option String :=
  if tunnel.kind = .socks5 then none
  else
    tunnel.localPort.map fun port =>
      let host := tunnel.localIp.getD defaultLocalIp
      if (parseIpv6Addr host).isSome then s!"[{host}]:{port}" else s!"{host}:{port}"

/-- The service of one selected tunnel. -/
def serviceOf (tunnel : ClientTunnel) : Except ClientError ClientServiceConfig :=
  if tunnel.state = .occupied then
    .error (.invalidOperation s!"隧道 {tunnel.name} 已被其他客户端占用")
  else
    match tunnel.kind with
    | .tcp | .udp =>
      match tunnel.localTarget with
      | some target => .ok ⟨tunnel.name, tunnel.kind, some target⟩
      | none => .error (.invalidOperation s!"隧道 {tunnel.name} 缺少本地端口配置")
    | .socks5 => .ok ⟨tunnel.name, tunnel.kind, none⟩

def servicesForSelection (tunnels : List ClientTunnel) (names : List String) :
    Except ClientError (List ClientServiceConfig) :=
  let requested := names.dedup
  if requested.isEmpty then .error (.invalidOperation "请至少选择一个空闲隧道")
  else if maxClientServices < requested.length then
    .error (.invalidOperation s!"单个客户端最多连接 {maxClientServices} 个隧道")
  else do
    let services ← (tunnels.filter fun tunnel => tunnel.name ∈ requested).mapM serviceOf
    if services.length ≠ requested.length then
      .error (.invalidOperation "选择中包含服务器未提供的隧道")
    else .ok (services.insertionSort fun left right => left.name ≤ right.name)

def servicesForEnable (tunnels : List ClientTunnel) (names : List String) :
    Except ClientError (List ClientServiceConfig) :=
  servicesForSelection tunnels
    (names ++ (tunnels.filter fun tunnel => tunnel.state = .enabled).map (·.name))

end GateRust.Tunnel
