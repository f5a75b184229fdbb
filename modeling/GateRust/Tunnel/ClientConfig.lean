/-
# Validation of the client configuration

`ClientConfig::validate`: the checks of the key, of the server and of the services, in their
order, with the texts of their errors.
-/
import GateRust.Tunnel.ClientRequests

namespace GateRust.Tunnel

/-- The host of a server address: what is between brackets, or what is before the only colon. -/
def addressHost (address : String) : Option String :=
  match address.toList with
  | '[' :: bracketed =>
    match bracketed.span (· ≠ ']') with
    | (host, _ :: _) => some (.ofList host)
    | (_, []) => none
  | chars =>
    match chars.reverse.span (· ≠ ':') with
    | (port, _ :: host) =>
      if !host.isEmpty && !port.isEmpty && !host.contains ':' then some (.ofList host.reverse)
      else none
    | (_, []) => none

namespace ClientConfig

def serverName (config : ClientConfig) : Except TunnelError String :=
  match config.server.name with
  | some name =>
    if name = "" then .error (.invalidConfig "TLS 服务器名称不能为空") else .ok name
  | none =>
    match addressHost config.server.address with
    | some host => .ok host
    | none => .error (.invalidConfig "无法从服务器地址推导 TLS 服务器名称")

def validate (config : ClientConfig) : Except TunnelError Unit := do
  reject
    [(!validateGroupKey config.key,
        s!"分组密钥长度必须为 {minGroupKeyLength}..={maxGroupKeyLength} 个字符"),
      (config.server.address = "", "QUIC 服务器地址不能为空")]
  let _ ← config.serverName
  validateClientServices config.services

end ClientConfig

example : addressHost "[::1]:4433" = some "::1" := by decide +kernel

example : addressHost "gate.example:4433" = some "gate.example" := by decide +kernel

example : addressHost "::1:4433" = none := by decide +kernel

end GateRust.Tunnel
