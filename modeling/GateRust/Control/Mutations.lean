/-
# The changes of a configuration

The operations of `ConfigStore` that change a configuration file, each a closure that
`mutate_tunnel` or `mutate_proxy` runs on what the file contains, and what a single one of them
does to the file.
-/
import GateRust.Lib.KeyedList
import GateRust.Control.Store
import GateRust.Tunnel.ServerConfig
import GateRust.Proxy.NormalForm

namespace GateRust.Control

open Tunnel (ServerQuicConfig GroupConfig ServerTunnelConfig ServerConfig TunnelError)
open Proxy (AcmeProvider AcmeEnvironment KeyAlgorithm AcmeAccountConfig DnsProvider DnsAccountConfig
  CertificateConfig RouteConfig ProxyListenerConfig ProxyConfig Uri)
open KeyedList (ChangedAt)

/-! ## Named resources -/

section Named

variable {α : Type}

/-- The first item with the name is changed. -/
def modifyNamed (key : α → String) (name kind : String) (change : α → α) (items : List α) :
    Except ControlError (List α) :=
  match items.findIdx? (fun item => key item = name) with
  | some i => .ok (items.modify i change)
  | none => .error (.resourceNotFound kind name)

def replaceNamed (key : α → String) (originalName kind : String) (replacement : α)
    (items : List α) : Except ControlError (List α) :=
  modifyNamed key originalName kind (fun _ => replacement) items

def removeNamed (key : α → String) (target kind : String) (items : List α) :
    Except ControlError (List α) :=
  let kept := items.filter fun item => key item ≠ target
  if kept.length = items.length then .error (.resourceNotFound kind target) else .ok kept

variable {key : α → String} {name kind : String} {items items' : List α}

lemma modifyNamed_ok {change : α → α} (hnodup : (items.map key).Nodup)
    (h : modifyNamed key name kind change items = .ok items') :
    ChangedAt key name (fun old => some (change old)) items items' := by
  unfold modifyNamed at h
  split at h
  case h_1 i hi =>
    cases h
    exact .of_modify hnodup hi
  case h_2 => cases h

lemma removeNamed_ok (hnodup : (items.map key).Nodup)
    (h : removeNamed key name kind items = .ok items') :
    ChangedAt key name (fun _ => none) items items' := by
  simp only [removeNamed] at h
  split at h
  case isTrue => cases h
  case isFalse hlength =>
    cases h
    exact .of_filter hnodup hlength

end Named

/-! ## The tunnel server -/

def setTunnelQuic (quic : ServerQuicConfig) : Mutation ServerConfig := fun config =>
  .ok { config with quic }

def createGroup (group : GroupConfig) : Mutation ServerConfig := fun config =>
  .ok { config with groups := config.groups ++ [group] }

def updateGroup (originalName : String) (group : GroupConfig) : Mutation ServerConfig :=
  fun config => do
    let groups ← replaceNamed (·.name) originalName "分组" group config.groups
    let tunnels :=
      if originalName ≠ group.name then
        config.tunnels.map fun tunnel =>
          if tunnel.group = originalName then { tunnel with group := group.name } else tunnel
      else config.tunnels
    return { config with groups, tunnels }

def deleteGroup (name : String) : Mutation ServerConfig := fun config => do
  let groups ← removeNamed (·.name) name "分组" config.groups
  return { config with
    groups, tunnels := config.tunnels.filter fun tunnel => tunnel.group ≠ name }

def createTunnel (tunnel : ServerTunnelConfig) : Mutation ServerConfig := fun config =>
  .ok { config with tunnels := config.tunnels ++ [tunnel] }

def updateTunnelConfig (originalName : String) (tunnel : ServerTunnelConfig) :
    Mutation ServerConfig := fun config => do
  let tunnels ← replaceNamed (·.name) originalName "隧道" tunnel config.tunnels
  return { config with tunnels }

def deleteTunnelConfig (name : String) : Mutation ServerConfig := fun config => do
  let tunnels ← removeNamed (·.name) name "隧道" config.tunnels
  return { config with tunnels }

/-! ## The proxy -/

structure AcmeAccountRequest where
  id : String
  name : String
  provider : AcmeProvider
  environment : AcmeEnvironment
  email : String
  keyAlgorithm : KeyAlgorithm
  eabKeyId : Option String
  eabHmacKey : Option String

structure DnsAccountRequest where
  id : String
  name : String
  provider : DnsProvider
  apiToken : Option String
  accessKey : Option String
  secretKey : Option String

def acmeAccountFromRequest (request : AcmeAccountRequest) : AcmeAccountConfig where
  id := request.id
  name := request.name
  provider := request.provider
  environment := request.environment
  email := request.email
  keyAlgorithm := request.keyAlgorithm
  eabKeyId := request.eabKeyId
  eabHmacKey := request.eabHmacKey

def dnsAccountFromRequest (request : DnsAccountRequest) : DnsAccountConfig where
  id := request.id
  name := request.name
  provider := request.provider
  apiToken := request.apiToken
  accessKey := request.accessKey
  secretKey := request.secretKey

def setProxyListener (listener : ProxyListenerConfig) : Mutation ProxyConfig := fun config =>
  .ok { config with proxy := listener }

def createAcmeAccount (request : AcmeAccountRequest) : Mutation ProxyConfig := fun config =>
  .ok { config with acmeAccounts := config.acmeAccounts ++ [acmeAccountFromRequest request] }

/-- The account of the request with the stored key, if both are accounts of Google Cloud. -/
def replacementAcmeAccount (request : AcmeAccountRequest) (current : AcmeAccountConfig) :
    AcmeAccountConfig :=
  let replacement := acmeAccountFromRequest request
  if replacement.provider = .googleCloud && replacement.eabHmacKey.isNone &&
      current.provider = .googleCloud then
    { replacement with eabHmacKey := current.eabHmacKey }
  else replacement

def updateAcmeAccount (id : String) (request : AcmeAccountRequest) : Mutation ProxyConfig :=
  fun config => do
    if request.id ≠ id then throw (.resourceConflict "ACME 账户 ID 创建后不可修改")
    let acmeAccounts ← modifyNamed (·.id) id "ACME 账户" (replacementAcmeAccount request)
      config.acmeAccounts
    return { config with acmeAccounts }

def deleteAcmeAccount (id : String) : Mutation ProxyConfig := fun config => do
  if config.certificates.any fun certificate => certificate.acmeAccountId = id then
    throw (.resourceConflict "ACME 账户仍被托管证书引用，不能删除")
  let acmeAccounts ← removeNamed (·.id) id "ACME 账户" config.acmeAccounts
  return { config with acmeAccounts }

def createDnsAccount (request : DnsAccountRequest) : Mutation ProxyConfig := fun config =>
  .ok { config with dnsAccounts := config.dnsAccounts ++ [dnsAccountFromRequest request] }

/-- The account of the request with the stored secrets that it omits, if the provider is the
same. -/
def replacementDnsAccount (request : DnsAccountRequest) (current : DnsAccountConfig) :
    DnsAccountConfig :=
  let replacement := dnsAccountFromRequest request
  if replacement.provider = current.provider then
    { replacement with
      apiToken := if replacement.apiToken.isNone then current.apiToken else replacement.apiToken
      accessKey := if replacement.accessKey.isNone then current.accessKey else replacement.accessKey
      secretKey :=
        if replacement.secretKey.isNone then current.secretKey else replacement.secretKey }
  else replacement

def updateDnsAccount (id : String) (request : DnsAccountRequest) : Mutation ProxyConfig :=
  fun config => do
    if request.id ≠ id then throw (.resourceConflict "DNS 账户 ID 创建后不可修改")
    let dnsAccounts ← modifyNamed (·.id) id "DNS 账户" (replacementDnsAccount request)
      config.dnsAccounts
    return { config with dnsAccounts }

def deleteDnsAccount (id : String) : Mutation ProxyConfig := fun config => do
  if config.certificates.any fun certificate =>
      certificate.validation = some (.dnsAccount id) then
    throw (.resourceConflict "DNS 账户仍被托管证书引用，不能删除")
  let dnsAccounts ← removeNamed (·.id) id "DNS 账户" config.dnsAccounts
  return { config with dnsAccounts }

/-- The check is made before the file is read. -/
def createCertificate (certificate : CertificateConfig) :
    Except ControlError (Mutation ProxyConfig) :=
  if certificate.migrationError.isSome then .error (.resourceConflict "不能通过 API 创建待迁移证书")
  else .ok fun config => .ok { config with certificates := config.certificates ++ [certificate] }

def updateCertificate (id : String) (certificate : CertificateConfig) :
    Except ControlError (Mutation ProxyConfig) :=
  if certificate.migrationError.isSome then
    .error (.resourceConflict "不能通过 API 设置证书迁移状态")
  else if certificate.id ≠ id then .error (.resourceConflict "证书 ID 创建后不可修改")
  else .ok fun config => do
    let certificates ← modifyNamed (·.id) id "证书" (fun _ => certificate) config.certificates
    return { config with certificates }

def deleteCertificate (id : String) : Mutation ProxyConfig := fun config => do
  if config.routes.any fun route => route.certificateId = some id then
    throw (.resourceConflict "证书仍被域名路由引用，不能删除")
  let certificates ← removeNamed (·.id) id "证书" config.certificates
  return { config with certificates }

def createRoute (route : RouteConfig) : Mutation ProxyConfig := fun config =>
  .ok { config with routes := config.routes ++ [route] }

def updateRoute (originalName : String) (route : RouteConfig) : Mutation ProxyConfig :=
  fun config => do
    let routes ← replaceNamed (·.name) originalName "路由" route config.routes
    return { config with routes }

def deleteRoute (name : String) : Mutation ProxyConfig := fun config => do
  let routes ← removeNamed (·.name) name "路由" config.routes
  return { config with routes }

end GateRust.Control
