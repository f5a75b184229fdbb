/-
# Configuration of the proxy

The data of the proxy's `config.rs`: the listeners, the accounts, the certificates that refer to
them and the routes that refer to the certificates.
-/
import GateRust.Tunnel.Config

namespace GateRust.Proxy

open Tunnel (SocketAddr)

/-- The errors of the proxy module that the modelled functions produce. -/
inductive ProxyError where
  | invalidConfig (message : String)
  | io (message : String)
  | http (message : String)
  | json (message : String)
  | tls (message : String)
  | acme (message : String)
  | dns (message : String)
  | runtime (message : String)
deriving DecidableEq, Repr

/-- The text of an error in the status of a certificate. -/
def ProxyError.display : ProxyError → String
  | .invalidConfig message => "配置无效: " ++ message
  | .io message => "I/O 错误: " ++ message
  | .http message => "HTTP 错误: " ++ message
  | .json message => "JSON 错误: " ++ message
  | .tls message => "TLS 配置失败: " ++ message
  | .acme message => "ACME 操作失败: " ++ message
  | .dns message => "DNS 操作失败: " ++ message
  | .runtime message => "代理运行时操作失败: " ++ message

inductive AcmeProvider where
  | letsEncrypt
  | googleCloud
deriving DecidableEq, Repr

inductive AcmeEnvironment where
  | production
  | staging
deriving DecidableEq, Repr

inductive KeyAlgorithm where
  | ec256
  | rsa2048
deriving DecidableEq, Repr

structure AcmeAccountConfig where
  id : String
  name : String
  provider : AcmeProvider
  environment : AcmeEnvironment
  email : String
  keyAlgorithm : KeyAlgorithm
  eabKeyId : Option String
  eabHmacKey : Option String
deriving DecidableEq, Repr

inductive DnsProvider where
  | cloudflare
  | goDaddy
  | aliyun
  | tencentCloud
deriving DecidableEq, Repr

structure DnsAccountConfig where
  id : String
  name : String
  provider : DnsProvider
  apiToken : Option String
  accessKey : Option String
  secretKey : Option String
deriving DecidableEq, Repr

inductive CertificateValidation where
  | dnsAccount (dnsAccountId : String)
  | manual
deriving DecidableEq, Repr

structure CertificateConfig where
  id : String
  name : String
  domains : List String
  acmeAccountId : String
  validation : Option CertificateValidation
  autoRenew : Bool
  migrationError : Option String
deriving DecidableEq, Repr

structure RouteConfig where
  name : String
  host : String
  pathPrefix : String
  upstream : String
  certificateId : Option String
deriving DecidableEq, Repr

/-- The directory of the cache is a text, and two texts are taken for two directories: it is
supposed to be spelled in one way, where the source compares the components, as in `a//b` and
`a/b`. -/
structure ProxyListenerConfig where
  httpBind : SocketAddr
  httpsBind : SocketAddr
  cacheDir : String
  maxConnections : ℕ
deriving DecidableEq, Repr

structure ProxyConfig where
  proxy : ProxyListenerConfig
  acmeAccounts : List AcmeAccountConfig
  dnsAccounts : List DnsAccountConfig
  certificates : List CertificateConfig
  routes : List RouteConfig
deriving DecidableEq, Repr

end GateRust.Proxy
