/-
# The configuration file of the proxy

How the structures of `config.rs` are read from the values of a TOML document and written to them:
the fields under their names in the file, with their defaults.
-/
import GateRust.Lib.Toml
import GateRust.Proxy.Config
import GateRust.Tunnel.Addresses

namespace GateRust.Proxy

open Toml
open Tunnel (SocketAddr)

/-! ## Names in the file -/

def AcmeProvider.name : AcmeProvider → String
  | .letsEncrypt => "lets_encrypt"
  | .googleCloud => "google_cloud"

def AcmeEnvironment.name : AcmeEnvironment → String
  | .production => "production"
  | .staging => "staging"

def KeyAlgorithm.name : KeyAlgorithm → String
  | .ec256 => "ec256"
  | .rsa2048 => "rsa2048"

def DnsProvider.name : DnsProvider → String
  | .cloudflare => "cloudflare"
  | .goDaddy => "go_daddy"
  | .aliyun => "aliyun"
  | .tencentCloud => "tencent_cloud"

/-! ## Reading -/

/-- The numbers that fit into a `usize`. -/
def usizeBound : ℕ := 2 ^ 64

def defaultMaxConnections : ℕ := 2048

def defaultPathPrefix : String := "/"

def AcmeAccountConfig.deserialize (value : Toml) : Option AcmeAccountConfig := do
  let fields ← value.fields?
    ["id", "name", "provider", "environment", "email", "key_algorithm", "eab_key_id",
      "eab_hmac_key"]
  let id ← fields.required "id" string?
  let name ← fields.required "name" string?
  let provider ← fields.required "provider"
    (variant? AcmeProvider.name [.letsEncrypt, .googleCloud])
  let environment ← fields.required "environment"
    (variant? AcmeEnvironment.name [.production, .staging])
  let email ← fields.required "email" string?
  let keyAlgorithm ← fields.required "key_algorithm"
    (variant? KeyAlgorithm.name [.ec256, .rsa2048])
  let eabKeyId ← fields.optional "eab_key_id" string?
  let eabHmacKey ← fields.optional "eab_hmac_key" string?
  return { id, name, provider, environment, email, keyAlgorithm, eabKeyId, eabHmacKey }

def DnsAccountConfig.deserialize (value : Toml) : Option DnsAccountConfig := do
  let fields ← value.fields? ["id", "name", "provider", "api_token", "access_key", "secret_key"]
  let id ← fields.required "id" string?
  let name ← fields.required "name" string?
  let provider ← fields.required "provider"
    (variant? DnsProvider.name [.cloudflare, .goDaddy, .aliyun, .tencentCloud])
  let apiToken ← fields.optional "api_token" string?
  let accessKey ← fields.optional "access_key" string?
  let secretKey ← fields.optional "secret_key" string?
  return { id, name, provider, apiToken, accessKey, secretKey }

/-- The fields of a tagged variant do not deny unknown ones. -/
def CertificateValidation.deserialize (value : Toml) : Option CertificateValidation :=
  match value.tagged? "method" with
  | some ("dns_account", .table entries) =>
    ((entries.lookup "dns_account_id").bind string?).map dnsAccount
  | some ("dns_account", .array [id]) => id.string?.map dnsAccount
  | some ("manual", .table _) | some ("manual", .array []) => some manual
  | _ => none

def CertificateConfig.deserialize (value : Toml) : Option CertificateConfig := do
  let fields ← value.fields?
    ["id", "name", "domains", "acme_account_id", "validation", "auto_renew", "migration_error"]
  let id ← fields.required "id" string?
  let name ← fields.required "name" string?
  let domains ← fields.required "domains" (array? string?)
  let acmeAccountId ← fields.required "acme_account_id" string?
  let validation ← fields.optional "validation" CertificateValidation.deserialize
  let autoRenew ← fields.withDefault "auto_renew" boolean? false
  let migrationError ← fields.withDefault "migration_error" (fun text => text.string?.map some) none
  return { id, name, domains, acmeAccountId, validation, autoRenew, migrationError }

def RouteConfig.deserialize (value : Toml) : Option RouteConfig := do
  let fields ← value.fields? ["name", "host", "path_prefix", "upstream", "certificate_id"]
  let name ← fields.required "name" string?
  let host ← fields.required "host" string?
  let pathPrefix ← fields.withDefault "path_prefix" string? defaultPathPrefix
  let upstream ← fields.required "upstream" string?
  let certificateId ← fields.optional "certificate_id" string?
  return { name, host, pathPrefix, upstream, certificateId }

section Listeners

variable (parseAddr : String → Option SocketAddr)

def ProxyListenerConfig.deserialize (value : Toml) : Option ProxyListenerConfig := do
  let fields ← value.fields? ["http_bind", "https_bind", "cache_dir", "max_connections"]
  let httpBind ← fields.required "http_bind" fun text => text.string?.bind parseAddr
  let httpsBind ← fields.required "https_bind" fun text => text.string?.bind parseAddr
  let cacheDir ← fields.required "cache_dir" string?
  let maxConnections ← fields.withDefault "max_connections" (natural? usizeBound)
    defaultMaxConnections
  return { httpBind, httpsBind, cacheDir, maxConnections }

def ProxyConfig.deserialize (value : Toml) : Option ProxyConfig := do
  let fields ← value.fields? ["proxy", "acme_accounts", "dns_accounts", "certificates", "routes"]
  let proxy ← fields.required "proxy" (ProxyListenerConfig.deserialize parseAddr)
  let acmeAccounts ← fields.withDefault "acme_accounts" (array? AcmeAccountConfig.deserialize) []
  let dnsAccounts ← fields.withDefault "dns_accounts" (array? DnsAccountConfig.deserialize) []
  let certificates ← fields.withDefault "certificates" (array? CertificateConfig.deserialize) []
  let routes ← fields.withDefault "routes" (array? RouteConfig.deserialize) []
  return { proxy, acmeAccounts, dnsAccounts, certificates, routes }

end Listeners

/-! ## Writing -/

def AcmeAccountConfig.serialize (account : AcmeAccountConfig) : Toml :=
  table ([("id", string account.id), ("name", string account.name),
    ("provider", string account.provider.name), ("environment", string account.environment.name),
    ("email", string account.email), ("key_algorithm", string account.keyAlgorithm.name)] ++
    optionalEntry "eab_key_id" string account.eabKeyId ++
    optionalEntry "eab_hmac_key" string account.eabHmacKey)

def DnsAccountConfig.serialize (account : DnsAccountConfig) : Toml :=
  table ([("id", string account.id), ("name", string account.name),
    ("provider", string account.provider.name)] ++
    optionalEntry "api_token" string account.apiToken ++
    optionalEntry "access_key" string account.accessKey ++
    optionalEntry "secret_key" string account.secretKey)

def CertificateValidation.serialize : CertificateValidation → Toml
  | dnsAccount id => table [("method", string "dns_account"), ("dns_account_id", string id)]
  | manual => table [("method", string "manual")]

def CertificateConfig.serialize (certificate : CertificateConfig) : Toml :=
  table ([("id", string certificate.id), ("name", string certificate.name),
    ("domains", array (certificate.domains.map string)),
    ("acme_account_id", string certificate.acmeAccountId)] ++
    optionalEntry "validation" CertificateValidation.serialize certificate.validation ++
    [("auto_renew", boolean certificate.autoRenew)] ++
    optionalEntry "migration_error" string certificate.migrationError)

def RouteConfig.serialize (route : RouteConfig) : Toml :=
  table ([("name", string route.name), ("host", string route.host),
    ("path_prefix", string route.pathPrefix), ("upstream", string route.upstream)] ++
    optionalEntry "certificate_id" string route.certificateId)

def ProxyListenerConfig.serialize (proxy : ProxyListenerConfig) : Toml :=
  table [("http_bind", string proxy.httpBind.display),
    ("https_bind", string proxy.httpsBind.display), ("cache_dir", string proxy.cacheDir),
    ("max_connections", integer proxy.maxConnections)]

def ProxyConfig.serialize (config : ProxyConfig) : Document :=
  [("proxy", config.proxy.serialize),
    ("acme_accounts", array (config.acmeAccounts.map (·.serialize))),
    ("dns_accounts", array (config.dnsAccounts.map (·.serialize))),
    ("certificates", array (config.certificates.map (·.serialize))),
    ("routes", array (config.routes.map (·.serialize)))]

/-! ## What is written is read back -/

lemma AcmeAccountConfig.deserialize_serialize (account : AcmeAccountConfig) :
    deserialize account.serialize = some account := by
  obtain ⟨id, name, provider, environment, email, keyAlgorithm, eabKeyId, eabHmacKey⟩ := account
  cases provider <;> cases environment <;> cases keyAlgorithm <;> cases eabKeyId <;>
    cases eabHmacKey <;> rfl

lemma DnsAccountConfig.deserialize_serialize (account : DnsAccountConfig) :
    deserialize account.serialize = some account := by
  obtain ⟨id, name, provider, apiToken, accessKey, secretKey⟩ := account
  cases provider <;> cases apiToken <;> cases accessKey <;> cases secretKey <;> rfl

lemma CertificateValidation.deserialize_serialize (validation : CertificateValidation) :
    deserialize validation.serialize = some validation := by
  cases validation <;> rfl

lemma CertificateConfig.deserialize_serialize (certificate : CertificateConfig) :
    deserialize certificate.serialize = some certificate := by
  obtain ⟨id, name, domains, acmeAccountId, validation, autoRenew, migrationError⟩ := certificate
  have hdomains : (array (domains.map string)).array? string? = some domains :=
    array?_array fun _ _ => rfl
  cases validation with
  | none =>
    cases migrationError <;>
      exact bind_of_eq_some rfl <| bind_of_eq_some rfl <| bind_of_eq_some rfl <|
        bind_of_eq_some hdomains rfl
  | some validation =>
    have hvalidation : (CertificateValidation.deserialize validation.serialize).map some =
        some (some validation) := by
      rw [CertificateValidation.deserialize_serialize, Option.map_some]
    cases migrationError <;>
      exact bind_of_eq_some rfl <| bind_of_eq_some rfl <| bind_of_eq_some rfl <|
        bind_of_eq_some hdomains <| bind_of_eq_some rfl <| bind_of_eq_some hvalidation rfl

lemma RouteConfig.deserialize_serialize (route : RouteConfig) :
    deserialize route.serialize = some route := by
  obtain ⟨name, host, pathPrefix, upstream, certificateId⟩ := route
  cases certificateId <;> rfl

/-- The two addresses are read from their own texts, and the number fits. -/
structure ProxyListenerConfig.Readable (parseAddr : String → Option SocketAddr)
    (proxy : ProxyListenerConfig) : Prop where
  httpBind : parseAddr proxy.httpBind.display = some proxy.httpBind
  httpsBind : parseAddr proxy.httpsBind.display = some proxy.httpsBind
  maxConnections : proxy.maxConnections < usizeBound

lemma ProxyListenerConfig.maxConnections_lt {parseAddr : String → Option SocketAddr}
    {value : Toml} {proxy : ProxyListenerConfig} (h : deserialize parseAddr value = some proxy) :
    proxy.maxConnections < usizeBound := by
  obtain ⟨fields, -, h⟩ := Option.bind_eq_some_iff.mp h
  obtain ⟨httpBind, -, h⟩ := Option.bind_eq_some_iff.mp h
  obtain ⟨httpsBind, -, h⟩ := Option.bind_eq_some_iff.mp h
  obtain ⟨cacheDir, -, h⟩ := Option.bind_eq_some_iff.mp h
  obtain ⟨maxConnections, hmax, h⟩ := Option.bind_eq_some_iff.mp h
  cases h
  unfold Fields.withDefault at hmax
  split at hmax
  case h_1 => exact natural?_lt hmax
  case h_2 =>
    have hdefault : defaultMaxConnections < usizeBound := by decide
    cases hmax
    exact hdefault

lemma ProxyConfig.maxConnections_lt {parseAddr : String → Option SocketAddr} {value : Toml}
    {config : ProxyConfig} (h : deserialize parseAddr value = some config) :
    config.proxy.maxConnections < usizeBound := by
  obtain ⟨fields, -, h⟩ := Option.bind_eq_some_iff.mp h
  obtain ⟨proxy, hproxy, h⟩ := Option.bind_eq_some_iff.mp h
  obtain ⟨acmeAccounts, -, h⟩ := Option.bind_eq_some_iff.mp h
  obtain ⟨dnsAccounts, -, h⟩ := Option.bind_eq_some_iff.mp h
  obtain ⟨certificates, -, h⟩ := Option.bind_eq_some_iff.mp h
  obtain ⟨routes, -, h⟩ := Option.bind_eq_some_iff.mp h
  cases h
  obtain ⟨value, -, hproxy⟩ := Option.bind_eq_some_iff.mp hproxy
  exact ProxyListenerConfig.maxConnections_lt hproxy

lemma ProxyListenerConfig.deserialize_serialize {parseAddr : String → Option SocketAddr}
    {proxy : ProxyListenerConfig} (h : proxy.Readable parseAddr) :
    deserialize parseAddr proxy.serialize = some proxy := by
  exact bind_of_eq_some rfl <| bind_of_eq_some h.httpBind <| bind_of_eq_some h.httpsBind <|
    bind_of_eq_some rfl <| bind_of_eq_some
      ((Fields.withDefault_of_get? rfl).trans (natural?_integer h.maxConnections)) rfl

/-- **A configuration that is written to a document is read back from it.** -/
theorem ProxyConfig.deserialize_serialize {parseAddr : String → Option SocketAddr}
    {config : ProxyConfig} (h : config.proxy.Readable parseAddr) :
    deserialize parseAddr (table config.serialize) = some config := by
  have hacme := array?_array
    fun (account : AcmeAccountConfig) (_ : account ∈ config.acmeAccounts) =>
      account.deserialize_serialize
  have hdns := array?_array
    fun (account : DnsAccountConfig) (_ : account ∈ config.dnsAccounts) =>
      account.deserialize_serialize
  have hcertificates := array?_array
    fun (certificate : CertificateConfig) (_ : certificate ∈ config.certificates) =>
      certificate.deserialize_serialize
  have hroutes := array?_array fun (route : RouteConfig) (_ : route ∈ config.routes) =>
    route.deserialize_serialize
  exact bind_of_eq_some rfl <| bind_of_eq_some (ProxyListenerConfig.deserialize_serialize h) <|
    bind_of_eq_some hacme <| bind_of_eq_some hdns <| bind_of_eq_some hcertificates <|
      bind_of_eq_some hroutes rfl

end GateRust.Proxy
