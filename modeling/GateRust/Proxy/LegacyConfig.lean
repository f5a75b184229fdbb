/-
# The older form of the proxy configuration

Before there were accounts, a certificate of the file had its own address, issuer and challenge, and
a route named a certificate.  `migrate` makes of each certificate an account, a DNS account if the
challenge is at Cloudflare, and a certificate that refers to them.
-/
import GateRust.Lib.HashMap
import GateRust.Lib.Results
import GateRust.Proxy.ConfigToml

namespace GateRust.Proxy

open Toml
open Tunnel (SocketAddr)

inductive LegacyIssuer where
  | letsEncrypt
  | googleTrustServices
deriving DecidableEq, Repr

def LegacyIssuer.name : LegacyIssuer → String
  | .letsEncrypt => "lets_encrypt"
  | .googleTrustServices => "google_trust_services"

inductive LegacyChallenge where
  | http01
  | tlsAlpn01
  | cloudflareDns01
deriving DecidableEq, Repr

def LegacyChallenge.name : LegacyChallenge → String
  | .http01 => "http-01"
  | .tlsAlpn01 => "tls-alpn-01"
  | .cloudflareDns01 => "cloudflare-dns-01"

structure LegacyCertificateConfig where
  name : String
  domains : List String
  email : String
  issuer : LegacyIssuer
  challenge : LegacyChallenge
  production : Bool
  cloudflareApiToken : Option String
  cloudflareZoneId : Option String
  googleEabKeyId : Option String
  googleEabHmacKey : Option String
  dnsPropagationSeconds : Option ℕ
deriving DecidableEq, Repr

structure LegacyRouteConfig where
  name : String
  host : String
  pathPrefix : String
  upstream : String
  certificate : Option String
deriving DecidableEq, Repr

structure LegacyProxyConfig where
  proxy : ProxyListenerConfig
  certificates : List LegacyCertificateConfig
  routes : List LegacyRouteConfig
deriving DecidableEq, Repr

/-! ## Reading -/

def LegacyCertificateConfig.deserialize (value : Toml) : Option LegacyCertificateConfig := do
  let fields ← value.fields?
    ["name", "domains", "email", "issuer", "challenge", "production", "cloudflare_api_token",
      "cloudflare_zone_id", "google_eab_key_id", "google_eab_hmac_key", "dns_propagation_seconds"]
  let name ← fields.required "name" string?
  let domains ← fields.required "domains" (array? string?)
  let email ← fields.required "email" string?
  let issuer ← fields.required "issuer"
    (variant? LegacyIssuer.name [.letsEncrypt, .googleTrustServices])
  let challenge ← fields.required "challenge"
    (variant? LegacyChallenge.name [.http01, .tlsAlpn01, .cloudflareDns01])
  let production ← fields.withDefault "production" boolean? false
  let cloudflareApiToken ← fields.optional "cloudflare_api_token" string?
  let cloudflareZoneId ← fields.optional "cloudflare_zone_id" string?
  let googleEabKeyId ← fields.optional "google_eab_key_id" string?
  let googleEabHmacKey ← fields.optional "google_eab_hmac_key" string?
  let dnsPropagationSeconds ← fields.withDefault "dns_propagation_seconds"
    (fun seconds => (seconds.natural? (2 ^ 64)).map some) none
  return {
    name, domains, email, issuer, challenge, production, cloudflareApiToken, cloudflareZoneId,
    googleEabKeyId, googleEabHmacKey, dnsPropagationSeconds }

def LegacyRouteConfig.deserialize (value : Toml) : Option LegacyRouteConfig := do
  let fields ← value.fields? ["name", "host", "path_prefix", "upstream", "certificate"]
  let name ← fields.required "name" string?
  let host ← fields.required "host" string?
  let pathPrefix ← fields.withDefault "path_prefix" string? defaultPathPrefix
  let upstream ← fields.required "upstream" string?
  let certificate ← fields.optional "certificate" string?
  return { name, host, pathPrefix, upstream, certificate }

def LegacyProxyConfig.deserialize (parseAddr : String → Option SocketAddr) (value : Toml) :
    Option LegacyProxyConfig := do
  let fields ← value.fields? ["proxy", "certificates", "routes"]
  let proxy ← fields.required "proxy" (ProxyListenerConfig.deserialize parseAddr)
  let certificates ←
    fields.withDefault "certificates" (array? LegacyCertificateConfig.deserialize) []
  let routes ← fields.withDefault "routes" (array? LegacyRouteConfig.deserialize) []
  return { proxy, certificates, routes }

lemma LegacyProxyConfig.maxConnections_lt {parseAddr : String → Option SocketAddr} {value : Toml}
    {config : LegacyProxyConfig} (h : deserialize parseAddr value = some config) :
    config.proxy.maxConnections < usizeBound := by
  obtain ⟨fields, -, h⟩ := Option.bind_eq_some_iff.mp h
  obtain ⟨proxy, hproxy, h⟩ := Option.bind_eq_some_iff.mp h
  obtain ⟨certificates, -, h⟩ := Option.bind_eq_some_iff.mp h
  obtain ⟨routes, -, h⟩ := Option.bind_eq_some_iff.mp h
  cases h
  obtain ⟨value, -, hproxy⟩ := Option.bind_eq_some_iff.mp hproxy
  exact ProxyListenerConfig.maxConnections_lt hproxy

/-! ## Migration -/

def LegacyIssuer.provider : LegacyIssuer → AcmeProvider
  | .letsEncrypt => .letsEncrypt
  | .googleTrustServices => .googleCloud

namespace LegacyCertificateConfig

variable (legacy : LegacyCertificateConfig)

def acmeAccountId : String := "acme-" ++ legacy.name

def dnsAccountId : String := "dns-" ++ legacy.name

def acmeAccount : AcmeAccountConfig where
  id := legacy.acmeAccountId
  name := legacy.name ++ " ACME"
  provider := legacy.issuer.provider
  environment := if legacy.production then .production else .staging
  email := legacy.email
  keyAlgorithm := .ec256
  eabKeyId := legacy.googleEabKeyId
  eabHmacKey := legacy.googleEabHmacKey

def dnsAccount : Option DnsAccountConfig :=
  match legacy.challenge with
  | .cloudflareDns01 => some
    { id := legacy.dnsAccountId
      name := legacy.name ++ " Cloudflare"
      provider := .cloudflare
      apiToken := legacy.cloudflareApiToken
      accessKey := none
      secretKey := none }
  | .http01 | .tlsAlpn01 => none

/-- The validation, or what has to be chosen anew. -/
def validation : Option CertificateValidation × Option String :=
  match legacy.challenge with
  | .cloudflareDns01 => (some (.dnsAccount legacy.dnsAccountId), none)
  | .http01 => (none, some "旧配置使用 HTTP-01，请重新选择 DNS 账户或手动解析")
  | .tlsAlpn01 => (none, some "旧配置使用 TLS-ALPN-01，请重新选择 DNS 账户或手动解析")

def certificate : CertificateConfig where
  id := legacy.name
  name := legacy.name
  domains := legacy.domains
  acmeAccountId := legacy.acmeAccountId
  validation := legacy.validation.1
  autoRenew := false
  migrationError := legacy.validation.2

end LegacyCertificateConfig

/-- The route with the identifier of the certificate that it names. -/
def LegacyRouteConfig.migrate (certificateIds : HashMap String String) (route : LegacyRouteConfig) :
    Except ProxyError RouteConfig := do
  let certificateId ← match route.certificate with
    | some name =>
      match certificateIds.lookup name with
      | some id => .ok (some id)
      | none => .error (.invalidConfig s!"旧路由 {route.name} 引用了不存在的证书 {name}")
    | none => .ok none
  return ⟨route.name, route.host, route.pathPrefix, route.upstream, certificateId⟩

def LegacyProxyConfig.migrate (config : LegacyProxyConfig) : Except ProxyError ProxyConfig := do
  let certificateIds := AList.ofList (config.certificates.map fun c => (c.name, c.name))
  let routes ← config.routes.mapM (LegacyRouteConfig.migrate certificateIds)
  return {
    proxy := config.proxy
    acmeAccounts := config.certificates.map (·.acmeAccount)
    dnsAccounts := config.certificates.filterMap (·.dnsAccount)
    certificates := config.certificates.map (·.certificate)
    routes }

/-! ## What a migration gives -/

/-- The route, if the certificate that it names exists. -/
def LegacyRouteConfig.current (route : LegacyRouteConfig) : RouteConfig :=
  ⟨route.name, route.host, route.pathPrefix, route.upstream, route.certificate⟩

/-- The configuration, if all certificates that the routes name exist. -/
def LegacyProxyConfig.current (config : LegacyProxyConfig) : ProxyConfig where
  proxy := config.proxy
  acmeAccounts := config.certificates.map (·.acmeAccount)
  dnsAccounts := config.certificates.filterMap (·.dnsAccount)
  certificates := config.certificates.map (·.certificate)
  routes := config.routes.map (·.current)

/-- The identifier of a certificate is its name. -/
lemma lookup_certificateIds {certificates : List LegacyCertificateConfig} {name id : String} :
    (AList.ofList (certificates.map fun c => (c.name, c.name))).lookup name = some id ↔
      (∃ c ∈ certificates, c.name = name) ∧ id = name := by
  constructor
  · intro h
    obtain ⟨c, hc, heq⟩ := List.mem_map.mp (AList.mem_of_lookup_ofList h)
    cases heq
    exact ⟨⟨c, hc, rfl⟩, rfl⟩
  · rintro ⟨⟨c, hc, rfl⟩, rfl⟩
    have hmem := List.mem_map_of_mem (f := fun c : LegacyCertificateConfig => (c.name, c.name)) hc
    obtain ⟨id, hid⟩ := AList.lookup_ofList_of_mem hmem
    obtain ⟨c', -, heq⟩ := List.mem_map.mp (AList.mem_of_lookup_ofList hid)
    obtain ⟨hname, rfl⟩ := Prod.mk.inj heq
    rwa [hname] at hid

lemma LegacyRouteConfig.migrate_ok_iff {certificates : List LegacyCertificateConfig}
    {route : LegacyRouteConfig} {migrated : RouteConfig} :
    route.migrate (AList.ofList (certificates.map fun c => (c.name, c.name))) = .ok migrated ↔
      (∀ name, route.certificate = some name → ∃ c ∈ certificates, c.name = name) ∧
        migrated = route.current := by
  obtain ⟨routeName, host, pathPrefix, upstream, certificate⟩ := route
  cases certificate with
  | none => simp [migrate, current, bind, Except.bind, pure, Except.pure, @eq_comm _ migrated]
  | some name =>
    cases hid : (AList.ofList (certificates.map fun c => (c.name, c.name))).lookup name with
    | none =>
      have hnone : ¬ ∃ c ∈ certificates, c.name = name := fun hex => by
        rw [lookup_certificateIds.mpr ⟨hex, rfl⟩] at hid
        cases hid
      simp [migrate, bind, Except.bind, hid, hnone]
    | some id =>
      obtain ⟨hex, rfl⟩ := lookup_certificateIds.mp hid
      simp [migrate, current, bind, Except.bind, pure, Except.pure, hid, hex, @eq_comm _ migrated]

/-- **A migration succeeds if every certificate that a route names exists**, and then no route has
lost its certificate. -/
theorem LegacyProxyConfig.migrate_ok_iff {config : LegacyProxyConfig} {migrated : ProxyConfig} :
    config.migrate = .ok migrated ↔
      (∀ route ∈ config.routes, ∀ name, route.certificate = some name →
        ∃ c ∈ config.certificates, c.name = name) ∧ migrated = config.current := by
  have hroutes (routes : List RouteConfig) :
      config.routes.mapM (LegacyRouteConfig.migrate
          (AList.ofList (config.certificates.map fun c => (c.name, c.name)))) = .ok routes ↔
        (∀ route ∈ config.routes, ∀ name, route.certificate = some name →
          ∃ c ∈ config.certificates, c.name = name) ∧
          routes = config.routes.map LegacyRouteConfig.current :=
    Except.mapM_ok_iff fun _ _ => LegacyRouteConfig.migrate_ok_iff
  constructor
  · intro h
    obtain ⟨routes, hmapM, h⟩ := Except.exists_ok_of_bind h
    obtain ⟨hnamed, rfl⟩ := (hroutes routes).mp hmapM
    cases h
    exact ⟨hnamed, rfl⟩
  · rintro ⟨hnamed, rfl⟩
    exact Except.bind_ok ((hroutes _).mpr ⟨hnamed, rfl⟩) rfl

end GateRust.Proxy
