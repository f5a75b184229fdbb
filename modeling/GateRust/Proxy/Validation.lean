/-
# Validation of the proxy configuration

`ProxyConfig::validate` checks the listeners, the accounts, the certificates and the routes, in
this order, and brings the names of hosts into a normal form.  Parsing an upstream address is the
work of a library and a parameter here.
-/
import Mathlib.Data.List.DropRight
import GateRust.Lib.Results
import GateRust.Proxy.CertificateResolver

namespace GateRust.Proxy

open CertificateResolver (wildcardSuffix)

/-- The first check that fails makes the configuration invalid. -/
def reject (checks : List (Bool × String)) : Except ProxyError Unit :=
  Except.reject .invalidConfig checks

/-! ## Names -/

/-- The characters that `str::trim` removes. -/
def isWhitespace (c : Char) : Bool :=
  let n := c.toNat
  (9 ≤ n && n ≤ 13) || n = 0x20 || n = 0x85 || n = 0xa0 || n = 0x1680 ||
    (0x2000 ≤ n && n ≤ 0x200a) || n = 0x2028 || n = 0x2029 || n = 0x202f || n = 0x205f ||
    n = 0x3000

def trim (value : String) : List Char :=
  (value.toList.dropWhile isWhitespace).rdropWhile isWhitespace

/-- A host name without surrounding blanks and closing dots, in lower case. -/
def cleanHost (value : String) : String :=
  String.ofList (((trim value).rdropWhile (· = '.')).map Char.toLower)

def invalidLabel (label : List Char) : Bool :=
  label = [] || 63 < (String.ofList label).utf8ByteSize || label.head? = some '-' ||
    label.getLast? = some '-' || !label.all fun c => c.isAlphanum || c = '-'

def normalizeDomain (value : String) : Except ProxyError String := do
  let value := cleanHost value
  let plain := (wildcardSuffix value).getD value
  reject
    [(plain = "" || 253 < plain.utf8ByteSize || '.' ∉ plain.toList ||
        (plain.toList.splitOn '.').any invalidLabel,
      s!"域名无效: {value}")]
  return value

def normalizeRouteHost (value : String) : Except ProxyError String :=
  let value := cleanHost value
  if value = "localhost" then .ok value else normalizeDomain value

def validateId (kind id : String) : Except ProxyError Unit :=
  reject
    [(id = "" || 128 < id.utf8ByteSize || id = "." || id = ".." ||
        !id.toList.all fun c => c.isAlphanum || c = '-' || c = '_' || c = '.',
      s!"{kind} ID 必须为 1..=128 个 ASCII 字母、数字、-、_ 或 .")]

def validateDisplayName (kind name : String) : Except ProxyError Unit :=
  reject
    [(trim name = [] || 128 < name.utf8ByteSize, s!"{kind}名称不能为空且不能超过 128 字节")]

def insertUnique (values : List String) (kind value : String) :
    Except ProxyError (List String) := do
  reject [(value ∈ values, s!"{kind}重复: {value}")]
  return value :: values

/-! ## Accounts -/

def requireSecret (kind name field : String) (value : Option String) : Bool × String :=
  (value.all (· = ""), s!"{kind} {name} 必须配置 {field}")

def rejectSecret (kind name field : String) (value : Option String) : Bool × String :=
  (value.isSome, s!"{kind} {name} 不应配置 {field}")

def AcmeAccountConfig.validate (account : AcmeAccountConfig) : Except ProxyError Unit :=
  let secret := match account.provider with
    | .letsEncrypt => rejectSecret
    | .googleCloud => requireSecret
  reject
    [(account.email = "" || 254 < account.email.utf8ByteSize || '@' ∉ account.email.toList,
        s!"ACME 账户 {account.name} 的联系邮箱无效"),
      secret "ACME 账户" account.name "eab_key_id" account.eabKeyId,
      secret "ACME 账户" account.name "eab_hmac_key" account.eabHmacKey]

def DnsAccountConfig.validate (account : DnsAccountConfig) : Except ProxyError Unit :=
  match account.provider with
  | .cloudflare => reject
      [requireSecret "DNS 账户" account.name "api_token" account.apiToken,
        rejectSecret "DNS 账户" account.name "access_key" account.accessKey,
        rejectSecret "DNS 账户" account.name "secret_key" account.secretKey]
  | .goDaddy | .aliyun | .tencentCloud => reject
      [rejectSecret "DNS 账户" account.name "api_token" account.apiToken,
        requireSecret "DNS 账户" account.name "access_key" account.accessKey,
        requireSecret "DNS 账户" account.name "secret_key" account.secretKey]

/-- The identifiers and names that were checked. -/
structure SeenAccounts where
  ids : List String
  names : List String

/-- The checks that both kinds of accounts share, then those of the account itself. -/
def validateAccount (kind id name : String) (check : Except ProxyError Unit)
    (seen : SeenAccounts) : Except ProxyError SeenAccounts := do
  validateId kind id
  validateDisplayName kind name
  let ids ← insertUnique seen.ids s!"{kind} ID" id
  let names ← insertUnique seen.names s!"{kind}名称" name
  check
  return ⟨ids, names⟩

def validateAcmeAccount (seen : SeenAccounts) (account : AcmeAccountConfig) :
    Except ProxyError SeenAccounts :=
  validateAccount "ACME 账户" account.id account.name account.validate seen

def validateDnsAccount (seen : SeenAccounts) (account : DnsAccountConfig) :
    Except ProxyError SeenAccounts :=
  validateAccount "DNS 账户" account.id account.name account.validate seen

/-! ## Certificates -/

/-- The owners of all domains, and the domains of the certificate that is checked. -/
structure SeenDomains where
  owners : HashMap String String
  domains : List String

def validateDomain (certificate : CertificateConfig) (seen : SeenDomains) (domain : String) :
    Except ProxyError SeenDomains := do
  let domain ← normalizeDomain domain
  reject [(domain ∈ seen.domains, s!"证书 {certificate.name} 包含重复域名 {domain}")]
  match seen.owners.lookup domain with
  | some owner =>
    throw (.invalidConfig s!"域名 {domain} 同时属于证书 {owner} 和 {certificate.id}")
  | none => return ⟨seen.owners.insert domain certificate.id, seen.domains ++ [domain]⟩

/-- The method of validation fits the other fields. -/
def CertificateConfig.checkValidation (certificate : CertificateConfig) (dnsIds : List String) :
    Bool × String :=
  match certificate.validation with
  | some (.dnsAccount dnsAccountId) => (dnsAccountId ∉ dnsIds,
      s!"证书 {certificate.name} 引用了不存在的 DNS 账户 {dnsAccountId}")
  | some .manual => (certificate.autoRenew,
      s!"证书 {certificate.name} 使用手动解析时不能启用自动续签")
  | none => (!(certificate.migrationError.isSome && !certificate.autoRenew),
      s!"证书 {certificate.name} 必须选择验证方式")

/-- The certificate with its domains in normal form, and the new owners. -/
def CertificateConfig.validate (certificate : CertificateConfig) (acmeIds dnsIds : List String)
    (owners : HashMap String String) :
    Except ProxyError (CertificateConfig × HashMap String String) := do
  reject
    [(certificate.acmeAccountId ∉ acmeIds,
        s!"证书 {certificate.name} 引用了不存在的 ACME 账户 {certificate.acmeAccountId}"),
      certificate.checkValidation dnsIds,
      (certificate.domains = [] || 100 < certificate.domains.length,
        s!"证书 {certificate.name} 的域名数量必须为 1..=100")]
  let seen ← certificate.domains.foldlM (validateDomain certificate) ⟨owners, []⟩
  return ({ certificate with domains := seen.domains }, seen.owners)

/-- The certificates that were checked. -/
structure SeenCertificates where
  ids : List String
  names : List String
  owners : HashMap String String
  certificates : List CertificateConfig

def validateCertificate (acmeIds dnsIds : List String) (seen : SeenCertificates)
    (certificate : CertificateConfig) : Except ProxyError SeenCertificates := do
  validateId "证书" certificate.id
  validateDisplayName "证书" certificate.name
  reject
    [(certificate.id ∈ seen.ids, s!"证书 ID 重复: {certificate.id}"),
      (certificate.name ∈ seen.names, s!"证书名称重复: {certificate.name}")]
  let (checked, owners) ← certificate.validate acmeIds dnsIds seen.owners
  return ⟨certificate.id :: seen.ids, certificate.name :: seen.names, owners,
    seen.certificates ++ [checked]⟩

/-! ## Routes -/

/-- The owner of a host: the certificate that lists it, or else the one with the longest wildcard
for it. -/
def certificateForHost (owners : HashMap String String) (host : String) : Option String :=
  (owners.lookup host).or
    (((owners.entries.filterMap fun e =>
      (wildcardSuffix e.1).bind fun suffix =>
        if wildcardMatches host suffix then some (suffix.utf8ByteSize, e.2) else none).argmax
      Prod.fst).map Prod.snd)

def validatePathPrefix (value : String) : Except ProxyError Unit :=
  reject
    [(value.toList.head? ≠ some '/' || value.toList.any fun c => c = '?' || c = '#',
      s!"路径前缀必须以 / 开头且不能包含查询或片段: {value}")]

/-- The parts of an `http::Uri` that are used.  A query begins at the first `?`, and a fragment,
from `#` on, is not kept. -/
structure Uri where
  schemeStr : Option String
  authority : Option String
  query : Option String
  path : String := "/"
  path_plain : '?' ∉ path.toList ∧ '#' ∉ path.toList := by decide
  query_plain : ∀ text ∈ query, '#' ∉ text.toList := by simp
deriving DecidableEq, Repr

def validateUpstream (parseUri : String → Option Uri) (value : String) : Except ProxyError Unit :=
  match parseUri value with
  | none => .error (.invalidConfig s!"上游 URI 无效: {value}")
  | some uri => reject
      [(!(uri.schemeStr = some "http" || uri.schemeStr = some "https") || uri.authority.isNone,
          s!"上游 URI 必须包含 http/https scheme 和 authority: {value}"),
        (uri.query.isSome, s!"上游 URI 不能包含查询参数: {value}")]

/-- The certificate of a route exists and is the one of its host. -/
def validateBinding (certificateIds : List String) (owners : HashMap String String)
    (name host : String) : Option String → Except ProxyError Unit
  | none => .ok ()
  | some certificateId => reject
      [(certificateId ∉ certificateIds, s!"路由 {name} 引用了不存在的证书 {certificateId}"),
        (certificateForHost owners host ≠ some certificateId,
          s!"证书 {certificateId} 不包含路由域名 {host}")]

/-- The routes that were checked. -/
structure SeenRoutes where
  names : List String
  keys : List (String × String)
  routes : List RouteConfig

def validateRoute (parseUri : String → Option Uri) (certificateIds : List String)
    (owners : HashMap String String) (seen : SeenRoutes) (route : RouteConfig) :
    Except ProxyError SeenRoutes := do
  validateDisplayName "路由" route.name
  let names ← insertUnique seen.names "路由名称" route.name
  let host ← normalizeRouteHost route.host
  validatePathPrefix route.pathPrefix
  validateUpstream parseUri route.upstream
  reject
    [((host, route.pathPrefix) ∈ seen.keys, s!"Host 与路径前缀重复: {host}{route.pathPrefix}")]
  validateBinding certificateIds owners route.name host route.certificateId
  return ⟨names, (host, route.pathPrefix) :: seen.keys, seen.routes ++ [{ route with host }]⟩

/-! ## The whole configuration -/

/-- The configuration in normal form, or the first error. -/
def ProxyConfig.validate (parseUri : String → Option Uri) (config : ProxyConfig) :
    Except ProxyError ProxyConfig := do
  reject
    [(config.proxy.httpBind = config.proxy.httpsBind, "HTTP 与 HTTPS 不能监听同一地址"),
      (config.proxy.maxConnections = 0, "proxy.max_connections 必须大于 0"),
      (64 < config.acmeAccounts.length || 64 < config.dnsAccounts.length ||
          256 < config.certificates.length || 4096 < config.routes.length,
        "ACME/DNS 账户不能超过 64 个，证书不能超过 256 个，路由不能超过 4096 条")]
  let _ ← config.acmeAccounts.foldlM validateAcmeAccount ⟨[], []⟩
  let _ ← config.dnsAccounts.foldlM validateDnsAccount ⟨[], []⟩
  let seen ← config.certificates.foldlM (validateCertificate (config.acmeAccounts.map (·.id))
    (config.dnsAccounts.map (·.id))) ⟨[], [], ∅, []⟩
  let routes ← config.routes.foldlM (validateRoute parseUri seen.ids seen.owners) ⟨[], [], []⟩
  return { config with certificates := seen.certificates, routes := routes.routes }

/-! ## What a validated configuration has -/

/-- The configuration has passed the validation. -/
def ProxyConfig.Validated (parseUri : String → Option Uri) (config : ProxyConfig) : Prop :=
  ∃ raw : ProxyConfig, raw.validate parseUri = .ok config

/-- `owners` gives for each domain the certificate that lists it. -/
def OwnersOf (certificates : List CertificateConfig) (owners : HashMap String String) : Prop :=
  ∀ domain owner, owners.lookup domain = some owner ↔
    ∃ certificate ∈ certificates, certificate.id = owner ∧ domain ∈ certificate.domains

lemma validateDomain_ok {certificate : CertificateConfig} {seen seen' : SeenDomains}
    {domain : String} (h : validateDomain certificate seen domain = .ok seen') :
    ∃ value, seen.owners.lookup value = none ∧
      seen' = ⟨seen.owners.insert value certificate.id, seen.domains ++ [value]⟩ := by
  obtain ⟨value, -, h⟩ := Except.exists_ok_of_bind h
  obtain ⟨-, -, h⟩ := Except.exists_ok_of_bind h
  cases hv : seen.owners.lookup value with
  | none =>
    simp only [hv] at h
    cases h
    exact ⟨value, hv, rfl⟩
  | some owner =>
    simp only [hv] at h
    cases h

/-- A domain gets the certificate that is checked, and only a domain without an owner does. -/
lemma validateDomains_ok {certificate : CertificateConfig} {owners : HashMap String String}
    {domains : List String} {seen : SeenDomains}
    (h : domains.foldlM (validateDomain certificate) ⟨owners, []⟩ = .ok seen) :
    ∀ domain owner, seen.owners.lookup domain = some owner ↔
      owners.lookup domain = some owner ∨ domain ∈ seen.domains ∧ owner = certificate.id := by
  have hinv : (∀ domain ∈ seen.domains, owners.lookup domain = none) ∧
      ∀ domain owner, seen.owners.lookup domain = some owner ↔
        owners.lookup domain = some owner ∨ domain ∈ seen.domains ∧ owner = certificate.id := by
    refine Except.foldlM_invariant (I := fun _ (seen : SeenDomains) =>
      (∀ domain ∈ seen.domains, owners.lookup domain = none) ∧
        ∀ domain owner, seen.owners.lookup domain = some owner ↔
          owners.lookup domain = some owner ∨ domain ∈ seen.domains ∧ owner = certificate.id)
      h (by simp) ?_
    rintro - domain seen seen' ⟨hfree, howners⟩ hvalid
    obtain ⟨value, hvalue, rfl⟩ := validateDomain_ok hvalid
    have hnew : owners.lookup value = none := by
      cases ho : owners.lookup value with
      | none => rfl
      | some owner =>
        rw [(howners value owner).mpr (Or.inl ho)] at hvalue
        cases hvalue
    refine ⟨?_, ?_⟩
    · intro d hd
      rcases List.mem_append.mp hd with hd | hd
      · exact hfree d hd
      · rw [List.mem_singleton.mp hd]
        exact hnew
    · intro d owner
      rw [AList.lookup_insert_eq]
      by_cases hd : d = value
      · subst hd
        simp [hnew, eq_comm]
      · rw [if_neg hd, howners]
        simp [hd]
  exact hinv.2

/-- The loop over the certificates has kept what the checks found. -/
structure SeenCertificates.Checked (seen : SeenCertificates) : Prop where
  ids : seen.ids.Perm (seen.certificates.map (·.id))
  ids_nodup : seen.ids.Nodup
  owners : OwnersOf seen.certificates seen.owners
  renew : ∀ c ∈ seen.certificates, c.autoRenew = true → ∃ id, c.validation = some (.dnsAccount id)

/-- Only a certificate with a DNS account renews itself. -/
lemma dnsAccount_of_autoRenew {certificate : CertificateConfig} {dnsIds : List String}
    (h : (certificate.checkValidation dnsIds).1 = false) (hrenew : certificate.autoRenew = true) :
    ∃ id, certificate.validation = some (.dnsAccount id) := by
  unfold CertificateConfig.checkValidation at h
  cases hv : certificate.validation with
  | none => simp [hv, hrenew] at h
  | some validation =>
    cases validation with
    | dnsAccount id => exact ⟨id, rfl⟩
    | manual => simp [hv, hrenew] at h

lemma validateCertificate_ok {acmeIds dnsIds : List String} {seen seen' : SeenCertificates}
    {certificate : CertificateConfig}
    (h : validateCertificate acmeIds dnsIds seen certificate = .ok seen')
    (hseen : seen.Checked) : seen'.Checked := by
  obtain ⟨-, -, h⟩ := Except.exists_ok_of_bind h
  obtain ⟨-, -, h⟩ := Except.exists_ok_of_bind h
  obtain ⟨⟨⟩, hunique, h⟩ := Except.exists_ok_of_bind h
  obtain ⟨⟨checked, owners⟩, hcertificate, h⟩ := Except.exists_ok_of_bind h
  cases h
  obtain ⟨⟨⟩, hchecks, hcertificate⟩ := Except.exists_ok_of_bind hcertificate
  obtain ⟨domains, hdomains, hcertificate⟩ := Except.exists_ok_of_bind hcertificate
  cases hcertificate
  have hnew : certificate.id ∉ seen.ids := by
    simpa using Except.of_reject_ok hunique List.mem_cons_self
  have hvalidation : (certificate.checkValidation dnsIds).1 = false :=
    Except.of_reject_ok hchecks (by simp)
  have howners := validateDomains_ok hdomains
  constructor
  · rw [List.map_append]
    exact (hseen.ids.cons certificate.id).trans (List.perm_append_singleton _ _).symm
  · exact List.nodup_cons.mpr ⟨hnew, hseen.ids_nodup⟩
  · intro domain owner
    rw [howners, hseen.owners]
    simp only [List.mem_append, List.mem_singleton, or_and_right, exists_or, exists_eq_left]
    exact or_congr_right ⟨fun h => ⟨h.2.symm, h.1⟩, fun h => ⟨h.2, h.1.symm⟩⟩
  · intro c hc hrenew
    rcases List.mem_append.mp hc with hc | hc
    · exact hseen.renew c hc hrenew
    · rw [List.mem_singleton.mp hc] at hrenew ⊢
      exact dnsAccount_of_autoRenew hvalidation hrenew

lemma validateCertificates_ok {acmeIds dnsIds : List String} {seen : SeenCertificates}
    {certificates : List CertificateConfig}
    (h : certificates.foldlM (validateCertificate acmeIds dnsIds) ⟨[], [], ∅, []⟩ = .ok seen) :
    seen.Checked :=
  Except.foldlM_invariant (I := fun _ (seen : SeenCertificates) => seen.Checked) h
    ⟨.nil, List.nodup_nil, by simp [OwnersOf], by simp⟩
    fun _ _ _ _ h hvalid => validateCertificate_ok hvalid h

/-- The loop over the routes has kept what the checks found. -/
structure SeenRoutes.Checked (owners : HashMap String String) (seen : SeenRoutes) : Prop where
  names : seen.names.Perm (seen.routes.map (·.name))
  names_nodup : seen.names.Nodup
  bound : ∀ r ∈ seen.routes, ∀ c, r.certificateId = some c →
    certificateForHost owners r.host = some c

lemma validateRoute_ok {parseUri : String → Option Uri} {ids : List String}
    {owners : HashMap String String} {seen seen' : SeenRoutes} {route : RouteConfig}
    (h : validateRoute parseUri ids owners seen route = .ok seen')
    (hseen : seen.Checked owners) : seen'.Checked owners := by
  obtain ⟨-, -, h⟩ := Except.exists_ok_of_bind h
  obtain ⟨names, hnames, h⟩ := Except.exists_ok_of_bind h
  obtain ⟨⟨⟩, hunique, hnames⟩ := Except.exists_ok_of_bind hnames
  cases hnames
  obtain ⟨host, -, h⟩ := Except.exists_ok_of_bind h
  obtain ⟨-, -, h⟩ := Except.exists_ok_of_bind h
  obtain ⟨-, -, h⟩ := Except.exists_ok_of_bind h
  obtain ⟨-, -, h⟩ := Except.exists_ok_of_bind h
  obtain ⟨⟨⟩, hbinding, h⟩ := Except.exists_ok_of_bind h
  cases h
  have hnew : route.name ∉ seen.names := by
    simpa using Except.of_reject_ok hunique List.mem_cons_self
  constructor
  · rw [List.map_append]
    exact (hseen.names.cons route.name).trans (List.perm_append_singleton _ _).symm
  · exact List.nodup_cons.mpr ⟨hnew, hseen.names_nodup⟩
  · intro r hr c hc
    rcases List.mem_append.mp hr with hr | hr
    · exact hseen.bound r hr c hc
    · rw [List.mem_singleton.mp hr] at hc ⊢
      simp only at hc
      rw [hc, validateBinding] at hbinding
      have hbound := Except.of_reject_ok hbinding (List.mem_of_getLast? rfl)
      simpa using hbound

/-- What the certificates and routes of a validated configuration satisfy. -/
structure ProxyConfig.Regular (config : ProxyConfig) : Prop where
  ids : (config.certificates.map (·.id)).Nodup
  renew : ∀ c ∈ config.certificates, c.autoRenew = true →
    ∃ id, c.validation = some (.dnsAccount id)
  names : (config.routes.map (·.name)).Nodup
  bound : ∃ owners, OwnersOf config.certificates owners ∧
    ∀ r ∈ config.routes, ∀ c, r.certificateId = some c →
      certificateForHost owners r.host = some c

/-- **A validated configuration is regular.** -/
theorem ProxyConfig.Validated.regular {parseUri : String → Option Uri} {config : ProxyConfig}
    (h : config.Validated parseUri) : config.Regular := by
  obtain ⟨raw, hvalid⟩ := h
  obtain ⟨-, -, hvalid⟩ := Except.exists_ok_of_bind hvalid
  obtain ⟨-, -, hvalid⟩ := Except.exists_ok_of_bind hvalid
  obtain ⟨-, -, hvalid⟩ := Except.exists_ok_of_bind hvalid
  obtain ⟨seen, hcertificates, hvalid⟩ := Except.exists_ok_of_bind hvalid
  obtain ⟨routes, hroutes, hvalid⟩ := Except.exists_ok_of_bind hvalid
  cases hvalid
  have hseen : seen.Checked := validateCertificates_ok hcertificates
  have hrouted : routes.Checked seen.owners := Except.foldlM_invariant
    (I := fun _ (seen' : SeenRoutes) => seen'.Checked seen.owners) hroutes
    ⟨.nil, List.nodup_nil, by simp⟩ fun _ _ _ _ h hvalid => validateRoute_ok hvalid h
  exact ⟨hseen.ids.nodup_iff.mp hseen.ids_nodup, hseen.renew,
    hrouted.names.nodup_iff.mp hrouted.names_nodup, seen.owners, hseen.owners, hrouted.bound⟩

/-! ### Accounts -/

lemma validateAccount_ok {kind id name : String} {check : Except ProxyError Unit}
    {seen seen' : SeenAccounts} (h : validateAccount kind id name check seen = .ok seen') :
    id ∉ seen.ids ∧ seen'.ids = id :: seen.ids ∧ check = .ok () := by
  obtain ⟨-, -, h⟩ := Except.exists_ok_of_bind h
  obtain ⟨-, -, h⟩ := Except.exists_ok_of_bind h
  obtain ⟨ids, hids, h⟩ := Except.exists_ok_of_bind h
  obtain ⟨names, -, h⟩ := Except.exists_ok_of_bind h
  obtain ⟨⟨⟩, hcheck, h⟩ := Except.exists_ok_of_bind h
  cases h
  obtain ⟨⟨⟩, hunique, hids⟩ := Except.exists_ok_of_bind hids
  cases hids
  have hnew := Except.of_reject_ok hunique List.mem_cons_self
  exact ⟨by simpa using hnew, rfl, hcheck⟩

/-- An account of Let's Encrypt has no key of an external account. -/
lemma AcmeAccountConfig.eabHmacKey_eq_none {account : AcmeAccountConfig}
    (h : account.validate = .ok ()) (hprovider : account.provider = .letsEncrypt) :
    account.eabHmacKey = none := by
  simp only [AcmeAccountConfig.validate, hprovider] at h
  have hsecret := Except.of_reject_ok h (List.mem_of_getLast? rfl)
  simpa [rejectSecret] using hsecret

/-- What the accounts of a validated configuration satisfy. -/
structure ProxyConfig.RegularAccounts (config : ProxyConfig) : Prop where
  acmeIds : (config.acmeAccounts.map (·.id)).Nodup
  dnsIds : (config.dnsAccounts.map (·.id)).Nodup
  secrets : ∀ a ∈ config.acmeAccounts, a.provider = .letsEncrypt → a.eabHmacKey = none

lemma ProxyConfig.Validated.regularAccounts {parseUri : String → Option Uri} {config : ProxyConfig}
    (h : config.Validated parseUri) : config.RegularAccounts := by
  obtain ⟨raw, hvalid⟩ := h
  obtain ⟨-, -, hvalid⟩ := Except.exists_ok_of_bind hvalid
  obtain ⟨acme, hacme, hvalid⟩ := Except.exists_ok_of_bind hvalid
  obtain ⟨dns, hdns, hvalid⟩ := Except.exists_ok_of_bind hvalid
  obtain ⟨seen, -, hvalid⟩ := Except.exists_ok_of_bind hvalid
  obtain ⟨routes, -, hvalid⟩ := Except.exists_ok_of_bind hvalid
  cases hvalid
  refine ⟨?_, ?_, ?_⟩
  · refine Except.foldlM_nodup (o := SeenAccounts.ids) hacme rfl fun _ _ _ h => ?_
    obtain ⟨hnew, hids, -⟩ := validateAccount_ok h
    exact ⟨hnew, hids⟩
  · refine Except.foldlM_nodup (o := SeenAccounts.ids) hdns rfl fun _ _ _ h => ?_
    obtain ⟨hnew, hids, -⟩ := validateAccount_ok h
    exact ⟨hnew, hids⟩
  · exact Except.foldlM_forall hacme fun _ _ _ h =>
      AcmeAccountConfig.eabHmacKey_eq_none (validateAccount_ok h).2.2

section Regular

variable {config : ProxyConfig} {c c' : CertificateConfig}

lemma ProxyConfig.Regular.eq_of_id (h : config.Regular) (hc : c ∈ config.certificates)
    (hc' : c' ∈ config.certificates) (hid : c.id = c'.id) : c = c' :=
  List.inj_on_of_nodup_map h.ids hc hc' hid

/-- A domain belongs to one certificate. -/
lemma ProxyConfig.Regular.eq_of_domain (h : config.Regular) (hc : c ∈ config.certificates)
    (hc' : c' ∈ config.certificates) {domain : String} (hd : domain ∈ c.domains)
    (hd' : domain ∈ c'.domains) : c = c' := by
  obtain ⟨owners, howners, -⟩ := h.bound
  have howner := (howners domain c.id).mpr ⟨c, hc, rfl, hd⟩
  have howner' := (howners domain c'.id).mpr ⟨c', hc', rfl, hd'⟩
  exact h.eq_of_id hc hc' (Option.some.inj (howner.symm.trans howner'))

end Regular

end GateRust.Proxy
