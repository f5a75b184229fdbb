/-
# Reading the proxy configuration

`ProxyConfig::read` reads a file in the current form, or in the older one if that fails, and
validates the result.  Which form a file has is decided by the failure alone, so files that can be
read in both are looked at here as well; what is read from an older file is compared with it, and
with what is read after it has been written in the current form.
-/
import GateRust.Lib.KeyedList
import GateRust.Proxy.CanonicalConfig
import GateRust.Proxy.LegacyConfig

namespace GateRust.Proxy

open KeyedList Toml
open Tunnel (SocketAddr)

/-- What is not modelled of reading and writing a file: the syntax of documents, the texts of
socket addresses, and the text of the error if a file is not read in the current form. -/
structure ConfigLibrary where
  parse : String → Option Document
  write : Document → Except String String
  parseAddr : String → Option SocketAddr
  currentError : String → String

namespace ConfigLibrary

variable (library : ConfigLibrary)

def current (text : String) : Option ProxyConfig :=
  (library.parse text).bind fun document =>
    ProxyConfig.deserialize library.parseAddr (.table document)

def legacy (text : String) : Option LegacyProxyConfig :=
  (library.parse text).bind fun document =>
    LegacyProxyConfig.deserialize library.parseAddr (.table document)

/-- The library reads back what it has written for this configuration. -/
structure RoundTrips (config : ProxyConfig) : Prop where
  document : ∀ text, library.write config.serialize = .ok text →
    library.parse text = some config.serialize
  httpBind : library.parseAddr config.proxy.httpBind.display = some config.proxy.httpBind
  httpsBind : library.parseAddr config.proxy.httpsBind.display = some config.proxy.httpsBind

end ConfigLibrary

/-- The errors of `read`: those of the file, and those of the configuration in it. -/
inductive ReadError where
  | readConfig (path source : String)
  | parseConfig (path source : String)
  | config (error : ProxyError)
deriving DecidableEq, Repr

/-- The configuration in the text, before it is validated. -/
def ProxyConfig.parse (library : ConfigLibrary) (path content : String) :
    Except ReadError ProxyConfig :=
  match library.current content with
  | some config => .ok config
  | none =>
    match library.legacy content with
    | some legacy => legacy.migrate.mapError .config
    | none => .error (.parseConfig path (library.currentError content))

/-- `file` is what the file system gives for the path. -/
def ProxyConfig.read (library : ConfigLibrary) (parseUri : String → Option Uri) (path : String)
    (file : Except String String) : Except ReadError ProxyConfig := do
  let content ← file.mapError (.readConfig path)
  let config ← ProxyConfig.parse library path content
  (config.validate parseUri).mapError .config

/-! ## Files that can be read in both forms -/

lemma RouteConfig.deserialize_both {value : Toml} {route : RouteConfig}
    {legacy : LegacyRouteConfig} (h : deserialize value = some route)
    (h' : LegacyRouteConfig.deserialize value = some legacy) :
    route = legacy.current ∧ (value.isTable = true → legacy.certificate = none) := by
  obtain ⟨fields, hfields, h⟩ := Option.bind_eq_some_iff.mp h
  obtain ⟨name, hname, h⟩ := Option.bind_eq_some_iff.mp h
  obtain ⟨host, hhost, h⟩ := Option.bind_eq_some_iff.mp h
  obtain ⟨pathPrefix, hpathPrefix, h⟩ := Option.bind_eq_some_iff.mp h
  obtain ⟨upstream, hupstream, h⟩ := Option.bind_eq_some_iff.mp h
  obtain ⟨certificateId, hcertificateId, h⟩ := Option.bind_eq_some_iff.mp h
  cases h
  obtain ⟨fields', hfields', h'⟩ := Option.bind_eq_some_iff.mp h'
  obtain ⟨name', hname', h'⟩ := Option.bind_eq_some_iff.mp h'
  obtain ⟨host', hhost', h'⟩ := Option.bind_eq_some_iff.mp h'
  obtain ⟨pathPrefix', hpathPrefix', h'⟩ := Option.bind_eq_some_iff.mp h'
  obtain ⟨upstream', hupstream', h'⟩ := Option.bind_eq_some_iff.mp h'
  obtain ⟨certificate, hcertificate, h'⟩ := Option.bind_eq_some_iff.mp h'
  cases h'
  cases value with
  | table entries =>
    have hnone := lookup_eq_none "certificate" hfields (by decide)
    have hnone' := lookup_eq_none "certificate_id" hfields' (by decide)
    cases fields?_table hfields
    cases fields?_table hfields'
    cases hname.symm.trans hname'
    cases hhost.symm.trans hhost'
    cases hpathPrefix.symm.trans hpathPrefix'
    cases hupstream.symm.trans hupstream'
    simp only [Fields.optional, hnone, hnone'] at hcertificate hcertificateId
    cases hcertificate
    cases hcertificateId
    exact ⟨rfl, fun _ => rfl⟩
  | array items =>
    -- by position the two forms of a route are the same
    cases hfields
    cases hfields'
    cases hname.symm.trans hname'
    cases hhost.symm.trans hhost'
    cases hpathPrefix.symm.trans hpathPrefix'
    cases hupstream.symm.trans hupstream'
    cases hcertificateId.symm.trans hcertificate
    exact ⟨rfl, fun htable => nomatch htable⟩
  | _ => cases hfields

/-- No certificate has the fields of both forms, or lists them in both orders. -/
lemma CertificateConfig.not_deserialize_both {value : Toml} {certificate : CertificateConfig}
    {legacy : LegacyCertificateConfig} (h : deserialize value = some certificate)
    (h' : LegacyCertificateConfig.deserialize value = some legacy) : False := by
  obtain ⟨fields, hfields, h⟩ := Option.bind_eq_some_iff.mp h
  obtain ⟨id, hid, h⟩ := Option.bind_eq_some_iff.mp h
  obtain ⟨name, hname, -⟩ := Option.bind_eq_some_iff.mp h
  obtain ⟨fields', hfields', h'⟩ := Option.bind_eq_some_iff.mp h'
  obtain ⟨name', -, h'⟩ := Option.bind_eq_some_iff.mp h'
  obtain ⟨domains', hdomains', -⟩ := Option.bind_eq_some_iff.mp h'
  cases value with
  | table entries =>
    cases fields?_table hfields
    simp only [Fields.required, lookup_eq_none "id" hfields' (by decide)] at hid
    cases hid
  | array items =>
    cases hfields
    cases hfields'
    -- the second item is a name in one form and the domains in the other
    obtain ⟨item, hitem, hname⟩ := Option.bind_eq_some_iff.mp hname
    obtain ⟨item', hitem', hdomains⟩ := Option.bind_eq_some_iff.mp hdomains'
    cases hitem.symm.trans hitem'
    cases item with
    | string text => cases hdomains
    | _ => cases hname
  | _ => cases hfields

/-- **A document that can be read in both forms** has no certificates and no accounts, and the same
routes in both; written as tables, they name no certificates. -/
theorem ProxyConfig.deserialize_both {parseAddr : String → Option SocketAddr} {document : Document}
    {config : ProxyConfig} {legacy : LegacyProxyConfig}
    (h : deserialize parseAddr (.table document) = some config)
    (h' : LegacyProxyConfig.deserialize parseAddr (.table document) = some legacy) :
    legacy.certificates = [] ∧ config = legacy.current ∧
      ((∀ items, document.lookup "routes" = some (.array items) →
        ∀ item ∈ items, item.isTable = true) →
        ∀ route ∈ legacy.routes, route.certificate = none) := by
  obtain ⟨fields, hfields, h⟩ := Option.bind_eq_some_iff.mp h
  obtain ⟨proxy, hproxy, h⟩ := Option.bind_eq_some_iff.mp h
  obtain ⟨acmeAccounts, hacmeAccounts, h⟩ := Option.bind_eq_some_iff.mp h
  obtain ⟨dnsAccounts, hdnsAccounts, h⟩ := Option.bind_eq_some_iff.mp h
  obtain ⟨certificates, hcertificates, h⟩ := Option.bind_eq_some_iff.mp h
  obtain ⟨routes, hroutes, h⟩ := Option.bind_eq_some_iff.mp h
  cases h
  obtain ⟨fields', hfields', h'⟩ := Option.bind_eq_some_iff.mp h'
  obtain ⟨proxy', hproxy', h'⟩ := Option.bind_eq_some_iff.mp h'
  obtain ⟨certificates', hcertificates', h'⟩ := Option.bind_eq_some_iff.mp h'
  obtain ⟨routes', hroutes', h'⟩ := Option.bind_eq_some_iff.mp h'
  cases h'
  have hacme := lookup_eq_none "acme_accounts" hfields' (by decide)
  have hdns := lookup_eq_none "dns_accounts" hfields' (by decide)
  cases fields?_table hfields
  cases fields?_table hfields'
  cases hproxy.symm.trans hproxy'
  simp only [Fields.withDefault, hacme, hdns] at hacmeAccounts hdnsAccounts
  cases hacmeAccounts
  cases hdnsAccounts
  have hempty : List.Forall₂ (fun _ _ => False) certificates certificates' :=
    Fields.forall₂_of_withDefault hcertificates hcertificates'
      fun _ _ _ _ _ _ => CertificateConfig.not_deserialize_both
  cases hempty with
  | cons hfalse => exact hfalse.elim
  | nil =>
    refine ⟨rfl, ?_, fun htables => ?_⟩
    · have hcurrent : List.Forall₂ (fun l r => l.current = r) routes' routes :=
        Fields.forall₂_of_withDefault hroutes' hroutes
          fun _ _ _ _ _ _ hl hr => (RouteConfig.deserialize_both hr hl).1.symm
      rw [← List.forall₂_map_left_iff, List.forall₂_eq_eq_eq] at hcurrent
      rw [LegacyProxyConfig.current, hcurrent]
      rfl
    · have hplain : List.Forall₂ (fun l r => l.certificate = none ∧ True) routes' routes :=
        Fields.forall₂_of_withDefault hroutes' hroutes fun items hitems item hitem _ _ hl hr =>
          ⟨(RouteConfig.deserialize_both hr hl).2 (htables items hitems item hitem), trivial⟩
      exact ((List.forall₂_and_left _ _).mp hplain).1

section Read

variable {library : ConfigLibrary} {path : String} {file : Except String String}

variable {parseUri : String → Option Uri}

/-- The routes of a document are written as tables, not as arrays of their fields in order. -/
def RoutesAreTables (document : Document) : Prop :=
  ∀ items, document.lookup "routes" = some (.array items) → ∀ item ∈ items, item.isTable = true

/-- A route that names a certificate does not pass the validation if there are none. -/
lemma ProxyConfig.certificateId_eq_none {config checked : ProxyConfig}
    (h : config.validate parseUri = .ok checked) (hempty : config.certificates = []) :
    ∀ route ∈ config.routes, route.certificateId = none := by
  intro route hroute
  obtain ⟨rfl, -, -⟩ := ProxyConfig.validate_normal h
  obtain ⟨hcanonical, -, -⟩ := ProxyConfig.canonical h
  cases hid : route.certificateId with
  | none => rfl
  | some id =>
    obtain ⟨c, hc, -⟩ :=
      hcanonical.certificates route.normal (List.mem_map_of_mem hroute) id (by simpa using hid)
    simp [ProxyConfig.normal, hempty] at hc

/-- **The two readings of a document.** -/
theorem ProxyConfig.readings_agree {parseAddr : String → Option SocketAddr} {document : Document}
    {config : ProxyConfig} {legacy : LegacyProxyConfig}
    (h : deserialize parseAddr (.table document) = some config)
    (h' : LegacyProxyConfig.deserialize parseAddr (.table document) = some legacy) :
    (config.validate parseUri).toOption =
        (legacy.migrate.bind (validate parseUri)).toOption ∧
      (RoutesAreTables document →
        config.validate parseUri = legacy.migrate.bind (validate parseUri)) := by
  obtain ⟨hempty, rfl, htables⟩ := ProxyConfig.deserialize_both h h'
  by_cases hnamed : ∀ route ∈ legacy.routes, route.certificate = none
  · have hmigrate : legacy.migrate = .ok legacy.current := by
      refine LegacyProxyConfig.migrate_ok_iff.mpr ⟨fun route hroute name hname => ?_, rfl⟩
      rw [hnamed route hroute] at hname
      cases hname
    rw [hmigrate]
    exact ⟨rfl, fun _ => rfl⟩
  · refine ⟨?_, fun hroutes => absurd (htables hroutes) hnamed⟩
    -- both readings fail, though not with the same message
    cases hmigrate : legacy.migrate with
    | ok migrated =>
      obtain ⟨hexists, -⟩ := LegacyProxyConfig.migrate_ok_iff.mp hmigrate
      refine absurd (fun route hroute => ?_) hnamed
      cases hname : route.certificate with
      | none => rfl
      | some name => simpa [hempty] using hexists route hroute name hname
    | error error =>
      cases hvalid : legacy.current.validate parseUri with
      | error => rfl
      | ok checked =>
        have hnone := ProxyConfig.certificateId_eq_none hvalid (List.map_eq_nil_iff.mpr hempty)
        exact absurd (fun route hroute => hnone _ (List.mem_map_of_mem hroute)) hnamed

/-! ## What is kept of an older file -/

/-- The certificate with its accounts in the configuration, compared with the older one. -/
structure MigratedCertificate (config : ProxyConfig) (legacy : LegacyCertificateConfig)
    (certificate : CertificateConfig) : Prop where
  domains : certificate.domains = legacy.domains.map cleanHost
  account : ∃ account, Only (·.id) certificate.acmeAccountId config.acmeAccounts account ∧
    account.email = legacy.email ∧ account.provider = legacy.issuer.provider ∧
      account.environment = if legacy.production then .production else .staging
  token : legacy.challenge = .cloudflareDns01 → ∃ account,
    certificate.validation = some (.dnsAccount account.id) ∧
      Only (·.id) account.id config.dnsAccounts account ∧ account.provider = .cloudflare ∧
        account.apiToken = legacy.cloudflareApiToken

/-- The route, compared with the older one. -/
structure MigratedRoute (old : LegacyProxyConfig) (config : ProxyConfig)
    (legacy : LegacyRouteConfig) (route : RouteConfig) : Prop where
  name : route.name = legacy.name
  pathPrefix : route.pathPrefix = legacy.pathPrefix
  upstream : route.upstream = legacy.upstream
  host : route.host = cleanHost (cleanHost legacy.host)
  uncertified : legacy.certificate = none → route.certificateId = none
  certificate : ∀ name, legacy.certificate = some name → ∃ legacy certificate,
    Only (·.name) name old.certificates legacy ∧ route.certificateId = some certificate.id ∧
      Only (·.id) certificate.id config.certificates certificate ∧
        MigratedCertificate config legacy certificate

lemma LegacyProxyConfig.migratedCertificate {old : LegacyProxyConfig} {config : ProxyConfig}
    {legacy : LegacyCertificateConfig} (h : old.current.validate parseUri = .ok config)
    (hlegacy : legacy ∈ old.certificates) :
    MigratedCertificate config legacy legacy.certificate.normal := by
  have haccounts : config.RegularAccounts := ProxyConfig.Validated.regularAccounts ⟨_, h⟩
  obtain ⟨rfl, -, -⟩ := ProxyConfig.validate_normal h
  refine ⟨rfl, ⟨legacy.acmeAccount, ?_, rfl, rfl, rfl⟩, fun hchallenge => ?_⟩
  · exact Only.of_nodup haccounts.acmeIds (List.mem_map_of_mem hlegacy)
  · obtain ⟨account, haccount⟩ : ∃ account, legacy.dnsAccount = some account := by
      simp [LegacyCertificateConfig.dnsAccount, hchallenge]
    have hmem : account ∈ old.current.normal.dnsAccounts :=
      List.mem_filterMap.mpr ⟨legacy, hlegacy, haccount⟩
    refine ⟨account, ?_, Only.of_nodup haccounts.dnsIds hmem, ?_⟩
    all_goals
      simp only [LegacyCertificateConfig.dnsAccount, hchallenge] at haccount
      cases haccount
    · simp [CertificateConfig.normal, LegacyCertificateConfig.certificate,
        LegacyCertificateConfig.validation, hchallenge]
    · exact ⟨rfl, rfl⟩

/-- **The routes of a migrated configuration**, which has passed the validation. -/
theorem LegacyProxyConfig.migrated_routes {old : LegacyProxyConfig} {migrated config : ProxyConfig}
    (hmigrate : old.migrate = .ok migrated) (h : migrated.validate parseUri = .ok config) :
    List.Forall₂ (MigratedRoute old config) old.routes config.routes := by
  obtain ⟨hnamed, rfl⟩ := LegacyProxyConfig.migrate_ok_iff.mp hmigrate
  have hregular : config.Regular := ProxyConfig.Validated.regular ⟨_, h⟩
  have hcertificates := fun legacy (hlegacy : legacy ∈ old.certificates) =>
    LegacyProxyConfig.migratedCertificate h hlegacy
  obtain ⟨rfl, -, -⟩ := ProxyConfig.validate_normal h
  have hnames : (old.certificates.map (·.name)).Nodup := by
    have hids : (((old.certificates.map (·.certificate)).map CertificateConfig.normal).map
      (·.id)).Nodup := hregular.ids
    rw [List.map_map, List.map_map] at hids
    exact hids
  have hroutes : old.current.normal.routes =
      old.routes.map fun route => route.current.normal := List.map_map
  rw [hroutes, List.forall₂_map_right_iff, List.forall₂_same]
  intro route hroute
  refine ⟨rfl, rfl, rfl, rfl, fun hnone => hnone, fun name hname => ?_⟩
  obtain ⟨legacy, hlegacy, rfl⟩ := hnamed route hroute name hname
  have hmem : legacy.certificate.normal ∈ old.current.normal.certificates :=
    List.mem_map_of_mem (List.mem_map_of_mem hlegacy)
  exact ⟨legacy, legacy.certificate.normal, Only.of_nodup hnames hlegacy, hname,
    Only.of_nodup hregular.ids hmem, hcertificates legacy hlegacy⟩

/-! ## Reading a file -/

/-- A file that is read is in one of the two forms, and the result has passed the validation. -/
lemma ProxyConfig.read_ok {config : ProxyConfig}
    (h : read library parseUri path file = .ok config) :
    ∃ content raw, file = .ok content ∧ raw.validate parseUri = .ok config ∧
      (library.current content = some raw ∨ library.current content = none ∧
        ∃ legacy, library.legacy content = some legacy ∧ legacy.migrate = .ok raw) := by
  obtain ⟨content, hcontent, h⟩ := Except.exists_ok_of_bind h
  obtain ⟨raw, hraw, h⟩ := Except.exists_ok_of_bind h
  refine ⟨content, raw, Except.ok_of_mapError_ok hcontent, Except.ok_of_mapError_ok h, ?_⟩
  unfold ProxyConfig.parse at hraw
  split at hraw
  case h_1 current hcurrent =>
    cases hraw
    exact .inl hcurrent
  case h_2 hcurrent =>
    split at hraw
    case h_1 legacy hlegacy =>
      exact .inr ⟨hcurrent, legacy, hlegacy, Except.ok_of_mapError_ok hraw⟩
    case h_2 => cases hraw

lemma ProxyConfig.read_current {content : String} {raw config : ProxyConfig}
    (hcurrent : library.current content = some raw) (h : raw.validate parseUri = .ok config) :
    read library parseUri path (.ok content) = .ok config := by
  simp [read, parse, bind, Except.bind, Except.mapError, hcurrent, h]

lemma ProxyConfig.read_legacy {content : String} {legacy : LegacyProxyConfig}
    {raw config : ProxyConfig} (hcurrent : library.current content = none)
    (hlegacy : library.legacy content = some legacy) (hmigrate : legacy.migrate = .ok raw)
    (h : raw.validate parseUri = .ok config) :
    read library parseUri path (.ok content) = .ok config := by
  simp [read, parse, bind, Except.bind, Except.mapError, hcurrent, hlegacy, hmigrate, h]

lemma ProxyConfig.read_maxConnections_lt {config : ProxyConfig}
    (h : read library parseUri path file = .ok config) :
    config.proxy.maxConnections < usizeBound := by
  obtain ⟨content, raw, -, hvalid, hform⟩ := ProxyConfig.read_ok h
  obtain ⟨rfl, -, -⟩ := ProxyConfig.validate_normal hvalid
  show raw.proxy.maxConnections < usizeBound
  obtain hcurrent | ⟨-, legacy, hlegacy, hmigrate⟩ := hform
  · obtain ⟨document, -, hraw⟩ := Option.bind_eq_some_iff.mp hcurrent
    exact ProxyConfig.maxConnections_lt hraw
  · obtain ⟨document, -, hraw⟩ := Option.bind_eq_some_iff.mp hlegacy
    obtain ⟨-, rfl⟩ := LegacyProxyConfig.migrate_ok_iff.mp hmigrate
    exact LegacyProxyConfig.maxConnections_lt hraw

/-- What is read stays as it is when it is written in the current form and read again. -/
theorem ProxyConfig.read_written {config : ProxyConfig} {path' text : String}
    (h : read library parseUri path file = .ok config) (hround : library.RoundTrips config)
    (hwrite : library.write config.serialize = .ok text) :
    read library parseUri path' (.ok text) = .ok config := by
  obtain ⟨content, raw, -, hvalid, -⟩ := ProxyConfig.read_ok h
  refine ProxyConfig.read_current ?_ (ProxyConfig.validate_again hvalid)
  rw [ConfigLibrary.current, hround.document text hwrite]
  exact ProxyConfig.deserialize_serialize
    ⟨hround.httpBind, hround.httpsBind, ProxyConfig.read_maxConnections_lt h⟩

/-- **The two forms of the configuration file.**  A file that can be read in both gives the same
configuration in both or is rejected in both, and with tables for the routes the results are equal.
A file that can be read in the older form only, if it is accepted, keeps its routes one by one, in
their order; a route that named a certificate names the only one with its domains, with the account
and the token that belonged to them; and written in the current form it is read as what it was. -/
theorem ProxyConfig.read_both_forms (library : ConfigLibrary) (parseUri : String → Option Uri)
    (content : String) :
    (∀ document config legacy, library.parse content = some document →
      library.current content = some config → library.legacy content = some legacy →
        (config.validate parseUri).toOption =
            (legacy.migrate.bind (validate parseUri)).toOption ∧
          (RoutesAreTables document →
            config.validate parseUri = legacy.migrate.bind (validate parseUri))) ∧
    ∀ path legacy config, library.current content = none → library.legacy content = some legacy →
      read library parseUri path (.ok content) = .ok config →
        List.Forall₂ (MigratedRoute legacy config) legacy.routes config.routes ∧
          (library.RoundTrips config → ∀ path' text, library.write config.serialize = .ok text →
            read library parseUri path' (.ok text) = .ok config) := by
  refine ⟨fun document config legacy hparse hcurrent hlegacy => ?_,
    fun path legacy config hcurrent hlegacy h => ⟨?_, fun hround path' text hwrite =>
      ProxyConfig.read_written h hround hwrite⟩⟩
  · rw [ConfigLibrary.current, hparse] at hcurrent
    rw [ConfigLibrary.legacy, hparse] at hlegacy
    exact ProxyConfig.readings_agree hcurrent hlegacy
  · obtain ⟨content', raw, hcontent, hvalid, hform⟩ := ProxyConfig.read_ok h
    cases hcontent
    obtain hcurrent' | ⟨-, legacy', hlegacy', hmigrate⟩ := hform
    · rw [hcurrent] at hcurrent'
      cases hcurrent'
    · cases hlegacy.symm.trans hlegacy'
      exact LegacyProxyConfig.migrated_routes hmigrate hvalid

end Read

/-! ## Two files -/

/-- The texts of two addresses, and of the certificate below. -/
def sampleAddr (text : String) : Option SocketAddr :=
  if text = "127.0.0.1:80" then some ⟨.v4 0x7f000001, 80⟩
  else if text = "127.0.0.1:443" then some ⟨.v4 0x7f000001, 443⟩
  else none

def sampleListeners : String × Toml :=
  ("proxy", .table [("http_bind", .string "127.0.0.1:80"), ("https_bind", .string "127.0.0.1:443"),
    ("cache_dir", .string "cache")])

/-- A route that is written as an array of its fields. -/
def positionalDocument : Document :=
  [("routes", .array [.array [.string "web", .string "www.example.com", .string "/",
    .string "http://127.0.0.1:3000", .string "site"]]), sampleListeners]

/-- Both readings reject the document, but the older form does so in its own words. -/
theorem positionalDocument_readings :
    ¬ ∀ document config legacy, ProxyConfig.deserialize sampleAddr (.table document) = some config →
      LegacyProxyConfig.deserialize sampleAddr (.table document) = some legacy →
        config.validate CertificateManager.parseLocalhost =
          legacy.migrate.bind (ProxyConfig.validate CertificateManager.parseLocalhost) := by
  intro h
  have hcurrent : (ProxyConfig.deserialize sampleAddr (.table positionalDocument)).map
      (ProxyConfig.validate CertificateManager.parseLocalhost) =
        some (.error (.invalidConfig "路由 web 引用了不存在的证书 site")) := by
    decide +kernel
  have hlegacy : (LegacyProxyConfig.deserialize sampleAddr (.table positionalDocument)).map
      (fun legacy => legacy.migrate.bind (ProxyConfig.validate CertificateManager.parseLocalhost)) =
        some (.error (.invalidConfig "旧路由 web 引用了不存在的证书 site")) := by
    decide +kernel
  obtain ⟨config, hconfig, hcurrent⟩ := Option.map_eq_some_iff.mp hcurrent
  obtain ⟨legacy, hlegacy, hmigrate⟩ := Option.map_eq_some_iff.mp hlegacy
  have hsame := h _ _ _ hconfig hlegacy
  rw [hcurrent, hmigrate] at hsame
  exact absurd hsame (by decide)

/-- The file of one certificate and one route. -/
def legacyText : String := "# older form\n" ++ r#"[proxy]
http_bind = "127.0.0.1:80"
https_bind = "127.0.0.1:443"
cache_dir = "cache"

[[certificates]]
name = "site"
domains = ["*.Example.com"]
email = "admin@example.com"
issuer = "lets_encrypt"
challenge = "cloudflare-dns-01"
cloudflare_api_token = "token"
cloudflare_zone_id = "zone"

[[routes]]
name = "web"
host = "www.example.com."
upstream = "http://127.0.0.1:3000"
certificate = "site"
"#

def legacyDocument : Document :=
  [sampleListeners,
    ("certificates", .array [.table [("name", .string "site"),
      ("domains", .array [.string "*.Example.com"]), ("email", .string "admin@example.com"),
      ("issuer", .string "lets_encrypt"), ("challenge", .string "cloudflare-dns-01"),
      ("cloudflare_api_token", .string "token"), ("cloudflare_zone_id", .string "zone")]]),
    ("routes", .array [.table [("name", .string "web"), ("host", .string "www.example.com."),
      ("upstream", .string "http://127.0.0.1:3000"), ("certificate", .string "site")]])]

def legacyConfig : LegacyProxyConfig where
  proxy := ⟨⟨.v4 0x7f000001, 80⟩, ⟨.v4 0x7f000001, 443⟩, "cache", 2048⟩
  certificates := [⟨"site", ["*.Example.com"], "admin@example.com", .letsEncrypt, .cloudflareDns01,
    false, some "token", some "zone", none, none, none⟩]
  routes := [⟨"web", "www.example.com.", "/", "http://127.0.0.1:3000", some "site"⟩]

def migratedConfig : ProxyConfig where
  proxy := legacyConfig.proxy
  acmeAccounts := [⟨"acme-site", "site ACME", .letsEncrypt, .staging, "admin@example.com", .ec256,
    none, none⟩]
  dnsAccounts := [⟨"dns-site", "site Cloudflare", .cloudflare, some "token", none, none⟩]
  certificates := [⟨"site", "site", ["*.example.com"], "acme-site", some (.dnsAccount "dns-site"),
    false, none⟩]
  routes := [⟨"web", "www.example.com", "/", "http://127.0.0.1:3000", some "site"⟩]

def migratedText : String := "[proxy]\n" ++ r#"http_bind = "127.0.0.1:80"
https_bind = "127.0.0.1:443"
cache_dir = "cache"
max_connections = 2048

[[acme_accounts]]
id = "acme-site"
name = "site ACME"
provider = "lets_encrypt"
environment = "staging"
email = "admin@example.com"
key_algorithm = "ec256"

[[dns_accounts]]
id = "dns-site"
name = "site Cloudflare"
provider = "cloudflare"
api_token = "token"

[[certificates]]
id = "site"
name = "site"
domains = ["*.example.com"]
acme_account_id = "acme-site"
auto_renew = false

[certificates.validation]
method = "dns_account"
dns_account_id = "dns-site"

[[routes]]
name = "web"
host = "www.example.com"
path_prefix = "/"
upstream = "http://127.0.0.1:3000"
certificate_id = "site"
"#

/-- A library that knows the two files. -/
def sampleLibrary : ConfigLibrary where
  parse text :=
    if text = legacyText then some legacyDocument
    else if text = migratedText then some migratedConfig.serialize
    else none
  write _ := .ok migratedText
  parseAddr := sampleAddr
  currentError _ := "missing field"

lemma migratedText_ne : migratedText ≠ legacyText := by
  intro h
  have hhead := congrArg (fun text : String => text.toList.head?) h
  simp only [migratedText, legacyText, String.toList_append, List.head?_append] at hhead
  exact absurd hhead (by decide)

lemma sampleLibrary_roundTrips : sampleLibrary.RoundTrips migratedConfig where
  document text hwrite := by
    have htext : migratedText = text := Except.ok.inj hwrite
    rw [← htext]
    simp only [sampleLibrary, if_neg migratedText_ne, if_true]
  httpBind := by decide +kernel
  httpsBind := by decide +kernel

/-- The route keeps its certificate, and the file is stable. -/
theorem legacyText_read :
    ProxyConfig.read sampleLibrary CertificateManager.parseLocalhost "proxy.toml" (.ok legacyText) =
        .ok migratedConfig ∧
      List.Forall₂ (MigratedRoute legacyConfig migratedConfig) legacyConfig.routes
        migratedConfig.routes ∧
      ProxyConfig.read sampleLibrary CertificateManager.parseLocalhost "proxy.toml"
        (.ok migratedText) = .ok migratedConfig := by
  have hparse : sampleLibrary.parse legacyText = some legacyDocument := by
    simp only [sampleLibrary, if_true]
  have hcurrent : sampleLibrary.current legacyText = none := by
    rw [ConfigLibrary.current, hparse]
    rfl
  have hlegacy : sampleLibrary.legacy legacyText = some legacyConfig := by
    rw [ConfigLibrary.legacy, hparse]
    rfl
  have hmigrate : legacyConfig.migrate = .ok legacyConfig.current := rfl
  have hread : ProxyConfig.read sampleLibrary CertificateManager.parseLocalhost "proxy.toml"
      (.ok legacyText) = .ok migratedConfig :=
    ProxyConfig.read_legacy hcurrent hlegacy hmigrate (by decide +kernel)
  obtain ⟨hroutes, hagain⟩ := (ProxyConfig.read_both_forms sampleLibrary
    CertificateManager.parseLocalhost legacyText).2 "proxy.toml" _ _ hcurrent hlegacy hread
  exact ⟨hread, hroutes, hagain sampleLibrary_roundTrips "proxy.toml" migratedText rfl⟩

end GateRust.Proxy
