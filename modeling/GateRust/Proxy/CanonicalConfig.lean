/-
# Validated configurations are canonical

What `ProxyConfig::validate` returns passes the validation again and stays as it is.  The validation
checks each name against the names before it while it still writes the normal forms back; so the
checks of a second run meet the same values as those of the first.
-/
import GateRust.Proxy.NormalForm
import GateRust.Proxy.Router

namespace GateRust.Proxy

variable {parseUri : String → Option Uri}

/-! ## Validating again -/

/-- Only the clean name of a domain matters. -/
lemma normalizeDomain_congr {value value' : String} (h : cleanHost value = cleanHost value') :
    normalizeDomain value = normalizeDomain value' := by
  simp only [normalizeDomain, h]

lemma normalizeRouteHost_cleanHost {value host : String} (h : normalizeRouteHost value = .ok host) :
    normalizeRouteHost (cleanHost (cleanHost value)) = .ok host := by
  obtain ⟨hhost, hclean⟩ := normalizeRouteHost_ok h
  have hvalue : normalizeDomain (cleanHost value) = normalizeDomain host :=
    normalizeDomain_congr (hhost.symm.trans hclean.symm)
  rw [← hhost]
  simp only [normalizeRouteHost, hclean] at h ⊢
  split_ifs with hlocal
  · rfl
  · rw [← hvalue]
    split_ifs at h with hother
    · exact absurd ((Except.ok.inj h).symm.trans hother) hlocal
    · exact h

lemma validateDomain_cleanHost {certificate : CertificateConfig} {seen seen' : SeenDomains}
    {domain : String} (h : validateDomain certificate seen domain = .ok seen') :
    validateDomain certificate seen (cleanHost domain) = .ok seen' := by
  obtain ⟨value, hvalue, -⟩ := Except.exists_ok_of_bind h
  have hclean : cleanHost (cleanHost domain) = cleanHost domain := (validateDomain_normal h).2
  simp only [validateDomain, normalizeDomain_congr hclean]
  exact h

/-- The normal form of a certificate passes the same checks, with the same result. -/
lemma CertificateConfig.validate_again {certificate checked : CertificateConfig}
    {acmeIds dnsIds : List String} {owners owners' : HashMap String String}
    (h : certificate.validate acmeIds dnsIds owners = .ok (checked, owners')) :
    certificate.normal.validate acmeIds dnsIds owners = .ok (checked, owners') := by
  obtain ⟨⟨⟩, hchecks, h⟩ := Except.exists_ok_of_bind h
  obtain ⟨seen, hdomains, h⟩ := Except.exists_ok_of_bind h
  have hempty : (certificate.normal.domains = []) = (certificate.domains = []) :=
    propext List.map_eq_nil_iff
  have hlength : certificate.normal.domains.length = certificate.domains.length :=
    List.length_map _
  refine Except.bind_ok (a := ()) ?_ (Except.bind_ok
    (Except.foldlM_map_ok hdomains fun _ _ _ hd => validateDomain_cleanHost hd) h)
  simp only [hempty, hlength]
  exact hchecks

lemma validateCertificate_again {acmeIds dnsIds : List String} {seen seen' : SeenCertificates}
    {certificate : CertificateConfig}
    (h : validateCertificate acmeIds dnsIds seen certificate = .ok seen') :
    validateCertificate acmeIds dnsIds seen certificate.normal = .ok seen' := by
  obtain ⟨⟨⟩, hid, h⟩ := Except.exists_ok_of_bind h
  obtain ⟨⟨⟩, hname, h⟩ := Except.exists_ok_of_bind h
  obtain ⟨⟨⟩, hunique, h⟩ := Except.exists_ok_of_bind h
  obtain ⟨⟨checked, owners⟩, hchecked, h⟩ := Except.exists_ok_of_bind h
  exact Except.bind_ok hid (Except.bind_ok hname (Except.bind_ok hunique
    (Except.bind_ok (CertificateConfig.validate_again hchecked) h)))

/-- Of the host of a route only the normal form matters. -/
lemma validateRoute_host {ids : List String} {owners : HashMap String String}
    {seen seen' : SeenRoutes} {route : RouteConfig} {value : String}
    (hvalue : ∀ host, normalizeRouteHost route.host = .ok host →
      normalizeRouteHost value = .ok host)
    (h : validateRoute parseUri ids owners seen route = .ok seen') :
    validateRoute parseUri ids owners seen { route with host := value } = .ok seen' := by
  obtain ⟨⟨⟩, hname, h⟩ := Except.exists_ok_of_bind h
  obtain ⟨names, hnames, h⟩ := Except.exists_ok_of_bind h
  obtain ⟨host, hhost, h⟩ := Except.exists_ok_of_bind h
  exact Except.bind_ok hname (Except.bind_ok hnames (Except.bind_ok (hvalue host hhost) h))

lemma validateRoute_again {ids : List String} {owners : HashMap String String}
    {seen seen' : SeenRoutes} {route : RouteConfig}
    (h : validateRoute parseUri ids owners seen route = .ok seen') :
    validateRoute parseUri ids owners seen route.normal = .ok seen' :=
  validateRoute_host (fun _ hhost => normalizeRouteHost_cleanHost hhost) h

/-- The validation changes nothing in a configuration that it has returned. -/
lemma ProxyConfig.validate_again {raw config : ProxyConfig}
    (h : raw.validate parseUri = .ok config) : config.validate parseUri = .ok config := by
  obtain ⟨rfl, -, -⟩ := ProxyConfig.validate_normal h
  obtain ⟨⟨⟩, hchecks, h⟩ := Except.exists_ok_of_bind h
  obtain ⟨acme, hacme, h⟩ := Except.exists_ok_of_bind h
  obtain ⟨dns, hdns, h⟩ := Except.exists_ok_of_bind h
  obtain ⟨seen, hcertificates, h⟩ := Except.exists_ok_of_bind h
  obtain ⟨routes, hroutes, h⟩ := Except.exists_ok_of_bind h
  have hcertificateCount : raw.normal.certificates.length = raw.certificates.length :=
    List.length_map _
  have hrouteCount : raw.normal.routes.length = raw.routes.length := List.length_map _
  refine Except.bind_ok (a := ()) ?_ (Except.bind_ok hacme (Except.bind_ok hdns (Except.bind_ok
    (Except.foldlM_map_ok hcertificates fun _ _ _ hc => validateCertificate_again hc)
    (Except.bind_ok (Except.foldlM_map_ok hroutes fun _ _ _ hr => validateRoute_again hr) h))))
  simp only [hcertificateCount, hrouteCount]
  exact hchecks

/-! ## Canonical configurations -/

/-- A name in lower case, without surrounding blanks and without a closing dot. -/
structure CleanName (name : String) : Prop where
  trimmed : trim name = name.toList
  closed : name.toList.getLast? ≠ some '.'
  lower : ∀ c ∈ name.toList, c.toLower = c

lemma trim_infix (value : String) : trim value <:+: value.toList :=
  (List.rdropWhile_prefix _ _).isInfix.trans (List.dropWhile_suffix _).isInfix

/-- What cleaning leaves as it is was clean: cleaning takes characters away, and the length tells
that there were none to take. -/
lemma cleanName_of_cleanHost {name : String} (h : cleanHost name = name) : CleanName name := by
  have hlist : ((trim name).rdropWhile (· = '.')).map Char.toLower = name.toList := by
    rw [← String.toList_ofList (l := ((trim name).rdropWhile (· = '.')).map Char.toLower)]
    exact congrArg String.toList h
  have hlength : ((trim name).rdropWhile (· = '.')).length = name.toList.length := by
    rw [← hlist, List.length_map]
  have hpre : (trim name).rdropWhile (· = '.') <+: trim name := List.rdropWhile_prefix _ _
  have hinfix : trim name <:+: name.toList := trim_infix name
  have htrim : trim name = name.toList := by
    refine hinfix.eq_of_length (le_antisymm hinfix.length_le ?_)
    exact hlength.symm.le.trans hpre.length_le
  have hclosed : name.toList.rdropWhile (· = '.') = name.toList := by
    rw [htrim] at hlength hpre
    exact hpre.eq_of_length hlength
  refine ⟨htrim, ?_, ?_⟩
  · intro hlast
    obtain ⟨front, hfront⟩ := List.getLast?_eq_some_iff.mp hlast
    rw [hfront, List.rdropWhile_concat_pos _ _ _ (by simp)] at hclosed
    have hle := (List.rdropWhile_prefix (fun c : Char => decide (c = '.')) front).length_le
    rw [hclosed, List.length_append, List.length_singleton] at hle
    omega
  · intro c hc
    exact toLower_of_mem_cleanHost (h.symm ▸ hc)

/-- The names of a configuration are clean and unique, and every reference meets its target. -/
structure ProxyConfig.Canonical (config : ProxyConfig) : Prop where
  domains : ∀ c ∈ config.certificates, ∀ domain ∈ c.domains, CleanName domain
  hosts : ∀ r ∈ config.routes, CleanName r.host
  domains_nodup : (config.certificates.flatMap (·.domains)).Nodup
  keys_nodup : (config.routes.map fun r => (r.host, r.pathPrefix)).Nodup
  acmeAccounts : ∀ c ∈ config.certificates, ∃ a ∈ config.acmeAccounts, a.id = c.acmeAccountId
  dnsAccounts : ∀ c ∈ config.certificates, ∀ id, c.validation = some (.dnsAccount id) →
    ∃ a ∈ config.dnsAccounts, a.id = id
  certificates : ∀ r ∈ config.routes, ∀ id, r.certificateId = some id →
    ∃ c ∈ config.certificates, c.id = id
  renew : ∀ c ∈ config.certificates, c.validation = none ∨ c.validation = some .manual →
    c.autoRenew = false

/-! ## What the checks of one element leave -/

lemma validateDomain_new {certificate : CertificateConfig} {seen seen' : SeenDomains}
    {domain : String} (h : validateDomain certificate seen domain = .ok seen') :
    cleanHost domain ∉ seen.domains := by
  obtain ⟨value, hvalue, h⟩ := Except.exists_ok_of_bind h
  obtain ⟨rfl, -⟩ := normalizeDomain_ok hvalue
  obtain ⟨⟨⟩, hunique, -⟩ := Except.exists_ok_of_bind h
  simpa using Except.of_reject_ok hunique List.mem_cons_self

/-- What the checks of a certificate say about it. -/
structure CertificateConfig.Checked (acmeIds dnsIds : List String)
    (certificate : CertificateConfig) : Prop where
  acmeAccount : certificate.acmeAccountId ∈ acmeIds
  validation : (certificate.checkValidation dnsIds).1 = false
  domains : ∀ domain ∈ certificate.domains, cleanHost (cleanHost domain) = cleanHost domain
  domains_nodup : (certificate.domains.map cleanHost).Nodup

lemma validateCertificate_checked {acmeIds dnsIds : List String} {seen seen' : SeenCertificates}
    {certificate : CertificateConfig}
    (h : validateCertificate acmeIds dnsIds seen certificate = .ok seen') :
    certificate.Checked acmeIds dnsIds := by
  obtain ⟨-, -, h⟩ := Except.exists_ok_of_bind h
  obtain ⟨-, -, h⟩ := Except.exists_ok_of_bind h
  obtain ⟨-, -, h⟩ := Except.exists_ok_of_bind h
  obtain ⟨⟨checked, owners⟩, h, -⟩ := Except.exists_ok_of_bind h
  obtain ⟨⟨⟩, hchecks, h⟩ := Except.exists_ok_of_bind h
  obtain ⟨seen, hdomains, -⟩ := Except.exists_ok_of_bind h
  have hacme := Except.of_reject_ok hchecks List.mem_cons_self
  refine ⟨by simpa using hacme, Except.of_reject_ok hchecks (by simp), ?_, ?_⟩
  · exact Except.foldlM_forall hdomains fun _ _ _ hd => (validateDomain_normal hd).2
  · refine Except.foldlM_nodup (o := fun seen => seen.domains.reverse) hdomains rfl ?_
    intro seen domain seen' hd
    refine ⟨fun hmem => validateDomain_new hd (List.mem_reverse.mp hmem), ?_⟩
    rw [(validateDomain_normal hd).1, List.reverse_append]
    rfl

/-- What the checks of a route say about it. -/
structure RouteConfig.Checked (parseUri : String → Option Uri) (certificateIds : List String)
    (route : RouteConfig) : Prop where
  host : cleanHost (cleanHost (cleanHost route.host)) = cleanHost (cleanHost route.host)
  pathPrefix : route.pathPrefix.toList.head? = some '/'
  upstream : (parseUri route.upstream).isSome = true
  certificate : ∀ id, route.certificateId = some id → id ∈ certificateIds

lemma validatePathPrefix_ok {value : String} (h : validatePathPrefix value = .ok ()) :
    value.toList.head? = some '/' := by
  have hchecks := Except.of_reject_ok h List.mem_cons_self
  rw [Bool.or_eq_false_iff, decide_eq_false_iff_not, not_not] at hchecks
  exact hchecks.1

lemma validateUpstream_ok {value : String} (h : validateUpstream parseUri value = .ok ()) :
    (parseUri value).isSome = true := by
  rw [validateUpstream] at h
  cases hparse : parseUri value with
  | none =>
    rw [hparse] at h
    cases h
  | some uri => rfl

lemma validateBinding_ok {ids : List String} {owners : HashMap String String} {name host : String}
    {certificateId : Option String}
    (h : validateBinding ids owners name host certificateId = .ok ()) {id : String}
    (hid : certificateId = some id) : id ∈ ids := by
  rw [hid, validateBinding] at h
  simpa using Except.of_reject_ok h List.mem_cons_self

lemma validateRoute_checked {ids : List String} {owners : HashMap String String}
    {seen seen' : SeenRoutes} {route : RouteConfig}
    (h : validateRoute parseUri ids owners seen route = .ok seen') :
    route.Checked parseUri ids ∧
      (cleanHost (cleanHost route.host), route.pathPrefix) ∉ seen.keys ∧
      seen'.keys = (cleanHost (cleanHost route.host), route.pathPrefix) :: seen.keys := by
  obtain ⟨-, -, h⟩ := Except.exists_ok_of_bind h
  obtain ⟨names, -, h⟩ := Except.exists_ok_of_bind h
  obtain ⟨host, hhost, h⟩ := Except.exists_ok_of_bind h
  obtain ⟨⟨⟩, hpre, h⟩ := Except.exists_ok_of_bind h
  obtain ⟨⟨⟩, hupstream, h⟩ := Except.exists_ok_of_bind h
  obtain ⟨⟨⟩, hunique, h⟩ := Except.exists_ok_of_bind h
  obtain ⟨⟨⟩, hbinding, h⟩ := Except.exists_ok_of_bind h
  cases h
  obtain ⟨rfl, hclean⟩ := normalizeRouteHost_ok hhost
  refine ⟨⟨hclean, validatePathPrefix_ok hpre, validateUpstream_ok hupstream,
    fun _ => validateBinding_ok hbinding⟩, ?_, rfl⟩
  simpa using Except.of_reject_ok hunique List.mem_cons_self

/-! ## The whole configuration -/

lemma checkValidation_dnsAccount {certificate : CertificateConfig} {dnsIds : List String}
    {id : String} (h : (certificate.checkValidation dnsIds).1 = false)
    (hid : certificate.validation = some (.dnsAccount id)) : id ∈ dnsIds := by
  simpa [CertificateConfig.checkValidation, hid] using h

/-- No domain occurs twice, neither within a certificate nor in two of them. -/
lemma ProxyConfig.Regular.domains_nodup {config : ProxyConfig} (h : config.Regular)
    (hown : ∀ c ∈ config.certificates, c.domains.Nodup) :
    (config.certificates.flatMap (·.domains)).Nodup := by
  refine List.nodup_flatMap.mpr ⟨hown, ?_⟩
  refine List.Pairwise.imp_of_mem ?_ (List.pairwise_map.mp h.ids)
  intro c c' hc hc' hne domain hd hd'
  exact hne (congrArg (·.id) (h.eq_of_domain hc hc' hd hd'))

lemma ProxyConfig.canonical {raw config : ProxyConfig} (h : raw.validate parseUri = .ok config) :
    config.Canonical ∧ (∀ r ∈ config.routes, (parseUri r.upstream).isSome = true) ∧
      ∀ r ∈ config.routes, r.pathPrefix.toList.head? = some '/' := by
  have hregular : config.Regular := ProxyConfig.Validated.regular ⟨raw, h⟩
  obtain ⟨rfl, -, -⟩ := ProxyConfig.validate_normal h
  obtain ⟨-, -, h⟩ := Except.exists_ok_of_bind h
  obtain ⟨-, -, h⟩ := Except.exists_ok_of_bind h
  obtain ⟨-, -, h⟩ := Except.exists_ok_of_bind h
  obtain ⟨seen, hcertificates, h⟩ := Except.exists_ok_of_bind h
  obtain ⟨routes, hroutes, h⟩ := Except.exists_ok_of_bind h
  have hids : seen.ids.Perm (raw.normal.certificates.map (·.id)) := by
    rw [← Except.ok.inj h]
    exact (validateCertificates_ok hcertificates).ids
  have hchecked : ∀ c ∈ raw.certificates, c.Checked _ _ :=
    Except.foldlM_forall hcertificates fun _ _ _ hc => validateCertificate_checked hc
  have hrouted : ∀ r ∈ raw.routes, r.Checked parseUri seen.ids :=
    Except.foldlM_forall hroutes fun _ _ _ hr => (validateRoute_checked hr).1
  have hkeys : (raw.routes.map fun r => (cleanHost (cleanHost r.host), r.pathPrefix)).Nodup :=
    Except.foldlM_nodup (o := SeenRoutes.keys) hroutes rfl
      fun _ _ _ hr => (validateRoute_checked hr).2
  have hcs : ∀ {c}, c ∈ raw.normal.certificates → ∃ c' ∈ raw.certificates, c'.normal = c :=
    List.mem_map.mp
  have hrs : ∀ {r}, r ∈ raw.normal.routes → ∃ r' ∈ raw.routes, r'.normal = r := List.mem_map.mp
  refine ⟨?_, ?_, ?_⟩
  · constructor
    case domains =>
      intro c hc domain hd
      obtain ⟨c', hc', rfl⟩ := hcs hc
      obtain ⟨domain', hd', rfl⟩ := List.mem_map.mp hd
      exact cleanName_of_cleanHost ((hchecked c' hc').domains domain' hd')
    case hosts =>
      intro r hr
      obtain ⟨r', hr', rfl⟩ := hrs hr
      exact cleanName_of_cleanHost (hrouted r' hr').host
    case domains_nodup =>
      refine hregular.domains_nodup fun c hc => ?_
      obtain ⟨c', hc', rfl⟩ := hcs hc
      exact (hchecked c' hc').domains_nodup
    case keys_nodup =>
      have hmap : raw.normal.routes.map (fun r => (r.host, r.pathPrefix)) =
          raw.routes.map fun r => (cleanHost (cleanHost r.host), r.pathPrefix) := by
        simp only [ProxyConfig.normal, List.map_map, Function.comp_def,
          RouteConfig.normal_pathPrefix]
        rfl
      rw [hmap]
      exact hkeys
    case acmeAccounts =>
      intro c hc
      obtain ⟨c', hc', rfl⟩ := hcs hc
      exact List.mem_map.mp (hchecked c' hc').acmeAccount
    case dnsAccounts =>
      intro c hc id hid
      obtain ⟨c', hc', rfl⟩ := hcs hc
      exact List.mem_map.mp (checkValidation_dnsAccount (hchecked c' hc').validation hid)
    case certificates =>
      intro r hr id hid
      obtain ⟨r', hr', rfl⟩ := hrs hr
      rw [RouteConfig.normal_certificateId] at hid
      exact List.mem_map.mp (hids.mem_iff.mp ((hrouted r' hr').certificate id hid))
    case renew =>
      intro c hc hother
      refine Bool.eq_false_iff.mpr fun hrenew => ?_
      obtain ⟨id, hid⟩ := hregular.renew c hc hrenew
      rcases hother with hnone | hmanual
      · rw [hnone] at hid
        cases hid
      · rw [hmanual] at hid
        cases hid
  · intro r hr
    obtain ⟨r', hr', rfl⟩ := hrs hr
    rw [RouteConfig.normal_upstream]
    exact (hrouted r' hr').upstream
  · intro r hr
    obtain ⟨r', hr', rfl⟩ := hrs hr
    rw [RouteConfig.normal_pathPrefix]
    exact (hrouted r' hr').pathPrefix

/-- The router is built where the upstream addresses can be read. -/
lemma Router.exists_new {config : ProxyConfig}
    (h : ∀ r ∈ config.routes, (parseUri r.upstream).isSome = true) :
    ∃ router, Router.new parseUri config = .ok router := by
  obtain ⟨tables, htables⟩ : ∃ tables, config.routes.foldlM (addRoute parseUri) ⟨∅, ∅⟩ =
      .ok tables := by
    refine Except.exists_foldlM_ok (fun r hr tables => ?_) _
    obtain ⟨uri, huri⟩ := Option.isSome_iff_exists.mp (h r hr)
    have hentry : routeEntry parseUri r =
        .ok ⟨r.pathPrefix, r.name, uri, r.certificateId.isSome⟩ := by
      rw [routeEntry, huri]
    simp only [addRoute, hentry]
    cases CertificateResolver.wildcardSuffix r.host with
    | some suffix => exact ⟨_, rfl⟩
    | none => exact ⟨_, rfl⟩
  exact ⟨_, Except.bind_ok htables rfl⟩

/-- **A validated configuration is canonical and closed.**  It passes the validation again and is
not changed by it; its names are clean and unique; all its references meet their targets; only
certificates with a DNS account renew themselves; and the router is built from it. -/
theorem ProxyConfig.validate_canonical (parseUri : String → Option Uri) (raw config : ProxyConfig)
    (h : raw.validate parseUri = .ok config) :
    config.validate parseUri = .ok config ∧ config.Canonical ∧
      ∃ router, Router.new parseUri config = .ok router := by
  obtain ⟨hcanonical, hupstreams, -⟩ := ProxyConfig.canonical h
  exact ⟨ProxyConfig.validate_again h, hcanonical, Router.exists_new hupstreams⟩

/-- Names with blanks, closing dots and capital letters. -/
def untidyConfig : ProxyConfig :=
  { CertificateManager.pairConfig [" *.Example.COM. "] ["a.example.com"] with
    routes := [⟨"site", "B.example.com.", "/", "http://127.0.0.1:3000", some "first"⟩] }

/-- The names come out clean. -/
theorem untidyConfig_canonical :
    ∃ config, untidyConfig.validate CertificateManager.parseLocalhost = .ok config ∧
      config.validate CertificateManager.parseLocalhost = .ok config ∧ config.Canonical ∧
      config.routes.map (·.host) = ["b.example.com"] ∧
      config.certificates.map (·.domains) = [["*.example.com"], ["a.example.com"]] := by
  have hvalid : untidyConfig.validate CertificateManager.parseLocalhost =
      .ok { CertificateManager.pairConfig ["*.example.com"] ["a.example.com"] with
        routes := [⟨"site", "b.example.com", "/", "http://127.0.0.1:3000", some "first"⟩] } := by
    decide +kernel
  obtain ⟨hagain, hcanonical, -⟩ := ProxyConfig.validate_canonical _ _ _ hvalid
  exact ⟨_, hvalid, hagain, hcanonical, rfl, rfl⟩

end GateRust.Proxy
