/-
# The normal form of the proxy configuration

`ProxyConfig::validate` writes the domains of the certificates and the hosts of the routes back in
a normal form: without surrounding blanks and closing dots, in lower case.  What has passed the
validation is in normal form, and validating it once more changes nothing in it.
-/
import GateRust.Proxy.Validation

namespace GateRust.Proxy

open CertificateResolver (wildcardSuffix)

/-! ## Names in normal form -/

def CertificateConfig.normal (certificate : CertificateConfig) : CertificateConfig :=
  { certificate with domains := certificate.domains.map cleanHost }

/-- The host of a route is cleaned twice, by `normalize_route_host` and by `normalize_domain`. -/
def RouteConfig.normal (route : RouteConfig) : RouteConfig :=
  { route with host := cleanHost (cleanHost route.host) }

@[simp] lemma RouteConfig.normal_pathPrefix (route : RouteConfig) :
    route.normal.pathPrefix = route.pathPrefix := by rw [RouteConfig.normal]

@[simp] lemma RouteConfig.normal_upstream (route : RouteConfig) :
    route.normal.upstream = route.upstream := by rw [RouteConfig.normal]

@[simp] lemma RouteConfig.normal_certificateId (route : RouteConfig) :
    route.normal.certificateId = route.certificateId := by rw [RouteConfig.normal]

def ProxyConfig.normal (config : ProxyConfig) : ProxyConfig :=
  { config with
    certificates := config.certificates.map CertificateConfig.normal
    routes := config.routes.map RouteConfig.normal }

/-- The characters of a valid label. -/
lemma isWhitespace_of_label {c : Char} (h : (c.isAlphanum || c = '-') = true) :
    isWhitespace c = false := by
  have hcode : c.toNat = 45 ∨ (48 ≤ c.toNat ∧ c.toNat ≤ 57) ∨ (65 ≤ c.toNat ∧ c.toNat ≤ 90) ∨
      (97 ≤ c.toNat ∧ c.toNat ≤ 122) := by
    delta Char.isAlphanum Char.isAlpha Char.isUpper Char.isLower Char.isDigit at h
    simp only [Bool.or_eq_true, Bool.and_eq_true, decide_eq_true_eq, ge_iff_le,
      UInt32.le_iff_toNat_le] at h
    rcases h with ((h | h) | h) | rfl
    · exact .inr (.inr (.inl h))
    · exact .inr (.inr (.inr h))
    · exact .inr (.inl h)
    · exact .inl rfl
  simp only [isWhitespace, Bool.or_eq_false_iff, Bool.and_eq_false_iff, decide_eq_false_iff_not]
  omega

lemma trim_eq_toList {value : String} (h : ∀ c ∈ value.toList, isWhitespace c = false) :
    trim value = value.toList := by
  have hstart : value.toList.dropWhile isWhitespace = value.toList := by
    rw [List.dropWhile_eq_self_iff]
    intro hlength
    rw [h _ (List.getElem_mem hlength)]
    exact Bool.false_ne_true
  rw [trim, hstart, List.rdropWhile_eq_self_iff]
  intro hne
  rw [h _ (List.getLast_mem hne)]
  exact Bool.false_ne_true

/-- A name in lower case without blanks and without a closing dot is clean. -/
lemma cleanHost_eq_self {value : String} (hblank : ∀ c ∈ value.toList, isWhitespace c = false)
    (hdot : value.toList.getLast? ≠ some '.') (hlower : ∀ c ∈ value.toList, c.toLower = c) :
    cleanHost value = value := by
  have hend : value.toList.rdropWhile (· = '.') = value.toList := by
    rw [List.rdropWhile_eq_self_iff]
    intro hne hlast
    rw [List.getLast?_eq_some_getLast hne, of_decide_eq_true hlast] at hdot
    exact hdot rfl
  have hmap : value.toList.map Char.toLower = value.toList := by
    rw [List.map_congr_left hlower, List.map_id']
  rw [cleanHost, trim_eq_toList hblank, hend, hmap, String.ofList_toList]

lemma toLower_toLower (c : Char) : c.toLower.toLower = c.toLower := by
  unfold Char.toLower
  split
  · rename_i hupper
    obtain ⟨hge, hle⟩ := hupper
    -- the letter in lower case is above the capitals
    refine dif_neg fun ⟨_, habove⟩ => ?_
    rw [ge_iff_le, UInt32.le_iff_toNat_le] at hge
    rw [UInt32.le_iff_toNat_le] at hle habove
    have hA : 'A'.val.toNat = 65 := rfl
    have hZ : 'Z'.val.toNat = 90 := rfl
    have hshift : ('a'.val - 'A'.val).toNat = 32 := rfl
    rw [UInt32.toNat_add, hshift] at habove
    omega
  · rfl

lemma toLower_of_mem_cleanHost {value : String} {c : Char} (h : c ∈ (cleanHost value).toList) :
    c.toLower = c := by
  rw [cleanHost, String.toList_ofList] at h
  obtain ⟨d, -, rfl⟩ := List.mem_map.mp h
  exact toLower_toLower d

/-! ## Valid labels -/

lemma mem_of_mem_intercalate {s : List Char} {labels : List (List Char)} {c : Char}
    (h : c ∈ s.intercalate labels) : c ∈ s ∨ ∃ label ∈ labels, c ∈ label := by
  induction labels with
  | nil => cases h
  | cons label labels ih =>
    cases labels with
    | nil =>
      rw [List.intercalate_singleton] at h
      exact .inr ⟨label, List.mem_cons_self, h⟩
    | cons label' labels =>
      rw [List.intercalate_cons_cons, List.mem_append, List.mem_append] at h
      rcases h with (h | h) | h
      · exact .inr ⟨label, List.mem_cons_self, h⟩
      · exact .inl h
      · obtain h | ⟨found, hfound, hc⟩ := ih h
        · exact .inl h
        · exact .inr ⟨found, List.mem_cons_of_mem label hfound, hc⟩

/-- All labels of the name are valid. -/
def Labelled (name : List Char) : Prop := ∀ label ∈ name.splitOn '.', invalidLabel label = false

lemma Labelled.isWhitespace_eq {name : List Char} (h : Labelled name) :
    ∀ c ∈ name, isWhitespace c = false := by
  intro c hc
  have hname : ['.'].intercalate (name.splitOn '.') = name := List.intercalate_splitOn '.'
  rw [← hname] at hc
  obtain hdot | ⟨label, hlabel, hc⟩ := mem_of_mem_intercalate hc
  · rw [List.mem_singleton.mp hdot]
    rfl
  · have hvalid := h label hlabel
    simp only [invalidLabel, Bool.or_eq_false_iff, Bool.not_eq_false'] at hvalid
    exact isWhitespace_of_label (List.all_eq_true.mp hvalid.2 c hc)

/-- A closing dot would leave an empty label behind it. -/
lemma Labelled.getLast?_ne {name : List Char} (h : Labelled name) : name.getLast? ≠ some '.' := by
  intro hlast
  obtain ⟨front, rfl⟩ := List.getLast?_eq_some_iff.mp hlast
  have hempty : [] ∈ (front ++ ['.']).splitOn '.' := by
    rw [List.splitOn_append_cons_self, List.splitOn_nil]
    exact List.mem_append_right _ List.mem_cons_self
  exact absurd (h [] hempty) (by decide)

/-- A valid domain is in normal form. -/
lemma normalizeDomain_ok {value domain : String} (h : normalizeDomain value = .ok domain) :
    domain = cleanHost value ∧ cleanHost domain = domain := by
  obtain ⟨⟨⟩, hchecks, h⟩ := Except.exists_ok_of_bind h
  obtain rfl : cleanHost value = domain := Except.ok.inj h
  refine ⟨rfl, ?_⟩
  have hvalid := Except.of_reject_ok hchecks List.mem_cons_self
  simp only [Bool.or_eq_false_iff, decide_eq_false_iff_not] at hvalid
  obtain ⟨⟨⟨hne, -⟩, -⟩, hlabels⟩ := hvalid
  have hlower : ∀ c ∈ (cleanHost value).toList, c.toLower = c := fun c => toLower_of_mem_cleanHost
  generalize cleanHost value = domain at *
  have hlabelled : Labelled ((wildcardSuffix domain).getD domain).toList := by
    intro label hlabel
    rw [List.any_eq_false] at hlabels
    exact Bool.not_eq_true _ ▸ hlabels label hlabel
  unfold wildcardSuffix at hne hlabelled
  split at hlabelled
  case h_1 suffix hstar =>
    rw [Option.getD_some, String.toList_ofList] at hlabelled
    refine cleanHost_eq_self ?_ ?_ hlower
    · intro c hc
      rw [hstar, List.mem_cons, List.mem_cons] at hc
      obtain rfl | rfl | hc := hc
      · rfl
      · rfl
      · exact hlabelled.isWhitespace_eq c hc
    · have hsuffix : suffix ≠ [] := by
        rintro rfl
        rw [hstar] at hne
        exact hne rfl
      rw [hstar, List.getLast?_cons_of_ne_nil (List.cons_ne_nil _ _),
        List.getLast?_cons_of_ne_nil hsuffix]
      exact hlabelled.getLast?_ne
  case h_2 =>
    exact cleanHost_eq_self hlabelled.isWhitespace_eq hlabelled.getLast?_ne hlower

lemma cleanHost_localhost : cleanHost "localhost" = "localhost" := by
  have htoList : "localhost".toList = ['l', 'o', 'c', 'a', 'l', 'h', 'o', 's', 't'] := by simp
  refine cleanHost_eq_self ?_ ?_ ?_ <;> rw [htoList]
  · simp [isWhitespace]
  · simp
  · simp only [List.forall_mem_cons]
    exact ⟨rfl, rfl, rfl, rfl, rfl, rfl, rfl, rfl, rfl, by simp⟩

lemma normalizeRouteHost_ok {value host : String} (h : normalizeRouteHost value = .ok host) :
    host = cleanHost (cleanHost value) ∧ cleanHost host = host := by
  simp only [normalizeRouteHost] at h
  split at h
  case isTrue hlocal =>
    obtain rfl : cleanHost value = host := Except.ok.inj h
    rw [hlocal, cleanHost_localhost]
    exact ⟨rfl, cleanHost_localhost⟩
  case isFalse => exact normalizeDomain_ok h

/-! ## The validation gives the normal form -/

section Validate

variable {parseUri : String → Option Uri}

lemma validateDomain_normal {certificate : CertificateConfig} {seen seen' : SeenDomains}
    {domain : String} (h : validateDomain certificate seen domain = .ok seen') :
    seen'.domains = seen.domains ++ [cleanHost domain] ∧
      cleanHost (cleanHost domain) = cleanHost domain := by
  obtain ⟨value, hvalue, h⟩ := Except.exists_ok_of_bind h
  obtain ⟨rfl, hclean⟩ := normalizeDomain_ok hvalue
  obtain ⟨-, -, h⟩ := Except.exists_ok_of_bind h
  refine ⟨?_, hclean⟩
  cases hv : seen.owners.lookup (cleanHost domain) with
  | none =>
    simp only [hv] at h
    cases h
    rfl
  | some owner =>
    simp only [hv] at h
    cases h

lemma CertificateConfig.normal_normal {certificate : CertificateConfig}
    (h : ∀ d ∈ certificate.domains, cleanHost (cleanHost d) = cleanHost d) :
    certificate.normal.normal = certificate.normal := by
  have hdomains : (certificate.domains.map cleanHost).map cleanHost =
      certificate.domains.map cleanHost := by
    rw [List.map_map]
    exact List.map_congr_left h
  rw [CertificateConfig.normal, CertificateConfig.normal, hdomains]

lemma validateCertificate_normal {acmeIds dnsIds : List String} {seen seen' : SeenCertificates}
    {certificate : CertificateConfig}
    (h : validateCertificate acmeIds dnsIds seen certificate = .ok seen') :
    seen'.certificates = seen.certificates ++ [certificate.normal] ∧
      certificate.normal.normal = certificate.normal := by
  obtain ⟨-, -, h⟩ := Except.exists_ok_of_bind h
  obtain ⟨-, -, h⟩ := Except.exists_ok_of_bind h
  obtain ⟨-, -, h⟩ := Except.exists_ok_of_bind h
  obtain ⟨⟨checked, owners⟩, hcertificate, h⟩ := Except.exists_ok_of_bind h
  cases h
  obtain ⟨-, -, hcertificate⟩ := Except.exists_ok_of_bind hcertificate
  obtain ⟨domains, hdomains, hcertificate⟩ := Except.exists_ok_of_bind hcertificate
  cases hcertificate
  have hnormal : domains.domains = certificate.domains.map cleanHost :=
    Except.foldlM_map (o := SeenDomains.domains) hdomains rfl
      fun _ _ _ hd => (validateDomain_normal hd).1
  have hclean := Except.foldlM_forall hdomains fun _ _ _ hd => (validateDomain_normal hd).2
  refine ⟨?_, CertificateConfig.normal_normal hclean⟩
  rw [CertificateConfig.normal, ← hnormal]

lemma validateRoute_normal {ids : List String} {owners : HashMap String String}
    {seen seen' : SeenRoutes} {route : RouteConfig}
    (h : validateRoute parseUri ids owners seen route = .ok seen') :
    seen'.routes = seen.routes ++ [route.normal] ∧ route.normal.normal = route.normal := by
  obtain ⟨-, -, h⟩ := Except.exists_ok_of_bind h
  obtain ⟨names, -, h⟩ := Except.exists_ok_of_bind h
  obtain ⟨host, hhost, h⟩ := Except.exists_ok_of_bind h
  obtain ⟨-, -, h⟩ := Except.exists_ok_of_bind h
  obtain ⟨-, -, h⟩ := Except.exists_ok_of_bind h
  obtain ⟨-, -, h⟩ := Except.exists_ok_of_bind h
  obtain ⟨-, -, h⟩ := Except.exists_ok_of_bind h
  cases h
  obtain ⟨rfl, hclean⟩ := normalizeRouteHost_ok hhost
  refine ⟨rfl, ?_⟩
  rw [RouteConfig.normal, RouteConfig.normal, hclean, hclean]

/-- **The validation gives the normal form**, which stays as it is when it is validated again. -/
theorem ProxyConfig.validate_normal {raw config : ProxyConfig}
    (h : raw.validate parseUri = .ok config) :
    config = raw.normal ∧ (∀ c ∈ config.certificates, c.normal = c) ∧
      ∀ r ∈ config.routes, r.normal = r := by
  obtain ⟨-, -, h⟩ := Except.exists_ok_of_bind h
  obtain ⟨-, -, h⟩ := Except.exists_ok_of_bind h
  obtain ⟨-, -, h⟩ := Except.exists_ok_of_bind h
  obtain ⟨seen, hcertificates, h⟩ := Except.exists_ok_of_bind h
  obtain ⟨routes, hroutes, h⟩ := Except.exists_ok_of_bind h
  cases h
  have hcs : seen.certificates = raw.certificates.map CertificateConfig.normal :=
    Except.foldlM_map (o := SeenCertificates.certificates) hcertificates rfl
      fun _ _ _ hc => (validateCertificate_normal hc).1
  have hrs : routes.routes = raw.routes.map RouteConfig.normal :=
    Except.foldlM_map (o := SeenRoutes.routes) hroutes rfl
      fun _ _ _ hr => (validateRoute_normal hr).1
  refine ⟨?_, ?_, ?_⟩
  · rw [ProxyConfig.normal, hcs, hrs]
  · intro c hc
    rw [hcs] at hc
    obtain ⟨c', hc', rfl⟩ := List.mem_map.mp hc
    exact Except.foldlM_forall hcertificates (fun _ _ _ h => (validateCertificate_normal h).2) c'
      hc'
  · intro r hr
    rw [hrs] at hr
    obtain ⟨r', hr', rfl⟩ := List.mem_map.mp hr
    exact Except.foldlM_forall hroutes (fun _ _ _ h => (validateRoute_normal h).2) r' hr'

end Validate

end GateRust.Proxy
