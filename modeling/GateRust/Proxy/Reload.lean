/-
# Requests and reloads

A request to issue a certificate is a copy of what the configuration says about the certificate
and its two accounts.  A new configuration reloads the certificates for which
`certificate_runtime_changed` finds a difference.  The two agree: when a certificate is not
reloaded, a request made from the old configuration is one that the new configuration gives.
-/
import GateRust.Proxy.CertificateManager

namespace GateRust.Proxy

/-! ## What a configuration gives for a certificate -/

/-- The fields of an ACME account that its certificates depend on. -/
def AcmeAccountConfig.runtimeFields (account : AcmeAccountConfig) :=
  (account.id, account.provider, account.environment, account.email, account.keyAlgorithm,
    account.eabKeyId, account.eabHmacKey)

/-- The fields of a DNS account that its certificates depend on. -/
def DnsAccountConfig.runtimeFields (account : DnsAccountConfig) :=
  (account.id, account.provider, account.apiToken, account.accessKey, account.secretKey)

/-- The request has the domains, the validation method and the accounts that the configuration
gives for the certificate. -/
def ProxyConfig.Gives (config : ProxyConfig) (certificateId : String)
    (request : IssuanceRequest) : Prop :=
  ∃ certificate account,
    config.certificate? certificateId = some certificate ∧
    config.acmeAccount? certificate.acmeAccountId = some account ∧
    request.certificate.domains = certificate.domains ∧
    request.certificate.validation = certificate.validation ∧
    request.account.runtimeFields = account.runtimeFields ∧
    request.dnsAccount.map (·.runtimeFields) =
      (dnsAccountForCertificate config certificate).map (·.runtimeFields)

/-- The domains of `request` are those of the certificate in `config`. -/
lemma ProxyConfig.Gives.domains {config : ProxyConfig} {certificate : CertificateConfig}
    {request : IssuanceRequest} {certificateId : String} (h : config.Gives certificateId request)
    (hcertificate : config.certificate? certificateId = some certificate) :
    request.certificate.domains = certificate.domains := by
  obtain ⟨certificate', account, hfind, -, hdomains, -⟩ := h
  obtain rfl := Option.some.inj (hfind.symm.trans hcertificate)
  exact hdomains

lemma ProxyConfig.certificate?_id {config : ProxyConfig} {certificateId : String}
    {certificate : CertificateConfig} (h : config.certificate? certificateId = some certificate) :
    certificate.id = certificateId := by
  simpa using List.find?_some h

lemma ProxyConfig.certificate?_mem {config : ProxyConfig} {certificateId : String}
    {certificate : CertificateConfig} (h : config.certificate? certificateId = some certificate) :
    certificate ∈ config.certificates :=
  List.mem_of_find?_eq_some h

lemma ProxyConfig.certificate?_of_mem {config : ProxyConfig} {certificate : CertificateConfig}
    (h : certificate ∈ config.certificates) :
    ∃ first, config.certificate? certificate.id = some first := by
  cases hfind : config.certificate? certificate.id with
  | some first => exact ⟨first, rfl⟩
  | none => exact absurd (List.find?_eq_none.mp hfind certificate h) (by simp)

/-- An issuance starts from what the configuration gives. -/
lemma ProxyConfig.issuanceConfig_ok {config : ProxyConfig} {certificateId : String}
    {certificate : CertificateConfig} {account : AcmeAccountConfig}
    {dnsAccount : Option DnsAccountConfig}
    (h : config.issuanceConfig certificateId = .ok (certificate, account, dnsAccount)) :
    config.certificate? certificateId = some certificate ∧
    config.acmeAccount? certificate.acmeAccountId = some account ∧
    dnsAccountForCertificate config certificate = dnsAccount := by
  unfold issuanceConfig at h
  cases hcertificate : config.certificate? certificateId with
  | none => simp only [hcertificate] at h; cases h
  | some first =>
    cases hvalidation : first.validation with
    | none => simp only [hcertificate, hvalidation] at h; cases h
    | some validation =>
      cases haccount : config.acmeAccount? first.acmeAccountId with
      | none => simp only [hcertificate, hvalidation, haccount] at h; cases h
      | some acme =>
        simp only [hcertificate, hvalidation, haccount] at h
        cases validation with
        | manual =>
          cases h
          exact ⟨rfl, haccount, by simp only [dnsAccountForCertificate, hvalidation]⟩
        | dnsAccount dnsAccountId =>
          cases hdns : config.dnsAccount? dnsAccountId with
          | none => simp only [hdns] at h; cases h
          | some dns =>
            simp only [hdns] at h
            cases h
            exact ⟨rfl, haccount, by simp only [dnsAccountForCertificate, hvalidation, hdns]⟩

lemma ProxyConfig.gives_of_issuanceConfig {config : ProxyConfig} {certificateId : String}
    {certificate : CertificateConfig} {account : AcmeAccountConfig}
    {dnsAccount : Option DnsAccountConfig} (accountGate : Nat) (dnsGate : Option Nat)
    (h : config.issuanceConfig certificateId = .ok (certificate, account, dnsAccount)) :
    config.Gives certificateId ⟨certificate, account, dnsAccount, accountGate, dnsGate⟩ := by
  obtain ⟨hcertificate, haccount, hdns⟩ := issuanceConfig_ok h
  exact ⟨certificate, account, hcertificate, haccount, rfl, rfl, rfl, by rw [hdns]⟩

/-! ## A certificate that a new configuration does not reload -/

lemma sameAcmeRuntimeAccount_iff {current next : Option AcmeAccountConfig} :
    sameAcmeRuntimeAccount current next = true ↔
      current.map (·.runtimeFields) = next.map (·.runtimeFields) := by
  cases current <;> cases next <;>
    simp [sameAcmeRuntimeAccount, AcmeAccountConfig.runtimeFields, and_assoc]

lemma sameDnsRuntimeAccount_iff {current next : Option DnsAccountConfig} :
    sameDnsRuntimeAccount current next = true ↔
      current.map (·.runtimeFields) = next.map (·.runtimeFields) := by
  cases current <;> cases next <;>
    simp [sameDnsRuntimeAccount, DnsAccountConfig.runtimeFields, and_assoc]

/-- The certificate of a configuration that is neither new nor changed. -/
lemma unchanged_of_not_mem_reload {current next : ProxyConfig} {nextCertificate : CertificateConfig}
    (hmem : nextCertificate ∈ next.certificates)
    (h : nextCertificate.id ∉ certificatesRequiringReload (some current) next) :
    ∃ currentCertificate, current.certificate? nextCertificate.id = some currentCertificate ∧
      certificateRuntimeChanged current next currentCertificate nextCertificate = false := by
  cases hfind : current.certificate? nextCertificate.id with
  | none =>
    refine absurd ?_ h
    exact List.mem_map.mpr ⟨nextCertificate, List.mem_filter.mpr ⟨hmem, by simp [hfind]⟩, rfl⟩
  | some currentCertificate =>
    refine ⟨currentCertificate, rfl, ?_⟩
    by_contra hchanged
    refine absurd ?_ h
    refine List.mem_map.mpr ⟨nextCertificate, List.mem_filter.mpr ⟨hmem, ?_⟩, rfl⟩
    simpa only [hfind, Bool.not_eq_false] using hchanged

/-- **A request stays current when its certificate is not reloaded.**  The comparison of
`certificate_runtime_changed` misses none of the fields that a request is made of. -/
theorem ProxyConfig.Gives.of_not_reload {current next : ProxyConfig} {certificateId : String}
    {request : IssuanceRequest} {nextCertificate : CertificateConfig}
    (hgives : current.Gives certificateId request)
    (hnext : next.certificate? certificateId = some nextCertificate)
    (hreload : certificateId ∉ certificatesRequiringReload (some current) next) :
    next.Gives certificateId request ∧ current.proxy.cacheDir = next.proxy.cacheDir := by
  obtain ⟨certificate, account, hcertificate, haccount, hdomains, hvalidation, hacme, hdns⟩ :=
    hgives
  -- the two configurations are compared at the first certificate with the identifier
  have hid := ProxyConfig.certificate?_id hnext
  rw [← hid] at hreload hcertificate
  obtain ⟨certificate', hcertificate', hchanged⟩ :=
    unchanged_of_not_mem_reload (ProxyConfig.certificate?_mem hnext) hreload
  obtain rfl := Option.some.inj (hcertificate.symm.trans hcertificate')
  simp only [certificateRuntimeChanged, Bool.or_eq_false_iff, decide_eq_false_iff_not, ne_eq,
    not_not, Bool.not_eq_false', sameAcmeRuntimeAccount_iff, sameDnsRuntimeAccount_iff] at hchanged
  obtain ⟨⟨⟨⟨⟨⟨hdir, hsameDomains⟩, -⟩, hsameValidation⟩, -⟩, hsameAcme⟩, hsameDns⟩ := hchanged
  rw [haccount, Option.map_some] at hsameAcme
  obtain ⟨nextAccount, hnextAccount, hfields⟩ := Option.map_eq_some_iff.mp hsameAcme.symm
  exact ⟨⟨nextCertificate, nextAccount, hnext, hnextAccount, hdomains.trans hsameDomains,
    hvalidation.trans hsameValidation, hacme.trans hfields.symm, hdns.trans hsameDns⟩, hdir⟩

end GateRust.Proxy
