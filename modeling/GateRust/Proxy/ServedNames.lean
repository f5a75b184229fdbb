/-
# The names that are served

What `apply_config` does to the names of the TLS listener.  Only the certificates that changed are
replaced, one after the other; each replacement deletes the names of its owner and then takes its
new names, also from other owners.  Since the domains of a validated configuration belong to one
certificate each, the names that are served afterwards are those of the configuration, whatever was
served before.
-/
import GateRust.Proxy.InstalledResults
import GateRust.Proxy.Validation

namespace GateRust.Proxy

open Machine

/-! ## Names and their entries -/

namespace CertificateResolver

variable {r : CertificateResolver} {entry : ResolverEntry} {owner domain : String}

lemma wildcardSuffix_eq_some {suffix : String} :
    wildcardSuffix domain = some suffix ↔ domain = "*." ++ suffix := by
  unfold wildcardSuffix
  constructor
  · intro h
    split at h
    · next rest heq =>
      cases h
      apply String.toList_inj.mp
      simp [heq]
    · cases h
  · rintro rfl
    have hlist : ("*." ++ suffix).toList = '*' :: '.' :: suffix.toList := by
      rw [String.toList_append]
      rfl
    rw [hlist]
    simp

/-- The entry of a domain of a certificate. -/
def lookupDomain (r : CertificateResolver) (domain : String) : Option ResolverEntry :=
  match wildcardSuffix domain with
  | some suffix => r.wildcard.lookup suffix
  | none => r.exact.lookup domain

lemma lookupDomain_insertDomain (r : CertificateResolver) (entry : ResolverEntry)
    (domain domain' : String) :
    (r.insertDomain entry domain).lookupDomain domain' =
      if domain' = domain then some entry else r.lookupDomain domain' := by
  unfold insertDomain lookupDomain
  cases hs : wildcardSuffix domain with
  | some suffix =>
    cases hs' : wildcardSuffix domain' with
    | some suffix' =>
      have hiff : suffix' = suffix ↔ domain' = domain := by
        rw [wildcardSuffix_eq_some.mp hs, wildcardSuffix_eq_some.mp hs', String.append_right_inj]
      simp only [AList.lookup_insert_eq, hiff]
    | none =>
      have hne : domain' ≠ domain := by
        rintro rfl
        rw [hs] at hs'
        cases hs'
      simp only [if_neg hne]
  | none =>
    cases hs' : wildcardSuffix domain' with
    | some suffix' =>
      have hne : domain' ≠ domain := by
        rintro rfl
        rw [hs] at hs'
        cases hs'
      simp only [if_neg hne]
    | none => simp only [AList.lookup_insert_eq]

lemma lookupDomain_remove :
    (r.remove owner).lookupDomain domain = some entry ↔
      r.lookupDomain domain = some entry ∧ entry.owner ≠ owner := by
  unfold lookupDomain remove
  cases wildcardSuffix domain with
  | some suffix => simp only [AList.lookup_retain_eq_some, decide_eq_true_eq]
  | none => simp only [AList.lookup_retain_eq_some, decide_eq_true_eq]

lemma lookupDomain_foldl_insertDomain (domains : List String) (r : CertificateResolver)
    (entry : ResolverEntry) (domain : String) :
    (domains.foldl (fun r domain => r.insertDomain entry domain) r).lookupDomain domain =
      if domain ∈ domains then some entry else r.lookupDomain domain := by
  induction domains generalizing r with
  | nil => simp
  | cons d domains ih =>
    rw [List.foldl_cons, ih, lookupDomain_insertDomain]
    by_cases hmem : domain ∈ domains
    · simp [hmem]
    · by_cases hd : domain = d
      · simp [hd]
      · simp [hmem, hd]

/-- The owner has its new names and no others; the rest of the names stay. -/
lemma lookupDomain_replaceDirect {domains : List String} {resolver : ResolverRef} :
    (r.replaceDirect owner domains resolver).lookupDomain domain = some entry ↔
      (domain ∈ domains ∧ entry = ⟨owner, resolver⟩) ∨
        domain ∉ domains ∧ r.lookupDomain domain = some entry ∧ entry.owner ≠ owner := by
  rw [replaceDirect, lookupDomain_foldl_insertDomain]
  by_cases hmem : domain ∈ domains
  · simp [hmem, eq_comm]
  · simp [hmem, lookupDomain_remove]

/-- No wildcard is stored among the exact names. -/
def Sorted (r : CertificateResolver) : Prop :=
  ∀ domain entry, r.exact.lookup domain = some entry → wildcardSuffix domain = none

lemma Sorted.remove (h : r.Sorted) (owner : String) : (r.remove owner).Sorted :=
  fun domain entry hentry => h domain entry (AList.lookup_retain_eq_some.mp hentry).1

lemma Sorted.insertDomain (h : r.Sorted) (entry : ResolverEntry) (domain : String) :
    (r.insertDomain entry domain).Sorted := by
  intro domain' entry' hentry
  unfold CertificateResolver.insertDomain at hentry
  cases hs : wildcardSuffix domain with
  | some suffix =>
    simp only [hs] at hentry
    exact h domain' entry' hentry
  | none =>
    simp only [hs, AList.lookup_insert_eq] at hentry
    split_ifs at hentry with hd
    · rw [hd, hs]
    · exact h domain' entry' hentry

lemma Sorted.replaceDirect (h : r.Sorted) (owner : String) (domains : List String)
    (resolver : ResolverRef) : (r.replaceDirect owner domains resolver).Sorted :=
  List.foldlRecOn (motive := Sorted) _ _ (h.remove owner) fun _ hr domain _ =>
    hr.insertDomain _ domain

end CertificateResolver

/-! ## The part of the manager that serves names -/

/-- The table of names, the resolver of each certificate, the resolvers that exist, and the
statuses, which are replaced together with the resolvers. -/
structure Served where
  resolver : CertificateResolver
  resolvers : HashMap String ResolverRef
  directs : List (Option CertifiedKey)
  statuses : HashMap String CertificateRuntimeStatus

/-- A certificate and what was loaded for it. -/
abbrev Replacement := CertificateConfig × Option CertifiedKey × CertificateRuntimeStatus

namespace Served

def remove (s : Served) (id : String) : Served where
  resolver := s.resolver.remove id
  resolvers := s.resolvers.erase id
  directs := s.directs
  statuses := s.statuses.erase id

def install (s : Served) (r : Replacement) : Served where
  resolver := s.resolver.replaceDirect r.1.id r.1.domains s.directs.length
  resolvers := s.resolvers.insert r.1.id s.directs.length
  directs := s.directs ++ [r.2.1]
  statuses := s.statuses.insert r.1.id r.2.2

variable {s s' : Served} {ids : List String} {rs : List Replacement} {id : String}

lemma lookup_foldl_remove (ids : List String) (s : Served) (id : String) :
    (ids.foldl remove s).resolvers.lookup id =
        (if id ∈ ids then none else s.resolvers.lookup id) ∧
      (ids.foldl remove s).statuses.lookup id =
        (if id ∈ ids then none else s.statuses.lookup id) := by
  induction ids generalizing s with
  | nil => simp
  | cons i ids ih =>
    obtain ⟨hresolvers, hstatuses⟩ := ih (s.remove i)
    rw [List.foldl_cons, hresolvers, hstatuses]
    simp only [remove, AList.lookup_erase_eq, List.mem_cons]
    by_cases hmem : id ∈ ids
    · simp [hmem]
    · by_cases hid : id = i
      · simp [hid]
      · simp [hmem, hid]

lemma lookupDomain_foldl_remove {domain : String} {entry : ResolverEntry} :
    (ids.foldl remove s).resolver.lookupDomain domain = some entry ↔
      s.resolver.lookupDomain domain = some entry ∧ entry.owner ∉ ids := by
  induction ids generalizing s with
  | nil => simp
  | cons i ids ih =>
    rw [List.foldl_cons, ih]
    simp only [remove, CertificateResolver.lookupDomain_remove, List.mem_cons, not_or, and_assoc]

/-- Certificates that are not replaced keep their resolver and their status. -/
lemma lookup_foldl_install_of_notMem (h : id ∉ rs.map (·.1.id)) :
    (rs.foldl install s).resolvers.lookup id = s.resolvers.lookup id ∧
      (rs.foldl install s).statuses.lookup id = s.statuses.lookup id := by
  induction rs generalizing s with
  | nil => exact ⟨rfl, rfl⟩
  | cons r rs ih =>
    rw [List.map_cons, List.mem_cons, not_or] at h
    obtain ⟨hresolvers, hstatuses⟩ := ih (s := s.install r) h.2
    rw [List.foldl_cons, hresolvers, hstatuses]
    exact ⟨AList.lookup_insert_ne h.1, AList.lookup_insert_ne h.1⟩

/-- What is served after the replacements: their names, each with the resolver of its owner, and
the other names of the owners that were not replaced. -/
lemma foldl_install_spec (hids : (rs.map (·.1.id)).Nodup)
    (hdomains : ∀ r ∈ rs, ∀ r' ∈ rs, ∀ d ∈ r.1.domains, d ∈ r'.1.domains → r = r') :
    (∀ r ∈ rs, (rs.foldl install s).statuses.lookup r.1.id = some r.2.2 ∧
      ∃ ref, (rs.foldl install s).resolvers.lookup r.1.id = some ref) ∧
    ∀ domain entry, (rs.foldl install s).resolver.lookupDomain domain = some entry ↔
      (∃ r ∈ rs, domain ∈ r.1.domains ∧ entry.owner = r.1.id ∧
        (rs.foldl install s).resolvers.lookup r.1.id = some entry.resolver) ∨
      ((∀ r ∈ rs, domain ∉ r.1.domains) ∧ s.resolver.lookupDomain domain = some entry ∧
        entry.owner ∉ rs.map (·.1.id)) := by
  induction rs generalizing s with
  | nil => simp
  | cons r rs ih =>
    obtain ⟨hfirst, hids⟩ := List.nodup_cons.mp hids
    obtain ⟨hloaded, hnames⟩ := ih (s := s.install r) hids fun r hr r' hr' =>
      hdomains r (List.mem_cons_of_mem _ hr) r' (List.mem_cons_of_mem _ hr')
    have hresolver : (rs.foldl install (s.install r)).resolvers.lookup r.1.id =
        some s.directs.length :=
      (lookup_foldl_install_of_notMem hfirst).1.trans (AList.lookup_insert _)
    have hstatus : (rs.foldl install (s.install r)).statuses.lookup r.1.id = some r.2.2 :=
      (lookup_foldl_install_of_notMem hfirst).2.trans (AList.lookup_insert _)
    refine ⟨?_, ?_⟩
    · intro r' hr'
      rcases List.mem_cons.mp hr' with rfl | hr'
      · exact ⟨hstatus, _, hresolver⟩
      · exact hloaded r' hr'
    · intro domain entry
      have hinstall : (s.install r).resolver.lookupDomain domain = some entry ↔ _ :=
        CertificateResolver.lookupDomain_replaceDirect
      rw [List.foldl_cons, hnames, hinstall, List.map_cons, List.mem_cons, not_or]
      constructor
      · rintro (⟨r', hr', hnew⟩ | ⟨hfree, ⟨hd, rfl⟩ | ⟨hd, hold, howner⟩, hrest⟩)
        · exact Or.inl ⟨r', List.mem_cons_of_mem _ hr', hnew⟩
        · exact Or.inl ⟨r, List.mem_cons_self, hd, rfl, hresolver⟩
        · exact Or.inr ⟨List.forall_mem_cons.mpr ⟨hd, hfree⟩, hold, howner, hrest⟩
      · rintro (⟨r', hr', hd, howner, hlookup⟩ | ⟨hfree, hold, howner, hrest⟩)
        · rcases List.mem_cons.mp hr' with rfl | hr'
          · -- the names of the first replacement are not taken by a later one
            right
            refine ⟨?_, Or.inl ⟨hd, ?_⟩, howner ▸ hfirst⟩
            · intro r hr hd'
              rw [hdomains r' List.mem_cons_self r (List.mem_cons_of_mem _ hr) domain hd hd']
                at hfirst
              exact hfirst (List.mem_map_of_mem hr)
            · rw [hresolver] at hlookup
              cases entry
              cases howner
              cases hlookup
              rfl
          · exact Or.inl ⟨r', hr', hd, howner, hlookup⟩
        · obtain ⟨hd, hfree⟩ := List.forall_mem_cons.mp hfree
          exact Or.inr ⟨hfree, Or.inr ⟨hd, hold, howner⟩, hrest⟩

/-- The resolvers that are known exist. -/
def Bounded (s : Served) : Prop :=
  ∀ id ref, s.resolvers.lookup id = some ref → ref < s.directs.length

lemma bounded_foldl (h : s.Bounded) (ids : List String) (rs : List Replacement) :
    (rs.foldl install (ids.foldl remove s)).Bounded := by
  have hremove : (ids.foldl remove s).Bounded := by
    refine List.foldlRecOn (motive := Bounded) _ _ h fun s hs i _ id ref href => ?_
    rw [remove, AList.lookup_erase_eq] at href
    split_ifs at href
    exact hs id ref href
  refine List.foldlRecOn (motive := Bounded) _ _ hremove fun s hs r _ id ref href => ?_
  rw [install, AList.lookup_insert_eq] at href
  rw [install, List.length_append]
  split_ifs at href
  · cases href
    exact Nat.lt_succ_self _
  · exact (hs id ref href).trans (Nat.lt_succ_self _)

lemma sorted_foldl (h : s.resolver.Sorted) (ids : List String) (rs : List Replacement) :
    (rs.foldl install (ids.foldl remove s)).resolver.Sorted := by
  have hremove : (ids.foldl remove s).resolver.Sorted :=
    List.foldlRecOn (motive := fun s : Served => s.resolver.Sorted) _ _ h
      fun _ hs id _ => CertificateResolver.Sorted.remove hs id
  exact List.foldlRecOn (motive := fun s : Served => s.resolver.Sorted) _ _ hremove
    fun _ hs _ _ => CertificateResolver.Sorted.replaceDirect hs _ _ _

end Served

namespace CertificateManager

variable {lib : Libraries} {m m' : CertificateManager}

def served (m : CertificateManager) : Served := ⟨m.resolver, m.resolvers, m.directs, m.statuses⟩

/-- What `apply_config` loads. -/
def replacements (m : CertificateManager) (lib : Libraries) (disk : Disk) (now : UInt64)
    (config : ProxyConfig) : List Replacement :=
  (config.certificates.filter fun certificate =>
      (certificatesRequiringReload m.config config).contains certificate.id).map
    fun certificate => (certificate, loadCertificateRuntime lib
      (disk config.proxy.cacheDir certificate.id) certificate now)

lemma served_resetRetry (m : CertificateManager) (config : ProxyConfig) :
    (m.resetRetry config).served = m.served := by
  unfold resetRetry
  split <;> rfl

/-- The removed certificates go, then the loaded ones come, in the order of the configuration. -/
lemma served_installConfig (lib : Libraries) (m : CertificateManager) (disk : Disk) (now : UInt64)
    (config : ProxyConfig) :
    (m.installConfig lib disk now config).served =
      (m.replacements lib disk now config).foldl Served.install
        ((m.removedBy config).foldl Served.remove m.served) := by
  have hdiscard : ∀ (ids : List String) (m : CertificateManager),
      (ids.foldl discard m).served = m.served := by
    intro ids
    induction ids with
    | nil => exact fun _ => rfl
    | cons id ids ih => exact fun m => ih (m.discard id)
  have hremove : ∀ (ids : List String) (m : CertificateManager),
      (ids.foldl removeRuntime m).served = ids.foldl Served.remove m.served :=
    fun ids m => (List.foldl_hom served fun _ _ => rfl).symm
  have hinstall : ∀ (rs : List Replacement) (m : CertificateManager),
      (rs.foldl (fun m r => m.installRuntime r.1 r.2.1 r.2.2) m).served =
        rs.foldl Served.install m.served :=
    fun rs m => (List.foldl_hom served fun _ _ => rfl).symm
  rw [← hdiscard (certificatesRequiringReload m.config config ++ m.removedBy config) m, ← hremove,
    ← hinstall]
  exact served_resetRetry _ config

/-! ## Applying a configuration -/

/-- The names that are served are those of the certificates, each with the resolver that is known
for its certificate. -/
structure Serves (certificates : List CertificateConfig) (s : Served) : Prop where
  names : ∀ domain entry, s.resolver.lookupDomain domain = some entry ↔
    ∃ c ∈ certificates, domain ∈ c.domains ∧ entry.owner = c.id ∧
      s.resolvers.lookup c.id = some entry.resolver
  known : ∀ id, id ∈ s.resolvers ↔ ∃ c ∈ certificates, c.id = id
  sorted : s.resolver.Sorted
  bounded : s.Bounded

/-- The certificates of the configuration, if there is one. -/
def configured (config : Option ProxyConfig) : List CertificateConfig :=
  (config.map (·.certificates)).getD []

lemma mem_replacements {disk : Disk} {now : UInt64} {config : ProxyConfig} {r : Replacement}
    (hr : r ∈ m.replacements lib disk now config) : r.1 ∈ config.certificates ∧
      r.1.id ∈ certificatesRequiringReload m.config config ∧
      r.2 = loadCertificateRuntime lib (disk config.proxy.cacheDir r.1.id) r.1 now := by
  obtain ⟨c, hc, rfl⟩ := List.mem_map.mp hr
  obtain ⟨hc, hreload⟩ := List.mem_filter.mp hc
  exact ⟨hc, List.contains_iff_mem.mp hreload, rfl⟩

lemma replacement_of_reload (disk : Disk) (now : UInt64) {config : ProxyConfig}
    {c : CertificateConfig} (hc : c ∈ config.certificates)
    (hreload : c.id ∈ certificatesRequiringReload m.config config) :
    ∃ r ∈ m.replacements lib disk now config, r.1 = c :=
  ⟨_, List.mem_map_of_mem (List.mem_filter.mpr ⟨hc, List.contains_iff_mem.mpr hreload⟩), rfl⟩

/-- The replacements are told apart by their certificates. -/
lemma replacement_inj {disk : Disk} {now : UInt64} {config : ProxyConfig} {r r' : Replacement}
    (hr : r ∈ m.replacements lib disk now config) (hr' : r' ∈ m.replacements lib disk now config)
    (h : r.1 = r'.1) : r = r' := by
  have hload := (mem_replacements hr).2.2
  have hload' := (mem_replacements hr').2.2
  rw [← h] at hload'
  exact Prod.ext h (hload.trans hload'.symm)

lemma nodup_replacements (m : CertificateManager) (lib : Libraries) (disk : Disk) (now : UInt64)
    {config : ProxyConfig} (hconfig : config.Regular) :
    ((m.replacements lib disk now config).map (·.1.id)).Nodup := by
  rw [replacements, List.map_map]
  exact hconfig.ids.sublist (List.filter_sublist.map _)

/-- A certificate that is not reloaded has the domains that it had. -/
lemma same_domains {current : Option ProxyConfig} {next : ProxyConfig} {c : CertificateConfig}
    (hc : c ∈ next.certificates) (hreload : c.id ∉ certificatesRequiringReload current next) :
    ∃ old ∈ configured current, old.id = c.id ∧ old.domains = c.domains := by
  cases current with
  | none => exact absurd (List.mem_map_of_mem hc) hreload
  | some current =>
    obtain ⟨old, hold, hchanged⟩ := unchanged_of_not_mem_reload hc hreload
    refine ⟨old, ProxyConfig.certificate?_mem hold, ProxyConfig.certificate?_id hold, ?_⟩
    simp only [certificateRuntimeChanged, Bool.or_eq_false_iff, decide_eq_false_iff_not, ne_eq,
      not_not] at hchanged
    exact hchanged.1.1.1.1.1.2

lemma reload_subset {current : Option ProxyConfig} {next : ProxyConfig} {id : String}
    (h : id ∈ certificatesRequiringReload current next) : ∃ c ∈ next.certificates, c.id = id := by
  cases current with
  | none => exact List.mem_map.mp h
  | some current =>
    obtain ⟨c, hc, hid⟩ := List.mem_map.mp h
    exact ⟨c, (List.mem_filter.mp hc).1, hid⟩

lemma mem_removedBy {config : ProxyConfig} {id : String} :
    id ∈ m.removedBy config ↔ id ∈ m.resolvers ∧ ¬ ∃ c ∈ config.certificates, c.id = id := by
  rw [removedBy, List.mem_filter, ← AList.mem_keys]
  simp

section InstallConfig

variable {disk : Disk} {now : UInt64} {config : ProxyConfig}

/-- No domain is in two replacements. -/
lemma replacements_disjoint (hconfig : config.Regular) :
    ∀ r ∈ m.replacements lib disk now config, ∀ r' ∈ m.replacements lib disk now config,
      ∀ d ∈ r.1.domains, d ∈ r'.1.domains → r = r' := by
  intro r hr r' hr' d hd hd'
  exact replacement_inj hr hr'
    (hconfig.eq_of_domain (mem_replacements hr).1 (mem_replacements hr').1 hd hd')

/-- A certificate that is reloaded has what was loaded for it. -/
lemma lookup_of_reload (lib : Libraries) (disk : Disk) (now : UInt64) (hconfig : config.Regular)
    {c : CertificateConfig} (hc : c ∈ config.certificates)
    (hreload : c.id ∈ certificatesRequiringReload m.config config) :
    (m.installConfig lib disk now config).statuses.lookup c.id = some (loadCertificateRuntime lib
        (disk config.proxy.cacheDir c.id) c now).2 ∧
      c.id ∈ (m.installConfig lib disk now config).resolvers := by
  obtain ⟨r, hr, rfl⟩ := replacement_of_reload disk now hc hreload
  have hserved := served_installConfig lib m disk now config
  obtain ⟨hstatus, ref, hresolver⟩ := (Served.foldl_install_spec
    (s := (m.removedBy config).foldl Served.remove m.served)
    (nodup_replacements m lib disk now hconfig) (replacements_disjoint hconfig)).1 r hr
  rw [← hserved] at hstatus hresolver
  rw [(mem_replacements hr).2.2] at hstatus
  exact ⟨hstatus, AList.mem_of_lookup hresolver⟩

/-- Of the others, those that the configuration does not have go, and the rest keep what they
have. -/
lemma lookup_of_not_reload (lib : Libraries) (disk : Disk) (now : UInt64) {id : String}
    (hreload : id ∉ certificatesRequiringReload m.config config) :
    (m.installConfig lib disk now config).resolvers.lookup id =
        (if id ∈ m.removedBy config then none else m.resolvers.lookup id) ∧
      (m.installConfig lib disk now config).statuses.lookup id =
        (if id ∈ m.removedBy config then none else m.statuses.lookup id) := by
  have hserved := served_installConfig lib m disk now config
  have hother : id ∉ (m.replacements lib disk now config).map (·.1.id) := by
    intro hmem
    obtain ⟨r, hr, rfl⟩ := List.mem_map.mp hmem
    exact hreload (mem_replacements hr).2.1
  obtain ⟨hresolver, hstatus⟩ := Served.lookup_foldl_install_of_notMem
    (s := (m.removedBy config).foldl Served.remove m.served) hother
  obtain ⟨hresolver', hstatus'⟩ := Served.lookup_foldl_remove (m.removedBy config) m.served id
  rw [← hserved] at hresolver hstatus
  exact ⟨hresolver.trans hresolver', hstatus.trans hstatus'⟩

/-- After `apply_config` the certificates with a resolver are those of the configuration. -/
lemma mem_resolvers_installConfig (h : Serves (configured m.config) m.served)
    (hconfig : config.Regular) {id : String} :
    id ∈ (m.installConfig lib disk now config).resolvers ↔
      ∃ c ∈ config.certificates, c.id = id := by
  by_cases hreload : id ∈ certificatesRequiringReload m.config config
  · obtain ⟨c, hc, rfl⟩ := reload_subset hreload
    exact ⟨fun _ => ⟨c, hc, rfl⟩, fun _ => (lookup_of_reload lib disk now hconfig hc hreload).2⟩
  · rw [← AList.lookup_isSome, (lookup_of_not_reload lib disk now hreload).1]
    constructor
    · intro hsome
      by_contra hnot
      split_ifs at hsome with hremoved
      · cases hsome
      · exact hremoved (mem_removedBy.mpr ⟨AList.lookup_isSome.mp hsome, hnot⟩)
    · rintro ⟨c, hc, rfl⟩
      obtain ⟨old, hold, hid, -⟩ := same_domains hc hreload
      have hknown : c.id ∈ m.resolvers := (h.known c.id).mpr ⟨old, hold, hid⟩
      rw [if_neg fun hremoved => (mem_removedBy.mp hremoved).2 ⟨c, hc, rfl⟩]
      exact AList.lookup_isSome.mpr hknown

/-- **`apply_config` serves the names of the new configuration**, if the names of the current one
were served. -/
theorem serves_installConfig (h : Serves (configured m.config) m.served)
    (hcurrent : ((configured m.config).map (·.id)).Nodup) (hconfig : config.Regular) :
    Serves config.certificates (m.installConfig lib disk now config).served := by
  have hserved := served_installConfig lib m disk now config
  have hnames := (Served.foldl_install_spec
    (s := (m.removedBy config).foldl Served.remove m.served)
    (nodup_replacements m lib disk now hconfig)
    (replacements_disjoint hconfig)).2
  rw [← hserved] at hnames
  refine ⟨?_, fun id => mem_resolvers_installConfig h hconfig, ?_, ?_⟩
  · intro domain entry
    rw [hnames, Served.lookupDomain_foldl_remove]
    constructor
    · rintro (⟨r, hr, hd, howner, hresolver⟩ | ⟨hfree, ⟨hold, hkept⟩, hother⟩)
      · exact ⟨r.1, (mem_replacements hr).1, hd, howner, hresolver⟩
      · -- the owner is a certificate of both configurations, with the same domains
        obtain ⟨old, holdmem, hd, howner, hresolver⟩ := (h.names domain entry).mp hold
        rw [howner] at hkept hother
        have hknown : old.id ∈ m.resolvers := AList.mem_of_lookup hresolver
        obtain ⟨c, hc, hid⟩ : ∃ c ∈ config.certificates, c.id = old.id := by
          by_contra hnot
          exact hkept (mem_removedBy.mpr ⟨hknown, hnot⟩)
        have hreload : c.id ∉ certificatesRequiringReload m.config config := by
          intro hreload
          obtain ⟨r, hr, rfl⟩ := replacement_of_reload disk now hc hreload
          exact hother (List.mem_map.mpr ⟨r, hr, hid⟩)
        obtain ⟨old', hold', hid', hdomains⟩ := same_domains hc hreload
        have hsame : old' = old :=
          List.inj_on_of_nodup_map hcurrent hold' holdmem (hid'.trans hid)
        refine ⟨c, hc, hdomains ▸ hsame ▸ hd, howner.trans hid.symm, ?_⟩
        refine (lookup_of_not_reload lib disk now hreload).1.trans ?_
        rw [hid, if_neg hkept]
        exact hresolver
    · rintro ⟨c, hc, hd, howner, hresolver⟩
      by_cases hreload : c.id ∈ certificatesRequiringReload m.config config
      · obtain ⟨r, hr, rfl⟩ := replacement_of_reload disk now hc hreload
        exact Or.inl ⟨r, hr, hd, howner, hresolver⟩
      · have hkept : c.id ∉ m.removedBy config :=
          fun hremoved => (mem_removedBy.mp hremoved).2 ⟨c, hc, rfl⟩
        obtain ⟨old, hold, hid, hdomains⟩ := same_domains hc hreload
        have hresolver' : m.resolvers.lookup c.id = some entry.resolver := by
          have hlookup := (lookup_of_not_reload lib disk now hreload).1
          rw [if_neg hkept] at hlookup
          exact hlookup.symm.trans hresolver
        refine Or.inr ⟨?_, ⟨(h.names domain entry).mpr ⟨old, hold, hdomains ▸ hd,
          howner.trans hid.symm, ?_⟩, howner ▸ hkept⟩, ?_⟩
        · -- a replaced certificate with this domain would be the same one
          intro r hr hd'
          have hsame := hconfig.eq_of_domain (mem_replacements hr).1 hc hd' hd
          exact hreload (hsame ▸ (mem_replacements hr).2.1)
        · rw [hid]
          exact hresolver'
        · rw [howner]
          intro hmem
          obtain ⟨r, hr, hrid⟩ := List.mem_map.mp hmem
          exact hreload (hrid ▸ (mem_replacements hr).2.1)
  · rw [hserved]
    exact Served.sorted_foldl h.sorted _ _
  · rw [hserved]
    exact Served.bounded_foldl h.bounded _ _

end InstallConfig

/-! ## Runs -/

/-- What the names that are served depend on. -/
def names (m : CertificateManager) :
    Option ProxyConfig × CertificateResolver × HashMap String ResolverRef × ℕ :=
  (m.config, m.resolver, m.resolvers, m.directs.length)

lemma names_fail (m : CertificateManager) (certificateId : String) (error : ProxyError)
    (now : UInt64) : (m.fail certificateId error now).names = m.names := by
  unfold fail
  split_ifs <;> rfl

lemma names_startIssue (m : CertificateManager) (certificateId : String) (renewal : Bool) :
    (m.startIssue certificateId renewal).2.names = m.names := by
  unfold startIssue
  split
  · rfl
  split
  · rfl
  split
  · rfl
  next certificate account dnsAccount _ =>
  by_cases hpermits : (m.openGates account dnsAccount).issuancePermits = 0
  · simp only [if_pos hpermits]
    rfl
  · simp only [if_neg hpermits]
    rfl

lemma names_startContinue (m : CertificateManager) (certificateId : String) :
    (m.startContinue certificateId).2.names = m.names := by
  unfold startContinue
  repeat' split
  all_goals rfl

lemma names_startRenewal (m : CertificateManager) (now : UInt64) (certificateId : String) :
    (m.startRenewal now certificateId).names = m.names := by
  have hstart := m.names_startIssue certificateId true
  unfold startRenewal
  split
  · next heq =>
    rw [heq] at hstart
    exact hstart
  · next heq =>
    rw [heq] at hstart
    rw [names_fail]
    exact hstart

lemma names_scheduleDue (m : CertificateManager) (now : UInt64) :
    (m.scheduleDue now).names = m.names := by
  have hpublish : ∀ m : CertificateManager, m.publish.names = m.names := fun _ => rfl
  rw [scheduleDue, apply_ite names, hpublish, ite_self, startDue]
  split
  · rfl
  · exact List.foldlRecOn (motive := fun m' : CertificateManager => m'.names = m.names) _ _ rfl
      fun m' hm' c _ => (m'.names_startRenewal now c).trans hm'

lemma names_deploy (m : CertificateManager) (certificateId : String)
    (certificate : IssuedCertificate) (now : UInt64) :
    (m.deploy lib certificateId certificate now).names = m.names := by
  unfold deploy
  split
  · exact names_fail ..
  · split
    · exact names_fail ..
    · simp only [names, modifyStatus, List.length_set]

lemma names_handleTask (m : CertificateManager) (now : UInt64) (output : TaskOutput) :
    (m.handleTask lib now output).names = m.names := by
  have hpublish : ∀ m : CertificateManager, m.publish.names = m.names := fun _ => rfl
  unfold handleTask
  split
  · rw [hpublish]
    split
    · exact names_deploy ..
    · exact names_deploy ..
    · rfl
    · rfl
    · exact names_fail ..
    · exact names_fail ..
  · rfl

/-- The current configuration is regular, and its names are served. -/
structure NamesServed (m : CertificateManager) : Prop where
  regular : ∀ config, m.config = some config → config.Regular
  serves : Serves (configured m.config) m.served

lemma NamesServed.congr (h : m.NamesServed) (hnames : m'.names = m.names) : m'.NamesServed := by
  obtain ⟨hconfig, hrest⟩ := Prod.mk.inj hnames
  obtain ⟨hresolver, hrest⟩ := Prod.mk.inj hrest
  obtain ⟨hresolvers, hlength⟩ := Prod.mk.inj hrest
  refine ⟨hconfig ▸ h.regular, ?_⟩
  obtain ⟨hserved, hknown, hsorted, hbounded⟩ := h.serves
  rw [hconfig]
  constructor
  case names => rw [served, hresolver, hresolvers]; exact hserved
  case known => rw [served, hresolvers]; exact hknown
  case sorted => rw [served, hresolver]; exact hsorted
  case bounded =>
    intro id ref href
    rw [served, hresolvers] at href
    rw [served, hlength]
    exact hbounded id ref href

/-- The configurations that are applied have passed the validation. -/
def Validated (parseUri : String → Option Uri) (_ : CertificateManager) : Event → Prop
  | .apply config _ _ => config.Validated parseUri
  | _ => True

lemma NamesServed.installConfig {disk : Disk} {now : UInt64} {config : ProxyConfig}
    (h : m.NamesServed) (hconfig : config.Regular) :
    (m.installConfig lib disk now config).NamesServed := by
  have hnodup : ((configured m.config).map (·.id)).Nodup := by
    cases hcurrent : m.config with
    | none => exact List.nodup_nil
    | some current => exact (h.regular current hcurrent).ids
  have hnext : (m.installConfig lib disk now config).config = some config := rfl
  refine ⟨fun next hn => ?_, ?_⟩
  · cases hnext.symm.trans hn
    exact hconfig
  · rw [hnext]
    exact serves_installConfig h.serves hnodup hconfig

lemma NamesServed.step {parseUri : String → Option Uri} {event : Event} (h : m.NamesServed)
    (hok : m.Validated parseUri event) (hstep : step lib m event = some m') :
    m'.NamesServed := by
  cases event with
  | apply config disk now =>
    cases hstep
    have hconfig : config.Regular := ProxyConfig.Validated.regular hok
    exact (h.installConfig hconfig).congr (names_scheduleDue _ now)
  | issue certificateId =>
    cases hstep
    exact h.congr (m.names_startIssue certificateId false)
  | «continue» certificateId =>
    cases hstep
    exact h.congr (m.names_startContinue certificateId)
  | tick now =>
    cases hstep
    exact h.congr (m.names_scheduleDue now)
  | finish index answers =>
    obtain ⟨task, -, rfl⟩ := endTask_cases hstep
    exact h.congr rfl
  | panic index =>
    obtain ⟨task, -, rfl⟩ := endTask_cases hstep
    exact h.congr rfl
  | join index now =>
    obtain ⟨task, -, ⟨-, rfl⟩ | ⟨result, -, ⟨-, rfl⟩ | ⟨-, rfl⟩⟩⟩ := join_cases hstep
    · exact h.congr rfl
    · exact h.congr rfl
    · exact h.congr (names_handleTask _ now _)

lemma namesServed_new : new.NamesServed := by
  refine ⟨by simp [new], ⟨?_, ?_, ?_, ?_⟩⟩
  · intro domain entry
    have hnone : CertificateResolver.new.lookupDomain domain = none := by
      unfold CertificateResolver.lookupDomain
      split <;> rfl
    simp [new, served, configured, hnone]
  · simp [new, served, configured]
  · simp [new, served, CertificateResolver.new, CertificateResolver.Sorted]
  · simp [new, served, Served.Bounded]

lemma namesServed_of_reach {parseUri : String → Option Uri}
    (h : Reach (step lib) (Validated parseUri) new m) : m.NamesServed :=
  h.invariant namesServed_new fun _ _ _ hm hok hstep => hm.step hok hstep

/-! ## A reload serves what a fresh start serves -/

namespace Serves

open CertificateResolver (wildcardSuffix wildcardSuffix_eq_some)

variable {certificates : List CertificateConfig} {s : Served} {entry : ResolverEntry}
  {domain suffix owner : String}

lemma exact_iff (h : Serves certificates s) :
    s.resolver.exact.lookup domain = some entry ↔ wildcardSuffix domain = none ∧
      ∃ c ∈ certificates, domain ∈ c.domains ∧ entry.owner = c.id ∧
        s.resolvers.lookup c.id = some entry.resolver := by
  have hlookup : wildcardSuffix domain = none →
      s.resolver.lookupDomain domain = s.resolver.exact.lookup domain := by
    intro hnone
    rw [CertificateResolver.lookupDomain, hnone]
  constructor
  · intro hentry
    have hnone := h.sorted domain entry hentry
    rw [← hlookup hnone] at hentry
    exact ⟨hnone, (h.names domain entry).mp hentry⟩
  · rintro ⟨hnone, hc⟩
    rw [← hlookup hnone]
    exact (h.names domain entry).mpr hc

lemma wildcard_iff (h : Serves certificates s) :
    s.resolver.wildcard.lookup suffix = some entry ↔
      ∃ c ∈ certificates, "*." ++ suffix ∈ c.domains ∧ entry.owner = c.id ∧
        s.resolvers.lookup c.id = some entry.resolver := by
  have hsuffix : wildcardSuffix ("*." ++ suffix) = some suffix := wildcardSuffix_eq_some.mpr rfl
  rw [← h.names, CertificateResolver.lookupDomain, hsuffix]

/-- A certificate has a resolver, so the owners are decided by the certificates alone. -/
lemma exists_ref (h : Serves certificates s) {c : CertificateConfig} (hc : c ∈ certificates) :
    ∃ ref, s.resolvers.lookup c.id = some ref :=
  AList.lookup_of_mem ((h.known c.id).mpr ⟨c, hc, rfl⟩)

lemma exact_owner (h : Serves certificates s) :
    (s.resolver.exact.lookup domain).map (·.owner) = some owner ↔
      wildcardSuffix domain = none ∧ ∃ c ∈ certificates, domain ∈ c.domains ∧ c.id = owner := by
  rw [Option.map_eq_some_iff]
  constructor
  · rintro ⟨entry, hentry, rfl⟩
    obtain ⟨hnone, c, hc, hd, howner, -⟩ := h.exact_iff.mp hentry
    exact ⟨hnone, c, hc, hd, howner.symm⟩
  · rintro ⟨hnone, c, hc, hd, rfl⟩
    obtain ⟨ref, href⟩ := h.exists_ref hc
    exact ⟨⟨c.id, ref⟩, h.exact_iff.mpr ⟨hnone, c, hc, hd, rfl, href⟩, rfl⟩

lemma wildcard_owner (h : Serves certificates s) :
    (s.resolver.wildcard.lookup suffix).map (·.owner) = some owner ↔
      ∃ c ∈ certificates, "*." ++ suffix ∈ c.domains ∧ c.id = owner := by
  rw [Option.map_eq_some_iff]
  constructor
  · rintro ⟨entry, hentry, rfl⟩
    obtain ⟨c, hc, hd, howner, -⟩ := h.wildcard_iff.mp hentry
    exact ⟨c, hc, hd, howner.symm⟩
  · rintro ⟨c, hc, hd, rfl⟩
    obtain ⟨ref, href⟩ := h.exists_ref hc
    exact ⟨⟨c.id, ref⟩, h.wildcard_iff.mpr ⟨c, hc, hd, rfl, href⟩, rfl⟩

end Serves

/-- **A reload serves what a fresh start serves.**  In every run with validated configurations the
two tables hold exactly the domains of the current configuration, the wildcards by their suffix,
with the owners that a new manager would give them; and the entry of a domain has the resolver that
a deployment for its certificate changes. -/
theorem served_names_as_fresh_start {parseUri : String → Option Uri} {config : ProxyConfig}
    (h : Reach (step lib) (Validated parseUri) new m) (hconfig : m.config = some config) :
    (∀ domain entry, m.resolver.exact.lookup domain = some entry ↔
      CertificateResolver.wildcardSuffix domain = none ∧
        ∃ c ∈ config.certificates, domain ∈ c.domains ∧ entry.owner = c.id ∧
          m.resolvers.lookup c.id = some entry.resolver) ∧
    (∀ suffix entry, m.resolver.wildcard.lookup suffix = some entry ↔
      ∃ c ∈ config.certificates, "*." ++ suffix ∈ c.domains ∧ entry.owner = c.id ∧
        m.resolvers.lookup c.id = some entry.resolver) ∧
    (∀ disk now key, (m.resolver.exact.lookup key).map (·.owner) =
        ((new.applyConfig lib disk now config).resolver.exact.lookup key).map (·.owner) ∧
      (m.resolver.wildcard.lookup key).map (·.owner) =
        ((new.applyConfig lib disk now config).resolver.wildcard.lookup key).map (·.owner)) ∧
    ∀ id ref certificate certified now, m.resolvers.lookup id = some ref →
      lib.tls.setPem certificate.certificatePem certificate.privateKeyPem = .ok certified →
      (m.deploy lib id certificate now).directs[ref]? = some (some certified) := by
  obtain ⟨hregular, hserves⟩ := namesServed_of_reach h
  rw [hconfig] at hserves
  have hserves : Serves config.certificates m.served := hserves
  refine ⟨fun _ _ => hserves.exact_iff, fun _ _ => hserves.wildcard_iff, ?_, ?_⟩
  · intro disk now key
    have hfresh : Serves config.certificates (new.applyConfig lib disk now config).served := by
      have hserved := ((namesServed_new.installConfig (hregular config hconfig)).congr
        (names_scheduleDue (new.installConfig lib disk now config) now)).serves
      have hnext : (new.applyConfig lib disk now config).config = some config :=
        congrArg Prod.fst (names_scheduleDue (new.installConfig lib disk now config) now)
      rw [show ((new.installConfig lib disk now config).scheduleDue now).config = some config from
        hnext] at hserved
      exact hserved
    constructor
    · ext owner
      exact hserves.exact_owner.trans hfresh.exact_owner.symm
    · ext owner
      exact hserves.wildcard_owner.trans hfresh.wildcard_owner.symm
  · intro id ref certificate certified now href hset
    have hlt : ref < m.directs.length := hserves.bounded id ref href
    simp only [deploy, href, hset, modifyStatus, List.getElem?_set_self hlt]

/-- Two certificates with the given domains. -/
def pairConfig (first second : List String) : ProxyConfig :=
  { manualConfig "example.com" with
    certificates := [⟨"first", "一", first, "acme", some .manual, false, none⟩,
      ⟨"second", "二", second, "acme", some .manual, false, none⟩] }

/-- Two certificates exchange their domains in one reload. -/
theorem exchanged_domain_is_served :
    ∃ m, Reach (step noCertificates) (Validated fun _ => none) new m ∧
      m.config = some (pairConfig ["*.example.com"] ["a.example.com"]) ∧
      (m.resolver.exact.lookup "a.example.com").map (·.owner) = some "second" := by
  have hfirst : (pairConfig ["a.example.com"] ["*.example.com"]).Validated fun _ => none :=
    ⟨pairConfig ["a.example.com"] ["*.example.com"], by decide +kernel⟩
  have hsecond : (pairConfig ["*.example.com"] ["a.example.com"]).Validated fun _ => none :=
    ⟨pairConfig ["*.example.com"] ["a.example.com"], by decide +kernel⟩
  have hreach : Reach (step noCertificates) (Validated fun _ => none) new _ :=
    (Reach.init.next (e := .apply _ emptyDisk 0) hfirst rfl).next
      (e := .apply _ emptyDisk 0) hsecond rfl
  have hconfig : ((new.applyConfig noCertificates emptyDisk 0
      (pairConfig ["a.example.com"] ["*.example.com"])).applyConfig noCertificates emptyDisk 0
      (pairConfig ["*.example.com"] ["a.example.com"])).config =
      some (pairConfig ["*.example.com"] ["a.example.com"]) := by decide +kernel
  obtain ⟨-, -, hfresh, -⟩ := served_names_as_fresh_start hreach hconfig
  refine ⟨_, hreach, hconfig, (hfresh emptyDisk 0 "a.example.com").1.trans ?_⟩
  decide +kernel

end CertificateManager

end GateRust.Proxy
