/-
# The certificate cache

The cache of an issued certificate (`cache.rs`) is three files: the certificate, its private
key, and metadata with the domains, the account and the expiry of the certificate.
`store_certificate` replaces the three files one after the other, each of them atomically.
`load_certificate` compares the expiry of the metadata with that of the certificate.

The process may stop between two of the writes.  What a later `load_certificate` then returns
is described for every state of the cache that completed calls of `store_certificate` leave.
Parsing certificates and JSON are parameters: the libraries are not part of the repository.
-/
import GateRust.Lib.Serde
import GateRust.Proxy.Config

namespace GateRust.Proxy

abbrev Bytes := List UInt8

/-! ## The files of the cache -/

structure CertificateMetadata where
  acmeAccountId : String
  domains : List String
  expiresAt : UInt64
deriving DecidableEq, Repr

structure LegacyCertificateMetadata where
  domains : List String
deriving DecidableEq, Repr

def CertificateMetadata.new (config : CertificateConfig) (expiresAt : UInt64) :
    CertificateMetadata :=
  ⟨config.acmeAccountId, config.domains, expiresAt⟩

def CertificateMetadata.matches (m : CertificateMetadata) (config : CertificateConfig) : Bool :=
  m.acmeAccountId = config.acmeAccountId && m.domains = config.domains

/-- A directory of the cache: `certificate.pem`, `private-key.pem` and the metadata. -/
structure CacheDirectory where
  certificate : Option Bytes
  privateKey : Option Bytes
  metadata : Option Bytes
deriving DecidableEq

/-- The directories of one certificate: the current one, with `metadata-v2.json`, and the one of
older versions, with `certificate-v1.json`. -/
structure CertificateCache where
  directory : CacheDirectory
  legacyDirectory : CacheDirectory
deriving DecidableEq

structure CachedCertificate where
  certificate : Bytes
  privateKey : Bytes
  expiresAt : UInt64
deriving DecidableEq

/-- The libraries that the cache uses. -/
structure CacheLibraries where
  parseCertificateExpiry : Bytes → Except ProxyError UInt64
  metadata : Serde CertificateMetadata
  legacyMetadata : Serde LegacyCertificateMetadata

namespace CertificateCache

def empty : CertificateCache := ⟨⟨none, none, none⟩, ⟨none, none, none⟩⟩

variable (lib : CacheLibraries) (cache : CertificateCache)

/-! ## Loading -/

def readPair (storedExpiry : Option UInt64) (directory : CacheDirectory) :
    Except ProxyError (Option CachedCertificate) :=
  match directory.certificate, directory.privateKey with
  | some certificate, some privateKey =>
    match lib.parseCertificateExpiry certificate with
    | .error error => .error error
    | .ok expiresAt =>
      if storedExpiry.any (· ≠ expiresAt) then
        .error (.tls "证书缓存中的过期时间与叶证书不一致")
      else .ok (some ⟨certificate, privateKey, expiresAt⟩)
  | _, _ => .ok none

def loadCurrent (config : CertificateConfig) : Except ProxyError (Option CachedCertificate) :=
  match cache.directory.metadata with
  | none => .ok none
  | some content =>
    match lib.metadata.fromSlice content with
    | .error error => .error (.json error)
    | .ok metadata =>
      if metadata.matches config then readPair lib (some metadata.expiresAt) cache.directory
      else .ok none

def loadLegacy (config : CertificateConfig) : Except ProxyError (Option CachedCertificate) :=
  match cache.legacyDirectory.metadata with
  | none => .ok none
  | some content =>
    match lib.legacyMetadata.fromSlice content with
    | .error error => .error (.json error)
    | .ok metadata =>
      if metadata.domains = config.domains then readPair lib none cache.legacyDirectory
      else .ok none

def loadCertificate (config : CertificateConfig) : Except ProxyError (Option CachedCertificate) :=
  match cache.loadCurrent lib config with
  | .error error => .error error
  | .ok (some certificate) => .ok (some certificate)
  | .ok none => cache.loadLegacy lib config

/-! ## Storing -/

/-- A write of `atomic_write` to a file of the current directory. -/
inductive AtomicWrite where
  | certificate (content : Bytes)
  | privateKey (content : Bytes)
  | metadata (content : Bytes)

def write : AtomicWrite → CertificateCache
  | .certificate content =>
    { cache with directory := { cache.directory with certificate := some content } }
  | .privateKey content =>
    { cache with directory := { cache.directory with privateKey := some content } }
  | .metadata content =>
    { cache with directory := { cache.directory with metadata := some content } }

/-- The writes of `store_certificate`, in their order, and what it returns after them. -/
def storePlan (config : CertificateConfig) (certificate privateKey : Bytes) :
    List AtomicWrite × Except ProxyError UInt64 :=
  match lib.parseCertificateExpiry certificate with
  | .error error => ([], .error error)
  | .ok expiresAt =>
    match lib.metadata.toVec (.new config expiresAt) with
    | .error error => ([.certificate certificate, .privateKey privateKey], .error (.json error))
    | .ok content =>
      ([.certificate certificate, .privateKey privateKey, .metadata content], .ok expiresAt)

def storeCertificate (config : CertificateConfig) (certificate privateKey : Bytes) :
    Except ProxyError UInt64 × CertificateCache :=
  let plan := storePlan lib config certificate privateKey
  (plan.2, plan.1.foldl write cache)

/-- The cache when the process stops after `k` writes of `store_certificate`. -/
def stoppedStore (config : CertificateConfig) (certificate privateKey : Bytes) (k : ℕ) :
    CertificateCache :=
  ((storePlan lib config certificate privateKey).1.take k).foldl write cache

/-! ## Stopping between two writes -/

/-- A completed call of `store_certificate`. -/
structure StoredPair where
  config : CertificateConfig
  certificate : Bytes
  privateKey : Bytes

/-- The caches that completed calls of `store_certificate` leave, with the last call. -/
inductive LeftBy : CertificateCache → Option StoredPair → Prop
  | empty : LeftBy .empty none
  | store {cache : CertificateCache} {last : Option StoredPair} {config : CertificateConfig}
      {certificate privateKey : Bytes} {expiresAt : UInt64} (h : LeftBy cache last)
      (hstore : (cache.storeCertificate lib config certificate privateKey).1 = .ok expiresAt) :
      LeftBy (cache.storeCertificate lib config certificate privateKey).2
        (some ⟨config, certificate, privateKey⟩)

/-- After the stop, `load_certificate` returns the new pair or the pair it returned before, and
none only if it returned none before. -/
def LoadsOldOrNew (config : CertificateConfig) (certificate privateKey : Bytes) (k : ℕ) : Prop :=
  let before := cache.loadCertificate lib config
  let after := (cache.stoppedStore lib config certificate privateKey k).loadCertificate lib config
  (∃ c, after = .ok (some c) ∧
    ((c.certificate = certificate ∧ c.privateKey = privateKey) ∨
      ∃ old, before = .ok (some old) ∧ c.certificate = old.certificate ∧
        c.privateKey = old.privateKey)) ∨
    (after = .ok none ∧ before = .ok none)

/-- The stop does no harm: there is no earlier pair for the configuration, or no file was
written, or all were, or the new certificate expires when the earlier one does and the files
that were written do not mix the two pairs. -/
def HarmlessStop (last : Option StoredPair) (config : CertificateConfig)
    (certificate privateKey : Bytes) (k : ℕ) : Prop :=
  ∀ old ∈ last, old.config.acmeAccountId = config.acmeAccountId →
    old.config.domains = config.domains →
    k = 0 ∨ 3 ≤ k ∨ (∃ error, lib.parseCertificateExpiry certificate = .error error) ∨
      (lib.parseCertificateExpiry certificate = lib.parseCertificateExpiry old.certificate ∧
        (k = 2 ∨ certificate = old.certificate ∨ privateKey = old.privateKey))

variable {lib} {cache} {last : Option StoredPair} {config : CertificateConfig}
  {certificate privateKey content : Bytes}

/-- The files that the completed calls leave. -/
lemma LeftBy.files (h : LeftBy lib cache last) :
    (last = none ∧ cache = CertificateCache.empty) ∨
      ∃ old expiresAt content, last = some old ∧
        lib.parseCertificateExpiry old.certificate = .ok expiresAt ∧
        lib.metadata.toVec (.new old.config expiresAt) = .ok content ∧
        cache = ⟨⟨some old.certificate, some old.privateKey, some content⟩,
          ⟨none, none, none⟩⟩ := by
  induction h with
  | empty => exact Or.inl ⟨rfl, rfl⟩
  | @store cache last config certificate privateKey expiresAt h hstore ih =>
    right
    have hlegacy : cache.legacyDirectory = ⟨none, none, none⟩ := by
      rcases ih with ⟨-, rfl⟩ | ⟨_, _, _, -, -, -, rfl⟩ <;> rfl
    simp only [storeCertificate, storePlan] at hstore ⊢
    split at hstore
    · simp at hstore
    · rename_i expiry hparse
      split at hstore
      · simp at hstore
      · rename_i content hvec
        refine ⟨_, expiry, content, rfl, hparse, hvec, ?_⟩
        simp only [List.foldl_cons, List.foldl_nil, write, hlegacy]

/-- `load_certificate` on a complete directory. -/
lemma loadCertificate_complete (config : CertificateConfig) (privateKey : Bytes)
    {m : CertificateMetadata} (hread : lib.metadata.fromSlice content = .ok m) {expiresAt : UInt64}
    (hparse : lib.parseCertificateExpiry certificate = .ok expiresAt) :
    loadCertificate lib
        ⟨⟨some certificate, some privateKey, some content⟩, ⟨none, none, none⟩⟩ config =
      if m.matches config then
        if m.expiresAt = expiresAt then .ok (some ⟨certificate, privateKey, expiresAt⟩)
        else .error (.tls "证书缓存中的过期时间与叶证书不一致")
      else .ok none := by
  cases hm : m.matches config with
  | false => simp [loadCertificate, loadCurrent, hread, hm, loadLegacy]
  | true =>
    by_cases hexp : m.expiresAt = expiresAt
    · simp [loadCertificate, loadCurrent, hread, hm, readPair, hparse, hexp]
    · simp [loadCertificate, loadCurrent, hread, hm, readPair, hparse, hexp]

/-- Without metadata nothing is loaded. -/
lemma loadCertificate_noMetadata (certificate privateKey : Option Bytes) :
    loadCertificate lib ⟨⟨certificate, privateKey, none⟩, ⟨none, none, none⟩⟩ config = .ok none :=
  rfl

/-- The writes of a call that can write its metadata. -/
lemma storePlan_writes {expiresAt : UInt64}
    (hparse : lib.parseCertificateExpiry certificate = .ok expiresAt)
    (hvec : lib.metadata.toVec (.new config expiresAt) = .ok content) :
    (storePlan lib config certificate privateKey).1 =
      [.certificate certificate, .privateKey privateKey, .metadata content] := by
  simp [storePlan, hparse, hvec]

lemma matches_iff (m : CertificateMetadata) :
    m.matches config = true ↔
      m.acmeAccountId = config.acmeAccountId ∧ m.domains = config.domains := by
  simp [CertificateMetadata.matches]

/-- A stop before the first write. -/
lemma loadsOldOrNew_zero (certificate privateKey : Bytes)
    (h : ∀ error, cache.loadCertificate lib config ≠ .error error) :
    cache.LoadsOldOrNew lib config certificate privateKey 0 := by
  cases hload : cache.loadCertificate lib config with
  | error error => exact absurd hload (h error)
  | ok loaded =>
    cases loaded with
    | none => exact Or.inr ⟨hload, hload⟩
    | some c => exact Or.inl ⟨c, hload, Or.inr ⟨c, hload, rfl, rfl⟩⟩

/-- A stop after the last write. -/
lemma loadsOldOrNew_complete {expiresAt : UInt64}
    (hlegacy : cache.legacyDirectory = ⟨none, none, none⟩)
    (hparse : lib.parseCertificateExpiry certificate = .ok expiresAt)
    (hvec : lib.metadata.toVec (.new config expiresAt) = .ok content)
    (hread : lib.metadata.fromSlice content = .ok (.new config expiresAt)) (n : ℕ) :
    cache.LoadsOldOrNew lib config certificate privateKey (n + 3) := by
  refine Or.inl ⟨⟨certificate, privateKey, expiresAt⟩, ?_, Or.inl ⟨rfl, rfl⟩⟩
  have hload := loadCertificate_complete config privateKey hread hparse
  rw [if_pos ((matches_iff _).mpr ⟨rfl, rfl⟩), CertificateMetadata.new, if_pos rfl] at hload
  rw [← hload, stoppedStore, storePlan_writes hparse hvec]
  simp [write, hlegacy]

/-- A stop after which the certificate is new and the metadata is old. -/
lemma loadsOldOrNew_mixed {old : StoredPair} {expiresAt oldExpiresAt : UInt64} {key : Bytes} {k : ℕ}
    (hold : lib.parseCertificateExpiry old.certificate = .ok oldExpiresAt)
    (hparse : lib.parseCertificateExpiry certificate = .ok expiresAt)
    (hread : lib.metadata.fromSlice content = .ok (.new old.config oldExpiresAt))
    (hcache : cache =
      ⟨⟨some old.certificate, some old.privateKey, some content⟩, ⟨none, none, none⟩⟩)
    (hstop : cache.stoppedStore lib config certificate privateKey k =
      ⟨⟨some certificate, some key, some content⟩, ⟨none, none, none⟩⟩) :
    cache.LoadsOldOrNew lib config certificate privateKey k ↔
      (old.config.acmeAccountId = config.acmeAccountId → old.config.domains = config.domains →
        expiresAt = oldExpiresAt ∧
          (key = privateKey ∨ (certificate = old.certificate ∧ key = old.privateKey))) := by
  have hbefore := loadCertificate_complete config old.privateKey hread hold
  have hafter := loadCertificate_complete config key hread hparse
  rw [← hcache] at hbefore
  rw [← hstop] at hafter
  by_cases hm : (CertificateMetadata.new old.config oldExpiresAt).matches config = true
  · obtain ⟨haccount, hdomains⟩ := (matches_iff _).mp hm
    rw [if_pos hm, CertificateMetadata.new, if_pos rfl] at hbefore
    rw [if_pos hm, CertificateMetadata.new] at hafter
    by_cases hexp : oldExpiresAt = expiresAt
    · rw [if_pos hexp] at hafter
      constructor
      · rintro (⟨c, hc, hpair⟩ | ⟨hnone, -⟩)
        · rw [hafter] at hc
          obtain rfl := Option.some.inj (Except.ok.inj hc)
          refine fun _ _ => ⟨hexp.symm, ?_⟩
          rcases hpair with ⟨-, hkey⟩ | ⟨p, hp, hcert, hkey⟩
          · exact Or.inl hkey
          · rw [hbefore] at hp
            obtain rfl := Option.some.inj (Except.ok.inj hp)
            exact Or.inr ⟨hcert, hkey⟩
        · rw [hafter] at hnone
          simp at hnone
      · intro h
        obtain ⟨-, hkey | ⟨hcert, hkey⟩⟩ := h haccount hdomains
        · exact Or.inl ⟨_, hafter, Or.inl ⟨rfl, hkey⟩⟩
        · exact Or.inl ⟨_, hafter, Or.inr ⟨_, hbefore, hcert, hkey⟩⟩
    · -- the expiry of the metadata is not that of the certificate
      rw [if_neg hexp] at hafter
      refine iff_of_false ?_ fun h => hexp (h haccount hdomains).1.symm
      rintro (⟨c, hc, -⟩ | ⟨hnone, -⟩)
      · rw [hafter] at hc
        simp at hc
      · rw [hafter] at hnone
        simp at hnone
  · rw [if_neg hm] at hbefore hafter
    exact iff_of_true (Or.inr ⟨hafter, hbefore⟩) fun haccount hdomains =>
      absurd ((matches_iff _).mpr ⟨haccount, hdomains⟩) hm

/-- **What a stop of `store_certificate` does to the cache.**  For every cache that completed
calls leave, `load_certificate` returns the new pair or the pair it returned before, exactly if
the stop is harmless.  The metadata can be written and is read back. -/
theorem stopped_store_loads_old_or_new_iff (h : LeftBy lib cache last)
    (hread : ∀ m, lib.metadata.RoundTrips m)
    (hwrite : ∀ expiresAt, lib.parseCertificateExpiry certificate = .ok expiresAt →
      ∃ content, lib.metadata.toVec (.new config expiresAt) = .ok content) (k : ℕ) :
    cache.LoadsOldOrNew lib config certificate privateKey k ↔
      HarmlessStop lib last config certificate privateKey k := by
  have hlegacy : cache.legacyDirectory = ⟨none, none, none⟩ := by
    rcases h.files with ⟨-, rfl⟩ | ⟨_, _, _, -, -, -, rfl⟩ <;> rfl
  have hbefore : ∀ error, cache.loadCertificate lib config ≠ .error error := by
    rcases h.files with ⟨-, rfl⟩ | ⟨old, expiry, content, -, hparse, hvec, rfl⟩
    · simp [loadCertificate_noMetadata, CertificateCache.empty]
    · intro error
      rw [loadCertificate_complete _ _ (hread _ content hvec) hparse]
      split <;> simp [CertificateMetadata.new]
  cases hparse : lib.parseCertificateExpiry certificate with
  | error error =>
    -- nothing is written
    refine iff_of_true ?_ fun old _ _ _ => Or.inr (Or.inr (Or.inl ⟨error, hparse⟩))
    have hzero := loadsOldOrNew_zero certificate privateKey hbefore
    simpa [LoadsOldOrNew, stoppedStore, storePlan, hparse] using hzero
  | ok expiresAt =>
    obtain ⟨content, hvec⟩ := hwrite expiresAt hparse
    have hplan : (storePlan lib config certificate privateKey).1 =
        [.certificate certificate, .privateKey privateKey, .metadata content] :=
      storePlan_writes hparse hvec
    match k with
    | 0 => exact iff_of_true (loadsOldOrNew_zero _ _ hbefore) fun _ _ _ _ => Or.inl rfl
    | n + 3 =>
      exact iff_of_true (loadsOldOrNew_complete hlegacy hparse hvec (hread _ content hvec) n)
        fun _ _ _ _ => Or.inr (Or.inl (by omega))
    | 1 =>
      rcases h.files with ⟨rfl, rfl⟩ | ⟨old, expiry, content₀, rfl, hold, hvec₀, hcache⟩
      · refine iff_of_true (Or.inr ⟨?_, rfl⟩) (by simp [HarmlessStop])
        rw [stoppedStore, hplan]
        exact loadCertificate_noMetadata _ _
      · rw [loadsOldOrNew_mixed hold hparse (hread _ content₀ hvec₀) hcache
          (by rw [stoppedStore, hplan, hcache]; rfl)]
        simp [HarmlessStop, hparse, hold, or_comm, eq_comm]
    | 2 =>
      rcases h.files with ⟨rfl, rfl⟩ | ⟨old, expiry, content₀, rfl, hold, hvec₀, hcache⟩
      · refine iff_of_true (Or.inr ⟨?_, rfl⟩) (by simp [HarmlessStop])
        rw [stoppedStore, hplan]
        exact loadCertificate_noMetadata _ _
      · rw [loadsOldOrNew_mixed hold hparse (hread _ content₀ hvec₀) hcache
          (by rw [stoppedStore, hplan, hcache]; rfl)]
        simp [HarmlessStop, hparse, hold]

/-! ## Sample certificates -/

/-- A PEM file with the given lines. -/
def pem (label : String) (lines : List String) : Bytes :=
  (("-----BEGIN " ++ label ++ "-----") :: lines ++ ["-----END " ++ label ++ "-----"]).flatMap
    fun line => line.toUTF8.toList ++ [10]

/-- A certificate of `a.example` that expires on the first of April 2026. -/
def firstCertificate : Bytes := pem "CERTIFICATE"
  ["MIIBIjCByQIUcNEwQjBFMGzBBBYoX80DkwI7FEowCgYIKoZIzj0EAwIwFDESMBAG",
    "A1UEAwwJYS5leGFtcGxlMB4XDTI2MDEwMTAwMDAwMFoXDTI2MDQwMTAwMDAwMFow",
    "FDESMBAGA1UEAwwJYS5leGFtcGxlMFkwEwYHKoZIzj0CAQYIKoZIzj0DAQcDQgAE",
    "/mRmxpOABQDBKudUD1eIOS5Ogp/PcguP9j0JFj/k4A1RXupvy2hW9jiAxmJSF8jQ",
    "9TfeSFS1TdBMYSJXzWCBLjAKBggqhkjOPQQDAgNIADBFAiEArpltDjmg+99T6Hpv",
    "vrOPlcNJQ3CAJskkQoXOx/mnRKMCIFk1h5YYdNiOTOGEbDdPKFu65mLUI4QX2d+N",
    "oz0CcXfg"]

def firstKey : Bytes := pem "EC PRIVATE KEY"
  ["MHcCAQEEIE4XPNFoNDXDy7QV4yh2uBoCW8M++XC1FL8q0WUqxqS7oAoGCCqGSM49",
    "AwEHoUQDQgAE/mRmxpOABQDBKudUD1eIOS5Ogp/PcguP9j0JFj/k4A1RXupvy2hW",
    "9jiAxmJSF8jQ9TfeSFS1TdBMYSJXzWCBLg=="]

/-- Its renewal, which expires on the first of June 2026. -/
def renewedCertificate : Bytes := pem "CERTIFICATE"
  ["MIIBITCByQIUMF9xVU6y2ZohxDlD2bXVBhei64UwCgYIKoZIzj0EAwIwFDESMBAG",
    "A1UEAwwJYS5leGFtcGxlMB4XDTI2MDMwMTAwMDAwMFoXDTI2MDYwMTAwMDAwMFow",
    "FDESMBAGA1UEAwwJYS5leGFtcGxlMFkwEwYHKoZIzj0CAQYIKoZIzj0DAQcDQgAE",
    "9+B8G/NJu3QmZtizL8VaZSWZg+2ChH9cvTQ9WNKGaULK5dy+c9+XuDqZ1N0qfzEV",
    "9u4kqLPT/amKFbqkbpjeFDAKBggqhkjOPQQDAgNHADBEAiBV3qccpxs8NKAnmCMh",
    "3kW1gyuk3DS5s6dGjNlypDW0CQIgUKYAyhi1EKwQ203eUPVvVGDEHOhcfSmj4ibZ",
    "yvaXsLg="]

def renewedKey : Bytes := pem "EC PRIVATE KEY"
  ["MHcCAQEEIHidNiSKe54uuGRsShfk9FMKKLTNHE4wdXL0o2rhUX0boAoGCCqGSM49",
    "AwEHoUQDQgAE9+B8G/NJu3QmZtizL8VaZSWZg+2ChH9cvTQ9WNKGaULK5dy+c9+X",
    "uDqZ1N0qfzEV9u4kqLPT/amKFbqkbpjeFA=="]

/-- Another certificate that expires on the first of April 2026. -/
def reissuedCertificate : Bytes := pem "CERTIFICATE"
  ["MIIBITCByQIUB+D0dfEz+InhxqiBeOmwb1UWJI8wCgYIKoZIzj0EAwIwFDESMBAG",
    "A1UEAwwJYS5leGFtcGxlMB4XDTI2MDEwMjAwMDAwMFoXDTI2MDQwMTAwMDAwMFow",
    "FDESMBAGA1UEAwwJYS5leGFtcGxlMFkwEwYHKoZIzj0CAQYIKoZIzj0DAQcDQgAE",
    "x/H4OACeIotKrKWtOkkxPCu2f0qYqq+vtCEBWkHMyCBquc44JL3zk8aqzeTwZR+k",
    "BTeKmG91VImExHXDCGBfCzAKBggqhkjOPQQDAgNHADBEAiAEpesbNcJ5GBPJLAG1",
    "KMoyZ9d44TsGCDX0vvPI6wEwFQIgAq9rJA/W/hs96mhQWtD407KAJESJnBDlajJl",
    "1ctW5hM="]

def reissuedKey : Bytes := pem "EC PRIVATE KEY"
  ["MHcCAQEEICdx8EXQRcF8xCGRPrTBa8sznx0DR/prmcFdo4l2eZmQoAoGCCqGSM49",
    "AwEHoUQDQgAEx/H4OACeIotKrKWtOkkxPCu2f0qYqq+vtCEBWkHMyCBquc44JL3z",
    "k8aqzeTwZR+kBTeKmG91VImExHXDCGBfCw=="]

def sampleCertificate : CertificateConfig where
  id := "main"
  name := "main"
  domains := ["a.example"]
  acmeAccountId := "acme"
  validation := some .manual
  autoRenew := false
  migrationError := none

/-- The JSON text of the metadata of the sample certificate. -/
def sampleMetadata (expiresAt : String) : String :=
  "\x7b\"acme_account_id\":\"acme\",\"domains\":[\"a.example\"],\"expires_at\":" ++ expiresAt ++
    "\x7d"

/-- The libraries, on the sample certificates. -/
def sampleLibraries : CacheLibraries where
  parseCertificateExpiry certificate :=
    if certificate = firstCertificate ∨ certificate = reissuedCertificate then .ok 1775001600
    else if certificate = renewedCertificate then .ok 1780272000
    else .error (.tls "证书链为空")
  metadata := .ofTable [(.new sampleCertificate 1775001600, sampleMetadata "1775001600"),
    (.new sampleCertificate 1780272000, sampleMetadata "1780272000")]
  legacyMetadata := .ofTable []

lemma sample_roundTrips (m : CertificateMetadata) : sampleLibraries.metadata.RoundTrips m :=
  Serde.ofTable_roundTrips (by decide +kernel) m

lemma sample_toVec_first : sampleLibraries.metadata.toVec (.new sampleCertificate 1775001600) =
    .ok (sampleMetadata "1775001600").toUTF8.toList := by decide +kernel

lemma sample_toVec_renewed : sampleLibraries.metadata.toVec (.new sampleCertificate 1780272000) =
    .ok (sampleMetadata "1780272000").toUTF8.toList := by decide +kernel

lemma sample_parse_first : sampleLibraries.parseCertificateExpiry firstCertificate =
    .ok 1775001600 :=
  if_pos (Or.inl rfl)

lemma sample_parse_reissued : sampleLibraries.parseCertificateExpiry reissuedCertificate =
    .ok 1775001600 :=
  if_pos (Or.inr rfl)

lemma sample_parse_renewed : sampleLibraries.parseCertificateExpiry renewedCertificate =
    .ok 1780272000 := by
  have hne : ¬ (renewedCertificate = firstCertificate ∨
    renewedCertificate = reissuedCertificate) := by decide +kernel
  exact (if_neg hne).trans (if_pos rfl)

/-- The cache after the first certificate is stored. -/
def firstStored : CertificateCache :=
  (CertificateCache.empty.storeCertificate sampleLibraries sampleCertificate firstCertificate
    firstKey).2

lemma leftBy_firstStored : LeftBy sampleLibraries firstStored
    (some ⟨sampleCertificate, firstCertificate, firstKey⟩) := by
  have hstore : (CertificateCache.empty.storeCertificate sampleLibraries sampleCertificate
      firstCertificate firstKey).1 = .ok 1775001600 := by
    simp only [storeCertificate, storePlan, sample_parse_first, sample_toVec_first]
  exact .store .empty hstore

/-- The process stops before it has written the metadata of a certificate that expires when the
one before it does. -/
theorem stop_before_equal_metadata :
    firstStored.LoadsOldOrNew sampleLibraries sampleCertificate reissuedCertificate reissuedKey
      2 := by
  refine (stopped_store_loads_old_or_new_iff leftBy_firstStored sample_roundTrips ?_ 2).mpr ?_
  · intro expiresAt hparse
    obtain rfl := Except.ok.inj (sample_parse_reissued.symm.trans hparse)
    exact ⟨_, sample_toVec_first⟩
  · intro old hold _ _
    obtain rfl := Option.some.inj hold
    exact Or.inr (Or.inr (Or.inr ⟨sample_parse_reissued.trans sample_parse_first.symm, Or.inl rfl⟩))

/-- The process stops after the first of the three writes of a renewal.  The expiry has changed,
and loading fails; before the renewal it returned the first certificate. -/
theorem stop_after_first_write :
    firstStored.loadCertificate sampleLibraries sampleCertificate =
      .ok (some ⟨firstCertificate, firstKey, 1775001600⟩) ∧
    (firstStored.stoppedStore sampleLibraries sampleCertificate renewedCertificate renewedKey
        1).loadCertificate sampleLibraries sampleCertificate =
      .error (.tls "证书缓存中的过期时间与叶证书不一致") ∧
    ¬ firstStored.LoadsOldOrNew sampleLibraries sampleCertificate renewedCertificate renewedKey
        1 := by
  have hread := sample_roundTrips _ _ sample_toVec_first
  have hmatches : (CertificateMetadata.new sampleCertificate 1775001600).matches
      sampleCertificate = true := (matches_iff _).mpr ⟨rfl, rfl⟩
  have hstored : firstStored = ⟨⟨some firstCertificate, some firstKey,
      some (sampleMetadata "1775001600").toUTF8.toList⟩, ⟨none, none, none⟩⟩ := by
    simp only [firstStored, storeCertificate, storePlan, sample_parse_first, sample_toVec_first]
    rfl
  have hbefore : firstStored.loadCertificate sampleLibraries sampleCertificate =
      .ok (some ⟨firstCertificate, firstKey, 1775001600⟩) := by
    rw [hstored, loadCertificate_complete _ _ hread sample_parse_first, if_pos hmatches,
      CertificateMetadata.new, if_pos rfl]
  have herror : (firstStored.stoppedStore sampleLibraries sampleCertificate renewedCertificate
      renewedKey 1).loadCertificate sampleLibraries sampleCertificate =
      .error (.tls "证书缓存中的过期时间与叶证书不一致") := by
    rw [stoppedStore, storePlan_writes sample_parse_renewed sample_toVec_renewed, hstored]
    exact (loadCertificate_complete _ _ hread sample_parse_renewed).trans
      ((if_pos hmatches).trans (if_neg (by decide)))
  refine ⟨hbefore, herror, ?_⟩
  simp only [LoadsOldOrNew, herror]
  simp

end CertificateCache

end GateRust.Proxy
