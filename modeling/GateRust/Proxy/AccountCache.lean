/-
# The account cache

The private key of an ACME account is kept in two files (`cache.rs`): the key, and metadata with
the directory and the key algorithm that it belongs to and whether it is registered there.
`store_private_key` replaces the key and then the metadata, each of them atomically.
`load_account` (`acme.rs`) loads the key or generates one, stores it as not registered, registers
it, and stores it again as registered; it holds the permit of `account_gate` while it may write.

Here are the calls of `load_account` for one account id, with configurations that may differ from
call to call, over any number of stops of the process.  The cryptographic and the JSON library are
parameters.
-/
import GateRust.Lib.HashMap
import GateRust.Lib.Machine
import GateRust.Lib.Results
import GateRust.Proxy.CertificateCache

namespace GateRust.Proxy

open Machine

/-! ## The files of the cache -/

def AcmeAccountConfig.directoryUrl (config : AcmeAccountConfig) : String :=
  match config.provider, config.environment with
  | .letsEncrypt, .production => "https://acme-v02.api.letsencrypt.org/directory"
  | .letsEncrypt, .staging => "https://acme-staging-v02.api.letsencrypt.org/directory"
  | .googleCloud, .production => "https://dv.acme-v02.api.pki.goog/directory"
  | .googleCloud, .staging => "https://dv.acme-v02.test-api.pki.goog/directory"

structure AccountMetadata where
  directoryUrl : String
  keyAlgorithm : KeyAlgorithm
  registered : Bool
deriving DecidableEq, Repr

def AccountMetadata.new (config : AcmeAccountConfig) (registered : Bool) : AccountMetadata :=
  ⟨config.directoryUrl, config.keyAlgorithm, registered⟩

/-- The directory of an account: `private-key.pem` and `metadata-v1.json`. -/
structure AccountCache where
  privateKey : Option Bytes
  metadata : Option Bytes
deriving DecidableEq

/-- The libraries that `load_account` uses; `Key` is the type of the private keys. -/
structure AccountLibraries (Key : Type) where
  metadata : Serde AccountMetadata
  privateKeyToPem : Key → Except String Bytes
  privateKeyFromPem : Bytes → Except String Key
  urlSafeNoPad : String → Option Bytes
  urlSafe : String → Option Bytes

/-- What the libraries write is read back. -/
structure AccountLibraries.RoundTrips {Key : Type} (lib : AccountLibraries Key) : Prop where
  metadata : ∀ m, lib.metadata.RoundTrips m
  privateKey : ∀ key pem, lib.privateKeyToPem key = .ok pem → lib.privateKeyFromPem pem = .ok key

variable {Key : Type} (lib : AccountLibraries Key)

namespace AccountCache

def loadPrivateKey (cache : AccountCache) (config : AcmeAccountConfig) :
    Except ProxyError (Option (Bytes × Bool)) :=
  match cache.metadata with
  | none => .ok none
  | some content =>
    match lib.metadata.fromSlice content with
    | .error error => .error (.json error)
    | .ok metadata =>
      if metadata.directoryUrl ≠ config.directoryUrl ∨
          metadata.keyAlgorithm ≠ config.keyAlgorithm then .ok none
      else .ok (cache.privateKey.map fun key => (key, metadata.registered))

/-- The metadata on the disk, if there is any that can be read. -/
def readMetadata (cache : AccountCache) : Option AccountMetadata :=
  cache.metadata.bind fun content => (lib.metadata.fromSlice content).toOption

variable {lib}

lemma readMetadata_eq_some {cache : AccountCache} {m : AccountMetadata} :
    cache.readMetadata lib = some m ↔
      ∃ content, cache.metadata = some content ∧ lib.metadata.fromSlice content = .ok m := by
  unfold readMetadata
  constructor
  · intro h
    obtain ⟨content, hcontent, hread⟩ := Option.bind_eq_some_iff.mp h
    refine ⟨content, hcontent, ?_⟩
    cases hslice : lib.metadata.fromSlice content with
    | error error => simp [hslice, Except.toOption] at hread
    | ok m' => simpa [hslice, Except.toOption] using hread
  · rintro ⟨content, hcontent, hread⟩
    simp [hcontent, hread, Except.toOption]

/-- What `load_private_key` returns comes from the two files as they are. -/
lemma loadPrivateKey_eq_some {cache : AccountCache} {config : AcmeAccountConfig} {pem : Bytes}
    {registered : Bool} :
    cache.loadPrivateKey lib config = .ok (some (pem, registered)) ↔
      cache.readMetadata lib = some (.new config registered) ∧ cache.privateKey = some pem := by
  rw [readMetadata_eq_some]
  unfold loadPrivateKey
  constructor
  · intro h
    split at h
    · simp at h
    · rename_i content hcontent
      split at h
      · simp at h
      · rename_i m hread
        split at h
        · simp at h
        · rename_i hsame
          obtain ⟨hurl, halgorithm⟩ := not_or.mp hsame
          obtain ⟨key, hkey, heq⟩ := Option.map_eq_some_iff.mp (Except.ok.inj h)
          obtain ⟨rfl, rfl⟩ := Prod.mk.inj heq
          refine ⟨⟨content, hcontent, ?_⟩, hkey⟩
          rw [hread, AccountMetadata.new, ← not_not.mp hurl, ← not_not.mp halgorithm]
  · rintro ⟨⟨content, hcontent, hread⟩, hkey⟩
    simp [hcontent, hread, hkey, AccountMetadata.new]

end AccountCache

/-! ## A call of `load_account` -/

/-- What the builder of an account sends to the directory. -/
structure AccountRequest (Key : Type) where
  directoryUrl : String
  privateKey : Key
  contact : List String
  termsOfServiceAgreed : Bool
  onlyReturnExisting : Bool
  externalAccountBinding : Option (String × Bytes)

def decodeEabHmac (encoded : String) : Except ProxyError Bytes :=
  match (lib.urlSafeNoPad encoded).or (lib.urlSafe encoded) with
  | some key => .ok key
  | none => .error (.invalidConfig "Google EAB HMAC Key 不是 Base64URL")

def accountRequest (config : AcmeAccountConfig) (privateKey : Key) (registered : Bool) :
    Except ProxyError (AccountRequest Key) :=
  let builder : AccountRequest Key :=
    { directoryUrl := config.directoryUrl, privateKey, contact := ["mailto:" ++ config.email],
      termsOfServiceAgreed := true, onlyReturnExisting := false, externalAccountBinding := none }
  if registered then .ok { builder with onlyReturnExisting := true }
  else if config.provider = .googleCloud then
    match config.eabKeyId with
    | none => .error (.invalidConfig ("ACME 账户 " ++ config.name ++ " 缺少 EAB Key ID"))
    | some keyId =>
      match config.eabHmacKey with
      | none => .error (.invalidConfig ("ACME 账户 " ++ config.name ++ " 缺少 EAB HMAC Key"))
      | some encoded => do
        let key ← decodeEabHmac lib encoded
        .ok { builder with externalAccountBinding := some (keyId, key) }
  else .ok builder

/-- Where a call stands. -/
inductive LoadStage (Key : Type) where
  /-- It waits for the permit of `account_gate`. -/
  | waiting
  | loading
  /-- `store_private_key` writes the key. -/
  | storingKey (privateKey : Key) (registered : Bool)
  /-- `store_private_key` has written the key and writes the metadata. -/
  | storingMetadata (privateKey : Key) (registered : Bool)
  | connecting (privateKey : Key) (registered : Bool)
  /-- The request is sent. -/
  | requested (privateKey : Key) (registered : Bool)
deriving DecidableEq

/-- The call has the permit in this stage: it drops it once it has loaded a registered key. -/
def LoadStage.holdsPermit : LoadStage Key → Bool
  | .waiting => false
  | .connecting _ registered | .requested _ registered => !registered
  | .loading | .storingKey .. | .storingMetadata .. => true

structure LoadAccount (Key : Type) where
  config : AcmeAccountConfig
  stage : LoadStage Key
deriving DecidableEq

/-- The cache of one account id, the permit of its `account_gate` and the calls of `load_account`
that have not ended. -/
structure AccountState (Key : Type) where
  cache : AccountCache
  permit : Option ℕ
  calls : HashMap ℕ (LoadAccount Key)
  /-- History: the keys that were generated, with their algorithms. -/
  generated : List (Key × KeyAlgorithm)
  /-- History: the completed registrations of a key with a directory. -/
  registrations : List (Key × String)
  /-- History: the requests that were sent. -/
  requests : List (AccountRequest Key)

namespace AccountState

inductive Event (Key : Type) where
  | call (index : ℕ) (config : AcmeAccountConfig)
  | permit (index : ℕ)
  /-- The key is loaded; `generated` is what `generate_key` returns if there is none. -/
  | load (index : ℕ) (generated : Except String Key)
  /-- One `atomic_write` of `store_private_key`. -/
  | write (index : ℕ)
  | request (index : ℕ)
  /-- The directory has registered the key or found its account. -/
  | answer (index : ℕ)
  /-- The call ends with an error (of a read, a write, a conversion or the network) or is
  cancelled. -/
  | fail (index : ℕ)
  /-- The process stops. -/
  | stop

def start : AccountState Key := ⟨⟨none, none⟩, none, ∅, [], [], []⟩

section Steps

variable (s : AccountState Key) (index : ℕ) (config : AcmeAccountConfig)

def setStage (stage : LoadStage Key) : AccountState Key :=
  { s with calls := s.calls.insert index ⟨config, stage⟩ }

/-- The end of a call; its permit is dropped with it. -/
def finish : AccountState Key :=
  { s with
    calls := s.calls.erase index
    permit := if s.permit = some index then none else s.permit }

def load (generated : Except String Key) : AccountState Key :=
  match s.cache.loadPrivateKey lib config with
  | .error _ => s.finish index
  | .ok (some (pem, registered)) =>
    match lib.privateKeyFromPem pem with
    | .error _ => s.finish index
    | .ok privateKey =>
      { s.setStage index config (.connecting privateKey registered) with
        permit := if registered then none else s.permit }
  | .ok none =>
    match generated with
    | .error _ => s.finish index
    | .ok privateKey =>
      { s.setStage index config (.storingKey privateKey false) with
        generated := s.generated ++ [(privateKey, config.keyAlgorithm)] }

def writeKey (privateKey : Key) (registered : Bool) : Option (AccountState Key) :=
  match lib.privateKeyToPem privateKey with
  | .error _ => none
  | .ok pem =>
    some { s.setStage index config (.storingMetadata privateKey registered) with
      cache := { s.cache with privateKey := some pem } }

def writeMetadata (privateKey : Key) (registered : Bool) : Option (AccountState Key) :=
  match lib.metadata.toVec (.new config registered) with
  | .error _ => none
  | .ok content =>
    some { (if registered then s.finish index
        else s.setStage index config (.connecting privateKey false)) with
      cache := { s.cache with metadata := some content } }

def request (privateKey : Key) (registered : Bool) : AccountState Key :=
  match accountRequest lib config privateKey registered with
  | .error _ => s.finish index
  | .ok request =>
    { s.setStage index config (.requested privateKey registered) with
      requests := s.requests ++ [request] }

def answer (privateKey : Key) (registered : Bool) : AccountState Key :=
  if registered then s.finish index
  else
    { s.setStage index config (.storingKey privateKey true) with
      registrations := s.registrations ++ [(privateKey, config.directoryUrl)] }

end Steps

def step (s : AccountState Key) : Event Key → Option (AccountState Key)
  | .call index config => if index ∈ s.calls then none else some (s.setStage index config .waiting)
  | .permit index =>
    match s.permit, s.calls.lookup index with
    | none, some ⟨config, .waiting⟩ =>
      some { s.setStage index config .loading with permit := some index }
    | _, _ => none
  | .load index generated =>
    match s.calls.lookup index with
    | some ⟨config, .loading⟩ => some (s.load lib index config generated)
    | _ => none
  | .write index =>
    match s.calls.lookup index with
    | some ⟨config, .storingKey key registered⟩ => s.writeKey lib index config key registered
    | some ⟨config, .storingMetadata key registered⟩ =>
      s.writeMetadata lib index config key registered
    | _ => none
  | .request index =>
    match s.calls.lookup index with
    | some ⟨config, .connecting key registered⟩ => some (s.request lib index config key registered)
    | _ => none
  | .answer index =>
    match s.calls.lookup index with
    | some ⟨config, .requested key registered⟩ => some (s.answer index config key registered)
    | _ => none
  | .fail index => if index ∈ s.calls then some (s.finish index) else none
  | .stop => some { s with permit := none, calls := ∅ }

/-! ## Soundness -/

/-- The key was generated for the algorithm of the metadata, and is registered with its directory
if the metadata says so. -/
def Owns (s : AccountState Key) (key : Key) (m : AccountMetadata) : Prop :=
  (key, m.keyAlgorithm) ∈ s.generated ∧
    (m.registered = true → (key, m.directoryUrl) ∈ s.registrations)

/-- What a call loads is sound, and so is every request for an existing account. -/
structure Sound (s : AccountState Key) : Prop where
  loads : ∀ index config pem registered, s.calls.lookup index = some ⟨config, .loading⟩ →
    s.cache.loadPrivateKey lib config = .ok (some (pem, registered)) →
    ∃ key, lib.privateKeyFromPem pem = .ok key ∧ (key, config.keyAlgorithm) ∈ s.generated ∧
      (registered = true → (key, config.directoryUrl) ∈ s.registrations)
  requests : ∀ request ∈ s.requests, request.onlyReturnExisting = true →
    (request.privateKey, request.directoryUrl) ∈ s.registrations

/-- A call may end here: it is not between the two writes of a new key, or the metadata on the
disk, if any, is of a key of the same algorithm that is not registered. -/
def mayEnd (s : AccountState Key) (c : LoadAccount Key) : Bool :=
  match c.stage with
  | .storingMetadata _ false =>
    (s.cache.readMetadata lib).all fun m => m.keyAlgorithm = c.config.keyAlgorithm && !m.registered
  | _ => true

/-- The calls that the event ends may end. -/
def Harmless (s : AccountState Key) : Event Key → Prop
  | .fail index => ∀ c ∈ s.calls.lookup index, s.mayEnd lib c = true
  | .stop => ∀ entry ∈ s.calls.entries, s.mayEnd lib entry.2 = true
  | _ => True

instance (s : AccountState Key) (e : Event Key) : Decidable (Harmless lib s e) := by
  cases e <;> unfold Harmless <;> infer_instance

/-! ## The invariant -/

section Invariant

variable {lib} {s s' : AccountState Key} {index : ℕ} {config : AcmeAccountConfig} {key : Key}
  {registered : Bool}

/-- The key on the disk. -/
def Stored (lib : AccountLibraries Key) (s : AccountState Key) (key : Key) : Prop :=
  ∃ pem, s.cache.privateKey = some pem ∧ lib.privateKeyFromPem pem = .ok key

/-- The metadata on the disk is of the key on the disk. -/
def Paired (lib : AccountLibraries Key) (s : AccountState Key) : Prop :=
  ∀ m pem, s.cache.readMetadata lib = some m → s.cache.privateKey = some pem →
    ∃ key, lib.privateKeyFromPem pem = .ok key ∧ s.Owns key m

/-- What is known of a call by its stage. -/
def CallSound (lib : AccountLibraries Key) (s : AccountState Key) (c : LoadAccount Key) : Prop :=
  match c.stage with
  | .waiting | .loading => True
  | .storingKey key registered =>
    s.Owns key (.new c.config registered) ∧
      (registered = true → s.cache.readMetadata lib = some (.new c.config false))
  | .storingMetadata key registered =>
    s.Owns key (.new c.config registered) ∧ s.Stored lib key ∧
      (registered = true → s.cache.readMetadata lib = some (.new c.config false))
  | .connecting key registered | .requested key registered =>
    s.Owns key (.new c.config registered) ∧
      (registered = false → s.cache.readMetadata lib = some (.new c.config false))

/-- The call is between the two writes of a new key. -/
def Replacing (s : AccountState Key) (index : ℕ) : Prop :=
  ∃ config key, s.calls.lookup index = some ⟨config, .storingMetadata key false⟩

structure Inv (lib : AccountLibraries Key) (s : AccountState Key) : Prop where
  permit : ∀ i c, s.calls.lookup i = some c → c.stage.holdsPermit = true → s.permit = some i
  calls : ∀ i c, s.calls.lookup i = some c → s.CallSound lib c
  disk : s.Paired lib ∨ ∃ i, s.Replacing i
  requests : ∀ request ∈ s.requests, request.onlyReturnExisting = true →
    (request.privateKey, request.directoryUrl) ∈ s.registrations

/-- What a step of one call leaves to the others: the disk changes only while it has the permit. -/
structure Moves (s : AccountState Key) (index : ℕ) (s' : AccountState Key) : Prop where
  calls : ∀ i, i ≠ index → s'.calls.lookup i = s.calls.lookup i
  permit : ∀ i, i ≠ index → s.permit = some i → s'.permit = some i
  cache : s'.cache = s.cache ∨ s.permit = some index
  generated : s.generated ⊆ s'.generated
  registrations : s.registrations ⊆ s'.registrations

lemma Owns.of_moves {m : AccountMetadata} (h : s.Owns key m) (hmoves : Moves s index s') :
    s'.Owns key m :=
  ⟨hmoves.generated h.1, fun hregistered => hmoves.registrations (h.2 hregistered)⟩

lemma Paired.of_moves (h : s.Paired lib) (hmoves : Moves s index s') (hcache : s'.cache = s.cache) :
    s'.Paired lib := by
  intro m pem hm hpem
  rw [hcache] at hm hpem
  obtain ⟨key, hkey, howns⟩ := h m pem hm hpem
  exact ⟨key, hkey, howns.of_moves hmoves⟩

/-- A call with the permit, or a step that leaves the disk alone: what is known of the call stays
known. -/
lemma CallSound.of_moves {c : LoadAccount Key} (h : s.CallSound lib c)
    (hmoves : Moves s index s') (hcache : s'.cache = s.cache ∨ c.stage.holdsPermit = false) :
    s'.CallSound lib c := by
  obtain ⟨config, stage⟩ := c
  cases stage with
  | waiting => trivial
  | loading => trivial
  | storingKey key registered =>
    rcases hcache with hcache | hholds
    · exact ⟨h.1.of_moves hmoves, by rw [hcache]; exact h.2⟩
    · cases hholds
  | storingMetadata key registered =>
    rcases hcache with hcache | hholds
    · refine ⟨h.1.of_moves hmoves, ?_, by rw [hcache]; exact h.2.2⟩
      rw [Stored, hcache]
      exact h.2.1
    · cases hholds
  | connecting key registered =>
    refine ⟨h.1.of_moves hmoves, fun hregistered => ?_⟩
    rcases hcache with hcache | hholds
    · rw [hcache]
      exact h.2 hregistered
    · simp [LoadStage.holdsPermit, hregistered] at hholds
  | requested key registered =>
    refine ⟨h.1.of_moves hmoves, fun hregistered => ?_⟩
    rcases hcache with hcache | hholds
    · rw [hcache]
      exact h.2 hregistered
    · simp [LoadStage.holdsPermit, hregistered] at hholds

/-- **A step of one call.**  It keeps the invariant if its own call and the disk are as they
should be afterwards. -/
lemma Inv.of_moves (h : Inv lib s) (hmoves : Moves s index s')
    (hcall : ∀ c, s'.calls.lookup index = some c →
      s'.CallSound lib c ∧ (c.stage.holdsPermit = true → s'.permit = some index))
    (hdisk : s'.Paired lib ∨ ∃ i, s'.Replacing i)
    (hrequests : ∀ request ∈ s'.requests, request.onlyReturnExisting = true →
      request ∈ s.requests ∨ (request.privateKey, request.directoryUrl) ∈ s'.registrations) :
    Inv lib s' := by
  refine ⟨fun i c hc hholds => ?_, fun i c hc => ?_, hdisk, fun request hrequest hexisting => ?_⟩
  · by_cases hi : i = index
    · subst hi
      exact (hcall c hc).2 hholds
    · rw [hmoves.calls i hi] at hc
      exact hmoves.permit i hi (h.permit i c hc hholds)
  · by_cases hi : i = index
    · subst hi
      exact (hcall c hc).1
    · rw [hmoves.calls i hi] at hc
      refine (h.calls i c hc).of_moves hmoves (hmoves.cache.imp_right fun hpermit => ?_)
      -- the permit is with the call that moves
      by_contra hholds
      have hi' := h.permit i c hc (by simpa using hholds)
      exact hi (Option.some.inj (hi'.symm.trans hpermit))
  · rcases hrequests request hrequest hexisting with hold | hnew
    · exact hmoves.registrations (h.requests request hold hexisting)
    · exact hnew

/-- A step that leaves the disk alone, by a call that is not replacing the key. -/
lemma disk_of_moves (h : s.Paired lib ∨ ∃ i, s.Replacing i) (hmoves : Moves s index s')
    (hcache : s'.cache = s.cache) (hnot : ¬ s.Replacing index) :
    s'.Paired lib ∨ ∃ i, s'.Replacing i := by
  rcases h with hpaired | ⟨i, config, key, hi⟩
  · exact Or.inl (hpaired.of_moves hmoves hcache)
  · have hne : i ≠ index := by
      rintro rfl
      exact hnot ⟨config, key, hi⟩
    exact Or.inr ⟨i, config, key, by rw [hmoves.calls i hne, hi]⟩

/-! ### The steps -/

@[simp] lemma lookup_setStage (s : AccountState Key) (index i : ℕ) (config : AcmeAccountConfig)
    (stage : LoadStage Key) :
    (s.setStage index config stage).calls.lookup i =
      if i = index then some ⟨config, stage⟩ else s.calls.lookup i :=
  AList.lookup_insert_eq ..

@[simp] lemma lookup_finish (s : AccountState Key) (index i : ℕ) :
    (s.finish index).calls.lookup i = if i = index then none else s.calls.lookup i :=
  AList.lookup_erase_eq ..

lemma moves_setStage (s : AccountState Key) (index : ℕ) (config : AcmeAccountConfig)
    (stage : LoadStage Key) : Moves s index (s.setStage index config stage) where
  calls i hi := by rw [lookup_setStage, if_neg hi]
  permit _ _ h := h
  cache := Or.inl rfl
  generated := List.Subset.refl _
  registrations := List.Subset.refl _

lemma moves_finish (s : AccountState Key) (index : ℕ) : Moves s index (s.finish index) where
  calls i hi := by rw [lookup_finish, if_neg hi]
  permit i hi h := by
    have hne : s.permit ≠ some index := fun heq => hi (Option.some.inj (h.symm.trans heq))
    simpa [finish, hne] using h
  cache := Or.inl rfl
  generated := List.Subset.refl _
  registrations := List.Subset.refl _

/-- The call moves to a new stage, of which everything is known that has to be. -/
lemma Inv.of_stage (h : Inv lib s) (hmoves : Moves s index s') {stage : LoadStage Key}
    (hstage : s'.calls = (s.setStage index config stage).calls)
    (hcall : s'.CallSound lib ⟨config, stage⟩)
    (hpermit : stage.holdsPermit = true → s'.permit = some index)
    (hdisk : s'.Paired lib ∨ ∃ i, s'.Replacing i)
    (hrequests : ∀ request ∈ s'.requests, request.onlyReturnExisting = true →
      request ∈ s.requests ∨ (request.privateKey, request.directoryUrl) ∈ s'.registrations) :
    Inv lib s' := by
  refine h.of_moves hmoves (fun c hc => ?_) hdisk hrequests
  rw [hstage, lookup_setStage, if_pos rfl] at hc
  obtain rfl := Option.some.inj hc
  exact ⟨hcall, hpermit⟩

lemma not_replacing_of_stage {stage : LoadStage Key}
    (hcall : s.calls.lookup index = some ⟨config, stage⟩)
    (hstage : ∀ key, stage ≠ .storingMetadata key false) : ¬ s.Replacing index := by
  rintro ⟨config', key, h⟩
  rw [hcall] at h
  exact hstage key (LoadAccount.mk.inj (Option.some.inj h)).2

/-- The two files after the end of a call that may end. -/
lemma Inv.paired_of_mayEnd (h : Inv lib s)
    (hcall : s.calls.lookup index = some ⟨config, .storingMetadata key false⟩)
    (hend : s.mayEnd lib ⟨config, .storingMetadata key false⟩ = true) : s.Paired lib := by
  obtain ⟨howns, ⟨pem, hpem, hkey⟩, -⟩ := h.calls index _ hcall
  intro m pem' hm hpem'
  obtain rfl := Option.some.inj (hpem.symm.trans hpem')
  have hm' : m.keyAlgorithm = config.keyAlgorithm ∧ m.registered = false := by
    simpa [mayEnd, hm] using hend
  refine ⟨key, hkey, ?_, fun hregistered => ?_⟩
  · rw [hm'.1]
    exact howns.1
  · rw [hm'.2] at hregistered
    cases hregistered

lemma Inv.finish (h : Inv lib s)
    (hend : ∀ c, s.calls.lookup index = some c → s.mayEnd lib c = true) :
    Inv lib (s.finish index) := by
  refine h.of_moves (moves_finish s index) (fun c hc => by simp at hc) ?_
    fun request hrequest _ => Or.inl hrequest
  by_cases hreplacing : s.Replacing index
  · obtain ⟨config, key, hcall⟩ := hreplacing
    have hpaired := h.paired_of_mayEnd hcall (hend _ hcall)
    exact Or.inl (hpaired.of_moves (moves_finish s index) rfl)
  · exact disk_of_moves h.disk (moves_finish s index) rfl hreplacing

/-- The end of a call that is not between the two writes of a new key. -/
lemma Inv.finish_of_stage (h : Inv lib s) {stage : LoadStage Key}
    (hcall : s.calls.lookup index = some ⟨config, stage⟩)
    (hstage : ∀ key, stage ≠ .storingMetadata key false) : Inv lib (s.finish index) := by
  refine h.finish fun c hc => ?_
  obtain rfl := Option.some.inj (hcall.symm.trans hc)
  cases stage with
  | storingMetadata key registered =>
    cases registered with
    | true => rfl
    | false => exact absurd rfl (hstage key)
  | waiting | loading | storingKey | connecting | requested => rfl

lemma Inv.call (h : Inv lib s) (hnew : index ∉ s.calls) :
    Inv lib (s.setStage index config .waiting) := by
  refine h.of_stage (moves_setStage s index config .waiting) rfl trivial
    (fun hholds => by cases hholds) ?_ fun request hrequest _ => Or.inl hrequest
  refine disk_of_moves h.disk (moves_setStage s index config .waiting) rfl ?_
  rintro ⟨config', key, hcall⟩
  exact hnew (AList.mem_of_lookup hcall)

lemma Inv.permitted (h : Inv lib s) (hpermit : s.permit = none)
    (hcall : s.calls.lookup index = some ⟨config, .waiting⟩) :
    Inv lib { s.setStage index config .loading with permit := some index } := by
  have hmoves : Moves s index { s.setStage index config .loading with permit := some index } :=
    { moves_setStage s index config .loading with
      permit := fun i _ hi => by simp [hpermit] at hi }
  refine h.of_stage hmoves rfl trivial (fun _ => rfl) ?_ fun request hrequest _ => Or.inl hrequest
  exact disk_of_moves h.disk hmoves rfl (not_replacing_of_stage hcall fun key => by simp)

/-- While a call loads, no other call is between its two writes. -/
lemma Inv.paired_of_loading (h : Inv lib s)
    (hcall : s.calls.lookup index = some ⟨config, .loading⟩) : s.Paired lib := by
  rcases h.disk with hpaired | ⟨i, config', key, hi⟩
  · exact hpaired
  · have hindex := h.permit index _ hcall rfl
    have hi' := h.permit i _ hi rfl
    obtain rfl := Option.some.inj (hindex.symm.trans hi')
    rw [hcall] at hi
    simp at hi

/-- **What a call loads** was generated for its key algorithm, and is registered if that is said. -/
lemma Inv.loads (h : Inv lib s) (hcall : s.calls.lookup index = some ⟨config, .loading⟩)
    {pem : Bytes} (hload : s.cache.loadPrivateKey lib config = .ok (some (pem, registered))) :
    ∃ key, lib.privateKeyFromPem pem = .ok key ∧ s.Owns key (.new config registered) := by
  obtain ⟨hmetadata, hkey⟩ := AccountCache.loadPrivateKey_eq_some.mp hload
  exact h.paired_of_loading hcall _ pem hmetadata hkey

lemma Inv.load (h : Inv lib s) (hcall : s.calls.lookup index = some ⟨config, .loading⟩)
    (generated : Except String Key) : Inv lib (s.load lib index config generated) := by
  have hfinish : Inv lib (s.finish index) := h.finish_of_stage hcall fun key => by simp
  have hnot : ¬ s.Replacing index := not_replacing_of_stage hcall fun key => by simp
  have hpermit : s.permit = some index := h.permit index _ hcall rfl
  unfold AccountState.load
  split
  · exact hfinish
  · rename_i pem registered hload
    split
    · exact hfinish
    · rename_i key hkey
      obtain ⟨key', hkey', howns⟩ := h.loads hcall hload
      obtain rfl := Except.ok.inj (hkey.symm.trans hkey')
      have hmetadata := (AccountCache.loadPrivateKey_eq_some.mp hload).1
      have hmoves : Moves s index
          { s.setStage index config (.connecting key registered) with
            permit := if registered then none else s.permit } :=
        { moves_setStage s index config _ with
          permit := fun i hi hi' => absurd (Option.some.inj (hi'.symm.trans hpermit)) hi }
      refine h.of_stage hmoves rfl ⟨howns.of_moves hmoves, fun hregistered => ?_⟩
        (fun hholds => ?_) (disk_of_moves h.disk hmoves rfl hnot)
        fun request hrequest _ => Or.inl hrequest
      · subst hregistered
        exact hmetadata
      · have hregistered : registered = false := by simpa [LoadStage.holdsPermit] using hholds
        simp [hregistered, hpermit]
  · cases generated with
    | error error => exact hfinish
    | ok key =>
      have hmoves : Moves s index
          { s.setStage index config (.storingKey key false) with
            generated := s.generated ++ [(key, config.keyAlgorithm)] } :=
        { moves_setStage s index config _ with generated := List.subset_append_left _ _ }
      refine h.of_stage hmoves rfl ⟨⟨?_, fun hregistered => by cases hregistered⟩,
        fun hregistered => by cases hregistered⟩ (fun _ => hpermit)
        (disk_of_moves h.disk hmoves rfl hnot) fun request hrequest _ => Or.inl hrequest
      exact List.mem_append_right _ (List.mem_singleton.mpr rfl)

lemma Inv.writeKey (h : Inv lib s) (hlib : lib.RoundTrips)
    (hcall : s.calls.lookup index = some ⟨config, .storingKey key registered⟩)
    (hwrite : s.writeKey lib index config key registered = some s') : Inv lib s' := by
  have hpermit : s.permit = some index := h.permit index _ hcall rfl
  obtain ⟨howns, hmetadata⟩ := h.calls index _ hcall
  unfold AccountState.writeKey at hwrite
  split at hwrite
  · cases hwrite
  · rename_i pem hpem
    obtain rfl := Option.some.inj hwrite
    have hkey := hlib.privateKey key pem hpem
    have hmoves : Moves s index
        { s.setStage index config (.storingMetadata key registered) with
          cache := { s.cache with privateKey := some pem } } :=
      { moves_setStage s index config _ with cache := Or.inr hpermit }
    refine h.of_stage hmoves rfl ⟨howns.of_moves hmoves, ⟨pem, rfl, hkey⟩, hmetadata⟩
      (fun _ => hpermit) ?_ fun request hrequest _ => Or.inl hrequest
    cases registered with
    | false => exact Or.inr ⟨index, config, key, by simp⟩
    | true =>
      -- the metadata is that of the first time the key was stored
      refine Or.inl fun m pem' hm hpem' => ⟨key, ?_, ?_⟩
      · rw [← Option.some.inj hpem']
        exact hkey
      · rw [← Option.some.inj ((hmetadata rfl).symm.trans hm)]
        exact ⟨howns.1, fun hregistered => by cases hregistered⟩

lemma Inv.writeMetadata (h : Inv lib s) (hlib : lib.RoundTrips)
    (hcall : s.calls.lookup index = some ⟨config, .storingMetadata key registered⟩)
    (hwrite : s.writeMetadata lib index config key registered = some s') : Inv lib s' := by
  have hpermit : s.permit = some index := h.permit index _ hcall rfl
  obtain ⟨howns, ⟨pem, hpem, hkey⟩, -⟩ := h.calls index _ hcall
  unfold AccountState.writeMetadata at hwrite
  split at hwrite
  · cases hwrite
  · rename_i content hcontent
    have hread : ∀ cache : AccountCache, cache.metadata = some content →
        cache.readMetadata lib = some (.new config registered) := fun cache hcache =>
      AccountCache.readMetadata_eq_some.mpr ⟨content, hcache, hlib.metadata _ content hcontent⟩
    obtain rfl := Option.some.inj hwrite
    have hmoves : Moves s index
        { (if registered then s.finish index
            else s.setStage index config (.connecting key false)) with
          cache := { s.cache with metadata := some content } } := by
      cases registered with
      | true => exact { moves_finish s index with cache := Or.inr hpermit }
      | false => exact { moves_setStage s index config _ with cache := Or.inr hpermit }
    refine h.of_moves hmoves (fun c hc => ?_) (Or.inl fun m pem' hm hpem' => ⟨key, ?_, ?_⟩)
      fun request hrequest _ => Or.inl ?_
    · cases registered with
      | true => simp at hc
      | false =>
        simp only [Bool.false_eq_true, if_false, lookup_setStage, if_true, Option.some.injEq] at hc
        subst hc
        exact ⟨⟨howns.of_moves hmoves, fun _ => hread _ rfl⟩, fun _ => hpermit⟩
    · rw [← Option.some.inj (hpem.symm.trans hpem')]
      exact hkey
    · rw [← Option.some.inj ((hread _ rfl).symm.trans hm)]
      exact howns.of_moves hmoves
    · cases registered <;> exact hrequest

lemma accountRequest_ok {request : AccountRequest Key}
    (hrequest : accountRequest lib config key registered = .ok request) :
    request.privateKey = key ∧ request.directoryUrl = config.directoryUrl ∧
      request.onlyReturnExisting = registered := by
  cases registered with
  | true =>
    simp only [accountRequest, if_true, Except.ok.injEq] at hrequest
    subst hrequest
    exact ⟨rfl, rfl, rfl⟩
  | false =>
    simp only [accountRequest, Bool.false_eq_true, if_false] at hrequest
    split at hrequest
    · split at hrequest
      · cases hrequest
      · split at hrequest
        · cases hrequest
        · obtain ⟨_, -, hok⟩ := Except.exists_ok_of_bind hrequest
          obtain rfl := Except.ok.inj hok
          exact ⟨rfl, rfl, rfl⟩
    · obtain rfl := Except.ok.inj hrequest
      exact ⟨rfl, rfl, rfl⟩

lemma Inv.request (h : Inv lib s)
    (hcall : s.calls.lookup index = some ⟨config, .connecting key registered⟩) :
    Inv lib (s.request lib index config key registered) := by
  obtain ⟨howns, hmetadata⟩ := h.calls index _ hcall
  unfold AccountState.request
  split
  · exact h.finish_of_stage hcall fun key => by simp
  · rename_i request hrequest
    obtain ⟨hkey, hurl, hexisting⟩ := accountRequest_ok hrequest
    have hmoves : Moves s index
        { s.setStage index config (.requested key registered) with
          requests := s.requests ++ [request] } := { moves_setStage s index config _ with }
    refine h.of_stage hmoves rfl ⟨howns, hmetadata⟩
      (fun hholds => h.permit index _ hcall hholds) (disk_of_moves h.disk hmoves rfl
        (not_replacing_of_stage hcall fun key => by simp)) fun r hr hr' => ?_
    rcases List.mem_append.mp hr with hold | hnew
    · exact Or.inl hold
    · obtain rfl := List.mem_singleton.mp hnew
      rw [hkey, hurl]
      exact Or.inr (howns.2 (hexisting.symm.trans hr'))

lemma Inv.answer (h : Inv lib s)
    (hcall : s.calls.lookup index = some ⟨config, .requested key registered⟩) :
    Inv lib (s.answer index config key registered) := by
  obtain ⟨howns, hmetadata⟩ := h.calls index _ hcall
  cases registered with
  | true => exact h.finish_of_stage hcall fun key => by simp
  | false =>
    have hmoves : Moves s index
        { s.setStage index config (.storingKey key true) with
          registrations := s.registrations ++ [(key, config.directoryUrl)] } :=
      { moves_setStage s index config _ with registrations := List.subset_append_left _ _ }
    refine h.of_stage hmoves
      (show _ = (s.setStage index config (.storingKey key true)).calls from rfl)
      ⟨⟨howns.1, fun _ => ?_⟩, fun _ => hmetadata rfl⟩ (fun _ => h.permit index _ hcall rfl)
      (disk_of_moves h.disk hmoves rfl (not_replacing_of_stage hcall fun key => by simp))
      fun request hrequest _ => Or.inl hrequest
    exact List.mem_append_right _ (List.mem_singleton.mpr rfl)

lemma Inv.stop (h : Inv lib s) (hend : ∀ entry ∈ s.calls.entries, s.mayEnd lib entry.2 = true) :
    Inv lib { s with permit := none, calls := ∅ } := by
  refine ⟨fun i c hc => by simp at hc, fun i c hc => by simp at hc, Or.inl ?_, h.requests⟩
  rcases h.disk with hpaired | ⟨i, config, key, hi⟩
  · exact hpaired
  · exact h.paired_of_mayEnd hi (hend _ (AList.lookup_eq_some_iff.mp hi))

lemma inv_start : Inv lib (start : AccountState Key) := by
  refine ⟨fun i c hc => ?_, fun i c hc => ?_, Or.inl fun m pem hm => ?_, fun request hrequest => ?_⟩
  · simp [start] at hc
  · simp [start] at hc
  · simp [start, AccountCache.readMetadata] at hm
  · simp [start] at hrequest

theorem Inv.step (h : Inv lib s) (hlib : lib.RoundTrips) {e : Event Key} (hok : Harmless lib s e)
    (hstep : s.step lib e = some s') : Inv lib s' := by
  cases e with
  | call index config =>
    simp only [AccountState.step] at hstep
    split at hstep
    · cases hstep
    · rename_i hnew
      exact Option.some.inj hstep ▸ h.call hnew
  | permit index =>
    simp only [AccountState.step] at hstep
    split at hstep
    · rename_i config hpermit hcall
      exact Option.some.inj hstep ▸ h.permitted hpermit hcall
    · cases hstep
  | load index generated =>
    simp only [AccountState.step] at hstep
    split at hstep
    · rename_i config hcall
      exact Option.some.inj hstep ▸ h.load hcall generated
    · cases hstep
  | write index =>
    simp only [AccountState.step] at hstep
    split at hstep
    · rename_i config key registered hcall
      exact h.writeKey hlib hcall hstep
    · rename_i config key registered hcall
      exact h.writeMetadata hlib hcall hstep
    · cases hstep
  | request index =>
    simp only [AccountState.step] at hstep
    split at hstep
    · rename_i config key registered hcall
      exact Option.some.inj hstep ▸ h.request hcall
    · cases hstep
  | answer index =>
    simp only [AccountState.step] at hstep
    split at hstep
    · rename_i config key registered hcall
      exact Option.some.inj hstep ▸ h.answer hcall
    · cases hstep
  | fail index =>
    simp only [AccountState.step] at hstep
    split at hstep
    · exact Option.some.inj hstep ▸ h.finish hok
    · cases hstep
  | stop => exact Option.some.inj hstep ▸ h.stop hok

/-- After any other end of a call between the two writes of a new key, the configuration of the
metadata loads that key, which it does not own. -/
theorem Inv.loads_after_harmful_end (h : Inv lib s) {config' : AcmeAccountConfig}
    (hcall : s.calls.lookup index = some ⟨config, .storingMetadata key false⟩)
    (hend : s.mayEnd lib ⟨config, .storingMetadata key false⟩ = false)
    (hmetadata : s.cache.readMetadata lib = some (.new config' registered))
    (hfresh : ∀ algorithm, (key, algorithm) ∈ s.generated → algorithm = config.keyAlgorithm)
    (hnew : ∀ url, (key, url) ∉ s.registrations) :
    ∃ pem, (s.finish index).cache.loadPrivateKey lib config' = .ok (some (pem, registered)) ∧
      lib.privateKeyFromPem pem = .ok key ∧
      ¬ (s.finish index).Owns key (.new config' registered) := by
  obtain ⟨-, ⟨pem, hpem, hkey⟩, -⟩ := h.calls index _ hcall
  refine ⟨pem, AccountCache.loadPrivateKey_eq_some.mpr ⟨hmetadata, hpem⟩, hkey, ?_⟩
  rintro ⟨hgenerated, hregistered⟩
  have halgorithm : config'.keyAlgorithm = config.keyAlgorithm := hfresh _ hgenerated
  cases registered with
  | true => exact hnew _ (hregistered rfl)
  | false => simp [mayEnd, hmetadata, AccountMetadata.new, halgorithm] at hend

theorem inv_of_reach (hlib : lib.RoundTrips)
    (h : Reach (AccountState.step lib) (Harmless lib) (start : AccountState Key) s) : Inv lib s :=
  h.invariant inv_start fun _ _ _ hinv hok hstep => hinv.step hlib hok hstep

/-- **The cache of an account over stops and failures.**  In every run of calls with any
configurations in which no call ends between the two writes of a new key over the metadata of a
registered key or of another algorithm, a loaded key was generated for the algorithm of the
configuration, it is registered with its directory if that is said, and an existing account is
requested for registered keys only. -/
theorem load_account_sound (hlib : lib.RoundTrips)
    (h : Reach (AccountState.step lib) (Harmless lib) (start : AccountState Key) s) :
    s.Sound lib := by
  have hinv := inv_of_reach hlib h
  refine ⟨fun index config pem registered hcall hload => ?_, hinv.requests⟩
  obtain ⟨key, hkey, hgenerated, hregistered⟩ := hinv.loads hcall hload
  exact ⟨key, hkey, hgenerated, hregistered⟩

end Invariant

/-! ## A configuration that is switched and switched back -/

def productionAccount : AcmeAccountConfig :=
  ⟨"acme", "Let's Encrypt", .letsEncrypt, .production, "admin@example.com", .ec256, none, none⟩

def stagingAccount : AcmeAccountConfig :=
  { productionAccount with environment := .staging, keyAlgorithm := .rsa2048 }

/-- The text of the metadata as the JSON library writes it. -/
def metadataText (config : AcmeAccountConfig) (keyAlgorithm registered : String) : String :=
  "\x7b\"directory_url\":\"" ++ config.directoryUrl ++ "\",\"key_algorithm\":\"" ++ keyAlgorithm ++
    "\",\"registered\":" ++ registered ++ "\x7d"

def sampleAccounts : AccountLibraries UInt8 where
  metadata := .ofTable
    [(.new productionAccount false, metadataText productionAccount "ec256" "false"),
      (.new productionAccount true, metadataText productionAccount "ec256" "true"),
      (.new stagingAccount false, metadataText stagingAccount "rsa2048" "false")]
  privateKeyToPem key := .ok [key]
  privateKeyFromPem
    | [key] => .ok key
    | _ => .error "no start line"
  urlSafeNoPad _ := none
  urlSafe _ := none

lemma sampleAccounts_roundTrips : sampleAccounts.RoundTrips where
  metadata := Serde.ofTable_roundTrips (by decide +kernel)
  privateKey key pem h := by
    obtain rfl := Except.ok.inj h
    rfl

/-- A key is generated, registered and stored. -/
def registration (index : ℕ) (config : AcmeAccountConfig) (key : UInt8) : List (Event UInt8) :=
  [.call index config, .permit index, .load index (.ok key), .write index, .write index,
    .request index, .answer index, .write index, .write index]

/-- The first process stops before the metadata of its key is written. -/
def restartedEvents : List (Event UInt8) :=
  (registration 0 productionAccount 1).take 4 ++ .stop :: registration 1 productionAccount 2 ++
    [.call 2 productionAccount, .permit 2, .load 2 (.error ""), .request 2]

/-- The process stops while the key is replaced for the staging directory. -/
def switchedEvents : List (Event UInt8) :=
  registration 0 productionAccount 1 ++ (registration 1 stagingAccount 2).take 4 ++
    [.stop, .call 2 productionAccount, .permit 2]

theorem restarted_account_sound :
    ∃ s, exec (step sampleAccounts) (Harmless sampleAccounts) start restartedEvents = some s ∧
      s.requests.map (·.onlyReturnExisting) = [false, true] ∧ s.Sound sampleAccounts := by
  have hexec : ((exec (step sampleAccounts) (Harmless sampleAccounts) start restartedEvents).map
      fun s => s.requests.map (·.onlyReturnExisting)) = some [false, true] := by decide +kernel
  obtain ⟨s, hs, hrequests⟩ := Option.map_eq_some_iff.mp hexec
  exact ⟨s, hs, hrequests, load_account_sound sampleAccounts_roundTrips (reach_of_exec hs)⟩

theorem switched_account_unsound :
    ¬ ∀ s, Reach (step sampleAccounts) Always start s → s.Sound sampleAccounts := by
  intro h
  have hexec : ((exec (step sampleAccounts) Always start switchedEvents).map fun s =>
      (s.calls.lookup 2, s.cache, s.generated)) =
      some (some ⟨productionAccount, .loading⟩,
        ⟨some [2], (sampleAccounts.metadata.toVec (.new productionAccount true)).toOption⟩,
        [(1, .ec256), (2, .rsa2048)]) := by decide +kernel
  obtain ⟨s, hs, heq⟩ := Option.map_eq_some_iff.mp hexec
  obtain ⟨hcall, hcache, hgenerated⟩ := by simpa only [Prod.mk.injEq] using heq
  have hload : s.cache.loadPrivateKey sampleAccounts productionAccount =
      .ok (some ([2], true)) := by
    rw [hcache]
    decide +kernel
  obtain ⟨key, hkey, hmem, -⟩ := (h s (reach_of_exec hs)).loads 2 _ _ _ hcall hload
  obtain rfl := Except.ok.inj hkey
  rw [hgenerated] at hmem
  revert hmem
  decide

end AccountState

end GateRust.Proxy
