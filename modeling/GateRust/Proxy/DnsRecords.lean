/-
# TXT records at the DNS providers

The computations of `dns.rs` between two requests: which of the zones of an account a name belongs
to, the name of a record inside its zone, and, for GoDaddy, which offers no record ids, the set of
records that replaces the one just read.
-/
import GateRust.Lib.SplitOnce
import GateRust.Proxy.Issuance

namespace GateRust.Proxy

def dnsRecordTtl : UInt32 := 600

/-! ## Zones -/

def domainBelongsToZone (fqdn zone : String) : Bool :=
  fqdn = zone || (fqdn.stripSuffix? zone).any fun before => (before.stripSuffix? ".").isSome

def relativeName (fqdn zone : String) : Except ProxyError String :=
  if fqdn = zone then .ok "@"
  else
    match ((fqdn.stripSuffix? zone).bind (·.stripSuffix? ".")).filter (· ≠ "") with
    | some name => .ok name
    | none => .error (.dns ("记录 " ++ fqdn ++ " 不属于托管域名 " ++ zone))

lemma domainBelongsToZone_iff {fqdn zone : String} :
    domainBelongsToZone fqdn zone = true ↔
      fqdn = zone ∨ ∃ name, fqdn = name ++ "." ++ zone := by
  rw [domainBelongsToZone, Bool.or_eq_true, decide_eq_true_iff, Option.any_eq_true]
  refine or_congr_right ⟨?_, ?_⟩
  · rintro ⟨before, hbefore, hdot⟩
    obtain ⟨name, hname⟩ := Option.isSome_iff_exists.mp hdot
    rw [String.stripSuffix_eq_some_iff] at hbefore hname
    exact ⟨name, by rw [hbefore, hname]⟩
  · rintro ⟨name, rfl⟩
    refine ⟨name ++ ".", String.stripSuffix_eq_some_iff.mpr rfl, Option.isSome_iff_exists.mpr ?_⟩
    exact ⟨name, String.stripSuffix_eq_some_iff.mpr rfl⟩

/-- A name inside a zone is not empty and followed by the zone, or it is `@`. -/
lemma relativeName_ok {fqdn zone name : String} (h : relativeName fqdn zone = .ok name) :
    fqdn = zone ∧ name = "@" ∨ fqdn = name ++ "." ++ zone ∧ name ≠ "" := by
  unfold relativeName at h
  split at h
  · rename_i heq
    cases h
    exact Or.inl ⟨heq, rfl⟩
  · split at h
    · rename_i name' hname
      cases h
      obtain ⟨hname, hne⟩ := Option.filter_eq_some_iff.mp hname
      obtain ⟨before, hbefore, hname⟩ := Option.bind_eq_some_iff.mp hname
      rw [String.stripSuffix_eq_some_iff] at hbefore hname
      exact Or.inr ⟨by rw [hbefore, hname], of_decide_eq_true hne⟩
    · cases h

/-- `max_by_key` over the domains that the name belongs to: the last of the longest. -/
def GoDaddy.longest (best : Option String) (domain : String) : Option String :=
  if best.all fun current => current.utf8ByteSize ≤ domain.utf8ByteSize then some domain else best

def GoDaddy.findZone (fqdn : String) (domains : List String) : Except ProxyError String :=
  match (domains.filter (domainBelongsToZone fqdn)).foldl GoDaddy.longest none with
  | some domain => .ok domain
  | none => .error (.dns ("GoDaddy 账户中找不到 " ++ fqdn ++ " 对应的托管域名"))

/-- A zone of the account of another provider. -/
structure DnsZone where
  id : String
  name : String
deriving DecidableEq, Repr

/-- The first of the longest zones that the name belongs to. -/
def Unified.longest (fqdn : String) (best : Option DnsZone) (zone : DnsZone) : Option DnsZone :=
  if domainBelongsToZone fqdn zone.name &&
      best.all fun current => current.name.utf8ByteSize < zone.name.utf8ByteSize then some zone
  else best

/-- The zones of the account, as the pages list them one after the other. -/
def findUnifiedZone (fqdn : String) (pages : List (List DnsZone)) : Except ProxyError DnsZone :=
  match pages.flatten.foldl (Unified.longest fqdn) none with
  | some zone => .ok zone
  | none => .error (.dns ("DNS 账户中找不到 " ++ fqdn ++ " 对应的托管域名"))

/-- A fold that keeps its value or takes the element ends with an element. -/
lemma mem_of_foldl_longest {α : Type*} {f : Option α → α → Option α} {p : α → Prop}
    (hf : ∀ best a, f best a = best ∨ f best a = some a ∧ p a) {xs : List α} {best : Option α}
    {a : α} (h : xs.foldl f best = some a) : best = some a ∨ a ∈ xs ∧ p a := by
  induction xs generalizing best with
  | nil => exact Or.inl h
  | cons x xs ih =>
    rcases ih h with hx | ⟨hmem, ha⟩
    · rcases hf best x with heq | ⟨heq, hp⟩
      · exact Or.inl (heq ▸ hx)
      · rw [heq] at hx
        cases hx
        exact Or.inr ⟨List.mem_cons_self, hp⟩
    · exact Or.inr ⟨List.mem_cons_of_mem x hmem, ha⟩

lemma GoDaddy.findZone_ok {fqdn domain : String} {domains : List String}
    (h : GoDaddy.findZone fqdn domains = .ok domain) :
    domain ∈ domains ∧ domainBelongsToZone fqdn domain = true := by
  unfold GoDaddy.findZone at h
  split at h
  · rename_i found hfound
    cases h
    have hlongest : ∀ best a, GoDaddy.longest best a = best ∨
        GoDaddy.longest best a = some a ∧ True := by
      intro best a
      unfold GoDaddy.longest
      split <;> simp
    rcases mem_of_foldl_longest hlongest hfound with hnone | ⟨hmem, -⟩
    · cases hnone
    · exact List.mem_filter.mp hmem
  · cases h

lemma findUnifiedZone_ok {fqdn : String} {pages : List (List DnsZone)} {zone : DnsZone}
    (h : findUnifiedZone fqdn pages = .ok zone) :
    zone ∈ pages.flatten ∧ domainBelongsToZone fqdn zone.name = true := by
  unfold findUnifiedZone at h
  split at h
  · rename_i found hfound
    cases h
    have hlongest : ∀ best a, Unified.longest fqdn best a = best ∨
        Unified.longest fqdn best a = some a ∧ domainBelongsToZone fqdn a.name = true := by
      intro best a
      unfold Unified.longest
      split
      · rename_i hlonger
        exact Or.inr ⟨rfl, (Bool.and_eq_true_iff.mp hlonger).1⟩
      · exact Or.inl rfl
    rcases mem_of_foldl_longest hlongest hfound with hnone | hmem
    · cases hnone
    · exact hmem
  · cases h

/-! ## Record sets of GoDaddy -/

structure GoDaddyRecord where
  data : String
  ttl : UInt32
deriving DecidableEq, Repr

/-- The path of the requests about the TXT records of a name. -/
structure TxtPath where
  domain : String
  name : String
deriving DecidableEq, Repr

/-- Where `create_txt` puts the record, once the domains of the account are listed. -/
def TxtPath.find (fqdn : String) (domains : List String) : Except ProxyError TxtPath := do
  let domain ← GoDaddy.findZone fqdn domains
  let name ← relativeName fqdn domain
  .ok ⟨domain, name⟩

/-- The records of a name lie in a domain of the account that it belongs to. -/
lemma TxtPath.find_ok {fqdn : String} {domains : List String} {path : TxtPath}
    (h : TxtPath.find fqdn domains = .ok path) : path.domain ∈ domains ∧
      (fqdn = path.domain ∧ path.name = "@" ∨
        fqdn = path.name ++ "." ++ path.domain ∧ path.name ≠ "") := by
  obtain ⟨domain, hdomain, h⟩ := Except.exists_ok_of_bind h
  obtain ⟨name, hname, h⟩ := Except.exists_ok_of_bind h
  cases h
  exact ⟨(GoDaddy.findZone_ok hdomain).1, relativeName_ok hname⟩

inductive MutationKind where
  | create
  | delete
deriving DecidableEq, Repr

/-- What `create_txt` or `delete_txt` changes under the permit. -/
structure Mutation where
  kind : MutationKind
  path : TxtPath
  value : String
deriving DecidableEq, Repr

/-- The request that replaces the records of a name. -/
inductive WriteRequest where
  | put (records : List GoDaddyRecord)
  | delete
deriving DecidableEq, Repr

/-- The records that the request leaves. -/
def WriteRequest.records : WriteRequest → List GoDaddyRecord
  | .put records => records
  | .delete => []

/-- The request of `delete_txt` with the records that remain. -/
def WriteRequest.remaining (records : List GoDaddyRecord) : WriteRequest :=
  if records.isEmpty then .delete else .put records

lemma WriteRequest.records_remaining (records : List GoDaddyRecord) :
    (WriteRequest.remaining records).records = records := by
  cases records <;> rfl

/-- A request with the record that it adds or removes. -/
structure RecordWrite where
  record : GoDaddyRecord
  request : WriteRequest
deriving DecidableEq, Repr

/-- The request that follows the reading of `records`, or none when there is nothing to delete. -/
def Mutation.write (m : Mutation) (records : List GoDaddyRecord) : Option RecordWrite :=
  match m.kind with
  | .create =>
    let record := ⟨m.value, dnsRecordTtl⟩
    some ⟨record, .put (records ++ [record])⟩
  | .delete => do
    let index ← records.rposition fun record => record.data == m.value
    let record ← records[index]?
    some ⟨record, .remaining (records.eraseIdx index)⟩

lemma write_create {m : Mutation} {records : List GoDaddyRecord} {w : RecordWrite}
    (hkind : m.kind = .create) (h : m.write records = some w) :
    w.record = ⟨m.value, dnsRecordTtl⟩ ∧ w.request.records = records ++ [w.record] := by
  rw [Mutation.write, hkind] at h
  cases h
  exact ⟨rfl, rfl⟩

/-- A deletion takes out the last record with its value. -/
lemma write_delete {m : Mutation} {records : List GoDaddyRecord} {w : RecordWrite}
    (hkind : m.kind = .delete) (h : m.write records = some w) :
    w.record.data = m.value ∧ ∃ before after, records = before ++ w.record :: after ∧
      w.request.records = before ++ after ∧ ∀ record ∈ after, record.data ≠ m.value := by
  rw [Mutation.write, hkind] at h
  obtain ⟨index, hindex, h⟩ := Option.bind_eq_some_iff.mp h
  obtain ⟨record, hrecord, h⟩ := Option.bind_eq_some_iff.mp h
  obtain ⟨before, found, after, rfl, rfl, hfound, hafter⟩ := List.exists_of_rposition hindex
  have hfound' : (before ++ found :: after)[before.length]? = some found := by
    rw [List.getElem?_append_right (Nat.le_refl _), Nat.sub_self, List.getElem?_cons_zero]
  obtain rfl := Option.some.inj (hfound'.symm.trans hrecord)
  have hrest : (before ++ found :: after).eraseIdx before.length = before ++ after := by
    rw [List.eraseIdx_append_of_length_le (Nat.le_refl _), Nat.sub_self, List.eraseIdx_cons_zero]
  cases h
  refine ⟨eq_of_beq hfound, before, after, rfl, ?_, ?_⟩
  · rw [WriteRequest.records_remaining, hrest]
  · intro record hmem
    exact ne_of_beq_false (hafter record hmem)

/-- What `create_txt` returns, and `delete_txt` takes back. -/
inductive DnsRecordHandle where
  | unified (domainId recordId : String)
  | goDaddy (domain name value : String)
deriving DecidableEq, Repr

end GateRust.Proxy
