/-
# The cleanup of challenge records

`authorize_automatically` creates a TXT record for each challenge, waits for the validation, and
deletes the records whose handles it has got.  A call of `create_txt` is bounded: it is dropped when
the request is cancelled or three minutes have passed.  How each call goes, and whether the provider
has created the record of a call that does not return, is an argument: the results hold for all
providers and all points at which a call ends.
-/
import GateRust.Proxy.DnsRecords
import Mathlib.Data.Multiset.AddSub

namespace GateRust.Proxy

/-! ## The requests of a call of `create_txt` -/

/-- Why a bounded future is dropped. -/
inductive Interruption where
  | cancelled
  | timedOut
deriving DecidableEq, Repr

/-- Why a call gives no result. -/
inductive Failure where
  | error (e : ProxyError)
  | dropped (why : Interruption)
deriving DecidableEq, Repr

/-- `bounded(..).await??`. -/
def bounded {α : Type} (operation : String) : Except Failure α → Except ProxyError α
  | .ok a => .ok a
  | .error (.error e) => .error e
  | .error (.dropped .cancelled) => .error (.acme (operation ++ "已取消"))
  | .error (.dropped .timedOut) => .error (.acme (operation ++ "超时"))

/-- How a request that changes the zone goes. -/
inductive MutationAnswer (α : Type) where
  | done (a : α)
  /-- The request takes effect, but the call fails or is dropped. -/
  | lost (a : α) (failure : Failure)
  | refused (failure : Failure)
deriving DecidableEq, Repr

/-- How the requests of a call of `create_txt` go, for the two kinds of accounts. -/
inductive CreateScript where
  | unified (listDomains : Except Failure (List (List DnsZone)))
      (createRecord : MutationAnswer String)
  | goDaddy (domains : Except Failure (List String)) (permit : Except Failure Unit)
      (getTxt : Except Failure (List GoDaddyRecord)) (putTxt : MutationAnswer Unit)

/-- The zone of the record, for which the record is then created. -/
def preparedZone (record : ManualDnsRecord) (listDomains : Except Failure (List (List DnsZone))) :
    Except Failure DnsZone := do
  let pages ← listDomains
  let zone ← (findUnifiedZone record.name pages).mapError .error
  let _ ← (relativeName record.name zone.name).mapError .error
  .ok zone

/-- The path of the record, whose records are then replaced. -/
def preparedPath (record : ManualDnsRecord) (domains : Except Failure (List String))
    (permit : Except Failure Unit) (getTxt : Except Failure (List GoDaddyRecord)) :
    Except Failure TxtPath := do
  let names ← domains
  let path ← (TxtPath.find record.name names).mapError .error
  permit
  let _ ← getTxt
  .ok path

/-- The last request of a call: the record that the provider creates, known by the handle that
would delete it, and what the call returns. -/
def conclude {α β : Type} (prepared : Except Failure α) (answer : MutationAnswer β)
    (handle : α → β → DnsRecordHandle) : Option DnsRecordHandle × Except Failure DnsRecordHandle :=
  match prepared, answer with
  | .ok a, .done b => (some (handle a b), .ok (handle a b))
  | .ok a, .lost b failure => (some (handle a b), .error failure)
  | .ok _, .refused failure => (none, .error failure)
  | .error failure, _ => (none, .error failure)

def createTxt (record : ManualDnsRecord) :
    CreateScript → Option DnsRecordHandle × Except Failure DnsRecordHandle
  | .unified listDomains createRecord =>
    conclude (preparedZone record listDomains) createRecord fun zone id => .unified zone.id id
  | .goDaddy domains permit getTxt putTxt =>
    conclude (preparedPath record domains permit getTxt) putTxt fun path _ =>
      .goDaddy path.domain path.name record.value

/-! ## The authorization -/

/-- The records that the provider has created, and the handles that have been returned. -/
structure ChallengeRecords where
  created : List DnsRecordHandle
  handles : List DnsRecordHandle
deriving DecidableEq, Repr

/-- A round of the loop over the records. -/
def createRecord (call : ManualDnsRecord × CreateScript) (s : ChallengeRecords) :
    Except ProxyError Unit × ChallengeRecords :=
  let (effect, outcome) := createTxt call.1 call.2
  let created := s.created ++ effect.toList
  match bounded "创建 DNS-01 记录" outcome with
  | .ok handle => (.ok (), ⟨created, s.handles ++ [handle]⟩)
  | .error e => (.error e, ⟨created, s.handles⟩)

structure Authorization where
  result : Except ProxyError Unit
  created : List DnsRecordHandle
  /-- The handles that were passed to `delete_txt`. -/
  deleted : List DnsRecordHandle

/-- The records come with the way in which their calls go; `rest` is the result of waiting for the
records and for the validation.  The cleanup deletes all handles in time. -/
def authorizeAutomatically (calls : List (ManualDnsRecord × CreateScript))
    (rest : Except ProxyError Unit) : Authorization :=
  let (result, s) := Except.untilError createRecord calls ⟨[], []⟩
  ⟨result.bind fun _ => rest, s.created, s.handles⟩

/-- Every record that was created has been passed to `delete_txt`. -/
def Authorization.CleansUp (a : Authorization) : Prop :=
  (a.created : Multiset DnsRecordHandle) ≤ a.deleted

instance (a : Authorization) : Decidable a.CleansUp :=
  inferInstanceAs (Decidable ((_ : Multiset DnsRecordHandle) ≤ _))

/-! ## Records without a handle -/

/-- The call has got to its last request, which is answered: the provider has created the record. -/
def CreateScript.Returns (record : ManualDnsRecord) : CreateScript → Prop
  | unified listDomains createRecord =>
    (∃ zone, preparedZone record listDomains = .ok zone) ∧ ∃ id, createRecord = .done id
  | goDaddy domains permit getTxt putTxt =>
    (∃ path, preparedPath record domains permit getTxt = .ok path) ∧ ∃ u, putTxt = .done u

/-- The call has got to its last request, which takes effect; but the call fails or is dropped. -/
def CreateScript.Orphans (record : ManualDnsRecord) : CreateScript → Prop
  | unified listDomains createRecord =>
    (∃ zone, preparedZone record listDomains = .ok zone) ∧
      ∃ id failure, createRecord = .lost id failure
  | goDaddy domains permit getTxt putTxt =>
    (∃ path, preparedPath record domains permit getTxt = .ok path) ∧
      ∃ u failure, putTxt = .lost u failure

lemma conclude_cases {α β : Type} (prepared : Except Failure α) (answer : MutationAnswer β)
    (handle : α → β → DnsRecordHandle) :
    (((∃ a, prepared = .ok a) ∧ ∃ b, answer = .done b) ∧
      ¬ ((∃ a, prepared = .ok a) ∧ ∃ b failure, answer = .lost b failure) ∧
      ∃ created, conclude prepared answer handle = (some created, .ok created)) ∨
    (((∃ a, prepared = .ok a) ∧ ∃ b failure, answer = .lost b failure) ∧
      ∃ created failure, conclude prepared answer handle = (some created, .error failure)) ∨
    (¬ ((∃ a, prepared = .ok a) ∧ ∃ b, answer = .done b) ∧
      ¬ ((∃ a, prepared = .ok a) ∧ ∃ b failure, answer = .lost b failure) ∧
      ∃ failure, conclude prepared answer handle = (none, .error failure)) := by
  cases prepared with
  | error failure => exact Or.inr (Or.inr ⟨by simp, by simp, failure, rfl⟩)
  | ok a =>
    cases answer with
    | done b => exact Or.inl ⟨⟨⟨a, rfl⟩, b, rfl⟩, by simp, _, rfl⟩
    | lost b failure => exact Or.inr (Or.inl ⟨⟨⟨a, rfl⟩, b, failure, rfl⟩, _, failure, rfl⟩)
    | refused failure => exact Or.inr (Or.inr ⟨by simp, by simp, failure, rfl⟩)

/-- A call returns, leaves a record without a handle, or creates nothing. -/
lemma createTxt_cases (record : ManualDnsRecord) (script : CreateScript) :
    (script.Returns record ∧ ¬ script.Orphans record ∧
      ∃ created, createTxt record script = (some created, .ok created)) ∨
    (script.Orphans record ∧
      ∃ created failure, createTxt record script = (some created, .error failure)) ∨
    (¬ script.Returns record ∧ ¬ script.Orphans record ∧
      ∃ failure, createTxt record script = (none, .error failure)) := by
  cases script with
  | unified listDomains createRecord => exact conclude_cases _ _ _
  | goDaddy domains permit getTxt putTxt => exact conclude_cases _ _ _

lemma exists_bounded_error (α : Type) (operation : String) (failure : Failure) :
    ∃ e, bounded operation (.error failure : Except Failure α) = .error e := by
  rcases failure with e | (_ | _)
  · exact ⟨e, rfl⟩
  · exact ⟨_, rfl⟩
  · exact ⟨_, rfl⟩

variable {call : ManualDnsRecord × CreateScript} {calls : List (ManualDnsRecord × CreateScript)}
  {s : ChallengeRecords}

/-- No call that is made leaves a record without a handle; the calls after the first that does not
return are not made. -/
def NoOrphan (calls : List (ManualDnsRecord × CreateScript)) : Prop :=
  ∀ before call after, calls = before ++ call :: after →
    (∀ earlier ∈ before, earlier.2.Returns earlier.1) → ¬ call.2.Orphans call.1

lemma noOrphan_nil : NoOrphan [] := by
  intro before call after h
  simp at h

lemma noOrphan_cons : NoOrphan (call :: calls) ↔
    ¬ call.2.Orphans call.1 ∧ (call.2.Returns call.1 → NoOrphan calls) := by
  constructor
  · intro h
    refine ⟨h [] call calls rfl (by simp), fun hreturns before call' after heq hbefore => ?_⟩
    refine h (call :: before) call' after (by rw [heq]; rfl) ?_
    exact List.forall_mem_cons.mpr ⟨hreturns, hbefore⟩
  · rintro ⟨hfirst, hrest⟩ before call' after heq hbefore
    cases before with
    | nil =>
      obtain ⟨rfl, -⟩ := List.cons.inj heq
      exact hfirst
    | cons earlier before =>
      obtain ⟨rfl, hcalls⟩ := List.cons.inj heq
      obtain ⟨hreturns, hbefore⟩ := List.forall_mem_cons.mp hbefore
      exact hrest hreturns before call' after hcalls hbefore

/-- The loop has a handle for each record exactly when no call leaves one without. -/
lemma untilError_createRecord (hs : s.created = s.handles) :
    ((Except.untilError createRecord calls s).2.created : Multiset DnsRecordHandle) ≤
      (Except.untilError createRecord calls s).2.handles ↔ NoOrphan calls := by
  induction calls generalizing s with
  | nil =>
    simp only [Except.untilError, hs, le_refl, true_iff]
    exact noOrphan_nil
  | cons call calls ih =>
    rw [noOrphan_cons]
    rcases createTxt_cases call.1 call.2 with ⟨hreturns, horphans, created, hcall⟩ |
      ⟨horphans, created, failure, hcall⟩ | ⟨hreturns, horphans, failure, hcall⟩
    · have hround : createRecord call s =
          (.ok (), ⟨s.created ++ [created], s.handles ++ [created]⟩) := by
        rw [createRecord, hcall]
        rfl
      rw [Except.untilError_cons_ok hround, ih (by rw [hs])]
      exact ⟨fun h => ⟨horphans, fun _ => h⟩, fun h => h.2 hreturns⟩
    · obtain ⟨e, he⟩ := exists_bounded_error DnsRecordHandle "创建 DNS-01 记录" failure
      have hround : createRecord call s = (.error e, ⟨s.created ++ [created], s.handles⟩) := by
        rw [createRecord, hcall]
        simp only [he, Option.toList]
      rw [Except.untilError_cons_error hround]
      refine ⟨fun hle => absurd (Multiset.card_le_card hle) ?_, fun h => absurd horphans h.1⟩
      simp [hs]
    · obtain ⟨e, he⟩ := exists_bounded_error DnsRecordHandle "创建 DNS-01 记录" failure
      have hround : createRecord call s = (.error e, s) := by
        rw [createRecord, hcall]
        simp only [he, Option.toList, List.append_nil]
      rw [Except.untilError_cons_error hround, hs]
      exact ⟨fun _ => ⟨horphans, fun h => absurd h hreturns⟩, fun _ => le_refl _⟩

/-- **The records are cleaned up exactly when no call of `create_txt` that is made fails or is
dropped after the provider has created its record**, wherever the authorization ends. -/
theorem authorizeAutomatically_cleansUp_iff (calls : List (ManualDnsRecord × CreateScript))
    (rest : Except ProxyError Unit) :
    (authorizeAutomatically calls rest).CleansUp ↔ NoOrphan calls :=
  untilError_createRecord rfl

/-- A call that is cancelled when the provider has created the record. -/
def cancelledCall : ManualDnsRecord × CreateScript :=
  (⟨"_acme-challenge.example.com", "token"⟩,
    .unified (.ok [[⟨"zone", "example.com"⟩]]) (.lost "record" (.dropped .cancelled)))

/-- The record of a cancelled call stays at the provider. -/
theorem cancelled_record_not_deleted :
    ¬ ∀ calls rest, (authorizeAutomatically calls rest).CleansUp := by
  intro h
  exact absurd (h [cancelledCall] (.ok ())) (by decide +kernel)

end GateRust.Proxy
