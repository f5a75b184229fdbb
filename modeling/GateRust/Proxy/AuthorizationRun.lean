/-
# The steps of an automatic authorization

`authorize_automatically` step by step: the TXT records are created one after the other, the
public DNS is asked for all of them again and again until it has them, the challenges are submitted
and waited for one after the other, and the records are deleted.  Lookups and deletions run beside
each other and end in any order.  The request may be cancelled at any time.

Times are seconds.
-/
import GateRust.Lib.Machine
import GateRust.Lib.Unordered
import GateRust.Proxy.ChallengeCleanup

namespace GateRust.Proxy

open Machine

def dnsPropagationTimeout : ℕ := 300

def dnsPollInterval : ℕ := 5

def dnsLookupConcurrency : ℕ := 16

def dnsCleanupConcurrency : ℕ := 8

inductive ChallengeStatus where
  | pending
  | processing
  | valid
  | invalid
deriving DecidableEq, Repr

/-- The lookups of `dns_records_visible`: whether an answer has the value of the record. -/
abbrev Lookups := Unordered ManualDnsRecord Bool

/-- The calls of `delete_txt`, whose errors are only logged. -/
abbrev Deletions := Unordered DnsRecordHandle Unit

inductive AuthorizationPhase where
  /-- The record after the ones with a handle is created. -/
  | creating
  | looking (lookups : Lookups)
  | sleeping (since : ℕ)
  /-- The challenge with the given number is submitted. -/
  | submitting (index : ℕ)
  /-- Its validation is waited for. -/
  | polling (index : ℕ)
  | cleaning (result : Except ProxyError Unit) (deletions : Deletions)
  | ended (result : Except ProxyError Unit) (deletions : Deletions)
deriving DecidableEq

/-- A call of `authorize_automatically`.  For the proofs: the challenges whose submission has begun,
the last complete round of lookups and the number of rounds. -/
structure AuthorizationRun (records : List ManualDnsRecord) (challenges : List String) where
  phase : AuthorizationPhase
  made : ChallengeRecords
  deadline : ℕ
  clock : ℕ
  submitted : List String
  seen : List (ManualDnsRecord × Bool)
  rounds : ℕ
deriving DecidableEq

inductive AuthorizationEvent where
  | create (script : CreateScript)
  | startWaiting (now : ℕ)
  | resolverFails (error : String)
  | lookup (index : ℕ) (visible : Bool) (now : ℕ)
  /-- All lookups have ended. -/
  | allVisible
  | wake (now : ℕ)
  /-- The request is cancelled while the records are waited for. -/
  | cancelled
  | submit (outcome : Except Failure Unit)
  | poll (outcome : Except Failure (ChallengeStatus × String))
  | delete (index : ℕ)
  | allDeleted
  | cleanupTimesOut

namespace AuthorizationRun

variable {records : List ManualDnsRecord} {challenges : List String}

def start (records : List ManualDnsRecord) (challenges : List String) (now : ℕ) :
    AuthorizationRun records challenges :=
  ⟨.creating, ⟨[], []⟩, 0, now, [], [], 0⟩

section Steps

variable (s : AuthorizationRun records challenges)

/-- `cleanup_records` after a result. -/
def clean (result : Except ProxyError Unit) : AuthorizationRun records challenges :=
  { s with
    phase := .cleaning result ((Unordered.ofList s.made.handles).fill dnsCleanupConcurrency) }

/-- The lookups of a new round. -/
def look (now : ℕ) : AuthorizationRun records challenges :=
  { s with
    phase := .looking ((Unordered.ofList records).fill dnsLookupConcurrency)
    clock := now
    rounds := s.rounds + 1 }

/-- The loop of `validate_challenges` from the challenge with the given number on. -/
def validate (index : ℕ) : AuthorizationRun records challenges :=
  match challenges[index]? with
  | some challenge =>
    { s with phase := .submitting index, submitted := s.submitted ++ [challenge] }
  | none => s.clean (.ok ())

def createdBy (record : ManualDnsRecord) (script : CreateScript) :
    AuthorizationRun records challenges :=
  match createRecord (record, script) s.made with
  | (.ok (), made) => { s with made := made }
  | (.error e, made) => { s with made := made }.clean (.error e)

def step (event : AuthorizationEvent) : Option (AuthorizationRun records challenges) :=
  match s.phase, event with
  | .creating, .create script =>
    records[s.made.handles.length]?.map fun record => s.createdBy record script
  | .creating, .startWaiting now =>
    if records.length ≤ s.made.handles.length ∧ s.clock ≤ now then
      some ({ s with deadline := now + dnsPropagationTimeout }.look now)
    else none
  | .looking _, .resolverFails error =>
    some (s.clean (.error (.dns ("初始化 DNS 解析器失败: " ++ error))))
  | .looking lookups, .lookup index visible now =>
    if s.clock ≤ now then
      (lookups.finish index visible).map fun lookups =>
        if visible then
          { s with phase := .looking (lookups.fill dnsLookupConcurrency), clock := now }
        -- the lookups that still run are dropped
        else if s.deadline ≤ now then
          { s with clock := now }.clean (.error (.dns "等待 DNS TXT 记录传播超时"))
        else { s with phase := .sleeping now, clock := now }
    else none
  | .looking lookups, .allVisible =>
    if lookups.running = [] then some ({ s with seen := lookups.finished }.validate 0) else none
  | .looking _, .cancelled | .sleeping _, .cancelled =>
    some (s.clean (.error (.acme "证书申请已取消")))
  | .sleeping since, .wake now =>
    if since + dnsPollInterval ≤ now then some (s.look now) else none
  | .submitting index, .submit outcome =>
    match bounded "提交 DNS-01 挑战" outcome with
    | .ok () => some { s with phase := .polling index }
    | .error e => some (s.clean (.error e))
  | .polling index, .poll outcome =>
    match bounded "等待 DNS-01 验证" outcome with
    | .ok (status, error) =>
      if status = .valid then some (s.validate (index + 1))
      else some (s.clean (.error (.acme ("DNS-01 验证失败: " ++ error))))
    | .error e => some (s.clean (.error e))
  | .cleaning result deletions, .delete index =>
    (deletions.finish index ()).map fun deletions =>
      { s with phase := .cleaning result (deletions.fill dnsCleanupConcurrency) }
  | .cleaning result deletions, .allDeleted =>
    if deletions.running = [] then some { s with phase := .ended result deletions } else none
  | .cleaning result deletions, .cleanupTimesOut =>
    some { s with phase := .ended result deletions }
  | _, _ => none

end Steps

/-! ## What each phase is reached with -/

variable {s s' : AuthorizationRun records challenges} {event : AuthorizationEvent}

/-- Every record has been created, by calls that went in some way. -/
def Created (s : AuthorizationRun records challenges) : Prop :=
  ∃ calls, calls.map Prod.fst = records ∧
    Except.untilError createRecord calls ⟨[], []⟩ = (.ok (), s.made)

/-- All records have been seen in one round of lookups. -/
def Visible (s : AuthorizationRun records challenges) : Prop :=
  (s.seen.map Prod.fst).Perm records ∧ ∀ lookup ∈ s.seen, lookup.2 = true

/-- What the authorization gives is what the loop over the records and some rest give. -/
def Concludes (s : AuthorizationRun records challenges) (result : Except ProxyError Unit) : Prop :=
  ∃ calls rest, calls.map Prod.fst = records ∧
    authorizeAutomatically calls rest = ⟨result, s.made.created, s.made.handles⟩

/-- The end of the loop over the challenges. -/
structure Finished (s : AuthorizationRun records challenges) (result : Except ProxyError Unit)
    (deletions : Deletions) : Prop where
  submitted : s.submitted <+: challenges
  prepared : s.submitted ≠ [] → s.Created ∧ s.Visible
  ok : result = .ok () → s.submitted = challenges ∧ s.Created ∧ s.Visible
  concludes : s.Concludes result
  cleanup : deletions.Filled dnsCleanupConcurrency s.made.handles

def Sound (s : AuthorizationRun records challenges) : Prop :=
  match s.phase with
  | .creating => s.submitted = [] ∧ s.made.handles.length ≤ records.length ∧
      ∃ calls, calls.map Prod.fst = records.take s.made.handles.length ∧
        Except.untilError createRecord calls ⟨[], []⟩ = (.ok (), s.made)
  | .looking lookups => s.submitted = [] ∧ s.Created ∧
      lookups.Filled dnsLookupConcurrency records ∧
      ∀ lookup ∈ lookups.finished, lookup.2 = true
  | .sleeping _ => s.submitted = [] ∧ s.Created
  | .submitting index | .polling index => index < challenges.length ∧
      s.submitted = challenges.take (index + 1) ∧ s.Created ∧ s.Visible
  | .cleaning result deletions | .ended result deletions => s.Finished result deletions

/-! ## One step -/

lemma Sound.start (records : List ManualDnsRecord) (challenges : List String) (now : ℕ) :
    (start records challenges now).Sound :=
  ⟨rfl, Nat.zero_le _, [], rfl, rfl⟩

lemma Created.concludes (h : s.Created) (result : Except ProxyError Unit) :
    s.Concludes result := by
  obtain ⟨calls, hcalls, hmade⟩ := h
  exact ⟨calls, result, hcalls, by rw [authorizeAutomatically, hmade]; rfl⟩

/-- An error before the first submission. -/
lemma Sound.fail_before {e : ProxyError} (hsubmitted : s.submitted = [])
    (hconcludes : s.Concludes (.error e)) : (s.clean (.error e)).Sound where
  submitted := hsubmitted ▸ List.nil_prefix
  prepared h := absurd hsubmitted h
  ok h := by cases h
  concludes := hconcludes
  cleanup := (Unordered.of_ofList _ _).filled (by decide)

/-- An error at a challenge. -/
lemma Sound.fail_after {index : ℕ} (hsubmitted : s.submitted = challenges.take (index + 1))
    (hcreated : s.Created) (hvisible : s.Visible) (e : ProxyError) :
    (s.clean (.error e)).Sound where
  submitted := hsubmitted ▸ List.take_prefix _ _
  prepared _ := ⟨hcreated, hvisible⟩
  ok h := by cases h
  concludes := hcreated.concludes _
  cleanup := (Unordered.of_ofList _ _).filled (by decide)

lemma Sound.look (hsubmitted : s.submitted = []) (hcreated : s.Created) (now : ℕ) :
    (s.look now).Sound :=
  ⟨hsubmitted, hcreated, (Unordered.of_ofList _ _).filled (by decide), fun _ h => by cases h⟩

lemma Sound.validate {index : ℕ} (hsubmitted : s.submitted = challenges.take index)
    (hcreated : s.Created) (hvisible : s.Visible) : (s.validate index).Sound := by
  unfold AuthorizationRun.validate
  cases hchallenge : challenges[index]? with
  | some challenge =>
    obtain ⟨hlt, rfl⟩ := List.getElem?_eq_some_iff.mp hchallenge
    refine ⟨hlt, ?_, hcreated, hvisible⟩
    change s.submitted ++ [challenges[index]] = challenges.take (index + 1)
    rw [hsubmitted, List.take_concat_get' _ _ hlt]
  | none =>
    have hall : s.submitted = challenges := by
      rw [hsubmitted, List.take_of_length_le (List.getElem?_eq_none_iff.mp hchallenge)]
    exact ⟨⟨[], (List.append_nil _).trans hall⟩, fun _ => ⟨hcreated, hvisible⟩,
      fun _ => ⟨hall, hcreated, hvisible⟩, hcreated.concludes _,
      (Unordered.of_ofList _ _).filled (by decide)⟩

/-- A call of `create_txt` adds a handle, or ends the loop over the records. -/
lemma createRecord_cases (call : ManualDnsRecord × CreateScript) (made : ChallengeRecords) :
    (∃ created handle, createRecord call made =
        (.ok (), ⟨made.created ++ created, made.handles ++ [handle]⟩)) ∨
      ∃ e created,
        createRecord call made = (.error e, ⟨made.created ++ created, made.handles⟩) := by
  cases hcall : createTxt call.1 call.2 with
  | mk effect outcome =>
    simp only [createRecord, hcall]
    cases bounded "创建 DNS-01 记录" outcome with
    | ok handle => exact .inl ⟨_, handle, rfl⟩
    | error e => exact .inr ⟨e, _, rfl⟩

lemma Sound.createdBy {record : ManualDnsRecord} {script : CreateScript} (h : s.Sound)
    (hphase : s.phase = .creating)
    (hrecord : records[s.made.handles.length]? = some record) :
    (s.createdBy record script).Sound := by
  rw [Sound, hphase] at h
  obtain ⟨hsubmitted, hle, calls, hcalls, hmade⟩ := h
  obtain ⟨hlt, rfl⟩ := List.getElem?_eq_some_iff.mp hrecord
  have hloop := Except.untilError_append hmade
  unfold AuthorizationRun.createdBy
  obtain ⟨created, handle, hcreate⟩ | ⟨e, created, hcreate⟩ :=
    createRecord_cases (records[s.made.handles.length], script) s.made
  · rw [hcreate]
    simp only [Sound, hphase, List.length_append, List.length_singleton]
    refine ⟨hsubmitted, hlt, calls ++ [(records[s.made.handles.length], script)], ?_, ?_⟩
    · rw [List.map_append, hcalls]
      exact List.take_concat_get' _ _ hlt
    · rw [hloop, Except.untilError_cons_ok hcreate]
      rfl
  · rw [hcreate]
    -- the calls for the records after this one are not made
    let rest := (records.drop (s.made.handles.length + 1)).map fun record => (record, script)
    refine Sound.fail_before hsubmitted
      ⟨calls ++ (records[s.made.handles.length], script) :: rest, .ok (), ?_, ?_⟩
    · rw [List.map_append, List.map_cons, hcalls, List.map_map]
      simp only [Function.comp_def, List.map_id', List.getElem_cons_drop, List.take_append_drop]
    · rw [authorizeAutomatically, hloop, Except.untilError_cons_error hcreate]
      rfl

lemma Sound.step (h : s.Sound) (hstep : s.step event = some s') : s'.Sound := by
  unfold AuthorizationRun.step at hstep
  split at hstep
  · next script hphase =>
    obtain ⟨record, hrecord, rfl⟩ := Option.map_eq_some_iff.mp hstep
    exact h.createdBy hphase hrecord
  · next now hphase =>
    obtain ⟨⟨hall, -⟩, hstep⟩ := Option.ite_none_right_eq_some.mp hstep
    cases hstep
    rw [Sound, hphase] at h
    obtain ⟨hsubmitted, hle, calls, hcalls, hmade⟩ := h
    rw [List.take_of_length_le hall] at hcalls
    exact Sound.look hsubmitted ⟨calls, hcalls, hmade⟩ now
  · next error hphase =>
    cases hstep
    rw [Sound, hphase] at h
    obtain ⟨hsubmitted, hcreated, -⟩ := h
    exact Sound.fail_before hsubmitted (hcreated.concludes _)
  · next lookups index visible now hphase =>
    obtain ⟨-, hstep⟩ := Option.ite_none_right_eq_some.mp hstep
    obtain ⟨lookups', hfinish, rfl⟩ := Option.map_eq_some_iff.mp hstep
    rw [Sound, hphase] at h
    obtain ⟨hsubmitted, hcreated, hlookups, hvisible⟩ := h
    cases visible with
    | true =>
      refine ⟨hsubmitted, hcreated, (hlookups.toOf.finish hfinish).filled (by decide), ?_⟩
      obtain ⟨record, -, rfl⟩ := Unordered.finish_eq_some hfinish
      exact List.forall_mem_append.mpr ⟨hvisible, by simp⟩
    | false =>
      simp only [Bool.false_eq_true, if_false]
      split
      · exact Sound.fail_before hsubmitted (Created.concludes hcreated _)
      · exact ⟨hsubmitted, hcreated⟩
  · next lookups hphase =>
    obtain ⟨hdone, hstep⟩ := Option.ite_none_right_eq_some.mp hstep
    cases hstep
    rw [Sound, hphase] at h
    obtain ⟨hsubmitted, hcreated, hlookups, hvisible⟩ := h
    exact Sound.validate hsubmitted hcreated ⟨hlookups.finished_perm hdone, hvisible⟩
  · next hphase =>
    cases hstep
    rw [Sound, hphase] at h
    obtain ⟨hsubmitted, hcreated, -⟩ := h
    exact Sound.fail_before hsubmitted (hcreated.concludes _)
  · next hphase =>
    cases hstep
    rw [Sound, hphase] at h
    obtain ⟨hsubmitted, hcreated⟩ := h
    exact Sound.fail_before hsubmitted (hcreated.concludes _)
  · next since now hphase =>
    obtain ⟨-, hstep⟩ := Option.ite_none_right_eq_some.mp hstep
    cases hstep
    rw [Sound, hphase] at h
    exact Sound.look h.1 h.2 now
  · next index outcome hphase =>
    rw [Sound, hphase] at h
    obtain ⟨hlt, hsubmitted, hcreated, hvisible⟩ := h
    split at hstep
    · cases hstep
      exact ⟨hlt, hsubmitted, hcreated, hvisible⟩
    · cases hstep
      exact Sound.fail_after hsubmitted hcreated hvisible _
  · next index outcome hphase =>
    rw [Sound, hphase] at h
    obtain ⟨hlt, hsubmitted, hcreated, hvisible⟩ := h
    split at hstep
    · split at hstep
      · cases hstep
        exact Sound.validate hsubmitted hcreated hvisible
      · cases hstep
        exact Sound.fail_after hsubmitted hcreated hvisible _
    · cases hstep
      exact Sound.fail_after hsubmitted hcreated hvisible _
  · next result deletions index hphase =>
    obtain ⟨deletions', hfinish, rfl⟩ := Option.map_eq_some_iff.mp hstep
    rw [Sound, hphase] at h
    exact { h with cleanup := (h.cleanup.toOf.finish hfinish).filled (by decide) }
  · next result deletions hphase =>
    obtain ⟨-, hstep⟩ := Option.ite_none_right_eq_some.mp hstep
    cases hstep
    rw [Sound, hphase] at h
    exact { h with }
  · next result deletions hphase =>
    cases hstep
    rw [Sound, hphase] at h
    exact { h with }
  · cases hstep

/-! ## How often the DNS is asked -/

/-- Every round but the last has ended before the deadline, and five seconds before the next. -/
def Timed (s : AuthorizationRun records challenges) : Prop :=
  match s.phase with
  | .creating => s.rounds = 0
  | .looking _ => s.rounds ≤ 61 ∧
      dnsPollInterval * (s.rounds - 1) + s.deadline ≤ s.clock + dnsPropagationTimeout
  | .sleeping since => since = s.clock ∧ s.clock < s.deadline ∧
      dnsPollInterval * (s.rounds - 1) + s.deadline ≤ s.clock + dnsPropagationTimeout
  | _ => s.rounds ≤ 61

lemma Timed.rounds_le (h : s.Timed) : s.rounds ≤ 61 := by
  unfold Timed at h
  split at h
  · omega
  · exact h.1
  · simp only [dnsPollInterval, dnsPropagationTimeout] at h
    omega
  · exact h

lemma Timed.validate (h : s.rounds ≤ 61) (index : ℕ) : (s.validate index).Timed := by
  unfold AuthorizationRun.validate
  split
  · exact h
  · exact h

lemma Timed.createdBy {record : ManualDnsRecord} {script : CreateScript} (h : s.rounds = 0)
    (hphase : s.phase = .creating) : (s.createdBy record script).Timed := by
  unfold AuthorizationRun.createdBy
  split
  · rw [Timed]
    simp only [hphase]
    exact h
  · exact (Nat.le_of_eq h).trans (Nat.zero_le _)

lemma Timed.step (h : s.Timed) (hstep : s.step event = some s') : s'.Timed := by
  have hrounds := h.rounds_le
  unfold AuthorizationRun.step at hstep
  split at hstep
  · next script hphase =>
    obtain ⟨record, -, rfl⟩ := Option.map_eq_some_iff.mp hstep
    rw [Timed, hphase] at h
    exact Timed.createdBy h hphase
  · next now hphase =>
    obtain ⟨-, hstep⟩ := Option.ite_none_right_eq_some.mp hstep
    cases hstep
    rw [Timed, hphase] at h
    simp [Timed, look, h]
  · cases hstep
    exact hrounds
  · next lookups index visible now hphase =>
    obtain ⟨hclock, hstep⟩ := Option.ite_none_right_eq_some.mp hstep
    obtain ⟨lookups', -, rfl⟩ := Option.map_eq_some_iff.mp hstep
    rw [Timed, hphase] at h
    split
    · exact ⟨h.1, h.2.trans (Nat.add_le_add_right hclock _)⟩
    · split
      · exact hrounds
      · next hdeadline =>
        exact ⟨rfl, Nat.lt_of_not_le hdeadline, h.2.trans (Nat.add_le_add_right hclock _)⟩
  · obtain ⟨-, hstep⟩ := Option.ite_none_right_eq_some.mp hstep
    cases hstep
    apply Timed.validate
    exact hrounds
  · cases hstep
    exact hrounds
  · cases hstep
    exact hrounds
  · next since now hphase =>
    obtain ⟨hawake, hstep⟩ := Option.ite_none_right_eq_some.mp hstep
    cases hstep
    rw [Timed, hphase] at h
    obtain ⟨rfl, hdeadline, hle⟩ := h
    simp only [Timed, look, dnsPollInterval, dnsPropagationTimeout] at hle hawake ⊢
    omega
  · split at hstep
    · cases hstep
      exact hrounds
    · cases hstep
      exact hrounds
  · split at hstep
    · split at hstep
      · cases hstep
        exact Timed.validate hrounds _
      · cases hstep
        exact hrounds
    · cases hstep
      exact hrounds
  · obtain ⟨deletions', -, rfl⟩ := Option.map_eq_some_iff.mp hstep
    exact hrounds
  · obtain ⟨-, hstep⟩ := Option.ite_none_right_eq_some.mp hstep
    cases hstep
    exact hrounds
  · cases hstep
    exact hrounds
  · cases hstep

/-! ## Runs -/

lemma sound_of_reach {now : ℕ} (h : Reach step Always (start records challenges now) s) :
    s.Sound ∧ s.Timed := by
  refine h.invariant (I := fun s => s.Sound ∧ s.Timed)
    ⟨Sound.start records challenges now, rfl⟩ fun _ _ _ hs _ hstep => ?_
  exact ⟨hs.1.step hstep, hs.2.step hstep⟩

/-- **No challenge is submitted before its record can be seen.**  As soon as a submission has begun,
all records have been created, and one round of lookups has found all of them.  At most 16 lookups
run beside each other, in at most 61 rounds.  When the cleanup begins, the result is one of the loop
over the records and what comes after it, without an error only if all challenges have been
submitted.  Every handle waits or has been passed to one deletion; when no deletion runs any more,
all have been.  A cleanup that runs out of time ends before that: the handles that wait then are
passed to no deletion and their records stay, and the deletions that run are given up. -/
theorem submitted_after_visible {now : ℕ}
    (h : Reach step Always (start records challenges now) s) :
    (s.submitted ≠ [] → s.Created ∧ s.Visible) ∧
    (∀ lookups, s.phase = .looking lookups →
      lookups.running.length ≤ dnsLookupConcurrency ∧ s.submitted = []) ∧
    s.rounds ≤ 61 ∧
    ∀ result deletions, s.phase = .cleaning result deletions ∨ s.phase = .ended result deletions →
      s.Concludes result ∧ (result = .ok () → s.submitted = challenges ∧ s.Created ∧ s.Visible) ∧
        (deletions.waiting ++ deletions.started).Perm s.made.handles ∧
        (deletions.running = [] → (deletions.finished.map Prod.fst).Perm s.made.handles) := by
  obtain ⟨hsound, htimed⟩ := sound_of_reach h
  refine ⟨fun hsubmitted => ?_, fun lookups hphase => ?_, htimed.rounds_le,
    fun result deletions hphase => ?_⟩
  · unfold Sound at hsound
    split at hsound
    · exact absurd hsound.1 hsubmitted
    · exact absurd hsound.1 hsubmitted
    · exact absurd hsound.1 hsubmitted
    · exact hsound.2.2
    · exact hsound.2.2
    · exact hsound.prepared hsubmitted
    · exact hsound.prepared hsubmitted
  · rw [Sound, hphase] at hsound
    exact ⟨hsound.2.2.1.bounded, hsound.1⟩
  · have hfinished : s.Finished result deletions := by
      rcases hphase with hphase | hphase
      · rwa [Sound, hphase] at hsound
      · rwa [Sound, hphase] at hsound
    exact ⟨hfinished.concludes, hfinished.ok, hfinished.cleanup.perm,
      hfinished.cleanup.finished_perm⟩

/-- The record is not there at once, and the challenge is valid in the end. -/
def lateRecord : List AuthorizationEvent :=
  [.create (.unified (.ok [[⟨"zone", "example.com"⟩]]) (.done "record")), .startWaiting 10,
    .lookup 0 false 11, .wake 16, .lookup 0 true 17, .allVisible, .submit (.ok ()),
    .poll (.ok (.valid, "")), .delete 0, .allDeleted]

theorem late_record_seen :
    ∃ s : AuthorizationRun [⟨"_acme-challenge.example.com", "token"⟩] ["challenge/1"],
      Reach step Always (start _ _ 0) s ∧ s.submitted = ["challenge/1"] ∧ s.Created ∧
        s.Visible := by
  obtain ⟨s, hrun, hsubmitted⟩ : ∃ s : AuthorizationRun
      [⟨"_acme-challenge.example.com", "token"⟩] ["challenge/1"],
      exec step Always (start _ _ 0) lateRecord = some s ∧ s.submitted = ["challenge/1"] :=
    Option.map_eq_some_iff.mp (by decide +kernel)
  obtain ⟨hprepared, -⟩ := submitted_after_visible (reach_of_exec hrun)
  exact ⟨s, reach_of_exec hrun, hsubmitted, hprepared (by simp [hsubmitted])⟩

end AuthorizationRun

end GateRust.Proxy
