/-
# The records of a GoDaddy account

GoDaddy can only replace all TXT records of a name.  `create_txt` and `delete_txt` read the
records, change the list and write it back, under the only permit of a semaphore that all tasks of
the account share.

A task here is the life of one record: a call of `create_txt` and, when the call has returned a
handle, perhaps the call of `delete_txt` that takes it.  Its steps are the requests of `dns.rs`,
which the provider answers and obeys in any order between the tasks, and it may be dropped, or
fail, wherever it waits.
-/
import GateRust.Lib.Machine
import GateRust.Proxy.CertificateManager
import GateRust.Proxy.DnsRecords
import Mathlib.Algebra.Order.Group.Multiset

namespace GateRust.Proxy

open Machine

/-! ## The gate of an account -/

section Gate

variable {gates : HashMap String Nat} {id id' : String} {gate : Nat}

lemma lookup_gateFor (gates : HashMap String Nat) (id : String) :
    (gateFor gates id).2.lookup id = some (gateFor gates id).1 := by
  unfold gateFor
  cases hgate : gates.lookup id with
  | some gate => exact hgate
  | none => exact AList.lookup_insert _

lemma gateFor_of_lookup (h : gates.lookup id = some gate) : gateFor gates id = (gate, gates) := by
  rw [gateFor, h]

lemma lookup_gateFor_of_lookup (h : gates.lookup id = some gate) :
    (gateFor gates id').2.lookup id = some gate := by
  cases hgate : gates.lookup id' with
  | some gate' =>
    rw [gateFor_of_lookup hgate]
    exact h
  | none =>
    have hne : id ≠ id' := by
      rintro rfl
      rw [hgate] at h
      cases h
    rw [gateFor, hgate, AList.lookup_insert_ne hne]
    exact h

/-- All requests for one account get one gate, whatever other accounts are asked for between
them. -/
theorem gateFor_shared (gates : HashMap String Nat) (id : String) (between : List String) :
    (gateFor (between.foldl (fun gates other => (gateFor gates other).2)
      (gateFor gates id).2) id).1 = (gateFor gates id).1 := by
  have hfold : (between.foldl (fun gates other => (gateFor gates other).2)
      (gateFor gates id).2).lookup id = some (gateFor gates id).1 := by
    generalize hstart : (gateFor gates id).2 = start
    have hlookup : start.lookup id = some (gateFor gates id).1 := hstart ▸ lookup_gateFor gates id
    clear hstart
    induction between generalizing start with
    | nil => exact hlookup
    | cons other between ih => exact ih _ (lookup_gateFor_of_lookup hlookup)
  rw [gateFor_of_lookup hfold]

end Gate

/-! ## Tasks -/

/-- Where a task waits. -/
inductive RecordStage where
  | idle
  /-- The domains are requested. -/
  | findingZone (fqdn value : String)
  /-- The permit is not yet acquired. -/
  | acquiring (m : Mutation)
  /-- The records are requested. -/
  | reading (m : Mutation)
  /-- The provider has answered with the records. -/
  | answered (m : Mutation) (records : List GoDaddyRecord)
  /-- The request that replaces the records is sent. -/
  | writing (m : Mutation) (write : RecordWrite)
  /-- The provider has replaced the records. -/
  | written (m : Mutation)
  /-- `create_txt` has returned the handle. -/
  | holding (path : TxtPath) (value : String)
  | ended
deriving DecidableEq, Repr

/-- The stages inside the permit. -/
def RecordStage.permit : RecordStage → Bool
  | .reading _ | .answered _ _ | .writing _ _ | .written _ => true
  | _ => false

inductive RecordEvent where
  | createTxt (fqdn value : String)
  | domains (answer : List String)
  | acquire
  /-- The answer to the reading request, none for the status 404. -/
  | getTxt (answer : Option (List GoDaddyRecord))
  | send
  /-- The provider obeys the writing request. -/
  | effect
  | finish
  | deleteTxt
  /-- The future is dropped, or a request fails. -/
  | abandon
deriving DecidableEq, Repr

/-- A change of the zone. -/
structure RecordChange where
  task : ℕ
  mutation : Mutation
  record : GoDaddyRecord
deriving DecidableEq, Repr

structure GoDaddyAccount where
  /-- The free permits of the semaphore. -/
  mutationGate : ℕ
  zone : TxtPath → List GoDaddyRecord
  stage : ℕ → RecordStage
  /-- The changes so far. -/
  changes : List RecordChange

namespace GoDaddyAccount

def start (zone : TxtPath → List GoDaddyRecord) : GoDaddyAccount := ⟨1, zone, fun _ => .idle, []⟩

/-- A list holds the current records in any order; 404 stands for none. -/
def Answers (s : GoDaddyAccount) (path : TxtPath) : Option (List GoDaddyRecord) → Prop
  | none => s.zone path = []
  | some records => records.Perm (s.zone path)

instance (s : GoDaddyAccount) (path : TxtPath) : DecidablePred (s.Answers path)
  | none => inferInstanceAs (Decidable (_ = _))
  | some _ => inferInstanceAs (Decidable (List.Perm _ _))

/-- The next stage of a task. -/
def next (s : GoDaddyAccount) (stage : RecordStage) : RecordEvent → Option RecordStage
  | .createTxt fqdn value =>
    match stage with
    | .idle => some (.findingZone fqdn value)
    | _ => none
  | .domains answer =>
    match stage with
    | .findingZone fqdn value =>
      match TxtPath.find fqdn answer with
      | .ok path => some (.acquiring ⟨.create, path, value⟩)
      | .error _ => some .ended
    | _ => none
  | .acquire =>
    match stage with
    | .acquiring m => if 0 < s.mutationGate then some (.reading m) else none
    | _ => none
  | .getTxt answer =>
    match stage with
    | .reading m => if s.Answers m.path answer then some (.answered m (answer.getD [])) else none
    | _ => none
  | .send =>
    match stage with
    | .answered m records =>
      match m.write records with
      | some write => some (.writing m write)
      | none => some .ended
    | _ => none
  | .effect =>
    match stage with
    | .writing m _ => some (.written m)
    | _ => none
  | .finish =>
    match stage with
    | .written m =>
      match m.kind with
      | .create => some (.holding m.path m.value)
      | .delete => some .ended
    | _ => none
  | .deleteTxt =>
    match stage with
    | .holding path value => some (.acquiring ⟨.delete, path, value⟩)
    | _ => none
  | .abandon =>
    match stage with
    | .idle | .ended => none
    | _ => some .ended

/-- The free permits after a task has gone from one stage to another. -/
def gateAfter (free : ℕ) (stage stage' : RecordStage) : ℕ :=
  match stage.permit, stage'.permit with
  | false, true => free - 1
  | true, false => free + 1
  | _, _ => free

def goto (s : GoDaddyAccount) (t : ℕ) (stage : RecordStage) : GoDaddyAccount :=
  { s with
    mutationGate := gateAfter s.mutationGate (s.stage t) stage
    stage := Function.update s.stage t stage }

/-- The provider replaces the records of a name. -/
def replace (s : GoDaddyAccount) (t : ℕ) (m : Mutation) (write : RecordWrite) : GoDaddyAccount :=
  { s with
    zone := Function.update s.zone m.path write.request.records
    changes := s.changes ++ [⟨t, m, write.record⟩] }

/-- What the provider does when a task takes the step. -/
def obey (s : GoDaddyAccount) (t : ℕ) : RecordEvent → GoDaddyAccount
  | .effect =>
    match s.stage t with
    | .writing m write => s.replace t m write
    | _ => s
  | _ => s

def step (s : GoDaddyAccount) : ℕ × RecordEvent → Option GoDaddyAccount
  | (t, e) => (s.next (s.stage t) e).map fun stage => (s.obey t e).goto t stage

variable {initial : TxtPath → List GoDaddyRecord} {s s' : GoDaddyAccount} {t t' : ℕ}
  {e : RecordEvent} {stage stage' : RecordStage}

/-! ## The steps of one task -/

/-- What `next` allows. -/
inductive Moves (s : GoDaddyAccount) : RecordStage → RecordEvent → RecordStage → Prop
  | createTxt {fqdn value : String} :
      Moves s .idle (.createTxt fqdn value) (.findingZone fqdn value)
  | found {fqdn value : String} {answer : List String} {path : TxtPath}
      (hpath : TxtPath.find fqdn answer = .ok path) :
      Moves s (.findingZone fqdn value) (.domains answer) (.acquiring ⟨.create, path, value⟩)
  | notFound {fqdn value : String} {answer : List String} :
      Moves s (.findingZone fqdn value) (.domains answer) .ended
  | acquire {m : Mutation} (hfree : 0 < s.mutationGate) :
      Moves s (.acquiring m) .acquire (.reading m)
  | getTxt {m : Mutation} {answer : Option (List GoDaddyRecord)}
      (hanswer : s.Answers m.path answer) :
      Moves s (.reading m) (.getTxt answer) (.answered m (answer.getD []))
  | send {m : Mutation} {records : List GoDaddyRecord} {write : RecordWrite}
      (hwrite : m.write records = some write) :
      Moves s (.answered m records) .send (.writing m write)
  | nothing {m : Mutation} {records : List GoDaddyRecord} :
      Moves s (.answered m records) .send .ended
  | effect {m : Mutation} {write : RecordWrite} : Moves s (.writing m write) .effect (.written m)
  | created {m : Mutation} (hkind : m.kind = .create) :
      Moves s (.written m) .finish (.holding m.path m.value)
  | deleted {m : Mutation} : Moves s (.written m) .finish .ended
  | deleteTxt {path : TxtPath} {value : String} :
      Moves s (.holding path value) .deleteTxt (.acquiring ⟨.delete, path, value⟩)
  | abandon {stage : RecordStage} : Moves s stage .abandon .ended

lemma moves_of_next (h : s.next stage e = some stage') : s.Moves stage e stage' := by
  cases e with
  | createTxt fqdn value => cases stage <;> cases h; exact .createTxt
  | domains answer =>
    cases stage with
    | findingZone fqdn value =>
      simp only [next] at h
      split at h
      · rename_i path hpath
        cases h
        exact .found hpath
      · cases h
        exact .notFound
    | _ => cases h
  | acquire =>
    cases stage with
    | acquiring m =>
      obtain ⟨hfree, h⟩ := Option.ite_none_right_eq_some.mp h
      cases h
      exact .acquire hfree
    | _ => cases h
  | getTxt answer =>
    cases stage with
    | reading m =>
      obtain ⟨hanswer, h⟩ := Option.ite_none_right_eq_some.mp h
      cases h
      exact .getTxt hanswer
    | _ => cases h
  | send =>
    cases stage with
    | answered m records =>
      simp only [next] at h
      split at h
      · rename_i write hwrite
        cases h
        exact .send hwrite
      · cases h
        exact .nothing
    | _ => cases h
  | effect => cases stage <;> cases h; exact .effect
  | finish =>
    cases stage with
    | written m =>
      simp only [next] at h
      split at h
      · rename_i hkind
        cases h
        exact .created hkind
      · cases h
        exact .deleted
    | _ => cases h
  | deleteTxt => cases stage <;> cases h; exact .deleteTxt
  | abandon => cases stage <;> cases h <;> exact .abandon

lemma stage_goto : (s.goto t stage).stage t = stage := Function.update_self _ _ _

lemma stage_goto_of_ne (hne : t' ≠ t) : (s.goto t stage).stage t' = s.stage t' :=
  Function.update_of_ne hne _ _

/-- A step of a task replaces the records of a name, or it changes the stage of the task only. -/
lemma step_cases (h : s.step (t, e) = some s') :
    (∃ m write, s.stage t = .writing m write ∧ s' = (s.replace t m write).goto t (.written m)) ∨
    e ≠ .effect ∧ ∃ stage, s.Moves (s.stage t) e stage ∧ s' = s.goto t stage := by
  obtain ⟨stage, hstage, rfl⟩ := Option.map_eq_some_iff.mp h
  by_cases he : e = .effect
  · subst he
    cases hwriting : s.stage t with
    | writing m write =>
      rw [hwriting] at hstage
      cases hstage
      refine Or.inl ⟨m, write, rfl, ?_⟩
      simp only [obey, hwriting]
    | _ =>
      rw [hwriting] at hstage
      cases hstage
  · refine Or.inr ⟨he, stage, moves_of_next hstage, ?_⟩
    cases e <;> first | exact absurd rfl he | rfl

/-! ## The permit -/

/-- The permit is free, or one task is inside it. -/
def Gated (s : GoDaddyAccount) : Prop :=
  ∃ holder : Option ℕ, s.mutationGate = (if holder = none then 1 else 0) ∧
    ∀ t, (s.stage t).permit = true ↔ holder = some t

lemma Gated.unique (h : s.Gated) (ht : (s.stage t).permit = true)
    (ht' : (s.stage t').permit = true) : t' = t := by
  obtain ⟨holder, -, hholder⟩ := h
  exact Option.some.inj (((hholder t').mp ht').symm.trans ((hholder t).mp ht))

/-- A task gets inside the permit when one is free. -/
lemma Moves.permit (h : s.Moves stage e stage') (hpermit : stage'.permit = true) :
    stage.permit = true ∨ 0 < s.mutationGate := by
  cases h with
  | acquire hfree => exact Or.inr hfree
  | getTxt | send | effect => exact Or.inl rfl
  | _ => cases hpermit

lemma Gated.goto (h : s.Gated)
    (hstage : stage.permit = true → (s.stage t).permit = true ∨ 0 < s.mutationGate) :
    (s.goto t stage).Gated := by
  obtain ⟨holder, hgate, hholder⟩ := h
  have hothers : ∀ t', t' ≠ t → (((s.goto t stage).stage t').permit = true ↔ holder = some t') := by
    intro t' hne
    rw [stage_goto_of_ne hne]
    exact hholder t'
  have hwas : (s.stage t).permit = decide (holder = some t) := by
    rw [Bool.eq_iff_iff, decide_eq_true_iff]
    exact hholder t
  by_cases hpermit : stage.permit = true
  · -- the task has the permit now: it was free, or the task had it already
    have hholder' : holder = none ∨ holder = some t := by
      rcases hstage hpermit with hin | hfree
      · exact Or.inr ((hholder t).mp hin)
      · refine Or.inl (by_contra fun hne => ?_)
        rw [hgate, if_neg hne] at hfree
        exact absurd hfree (Nat.lt_irrefl 0)
    refine ⟨some t, ?_, fun t' => ?_⟩
    · rcases hholder' with rfl | rfl <;> simp [GoDaddyAccount.goto, gateAfter, hwas, hpermit, hgate]
    · by_cases hne : t' = t
      · simp [hne, stage_goto, hpermit]
      · rw [hothers t' hne]
        rcases hholder' with rfl | rfl <;> simp [Ne.symm hne]
  · by_cases hin : holder = some t
    · refine ⟨none, ?_, fun t' => ?_⟩
      · simp [GoDaddyAccount.goto, gateAfter, hwas, hpermit, hgate, hin]
      · by_cases hne : t' = t
        · simp [hne, stage_goto, hpermit]
        · rw [hothers t' hne, hin]
          simp [Ne.symm hne]
    · refine ⟨holder, ?_, fun t' => ?_⟩
      · simp [GoDaddyAccount.goto, gateAfter, hwas, hpermit, hgate, hin]
      · by_cases hne : t' = t
        · simp [hne, stage_goto, hpermit, hin]
        · exact hothers t' hne

lemma Gated.step (h : s.Gated) (hs : s.step (t, e) = some s') : s'.Gated := by
  rcases step_cases hs with ⟨m, write, hwriting, rfl⟩ | ⟨-, stage, hmoves, rfl⟩
  · refine Gated.goto h fun _ => Or.inl ?_
    change (s.stage t).permit = true
    rw [hwriting]
    rfl
  · exact h.goto hmoves.permit

/-! ## What a task has read and what it will write -/

/-- The records that a task has read are, up to the relation `R`, those that the provider has. -/
structure Snapshots (R : List GoDaddyRecord → List GoDaddyRecord → Prop) (s : GoDaddyAccount) :
    Prop where
  answered : ∀ t m records, s.stage t = .answered m records → R records (s.zone m.path)
  writing : ∀ t m write, s.stage t = .writing m write →
    ∃ records, R records (s.zone m.path) ∧ m.write records = some write

/-- The list in an answer is in the relation `R` to the records of the provider. -/
def AnswersBy (R : List GoDaddyRecord → List GoDaddyRecord → Prop) (s : GoDaddyAccount)
    (e : ℕ × RecordEvent) : Prop :=
  match e.2, s.stage e.1 with
  | .getTxt answer, .reading m => R (answer.getD []) (s.zone m.path)
  | _, _ => True

variable {R : List GoDaddyRecord → List GoDaddyRecord → Prop}

lemma answersBy_perm (h : s.step (t, e) = some s') : s.AnswersBy List.Perm (t, e) := by
  rcases step_cases h with ⟨m, write, hwriting, -⟩ | ⟨-, stage, hmoves, -⟩
  · simp only [AnswersBy, hwriting]
  · rw [AnswersBy]
    generalize s.stage t = old at hmoves
    cases hmoves with
    | @getTxt m answer hanswer =>
      cases answer with
      | none =>
        change [].Perm (s.zone m.path)
        rw [show s.zone m.path = [] from hanswer]
      | some records => exact hanswer
    | _ => trivial

/-- Nobody else writes while a task is inside the permit. -/
lemma Snapshots.step (h : s.Snapshots R) (hgated : s.Gated) (hs : s.step (t, e) = some s')
    (hok : s.AnswersBy R (t, e)) : s'.Snapshots R := by
  rcases step_cases hs with ⟨m, write, hwriting, rfl⟩ | ⟨-, stage, hmoves, rfl⟩
  · have hin : (s.stage t).permit = true := by
      rw [hwriting]
      rfl
    have hout : ∀ t' stage', ((s.replace t m write).goto t (.written m)).stage t' = stage' →
        stage'.permit = true → stage' = .written m := by
      intro t' stage' hstage hpermit
      by_cases hne : t' = t
      · rw [hne, stage_goto] at hstage
        exact hstage.symm
      · rw [stage_goto_of_ne hne] at hstage
        exact absurd (hgated.unique hin (hstage ▸ hpermit)) hne
    constructor
    · intro t' m' records hstage
      cases hout t' _ hstage rfl
    · intro t' m' write' hstage
      cases hout t' _ hstage rfl
  · constructor
    · intro t' m' records hstage
      by_cases hne : t' = t
      · subst hne
        rw [stage_goto] at hstage
        subst hstage
        generalize hold : s.stage t' = old at hmoves
        cases hmoves with
        | getTxt hanswer =>
          simp only [AnswersBy, hold] at hok
          exact hok
      · rw [stage_goto_of_ne hne] at hstage
        exact h.answered t' m' records hstage
    · intro t' m' write hstage
      by_cases hne : t' = t
      · subst hne
        rw [stage_goto] at hstage
        subst hstage
        generalize hold : s.stage t' = old at hmoves
        cases hmoves with
        | send hwrite => exact ⟨_, h.answered t' m' _ hold, hwrite⟩
      · rw [stage_goto_of_ne hne] at hstage
        exact h.writing t' m' write hstage

/-! ## The changes of a task -/

/-- The task has created a record with the value. -/
def Created (s : GoDaddyAccount) (t : ℕ) (path : TxtPath) (value : String) : Prop :=
  ∃ record, ⟨t, ⟨.create, path, value⟩, record⟩ ∈ s.changes

/-- The task has made no change of the kind. -/
def Unchanged (s : GoDaddyAccount) (t : ℕ) (kind : MutationKind) : Prop :=
  ∀ change ∈ s.changes, change.task = t → change.mutation.kind ≠ kind

/-- A task that is about to create a record has changed nothing; one that is about to delete a
record has created it. -/
def Ready (s : GoDaddyAccount) (t : ℕ) (m : Mutation) : Prop :=
  s.Unchanged t .delete ∧
    match m.kind with
    | .create => s.Unchanged t .create
    | .delete => s.Created t m.path m.value

/-- What a task has changed at its stage. -/
def Reached (s : GoDaddyAccount) (t : ℕ) : RecordStage → Prop
  | .idle | .findingZone _ _ => s.Unchanged t .delete ∧ s.Unchanged t .create
  | .acquiring m | .reading m | .answered m _ | .writing m _ => s.Ready t m
  | .written m => m.kind = .create → s.Unchanged t .delete ∧ s.Created t m.path m.value
  | .holding path value => s.Unchanged t .delete ∧ s.Created t path value
  | .ended => True

/-- Each task creates at most one record, and deletes at most one record, which it has created. -/
structure Accounted (s : GoDaddyAccount) : Prop where
  once : (s.changes.map fun change => (change.task, change.mutation.kind)).Nodup
  created : ∀ change ∈ s.changes, change.mutation.kind = .delete →
    s.Created change.task change.mutation.path change.mutation.value
  reached : ∀ t, s.Reached t (s.stage t)

lemma Moves.reached (h : s.Moves stage e stage') (he : e ≠ .effect) (hreached : s.Reached t stage) :
    s.Reached t stage' := by
  cases h with
  | createTxt | found | acquire | getTxt | send => exact hreached
  | notFound | nothing | deleted | abandon => trivial
  | effect => exact absurd rfl he
  | created hkind => exact hreached hkind
  | deleteTxt => exact hreached

section Replace

variable {m : Mutation} {write : RecordWrite} {path : TxtPath} {value : String}
  {kind : MutationKind}

lemma mem_changes_replace {change : RecordChange} :
    change ∈ (s.replace t m write).changes ↔
      change ∈ s.changes ∨ change = ⟨t, m, write.record⟩ := by
  rw [replace, List.mem_append, List.mem_singleton]

lemma Created.replace (h : s.Created t' path value) :
    (s.replace t m write).Created t' path value := by
  obtain ⟨record, hmem⟩ := h
  exact ⟨record, mem_changes_replace.mpr (Or.inl hmem)⟩

lemma Unchanged.replace (h : s.Unchanged t' kind) (hnew : t = t' → m.kind ≠ kind) :
    (s.replace t m write).Unchanged t' kind := by
  intro change hmem htask
  rcases mem_changes_replace.mp hmem with hmem | rfl
  · exact h change hmem htask
  · exact hnew htask

lemma Reached.replace (h : s.Reached t' stage) (hne : t ≠ t') :
    (s.replace t m write).Reached t' stage := by
  have hunchanged : ∀ kind, s.Unchanged t' kind → (s.replace t m write).Unchanged t' kind :=
    fun kind h => h.replace fun heq => absurd heq hne
  have hready : ∀ m', s.Ready t' m' → (s.replace t m write).Ready t' m' := by
    rintro ⟨_ | _, path, value⟩ ⟨hdelete, hcreate⟩
    · exact ⟨hunchanged _ hdelete, hunchanged _ hcreate⟩
    · exact ⟨hunchanged _ hdelete, Created.replace hcreate⟩
  cases stage with
  | idle | findingZone => exact ⟨hunchanged _ h.1, hunchanged _ h.2⟩
  | acquiring m' | reading m' | answered m' | writing m' => exact hready m' h
  | written m' => exact fun hkind => ⟨hunchanged _ (h hkind).1, (h hkind).2.replace⟩
  | holding => exact ⟨hunchanged _ h.1, h.2.replace⟩
  | ended => trivial

/-- A task that is ready has not made the change that it is about to make. -/
lemma Ready.unchanged (h : s.Ready t m) : s.Unchanged t m.kind := by
  obtain ⟨kind, path, value⟩ := m
  cases kind with
  | create => exact h.2
  | delete => exact h.1

lemma Accounted.replace (h : s.Accounted) (hready : s.Ready t m) :
    ((s.replace t m write).goto t (.written m)).Accounted := by
  constructor
  · change ((s.changes ++ [_]).map _).Nodup
    rw [List.map_append, List.nodup_append]
    refine ⟨h.once, List.nodup_singleton _, ?_⟩
    intro key hkey key' hkey' heq
    obtain ⟨change, hmem, rfl⟩ := List.mem_map.mp hkey
    rw [List.map_singleton, List.mem_singleton] at hkey'
    obtain ⟨htask, hkind⟩ := Prod.mk.inj (heq.trans hkey')
    exact hready.unchanged change hmem htask hkind
  · intro change hmem hkind
    rcases mem_changes_replace.mp hmem with hmem | rfl
    · exact (h.created change hmem hkind).replace
    · refine Created.replace (s := s) ?_
      obtain ⟨kind, path, value⟩ := m
      cases hkind
      exact hready.2
  · intro t'
    by_cases hne : t' = t
    · subst hne
      rw [stage_goto]
      intro hkind
      refine ⟨hready.1.replace fun _ heq => ?_, write.record, mem_changes_replace.mpr (Or.inr ?_)⟩
      · rw [hkind] at heq
        cases heq
      · rw [← hkind]
    · rw [stage_goto_of_ne hne]
      exact (h.reached t').replace (Ne.symm hne)

end Replace

lemma Accounted.step (h : s.Accounted) (hs : s.step (t, e) = some s') : s'.Accounted := by
  rcases step_cases hs with ⟨m, write, hwriting, rfl⟩ | ⟨he, stage, hmoves, rfl⟩
  · have hready := h.reached t
    rw [hwriting] at hready
    exact h.replace hready
  · refine ⟨h.once, h.created, fun t' => ?_⟩
    by_cases hne : t' = t
    · rw [hne, stage_goto]
      exact hmoves.reached he (h.reached t)
    · rw [stage_goto_of_ne hne]
      exact h.reached t'

/-! ## The records of a name -/

/-- The records that the changes of a kind have added to a name, or removed from it. -/
def recordsOf (s : GoDaddyAccount) (kind : MutationKind) (path : TxtPath) :
    Multiset GoDaddyRecord :=
  (s.changes.filter fun change => change.mutation.kind = kind ∧ change.mutation.path = path).map
    (·.record)

lemma recordsOf_replace {m : Mutation} {write : RecordWrite} {kind : MutationKind}
    {path : TxtPath} : (s.replace t m write).recordsOf kind path =
      s.recordsOf kind path + if m.kind = kind ∧ m.path = path then {write.record} else 0 := by
  rw [recordsOf, replace, List.filter_append, List.map_append, ← Multiset.coe_add, recordsOf]
  congr 1
  by_cases hm : m.kind = kind ∧ m.path = path <;> simp [hm]

/-- The records of each name are the initial ones with those that were created and without those
that were deleted. -/
structure Balanced (initial : TxtPath → List GoDaddyRecord) (s : GoDaddyAccount) : Prop where
  balance : ∀ path, (s.zone path : Multiset GoDaddyRecord) + s.recordsOf .delete path =
    initial path + s.recordsOf .create path
  created : ∀ change ∈ s.changes, change.mutation.kind = .create →
    change.record = ⟨change.mutation.value, dnsRecordTtl⟩
  deleted : ∀ change ∈ s.changes, change.mutation.kind = .delete →
    change.record.data = change.mutation.value
  others : ∀ path, (∀ change ∈ s.changes, change.mutation.path ≠ path) →
    s.zone path = initial path

lemma balanced_start : (start initial).Balanced initial where
  balance _ := rfl
  created _ hmem := absurd hmem List.not_mem_nil
  deleted _ hmem := absurd hmem List.not_mem_nil
  others _ _ := rfl

lemma Balanced.replace (h : s.Balanced initial) {m : Mutation} {write : RecordWrite}
    {records : List GoDaddyRecord} (hread : records.Perm (s.zone m.path))
    (hwrite : m.write records = some write) : (s.replace t m write).Balanced initial := by
  have hread' : (records : Multiset GoDaddyRecord) = s.zone m.path := Multiset.coe_eq_coe.mpr hread
  constructor
  · intro path
    by_cases hpath : m.path = path
    · subst hpath
      have hzone : (s.replace t m write).zone m.path = write.request.records :=
        Function.update_self _ _ _
      rw [hzone, recordsOf_replace, recordsOf_replace]
      cases hkind : m.kind with
      | create =>
        obtain ⟨-, hrecords⟩ := write_create hkind hwrite
        have hbalance := h.balance m.path
        rw [hrecords, ← Multiset.coe_add, hread', Multiset.coe_singleton]
        simp only [reduceCtorEq, false_and, if_false, add_zero, and_self, if_true]
        rw [← add_assoc, ← hbalance, add_right_comm]
      | delete =>
        obtain ⟨-, before, after, hrecords, hrest, -⟩ := write_delete hkind hwrite
        have hbalance := h.balance m.path
        have hzone' : (s.zone m.path : Multiset GoDaddyRecord) =
            (before ++ after : List GoDaddyRecord) + {write.record} := by
          rw [← hread', hrecords, ← Multiset.coe_singleton, Multiset.coe_add, Multiset.coe_eq_coe]
          exact List.perm_middle.trans (List.perm_append_singleton _ _).symm
        rw [hrest]
        simp only [reduceCtorEq, false_and, if_false, add_zero, and_self, if_true]
        rw [← hbalance, hzone', add_right_comm, add_assoc]
    · have hzone : (s.replace t m write).zone path = s.zone path :=
        Function.update_of_ne (Ne.symm hpath) _ _
      rw [hzone, recordsOf_replace, recordsOf_replace]
      simp only [hpath, and_false, if_false, add_zero]
      exact h.balance path
  · intro change hmem hkind
    rcases mem_changes_replace.mp hmem with hmem | rfl
    · exact h.created change hmem hkind
    · exact (write_create hkind hwrite).1
  · intro change hmem hkind
    rcases mem_changes_replace.mp hmem with hmem | rfl
    · exact h.deleted change hmem hkind
    · exact (write_delete hkind hwrite).1
  · intro path hothers
    have hpath : m.path ≠ path := hothers _ (mem_changes_replace.mpr (Or.inr rfl))
    have hzone : (s.replace t m write).zone path = s.zone path :=
      Function.update_of_ne (Ne.symm hpath) _ _
    rw [hzone]
    exact h.others path fun change hmem => hothers change (mem_changes_replace.mpr (Or.inl hmem))

/-! ## The initial values -/

/-- The tasks that have made changes of a kind to a name, with their values. -/
def tasksOf (s : GoDaddyAccount) (kind : MutationKind) (path : TxtPath) :
    Multiset (ℕ × String) :=
  (s.changes.filter fun change => change.mutation.kind = kind ∧ change.mutation.path = path).map
    fun change => (change.task, change.mutation.value)

lemma mem_tasksOf {kind : MutationKind} {path : TxtPath} {value : String} :
    (t, value) ∈ s.tasksOf kind path ↔ ∃ record, ⟨t, ⟨kind, path, value⟩, record⟩ ∈ s.changes := by
  rw [tasksOf, Multiset.mem_coe, List.mem_map]
  constructor
  · rintro ⟨⟨task, ⟨kind', path', value'⟩, record⟩, hmem, heq⟩
    obtain ⟨hin, hof⟩ := List.mem_filter.mp hmem
    obtain ⟨rfl, rfl⟩ := of_decide_eq_true hof
    cases heq
    exact ⟨record, hin⟩
  · rintro ⟨record, hmem⟩
    exact ⟨_, List.mem_filter.mpr ⟨hmem, by simp⟩, rfl⟩

lemma Accounted.nodup_tasksOf (h : s.Accounted) (kind : MutationKind) (path : TxtPath) :
    (s.tasksOf kind path).Nodup := by
  rw [tasksOf, Multiset.coe_nodup]
  set changes := s.changes.filter fun change =>
    change.mutation.kind = kind ∧ change.mutation.path = path with hchanges
  have honce : (changes.map fun change => (change.task, change.mutation.kind)).Nodup :=
    h.once.sublist (List.filter_sublist.map _)
  have hkind : (changes.map fun change => (change.task, change.mutation.kind)) =
      (changes.map (·.task)).map (·, kind) := by
    rw [List.map_map]
    refine List.map_congr_left fun change hmem => Prod.ext rfl ?_
    exact (of_decide_eq_true (List.mem_filter.mp hmem).2).1
  rw [hkind] at honce
  refine List.Nodup.of_map Prod.fst ?_
  rw [List.map_map]
  exact honce.of_map

/-- Of the values of a name, those that were deleted are among those that were created. -/
lemma Accounted.tasksOf_delete_le (h : s.Accounted) (path : TxtPath) :
    s.tasksOf .delete path ≤ s.tasksOf .create path := by
  refine (Multiset.le_iff_subset (h.nodup_tasksOf _ _)).mpr ?_
  rintro ⟨t, value⟩ hmem
  obtain ⟨record, hmem⟩ := mem_tasksOf.mp hmem
  exact mem_tasksOf.mpr (h.created _ hmem rfl)

lemma Balanced.map_data_recordsOf (h : s.Balanced initial) (kind : MutationKind) (path : TxtPath) :
    (s.recordsOf kind path).map (·.data) = (s.tasksOf kind path).map (·.2) := by
  rw [recordsOf, tasksOf, Multiset.map_coe, Multiset.map_coe, List.map_map, List.map_map]
  refine congrArg _ (List.map_congr_left fun change hmem => ?_)
  obtain ⟨hin, hof⟩ := List.mem_filter.mp hmem
  obtain ⟨hkind, -⟩ := of_decide_eq_true hof
  cases kind with
  | create => exact congrArg GoDaddyRecord.data (h.created change hin hkind)
  | delete => exact h.deleted change hin hkind

/-- The values that are there are the initial ones and those that were created and not deleted. -/
lemma map_data_zone (hbalanced : s.Balanced initial) (haccounted : s.Accounted) (path : TxtPath) :
    (s.zone path : Multiset GoDaddyRecord).map (·.data) =
      (initial path : Multiset GoDaddyRecord).map (·.data) +
        (s.tasksOf .create path - s.tasksOf .delete path).map (·.2) := by
  have hbalance := congrArg (Multiset.map (·.data)) (hbalanced.balance path)
  have hcreate : (s.tasksOf .create path - s.tasksOf .delete path).map (·.2) +
      (s.tasksOf .delete path).map (·.2) = (s.tasksOf .create path).map (·.2) := by
    rw [← Multiset.map_add, Multiset.sub_add_cancel (haccounted.tasksOf_delete_le path)]
  rw [Multiset.map_add, Multiset.map_add, hbalanced.map_data_recordsOf,
    hbalanced.map_data_recordsOf, ← hcreate, ← add_assoc] at hbalance
  exact add_right_cancel hbalance

/-- The task that deletes a record is one of those that have created it and have not deleted it. -/
lemma Accounted.mem_sub (h : s.Accounted) {m : Mutation} (hready : s.Ready t m)
    (hkind : m.kind = .delete) :
    (t, m.value) ∈ s.tasksOf .create m.path - s.tasksOf .delete m.path := by
  obtain ⟨kind, path, value⟩ := m
  cases hkind
  refine (Multiset.mem_sub_of_nodup (h.nodup_tasksOf _ _)).mpr ⟨mem_tasksOf.mpr hready.2, ?_⟩
  intro hdeleted
  obtain ⟨record, hmem⟩ := mem_tasksOf.mp hdeleted
  exact hready.1 _ hmem rfl rfl

/-! ## Runs -/

structure Invariant (R : List GoDaddyRecord → List GoDaddyRecord → Prop)
    (initial : TxtPath → List GoDaddyRecord) (s : GoDaddyAccount) : Prop where
  gated : s.Gated
  snapshots : s.Snapshots R
  accounted : s.Accounted
  balanced : s.Balanced initial

lemma invariant_start : (start initial).Invariant R initial where
  gated := ⟨none, rfl, fun _ => by simp [start, RecordStage.permit]⟩
  snapshots := ⟨fun _ _ _ h => (nomatch h), fun _ _ _ h => (nomatch h)⟩
  accounted :=
    { once := List.nodup_nil
      created := fun _ hmem => absurd hmem List.not_mem_nil
      reached := fun _ => ⟨fun _ hmem => absurd hmem List.not_mem_nil,
        fun _ hmem => absurd hmem List.not_mem_nil⟩ }
  balanced := balanced_start

lemma Invariant.step (hR : ∀ records zone, R records zone → records.Perm zone)
    (h : s.Invariant R initial) (hs : s.step (t, e) = some s') (hok : s.AnswersBy R (t, e)) :
    s'.Invariant R initial where
  gated := h.gated.step hs
  snapshots := h.snapshots.step h.gated hs hok
  accounted := h.accounted.step hs
  balanced := by
    rcases step_cases hs with ⟨m, write, hwriting, rfl⟩ | ⟨-, stage, -, rfl⟩
    · obtain ⟨records, hread, hwrite⟩ := h.snapshots.writing t m write hwriting
      have hnew : (s.replace t m write).Balanced initial :=
        h.balanced.replace (hR records _ hread) hwrite
      exact ⟨hnew.balance, hnew.created, hnew.deleted, hnew.others⟩
    · exact ⟨h.balanced.balance, h.balanced.created, h.balanced.deleted, h.balanced.others⟩

/-- **No record gets lost**: every record beyond the initial ones was created by one task and not
deleted by it, and the initial values are all there. -/
structure Lossless (initial : TxtPath → List GoDaddyRecord) (s : GoDaddyAccount) : Prop
    extends s.Balanced initial where
  once : (s.changes.map fun change => (change.task, change.mutation.kind)).Nodup
  own : ∀ change ∈ s.changes, change.mutation.kind = .delete →
    s.Created change.task change.mutation.path change.mutation.value
  values : ∀ path, (initial path : Multiset GoDaddyRecord).map (·.data) ≤
    (s.zone path : Multiset GoDaddyRecord).map (·.data)

lemma Invariant.lossless (h : s.Invariant R initial) : s.Lossless initial where
  toBalanced := h.balanced
  once := h.accounted.once
  own := h.accounted.created
  values path := by
    rw [map_data_zone h.balanced h.accounted path]
    exact Multiset.le_add_right _ _

/-- The provider lists the records of a name in the order in which they were put. -/
def KeepsOrder : GoDaddyAccount → ℕ × RecordEvent → Prop := AnswersBy (· = ·)

instance (s : GoDaddyAccount) (e : ℕ × RecordEvent) : Decidable (s.KeepsOrder e) := by
  unfold KeepsOrder AnswersBy
  split <;> infer_instance

/-- The initial records stand unchanged in front of the created ones. -/
def Extends (initial : TxtPath → List GoDaddyRecord) (s : GoDaddyAccount) : Prop :=
  ∀ path, ∃ added, s.zone path = initial path ++ added ∧
    ∀ record ∈ added, record.ttl = dnsRecordTtl

/-- A value that stands behind the initial records is deleted there. -/
lemma exists_append_of_last {xs added before after : List GoDaddyRecord} {record : GoDaddyRecord}
    (heq : xs ++ added = before ++ record :: after)
    (hafter : ∀ other ∈ after, other.data ≠ record.data)
    (hadded : record.data ∈ added.map (·.data)) :
    ∃ mid, before = xs ++ mid ∧ added = mid ++ record :: after := by
  rcases List.append_eq_append_iff.mp heq with ⟨mid, hbefore, hadded'⟩ | ⟨rest, hxs, hrest⟩
  · exact ⟨mid, hbefore, hadded'⟩
  · cases rest with
    | nil => exact ⟨[], by simpa using hxs.symm, by simpa using hrest.symm⟩
    | cons first rest =>
      obtain ⟨-, rfl⟩ := List.cons.inj hrest
      obtain ⟨other, hmem, hdata⟩ := List.mem_map.mp hadded
      exact absurd hdata (hafter other (List.mem_append_right _ hmem))

/-- A record that is deleted stands behind the initial ones. -/
lemma Extends.write_delete {m : Mutation} {write : RecordWrite} (h : s.Extends initial)
    (hinv : s.Invariant (· = ·) initial) (hwriting : s.stage t = .writing m write)
    (hkind : m.kind = .delete) : ∃ mid after,
      s.zone m.path = initial m.path ++ (mid ++ write.record :: after) ∧
      write.request.records = initial m.path ++ (mid ++ after) ∧
      ∀ record ∈ mid ++ write.record :: after, record.ttl = dnsRecordTtl := by
  obtain ⟨_, rfl, hwrite⟩ := hinv.snapshots.writing t m write hwriting
  obtain ⟨added, hadded, httl⟩ := h m.path
  obtain ⟨hdata, before, after, hrecords, hrest, hafter⟩ := Proxy.write_delete hkind hwrite
  have hready : s.Ready t m := by
    have hreached := hinv.accounted.reached t
    rwa [hwriting] at hreached
  -- the value has been created, so it stands behind the initial records
  have hvalue : write.record.data ∈ added.map (·.data) := by
    have hvalues := map_data_zone hinv.balanced hinv.accounted m.path
    rw [hadded, ← Multiset.coe_add, Multiset.map_add] at hvalues
    have hcreated := Multiset.mem_map_of_mem Prod.snd (hinv.accounted.mem_sub hready hkind)
    rw [← add_left_cancel hvalues] at hcreated
    rw [hdata]
    exact hcreated
  have hafter' : ∀ other ∈ after, other.data ≠ write.record.data :=
    fun other hmem => hdata ▸ hafter other hmem
  obtain ⟨mid, rfl, rfl⟩ := exists_append_of_last (hadded.symm.trans hrecords) hafter' hvalue
  exact ⟨mid, after, hadded, by rw [hrest, List.append_assoc], httl⟩

lemma Extends.step (h : s.Extends initial) (hinv : s.Invariant (· = ·) initial)
    (hs : s.step (t, e) = some s') : s'.Extends initial := by
  rcases step_cases hs with ⟨m, write, hwriting, rfl⟩ | ⟨-, stage, -, rfl⟩
  · intro path
    by_cases hpath : path = m.path
    · subst hpath
      have hzone : ((s.replace t m write).goto t (.written m)).zone m.path =
          write.request.records := Function.update_self _ _ _
      rw [hzone]
      cases hkind : m.kind with
      | create =>
        obtain ⟨_, rfl, hwrite⟩ := hinv.snapshots.writing t m write hwriting
        obtain ⟨added, hadded, httl⟩ := h m.path
        obtain ⟨hrecord, hrecords⟩ := write_create hkind hwrite
        refine ⟨added ++ [write.record], ?_, ?_⟩
        · rw [hrecords, hadded, List.append_assoc]
        · intro record hmem
          rcases List.mem_append.mp hmem with hmem | hmem
          · exact httl record hmem
          · rw [List.mem_singleton.mp hmem, hrecord]
      | delete =>
        obtain ⟨mid, after, -, hrest, httl⟩ := h.write_delete hinv hwriting hkind
        refine ⟨mid ++ after, hrest, fun record hmem => httl record ?_⟩
        rcases List.mem_append.mp hmem with hmem | hmem
        · exact List.mem_append_left _ hmem
        · exact List.mem_append_right _ (List.mem_cons_of_mem _ hmem)
    · have hzone : ((s.replace t m write).goto t (.written m)).zone path = s.zone path :=
        Function.update_of_ne hpath _ _
      rw [hzone]
      exact h path
  · exact h

/-! ### The times to live -/

/-- Every record that was put or deleted has the time to live of `create_txt`. -/
def OwnTtl (s : GoDaddyAccount) : Prop := ∀ change ∈ s.changes, change.record.ttl = dnsRecordTtl

lemma OwnTtl.step (h : s.OwnTtl) (hextends : s.Extends initial)
    (hinv : s.Invariant (· = ·) initial) (hs : s.step (t, e) = some s') : s'.OwnTtl := by
  rcases step_cases hs with ⟨m, write, hwriting, rfl⟩ | ⟨-, stage, -, rfl⟩
  · intro change hmem
    rcases mem_changes_replace.mp hmem with hmem | rfl
    · exact h change hmem
    · cases hkind : m.kind with
      | create =>
        obtain ⟨records, -, hwrite⟩ := hinv.snapshots.writing t m write hwriting
        exact congrArg GoDaddyRecord.ttl (write_create hkind hwrite).1
      | delete =>
        obtain ⟨mid, after, -, -, httl⟩ := hextends.write_delete hinv hwriting hkind
        exact httl write.record (List.mem_append_right _ List.mem_cons_self)
  · exact h

/-- The records with their times to live are the initial ones with one of 600 seconds for each
creation, and without one of 600 seconds with the same value for each deletion. -/
def Matched (initial : TxtPath → List GoDaddyRecord) (s : GoDaddyAccount) : Prop :=
  ∀ path, (s.zone path : Multiset GoDaddyRecord) +
      (s.tasksOf .delete path).map (fun task => (⟨task.2, dnsRecordTtl⟩ : GoDaddyRecord)) =
    (initial path : Multiset GoDaddyRecord) +
      (s.tasksOf .create path).map fun task => (⟨task.2, dnsRecordTtl⟩ : GoDaddyRecord)

lemma Balanced.matched (h : s.Balanced initial) (httl : s.OwnTtl) : s.Matched initial := by
  have hrecords : ∀ kind path, s.recordsOf kind path =
      (s.tasksOf kind path).map fun task => ⟨task.2, dnsRecordTtl⟩ := by
    intro kind path
    rw [recordsOf, tasksOf, Multiset.map_coe, List.map_map]
    refine congrArg _ (List.map_congr_left fun change hmem => ?_)
    obtain ⟨hin, hof⟩ := List.mem_filter.mp hmem
    obtain ⟨hkind, -⟩ := of_decide_eq_true hof
    have hdata : change.record.data = change.mutation.value := by
      cases kind with
      | create => rw [h.created change hin hkind]
      | delete => exact h.deleted change hin hkind
    calc
      change.record = ⟨change.record.data, change.record.ttl⟩ := rfl
      _ = ⟨change.mutation.value, dnsRecordTtl⟩ := by rw [hdata, httl change hin]
  intro path
  rw [← hrecords, ← hrecords]
  exact h.balance path

/-- **The changes of the tasks that share the permit of an account are lossless**: whatever the
tasks do at once and wherever they are dropped, each record that was put stays until the task that
has created it deletes it, and the initial values stay.  A deletion goes by the value and takes the
last record with it, whatever its time to live.  With a provider that lists the records in their
order this is one of 600 seconds, and the initial records themselves stay. -/
theorem records_lossless (initial : TxtPath → List GoDaddyRecord) :
    (∀ (gates : HashMap String Nat) (id : String) (between : List String),
      (gateFor (between.foldl (fun gates other => (gateFor gates other).2)
        (gateFor gates id).2) id).1 = (gateFor gates id).1) ∧
    (∀ s, Reach step Always (start initial) s → s.Lossless initial) ∧
    ∀ s, Reach step KeepsOrder (start initial) s → s.Extends initial ∧ s.Matched initial := by
  refine ⟨gateFor_shared, fun s h => ?_, fun s h => ?_⟩
  · refine Invariant.lossless (R := List.Perm) (h.invariant invariant_start ?_)
    rintro s ⟨t, e⟩ s' hinv - hs
    exact hinv.step (fun _ _ => id) hs (answersBy_perm hs)
  · have hstart : (start initial).Extends initial := fun path => ⟨[], by simp [start], by simp⟩
    have hinv : s.Invariant (· = ·) initial ∧ s.Extends initial ∧ s.OwnTtl := by
      refine h.invariant
        (I := fun s => s.Invariant (· = ·) initial ∧ s.Extends initial ∧ s.OwnTtl)
        ⟨invariant_start, hstart, fun _ hmem => absurd hmem List.not_mem_nil⟩ ?_
      rintro s ⟨t, e⟩ s' ⟨hinv, hextends, httl⟩ hok hs
      exact ⟨hinv.step (fun _ _ heq => heq ▸ List.Perm.refl _) hs hok, hextends.step hinv hs,
        httl.step hextends hinv hs⟩
    exact ⟨hinv.2.1, hinv.1.balanced.matched hinv.2.2⟩

/-- The names of a zone with one record, whose value the tasks will create again. -/
def sampleZone : TxtPath → List GoDaddyRecord :=
  Function.update (fun _ => []) ⟨"example.com", "_acme-challenge"⟩ [⟨"token", 3600⟩]

/-- Two tasks create the value; the first deletes it while the second is inside the permit, and the
second is dropped after the provider has put its record. -/
def sampleRun : List (ℕ × RecordEvent) :=
  [(0, .createTxt "_acme-challenge.example.com" "token"),
    (1, .createTxt "_acme-challenge.example.com" "token"),
    (0, .domains ["other.org", "example.com"]), (1, .domains ["example.com"]),
    (0, .acquire), (0, .getTxt (some [⟨"token", 3600⟩])), (0, .send), (0, .effect), (0, .finish),
    (1, .acquire), (0, .deleteTxt),
    (1, .getTxt (some [⟨"token", 3600⟩, ⟨"token", 600⟩])), (1, .send), (1, .effect), (1, .abandon),
    (0, .acquire),
    (0, .getTxt (some [⟨"token", 3600⟩, ⟨"token", 600⟩, ⟨"token", 600⟩])), (0, .send), (0, .effect),
    (0, .finish)]

/-- In this run the record of the second task stays beside the initial one. -/
theorem sampleRun_lossless : ∃ s, Reach step KeepsOrder (start sampleZone) s ∧
    s.zone ⟨"example.com", "_acme-challenge"⟩ = [⟨"token", 3600⟩, ⟨"token", 600⟩] ∧
    s.Lossless sampleZone ∧ s.Extends sampleZone ∧ s.Matched sampleZone := by
  have hexec : (exec step KeepsOrder (start sampleZone) sampleRun).map
      (fun s => s.zone ⟨"example.com", "_acme-challenge"⟩) =
        some [⟨"token", 3600⟩, ⟨"token", 600⟩] := by decide +kernel
  obtain ⟨s, hs, hzone⟩ := Option.map_eq_some_iff.mp hexec
  have hreach := reach_of_exec hs
  obtain ⟨-, hlossless, hextends⟩ := records_lossless sampleZone
  exact ⟨s, hreach, hzone, hlossless s (hreach.mono fun _ _ _ => trivial), hextends s hreach⟩

end GoDaddyAccount

end GateRust.Proxy
