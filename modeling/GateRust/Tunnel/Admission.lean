/-
# Connections that wait for their authentication

`accept_connections` takes a connection only with two permits: one of the address it comes from,
of which an address has four, and one of the 32 that all addresses share.  The task of the
connection holds the two until the client is authenticated or the task ends, at whatever point
that is.  The loop and the tasks run beside each other, so the permits are taken and given back
one by one.
-/
import Mathlib.Algebra.Order.BigOperators.Group.Finset
import Mathlib.Data.List.Perm.Basic
import GateRust.Lib.HashMap
import GateRust.Lib.Machine
import GateRust.Tunnel.Config

namespace GateRust.Tunnel

open Machine

def maxPendingAuthentications : ℕ := 32

def maxPendingAuthenticationsPerIp : ℕ := 4

/-! ## The permits of an address -/

structure PeerAdmission where
  active : HashMap IpAddr ℕ

namespace PeerAdmission

/-- The count of an address, none as long as it has no entry. -/
def count (a : PeerAdmission) (address : IpAddr) : ℕ := (a.active.lookup address).getD 0

def tryAcquire (a : PeerAdmission) (address : IpAddr) : Bool × PeerAdmission :=
  -- `entry(address).or_default()` leaves an entry also when the permit is refused
  if maxPendingAuthenticationsPerIp ≤ a.count address then
    (false, ⟨a.active.insert address (a.count address)⟩)
  else (true, ⟨a.active.insert address (a.count address + 1)⟩)

/-- `drop` of a `PeerAdmissionPermit`. -/
def dropPermit (a : PeerAdmission) (address : IpAddr) : PeerAdmission :=
  match a.active.lookup address with
  | some count =>
    if count - 1 = 0 then ⟨a.active.erase address⟩ else ⟨a.active.insert address (count - 1)⟩
  | none => a

/-- No address is remembered with a count of zero. -/
def Trimmed (a : PeerAdmission) : Prop := ∀ address, a.active.lookup address ≠ some 0

variable {a : PeerAdmission} {address other : IpAddr}

lemma count_tryAcquire (a : PeerAdmission) (address other : IpAddr) :
    (a.tryAcquire address).2.count other =
      a.count other + if (a.tryAcquire address).1 ∧ other = address then 1 else 0 := by
  unfold tryAcquire
  by_cases hsame : other = address
  · subst hsame
    split <;> simp [count]
  · split <;> simp [count, hsame]

lemma tryAcquire_iff : (a.tryAcquire address).1 = true ↔
    a.count address < maxPendingAuthenticationsPerIp := by
  unfold tryAcquire
  split <;> simp_all

lemma Trimmed.tryAcquire (h : a.Trimmed) (address : IpAddr) : (a.tryAcquire address).2.Trimmed := by
  intro other
  unfold PeerAdmission.tryAcquire
  split
  case isTrue hfull =>
    rw [AList.lookup_insert_eq]
    split
    · exact fun hzero => absurd (Option.some.inj hzero ▸ hfull) (by decide)
    · exact h other
  case isFalse =>
    rw [AList.lookup_insert_eq]
    split
    · simp
    · exact h other

lemma count_dropPermit (h : 0 < a.count address) :
    (a.dropPermit address).count other + (if other = address then 1 else 0) = a.count other := by
  unfold dropPermit
  cases hlookup : a.active.lookup address with
  | none =>
    rw [count, hlookup] at h
    cases h
  | some n =>
    have hn : a.count address = n := by rw [count, hlookup]; rfl
    rw [hn] at h
    by_cases hlast : n - 1 = 0
    · simp only [if_pos hlast, count, AList.lookup_erase_eq]
      by_cases hsame : other = address
      · subst hsame
        simp only [if_pos, hlookup, Option.getD_none, Option.getD_some]
        omega
      · simp only [if_neg hsame, Nat.add_zero]
    · simp only [if_neg hlast, count, AList.lookup_insert_eq]
      by_cases hsame : other = address
      · subst hsame
        simp only [if_pos, hlookup, Option.getD_some]
        omega
      · simp only [if_neg hsame, Nat.add_zero]

lemma Trimmed.dropPermit (h : a.Trimmed) (address : IpAddr) : (a.dropPermit address).Trimmed := by
  intro other
  unfold PeerAdmission.dropPermit
  cases hlookup : a.active.lookup address with
  | none => exact h other
  | some n =>
    by_cases hlast : n - 1 = 0
    · simp only [if_pos hlast, AList.lookup_erase_eq]
      split
      · simp
      · exact h other
    · simp only [if_neg hlast, AList.lookup_insert_eq]
      split
      · simpa using hlast
      · exact h other

end PeerAdmission

/-! ## The loop and the tasks -/

/-- The permits of a connection that has not given back all of them. -/
inductive Held where
  | both
  /-- The shared permit is given back first. -/
  | peer
deriving DecidableEq, Repr

/-- A connection that holds permits. -/
structure Holder where
  remote : IpAddr
  held : Held
deriving DecidableEq, Repr

/-- Where the loop of `accept_connections` stands. -/
inductive Accepting where
  | waiting
  /-- The permit of the address is taken. -/
  | peerAcquired (remote : IpAddr)
  /-- Both are taken, and `accept_with` follows. -/
  | acquired (remote : IpAddr)
  /-- The connection is given up, and its permits are dropped. -/
  | dropping (holder : Holder)
deriving DecidableEq, Repr

/-- The permits that the loop has taken itself. -/
def Accepting.holders : Accepting → List Holder
  | .waiting => []
  | .peerAcquired remote => [⟨remote, .peer⟩]
  | .acquired remote => [⟨remote, .both⟩]
  | .dropping holder => [holder]

structure Admission where
  peerAdmission : PeerAdmission
  /-- The permits that the semaphore has left. -/
  authenticationPermits : ℕ
  accepting : Accepting
  tasks : List Holder

inductive AdmissionEvent where
  | incoming (remote : IpAddr) (validated : Bool)
  | acquireShared
  | acceptWith (accepted : Bool)
  | dropIncoming
  /-- A task gives back the next of its permits: its client is authenticated, or it ends. -/
  | dropAdmission (task : ℕ)
deriving DecidableEq, Repr

namespace Admission

def new : Admission := ⟨⟨∅⟩, maxPendingAuthentications, .waiting, []⟩

/-- The next permit of the holder is given back, and what is left of the holder. -/
def release (s : Admission) (holder : Holder) : Admission × Option Holder :=
  match holder.held with
  | .both => ({ s with authenticationPermits := s.authenticationPermits + 1 },
      some { holder with held := .peer })
  | .peer => ({ s with peerAdmission := s.peerAdmission.dropPermit holder.remote }, none)

def step (s : Admission) : AdmissionEvent → Option Admission
  | .incoming remote validated =>
    match s.accepting with
    | .waiting =>
      -- an address that is not validated gets a retry packet
      if validated then
        let (acquired, peerAdmission) := s.peerAdmission.tryAcquire remote
        some { s with
          peerAdmission := peerAdmission
          accepting := if acquired then .peerAcquired remote else .waiting }
      else some s
    | _ => none
  | .acquireShared =>
    match s.accepting with
    | .peerAcquired remote =>
      if s.authenticationPermits = 0 then some { s with accepting := .dropping ⟨remote, .peer⟩ }
      else some { s with
        authenticationPermits := s.authenticationPermits - 1, accepting := .acquired remote }
    | _ => none
  | .acceptWith accepted =>
    match s.accepting with
    | .acquired remote =>
      if accepted then
        some { s with accepting := .waiting, tasks := s.tasks ++ [⟨remote, .both⟩] }
      else some { s with accepting := .dropping ⟨remote, .both⟩ }
    | _ => none
  | .dropIncoming =>
    match s.accepting with
    | .dropping holder =>
      let (s, rest) := s.release holder
      some { s with accepting := match rest with
        | some holder => .dropping holder
        | none => .waiting }
    | _ => none
  | .dropAdmission task =>
    match s.tasks[task]? with
    | some holder =>
      let (s, rest) := s.release holder
      some { s with tasks := match rest with
        | some holder => s.tasks.set task holder
        | none => s.tasks.eraseIdx task }
    | none => none

/-! ## What the counts say -/

/-- The counts of the addresses and of the semaphore are those of the holders. -/
structure Balanced (peerAdmission : PeerAdmission) (permits : ℕ) (holders : List Holder) :
    Prop where
  trimmed : peerAdmission.Trimmed
  peers : ∀ address, peerAdmission.count address = (holders.map (·.remote)).count address
  atMost : ∀ address, peerAdmission.count address ≤ maxPendingAuthenticationsPerIp
  shared : permits + holders.countP (·.held = .both) = maxPendingAuthentications

namespace Balanced

variable {a : PeerAdmission} {permits : ℕ} {holders holders' : List Holder} {remote : IpAddr}

lemma perm (h : Balanced a permits holders) (hperm : holders.Perm holders') :
    Balanced a permits holders' where
  trimmed := h.trimmed
  peers address := (h.peers address).trans ((hperm.map _).count_eq address)
  atMost := h.atMost
  shared := by rw [← hperm.countP_eq]; exact h.shared

lemma acquirePeer (h : Balanced a permits holders) (hacquired : (a.tryAcquire remote).1 = true) :
    Balanced (a.tryAcquire remote).2 permits (⟨remote, .peer⟩ :: holders) where
  trimmed := h.trimmed.tryAcquire remote
  peers address := by
    rw [PeerAdmission.count_tryAcquire, h.peers, List.map_cons, List.count_cons]
    by_cases hsame : address = remote
    · simp [hacquired, hsame]
    · simp [hsame, Ne.symm hsame]
  atMost address := by
    rw [PeerAdmission.count_tryAcquire]
    by_cases hsame : address = remote
    · subst hsame
      simpa [hacquired] using Nat.succ_le_of_lt (PeerAdmission.tryAcquire_iff.mp hacquired)
    · simpa [hsame] using h.atMost address
  shared := by rw [List.countP_cons]; exact h.shared

lemma refusePeer (h : Balanced a permits holders) (hrefused : (a.tryAcquire remote).1 ≠ true) :
    Balanced (a.tryAcquire remote).2 permits holders where
  trimmed := h.trimmed.tryAcquire remote
  peers address := by simp [PeerAdmission.count_tryAcquire, hrefused, h.peers]
  atMost address := by simpa [PeerAdmission.count_tryAcquire, hrefused] using h.atMost address
  shared := h.shared

lemma acquireShared (h : Balanced a permits (⟨remote, .peer⟩ :: holders)) (hleft : permits ≠ 0) :
    Balanced a (permits - 1) (⟨remote, .both⟩ :: holders) where
  trimmed := h.trimmed
  peers := h.peers
  atMost := h.atMost
  shared := by
    have hshared := h.shared
    simp only [List.countP_cons, decide_true, if_true, reduceCtorEq, decide_false,
      Bool.false_eq_true, if_false] at hshared ⊢
    omega

end Balanced

lemma Balanced.release {s : Admission} {holder : Holder} {holders : List Holder}
    (h : Balanced s.peerAdmission s.authenticationPermits (holder :: holders)) :
    Balanced (s.release holder).1.peerAdmission (s.release holder).1.authenticationPermits
      ((s.release holder).2.toList ++ holders) := by
  obtain ⟨remote, held⟩ := holder
  have hshared := h.shared
  cases held with
  | both =>
    refine ⟨h.trimmed, h.peers, h.atMost, ?_⟩
    simp only [Admission.release, Option.toList_some, List.singleton_append, List.countP_cons,
      decide_true, if_true, reduceCtorEq, decide_false, Bool.false_eq_true, if_false] at hshared ⊢
    omega
  | peer =>
    have hpeer : 0 < s.peerAdmission.count remote := by
      rw [h.peers, List.map_cons, List.count_cons_self]
      exact Nat.succ_pos _
    have hcount (address : IpAddr) :
        (s.peerAdmission.dropPermit remote).count address + (if address = remote then 1 else 0) =
          s.peerAdmission.count address := PeerAdmission.count_dropPermit hpeer
    refine ⟨h.trimmed.dropPermit remote, fun address => ?_, fun address => ?_, ?_⟩
    · have hpeers := h.peers address
      rw [← hcount address, List.map_cons, List.count_cons] at hpeers
      simp only [Admission.release, Option.toList_none, List.nil_append]
      simp only [beq_iff_eq, eq_comm (a := remote)] at hpeers
      omega
    · exact (Nat.le_add_right _ _).trans ((hcount address).le.trans (h.atMost address))
    · simpa [Admission.release, List.countP_cons] using hshared

/-! ## Runs -/

variable {s s' : Admission} {event : AdmissionEvent}

/-- The connection of the loop and those of the tasks. -/
def holders (s : Admission) : List Holder := s.accepting.holders ++ s.tasks

def Invariant (s : Admission) : Prop :=
  Balanced s.peerAdmission s.authenticationPermits s.holders

lemma invariant_step (h : s.Invariant) (hstep : s.step event = some s') : s'.Invariant := by
  cases event with
  | incoming remote validated =>
    cases haccepting : s.accepting <;> simp only [step, haccepting, reduceCtorEq] at hstep
    rw [Invariant, holders, haccepting] at h
    cases validated with
    | false =>
      cases hstep
      rwa [Invariant, holders, haccepting]
    | true =>
      cases hstep
      by_cases hacquired : (s.peerAdmission.tryAcquire remote).1 = true
      · simp only [Invariant, holders, hacquired, if_true]
        exact h.acquirePeer hacquired
      · simp only [Invariant, holders, hacquired]
        exact h.refusePeer hacquired
  | acquireShared =>
    cases haccepting : s.accepting <;> simp only [step, haccepting, reduceCtorEq] at hstep
    rw [Invariant, holders, haccepting] at h
    split at hstep
    case isTrue =>
      cases hstep
      exact h
    case isFalse hleft =>
      cases hstep
      exact Balanced.acquireShared h hleft
  | acceptWith accepted =>
    cases haccepting : s.accepting <;> simp only [step, haccepting, reduceCtorEq] at hstep
    rw [Invariant, holders, haccepting] at h
    cases accepted with
    | false =>
      cases hstep
      exact h
    | true =>
      cases hstep
      exact Balanced.perm h (List.perm_append_singleton _ _).symm
  | dropIncoming =>
    cases haccepting : s.accepting with
    | waiting | peerAcquired remote | acquired remote =>
      simp only [step, haccepting, reduceCtorEq] at hstep
    | dropping holder =>
      simp only [step, haccepting, Option.some.injEq] at hstep
      subst hstep
      rw [Invariant, holders, haccepting] at h
      have hreleased := Balanced.release h
      cases hheld : holder.held with
      | both =>
        simp only [release, hheld] at hreleased ⊢
        exact hreleased
      | peer =>
        simp only [release, hheld] at hreleased ⊢
        exact hreleased
  | dropAdmission task =>
    simp only [step] at hstep
    cases htask : s.tasks[task]? with
    | none => simp only [htask, reduceCtorEq] at hstep
    | some holder =>
      simp only [htask, Option.some.injEq] at hstep
      subst hstep
      obtain ⟨hlt, rfl⟩ := List.getElem?_eq_some_iff.mp htask
      have hothers : s.holders.Perm
          (s.tasks[task] :: (s.accepting.holders ++ s.tasks.eraseIdx task)) :=
        ((List.getElem_cons_eraseIdx_perm hlt).symm.append_left _).trans List.perm_middle
      have hreleased := (Balanced.perm h hothers).release
      have hrest (rest : Holder) : (s.accepting.holders ++ s.tasks.set task rest).Perm
          (rest :: (s.accepting.holders ++ s.tasks.eraseIdx task)) :=
        ((List.set_perm_cons_eraseIdx hlt rest).append_left _).trans List.perm_middle
      cases hheld : s.tasks[task].held with
      | both =>
        simp only [release, hheld, Option.toList_some, List.singleton_append] at hreleased ⊢
        exact hreleased.perm (hrest _).symm
      | peer =>
        simp only [release, hheld, Option.toList_none, List.nil_append] at hreleased ⊢
        exact hreleased

lemma invariant_of_reach (h : Reach step Always new s) : s.Invariant := by
  refine h.invariant ⟨fun address => ?_, fun address => rfl, fun address => Nat.zero_le _, rfl⟩
    fun _ _ _ hs _ hstep => invariant_step hs hstep
  rw [new, AList.lookup_empty]
  exact (Option.some_ne_none 0).symm

/-- With at most `k` of each kind there are as many kinds as the length needs. -/
lemma length_le_mul_card {α : Type} [DecidableEq α] {l : List α} {k : ℕ}
    (h : ∀ a, l.count a ≤ k) : l.length ≤ l.toFinset.card * k := by
  rw [← List.sum_toFinset_count_eq_length]
  exact Finset.sum_le_card_nsmul _ _ _ fun a _ => h a

/-- The tasks whose clients are not authenticated yet. -/
def pending (s : Admission) : List Holder := s.tasks.filter (·.held = .both)

lemma Balanced.length_pending {holder : Holder} {peerAdmission : PeerAdmission} {permits : ℕ}
    (h : Balanced peerAdmission permits (holder :: s.tasks)) (hpeer : holder.held = .peer) :
    permits + s.pending.length = maxPendingAuthentications := by
  have hshared := h.shared
  rwa [List.countP_cons_of_neg (by simp [hpeer]), List.countP_eq_length_filter] at hshared

lemma count_pending_le (h : s.Invariant) (address : IpAddr) :
    (s.pending.map (·.remote)).count address ≤ maxPendingAuthenticationsPerIp := by
  have hsublist : (s.pending.map (·.remote)).Sublist (s.holders.map (·.remote)) :=
    (List.filter_sublist.trans (List.sublist_append_right _ _)).map _
  exact (hsublist.count_le address).trans (h.peers address ▸ h.atMost address)

/-- **A client is kept out only by its own address or by many.**  A connection gets no permit of
its address exactly if four connections from there have not given back theirs, and no shared one
exactly if 32 tasks are pending, which then belong to at least eight addresses.  No permit is lost:
when the tasks have given back theirs, all are there again. -/
theorem refused_iff (h : Reach step Always new s) :
    (∀ remote s', s.step (.incoming remote true) = some s' →
      (s'.accepting = .waiting ↔
        (s.tasks.map (·.remote)).count remote = maxPendingAuthenticationsPerIp)) ∧
    (∀ s', s.step .acquireShared = some s' →
      ((∃ holder, s'.accepting = .dropping holder) ↔
        s.pending.length = maxPendingAuthentications) ∧
      (s.pending.length = maxPendingAuthentications →
        8 ≤ (s.pending.map (·.remote)).toFinset.card)) ∧
    (s.accepting = .waiting → s.tasks = [] →
      (∀ address, s.peerAdmission.active.lookup address = none) ∧
        s.authenticationPermits = maxPendingAuthentications) := by
  have hs := invariant_of_reach h
  refine ⟨fun remote s' hstep => ?_, fun s' hstep => ⟨?_, fun hfull => ?_⟩,
    fun hwaiting hnone => ?_⟩
  · cases haccepting : s.accepting <;> simp only [step, haccepting, reduceCtorEq] at hstep
    rw [Invariant, holders, haccepting] at hs
    cases hstep
    have hcount : s.peerAdmission.count remote = (s.tasks.map (·.remote)).count remote :=
      hs.peers remote
    have hatMost := hs.atMost remote
    by_cases hacquired : (s.peerAdmission.tryAcquire remote).1 = true
    · have hlt := PeerAdmission.tryAcquire_iff.mp hacquired
      simp only [hacquired, if_true, reduceCtorEq, false_iff]
      omega
    · have hfull := mt PeerAdmission.tryAcquire_iff.mpr hacquired
      simp only [hacquired, Bool.false_eq_true, if_false, true_iff]
      omega
  · cases haccepting : s.accepting <;> simp only [step, haccepting, reduceCtorEq] at hstep
    rw [Invariant, holders, haccepting] at hs
    have hpending := Balanced.length_pending hs rfl
    split at hstep
    case isTrue hempty =>
      cases hstep
      exact iff_of_true ⟨_, rfl⟩ (by omega)
    case isFalse hleft =>
      cases hstep
      exact iff_of_false (fun ⟨_, h⟩ => by cases h) (by omega)
  · have hle := length_le_mul_card (count_pending_le hs)
    rw [List.length_map, hfull] at hle
    simp only [maxPendingAuthentications, maxPendingAuthenticationsPerIp] at hle
    omega
  · rw [Invariant, holders, hwaiting, hnone] at hs
    refine ⟨fun address => ?_, hs.shared⟩
    have hzero : s.peerAdmission.count address = 0 := hs.peers address
    cases hlookup : s.peerAdmission.active.lookup address with
    | none => rfl
    | some n =>
      rw [PeerAdmission.count, hlookup] at hzero
      exact absurd (hzero ▸ hlookup) (hs.trimmed address)

/-- One address opens four connections, and a fifth one gets no permit. -/
theorem refused_after_four :
    ∃ s, Reach step Always new s ∧ ∀ s', s.step (.incoming (.v4 1) true) = some s' →
      s'.accepting = .waiting := by
  let connection : List AdmissionEvent :=
    [.incoming (.v4 1) true, .acquireShared, .acceptWith true]
  obtain ⟨s, hrun, htasks⟩ : ∃ s, exec step Always new (connection ++ connection ++ connection ++
      connection) = some s ∧ s.tasks.map (·.remote) = List.replicate 4 (.v4 1) :=
    ⟨_, rfl, rfl⟩
  refine ⟨s, reach_of_exec hrun, fun s' hstep => ?_⟩
  refine ((refused_iff (reach_of_exec hrun)).1 (.v4 1) s' hstep).mpr ?_
  rw [htasks]
  decide

end Admission

end GateRust.Tunnel
