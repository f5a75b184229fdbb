/-
# The session task of the server

The part of `authenticate` (`server/mod.rs`) that serves one client, interleaved with the
operations that other sessions, the control plane and the reloads call on the runtime.  An
operation changes the state under the lock and notifies the subscribers afterwards, so the two
are separate steps here, and anything may happen between them.

The client is sent a catalog in the hello, in the answer to each of its service updates, and
whenever the runtime announces a change.  Some operations announce nothing because they believe
that nothing changed; none of these changes a catalog (`catalog_of_revision_eq`).
-/
import GateRust.Lib.Watch
import GateRust.Tunnel.Ownership

namespace GateRust.Tunnel

open Machine RuntimeState

/-! ## The session -/

/-- What the session task writes to the client: the hello, then control messages. -/
inductive ServerFrame where
  | hello (tunnels : List ClientTunnel)
  | control (message : ServerControlMessage)
deriving DecidableEq, Repr

/-- The catalog that a frame carries. -/
def ServerFrame.tunnels : ServerFrame → List ClientTunnel
  | .hello tunnels => tunnels
  | .control (.tunnelSnapshot tunnels) => tunnels
  | .control (.servicesApplied _ tunnels) => tunnels

/-- The frame that the session task is about to write. -/
inductive Reply where
  | hello
  | tunnelSnapshot
  | servicesApplied (requestId : UInt64)
deriving DecidableEq, Repr

def Reply.frame (tunnels : List ClientTunnel) : Reply → ServerFrame
  | .hello => .hello tunnels
  | .tunnelSnapshot => .control (.tunnelSnapshot tunnels)
  | .servicesApplied requestId => .control (.servicesApplied requestId tunnels)

/-- Where the session task is. -/
inductive SessionPhase where
  /-- Before `subscribe`. -/
  | starting
  /-- Before `register`. -/
  | subscribed
  /-- Between a change of the state and its `notify`. -/
  | notifying (reply : Reply)
  /-- Before `borrow_and_update`. -/
  | observing (reply : Reply)
  /-- Before `catalog`. -/
  | reading (reply : Reply)
  /-- In `write_frame`. -/
  | writing (frame : ServerFrame)
  /-- In the `select!`. -/
  | waiting
  | ended
deriving DecidableEq, Repr

structure ServerSession where
  id : SessionId
  runtime : Watch TunnelRuntime
  /-- The version that the receiver of the session has seen. -/
  seen : ℕ
  phase : SessionPhase
  /-- The frames that were written to the client. -/
  written : List ServerFrame

namespace TunnelRuntime

/-- The runtime after a change of its state and before the notification. -/
def unannounced (rt rt' : TunnelRuntime) : TunnelRuntime := { rt' with revision := rt.revision }

/-- The operation that led to `rt'` notifies the subscribers. -/
def notifies (rt rt' : TunnelRuntime) : Bool := rt'.revision ≠ rt.revision

end TunnelRuntime

namespace ServerSession

inductive Event where
  /-- An operation of another task changes the state. -/
  | operate (op : TunnelRuntime.Operation)
  /-- An operation of another task notifies. -/
  | notify
  | subscribe
  | register (deviceId group : String) (credentialDigest : Digest) (connection : Connection)
      (services : List ServiceDeclaration) (now : UInt64)
  /-- The operation of this session notifies. -/
  | notifyOwn
  /-- `borrow_and_update`. -/
  | observe
  /-- `catalog`. -/
  | read
  | write
  /-- A message of the client is read. -/
  | update (requestId : UInt64) (services : List ServiceDeclaration)
  /-- `changed` has returned. -/
  | changed
  /-- The connection, the read or the write ends the session. -/
  | finish

def start (id : SessionId) : ServerSession := ⟨id, ⟨.new, 0, 0⟩, 0, .starting, []⟩

variable (s : ServerSession)

/-- An operation changes the state of the runtime. -/
def operate (rt : TunnelRuntime) : ServerSession :=
  { s with
    runtime :=
      s.runtime.change (s.runtime.value.unannounced rt) (s.runtime.value.notifies rt) }

/-- The session task leaves its loop and unregisters the session. -/
def leave : ServerSession :=
  { s with phase := .ended }.operate (s.runtime.value.unregister s.id)

/-- An operation of the session itself; the task does not go on before it has notified. -/
def operateOwn (rt : TunnelRuntime) (reply : Reply) : ServerSession :=
  { s with
    runtime.value := s.runtime.value.unannounced rt
    phase := if s.runtime.value.notifies rt then .notifying reply else .observing reply }

def step (sha256 : GroupSecret → Digest) (s : ServerSession) : Event → Option ServerSession
  | .operate op => some (s.operate (s.runtime.value.perform sha256 op))
  | .notify =>
    if s.runtime.pending = 0 then none
    else some { s with runtime := s.runtime.notify s.runtime.value.notify }
  | .subscribe =>
    match s.phase with
    | .starting => some { s with phase := .subscribed, seen := s.runtime.version }
    | _ => none
  | .register deviceId group digest connection services now =>
    match s.phase with
    | .subscribed =>
      match s.runtime.value.register s.id deviceId group digest connection services now with
      | (.ok (), rt) => some (s.operateOwn rt .hello)
      | (.error _, _) => some { s with phase := .ended }
    | _ => none
  | .notifyOwn =>
    match s.phase with
    | .notifying reply =>
      some { s with
        runtime.value := s.runtime.value.notify
        runtime.version := s.runtime.version + 1
        phase := .observing reply }
    | _ => none
  | .observe =>
    match s.phase with
    | .observing reply => some { s with seen := s.runtime.version, phase := .reading reply }
    | _ => none
  | .read =>
    match s.phase with
    | .reading reply =>
      some { s with phase := .writing (reply.frame (s.runtime.value.catalog s.id)) }
    | _ => none
  | .write =>
    match s.phase with
    | .writing frame => some { s with phase := .waiting, written := s.written ++ [frame] }
    | _ => none
  | .update requestId services =>
    match s.phase with
    | .waiting =>
      match validateDeclarations services with
      | .error _ => some s.leave
      | .ok () =>
        match s.runtime.value.updateServices s.id services with
        | (none, _) => some s.leave
        | (some _, rt) => some (s.operateOwn rt (.servicesApplied requestId))
    | _ => none
  | .changed =>
    match s.phase with
    | .waiting =>
      if s.seen = s.runtime.version then none
      else some { s with seen := s.runtime.version, phase := .reading .tunnelSnapshot }
    | _ => none
  | .finish =>
    match s.phase with
    | .subscribed => some { s with phase := .ended }
    | .writing _ | .waiting => some s.leave
    | _ => none

/-- The steps of the session, one constructor for each way in which an event is handled. -/
inductive Steps (sha256 : GroupSecret → Digest) (s : ServerSession) : Event → ServerSession → Prop
  | operate (op : TunnelRuntime.Operation) :
      Steps sha256 s (.operate op) (s.operate (s.runtime.value.perform sha256 op))
  | notify : Steps sha256 s .notify { s with runtime := s.runtime.notify s.runtime.value.notify }
  | subscribe (hphase : s.phase = .starting) :
      Steps sha256 s .subscribe { s with phase := .subscribed, seen := s.runtime.version }
  | registered {deviceId group : String} {digest : Digest} {connection : Connection}
      {services : List ServiceDeclaration} {now : UInt64} (hphase : s.phase = .subscribed) :
      Steps sha256 s (.register deviceId group digest connection services now)
        (s.operateOwn (s.runtime.value.register s.id deviceId group digest connection services
          now).2 .hello)
  | rejected {deviceId group : String} {digest : Digest} {connection : Connection}
      {services : List ServiceDeclaration} {now : UInt64} (hphase : s.phase = .subscribed) :
      Steps sha256 s (.register deviceId group digest connection services now)
        { s with phase := .ended }
  | notifyOwn {reply : Reply} (hphase : s.phase = .notifying reply) :
      Steps sha256 s .notifyOwn { s with
        runtime.value := s.runtime.value.notify
        runtime.version := s.runtime.version + 1
        phase := .observing reply }
  | observe {reply : Reply} (hphase : s.phase = .observing reply) :
      Steps sha256 s .observe { s with seen := s.runtime.version, phase := .reading reply }
  | read {reply : Reply} (hphase : s.phase = .reading reply) :
      Steps sha256 s .read
        { s with phase := .writing (reply.frame (s.runtime.value.catalog s.id)) }
  | write {frame : ServerFrame} (hphase : s.phase = .writing frame) :
      Steps sha256 s .write { s with phase := .waiting, written := s.written ++ [frame] }
  | updated {requestId : UInt64} {services : List ServiceDeclaration}
      (hphase : s.phase = .waiting) :
      Steps sha256 s (.update requestId services)
        (s.operateOwn (s.runtime.value.updateServices s.id services).2
          (.servicesApplied requestId))
  | refused {requestId : UInt64} {services : List ServiceDeclaration}
      (hphase : s.phase = .waiting) : Steps sha256 s (.update requestId services) s.leave
  | changed (hphase : s.phase = .waiting) :
      Steps sha256 s .changed
        { s with seen := s.runtime.version, phase := .reading .tunnelSnapshot }
  | abandoned (hphase : s.phase = .subscribed) : Steps sha256 s .finish { s with phase := .ended }
  | finished (hphase : s.phase ≠ .subscribed) : Steps sha256 s .finish s.leave

/-- Everything that a step can do. -/
lemma steps_of_step {sha256 : GroupSecret → Digest} {s s' : ServerSession} {e : Event}
    (h : s.step sha256 e = some s') : s.Steps sha256 e s' := by
  cases e with
  | operate op => exact Option.some.inj h ▸ .operate op
  | notify =>
    simp only [step] at h
    split at h
    · simp at h
    · exact Option.some.inj h ▸ .notify
  | register deviceId group digest connection services now =>
    simp only [step] at h
    split at h
    · rename_i hphase
      split at h
      · rename_i rt hreg
        obtain rfl : (s.runtime.value.register s.id deviceId group digest connection services
            now).2 = rt := by rw [hreg]
        exact Option.some.inj h ▸ .registered hphase
      · exact Option.some.inj h ▸ .rejected hphase
    · simp at h
  | subscribe | notifyOwn | observe | read | write =>
    simp only [step] at h
    split at h
    · rename_i hphase
      obtain rfl := Option.some.inj h
      first
        | exact .subscribe hphase
        | exact .notifyOwn hphase
        | exact .observe hphase
        | exact .read hphase
        | exact .write hphase
    · simp at h
  | update requestId services =>
    simp only [step] at h
    split at h
    · rename_i hphase
      split at h
      · exact Option.some.inj h ▸ .refused hphase
      · split at h
        · exact Option.some.inj h ▸ .refused hphase
        · rename_i rt hupdate
          obtain rfl : (s.runtime.value.updateServices s.id services).2 = rt := by rw [hupdate]
          exact Option.some.inj h ▸ .updated hphase
    · simp at h
  | changed =>
    simp only [step] at h
    split at h
    · rename_i hphase
      split at h
      · simp at h
      · exact Option.some.inj h ▸ .changed hphase
    · simp at h
  | finish =>
    simp only [step] at h
    split at h
    · rename_i hphase
      exact Option.some.inj h ▸ .abandoned hphase
    · rename_i hphase
      exact Option.some.inj h ▸ .finished (by simp [hphase])
    · rename_i hphase
      exact Option.some.inj h ▸ .finished (by simp [hphase])
    · simp at h

end ServerSession

/-! ## Operations that do not notify -/

namespace TunnelRuntime

variable {sha256 : GroupSecret → Digest} {rt : TunnelRuntime}

/-- A catalog depends on the group of its session, on the tunnels, and on the sessions that
own them. -/
lemma catalog_congr {rt rt' : TunnelRuntime} {id : SessionId}
    (htunnels : rt'.state.tunnels = rt.state.tunnels)
    (hgroup : (rt'.state.sessions.lookup id).map (·.group) =
      (rt.state.sessions.lookup id).map (·.group))
    (howners : ∀ t, (rt'.state.owners.lookup t).map (·.sessionId) =
      (rt.state.owners.lookup t).map (·.sessionId)) :
    rt'.catalog id = rt.catalog id := by
  unfold catalog
  cases hs : rt.state.sessions.lookup id with
  | none =>
    cases hs' : rt'.state.sessions.lookup id with
    | none => rfl
    | some session' => simp [hs, hs'] at hgroup
  | some session =>
    cases hs' : rt'.state.sessions.lookup id with
    | none => simp [hs, hs'] at hgroup
    | some session' =>
      have hsame : session'.group = session.group := by simpa [hs, hs'] using hgroup
      simp only [htunnels, hsame]
      congr 1
      refine List.map_congr_left fun e _ => ?_
      have howner := howners e.1
      cases ho : rt.state.owners.lookup e.1 with
      | none =>
        cases ho' : rt'.state.owners.lookup e.1 with
        | none => rfl
        | some owner' => simp [ho, ho'] at howner
      | some owner =>
        cases ho' : rt'.state.owners.lookup e.1 with
        | none => simp [ho, ho'] at howner
        | some owner' =>
          have heq : owner'.sessionId = owner.sessionId := by simpa [ho, ho'] using howner
          simp only [heq]

lemma revision_notify_ne (rt : TunnelRuntime) : rt.notify.revision ≠ rt.revision := by
  intro h
  have hnat := congrArg UInt64.toNat h
  simp only [notify, UInt64.toNat_add, UInt64.reduceToNat] at hnat
  have hlt := rt.revision.toNat_lt
  omega

lemma mem_ownedTunnels {st : RuntimeState} {id : SessionId} {t : String} :
    t ∈ st.ownedTunnels id ↔ ∃ owner, st.owners.lookup t = some owner ∧ owner.sessionId = id := by
  rw [ownedTunnels, ← AList.mem_keys, AList.mem_retain]
  simp only [decide_eq_true_iff]

lemma mem_of_no_difference {l l' : List String}
    (h : decide ((l.filter (· ∉ l')).length ≠ 0) = false) {t : String} (ht : t ∈ l) : t ∈ l' := by
  have hnil : l.filter (· ∉ l') = [] := by simpa using h
  have hall := List.filter_eq_nil_iff.mp hnil t ht
  simpa using hall

/-- When `update_services` does not notify, the session owns the same tunnels as before. -/
lemma ownedTunnels_of_updateServices {id : SessionId} {services : List ServiceDeclaration}
    (h : (rt.updateServices id services).2.revision = rt.revision) (t : String) :
    t ∈ (rt.updateServices id services).2.state.ownedTunnels id ↔
      t ∈ rt.state.ownedTunnels id := by
  unfold updateServices at h ⊢
  cases hs : rt.state.sessions.lookup id with
  | none => rfl
  | some session =>
    simp only [hs] at h
    simp only [state_notify_if]
    split at h
    · exact absurd h (revision_notify_ne _)
    · rename_i hchanged
      rw [Bool.not_eq_true, Bool.or_eq_false_iff, Bool.or_eq_false_iff] at hchanged
      obtain ⟨⟨-, hclaimed⟩, hreleased⟩ := hchanged
      exact ⟨mem_of_no_difference hclaimed, mem_of_no_difference hreleased⟩

lemma catalog_updateServices (hc : rt.state.Consistent) {id : SessionId}
    {services : List ServiceDeclaration}
    (h : (rt.updateServices id services).2.revision = rt.revision) (i : SessionId) :
    (rt.updateServices id services).2.catalog i = rt.catalog i := by
  have howned := ownedTunnels_of_updateServices h
  refine catalog_congr ?_ ?_ fun t => ?_
  · unfold updateServices
    cases rt.state.sessions.lookup id with
    | none => rfl
    | some session => simp only [state_notify_if]; rfl
  · unfold updateServices
    cases hs : rt.state.sessions.lookup id with
    | none => rfl
    | some session =>
      simp only [state_notify_if]
      show ((rt.state.modifyServices id fun _ => serviceMap services).sessions.lookup i).map
        (·.group) = _
      rw [modifyServices, AList.lookup_modify]
      split
      · rename_i hi
        rw [hi, hs]
        rfl
      · rfl
  · -- an owner that is gone, or a new one, would have been counted
    cases hold : rt.state.owners.lookup t with
    | none =>
      cases hnew : (rt.updateServices id services).2.state.owners.lookup t with
      | none => rfl
      | some owner =>
        have hid := (claims_of_updateServices hold hnew).1
        obtain ⟨owner', hlookup, -⟩ :=
          mem_ownedTunnels.mp ((howned t).mp (mem_ownedTunnels.mpr ⟨owner, hnew, hid⟩))
        exact absurd (hold.symm.trans hlookup) (by simp)
    | some owner =>
      obtain ⟨hkeep, hrelease⟩ := keptUnless_updateServices hc hold id services
      rw [hkeep]
      intro hr
      obtain ⟨owner', hlookup, -⟩ :=
        mem_ownedTunnels.mp ((howned t).mpr (mem_ownedTunnels.mpr ⟨owner, hold, hr.1.symm⟩))
      exact absurd ((hrelease hr).symm.trans hlookup) (by simp)

/-- Without a connection to close, no session was revoked. -/
lemma revoke_of_no_connection {st : RuntimeState} {ids : List SessionId}
    (h : (st.revoke ids).2 = []) : (st.revoke ids).1 = st := by
  induction ids generalizing st with
  | nil => rfl
  | cons id ids ih =>
    unfold revoke at h ⊢
    cases hs : st.sessions.lookup id with
    | none =>
      simp only [hs] at h
      exact ih h
    | some session => simp [hs] at h

lemma catalog_applyCredentials {credentials : List (String × GroupSecret)}
    (h : (rt.applyCredentials sha256 credentials).revision = rt.revision) (i : SessionId) :
    (rt.applyCredentials sha256 credentials).catalog i = rt.catalog i := by
  have hst : (rt.applyCredentials sha256 credentials).state =
      { rt.state with credentials := credentialDigests sha256 credentials } := by
    rw [applyCredentials_state]
    unfold applyCredentials at h
    simp only at h
    split at h
    · rename_i hempty
      exact revoke_of_no_connection (List.isEmpty_iff.mp hempty)
    · exact absurd h (revision_notify_ne _)
  exact catalog_congr (by rw [hst]) (by rw [hst]) fun t => by rw [hst]

/-- **An operation that does not notify leaves every catalog unchanged.** -/
lemma catalog_of_revision_eq (hc : rt.state.Consistent) {op : Operation}
    (h : (rt.perform sha256 op).revision = rt.revision) (i : SessionId) :
    (rt.perform sha256 op).catalog i = rt.catalog i := by
  cases op with
  | register id deviceId group digest connection services now =>
    rcases register_cases rt id deviceId group digest connection services now with
      ⟨_, heq⟩ | ⟨-, -, -, entry, -, -, -, -, heq⟩
    · rw [perform, heq]
    · rw [perform, heq] at h
      exact absurd h (revision_notify_ne _)
  | updateServices id services => exact catalog_updateServices hc h i
  | unregister id =>
    simp only [perform, unregister] at h ⊢
    cases hs : rt.state.sessions.lookup id with
    | none => rfl
    | some session =>
      rw [hs] at h
      exact absurd h (revision_notify_ne _)
  | disconnect id =>
    simp only [perform, disconnect] at h ⊢
    cases hs : rt.state.sessions.lookup id with
    | none => rfl
    | some session =>
      rw [hs] at h
      exact absurd h (revision_notify_ne _)
  | disconnectTunnel id tunnel =>
    rcases disconnectTunnel_cases rt id tunnel with ⟨_, heq⟩ | ⟨_, -, -, -, heq⟩
    · rw [perform, heq]
    · rw [perform, heq] at h
      exact absurd h (revision_notify_ne _)
  | applyTunnels configs => exact absurd h (revision_notify_ne _)
  | applyCredentials credentials => exact catalog_applyCredentials h i

end TunnelRuntime

/-! ## The client is told of every change -/

namespace ServerSession

variable {sha256 : GroupSecret → Digest} {s s' : ServerSession}

/-- New sessions get an id and a connection that no online session has. -/
def FreshSessions (s : ServerSession) : Event → Prop
  | .operate op => s.runtime.value.FreshSessions op
  | .register _ _ _ connection _ _ => s.runtime.value.Fresh s.id connection
  | _ => True

instance : ∀ (s : ServerSession) (e : Event), Decidable (s.FreshSessions e)
  | s, .operate op => inferInstanceAs (Decidable (s.runtime.value.FreshSessions op))
  | s, .register _ _ _ connection _ _ =>
    inferInstanceAs (Decidable (s.runtime.value.Fresh s.id connection))
  | _, .notify | _, .subscribe | _, .notifyOwn | _, .observe | _, .read | _, .write
  | _, .update .. | _, .changed | _, .finish => inferInstanceAs (Decidable True)

/-- The catalog that the client has, or is about to get. -/
def catalog? (s : ServerSession) : Option (List ClientTunnel) :=
  match s.phase with
  | .writing frame => some frame.tunnels
  | .waiting => s.written.getLast?.map (·.tunnels)
  | _ => none

structure Informed (s : ServerSession) : Prop where
  consistent : s.runtime.value.state.Consistent
  seen : s.seen ≤ s.runtime.version
  catalog : ∀ tunnels, s.catalog? = some tunnels →
    s.runtime.Covers s.seen (·.catalog s.id) tunnels
  written : s.phase = .waiting → s.written ≠ []

lemma informed_start (id : SessionId) : (start id).Informed where
  consistent := TunnelRuntime.consistent_new
  seen := Nat.le_refl 0
  catalog _ h := by simp [catalog?, start] at h
  written h := by simp [start] at h

/-- A step to a phase in which the client has no catalog yet, or an old one. -/
lemma Informed.of_catalog?_eq_none (hcons : s.runtime.value.state.Consistent)
    (hseen : s.seen ≤ s.runtime.version) (hnone : s.catalog? = none)
    (hphase : s.phase ≠ .waiting) : s.Informed where
  consistent := hcons
  seen := hseen
  catalog _ h := by simp [hnone] at h
  written h := absurd h hphase

lemma Informed.operate (h : s.Informed) {op : TunnelRuntime.Operation}
    (hfresh : s.runtime.value.FreshSessions op) :
    (s.operate (s.runtime.value.perform sha256 op)).Informed where
  consistent := TunnelRuntime.consistent_perform h.consistent hfresh
  seen := h.seen
  catalog tunnels htunnels := by
    refine (h.catalog tunnels htunnels).change fun hsilent => ?_
    have hrev : (s.runtime.value.perform sha256 op).revision = s.runtime.value.revision := by
      simpa [TunnelRuntime.notifies] using hsilent
    exact TunnelRuntime.catalog_of_revision_eq h.consistent hrev s.id
  written := h.written

lemma Informed.leave (h : s.Informed) : s.leave.Informed :=
  .of_catalog?_eq_none
    (TunnelRuntime.consistent_removed h.consistent (TunnelRuntime.unregister_state _ s.id))
    h.seen rfl (by simp [ServerSession.leave, ServerSession.operate])

lemma Informed.operateOwn (h : s.Informed) {rt : TunnelRuntime} (hcons : rt.state.Consistent)
    (reply : Reply) : (s.operateOwn rt reply).Informed := by
  refine .of_catalog?_eq_none hcons h.seen ?_ ?_
  all_goals
    simp only [ServerSession.operateOwn, catalog?]
    cases s.runtime.value.notifies rt <;> simp

lemma Informed.step (h : s.Informed) {e : Event} (hfresh : s.FreshSessions e)
    (hstep : s.step sha256 e = some s') : s'.Informed := by
  cases steps_of_step hstep with
  | operate op => exact h.operate hfresh
  | notify =>
    exact ⟨h.consistent, h.seen.trans (Nat.le_succ _), fun _ _ => Watch.covers_notify h.seen _,
      h.written⟩
  | subscribe => exact .of_catalog?_eq_none h.consistent (Nat.le_refl _) rfl (by simp)
  | registered => exact h.operateOwn (TunnelRuntime.consistent_register h.consistent hfresh) .hello
  | rejected => exact .of_catalog?_eq_none h.consistent h.seen rfl (by simp)
  | notifyOwn =>
    exact .of_catalog?_eq_none h.consistent (h.seen.trans (Nat.le_succ _)) rfl (by simp)
  | observe => exact .of_catalog?_eq_none h.consistent (Nat.le_refl _) rfl (by simp)
  | @read reply =>
    refine ⟨h.consistent, h.seen, fun tunnels htunnels => ?_, by simp⟩
    -- the version was marked as seen before the catalog is read
    have hframe : (reply.frame (s.runtime.value.catalog s.id)).tunnels =
        s.runtime.value.catalog s.id := by cases reply <;> rfl
    obtain rfl : s.runtime.value.catalog s.id = tunnels := by
      simpa [catalog?, hframe] using htunnels
    exact Watch.covers_view
  | write hphase =>
    refine ⟨h.consistent, h.seen, fun tunnels htunnels => ?_, by simp⟩
    exact h.catalog tunnels (by simpa [catalog?, hphase] using htunnels)
  | updated =>
    exact h.operateOwn (TunnelRuntime.consistent_updateServices h.consistent s.id _) _
  | refused => exact h.leave
  | changed => exact .of_catalog?_eq_none h.consistent (Nat.le_refl _) rfl (by simp)
  | abandoned => exact .of_catalog?_eq_none h.consistent h.seen rfl (by simp)
  | finished => exact h.leave

/-- **No status update is lost.**  Whenever the session task waits, its receiver has seen the
latest revision, and no operation is between its change of the state and its notification, the
catalog that was last written to the client is the catalog of the current state. -/
theorem last_catalog_is_current {id : SessionId}
    (hreach : Reach (ServerSession.step sha256) FreshSessions (start id) s)
    (hwaiting : s.phase = .waiting) (hseen : s.seen = s.runtime.version)
    (hpending : s.runtime.pending = 0) :
    s.written.getLast?.map (·.tunnels) = some (s.runtime.value.catalog s.id) := by
  have hinf : s.Informed :=
    hreach.invariant (informed_start id) fun _ _ _ h hfresh hstep => h.step hfresh hstep
  obtain ⟨frame, hframe⟩ := Option.isSome_iff_exists.mp
    (List.getLast?_isSome.mpr (hinf.written hwaiting))
  have hcat : s.catalog? = some frame.tunnels := by
    simp [catalog?, hwaiting, hframe]
  rw [hframe, Option.map_some, hinf.catalog _ hcat ⟨hseen, hpending⟩]

/-- The administrator takes the tunnel `web` from the session 1 while the session waits; the
client is told that the tunnel is idle. -/
theorem client_told_of_idle_web :
    ∃ s, Reach (ServerSession.step TunnelRuntime.sampleSha256) FreshSessions (start 1) s ∧
      s.phase = .waiting ∧
      some (s.runtime.value.catalog s.id) =
        some [⟨"web", .tcp, 8080, some "localhost", some 8080, .idle⟩] := by
  have hrun : (exec (ServerSession.step TunnelRuntime.sampleSha256) FreshSessions (start 1)
      [.operate (.applyCredentials [("office", TunnelRuntime.sampleKey)]),
        .operate (.applyTunnels [TunnelRuntime.sampleTunnel "web" 8080]),
        .notify, .subscribe,
        .register "first" "office" (TunnelRuntime.sampleSha256 TunnelRuntime.sampleKey)
          ⟨1, TunnelRuntime.samplePeer 5001⟩ [⟨"web", .tcp⟩] 0,
        .notifyOwn, .observe, .read, .write,
        .operate (.disconnectTunnel 1 "web"), .notify, .changed, .read, .write]).map
        (fun s => (s.phase, decide (s.seen = s.runtime.version), s.runtime.pending,
          s.written.getLast?.map (·.tunnels))) =
      some (.waiting, true, 0,
        some [⟨"web", .tcp, 8080, some "localhost", some 8080, .idle⟩]) := by decide +kernel
  obtain ⟨s, hs, hview⟩ := Option.map_eq_some_iff.mp hrun
  simp only [Prod.mk.injEq, decide_eq_true_eq] at hview
  obtain ⟨hphase, hseen, hpending, hlast⟩ := hview
  have hreach := reach_of_exec hs
  exact ⟨s, hreach, hphase,
    (last_catalog_is_current hreach hphase hseen hpending).symm.trans hlast⟩

end ServerSession

end GateRust.Tunnel
