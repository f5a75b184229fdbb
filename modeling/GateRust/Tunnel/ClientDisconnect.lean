/-
# Disconnecting a client

The administrator disconnects a client with `TunnelRuntime::disconnect`, and the client should
stop instead of connecting again.  The operation removes the session under the lock, notifies,
and closes the connection with a code of its own afterwards; the client stops when the `closed`
branch of its loop sees this code.

Only the first close of a connection counts.  The session task may close the connection before
the administrator does: it leaves its loop when it reads an update of a session that is gone, or
when a read or a write fails, and then closes the connection with the code of a failure.  At the
client, the loss of the connection makes other branches ready together with `closed`, and these
do not look at the code.
-/
import GateRust.Tunnel.AdministratorDisconnect

namespace GateRust.Tunnel

open Machine RuntimeState

/-! ## Connections that are closed -/

/-- Why a connection is closed, as the client learns it. -/
inductive CloseReason where
  /-- An operation of the runtime has closed it. -/
  | runtime (code : ApplicationCloseCode)
  | serverConnectionError
  | authenticationFailed
  | serverShutdown
  /-- The server has dropped it. -/
  | dropped
  /-- A timeout, or an error of the transport. -/
  | lost
deriving DecidableEq, Repr

def CloseReason.isAdministratorDisconnect (reason : CloseReason) : Bool :=
  reason = .runtime .administratorDisconnect

namespace TunnelRuntime

/-- The codes with which the operation from `rt` to `rt'` closes the connection of the session,
which it has removed. -/
def closeCodes (rt rt' : TunnelRuntime) (id : SessionId) : List ApplicationCloseCode :=
  match rt.state.sessions.lookup id, rt'.state.sessions.lookup id with
  | some session, none =>
    ((rt'.closed.drop rt.closed.length).filter (·.1 = session.connection)).map (·.2)
  | _, _ => []

/-- The operation is a call of `disconnect` for the session that returns true. -/
def disconnects (rt : TunnelRuntime) (id : SessionId) : Operation → Bool
  | .disconnect id' => id' = id && (rt.disconnect id').1
  | _ => false

end TunnelRuntime

namespace Client

variable (s : Client)

def isConnected : Bool :=
  match s.phase with
  | .connected .. => true
  | .loading _ | .waiting _ | .connecting _ | .authenticating .. | .retrying _ | .stopped => false

/-- The loop of `run_connected` has ended with `AdministratorDisconnected`, and
`run_client_loop` with it. -/
def StoppedByAdministrator : Prop :=
  s.phase = .stopped ∧ s.status = .stopped (some "客户端已被管理员下线")

/-- A branch other than `closed` leaves the loop of `run_connected`. -/
def leavesOtherwise (config : ClientConfig) (c : Connected) : Event → Bool
  | .deadline | .readFailed _ | .acceptStream (.error _) | .watcherClosed | .shutdown => true
  | .message (.servicesApplied requestId _) => c.pending.map (·.requestId) ≠ some requestId
  | .command _ _ responseClosed (.error _) => !responseClosed
  | .changed write =>
    match s.watcher.file with
    | .error _ => true
    | .ok updated => connectionIdentityChanged config updated || !s.managed && !write.isOk
  | _ => false

end Client

/-! ## The server, the client and their connection -/

structure DisconnectLink where
  link : ControlLink
  /-- The session task has left its loop. -/
  leaving : Bool
  /-- The close calls that operations of the runtime still have to make. -/
  closing : List ApplicationCloseCode
  /-- The first close at the server. -/
  closed : Option CloseReason
  /-- The close reason at the client. -/
  arrived : Option CloseReason
  /-- History: `disconnect` has removed the session, and returns true; the client was in the
  loop of `run_connected`. -/
  disconnected : Bool

namespace DisconnectLink

inductive Event where
  /-- A step of the session task, or an operation of another task. -/
  | server (e : ServerSession.Event)
  /-- The session task reads the next message of the client. -/
  | deliver
  /-- The session task leaves its loop because the connection is closed, or because a read or a
  write fails. -/
  | leaveLoop
  /-- An operation makes its close call. -/
  | close
  | serverShutdown
  /-- The client's end of the connection learns that it is closed. -/
  | arrive
  | lose
  | client (e : Client.Event)

def start (id : SessionId) (client : Client) : DisconnectLink :=
  ⟨.start id client, false, [], none, none, false⟩

variable (s : DisconnectLink)

def runtime : TunnelRuntime := s.link.server.runtime.value

def setLink (link : ControlLink) : DisconnectLink := { s with link }

/-- A close of a connection that is closed already does nothing. -/
def close (reason : CloseReason) : DisconnectLink := { s with closed := s.closed.or (some reason) }

/-- The session task leaves its loop.  If the connection is closed already, `session_end` finds
the reason and no close is made. -/
def leaveLoop : DisconnectLink := { s.close .serverConnectionError with leaving := true }

/-- The session task leaves its loop when it reads an update with these services. -/
def refuses (services : List ServiceDeclaration) : Bool :=
  !(validateDeclarations services).isOk ||
    (s.runtime.updateServices s.link.server.id services).1.isNone

def serverStep (sha256 : GroupSecret → Digest) (e : ServerSession.Event) : Option DisconnectLink :=
  match e with
  | .operate op =>
    (s.link.step sha256 (.server e)).map fun link =>
      { s with
        link
        closing := s.closing ++
          s.runtime.closeCodes link.server.runtime.value s.link.server.id
        disconnected := s.disconnected ||
          s.runtime.disconnects s.link.server.id op && s.link.client.isConnected }
  | .notify => (s.link.step sha256 (.server e)).map s.setLink
  | .register .. =>
    (s.link.step sha256 (.server e)).map fun link =>
      if link.server.phase = .ended then (s.setLink link).close .authenticationFailed
      else s.setLink link
  | .finish =>
    -- a session that was registered is unregistered after the connection is closed
    if s.link.server.phase = .subscribed then
      (s.link.step sha256 (.server e)).map (s.close .dropped).setLink
    else if s.leaving then (s.link.step sha256 (.server e)).map s.setLink
    else none
  | e => if s.leaving then none else (s.link.step sha256 (.server e)).map s.setLink

def deliver (sha256 : GroupSecret → Digest) : Option DisconnectLink :=
  match s.link.toServer with
  | m :: rest =>
    if s.leaving || s.link.server.phase ≠ .waiting then none
    else if s.refuses m.services then some (s.setLink { s.link with toServer := rest }).leaveLoop
    else (s.link.step sha256 .deliver).map s.setLink
  | [] => none

/-- What the state of the connection says about the branches of the client's loop. -/
def permits : Client.Event → Bool
  | .closed _ administrator =>
    s.arrived.any fun reason => administrator = reason.isAdministratorDisconnect
  | .acceptStream (.error _) => s.arrived.isSome
  | _ => true

def step (sha256 : GroupSecret → Digest) (s : DisconnectLink) : Event → Option DisconnectLink
  | .server e => s.serverStep sha256 e
  | .deliver => s.deliver sha256
  | .leaveLoop =>
    match s.link.server.phase with
    | .writing _ | .waiting => if s.leaving then none else some s.leaveLoop
    | _ => none
  | .close =>
    match s.closing with
    | code :: rest => some { s.close (.runtime code) with closing := rest }
    | [] => none
  | .serverShutdown => some (s.close .serverShutdown)
  | .arrive =>
    match s.closed, s.arrived with
    | some reason, none => some { s with arrived := some reason }
    | _, _ => none
  | .lose => if s.arrived.isSome then none else some { s with arrived := some .lost }
  | .client e =>
    if s.permits e then (s.link.step sha256 (.client e)).map s.setLink else none

/-! ## Runs in which nothing gets between -/

/-- `disconnect` is called for the session and returns true. -/
def disconnects : Event → Bool
  | .server (.operate op) => s.runtime.disconnects s.link.server.id op
  | _ => false

/-- The server closes the connection, or is about to, for another reason than an operation. -/
def closesFirst : Event → Bool
  | .leaveLoop | .serverShutdown => true
  | .deliver =>
    match s.link.toServer with
    | m :: _ => s.refuses m.services
    | [] => false
  | _ => false

/-- The client leaves the loop through another branch than `closed`, or its connection is
lost. -/
def leavesOtherwise : Event → Bool
  | .lose => true
  | .client e =>
    match s.link.client.phase with
    | .connected config c => s.link.client.leavesOtherwise config c e
    | _ => false
  | _ => false

/-- Nothing gets between `disconnect` and the end of the client: the connection is open when the
session is removed; until the administrator has closed it, the session task does not leave its
loop and the server does not shut down; and the client's loop is left through the `closed`
branch only. -/
def Undisturbed (s : DisconnectLink) (e : Event) : Prop :=
  (s.disconnects e = true → s.closed = none ∧ s.arrived = none) ∧
    (s.disconnected = true →
      (s.closed = none → s.closesFirst e = false) ∧ s.leavesOtherwise e = false)

instance (s : DisconnectLink) (e : Event) : Decidable (s.Undisturbed e) :=
  inferInstanceAs (Decidable ((_ → _ ∧ _) ∧ (_ → (_ → _) ∧ _)))

end DisconnectLink

/-! ## How the loop of the client is left -/

namespace Client

variable {s s' : Client} {config : ClientConfig} {c : Connected}

lemma isConnected_of_connected (h : s.phase = .connected config c) : s.isConnected = true := by
  rw [isConnected, h]

lemma onConnection_of_isConnected (h : s.isConnected = true) : s.onConnection = true := by
  unfold isConnected at h
  split at h
  · rename_i hphase
    rw [onConnection, hphase]
  all_goals simp at h

lemma exists_phase_of_isConnected (h : s.isConnected = true) :
    ∃ config c, s.phase = .connected config c := by
  unfold isConnected at h
  split at h
  · rename_i config c hphase
    exact ⟨config, c, hphase⟩
  all_goals simp at h

@[simp] lemma isConnected_endConnection (r : ConnectionEnd) :
    (s.endConnection config r).isConnected = false := by
  rcases r with _ | _ | _ | (_ | _) | _ | _ <;> rfl

lemma isConnected_startUpdate {updated : ClientConfig} {response : Option ℕ}
    {write : Except TunnelError Unit} :
    (s.startUpdate config c updated response write).isConnected = write.isOk := by
  cases write with
  | ok => rfl
  | error error => exact isConnected_endConnection (.disconnected error)

lemma isConnected_onMessage (m : ServerControlMessage) :
    (s.onMessage config c m).isConnected = !s.leavesOtherwise config c (.message m) := by
  cases m with
  | tunnelSnapshot tunnels => rfl
  | servicesApplied requestId tunnels =>
    unfold onMessage
    cases hc : c.pending with
    | none =>
      simp only [isConnected_endConnection, leavesOtherwise, hc]
      rfl
    | some p =>
      simp only [leavesOtherwise, hc, Option.map_some]
      by_cases hid : p.requestId = requestId
      · simp [hid, stay, isConnected]
      · simp [hid]

lemma isConnected_onChanged (hphase : s.phase = .connected config c)
    (write : Except TunnelError Unit) :
    (s.onChanged write).isConnected = !s.leavesOtherwise config c (.changed write) := by
  simp only [onChanged, hphase, leavesOtherwise]
  cases s.watcher.file with
  | error reason => simp
  | ok updated =>
    simp only
    cases hchanged : connectionIdentityChanged config updated with
    | true => simp
    | false =>
      cases hm : s.managed with
      | true => simp [stay, isConnected]
      | false => simp [isConnected_startUpdate]

/-- **The loop is left through `closed` or through one of the other branches.** -/
lemma isConnected_of_step {e : Event} (hphase : s.phase = .connected config c)
    (h : s.step e = some s') (hclosed : ∀ error administrator, e ≠ .closed error administrator) :
    s'.isConnected = !s.leavesOtherwise config c e := by
  have hstay : s.isConnected = true := isConnected_of_connected hphase
  have hsame : ∀ {config' : ClientConfig} {c' : Connected}, s.phase = .connected config' c' →
      config' = config ∧ c' = c := by
    intro config' c' h'
    exact Phase.connected.inj (h'.symm.trans hphase)
  cases steps_of_step h with
  | fileChanged | notify | takeToken | absorbToken | acceptedStream | taskJoined => exact hstay
  | ignoredCommand services response write => cases write <;> exact hstay
  | changed write =>
    have hphase' : s.select.phase = .connected config c := hphase
    exact isConnected_onChanged hphase' write
  | watcherClosed =>
    simp only [onWatcherClosed, hphase, leavesOtherwise]
    exact isConnected_endConnection _
  | shutdown => rfl
  | loadInitial hp | connectionStep _ hp | helloWritten hp | authentication _ hp
  | retryElapsed hp => simp [hphase] at hp
  | deadline => exact isConnected_endConnection _
  | closed error administrator => exact absurd rfl (hclosed error administrator)
  | message m hp =>
    obtain ⟨rfl, rfl⟩ := hsame hp
    exact isConnected_onMessage (s := s.select) m
  | readFailed error => exact isConnected_endConnection _
  | command services response write hp =>
    rw [isConnected_startUpdate]
    cases write <;> rfl
  | commandsClosed => rfl
  | acceptFailed error => exact isConnected_endConnection _

lemma step_closed_administrator {error : TunnelError}
    (hphase : s.phase = .connected config c) :
    s.step (.closed error true) = some (s.select.stop (some "客户端已被管理员下线")) := by
  simp only [step, hphase]
  rfl

end Client

/-! ## Sessions that are gone -/

namespace TunnelRuntime

variable {sha256 : GroupSecret → Digest} {rt : TunnelRuntime} {id : SessionId}

variable (sha256) in
/-- The code with which `disconnect` closes the connection. -/
lemma closeCodes_of_disconnects {op : Operation} (h : rt.disconnects id op = true) :
    id ∈ rt.state.sessions ∧
      rt.closeCodes (rt.unannounced (rt.perform sha256 op)) id = [.administratorDisconnect] ∧
      id ∉ (rt.perform sha256 op).state.sessions := by
  cases op with
  | disconnect id' =>
    simp only [disconnects, Bool.and_eq_true, decide_eq_true_iff] at h
    obtain ⟨rfl, hfound⟩ := h
    cases hs : rt.state.sessions.lookup id' with
    | none => simp [disconnect, hs] at hfound
    | some session =>
      have hgone : (rt.perform sha256 (.disconnect id')).state.sessions.lookup id' = none := by
        simp [perform, disconnect, hs, notify, removeSession, releaseSession]
      refine ⟨AList.mem_of_lookup hs, ?_, AList.lookup_eq_none.mp hgone⟩
      simp only [closeCodes, hs, unannounced, hgone]
      simp [perform, disconnect, hs, notify]
  | _ => simp [disconnects] at h

/-- Nothing is closed for a session that is not there. -/
lemma closeCodes_of_not_mem (h : id ∉ rt.state.sessions) (rt' : TunnelRuntime) :
    rt.closeCodes rt' id = [] := by
  simp [closeCodes, AList.lookup_eq_none.mpr h]

lemma mem_of_closeCodes_ne_nil {rt' : TunnelRuntime} (h : rt.closeCodes rt' id ≠ []) :
    id ∈ rt.state.sessions ∧ id ∉ rt'.state.sessions := by
  unfold closeCodes at h
  split at h
  · rename_i session hbefore hafter
    exact ⟨AList.mem_of_lookup hbefore, AList.lookup_eq_none.mp hafter⟩
  · exact absurd rfl h

end TunnelRuntime

namespace ServerSession

variable {sha256 : GroupSecret → Digest} {s s' : ServerSession}

lemma subscribed_of_register {deviceId group : String} {digest : Digest}
    {connection : Connection} {services : List ServiceDeclaration} {now : UInt64}
    (h : s.step sha256 (.register deviceId group digest connection services now) = some s') :
    s.phase = .subscribed := by
  cases steps_of_step h with
  | registered hphase | rejected hphase => exact hphase

/-- The session was registered and is not in the runtime any more. -/
def Gone (s : ServerSession) : Prop :=
  s.id ∉ s.runtime.value.state.sessions ∧ ¬s.Unregistered

lemma updateServices_of_not_mem {rt : TunnelRuntime} {id : SessionId}
    (h : id ∉ rt.state.sessions) (services : List ServiceDeclaration) :
    rt.updateServices id services = (none, rt) := by
  simp only [TunnelRuntime.updateServices, AList.lookup_eq_none.mpr h]

lemma unregister_of_not_mem {rt : TunnelRuntime} {id : SessionId} (h : id ∉ rt.state.sessions) :
    rt.unregister id = rt := by
  simp only [TunnelRuntime.unregister, AList.lookup_eq_none.mpr h]

lemma Gone.leave (h : s.Gone) : s.leave.Gone := by
  refine ⟨?_, by simp [Unregistered, ServerSession.leave, ServerSession.operate]⟩
  have hsame := unregister_of_not_mem h.1
  simp only [ServerSession.leave, hsame]
  exact h.1

/-- A session that is gone does not come back. -/
lemma Gone.step (h : s.Gone) {e : Event} (hstep : s.step sha256 e = some s')
    (hop : ∀ op, e = .operate op → ¬op.Claims s.id) : s'.Gone := by
  cases steps_of_step hstep with
  | operate op => exact ⟨TunnelRuntime.not_mem_sessions_perform h.1 (hop op rfl), h.2⟩
  | notify => exact h
  | subscribe hphase => exact absurd (Or.inl hphase) h.2
  | registered hphase | rejected hphase | abandoned hphase =>
    exact absurd (Or.inr hphase) h.2
  | @updated _ services =>
    refine ⟨?_, not_unregistered_operateOwn⟩
    have hsame := congrArg Prod.snd (updateServices_of_not_mem h.1 services)
    simp only [operateOwn, hsame]
    exact h.1
  | refused | finished => exact h.leave
  | notifyOwn | observe | read | write | changed => exact ⟨h.1, by simp [Unregistered]⟩

end ServerSession

namespace DisconnectLink

variable {sha256 : GroupSecret → Digest} {s s' : DisconnectLink}

/-! ## What is on its way to the client -/

/-- The connection is or will be closed by the administrator, and by nobody else before. -/
def Coming (s : DisconnectLink) : Prop :=
  (s.closed = none ∧ s.arrived = none ∧ s.closing = [.administratorDisconnect]) ∨
    (s.closed = some (.runtime .administratorDisconnect) ∧
      (s.arrived = none ∨ s.arrived = some (.runtime .administratorDisconnect)))

structure Kept (s : DisconnectLink) : Prop where
  unregistered : s.link.server.Unregistered →
    s.link.server.id ∉ s.link.server.runtime.value.state.sessions
  closing : s.closing ≠ [] → s.link.server.Gone
  gone : s.disconnected = true → s.link.server.Gone
  outcome : s.disconnected = true → s.link.client.StoppedByAdministrator ∨
    (s.link.client.isConnected = true ∧ s.Coming)

lemma kept_start {id : SessionId} {client : Client} : (start id client).Kept where
  unregistered _ := by
    simp [start, ControlLink.start, ServerSession.start, TunnelRuntime.new]
  closing h := absurd rfl h
  gone h := by simp [start] at h
  outcome h := by simp [start] at h

/-- A step that changes neither the client nor what is on its way to it. -/
lemma Kept.move (h : s.Kept) (hunregistered : s'.link.server.Unregistered →
      s'.link.server.id ∉ s'.link.server.runtime.value.state.sessions)
    (hgone : s.link.server.Gone → s'.link.server.Gone) (hclient : s'.link.client = s.link.client)
    (hclosing : s'.closing = s.closing) (hdisconnected : s'.disconnected = s.disconnected)
    (hclosed : s.disconnected = true → s.link.client.isConnected = true → s.Coming → s'.Coming) :
    s'.Kept where
  unregistered := hunregistered
  closing hne := hgone (h.closing (hclosing ▸ hne))
  gone hd := hgone (h.gone (hdisconnected ▸ hd))
  outcome hd := by
    rw [hdisconnected] at hd
    rw [hclient]
    refine (h.outcome hd).imp_right fun ⟨hconnected, hcoming⟩ => ⟨hconnected, ?_⟩
    exact hclosed hd hconnected hcoming

/-- A close for another reason comes too late. -/
lemma Coming.close (h : s.Coming) (hlate : s.closed ≠ none) (reason : CloseReason) :
    (s.close reason).Coming := by
  rcases h with ⟨hopen, -⟩ | ⟨hclosed, harrived⟩
  · exact absurd hopen hlate
  · exact Or.inr ⟨by simp [DisconnectLink.close, hclosed], harrived⟩

/-! ## Steps of the server -/

lemma server_of_step {link link' : ControlLink} {e : ServerSession.Event}
    (h : link.step sha256 (.server e) = some link') :
    link.server.step sha256 e = some link'.server ∧ link'.client = link.client ∧
      ∀ op, e = .operate op → ¬op.Claims link.server.id := by
  have hmove := ControlLink.serverMove_of_serverStep h
  refine ⟨hmove.server, ?_, hmove.claims⟩
  rcases hmove.rest with ⟨op, tunnel, -, -, hlink⟩ | ⟨toClient, hlink⟩
  · rw [hlink]
    rfl
  · rw [hlink]

lemma server_of_deliver {link link' : ControlLink} (h : link.step sha256 .deliver = some link') :
    (∃ requestId services, link.server.step sha256 (.update requestId services) =
      some link'.server) ∧ link'.client = link.client := by
  simp only [ControlLink.step] at h
  split at h
  · obtain ⟨server, hserver, rfl⟩ := Option.map_eq_some_iff.mp h
    exact ⟨⟨_, _, hserver⟩, rfl⟩
  · simp at h

/-- The session of the link takes a step. -/
lemma Kept.session (h : s.Kept) {e : ServerSession.Event}
    (hstep : s.link.server.step sha256 e = some s'.link.server)
    (hop : ∀ op, e = .operate op → ¬op.Claims s.link.server.id)
    (hclient : s'.link.client = s.link.client) (hclosing : s'.closing = s.closing)
    (hdisconnected : s'.disconnected = s.disconnected)
    (hclosed : s.disconnected = true → s.link.client.isConnected = true → s.Coming → s'.Coming) :
    s'.Kept := by
  refine h.move (fun hnew => ?_) (fun hgone => hgone.step hstep hop) hclient hclosing
    hdisconnected hclosed
  rw [ServerSession.id_of_step hstep]
  exact (ServerSession.not_mem_sessions_of_step hstep hop h.unregistered hnew).2

lemma Kept.operate (h : s.Kept) {op : TunnelRuntime.Operation}
    (hok : s.Undisturbed (.server (.operate op)))
    (hstep : s.step sha256 (.server (.operate op)) = some s') : s'.Kept := by
  obtain ⟨link, hlink, rfl⟩ := Option.map_eq_some_iff.mp hstep
  obtain ⟨hserver, hclient, hop⟩ := server_of_step hlink
  have hvalue : link.server.runtime.value =
      s.runtime.unannounced (s.runtime.perform sha256 op) := by
    have hsome : some (s.link.server.operate (s.runtime.perform sha256 op)) = some link.server :=
      hserver
    rw [← Option.some.inj hsome]
    rfl
  have hid := ServerSession.id_of_step hserver
  have hnew : link.server.Unregistered →
      s.link.server.Unregistered ∧ s.link.server.id ∉ link.server.runtime.value.state.sessions :=
    ServerSession.not_mem_sessions_of_step hserver hop h.unregistered
  -- the session is removed
  have hremoved : s.link.server.id ∈ s.runtime.state.sessions →
      s.link.server.id ∉ link.server.runtime.value.state.sessions → link.server.Gone := by
    intro hbefore hafter
    exact ⟨hid ▸ hafter, fun hunreg => h.unregistered (hnew hunreg).1 hbefore⟩
  have hgone : s.link.server.Gone → link.server.Gone := fun hgone => hgone.step hserver hop
  refine ⟨fun hunreg => hid ▸ (hnew hunreg).2, fun hne => ?_, fun hd => ?_, fun hd => ?_⟩
  · by_cases hold : s.closing = []
    · have hcodes : s.runtime.closeCodes link.server.runtime.value s.link.server.id ≠ [] := by
        simpa [hold] using hne
      exact (TunnelRuntime.mem_of_closeCodes_ne_nil hcodes).elim hremoved
    · exact hgone (h.closing hold)
  · rcases Bool.or_eq_true_iff.mp hd with hold | hnow
    · exact hgone (h.gone hold)
    · obtain ⟨hmem, -, hnot⟩ := TunnelRuntime.closeCodes_of_disconnects sha256
        (Bool.and_eq_true_iff.mp hnow).1
      exact hremoved hmem (by rw [hvalue]; exact hnot)
  · rw [hclient]
    rcases Bool.or_eq_true_iff.mp hd with hold | hnow
    · refine (h.outcome hold).imp_right fun ⟨hconnected, hcoming⟩ => ⟨hconnected, ?_⟩
      have hnil : s.closing ++ s.runtime.closeCodes link.server.runtime.value s.link.server.id =
          s.closing := by
        have hcodes := TunnelRuntime.closeCodes_of_not_mem (h.gone hold).1
          link.server.runtime.value
        rw [runtime, hcodes, List.append_nil]
      simpa only [Coming, hnil] using hcoming
    · -- the connection is open, and no other close is outstanding
      obtain ⟨hdisconnects, hconnected⟩ := Bool.and_eq_true_iff.mp hnow
      obtain ⟨hmem, hcodes, -⟩ :=
        TunnelRuntime.closeCodes_of_disconnects sha256 hdisconnects
      have hempty : s.closing = [] := by
        by_contra hne
        exact (h.closing hne).1 hmem
      obtain ⟨hopen, harrived⟩ := hok.1 hdisconnects
      refine Or.inr ⟨hconnected, Or.inl ⟨hopen, harrived, ?_⟩⟩
      simp only [hempty, List.nil_append, hvalue]
      exact hcodes

lemma Kept.serverStep (h : s.Kept) {e : ServerSession.Event} (hok : s.Undisturbed (.server e))
    (hstep : s.step sha256 (.server e) = some s') : s'.Kept := by
  -- a step of the session that closes nothing
  have hplain : (s.link.step sha256 (.server e)).map s.setLink = some s' → s'.Kept := by
    intro hstep
    obtain ⟨link, hlink, rfl⟩ := Option.map_eq_some_iff.mp hstep
    obtain ⟨hserver, hclient, hop⟩ := server_of_step hlink
    exact h.session hserver hop hclient rfl rfl fun _ _ hcoming => hcoming
  cases e with
  | operate op => exact h.operate hok hstep
  | register =>
    obtain ⟨link, hlink, hs'⟩ := Option.map_eq_some_iff.mp hstep
    obtain ⟨hserver, hclient, hop⟩ := server_of_step hlink
    have hsubscribed := ServerSession.subscribed_of_register hserver
    have hnot : s.disconnected = true → False := fun hd =>
      (h.gone hd).2 (Or.inr hsubscribed)
    split at hs'
    · subst hs'
      exact h.session hserver hop hclient rfl rfl fun hd => (hnot hd).elim
    · subst hs'
      exact h.session hserver hop hclient rfl rfl fun hd => (hnot hd).elim
  | finish =>
    simp only [step, DisconnectLink.serverStep] at hstep
    split at hstep
    · rename_i hsubscribed
      obtain ⟨link, hlink, rfl⟩ := Option.map_eq_some_iff.mp hstep
      obtain ⟨hserver, hclient, hop⟩ := server_of_step hlink
      exact h.session hserver hop hclient rfl rfl fun hd =>
        ((h.gone hd).2 (Or.inr hsubscribed)).elim
    · split at hstep
      · exact hplain hstep
      · simp at hstep
  | notify => exact hplain hstep
  | subscribe | notifyOwn | observe | read | write | update | changed =>
    simp only [step, DisconnectLink.serverStep] at hstep
    split at hstep
    · simp at hstep
    · exact hplain hstep

lemma Kept.deliver (h : s.Kept) (hok : s.Undisturbed .deliver)
    (hstep : s.step sha256 .deliver = some s') : s'.Kept := by
  simp only [step, DisconnectLink.deliver] at hstep
  split at hstep
  · rename_i m rest hqueue
    split at hstep
    · simp at hstep
    · split at hstep
      · rename_i hrefuses
        obtain rfl := Option.some.inj hstep
        refine h.move h.unregistered id rfl rfl rfl fun hd _ hcoming => ?_
        have hlate : s.closed ≠ none := by
          intro hopen
          have hfirst := (hok.2 hd).1 hopen
          simp [closesFirst, hqueue, hrefuses] at hfirst
        exact hcoming.close hlate .serverConnectionError
      · obtain ⟨link, hlink, rfl⟩ := Option.map_eq_some_iff.mp hstep
        obtain ⟨⟨requestId, services, hserver⟩, hclient⟩ := server_of_deliver hlink
        exact h.session hserver (by simp) hclient rfl rfl fun _ _ hcoming => hcoming
  · simp at hstep

/-! ## Steps of the client -/

lemma client_of_step {link link' : ControlLink} {e : Client.Event}
    (h : link.step sha256 (.client e) = some link') :
    link.client.step e = some link'.client ∧ link'.server = link.server ∧
      link.client.onConnection = true := by
  simp only [ControlLink.step, ControlLink.clientStep] at h
  split at h
  · rename_i hon
    split at h
    · obtain ⟨client, hclient, rfl⟩ := Option.map_eq_some_iff.mp h
      exact ⟨hclient, rfl, hon⟩
    · split at h
      · split at h
        · obtain ⟨client, hclient, rfl⟩ := Option.map_eq_some_iff.mp h
          exact ⟨hclient, rfl, hon⟩
        · simp at h
      · simp at h
  · simp at h

lemma Kept.clientStep (h : s.Kept) {e : Client.Event} (hok : s.Undisturbed (.client e))
    (hstep : s.step sha256 (.client e) = some s') : s'.Kept := by
  simp only [step] at hstep
  split at hstep
  · rename_i hpermits
    obtain ⟨link, hlink, rfl⟩ := Option.map_eq_some_iff.mp hstep
    obtain ⟨hclient, hserver, hon⟩ := client_of_step hlink
    refine ⟨?_, fun hne => ?_, fun hd => ?_, fun hd => ?_⟩
    · show link.server.Unregistered → link.server.id ∉ link.server.runtime.value.state.sessions
      rw [hserver]
      exact h.unregistered
    · show link.server.Gone
      rw [hserver]
      exact h.closing hne
    · show link.server.Gone
      rw [hserver]
      exact h.gone hd
    · show link.client.StoppedByAdministrator ∨ link.client.isConnected = true ∧ s.Coming
      rcases h.outcome hd with hstopped | ⟨hconnected, hcoming⟩
      · simp [Client.onConnection, hstopped.1] at hon
      · obtain ⟨config, c, hphase⟩ := Client.exists_phase_of_isConnected hconnected
        by_cases hclosed : ∃ error administrator, e = .closed error administrator
        · obtain ⟨error, administrator, rfl⟩ := hclosed
          -- the client learns the reason of the administrator
          have htrue : administrator = true := by
            rcases hcoming with ⟨-, harrived, -⟩ | ⟨-, harrived | harrived⟩
            · simp [permits, harrived] at hpermits
            · simp [permits, harrived] at hpermits
            · simpa [permits, harrived, CloseReason.isAdministratorDisconnect] using hpermits
          subst htrue
          rw [Client.step_closed_administrator hphase] at hclient
          rw [← Option.some.inj hclient]
          exact Or.inl ⟨rfl, rfl⟩
        · have hstay := (hok.2 hd).2
          simp only [leavesOtherwise, hphase] at hstay
          have hconnected' := Client.isConnected_of_step hphase hclient
            fun error administrator he => hclosed ⟨error, administrator, he⟩
          rw [hstay] at hconnected'
          exact Or.inr ⟨hconnected', hcoming⟩
  · simp at hstep

lemma Kept.step (h : s.Kept) {e : Event} (hok : s.Undisturbed e)
    (hstep : s.step sha256 e = some s') : s'.Kept := by
  have hclose : s.closesFirst e = true → ∀ reason, s.disconnected = true → s.Coming →
      (s.close reason).Coming := by
    intro hfirst reason hd hcoming
    refine hcoming.close (fun hopen => ?_) reason
    simp [(hok.2 hd).1 hopen] at hfirst
  cases e with
  | server e => exact h.serverStep hok hstep
  | deliver => exact h.deliver hok hstep
  | client e => exact h.clientStep hok hstep
  | leaveLoop =>
    have hleave : s' = s.leaveLoop := by
      simp only [DisconnectLink.step] at hstep
      split at hstep
      · split at hstep
        · simp at hstep
        · exact (Option.some.inj hstep).symm
      · split at hstep
        · simp at hstep
        · exact (Option.some.inj hstep).symm
      · simp at hstep
    subst hleave
    exact h.move h.unregistered id rfl rfl rfl fun hd _ => hclose rfl .serverConnectionError hd
  | serverShutdown =>
    obtain rfl := Option.some.inj hstep
    exact h.move h.unregistered id rfl rfl rfl fun hd _ => hclose rfl .serverShutdown hd
  | close =>
    simp only [DisconnectLink.step] at hstep
    split at hstep
    · rename_i code rest hclosing
      obtain rfl := Option.some.inj hstep
      refine ⟨h.unregistered, fun _ => h.closing (by simp [hclosing]), h.gone, fun hd => ?_⟩
      refine (h.outcome hd).imp_right fun ⟨hconnected, hcoming⟩ => ⟨hconnected, Or.inr ?_⟩
      rcases hcoming with ⟨hopen, harrived, honly⟩ | ⟨hclosed, harrived⟩
      · obtain ⟨rfl, -⟩ := List.cons.inj (hclosing.symm.trans honly)
        exact ⟨by simp [DisconnectLink.close, hopen], Or.inl harrived⟩
      · exact ⟨by simp [DisconnectLink.close, hclosed], harrived⟩
    · simp at hstep
  | arrive =>
    simp only [DisconnectLink.step] at hstep
    split at hstep
    · rename_i reason hreason harrived
      obtain rfl := Option.some.inj hstep
      refine h.move h.unregistered id rfl rfl rfl fun hd _ hcoming => Or.inr ?_
      rcases hcoming with ⟨hopen, -⟩ | ⟨hclosed, -⟩
      · simp [hopen] at hreason
      · exact ⟨hclosed, Or.inr (hreason.symm.trans hclosed)⟩
    · simp at hstep
  | lose =>
    simp only [DisconnectLink.step] at hstep
    split at hstep
    · simp at hstep
    · obtain rfl := Option.some.inj hstep
      refine h.move h.unregistered id rfl rfl rfl fun hd => ?_
      have hlost := (hok.2 hd).2
      simp [leavesOtherwise] at hlost

/-! ## The client stops -/

/-- A step in which nothing is closed and the loop of the client is not left otherwise. -/
lemma undisturbed_of_quiet {e : Event} (hdisconnects : s.disconnects e = false)
    (hfirst : s.closesFirst e = false) (hleaves : s.leavesOtherwise e = false) :
    s.Undisturbed e :=
  ⟨fun h => by simp [hdisconnects] at h, fun _ => ⟨fun _ => hfirst, hleaves⟩⟩

variable (sha256) in
/-- When the client's end knows the reason of the administrator, the `closed` branch is ready
and stops the client. -/
lemma stops_of_arrived (hconnected : s.link.client.isConnected = true)
    (harrived : s.arrived = some (.runtime .administratorDisconnect)) :
    ∃ s', Reach (DisconnectLink.step sha256) Undisturbed s s' ∧
      s'.link.client.StoppedByAdministrator := by
  obtain ⟨config, c, hphase⟩ := Client.exists_phase_of_isConnected hconnected
  have hon := Client.onConnection_of_isConnected hconnected
  let e : Client.Event := .closed (.quinnConnection "") true
  let stopped := s.link.client.select.stop (some "客户端已被管理员下线")
  have hclient : s.link.client.step e = some stopped :=
    Client.step_closed_administrator hphase
  have hlink : s.link.step sha256 (.client e) = some (s.link.setClient stopped) := by
    simp only [ControlLink.step, ControlLink.clientStep, hon, if_true, hclient]
    rfl
  have hstep : s.step sha256 (.client e) = some (s.setLink (s.link.setClient stopped)) := by
    have hpermits : s.permits e = true := by
      simp [permits, e, harrived, CloseReason.isAdministratorDisconnect]
    simp only [step, hpermits, if_true, hlink, Option.map_some]
  have hok : s.Undisturbed (.client e) :=
    undisturbed_of_quiet rfl rfl (by simp [leavesOtherwise, hphase, e, Client.leavesOtherwise])
  exact ⟨_, Reach.init.next hok hstep, rfl, rfl⟩

variable (sha256) in
lemma stops_of_closed (hconnected : s.link.client.isConnected = true)
    (hclosed : s.closed = some (.runtime .administratorDisconnect)) (harrived : s.arrived = none) :
    ∃ s', Reach (DisconnectLink.step sha256) Undisturbed s s' ∧
      s'.link.client.StoppedByAdministrator := by
  let t : DisconnectLink := { s with arrived := some (.runtime .administratorDisconnect) }
  have hstep : s.step sha256 .arrive = some t := by
    simp [step, hclosed, harrived, t]
  have hok : s.Undisturbed .arrive := undisturbed_of_quiet rfl rfl rfl
  obtain ⟨s', hreach, hstopped⟩ := stops_of_arrived (s := t) sha256 hconnected rfl
  exact ⟨s', (Reach.init.next hok hstep).trans hreach, hstopped⟩

lemma Coming.stops (h : s.Coming) (hconnected : s.link.client.isConnected = true) :
    ∃ s', Reach (DisconnectLink.step sha256) Undisturbed s s' ∧
      s'.link.client.StoppedByAdministrator := by
  rcases h with ⟨hopen, harrived, hclosing⟩ | ⟨hclosed, harrived | harrived⟩
  · let t : DisconnectLink := { s.close (.runtime .administratorDisconnect) with closing := [] }
    have hstep : s.step sha256 .close = some t := by
      simp only [step, hclosing]
      rfl
    have hok : s.Undisturbed .close := undisturbed_of_quiet rfl rfl rfl
    have hclosed : t.closed = some (.runtime .administratorDisconnect) := by
      simp [t, DisconnectLink.close, hopen]
    obtain ⟨s', hreach, hstopped⟩ :=
      stops_of_closed (s := t) sha256 hconnected hclosed harrived
    exact ⟨s', (Reach.init.next hok hstep).trans hreach, hstopped⟩
  · exact stops_of_closed sha256 hconnected hclosed harrived
  · exact stops_of_arrived sha256 hconnected harrived

/-- **An administrator disconnect stops the client when nothing gets between.**  In a run in which
the connection is open when `disconnect` removes the session, the session task and a shutdown do
not close it before the administrator has, and the client leaves its loop through the `closed`
branch only, a client that was connected when `disconnect` was called has stopped with the reason
of the administrator, or it is still in its loop and can stop in this way. -/
theorem disconnected_client_stops {id : SessionId} {client : Client}
    (hreach : Reach (DisconnectLink.step sha256) Undisturbed (start id client) s)
    (hdisconnected : s.disconnected = true) :
    s.link.client.StoppedByAdministrator ∨
      (s.link.client.isConnected = true ∧
        ∃ s', Reach (DisconnectLink.step sha256) Undisturbed s s' ∧
          s'.link.client.StoppedByAdministrator) := by
  have h : s.Kept := hreach.invariant kept_start fun _ _ _ h hok hstep => h.step hok hstep
  exact (h.outcome hdisconnected).imp_right fun ⟨hconnected, hcoming⟩ =>
    ⟨hconnected, hcoming.stops hconnected⟩

/-! ## Sample runs -/

/-- The client connects and declares the tunnel `web`. -/
def connectEvents : List Event := ControlLink.connectEvents.map fun
  | .server e => .server e
  | .deliver => .deliver
  | .client e => .client e

/-- `disconnect` removes the session 1 and notifies. -/
def disconnectEvents : List Event :=
  [.server (.operate (.disconnect 1)), .server .notify]

/-- The client has left its loop in another way than the administrator wants it to. -/
def escaped (s : DisconnectLink) : Bool :=
  match s.link.client.phase with
  | .retrying _ => s.disconnected
  | _ => false

lemma not_stops_of_escaped (h : s.escaped = true) : s.disconnected = true ∧
    ¬(s.link.client.StoppedByAdministrator ∨ s.link.client.isConnected = true) := by
  unfold escaped at h
  split at h
  · rename_i config hphase
    refine ⟨h, ?_⟩
    rintro (⟨hstopped, -⟩ | hconnected)
    · simp [hphase] at hstopped
    · simp [Client.isConnected, hphase] at hconnected
  · simp at h

/-- The administrator disconnects the client, and the client stops. -/
theorem sample_client_stops :
    ∃ s, Reach (DisconnectLink.step TunnelRuntime.sampleSha256) Undisturbed
        (start 1 ControlLink.sampleClient) s ∧ s.disconnected = true ∧
      (s.link.client.StoppedByAdministrator ∨
        (s.link.client.isConnected = true ∧
          ∃ s', Reach (DisconnectLink.step TunnelRuntime.sampleSha256) Undisturbed s s' ∧
            s'.link.client.StoppedByAdministrator)) := by
  have hrun : (exec (DisconnectLink.step TunnelRuntime.sampleSha256) Undisturbed
      (start 1 ControlLink.sampleClient) (connectEvents ++ disconnectEvents ++
        [.close, .arrive, .client (.closed (.quinnConnection "") true)])).map
        (·.disconnected) = some true := by decide +kernel
  obtain ⟨s, hs, hdisconnected⟩ := Option.map_eq_some_iff.mp hrun
  have hreach := reach_of_exec hs
  exact ⟨s, hreach, hdisconnected, disconnected_client_stops hreach hdisconnected⟩

/-- The `read_frame` branch sees the lost connection first, and the client reconnects. -/
theorem client_reconnects_after_failed_read :
    ¬∀ s, Reach (DisconnectLink.step TunnelRuntime.sampleSha256) Always
        (start 1 ControlLink.sampleClient) s → s.disconnected = true →
      s.link.client.StoppedByAdministrator ∨ s.link.client.isConnected = true := by
  intro hall
  have hrun : (exec (DisconnectLink.step TunnelRuntime.sampleSha256) Always
      (start 1 ControlLink.sampleClient) (connectEvents ++ disconnectEvents ++
        [.close, .arrive, .client (.readFailed (.quinnConnection ""))])).map escaped =
      some true := by decide +kernel
  obtain ⟨s, hs, hescaped⟩ := Option.map_eq_some_iff.mp hrun
  obtain ⟨hdisconnected, hnot⟩ := not_stops_of_escaped hescaped
  exact hnot (hall s (reach_of_exec hs) hdisconnected)

/-- The session task reads an update of the client before the administrator closes the
connection, and closes it first: no branch of the client stops it. -/
theorem client_reconnects_after_crossing_update :
    ¬∀ s, Reach (DisconnectLink.step TunnelRuntime.sampleSha256) (fun s e =>
          s.disconnected = true → s.leavesOtherwise e = false)
        (start 1 ControlLink.sampleClient) s → s.disconnected = true →
      s.link.client.StoppedByAdministrator ∨ s.link.client.isConnected = true := by
  intro hall
  have hrun : (exec (DisconnectLink.step TunnelRuntime.sampleSha256)
      (fun s e => s.disconnected = true → s.leavesOtherwise e = false)
      (start 1 ControlLink.sampleClient) (connectEvents ++
        [.client (.command [Client.sampleService "web"] 0 false (.ok ()))] ++ disconnectEvents ++
        [.deliver, .close, .arrive, .client (.closed (.quinnConnection "") false)])).map escaped =
      some true := by decide +kernel
  obtain ⟨s, hs, hescaped⟩ := Option.map_eq_some_iff.mp hrun
  obtain ⟨hdisconnected, hnot⟩ := not_stops_of_escaped hescaped
  exact hnot (hall s (reach_of_exec hs) hdisconnected)

end DisconnectLink

end GateRust.Tunnel
