/-
# Disconnecting a tunnel of a managed client

The administrator takes a tunnel from a session with `disconnect_tunnel`; the client should not
get it back before it knows and asks for it again.  This file puts the session task of the
server and the client loop together, with the messages that are on their way between them in
both directions.

A declaration carries all services of the client, and `enable_tunnels` adds every tunnel that
the client believes to be enabled.  A declaration that was on its way when the administrator
disconnected the tunnel, or that the client made from an old status, gives the tunnel back.
-/
import GateRust.Tunnel.Authentication
import GateRust.Tunnel.ManagedClient
import GateRust.Tunnel.ServerSession
import GateRust.Tunnel.TunnelSelection

namespace GateRust.Tunnel

open Machine RuntimeState

/-! ## Server, client and messages -/

/-- An `UpdateServices` message on its way to the server. -/
structure SentUpdate where
  requestId : UInt64
  services : List ServiceDeclaration
  /-- History: the tunnels that were disconnected, and for which the client had not processed
  a catalog without them since when it sent the message. -/
  unaware : List String

structure ControlLink where
  server : ServerSession
  client : Client
  /-- The hello of the client, once it is written. -/
  hello : Option ClientHello
  toServer : List SentUpdate
  toClient : List ServerFrame
  /-- History: the tunnels that `disconnect_tunnel` has taken from the session. -/
  disconnected : List String
  /-- History: of these, the ones that were enabled in every catalog that the client has
  processed since. -/
  unaware : List String

/-- The entry of the client's log is a hello. -/
def Client.Entry.hello? : Client.Entry → Option ClientHello
  | .hello h => some h
  | .loaded _ | .control _ => none

/-- The frame of the server that the event of the client reads. -/
def Client.Event.frame? : Client.Event → Option ServerFrame
  | .message m => some (.control m)
  | .authentication (.accepted tunnels) => some (.hello tunnels)
  | _ => none

/-- The client still uses the connection of the session. -/
def Client.onConnection (c : Client) : Bool :=
  match c.phase with
  | .authenticating .. | .connected .. => true
  | .loading _ | .waiting _ | .connecting _ | .retrying _ | .stopped => false

instance (s : SessionId) : ∀ op : TunnelRuntime.Operation, Decidable (op.Claims s)
  | .register id .. => inferInstanceAs (Decidable (id = s))
  | .updateServices id _ => inferInstanceAs (Decidable (id = s))
  | .unregister _ | .disconnect _ | .disconnectTunnel .. | .applyTunnels _
  | .applyCredentials _ => inferInstanceAs (Decidable False)

/-- The tunnel that the operation takes from the session by `disconnect_tunnel`. -/
def TunnelRuntime.disconnectedBy (rt : TunnelRuntime) (id : SessionId) :
    TunnelRuntime.Operation → Option String
  | .disconnectTunnel id' tunnel =>
    if id' = id ∧ (rt.disconnectTunnel id' tunnel).1.isOk then some tunnel else none
  | _ => none

namespace ControlLink

inductive Event where
  /-- A step of the session task, or of other tasks of the server. -/
  | server (e : ServerSession.Event)
  /-- The session task reads the next message of the client. -/
  | deliver
  | client (e : Client.Event)

/-- A client whose connection is established, and a server before it accepts it. -/
def start (id : SessionId) (client : Client) : ControlLink :=
  ⟨.start id, client, none, [], [], [], []⟩

variable (link : ControlLink)

/-- The client has taken a step; what it has logged is on its way to the server. -/
def setClient (client : Client) : ControlLink :=
  let entries := client.log.drop link.client.log.length
  { link with
    client
    hello := (entries.findSome? (·.hello?)).or link.hello
    toServer := link.toServer ++ (entries.filterMap Client.Entry.update?).map
      fun (requestId, services) => ⟨requestId, services, link.unaware⟩ }

/-- The client processes a catalog. -/
def learn (tunnels : List ClientTunnel) : ControlLink :=
  { link with unaware := link.unaware.filter (· ∈ Client.enabledNames tunnels) }

/-- `disconnect_tunnel` has returned: the client knows nothing of it, and neither did it when it
sent what is on its way. -/
def markDisconnected (tunnel : String) : ControlLink :=
  { link with
    disconnected := tunnel :: link.disconnected
    unaware := tunnel :: link.unaware
    toServer := link.toServer.map fun m => { m with unaware := tunnel :: m.unaware } }

def setServer (server : ServerSession) : ControlLink := { link with server }

def serverStep (sha256 : GroupSecret → Digest) (e : ServerSession.Event) : Option ControlLink :=
  match e with
  | .operate op =>
    if op.Claims link.server.id then none
    else
      (link.server.step sha256 e).map fun server =>
        match link.server.runtime.value.disconnectedBy link.server.id op with
        | some tunnel => (link.setServer server).markDisconnected tunnel
        | none => link.setServer server
  | .register deviceId _ _ _ services _ =>
    match link.hello with
    | some hello =>
      if hello.deviceId = deviceId ∧ hello.services = services then
        (link.server.step sha256 e).map link.setServer
      else none
    | none => none
  | .write =>
    match link.server.phase with
    | .writing frame =>
      (link.server.step sha256 e).map { link with toClient := link.toClient ++ [frame] }.setServer
    | _ => none
  -- the messages of the client come from the link
  | .update .. => none
  | e => (link.server.step sha256 e).map link.setServer

def clientStep (e : Client.Event) : Option ControlLink :=
  if link.client.onConnection then
    match e.frame? with
    | none => (link.client.step e).map link.setClient
    | some frame =>
      match link.toClient with
      | next :: rest =>
        if next = frame then
          (link.client.step e).map ({ link with toClient := rest }.learn frame.tunnels).setClient
        else none
      | [] => none
  else none

def step (sha256 : GroupSecret → Digest) (link : ControlLink) : Event → Option ControlLink
  | .server e => link.serverStep sha256 e
  | .deliver =>
    match link.toServer with
    | m :: rest =>
      (link.server.step sha256 (.update m.requestId m.services)).map
        { link with toServer := rest }.setServer
    | [] => none
  | .client e => link.clientStep e

/-- The session of the link owns the tunnel. -/
def Owns (tunnel : String) : Prop :=
  ∃ owner, link.server.runtime.value.state.owners.lookup tunnel = some owner ∧
    owner.sessionId = link.server.id

def FreshSessions (link : ControlLink) : Event → Prop
  | .server e => link.server.FreshSessions e
  | .deliver | .client _ => True

instance : ∀ (link : ControlLink) (e : Event), Decidable (link.FreshSessions e)
  | link, .server e => inferInstanceAs (Decidable (link.server.FreshSessions e))
  | _, .deliver | _, .client _ => inferInstanceAs (Decidable True)

end ControlLink

/-! ## How the session of the link becomes an owner -/

namespace ServerSession

variable {sha256 : GroupSecret → Digest} {s s' : ServerSession} {t : String}
  {owner : TunnelOwner}

lemma id_of_step {e : Event} (h : s.step sha256 e = some s') : s'.id = s.id := by
  cases steps_of_step h <;> rfl

/-- The steps in which the session declares no services make it the owner of nothing. -/
lemma owner_of_step (hc : s.runtime.value.state.Consistent) {e : Event}
    (h : s.step sha256 e = some s') (hop : ∀ op, e = .operate op → ¬op.Claims s.id)
    (hphase : s.phase ≠ .subscribed)
    (hupdate : ∀ requestId services, e ≠ .update requestId services)
    (howner : s'.runtime.value.state.owners.lookup t = some owner)
    (hid : owner.sessionId = s.id) :
    s.runtime.value.state.owners.lookup t = some owner := by
  have hleave : s.leave.runtime.value.state.owners.lookup t = some owner →
      s.runtime.value.state.owners.lookup t = some owner :=
    TunnelRuntime.owner_of_removed (TunnelRuntime.unregister_state s.runtime.value s.id)
  cases steps_of_step h with
  | operate op => exact TunnelRuntime.owner_of_not_claims hc (hid ▸ hop op rfl) howner
  | registered hsubscribed | rejected hsubscribed => exact absurd hsubscribed hphase
  | @updated requestId services => exact absurd rfl (hupdate requestId services)
  | @refused requestId services => exact absurd rfl (hupdate requestId services)
  | finished => exact hleave howner
  | notify | subscribe | notifyOwn | observe | read | write | changed | abandoned => exact howner

/-- An update makes the session the owner of tunnels that it declares only. -/
lemma owner_of_update (hc : s.runtime.value.state.Consistent) {requestId : UInt64}
    {services : List ServiceDeclaration}
    (h : s.step sha256 (.update requestId services) = some s')
    (howner : s'.runtime.value.state.owners.lookup t = some owner) :
    s.runtime.value.state.owners.lookup t = some owner ∨ t ∈ services.map (·.name) := by
  cases steps_of_step h with
  | updated =>
    have hnew : (s.runtime.value.updateServices s.id services).2.state.owners.lookup t =
        some owner := howner
    cases hold : s.runtime.value.state.owners.lookup t with
    | none =>
      obtain ⟨-, spec, -, hkind⟩ := TunnelRuntime.claims_of_updateServices hold hnew
      obtain ⟨service, hmem, hservice⟩ :=
        List.mem_map.mp (AList.mem_of_lookup_ofList hkind)
      exact Or.inr (List.mem_map.mpr ⟨service, hmem, (Prod.mk.inj hservice).1⟩)
    | some owner' =>
      obtain ⟨hkeep, hrelease⟩ := TunnelRuntime.keptUnless_updateServices hc hold s.id services
      refine Or.inl ((hkeep fun hr => ?_).symm.trans hnew)
      exact absurd ((hrelease hr).symm.trans hnew) (by simp)
  | refused =>
    exact Or.inl (TunnelRuntime.owner_of_removed
      (TunnelRuntime.unregister_state s.runtime.value s.id) howner)

/-- The session task has not registered its session. -/
def Unregistered (s : ServerSession) : Prop := s.phase = .starting ∨ s.phase = .subscribed

lemma not_unregistered_operateOwn {rt : TunnelRuntime} {reply : Reply} :
    ¬(s.operateOwn rt reply).Unregistered := by
  simp only [Unregistered, operateOwn]
  cases s.runtime.value.notifies rt <;> simp

end ServerSession

namespace TunnelRuntime

variable {sha256 : GroupSecret → Digest} {rt : TunnelRuntime}

lemma mem_of_sessionsFrom {st st' : RuntimeState} {id : SessionId} (h : SessionsFrom st' st)
    (hid : id ∈ st'.sessions) : id ∈ st.sessions := by
  obtain ⟨a', ha'⟩ := AList.lookup_of_mem hid
  obtain ⟨a, ha, -⟩ := h.session ha'
  exact AList.mem_of_lookup ha

/-- Only `register` adds a session. -/
lemma not_mem_sessions_perform {id : SessionId} (h : id ∉ rt.state.sessions) {op : Operation}
    (hop : ¬op.Claims id) : id ∉ (rt.perform sha256 op).state.sessions := by
  intro hid
  by_cases hexternal : op.isExternal
  · exact h (mem_of_sessionsFrom (sessionsFrom_perform hexternal) hid)
  · cases op with
    | register id' deviceId group digest connection services now =>
      rcases register_cases rt id' deviceId group digest connection services now with
        ⟨_, heq⟩ | ⟨-, -, -, entry, -, -, -, -, heq⟩
      · rw [perform, heq] at hid
        exact h hid
      · rw [perform, heq] at hid
        have hinsert : id ∈ rt.state.sessions.insert id' entry := hid
        rcases (AList.mem_insert _).mp hinsert with rfl | hold
        · exact hop rfl
        · exact h hold
    | applyCredentials credentials =>
      have hfrom := (sessionsFrom_applyCredentials sha256 rt credentials).1
      have hold : id ∈ { rt.state with
          credentials := credentialDigests sha256 credentials }.sessions :=
        mem_of_sessionsFrom hfrom hid
      exact h hold
    | _ => exact hexternal rfl

/-- `disconnect_tunnel` succeeds for a session that is online only. -/
lemma mem_sessions_of_disconnectedBy {id : SessionId} {op : Operation} {tunnel : String}
    (h : rt.disconnectedBy id op = some tunnel) :
    op = .disconnectTunnel id tunnel ∧ id ∈ rt.state.sessions := by
  cases op with
  | disconnectTunnel id' tunnel' =>
    simp only [disconnectedBy] at h
    split at h
    · rename_i hok
      obtain ⟨rfl, hok⟩ := hok
      obtain rfl := Option.some.inj h
      refine ⟨rfl, ?_⟩
      by_contra hid
      have hnone : rt.state.sessions.lookup id' = none := AList.lookup_eq_none.mpr hid
      simp [disconnectTunnel, hnone, Except.isOk, Except.toBool] at hok
    · simp at h
  | _ => simp [disconnectedBy] at h

end TunnelRuntime

namespace ServerSession

variable {sha256 : GroupSecret → Digest} {s s' : ServerSession}

/-- A session that is not registered stays out of the runtime until it registers. -/
lemma not_mem_sessions_of_step {e : Event} (h : s.step sha256 e = some s')
    (hop : ∀ op, e = .operate op → ¬op.Claims s.id)
    (hold : s.Unregistered → s.id ∉ s.runtime.value.state.sessions) (hnew : s'.Unregistered) :
    s.Unregistered ∧ s.id ∉ s'.runtime.value.state.sessions := by
  cases steps_of_step h with
  | operate op =>
    exact ⟨hnew, TunnelRuntime.not_mem_sessions_perform (hold hnew) (hop op rfl)⟩
  | notify => exact ⟨hnew, hold hnew⟩
  | subscribe hphase => exact ⟨Or.inl hphase, hold (Or.inl hphase)⟩
  | registered | updated => exact absurd hnew not_unregistered_operateOwn
  | rejected | notifyOwn | observe | read | write | changed | abandoned | refused | finished =>
    simp [Unregistered, leave, operate] at hnew

end ServerSession

/-! ## Runs in which no declaration crosses a disconnect -/

namespace ControlLink

variable {sha256 : GroupSecret → Digest} {link link' : ControlLink}

/-- The tunnel that the event takes from the session by `disconnect_tunnel`. -/
def disconnects (link : ControlLink) : Event → Option String
  | .server (.operate op) => link.server.runtime.value.disconnectedBy link.server.id op
  | _ => none

/-- The tunnels that a command declares; the client sends an update for it when somebody waits
for the response and the write succeeds. -/
def Event.commanded : Event → List String
  | .client (.command services _ false (.ok ())) => services.map (·.name)
  | _ => []

/-- No declaration crosses a disconnect: when the administrator disconnects a tunnel of the
session, no update that declares it is on its way; and the client is given no command that
declares a tunnel which was disconnected before it has processed a catalog in which the tunnel
is not enabled. -/
def NoCrossing (link : ControlLink) (e : Event) : Prop :=
  (∀ tunnel ∈ link.disconnects e, ∀ m ∈ link.toServer, tunnel ∉ m.services.map (·.name)) ∧
    ∀ tunnel ∈ e.commanded, tunnel ∉ link.unaware

/-- Sessions are fresh, and no declaration crosses a disconnect. -/
def Orderly (link : ControlLink) (e : Event) : Prop := link.FreshSessions e ∧ link.NoCrossing e

instance (link : ControlLink) (e : Event) : Decidable (link.Orderly e) :=
  inferInstanceAs (Decidable (_ ∧ (_ ∧ _)))

structure Informed (link : ControlLink) : Prop where
  server : link.server.Informed
  unregistered : link.server.Unregistered →
    link.server.id ∉ link.server.runtime.value.state.sessions ∧ link.disconnected = []
  managed : link.client.managed = true
  updates : ∀ m ∈ link.toServer, ∀ t ∈ m.unaware, t ∉ m.services.map (·.name)

/-- A step of the server is a step of its session, and apart from `disconnect_tunnel` it leaves
the history and the messages to the server alone. -/
structure ServerMove (sha256 : GroupSecret → Digest) (link : ControlLink)
    (e : ServerSession.Event) (link' : ControlLink) : Prop where
  server : link.server.step sha256 e = some link'.server
  claims : ∀ op, e = .operate op → ¬op.Claims link.server.id
  update : ∀ requestId services, e ≠ .update requestId services
  rest : (∃ op tunnel, e = .operate op ∧
      link.server.runtime.value.disconnectedBy link.server.id op = some tunnel ∧
      link' = (link.setServer link'.server).markDisconnected tunnel) ∨
    ∃ toClient, link' = { link with server := link'.server, toClient }

lemma serverMove_of_map {e : ServerSession.Event} {toClient : List ServerFrame}
    (h : (link.server.step sha256 e).map { link with toClient }.setServer = some link')
    (hop : ∀ op, e ≠ .operate op) (hupdate : ∀ requestId services, e ≠ .update requestId services) :
    ServerMove sha256 link e link' := by
  obtain ⟨server, hserver, rfl⟩ := Option.map_eq_some_iff.mp h
  exact ⟨hserver, fun op he => absurd he (hop op), hupdate, Or.inr ⟨toClient, rfl⟩⟩

lemma serverMove_of_serverStep {e : ServerSession.Event}
    (h : link.serverStep sha256 e = some link') : ServerMove sha256 link e link' := by
  cases e with
  | operate op =>
    simp only [serverStep] at h
    split at h
    · simp at h
    · rename_i hclaims
      obtain ⟨server, hserver, hlink⟩ := Option.map_eq_some_iff.mp h
      have hop : ∀ op', ServerSession.Event.operate op = .operate op' →
          ¬op'.Claims link.server.id := by
        rintro op' ⟨⟩
        exact hclaims
      split at hlink
      · rename_i tunnel htunnel
        subst hlink
        exact ⟨hserver, hop, by simp, Or.inl ⟨op, tunnel, rfl, htunnel, rfl⟩⟩
      · subst hlink
        exact ⟨hserver, hop, by simp, Or.inr ⟨link.toClient, rfl⟩⟩
  | register deviceId group digest connection services now =>
    simp only [serverStep] at h
    split at h
    · split at h
      · exact serverMove_of_map h (by simp) (by simp)
      · simp at h
    · simp at h
  | write =>
    simp only [serverStep] at h
    split at h
    · exact serverMove_of_map h (by simp) (by simp)
    · simp at h
  | update => simp [serverStep] at h
  | notify | subscribe | notifyOwn | observe | read | changed | finish =>
    exact serverMove_of_map h (by simp) (by simp)

/-- A step of the client is a step of its loop; the updates that it sends are those of a
command. -/
structure ClientMove (link : ControlLink) (e : Client.Event) (link' : ControlLink) : Prop where
  server : link'.server = link.server
  managed : link'.client.managed = true
  disconnected : link'.disconnected = link.disconnected
  updates : ∀ m ∈ link'.toServer, m ∈ link.toServer ∨ ∃ services response,
    e = .command services response false (.ok ()) ∧
      m.services = Client.declarations services ∧ ∀ t ∈ m.unaware, t ∈ link.unaware

variable (link) in
lemma clientMove_setClient {e : Client.Event} {client : Client}
    (hm : link.client.managed = true) (h : link.client.step e = some client) :
    ClientMove link e (link.setClient client) := by
  obtain ⟨hmanaged, entries, hlog, hupdates⟩ := Client.updates_of_step hm h
  refine ⟨rfl, hmanaged, rfl, fun m hmem => ?_⟩
  rcases List.mem_append.mp hmem with hold | hnew
  · exact Or.inl hold
  · simp only [hlog, List.drop_left] at hnew
    obtain ⟨⟨requestId, declared⟩, hentry, rfl⟩ := List.mem_map.mp hnew
    obtain ⟨services, response, he, hdeclared⟩ := hupdates requestId declared hentry
    exact Or.inr ⟨services, response, he, hdeclared, fun t ht => ht⟩

lemma clientMove_of_clientStep {e : Client.Event} (hm : link.client.managed = true)
    (h : link.clientStep e = some link') : ClientMove link e link' := by
  unfold clientStep at h
  split at h
  · split at h
    · obtain ⟨client, hclient, rfl⟩ := Option.map_eq_some_iff.mp h
      exact clientMove_setClient link hm hclient
    · rename_i frame hframe
      split at h
      · split at h
        · obtain ⟨client, hclient, rfl⟩ := Option.map_eq_some_iff.mp h
          obtain ⟨hserver, hmanaged, hdisc, hupdates⟩ :=
            clientMove_setClient ({ link with toClient := _ }.learn frame.tunnels) hm hclient
          refine ⟨hserver, hmanaged, hdisc, fun m hmem => ?_⟩
          rcases hupdates m hmem with hold | ⟨services, response, rfl, -⟩
          · exact Or.inl hold
          · simp [Client.Event.frame?] at hframe
        · simp at h
      · simp at h
  · simp at h

lemma informed_start {id : SessionId} {client : Client} (hm : client.managed = true) :
    (start id client).Informed where
  server := ServerSession.informed_start id
  unregistered _ := ⟨by simp [start, ServerSession.start, TunnelRuntime.new], rfl⟩
  managed := hm
  updates m h := by simp [start] at h

lemma Informed.serverStep (h : link.Informed) {e : ServerSession.Event}
    (hok : link.Orderly (.server e)) (hmove : ServerMove sha256 link e link') :
    link'.Informed := by
  have hserver := h.server.step hok.1 hmove.server
  have hid := ServerSession.id_of_step hmove.server
  have hunreg : link'.server.Unregistered → link.server.Unregistered ∧
      link'.server.id ∉ link'.server.runtime.value.state.sessions := by
    intro hnew
    rw [hid]
    exact ServerSession.not_mem_sessions_of_step hmove.server hmove.claims
      (fun hold => (h.unregistered hold).1) hnew
  rcases hmove.rest with ⟨op, tunnel, rfl, htunnel, hlink⟩ | ⟨toClient, hlink⟩
  · have honline := (TunnelRuntime.mem_sessions_of_disconnectedBy htunnel).2
    refine ⟨hserver, fun hnew => ?_, ?_, ?_⟩
    · exact absurd honline (h.unregistered (hunreg hnew).1).1
    · rw [hlink]
      exact h.managed
    · -- nothing on its way declares the tunnel
      rw [hlink]
      intro m hmem t ht
      obtain ⟨m', hm', rfl⟩ := List.mem_map.mp hmem
      rcases List.mem_cons.mp ht with rfl | hold
      · exact hok.2.1 t htunnel m' hm'
      · exact h.updates m' hm' t hold
  · refine ⟨hserver, fun hnew => ⟨(hunreg hnew).2, ?_⟩, ?_, ?_⟩
    · rw [hlink]
      exact (h.unregistered (hunreg hnew).1).2
    · rw [hlink]
      exact h.managed
    · rw [hlink]
      exact h.updates

lemma Informed.deliver (h : link.Informed) {m : SentUpdate} {rest : List SentUpdate}
    (hqueue : link.toServer = m :: rest) {server : ServerSession}
    (hstep : link.server.step sha256 (.update m.requestId m.services) = some server) :
    Informed ({ link with toServer := rest }.setServer server) where
  server := by
    have hfresh : link.server.FreshSessions (.update m.requestId m.services) := trivial
    exact h.server.step hfresh hstep
  unregistered hnew := by
    obtain ⟨hold, hnot⟩ := ServerSession.not_mem_sessions_of_step hstep (by simp)
      (fun hold => (h.unregistered hold).1) hnew
    refine ⟨?_, (h.unregistered hold).2⟩
    show server.id ∉ _
    rw [ServerSession.id_of_step hstep]
    exact hnot
  managed := h.managed
  updates m' hm' := h.updates m' (by rw [hqueue]; exact List.mem_cons_of_mem m hm')

lemma Informed.clientStep (h : link.Informed) {e : Client.Event}
    (hok : link.Orderly (.client e)) (hmove : ClientMove link e link') : link'.Informed where
  server := hmove.server ▸ h.server
  unregistered := by
    rw [hmove.server, hmove.disconnected]
    exact h.unregistered
  managed := hmove.managed
  updates m hm t ht := by
    rcases hmove.updates m hm with hold | ⟨services, response, rfl, hservices, hunaware⟩
    · exact h.updates m hold t ht
    · -- the command declares no tunnel that the client takes for enabled by mistake
      rw [hservices]
      intro hmem
      obtain ⟨declared, hdeclared, rfl⟩ := List.mem_map.mp hmem
      obtain ⟨service, hservice, rfl⟩ := List.mem_map.mp hdeclared
      exact hok.2.2 service.name (List.mem_map.mpr ⟨service, hservice, rfl⟩) (hunaware _ ht)

lemma Informed.step (h : link.Informed) {e : Event} (hok : link.Orderly e)
    (hstep : link.step sha256 e = some link') : link'.Informed := by
  cases e with
  | server e => exact h.serverStep hok (serverMove_of_serverStep hstep)
  | client e => exact h.clientStep hok (clientMove_of_clientStep h.managed hstep)
  | deliver =>
    simp only [ControlLink.step] at hstep
    split at hstep
    · rename_i hqueue
      obtain ⟨server, hserver, rfl⟩ := Option.map_eq_some_iff.mp hstep
      exact h.deliver hqueue hserver
    · simp at hstep

/-- The session gains a tunnel that was disconnected by an update only, and the update
declares it. -/
lemma gains_by_deliver (h : link.Informed) {e : Event} (hstep : link.step sha256 e = some link')
    {t : String} (ht : t ∈ link.disconnected) (hbefore : ¬link.Owns t) (hafter : link'.Owns t) :
    e = .deliver ∧ ∃ m rest, link.toServer = m :: rest ∧ t ∈ m.services.map (·.name) := by
  have hphase : link.server.phase ≠ .subscribed := by
    intro hphase
    rw [(h.unregistered (Or.inr hphase)).2] at ht
    exact absurd ht List.not_mem_nil
  obtain ⟨owner, howner, hid⟩ := hafter
  cases e with
  | server e =>
    have hmove := serverMove_of_serverStep hstep
    rw [ServerSession.id_of_step hmove.server] at hid
    exact absurd ⟨owner, ServerSession.owner_of_step h.server.consistent hmove.server hmove.claims
      hphase hmove.update howner hid, hid⟩ hbefore
  | client e =>
    have hmove := clientMove_of_clientStep h.managed hstep
    rw [hmove.server] at howner hid
    exact absurd ⟨owner, howner, hid⟩ hbefore
  | deliver =>
    simp only [ControlLink.step] at hstep
    split at hstep
    · rename_i m rest hqueue
      obtain ⟨server, hserver, rfl⟩ := Option.map_eq_some_iff.mp hstep
      have hid' : owner.sessionId = link.server.id := hid.trans (ServerSession.id_of_step hserver)
      refine ⟨rfl, m, rest, hqueue, ?_⟩
      rcases ServerSession.owner_of_update h.server.consistent hserver howner with hold | hnew
      · exact absurd ⟨owner, hold, hid'⟩ hbefore
      · exact hnew
    · simp at hstep

/-- **A disconnect is not undone by a declaration that the client made before it knew.**  In a
run in which no declaration crosses a disconnect, a session that gains a tunnel after
`disconnect_tunnel` has taken it gains it by an update that the client sent after it had
processed a catalog in which the tunnel is not enabled. -/
theorem disconnect_kept_without_crossing {id : SessionId} {client : Client}
    (hm : client.managed = true)
    (hreach : Reach (ControlLink.step sha256) Orderly (start id client) link) {e : Event}
    (hstep : link.step sha256 e = some link') {t : String} (ht : t ∈ link.disconnected)
    (hbefore : ¬link.Owns t) (hafter : link'.Owns t) :
    e = .deliver ∧ ∃ m rest, link.toServer = m :: rest ∧ t ∉ m.unaware := by
  have h : link.Informed :=
    hreach.invariant (informed_start hm) fun _ _ _ h hok hstep => h.step hok hstep
  obtain ⟨he, m, rest, hqueue, hdeclared⟩ := gains_by_deliver h hstep ht hbefore hafter
  refine ⟨he, m, rest, hqueue, fun hunaware => ?_⟩
  exact h.updates m (by rw [hqueue]; exact List.mem_cons_self) t hunaware hdeclared

/-! ## Sample runs -/

/-- A managed client that has connected and still has the services of its last connection. -/
def sampleClient : Client :=
  { Client.start true "first" (.error "") with
    phase := .authenticating (Client.sampleConfig ["web"]) false }

def sampleCatalog (web : ClientTunnelState) : List ClientTunnel :=
  [⟨"ssh", .tcp, 2022, some "localhost", some 2022, .idle⟩,
    ⟨"web", .tcp, 8080, some "localhost", some 8080, web⟩]

/-- The client connects, declares the tunnel `web` and gets it. -/
def connectEvents : List Event :=
  [.server (.operate (.applyCredentials [("office", TunnelRuntime.sampleKey)])),
    .server (.operate (.applyTunnels
      [TunnelRuntime.sampleTunnel "ssh" 2022, TunnelRuntime.sampleTunnel "web" 8080])),
    .server .notify, .client .helloWritten, .server .subscribe,
    .server (.register "first" "office" (TunnelRuntime.sampleSha256 TunnelRuntime.sampleKey)
      ⟨1, TunnelRuntime.samplePeer 5001⟩ [⟨"web", .tcp⟩] 0),
    .server .notifyOwn, .server .observe, .server .read, .server .write,
    .client (.authentication (.accepted (sampleCatalog .enabled)))]

/-- The command of `enable_tunnels`, called with the given names in the given status. -/
def enableTunnels (web : ClientTunnelState) (names : List String) : Event :=
  .client (.command ((servicesForEnable (sampleCatalog web) names).toOption.getD []) 0 false
    (.ok ()))

/-- The next delivery gives the tunnel `web`, which was disconnected, to the session. -/
def regainsWeb (link : ControlLink) : Bool :=
  match link.step TunnelRuntime.sampleSha256 .deliver with
  | none => false
  | some link' =>
    "web" ∈ link.disconnected && (link.server.runtime.value.state.owners.lookup "web").isNone &&
      (link'.server.runtime.value.state.owners.lookup "web").map (·.sessionId) =
        some link'.server.id

lemma gain_of_regainsWeb (h : link.regainsWeb = true) :
    ∃ link', link.step TunnelRuntime.sampleSha256 .deliver = some link' ∧
      "web" ∈ link.disconnected ∧ ¬link.Owns "web" ∧ link'.Owns "web" := by
  unfold regainsWeb at h
  split at h
  · simp at h
  · rename_i link' hstep
    simp only [Bool.and_eq_true, decide_eq_true_eq, Option.isNone_iff_eq_none,
      Option.map_eq_some_iff] at h
    obtain ⟨⟨hdisc, hnone⟩, howner⟩ := h
    refine ⟨link', hstep, hdisc, ?_, howner⟩
    rintro ⟨owner, hlookup, -⟩
    exact absurd (hnone.symm.trans hlookup) (by simp)

/-- The client is told that `web` is idle and enables it again. -/
theorem web_enabled_again_after_catalog :
    ∃ link link', Reach (ControlLink.step TunnelRuntime.sampleSha256) Orderly
        (start 1 sampleClient) link ∧
      link.step TunnelRuntime.sampleSha256 .deliver = some link' ∧ link'.Owns "web" ∧
      ∃ m rest, link.toServer = m :: rest ∧ "web" ∉ m.unaware := by
  have hrun : (exec (ControlLink.step TunnelRuntime.sampleSha256) Orderly (start 1 sampleClient)
      (connectEvents ++ [.server (.operate (.disconnectTunnel 1 "web")), .server .notify,
        .server .changed, .server .read, .server .write,
        .client (.message (.tunnelSnapshot (sampleCatalog .idle))),
        enableTunnels .idle ["web"]])).map regainsWeb = some true := by decide +kernel
  obtain ⟨link, hlink, hregains⟩ := Option.map_eq_some_iff.mp hrun
  obtain ⟨link', hstep, hdisc, hbefore, hafter⟩ := gain_of_regainsWeb hregains
  have hreach := reach_of_exec hlink
  exact ⟨link, link', hreach, hstep, hafter,
    (disconnect_kept_without_crossing rfl hreach hstep hdisc hbefore hafter).2⟩

/-- The client enables `ssh` too and declares all its tunnels; the administrator disconnects
`web` before the update arrives, and the update gives `web` back. -/
theorem web_regained_by_crossing_update :
    ¬∀ link link' e t, Reach (ControlLink.step TunnelRuntime.sampleSha256) FreshSessions
        (start 1 sampleClient) link →
      link.step TunnelRuntime.sampleSha256 e = some link' → t ∈ link.disconnected →
      ¬link.Owns t → link'.Owns t →
      e = .deliver ∧ ∃ m rest, link.toServer = m :: rest ∧ t ∉ m.unaware := by
  intro hall
  have hrun : (exec (ControlLink.step TunnelRuntime.sampleSha256) FreshSessions
      (start 1 sampleClient) (connectEvents ++ [enableTunnels .enabled ["ssh"],
        .server (.operate (.disconnectTunnel 1 "web"))])).map
        (fun link => (link.regainsWeb, link.toServer.map (·.unaware))) =
      some (true, [["web"]]) := by decide +kernel
  obtain ⟨link, hlink, hview⟩ := Option.map_eq_some_iff.mp hrun
  obtain ⟨hregains, hqueue⟩ := Prod.mk.inj hview
  obtain ⟨link', hstep, hdisc, hbefore, hafter⟩ := gain_of_regainsWeb hregains
  obtain ⟨-, m, rest, hm, hunaware⟩ :=
    hall link link' .deliver "web" (reach_of_exec hlink) hstep hdisc hbefore hafter
  rw [hm, List.map_cons, List.cons.injEq] at hqueue
  rw [hqueue.1] at hunaware
  exact hunaware List.mem_cons_self

end ControlLink

end GateRust.Tunnel
