/-
# Service updates and their acknowledgements

Any number of callers of `ClientController::update_services`, the client with all the
connections it makes one after the other, the session task that serves each connection, and
the messages on their way.  A connection that the client has left is still served until its
session task notices, so old connections stay in the state; the last one is the one the client
uses.  Messages may be lost: a `read_frame` call that another branch of its `select!` drops
takes the bytes it has read with it, and closing a connection discards what is on its way.

The client sends an update only when none is pending, and it forgets the pending one together
with its connection.  So an acknowledgement that it reads is the one of the update it waits
for, although the numbers of the requests start again on every connection.
-/
import GateRust.Lib.History
import GateRust.Tunnel.ClientRequests

namespace GateRust.Tunnel

open Machine History Client

/-! ## Calls of the controller -/

/-- Where a call of `update_services` is. -/
inductive CallStage where
  /-- The command waits for room in the channel. -/
  | sending
  /-- The command was put in the channel. -/
  | sent
  | returned (result : Except TunnelError (List ClientTunnel))
  /-- The caller has dropped the call. -/
  | dropped
deriving DecidableEq

structure UpdateCall where
  services : List ClientServiceConfig
  stage : CallStage
deriving DecidableEq

def CallStage.isSending : CallStage → Bool
  | .sending => true
  | .sent | .returned _ | .dropped => false

def CallStage.isSent : CallStage → Bool
  | .sent => true
  | .sending | .returned _ | .dropped => false

/-- The call has not ended; the response channel of an ended call is closed. -/
def CallStage.isOpen (stage : CallStage) : Bool := stage.isSending || stage.isSent

/-- The call has ended without the tunnels of an acknowledgement. -/
def CallStage.isFailed : CallStage → Bool
  | .returned (.error _) | .dropped => true
  | .sending | .sent | .returned (.ok _) => false

/-- Why a call fails without an answer. -/
inductive CallFailure where
  | timeout
  /-- The client has stopped and dropped the channel. -/
  | stopped
  /-- The client has dropped the command. -/
  | unfinished

def CallFailure.error : CallFailure → TunnelError
  | .timeout => .timeout "等待客户端应用服务配置"
  | .stopped => .protocol "客户端控制任务已停止"
  | .unfinished => .protocol "客户端控制请求未完成"

def clientCommandCapacity : ℕ := 4

/-! ## Client, server and messages -/

/-- A connection with the session task that serves it. -/
structure ClientConnection where
  session : SessionId
  seen : ℕ
  phase : SessionPhase
  /-- The hello of the client, once it is written. -/
  hello : Option ClientHello
  /-- The updates on their way to the server. -/
  toServer : List (UInt64 × List ServiceDeclaration)
  toClient : List ServerFrame
  /-- History: the updates that the client has written and whose acknowledgement it has not
  read. -/
  outstanding : List UInt64

namespace ClientConnection

def new (session : SessionId) : ClientConnection := ⟨session, 0, .starting, none, [], [], []⟩

variable (conn : ClientConnection)

/-- The session task with the runtime that all of them share. -/
def serverSession (runtime : Watch TunnelRuntime) : ServerSession :=
  ⟨conn.session, runtime, conn.seen, conn.phase, conn.toClient⟩

def setSession (session : ServerSession) : ClientConnection :=
  { conn with seen := session.seen, phase := session.phase, toClient := session.written }

/-- The client has written what it has logged. -/
def write (entries : List Entry) : ClientConnection :=
  let updates := entries.filterMap Entry.update?
  { conn with
    hello := (entries.findSome? (·.hello?)).or conn.hello
    toServer := conn.toServer ++ updates
    outstanding := conn.outstanding ++ updates.map (·.1) }

end ClientConnection

/-- The request that a frame acknowledges. -/
def ServerFrame.acknowledges? : ServerFrame → Option UInt64
  | .control (.servicesApplied requestId _) => some requestId
  | .hello _ | .control (.tunnelSnapshot _) => none

def Client.isStopped (c : Client) : Bool :=
  match c.phase with
  | .stopped => true
  | .loading _ | .waiting _ | .connecting _ | .authenticating .. | .connected .. | .retrying _ =>
    false

structure ServiceNetwork where
  client : Client
  calls : List UpdateCall
  /-- The channel of the controller, by the numbers of the calls. -/
  commands : List ℕ
  runtime : Watch TunnelRuntime
  /-- All connections that the client has made, the latest last. -/
  connections : List ClientConnection

namespace ServiceNetwork

inductive Event where
  /-- `update_services` is called. -/
  | call (services : List ClientServiceConfig)
  | send (n : ℕ)
  /-- The call gets its answer. -/
  | receive (n : ℕ)
  | fail (n : ℕ) (failure : CallFailure)
  | dropCall (n : ℕ)
  /-- The client connects, and the server gives the connection a session id. -/
  | connect (session : SessionId)
  | client (e : Client.Event)
  /-- A step of the session task of a connection. -/
  | server (k : ℕ) (e : ServerSession.Event)
  /-- The session task of a connection reads an update. -/
  | deliver (k : ℕ)
  /-- An operation of another task of the server. -/
  | operate (op : TunnelRuntime.Operation)
  | notify
  | loseUpdate (k : ℕ)
  | loseFrame (k : ℕ)

def start (client : Client) (runtime : Watch TunnelRuntime) : ServiceNetwork :=
  ⟨client, [], [], runtime, []⟩

variable (s : ServiceNetwork)

/-- The connection of the client. -/
def current : ℕ := s.connections.length - 1

def setStage (n : ℕ) (stage : CallStage) : ServiceNetwork :=
  { s with calls := s.calls.modify n fun call => { call with stage } }

def modifyConnection (k : ℕ) (f : ClientConnection → ClientConnection) : ServiceNetwork :=
  { s with connections := s.connections.modify k f }

/-- The client still has the command or its answer to give. -/
def owesAnswer (n : ℕ) : Bool :=
  (!s.client.isStopped && s.commands.contains n) ||
    s.client.pending?.any (·.response = some n) || (s.client.responses.lookup n).isSome

/-- The failure can happen to a call. -/
def canFail (n : ℕ) (stage : CallStage) : CallFailure → Bool
  | .timeout => stage.isOpen
  | .stopped => stage.isSending && s.client.isStopped
  | .unfinished => stage.isSent && !s.owesAnswer n

def callStep (n : ℕ) (call : UpdateCall) : Event → Option ServiceNetwork
  | .send _ =>
    if call.stage.isSending && s.commands.length < clientCommandCapacity &&
        !s.client.isStopped then
      some { s.setStage n .sent with commands := s.commands ++ [n] }
    else none
  | .receive _ =>
    match s.client.responses.lookup n with
    | some response =>
      if call.stage.isSent then some (s.setStage n (.returned (response.mapError .protocol)))
      else none
    | none => none
  | .fail _ failure =>
    if s.canFail n call.stage failure then some (s.setStage n (.returned (.error failure.error)))
    else none
  | .dropCall _ => if call.stage.isOpen then some (s.setStage n .dropped) else none
  | _ => none

/-- The client has taken a step. -/
def setClient (client : Client) : ServiceNetwork :=
  { s with client }.modifyConnection s.current
    (·.write (client.log.drop s.client.log.length))

/-- The client takes the next frame of its connection. -/
def takeFrame (frame : ServerFrame) : Option ServiceNetwork :=
  match s.connections[s.current]? with
  | some conn =>
    match conn.toClient with
    | next :: rest =>
      if next = frame then
        some (s.modifyConnection s.current fun conn => { conn with
          toClient := rest
          outstanding := conn.outstanding.filter (frame.acknowledges? ≠ some ·) })
      else none
    | [] => none
  | none => none

def clientStep (e : Client.Event) : Option ServiceNetwork :=
  match e with
  -- a connection is made with a session of the server
  | .connectionStep (.ok ()) => none
  | .command services n responseClosed _ =>
    match s.commands, s.calls[n]? with
    | next :: rest, some call =>
      if next = n ∧ services = call.services ∧ responseClosed = !call.stage.isOpen then
        (s.client.step e).map { s with commands := rest }.setClient
      else none
    | _, _ => none
  | e =>
    match e.frame? with
    | none => (s.client.step e).map s.setClient
    | some frame =>
      (s.takeFrame frame).bind fun s' => (s'.client.step e).map s'.setClient

/-- A step of the session task of a connection. -/
def sessionStep (sha256 : GroupSecret → Digest) (k : ℕ) (conn : ClientConnection)
    (e : ServerSession.Event) : Option ServiceNetwork :=
  ((conn.serverSession s.runtime).step sha256 e).map fun session =>
    { s with
      runtime := session.runtime
      connections := s.connections.set k (conn.setSession session) }

def serverStep (sha256 : GroupSecret → Digest) (k : ℕ) (conn : ClientConnection)
    (e : ServerSession.Event) : Option ServiceNetwork :=
  match e with
  -- these are events of their own
  | .operate _ | .notify | .update .. => none
  | .register deviceId _ _ _ services _ =>
    match conn.hello with
    | some hello =>
      if hello.deviceId = deviceId ∧ hello.services = services then s.sessionStep sha256 k conn e
      else none
    | none => none
  | e => s.sessionStep sha256 k conn e

def deliver (sha256 : GroupSecret → Digest) (k : ℕ) (conn : ClientConnection) :
    Option ServiceNetwork :=
  match conn.toServer with
  | (requestId, services) :: rest =>
    s.sessionStep sha256 k { conn with toServer := rest } (.update requestId services)
  | [] => none

def step (sha256 : GroupSecret → Digest) (s : ServiceNetwork) (e : Event) :
    Option ServiceNetwork :=
  match e with
  | .call services =>
    let stage :=
      match validateClientServices services with
      | .ok () => .sending
      | .error error => .returned (.error error)
    some { s with calls := s.calls ++ [⟨services, stage⟩] }
  | .send n | .receive n | .fail n _ | .dropCall n =>
    s.calls[n]?.bind fun call => s.callStep n call e
  | .connect session =>
    (s.client.step (.connectionStep (.ok ()))).map fun client =>
      { s with client, connections := s.connections ++ [.new session] }
  | .client e => s.clientStep e
  | .server k e => s.connections[k]?.bind fun conn => s.serverStep sha256 k conn e
  | .deliver k => s.connections[k]?.bind fun conn => s.deliver sha256 k conn
  | .operate op =>
    let rt := s.runtime.value.perform sha256 op
    some { s with
      runtime := s.runtime.change (s.runtime.value.unannounced rt) (s.runtime.value.notifies rt) }
  | .notify =>
    if s.runtime.pending = 0 then none
    else some { s with runtime := s.runtime.notify s.runtime.value.notify }
  | .loseUpdate k =>
    some (s.modifyConnection k fun conn => { conn with toServer := conn.toServer.tail })
  | .loseFrame k =>
    some (s.modifyConnection k fun conn => { conn with toClient := conn.toClient.tail })

/-! ## What has happened to an update -/

/-- The pending update of the client is the one of the call. -/
def Waits (n : ℕ) : Prop := ∃ p, s.client.pending? = some p ∧ p.response = some n

/-- The client waits for the call on the connection. -/
def Awaits (k n : ℕ) : Prop := s.connections.length = k + 1 ∧ s.Waits n

/-- The session task of the connection, with the given session, is about to read an update that
declares exactly the services; the update is valid, the session is registered, and it is the
one for which the client waits on behalf of the call. -/
structure Applies (k : ℕ) (id : SessionId) (n : ℕ) (services : List ClientServiceConfig) :
    Prop where
  awaits : s.Awaits k n
  update : ∃ conn requestId rest, s.connections[k]? = some conn ∧ conn.session = id ∧
    conn.phase = .waiting ∧ conn.toServer = (requestId, declarations services) :: rest
  valid : validateDeclarations (declarations services) = .ok ()
  registered : (s.runtime.value.updateServices id (declarations services)).1.isSome = true

/-- The step leaves the session with exactly the services. -/
def Leaves (sha256 : GroupSecret → Digest) (e : Event) (id : SessionId)
    (services : List ClientServiceConfig) : Prop :=
  ∃ s', s.step sha256 e = some s' ∧
    (s'.runtime.value.state.sessions.lookup id).map (·.services) =
      some (Tunnel.serviceMap (declarations services))

/-- The server has applied the update of the call, which left the session with exactly the
services of the call. -/
def Applied (sha256 : GroupSecret → Digest) (past : List (ServiceNetwork × Event)) (k : ℕ)
    (id : SessionId) (n : ℕ) (services : List ClientServiceConfig) : Prop :=
  Once (fun _ (s, e) => e = .deliver k ∧ s.Applies k id n services ∧
    s.Leaves sha256 e id services) past

/-- After it had applied the update of the call, the server has read the catalog of the
session. -/
def Reported (sha256 : GroupSecret → Digest) (past : List (ServiceNetwork × Event)) (k : ℕ)
    (id : SessionId) (n : ℕ) (services : List ClientServiceConfig) (tunnels : List ClientTunnel) :
    Prop :=
  Once (fun before (s, e) => e = .server k .read ∧ s.runtime.value.catalog id = tunnels ∧
    Applied sha256 before k id n services) past

/-- After that, the client has read the catalog in an acknowledgement, while it was waiting for
the call on the same connection. -/
def Acknowledged (sha256 : GroupSecret → Digest) (past : List (ServiceNetwork × Event)) (k : ℕ)
    (id : SessionId) (n : ℕ) (services : List ClientServiceConfig) (tunnels : List ClientTunnel) :
    Prop :=
  Once (fun before (s, e) =>
    (∃ requestId, e = .client (.message (.servicesApplied requestId tunnels))) ∧
      s.Awaits k n ∧ Reported sha256 before k id n services tunnels) past

end ServiceNetwork

/-! ## Updates on their way -/

/-- What the server and the network hold of an update that the client has written. -/
inductive Transit where
  | update (services : List ServiceDeclaration)
  | applied
  | acknowledgement (tunnels : List ClientTunnel)

def ServerFrame.transit : ServerFrame → List Transit
  | .control (.servicesApplied _ tunnels) => [.acknowledgement tunnels]
  | .hello _ | .control (.tunnelSnapshot _) => []

def Reply.transit : Reply → List Transit
  | .servicesApplied _ => [.applied]
  | .hello | .tunnelSnapshot => []

def SessionPhase.transit : SessionPhase → List Transit
  | .notifying reply | .observing reply | .reading reply => reply.transit
  | .writing frame => frame.transit
  | .starting | .subscribed | .waiting | .ended => []

namespace ClientConnection

/-- From the client's end of the connection to the server's. -/
def transit (conn : ClientConnection) : List Transit :=
  conn.toClient.flatMap ServerFrame.transit ++ (conn.phase.transit ++
    conn.toServer.map fun update => .update update.2)

open ServiceNetwork in
/-- Where an update on connection `k` that belongs to the pending update `p` comes from. -/
def Justified (sha256 : GroupSecret → Digest)
    (past : List (ServiceNetwork × ServiceNetwork.Event)) (k : ℕ) (id : SessionId)
    (p : PendingServiceUpdate) : Transit → Prop
  | .update services => services = declarations p.updated.services
  | .applied => ∀ n, p.response = some n → Applied sha256 past k id n p.updated.services
  | .acknowledgement tunnels =>
    ∀ n, p.response = some n → Reported sha256 past k id n p.updated.services tunnels

/-- On connection `k` of the client there is the pending update, or nothing. -/
structure Carries (sha256 : GroupSecret → Digest)
    (past : List (ServiceNetwork × ServiceNetwork.Event)) (k : ℕ)
    (pending : Option PendingServiceUpdate) (conn : ClientConnection) : Prop where
  outstanding : conn.outstanding = pending.toList.map (·.requestId)
  length : conn.transit.length ≤ pending.toList.length
  justified : ∀ p, pending = some p → ∀ t ∈ conn.transit, Justified sha256 past k conn.session p t

variable {sha256 : GroupSecret → Digest} {past : List (ServiceNetwork × ServiceNetwork.Event)}
  {k : ℕ} {id : SessionId} {p : PendingServiceUpdate} {pending : Option PendingServiceUpdate}
  {conn conn' : ClientConnection}

lemma Justified.snoc {t : Transit} (h : Justified sha256 past k id p t)
    (a : ServiceNetwork × ServiceNetwork.Event) : Justified sha256 (past ++ [a]) k id p t := by
  cases t with
  | update services => exact h
  | applied => exact fun n hn => (h n hn).snoc
  | acknowledgement tunnels => exact fun n hn => (h n hn).snoc

/-- A step after which the connection carries what it carried before, or less. -/
lemma Carries.move (h : Carries sha256 past k pending conn)
    (a : ServiceNetwork × ServiceNetwork.Event)
    (hout : conn'.outstanding = conn.outstanding) (hid : conn'.session = conn.session)
    (hsub : conn'.transit.Sublist conn.transit) : Carries sha256 (past ++ [a]) k pending conn' where
  outstanding := hout.trans h.outstanding
  length := hsub.length_le.trans h.length
  justified p hp t ht := by
    rw [hid]
    exact (h.justified p hp t (hsub.subset ht)).snoc a

/-- The client starts an update when its connection carries nothing. -/
lemma Carries.started (h : Carries sha256 past k none conn) {requestId : UInt64}
    {services : List ServiceDeclaration} {entries : List Entry}
    (a : ServiceNetwork × ServiceNetwork.Event)
    (hupdate : entries.filterMap Entry.update? = [(requestId, services)])
    (hid : p.requestId = requestId) (hservices : services = declarations p.updated.services) :
    Carries sha256 (past ++ [a]) k (some p) (conn.write entries) := by
  have hnil : conn.transit = [] := List.eq_nil_of_length_eq_zero (Nat.le_zero.mp h.length)
  have htransit : (conn.write entries).transit = [.update services] := by
    simp only [transit, List.append_eq_nil_iff, List.map_eq_nil_iff] at hnil
    obtain ⟨hclient, hphase, hserver⟩ := hnil
    simp [transit, write, hupdate, hclient, hphase, hserver]
  have hout : conn.outstanding = [] := h.outstanding
  refine ⟨?_, by simp [htransit], ?_⟩
  · simp [write, hupdate, hout, hid]
  · rintro p' ⟨⟩ t ht
    rw [htransit, List.mem_singleton] at ht
    subst ht
    exact hservices

/-- The client reads a frame that acknowledges nothing. -/
lemma Carries.takeFrame (h : Carries sha256 past k pending conn)
    (a : ServiceNetwork × ServiceNetwork.Event) {frame : ServerFrame} {rest : List ServerFrame}
    (hframe : conn.toClient = frame :: rest) (hack : frame.acknowledges? = none)
    {entries : List Entry} (hentries : entries.filterMap Entry.update? = []) :
    Carries sha256 (past ++ [a]) k pending ({ conn with
      toClient := rest
      outstanding := conn.outstanding.filter (frame.acknowledges? ≠ some ·) }.write entries) := by
  refine h.move a ?_ rfl ?_
  · simp [write, hentries, hack]
  · have hrest : (rest.flatMap ServerFrame.transit).Sublist
        (conn.toClient.flatMap ServerFrame.transit) := by
      rw [hframe, List.flatMap_cons]
      exact List.sublist_append_right _ _
    simpa [transit, write, hentries] using hrest

/-- The client reads the acknowledgement of the pending update. -/
lemma Carries.answered (h : Carries sha256 past k (some p) conn)
    (a : ServiceNetwork × ServiceNetwork.Event) {tunnels : List ClientTunnel}
    {rest : List ServerFrame}
    (hframe : conn.toClient = .control (.servicesApplied p.requestId tunnels) :: rest) :
    Justified sha256 past k conn.session p (.acknowledgement tunnels) ∧
      Carries sha256 (past ++ [a]) k none ({ conn with
        toClient := rest
        outstanding :=
          conn.outstanding.filter fun id => some p.requestId ≠ some id }.write []) := by
  have htransit : conn.transit = .acknowledgement tunnels ::
      ({ conn with toClient := rest } : ClientConnection).transit := by
    simp only [transit, hframe, List.flatMap_cons, ServerFrame.transit, List.nil_append,
      List.cons_append]
  have hlen := h.length
  rw [htransit, List.length_cons] at hlen
  have hnil : ({ conn with toClient := rest } : ClientConnection).transit = [] :=
    List.eq_nil_of_length_eq_zero (by simpa using hlen)
  refine ⟨h.justified p rfl _ (htransit ▸ List.mem_cons_self), ?_, ?_, by simp⟩
  · simp [write, h.outstanding]
  · have hwrite : (({ conn with
        toClient := rest
        outstanding := conn.outstanding.filter fun id => some p.requestId ≠ some id } :
          ClientConnection).write []).transit =
        ({ conn with toClient := rest } : ClientConnection).transit := by
      simp [transit, write]
    rw [hwrite, hnil]
    simp

/-! ## Steps of the session task -/

variable {s : ServiceNetwork}

lemma transit_operateOwn {rt : TunnelRuntime} {reply : Reply} {session : ServerSession} :
    (session.operateOwn rt reply).phase.transit = reply.transit := by
  unfold ServerSession.operateOwn
  cases session.runtime.value.notifies rt <;> rfl

/-- The reply becomes an acknowledgement with the catalog of this moment. -/
lemma Carries.read (h : Carries sha256 past k pending conn) {requestId : UInt64}
    (hphase : conn.phase = .reading (.servicesApplied requestId)) :
    Carries sha256 (past ++ [(s, .server k .read)]) k pending { conn with
      phase := .writing
        (.control (.servicesApplied requestId (s.runtime.value.catalog conn.session))) } := by
  refine ⟨h.outstanding, ?_, fun p hp t ht => ?_⟩
  · refine Nat.le_trans (Nat.le_of_eq ?_) h.length
    simp [transit, hphase, SessionPhase.transit, ServerFrame.transit, Reply.transit]
  · simp only [transit, SessionPhase.transit, ServerFrame.transit, List.mem_append,
      List.mem_singleton] at ht
    rcases ht with hclient | rfl | hserver
    · exact (h.justified p hp t (List.mem_append_left _ hclient)).snoc _
    · have happlied : Justified sha256 past k conn.session p .applied :=
        h.justified p hp _ (by simp [transit, hphase, SessionPhase.transit, Reply.transit])
      exact fun n hn => once_snoc ⟨rfl, rfl, happlied n hn⟩
    · refine (h.justified p hp t ?_).snoc _
      exact List.mem_append_right _ (List.mem_append_right _ hserver)

/-- A step of the session task that reads no update. -/
lemma Carries.session (h : Carries sha256 past k pending conn) {e : ServerSession.Event}
    {session : ServerSession}
    (hstep : (conn.serverSession s.runtime).step sha256 e = some session)
    (hupdate : ∀ requestId services, e ≠ .update requestId services) :
    Carries sha256 (past ++ [(s, .server k e)]) k pending (conn.setSession session) := by
  have hshrink : (conn.setSession session).transit.Sublist conn.transit →
      Carries sha256 (past ++ [(s, .server k e)]) k pending (conn.setSession session) :=
    h.move _ rfl rfl
  -- most steps write nothing, and the phase holds no more than before
  have hphase : session.written = conn.toClient → session.phase.transit.Sublist conn.phase.transit →
      Carries sha256 (past ++ [(s, .server k e)]) k pending (conn.setSession session) := by
    intro hwritten hsub
    refine hshrink ?_
    simp only [transit, setSession, hwritten]
    exact (hsub.append_right _).append_left _
  have hempty : session.written = conn.toClient → session.phase.transit = [] →
      Carries sha256 (past ++ [(s, .server k e)]) k pending (conn.setSession session) :=
    fun hwritten hnil => hphase hwritten (hnil ▸ List.nil_sublist _)
  cases ServerSession.steps_of_step hstep with
  | operate | notify => exact hphase rfl (.refl _)
  | subscribe | rejected | changed | abandoned | finished => exact hempty rfl rfl
  | registered => exact hempty rfl transit_operateOwn
  | notifyOwn hold | observe hold =>
    have hold' : conn.phase = _ := hold
    exact hphase rfl (by rw [hold']; exact .refl _)
  | @read reply hold =>
    have hold' : conn.phase = .reading reply := hold
    cases reply with
    | hello | tunnelSnapshot => exact hempty rfl rfl
    | servicesApplied requestId => exact h.read hold'
  | @write frame hold =>
    have hold' : conn.phase = .writing frame := hold
    have hsame : transit { conn with
        phase := .waiting, toClient := conn.toClient ++ [frame] } = conn.transit := by
      simp [transit, hold', SessionPhase.transit]
    exact hshrink (hsame ▸ .refl _)
  | @updated requestId services => exact absurd rfl (hupdate requestId services)
  | @refused requestId services => exact absurd rfl (hupdate requestId services)

/-- The first update on its way is applied. -/
lemma Carries.applied (h : Carries sha256 past k pending conn) {requestId : UInt64}
    {services : List ServiceDeclaration} {rest : List (UInt64 × List ServiceDeclaration)}
    (hqueue : conn.toServer = (requestId, services) :: rest) (hphase : conn.phase = .waiting)
    (hout : conn'.outstanding = conn.outstanding) (hid : conn'.session = conn.session)
    (htransit : conn'.transit = conn.toClient.flatMap ServerFrame.transit ++
      .applied :: rest.map fun update => .update update.2)
    (happlies : ∀ p, pending = some p → services = declarations p.updated.services →
      ∀ n, p.response = some n → s.Applies k conn.session n p.updated.services ∧
        s.Leaves sha256 (.deliver k) conn.session p.updated.services) :
    Carries sha256 (past ++ [(s, .deliver k)]) k pending conn' := by
  have hold : conn.transit = conn.toClient.flatMap ServerFrame.transit ++
      .update services :: rest.map fun update => .update update.2 := by
    simp [transit, hphase, hqueue, SessionPhase.transit]
  refine ⟨hout.trans h.outstanding, ?_, fun p hp t ht => ?_⟩
  · refine Nat.le_trans (Nat.le_of_eq ?_) h.length
    rw [htransit, hold]
    simp
  · have hjustified := h.justified p hp
    rw [hold] at hjustified
    rw [htransit] at ht
    rw [hid]
    rcases List.mem_append.mp ht with hclient | ht
    · exact (hjustified t (List.mem_append_left _ hclient)).snoc _
    · rcases List.mem_cons.mp ht with rfl | hserver
      · have hservices : services = declarations p.updated.services :=
          hjustified (.update services) (List.mem_append_right _ List.mem_cons_self)
        exact fun n hn => once_snoc ⟨rfl, happlies p hp hservices n hn⟩
      · refine (hjustified t (List.mem_append_right _ ?_)).snoc _
        exact List.mem_cons_of_mem _ hserver

/-- The session task reads the update that the client waits for. -/
lemma Carries.deliver (h : Carries sha256 past k pending conn) {requestId : UInt64}
    {services : List ServiceDeclaration} {rest : List (UInt64 × List ServiceDeclaration)}
    {session : ServerSession} (hqueue : conn.toServer = (requestId, services) :: rest)
    (hconn : s.connections[k]? = some conn) (hlast : s.connections.length = k + 1)
    (hpending : s.client.pending? = pending)
    (hstep : (serverSession { conn with toServer := rest } s.runtime).step sha256
      (.update requestId services) = some session) :
    Carries sha256 (past ++ [(s, .deliver k)]) k pending
      (setSession { conn with toServer := rest } session) := by
  have hnext : s.step sha256 (.deliver k) = some { s with
      runtime := session.runtime
      connections := s.connections.set k (setSession { conn with toServer := rest } session) } := by
    simp only [ServiceNetwork.step, hconn, Option.bind_some, ServiceNetwork.deliver, hqueue,
      ServiceNetwork.sessionStep, hstep, Option.map_some]
  -- the session task ends its loop
  have hleave : (serverSession { conn with toServer := rest } s.runtime).leave = session →
      Carries sha256 (past ++ [(s, .deliver k)]) k pending
        (setSession { conn with toServer := rest } session) := by
    rintro rfl
    refine h.move _ rfl rfl (List.Sublist.append_left ?_ _)
    refine List.Sublist.append (List.nil_sublist _) ?_
    rw [hqueue, List.map_cons]
    exact List.sublist_cons_self _ _
  simp only [ServerSession.step] at hstep
  split at hstep
  · rename_i hwaiting
    have hphase : conn.phase = .waiting := hwaiting
    split at hstep
    · exact hleave (Option.some.inj hstep)
    · rename_i hvalid
      split at hstep
      · exact hleave (Option.some.inj hstep)
      · rename_i info rt hupdate
        obtain rfl := Option.some.inj hstep
        have hnew : ((serverSession { conn with toServer := rest } s.runtime).operateOwn rt
            (.servicesApplied requestId)).phase.transit = [.applied] := transit_operateOwn
        refine h.applied hqueue hphase rfl rfl ?_ fun p hp hservices n hn => ?_
        · simp only [transit, setSession, hnew, List.singleton_append]
          rfl
        · subst hservices
          have hsome := congrArg (fun result => result.1.isSome) hupdate
          have hleft := TunnelRuntime.services_updateServices hsome
          rw [hupdate] at hleft
          have happlies : s.Applies k conn.session n p.updated.services :=
            ⟨⟨hlast, p, hpending.trans hp, hn⟩,
              ⟨conn, requestId, rest, hconn, rfl, hphase, hqueue⟩, hvalid, hsome⟩
          exact ⟨happlies, _, hnext, hleft⟩
  · simp at hstep

end ClientConnection

end GateRust.Tunnel
