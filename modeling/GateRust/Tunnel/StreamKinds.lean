/-
# The kinds of data streams

A public listener of a tunnel asks the runtime for the session that owns the tunnel and opens
a data stream on its connection.  The request carries the name of the service only; the client
looks the name up when it has read the request, and it interprets the stream by the kind of
the entry that it finds.

The client writes its map before the server has read the declaration, and a listener that was
replaced still forwards the connections it has accepted.  So a stream can come to an entry of
another kind.  It cannot when no update of the client gives a name another kind than the one
that is in use for it, and when a listener finds an owner of its tunnel only while the tunnel
is configured with the kind of the listener.

There is one client here; the sessions of the others are in the runtime.
-/
import GateRust.Tunnel.DeclaredKinds
import GateRust.Tunnel.UpdateAnswers

namespace GateRust.Tunnel

open Machine Client

/-! ## Requests and their answers -/

structure OpenRequest where
  service : String
  destination : Option String
deriving DecidableEq, Repr

structure OpenResponse where
  accepted : Bool
  message : String
deriving DecidableEq, Repr

namespace Client

/-- How the attempt to reach a target ends. -/
inductive TargetConnection where
  | connected
  | refused
  | timeout
  /-- The target cannot be resolved, or no local socket can be bound. -/
  | failed (error : TunnelError)

def rejection (message : String) : OpenResponse := ⟨false, message⟩

def handleTcp : TargetConnection → OpenResponse
  | .connected => ⟨true, ""⟩
  | .refused | .failed _ => rejection "目标连接失败"
  | .timeout => rejection "目标连接超时"

def handleUdp : TargetConnection → Except TunnelError OpenResponse
  | .connected => .ok ⟨true, ""⟩
  | .refused | .timeout => .ok (rejection "UDP 目标连接失败")
  | .failed error => .error error

/-- The part of `handle_stream` after the lookup. -/
def handleService (service : ClientServiceConfig) (request : OpenRequest)
    (target : TargetConnection) : Except TunnelError OpenResponse :=
  match service.kind with
  | .tcp =>
    match service.target with
    | some _ => .ok (handleTcp target)
    | none => .error (.invalidConfig "TCP 服务缺少 target")
  | .socks5 =>
    match request.destination with
    | some _ => .ok (handleTcp target)
    | none => .error (.protocol "SOCKS5 请求缺少目标地址")
  | .udp =>
    match service.target with
    | some _ => handleUdp target
    | none => .error (.invalidConfig "UDP 服务缺少 target")

def handleStream (services : HashMap String ClientServiceConfig) (request : OpenRequest)
    (target : TargetConnection) : Except TunnelError OpenResponse :=
  match services.lookup request.service with
  | some service => handleService service request target
  | none => .ok (rejection "服务不存在")

/-- The map that the tasks of the data streams share, while there are any. -/
def services? (s : Client) : Option (HashMap String ClientServiceConfig) :=
  match s.phase with
  | .connected _ c => some c.services
  | .loading _ | .waiting _ | .connecting _ | .authenticating .. | .retrying _ | .stopped => none

end Client

/-! ## Public connections -/

/-- How far a public connection has come. -/
inductive ForwardStage where
  /-- Before `find`. -/
  | accepted
  /-- A session was found, the one of the connection with the number; the request is not
  written. -/
  | found (k : ℕ)
  /-- The request is on its way. -/
  | requested (k : ℕ) (request : OpenRequest)
  /-- The client has accepted the stream, with the given entry of its map. -/
  | handled (service : ClientServiceConfig)
  | ended
deriving DecidableEq

/-- A TCP connection or a UDP session of the listener of a tunnel, with the name and the kind
that the listener was started with. -/
structure PublicConnection where
  tunnel : String
  kind : TunnelKind
  /-- From the SOCKS5 handshake. -/
  destination : Option String
  stage : ForwardStage
deriving DecidableEq

/-- The stream is on its way to the client on the connection. -/
def PublicConnection.onWay (p : PublicConnection) (k : ℕ) : Bool :=
  match p.stage with
  | .found k' | .requested k' _ => k' = k
  | .accepted | .handled _ | .ended => false

/-- When the client has accepted the stream, then with an entry of the name and the kind of the
tunnel. -/
def PublicConnection.Interpreted (p : PublicConnection) : Prop :=
  ∀ service, p.stage = .handled service → service.name = p.tunnel ∧ service.kind = p.kind

structure StreamNetwork where
  net : ServiceNetwork
  publics : List PublicConnection

namespace StreamNetwork

inductive Event where
  | net (e : ServiceNetwork.Event)
  | accept (tunnel : String) (kind : TunnelKind) (destination : Option String)
  | find (i : ℕ)
  | request (i : ℕ)
  /-- The client reads the request and answers it. -/
  | handle (i : ℕ) (target : TargetConnection)
  /-- The public connection ends, or a timeout or the shutdown of the tunnel ends it. -/
  | drop (i : ℕ)

def start (client : Client) : StreamNetwork := ⟨.start client ⟨.new, 0, 0⟩, []⟩

variable (s : StreamNetwork)

/-- `find`: the connection of the session that owns the tunnel, none when there is no owner or
when it is the session of another client. -/
def findConnection (tunnel : String) : Option ℕ :=
  match s.net.runtime.value.find tunnel, s.net.runtime.value.state.owners.lookup tunnel with
  | some _, some owner => s.net.connections.findIdx? (·.session = owner.sessionId)
  | _, _ => none

/-- What becomes of a stream when the client has answered its request. -/
def answer (services : HashMap String ClientServiceConfig) (request : OpenRequest)
    (target : TargetConnection) : ForwardStage :=
  match services.lookup request.service, handleStream services request target with
  | some service, .ok response => if response.accepted then .handled service else .ended
  | _, _ => .ended

def stageStep (p : PublicConnection) : Event → Option ForwardStage
  | .find _ =>
    match p.stage with
    | .accepted =>
      match s.findConnection p.tunnel with
      | some k => some (.found k)
      | none => some .ended
    | _ => none
  | .request _ =>
    match p.stage with
    | .found k => some (.requested k ⟨p.tunnel, p.destination⟩)
    | _ => none
  | .handle _ target =>
    match p.stage, s.net.client.services? with
    | .requested k request, some services =>
      -- the client serves the streams of the connection that it uses
      if k = s.net.current then some (answer services request target) else none
    | _, _ => none
  | .drop _ => some .ended
  | .net _ | .accept .. => none

/-- The listener of a SOCKS5 tunnel has made the handshake, and no other has. -/
def destinationMatches (kind : TunnelKind) (destination : Option String) : Bool :=
  destination.isSome = decide (kind = .socks5)

def step (sha256 : GroupSecret → Digest) (s : StreamNetwork) (e : Event) : Option StreamNetwork :=
  match e with
  | .net e => (s.net.step sha256 e).map fun net => { s with net }
  | .accept tunnel kind destination =>
    if destinationMatches kind destination then
      some { s with publics := s.publics ++ [⟨tunnel, kind, destination, .accepted⟩] }
    else none
  | .find i | .request i | .handle i _ | .drop i =>
    s.publics[i]?.bind fun p => (s.stageStep p e).map fun stage =>
      { s with publics := s.publics.set i { p with stage } }

end StreamNetwork

/-! ## Runs in which the kinds are kept -/

/-- The server gives every connection a new session id, and other tasks use other sessions. -/
def ServiceNetwork.FreshSessions (s : ServiceNetwork) : ServiceNetwork.Event → Prop
  | .connect session => session ∉ s.runtime.value.state.sessions ∧
    ∀ conn ∈ s.connections, conn.session ≠ session
  | .server k e => ∀ conn ∈ s.connections[k]?, (conn.serverSession s.runtime).FreshSessions e
  | .operate op => s.runtime.value.FreshSessions op ∧
    ∀ conn ∈ s.connections, ¬op.Claims conn.session
  | _ => True

instance : ∀ (s : ServiceNetwork) (e : ServiceNetwork.Event), Decidable (s.FreshSessions e)
  | _, .connect _ => inferInstanceAs (Decidable (_ ∧ _))
  | _, .server .. => inferInstanceAs (Decidable (∀ conn ∈ (_ : Option ClientConnection), _))
  | _, .operate _ => inferInstanceAs (Decidable (_ ∧ _))
  | _, .call _ | _, .send _ | _, .receive _ | _, .fail .. | _, .dropCall _ | _, .client _
  | _, .deliver _ | _, .notify | _, .loseUpdate _ | _, .loseFrame _ =>
    inferInstanceAs (Decidable True)

namespace StreamNetwork

variable (s : StreamNetwork)

def FreshSessions : Event → Prop
  | .net e => s.net.FreshSessions e
  | _ => True

instance : ∀ (s : StreamNetwork) (e : Event), Decidable (s.FreshSessions e)
  | s, .net e => inferInstanceAs (Decidable (s.net.FreshSessions e))
  | _, .accept .. | _, .find _ | _, .request _ | _, .handle .. | _, .drop _ =>
    inferInstanceAs (Decidable True)

/-- The kind with which the session of the client declares the service. -/
def declared (n : String) : Option TunnelKind :=
  s.net.connections[s.net.current]?.bind fun conn =>
    s.net.runtime.value.state.declared conn.session n

/-- The kinds of the streams of the service that are on their way to the client. -/
def kindsOnWay (n : String) : List TunnelKind :=
  (s.publics.filter fun p => p.onWay s.net.current && p.tunnel = n).map (·.kind)

/-- The kinds that are in use for a name: what the server has for it, the streams on their way,
and the configuration to which a snapshot can bring a managed client back. -/
def kindsInUse (n : String) : List TunnelKind :=
  (s.declared n).toList ++ s.kindsOnWay n ++ (s.net.client.configured n).toList

/-- An update that the client starts gives no service another kind than the one in use for its
name, and a listener that finds an owner finds its tunnel configured with its kind. -/
def KeepsKinds : Event → Prop
  | .net (.client e) => ∀ services ∈ s.net.client.nextServices e, ∀ service ∈ services,
    ∀ κ ∈ s.kindsInUse service.name, κ = service.kind
  | .find i => ∀ p ∈ s.publics[i]?, ∀ spec ∈ s.net.runtime.value.state.tunnels.lookup p.tunnel,
    p.tunnel ∈ s.net.runtime.value.state.owners → spec.kind = p.kind
  | _ => True

instance : ∀ (s : StreamNetwork) (e : Event), Decidable (s.KeepsKinds e)
  | s, .net (.client e) => inferInstanceAs (Decidable (∀ services ∈ s.net.client.nextServices e,
    ∀ service ∈ services, ∀ κ ∈ s.kindsInUse service.name, κ = service.kind))
  | s, .find i => inferInstanceAs (Decidable (∀ p ∈ s.publics[i]?,
    ∀ spec ∈ s.net.runtime.value.state.tunnels.lookup p.tunnel,
    p.tunnel ∈ s.net.runtime.value.state.owners → spec.kind = p.kind))
  | _, .net (.call _) | _, .net (.send _) | _, .net (.receive _) | _, .net (.fail ..)
  | _, .net (.dropCall _) | _, .net (.connect _) | _, .net (.server ..) | _, .net (.deliver _)
  | _, .net (.operate _) | _, .net .notify | _, .net (.loseUpdate _) | _, .net (.loseFrame _)
  | _, .accept .. | _, .request _ | _, .handle .. | _, .drop _ => inferInstanceAs (Decidable True)

/-- Session ids are fresh, and the kinds are kept. -/
def Orderly (e : Event) : Prop := s.FreshSessions e ∧ s.KeepsKinds e

instance (s : StreamNetwork) (e : Event) : Decidable (s.Orderly e) :=
  inferInstanceAs (Decidable (_ ∧ _))

end StreamNetwork

/-! ## The kinds that the server has or will have -/

/-- The session of the connection is not registered yet. -/
def ClientConnection.Unregistered (conn : ClientConnection) : Prop :=
  conn.phase = .starting ∨ conn.phase = .subscribed

lemma ClientConnection.Unregistered.of_phase {conn conn' : ClientConnection}
    (h : conn'.Unregistered) (hphase : conn'.phase = conn.phase) : conn.Unregistered := by
  rw [Unregistered, ← hphase]
  exact h

namespace ServiceNetwork

variable {sha256 : GroupSecret → Digest} {s s' : ServiceNetwork} {conn conn' : ClientConnection}
  {k : ℕ} {n : String} {κ : TunnelKind}

/-- The session of the connection declares the service with the kind, or it will when the server
has read what is on its way. -/
inductive Promises (s : ServiceNetwork) (conn : ClientConnection) (n : String) (κ : TunnelKind) :
    Prop
  | declared (h : s.runtime.value.state.declared conn.session n = some κ)
  | update {requestId : UInt64} {services : List ServiceDeclaration}
      (hmem : (requestId, services) ∈ conn.toServer)
      (hkind : (serviceMap services).lookup n = some κ)
  | hello {hello : ClientHello} (hphase : conn.Unregistered) (hhello : conn.hello = some hello)
      (hkind : (serviceMap hello.services).lookup n = some κ)

/-- The connections have different sessions, those that are not registered are not in the
runtime and have sent nothing, and the client is connected with a registered one. -/
structure Registered (s : ServiceNetwork) : Prop where
  consistent : s.runtime.value.state.Consistent
  distinct : ∀ (i j : ℕ) (conn conn' : ClientConnection), s.connections[i]? = some conn →
    s.connections[j]? = some conn' → conn.session = conn'.session → i = j
  unregistered : ∀ (i : ℕ) (conn : ClientConnection), s.connections[i]? = some conn →
    conn.Unregistered → conn.session ∉ s.runtime.value.state.sessions ∧ conn.toClient = []
  connected : ∀ config c (conn : ClientConnection), s.client.phase = .connected config c →
    s.connections[s.current]? = some conn → ¬conn.Unregistered
  map : ∀ config c, s.client.phase = .connected config c →
    ∃ services, c.services = Client.serviceMap services

/-- The connection `conn` of `s` has become the connection `conn'` of `s'` by a step in which the
client has no part. -/
structure Follows (s s' : ServiceNetwork) (conn conn' : ClientConnection) : Prop where
  session : conn'.session = conn.session
  promises : ∀ n κ, s'.Promises conn' n κ → s.Promises conn n κ
  unregistered : conn'.Unregistered →
    conn.Unregistered ∧ conn'.session ∉ s'.runtime.value.state.sessions ∧ conn'.toClient = []

/-- A step in which the client has no part. -/
structure ServerSide (s s' : ServiceNetwork) : Prop where
  client : s'.client = s.client
  length : s'.connections.length = s.connections.length
  consistent : s'.runtime.value.state.Consistent
  follows : ∀ (i : ℕ) (conn' : ClientConnection), s'.connections[i]? = some conn' →
    ∃ conn, s.connections[i]? = some conn ∧ Follows s s' conn conn'

lemma ServerSide.current (h : ServerSide s s') : s'.current = s.current := by
  rw [ServiceNetwork.current, ServiceNetwork.current, h.length]

lemma Registered.serverSide (h : s.Registered) (hside : ServerSide s s') : s'.Registered where
  consistent := hside.consistent
  distinct i j conn conn' hi hj hsame := by
    obtain ⟨conn₀, hi₀, hconn⟩ := hside.follows i conn hi
    obtain ⟨conn₀', hj₀, hconn'⟩ := hside.follows j conn' hj
    exact h.distinct i j conn₀ conn₀' hi₀ hj₀
      (hconn.session.symm.trans (hsame.trans hconn'.session))
  unregistered i conn hi hun := by
    obtain ⟨conn₀, hi₀, hconn⟩ := hside.follows i conn hi
    exact (hconn.unregistered hun).2
  connected config c conn hphase hcurrent hun := by
    rw [hside.current] at hcurrent
    rw [hside.client] at hphase
    obtain ⟨conn₀, hi₀, hconn⟩ := hside.follows _ conn hcurrent
    exact h.connected config c conn₀ hphase hi₀ (hconn.unregistered hun).1
  map := hside.client ▸ h.map

/-- A connection on which nothing new was written. -/
lemma Registered.follows (h : s.Registered) {i : ℕ} (hi : s.connections[i]? = some conn)
    (hsession : conn'.session = conn.session) (hphase : conn'.phase = conn.phase)
    (hhello : conn'.hello = conn.hello) (hserver : conn'.toServer ⊆ conn.toServer)
    (hclient : conn'.toClient ⊆ conn.toClient)
    (hdeclared : ∀ n κ, s'.runtime.value.state.declared conn.session n = some κ →
      s.runtime.value.state.declared conn.session n = some κ)
    (hsessions : conn.session ∉ s.runtime.value.state.sessions →
      conn.session ∉ s'.runtime.value.state.sessions) : Follows s s' conn conn' where
  session := hsession
  promises n κ hpromise := by
    cases hpromise with
    | declared hkind =>
      rw [hsession] at hkind
      exact .declared (hdeclared n κ hkind)
    | update hmem hkind => exact .update (hserver hmem) hkind
    | hello hun hhello' hkind => exact .hello (hun.of_phase hphase) (hhello ▸ hhello') hkind
  unregistered hun := by
    have hun' : conn.Unregistered := hun.of_phase hphase
    obtain ⟨hnot, hnil⟩ := h.unregistered i conn hi hun'
    refine ⟨hun', hsession ▸ hsessions hnot, List.eq_nil_of_subset_nil (hnil ▸ hclient)⟩

/-! ## Steps in which the client has no part -/

lemma Registered.serverSide_of_eq (h : s.Registered) (hclient : s'.client = s.client)
    (hstate : s'.runtime.value.state = s.runtime.value.state)
    (hconns : s'.connections = s.connections) : ServerSide s s' where
  client := hclient
  length := by rw [hconns]
  consistent := hstate ▸ h.consistent
  follows i conn' hi := by
    rw [hconns] at hi
    refine ⟨conn', hi, h.follows hi rfl rfl rfl (.refl _) (.refl _) (fun n κ => ?_) ?_⟩
    · rw [hstate]
      exact id
    · rw [hstate]
      exact id

variable (sha256) in
/-- An operation of another task. -/
lemma Registered.operate (h : s.Registered) {op : TunnelRuntime.Operation}
    (hfresh : s.FreshSessions (.operate op)) {runtime : Watch TunnelRuntime}
    (hstate : runtime.value.state = (s.runtime.value.perform sha256 op).state) :
    ServerSide s { s with runtime } where
  client := rfl
  length := rfl
  consistent := hstate ▸ TunnelRuntime.consistent_perform h.consistent hfresh.1
  follows i conn hi := by
    have hclaims := hfresh.2 conn (List.mem_of_getElem? hi)
    refine ⟨conn, hi, h.follows hi rfl rfl rfl (.refl _) (.refl _) (fun n κ hkind => ?_)
      fun hnot => ?_⟩
    · have hkind' : runtime.value.state.declared conn.session n = some κ := hkind
      rw [hstate] at hkind'
      exact TunnelRuntime.declared_perform hclaims hkind'
    · show conn.session ∉ runtime.value.state.sessions
      rw [hstate]
      exact TunnelRuntime.not_mem_sessions_perform hnot hclaims

/-- A message is lost. -/
lemma Registered.lose (h : s.Registered) {f : ClientConnection → ClientConnection}
    (hf : ∀ conn, f conn = { conn with toServer := conn.toServer.tail } ∨
      f conn = { conn with toClient := conn.toClient.tail }) :
    ServerSide s (s.modifyConnection k f) where
  client := rfl
  length := List.length_modify ..
  consistent := h.consistent
  follows i conn' hi := by
    simp only [modifyConnection, List.getElem?_modify] at hi
    obtain ⟨conn, hconn, rfl⟩ := Option.map_eq_some_iff.mp hi
    refine ⟨conn, hconn, ?_⟩
    split
    · rcases hf conn with hf | hf <;> rw [hf]
      · exact h.follows hconn rfl rfl rfl (List.tail_sublist _).subset (.refl _) (fun _ _ => id) id
      · exact h.follows hconn rfl rfl rfl (.refl _) (List.tail_sublist _).subset (fun _ _ => id) id
    · exact h.follows hconn rfl rfl rfl (.refl _) (.refl _) (fun _ _ => id) id

section Session

variable {e : ServerSession.Event} {next : ServerSession}
  {queue : List (UInt64 × List ServiceDeclaration)}

/-- The connection whose session task takes the step; the services that the step declares are
promised. -/
lemma Registered.follows_own (h : s.Registered) (hconn : s.connections[k]? = some conn)
    (hstep : (conn.serverSession s.runtime).step sha256 e = some next)
    (hclaims : ∀ id op, e = .operate op → ¬op.Claims id) (hqueue : queue ⊆ conn.toServer)
    (hdeclares : ∀ services, (conn.serverSession s.runtime).Declares services e →
      ∀ n κ, (serviceMap services).lookup n = some κ → s.Promises conn n κ)
    (hstate : s'.runtime = next.runtime) :
    Follows s s' conn ({ conn with toServer := queue }.setSession next) := by
  have hnew : next.Unregistered →
      conn.Unregistered ∧ conn.session ∉ next.runtime.value.state.sessions :=
    ServerSession.not_mem_sessions_of_step hstep (hclaims conn.session)
      fun hold => (h.unregistered k conn hconn hold).1
  refine ⟨rfl, fun n κ hpromise => ?_, fun hun => ?_⟩
  · cases hpromise with
    | declared hkind =>
      rw [hstate] at hkind
      rcases ServerSession.declared_of_step (hclaims conn.session) hstep hkind with
        hold | ⟨-, services, hdeclared, hnew⟩
      · exact .declared hold
      · exact hdeclares services hdeclared n κ hnew
    | update hmem hkind => exact .update (hqueue hmem) hkind
    | hello hun hhello hkind => exact .hello (hnew hun).1 hhello hkind
  · rw [hstate]
    refine ⟨(hnew hun).1, (hnew hun).2, ?_⟩
    exact (ServerSession.written_of_unregistered hstep hun).trans
      (h.unregistered k conn hconn (hnew hun).1).2

/-- A connection of another session. -/
lemma Registered.follows_other (h : s.Registered) {i : ℕ} (hi : s.connections[i]? = some conn')
    (hne : conn'.session ≠ conn.session)
    (hstep : (conn.serverSession s.runtime).step sha256 e = some next)
    (hclaims : ∀ id op, e = .operate op → ¬op.Claims id)
    (hstate : s'.runtime = next.runtime) : Follows s s' conn' conn' := by
  refine h.follows hi rfl rfl rfl (.refl _) (.refl _) (fun n κ hkind => ?_) fun hnot => ?_
  · rw [hstate] at hkind
    rcases ServerSession.declared_of_step (hclaims conn'.session) hstep hkind with
      hold | ⟨hsame, -⟩
    · exact hold
    · exact absurd hsame hne
  · rw [hstate]
    exact ServerSession.not_mem_of_step hnot hne (hclaims conn'.session) hstep

/-- A step of a session task. -/
lemma Registered.session (h : s.Registered) (hconn : s.connections[k]? = some conn)
    (hstep : (conn.serverSession s.runtime).step sha256 e = some next)
    (hfresh : (conn.serverSession s.runtime).FreshSessions e) (hoperate : ∀ op, e ≠ .operate op)
    (hqueue : queue ⊆ conn.toServer)
    (hdeclares : ∀ services, (conn.serverSession s.runtime).Declares services e →
      ∀ n κ, (serviceMap services).lookup n = some κ → s.Promises conn n κ) :
    ServerSide s { s with
      runtime := next.runtime
      connections :=
        s.connections.set k ({ conn with toServer := queue }.setSession next) } := by
  have hmove : ConnectionMove s { s with
      runtime := next.runtime
      connections := s.connections.set k ({ conn with toServer := queue }.setSession next) }
      k conn ({ conn with toServer := queue }.setSession next) :=
    connectionMove_of_set hconn rfl
  have hclaims : ∀ id op, e = .operate op → ¬op.Claims id :=
    fun id op he => absurd he (hoperate op)
  refine ⟨rfl, hmove.length, ServerSession.consistent_of_step h.consistent hfresh hstep, ?_⟩
  intro i conn' hi
  by_cases hk : i = k
  · subst hk
    obtain rfl := Option.some.inj (hmove.after.symm.trans hi)
    exact ⟨conn, hconn, h.follows_own hconn hstep hclaims hqueue hdeclares rfl⟩
  · have hi' : s.connections[i]? = some conn' := (hmove.others i hk).symm.trans hi
    have hne : conn'.session ≠ conn.session :=
      fun hsame => hk (h.distinct i k conn' conn hi' hconn hsame)
    exact ⟨conn', hi', h.follows_other hi' hne hstep hclaims rfl⟩

end Session

/-! ## Steps of the client -/

/-- The connection `conn` has become `conn'` by a step of the client that has written the
entries. -/
structure Writes (entries : List Entry) (conn conn' : ClientConnection) : Prop where
  session : conn'.session = conn.session
  phase : conn'.phase = conn.phase
  toClient : conn'.toClient ⊆ conn.toClient
  toServer : ∀ update ∈ conn'.toServer,
    update ∈ conn.toServer ∨ update ∈ entries.filterMap Entry.update?
  hello : ∀ hello, conn'.hello = some hello →
    conn.hello = some hello ∨ entries.findSome? (·.hello?) = some hello

lemma writes_write (entries : List Entry) (conn : ClientConnection) :
    Writes entries conn (conn.write entries) := by
  refine ⟨rfl, rfl, .refl _, fun update hmem => List.mem_append.mp hmem, fun hello h => ?_⟩
  have hor : (entries.findSome? (·.hello?)).or conn.hello = some hello := h
  rcases Option.or_eq_some_iff.mp hor with hnew | ⟨-, hold⟩
  · exact Or.inr hnew
  · exact Or.inl hold

lemma Writes.same (entries : List Entry) (conn : ClientConnection) : Writes entries conn conn :=
  ⟨rfl, rfl, .refl _, fun _ => Or.inl, fun _ => Or.inl⟩

lemma ClientMove.writes {e : Client.Event} (hmove : ClientMove s e s') {entries : List Entry}
    (hlog : s'.client.log = s.client.log ++ entries) {i : ℕ}
    (hi : s'.connections[i]? = some conn') :
    ∃ conn, s.connections[i]? = some conn ∧ Writes entries conn conn' := by
  have hconnections := hmove.connections
  rw [drop_log hlog] at hconnections
  rcases hconnections with ⟨-, hconns⟩ | ⟨frame, conn₀, rest, -, hconn₀, hnext, hconns⟩
  · rw [hconns, List.getElem?_modify] at hi
    obtain ⟨conn, hconn, rfl⟩ := Option.map_eq_some_iff.mp hi
    refine ⟨conn, hconn, ?_⟩
    split
    · exact writes_write entries conn
    · exact .same entries conn
  · rw [hconns, List.getElem?_modify] at hi
    obtain ⟨conn, hconn, rfl⟩ := Option.map_eq_some_iff.mp hi
    refine ⟨conn, hconn, ?_⟩
    split
    · rename_i hk
      subst hk
      obtain rfl := Option.some.inj (hconn.symm.trans hconn₀)
      obtain ⟨hsession, hphase, hclient, hserver, hhello⟩ := writes_write entries { conn with
        toClient := rest
        outstanding := conn.outstanding.filter (frame.acknowledges? ≠ some ·) }
      refine ⟨hsession, hphase, fun frame hmem => ?_, hserver, hhello⟩
      rw [hnext]
      exact List.mem_cons_of_mem _ (hclient hmem)
    · exact .same entries conn

lemma Registered.client (h : s.Registered) {e : Client.Event} (hmove : ClientMove s e s') :
    s'.Registered := by
  obtain ⟨entries, hlog, -⟩ := Client.written_of_step hmove.step
  have hwrites := fun (i : ℕ) conn' (hi : s'.connections[i]? = some conn') => hmove.writes hlog hi
  refine ⟨hmove.runtime ▸ h.consistent, fun i j conn conn' hi hj hsame => ?_,
    fun i conn hi hun => ?_, fun config c conn hphase hcurrent hun => ?_, fun config c hphase => ?_⟩
  · obtain ⟨conn₀, hi₀, hconn⟩ := hwrites i conn hi
    obtain ⟨conn₀', hj₀, hconn'⟩ := hwrites j conn' hj
    exact h.distinct i j conn₀ conn₀' hi₀ hj₀
      (hconn.session.symm.trans (hsame.trans hconn'.session))
  · obtain ⟨conn₀, hi₀, hconn⟩ := hwrites i conn hi
    obtain ⟨hnot, hnil⟩ := h.unregistered i conn₀ hi₀ (hun.of_phase hconn.phase)
    rw [hmove.runtime, hconn.session]
    exact ⟨hnot, List.eq_nil_of_subset_nil (hnil ▸ hconn.toClient)⟩
  · rw [hmove.current] at hcurrent
    obtain ⟨conn₀, hi₀, hconn⟩ := hwrites _ conn hcurrent
    have hun₀ : conn₀.Unregistered := hun.of_phase hconn.phase
    cases Client.online_of_step hmove.step hphase with
    | stayed hphase₀ => exact h.connected _ _ conn₀ hphase₀ hi₀ hun₀
    | @accepted tunnels he =>
      -- the hello of the server was on its way
      subst he
      rcases hmove.connections with ⟨hframe, -⟩ | ⟨frame, conn₁, rest, -, hconn₁, hnext, -⟩
      · simp [Client.Event.frame?] at hframe
      · obtain rfl := Option.some.inj (hi₀.symm.trans hconn₁)
        rw [(h.unregistered _ conn₀ hi₀ hun₀).2] at hnext
        simp at hnext
  · cases Client.online_of_step hmove.step hphase with
    | stayed hphase₀ hmap =>
      rcases hmap with hsame | hnew
      · exact hsame ▸ h.map _ _ hphase₀
      · exact hnew
    | accepted _ hmap => exact hmap

/-- The client makes a connection. -/
lemma Registered.connect (h : s.Registered) {session : SessionId} {client : Client}
    (hfresh : s.FreshSessions (.connect session))
    (hstep : s.client.step (.connectionStep (.ok ())) = some client) :
    Registered { s with client, connections := s.connections ++ [.new session] } := by
  obtain ⟨config, rfl⟩ : ∃ config, client = s.client.select.onConnectionStep config (.ok ()) := by
    cases Client.steps_of_step hstep with
    | connectionStep => exact ⟨_, rfl⟩
  have hmem : ∀ (i : ℕ) (conn : ClientConnection),
      (s.connections ++ [.new session])[i]? = some conn →
      s.connections[i]? = some conn ∨ i = s.connections.length ∧ conn = .new session := by
    intro i conn hi
    rcases Nat.lt_trichotomy i s.connections.length with hlt | rfl | hgt
    · exact Or.inl ((List.getElem?_append_left hlt).symm.trans hi)
    · rw [List.getElem?_concat_length] at hi
      exact Or.inr ⟨rfl, (Option.some.inj hi).symm⟩
    · rw [List.getElem?_eq_none (by simp; omega)] at hi
      simp at hi
  refine ⟨h.consistent, fun i j conn conn' hi hj hsame => ?_, fun i conn hi hun => ?_,
    fun config c conn hphase => ?_, fun config c hphase => ?_⟩
  · rcases hmem i conn hi with hi | ⟨rfl, rfl⟩ <;> rcases hmem j conn' hj with hj | ⟨rfl, rfl⟩
    · exact h.distinct i j conn conn' hi hj hsame
    · exact absurd hsame (hfresh.2 conn (List.mem_of_getElem? hi))
    · exact absurd hsame.symm (hfresh.2 conn' (List.mem_of_getElem? hj))
    · rfl
  · rcases hmem i conn hi with hi | ⟨rfl, rfl⟩
    · exact h.unregistered i conn hi hun
    · exact ⟨hfresh.1, rfl⟩
  · simp [Client.onConnectionStep] at hphase
  · simp [Client.onConnectionStep] at hphase

/-- A step is one of the server, or one of the client. -/
lemma Registered.cases (h : s.Registered) {e : Event} (hfresh : s.FreshSessions e)
    (hstep : s.step sha256 e = some s') :
    ServerSide s s' ∨ (∃ e', e = .client e' ∧ ClientMove s e' s') ∨
      ∃ session client, e = .connect session ∧
        s.client.step (.connectionStep (.ok ())) = some client ∧
        s' = { s with client, connections := s.connections ++ [.new session] } := by
  cases steps_of_step hstep with
  | called => exact Or.inl (h.serverSide_of_eq rfl rfl rfl)
  | call hcall hmove =>
    refine Or.inl (h.serverSide_of_eq hmove.client ?_ hmove.connections)
    rw [hmove.runtime]
  | connect session client hclient => exact Or.inr (Or.inr ⟨session, client, rfl, hclient, rfl⟩)
  | client hmove => exact Or.inr (Or.inl ⟨_, rfl, hmove⟩)
  | @server k e conn session hconn hsession hoperate hupdate hregister =>
    refine Or.inl (h.session hconn hsession (hfresh conn hconn) hoperate (.refl _) ?_)
    intro services hdeclares n κ hkind
    cases e with
    | register =>
      obtain ⟨hphase, rfl⟩ := hdeclares
      obtain ⟨hello, hhello, rfl⟩ := hregister _ _ _ _ _ _ rfl
      exact .hello (Or.inr hphase) hhello hkind
    | update requestId declared => exact absurd rfl (hupdate requestId declared)
    | _ => exact hdeclares.elim
  | @deliver k conn requestId services rest session hconn hqueue hsession =>
    refine Or.inl (h.session hconn hsession trivial (by simp) ?_ ?_)
    · rw [hqueue]
      exact List.subset_cons_self _ _
    · rintro services rfl n κ hkind
      exact .update (hqueue ▸ List.mem_cons_self) hkind
  | operate op => exact Or.inl (h.operate sha256 hfresh rfl)
  | notify => exact Or.inl (h.serverSide_of_eq rfl rfl rfl)
  | lose k f hf => exact Or.inl (h.lose hf)

end ServiceNetwork

/-! ## Agreement -/

namespace ClientConnection

open ServiceNetwork in
/-- No update is on its way when none is pending. -/
lemma Carries.toServer_eq_nil {past : List (ServiceNetwork × ServiceNetwork.Event)} {k : ℕ}
    {conn : ClientConnection} (h : Carries sha256 past k none conn) : conn.toServer = [] := by
  have hnil : conn.transit = [] := List.eq_nil_of_length_eq_zero (Nat.le_zero.mp h.length)
  simp only [transit, List.append_eq_nil_iff, List.map_eq_nil_iff] at hnil
  exact hnil.2.2

end ClientConnection

namespace StreamNetwork

variable {sha256 : GroupSecret → Digest} {s s' : StreamNetwork} {n : String} {κ : TunnelKind}

lemma mem_kindsOnWay : κ ∈ s.kindsOnWay n ↔
    ∃ p ∈ s.publics, p.onWay s.net.current = true ∧ p.tunnel = n ∧ p.kind = κ := by
  simp [kindsOnWay, and_assoc]

/-- The server has the kind for the name on the connection of the client, or will have it, or a
stream of the kind is on its way. -/
def Expects (s : StreamNetwork) (n : String) (κ : TunnelKind) : Prop :=
  (∃ conn, s.net.connections[s.net.current]? = some conn ∧ s.net.Promises conn n κ) ∨
    κ ∈ s.kindsOnWay n

structure Agreeing (sha256 : GroupSecret → Digest) (s : StreamNetwork) : Prop where
  matched : ∃ past, ServiceNetwork.Matched sha256 past s.net
  registered : s.net.Registered
  agree : ∀ n κ κ', s.net.client.Uses n κ → s.Expects n κ' → κ = κ'
  known : ∀ p ∈ s.publics, ∀ k, p.onWay k = true → k < s.net.connections.length
  requested : ∀ p ∈ s.publics, ∀ k request, p.stage = .requested k request →
    request.service = p.tunnel
  interpreted : ∀ p ∈ s.publics, p.Interpreted

/-- A step in which the client has no part takes no kind into use. -/
lemma Agreeing.serverSide (h : s.Agreeing sha256) {net : ServiceNetwork}
    (hmatched : ∃ past, ServiceNetwork.Matched sha256 past net)
    (hside : ServiceNetwork.ServerSide s.net net) : Agreeing sha256 { s with net } where
  matched := hmatched
  registered := h.registered.serverSide hside
  agree n κ κ' huses hexpects := by
    have huses' : s.net.client.Uses n κ := hside.client ▸ huses
    refine h.agree n κ κ' huses' ?_
    rcases hexpects with ⟨conn', hconn', hpromise⟩ | hway
    · obtain ⟨conn, hconn, hfollows⟩ := hside.follows _ conn' hconn'
      rw [hside.current] at hconn
      exact Or.inl ⟨conn, hconn, hfollows.promises n κ' hpromise⟩
    · obtain ⟨p, hmem, hon, hp⟩ := mem_kindsOnWay.mp hway
      rw [hside.current] at hon
      exact Or.inr (mem_kindsOnWay.mpr ⟨p, hmem, hon, hp⟩)
  known p hmem k hk := by
    have hlength : net.connections.length = s.net.connections.length := hside.length
    rw [hlength]
    exact h.known p hmem k hk
  requested := h.requested
  interpreted := h.interpreted

/-- The client makes a connection, on which nothing is declared and nothing is on its way. -/
lemma Agreeing.connect (h : s.Agreeing sha256) {session : SessionId} {client : Client}
    (hfresh : s.net.FreshSessions (.connect session))
    (hstep : s.net.client.step (.connectionStep (.ok ())) = some client)
    (hmatched : ∃ past, ServiceNetwork.Matched sha256 past { s.net with
      client, connections := s.net.connections ++ [.new session] }) :
    Agreeing sha256 { s with net := { s.net with
      client, connections := s.net.connections ++ [.new session] } } where
  matched := hmatched
  registered := h.registered.connect hfresh hstep
  agree n κ κ' _ hexpects := by
    have hcurrent : ServiceNetwork.current { s.net with
        client, connections := s.net.connections ++ [.new session] } =
        s.net.connections.length := by simp [ServiceNetwork.current]
    rcases hexpects with ⟨conn, hconn, hpromise⟩ | hway
    · simp only [hcurrent, List.getElem?_concat_length] at hconn
      obtain rfl := Option.some.inj hconn
      cases hpromise with
      | declared hkind =>
        have hnone : s.net.runtime.value.state.sessions.lookup session = none :=
          AList.lookup_eq_none.mpr hfresh.1
        simp [ClientConnection.new, RuntimeState.declared, hnone] at hkind
      | update hmem => simp [ClientConnection.new] at hmem
      | hello _ hhello => simp [ClientConnection.new] at hhello
    · obtain ⟨p, hmem, hon, -⟩ := mem_kindsOnWay.mp hway
      simp only [hcurrent] at hon
      exact absurd (h.known p hmem _ hon) (Nat.lt_irrefl _)
  known p hmem k hk := by
    have hlt := h.known p hmem k hk
    simp only [List.length_append, List.length_singleton]
    omega
  requested := h.requested
  interpreted := h.interpreted

/-- What the server expects after a step of the client: what it has expected before, the kinds of
an update that the client has started, or those of its hello. -/
lemma expects_of_client {e : Client.Event} {net : ServiceNetwork}
    (hmove : ServiceNetwork.ClientMove s.net e net) (h : Expects { s with net } n κ) :
    s.Expects n κ ∨
      (∃ services, s.net.client.nextServices e = some services ∧
        (kinds services).lookup n = some κ) ∨
      ∃ config, s.net.client.phase = .authenticating config false ∧
        (kinds config.services).lookup n = some κ := by
  rcases h with ⟨conn', hconn', hpromise⟩ | hway
  · obtain ⟨entries, hlog, hupdates, hhello⟩ := Client.written_of_step hmove.step
    rw [hmove.current] at hconn'
    obtain ⟨conn, hconn, hwrites⟩ := hmove.writes hlog hconn'
    have hold : s.net.Promises conn n κ → s.Expects n κ := fun hp => Or.inl ⟨conn, hconn, hp⟩
    cases hpromise with
    | declared hkind =>
      have hkind' : net.runtime.value.state.declared conn'.session n = some κ := hkind
      rw [hmove.runtime, hwrites.session] at hkind'
      exact Or.inl (hold (.declared hkind'))
    | update hmem hkind =>
      rcases hwrites.toServer _ hmem with hbefore | hnew
      · exact Or.inl (hold (.update hbefore hkind))
      · obtain ⟨services, hnext, hdeclared⟩ := hupdates _ hnew
        have hkind' : (kinds services).lookup n = some κ := by
          rw [kinds, ← hdeclared]
          exact hkind
        exact Or.inr (Or.inl ⟨services, hnext, hkind'⟩)
    | @hello hello hun hhello' hkind =>
      rcases hwrites.hello hello hhello' with hbefore | hnew
      · exact Or.inl (hold (.hello (hun.of_phase hwrites.phase) hbefore hkind))
      · obtain ⟨config, hphase, hservices⟩ := hhello hello hnew
        refine Or.inr (Or.inr ⟨config, hphase, ?_⟩)
        rw [kinds, ← hservices]
        exact hkind
  · obtain ⟨p, hmem, hon, hp⟩ := mem_kindsOnWay.mp hway
    simp only [hmove.current] at hon
    exact Or.inl (Or.inr (mem_kindsOnWay.mpr ⟨p, hmem, hon, hp⟩))

/-- When the client starts an update, the kinds of the update are those that the server
expects. -/
lemma Agreeing.update (h : s.Agreeing sha256) {e : Client.Event}
    (hkeeps : s.KeepsKinds (.net (.client e))) {client : Client}
    (hstep : s.net.client.step e = some client) {services : List ClientServiceConfig}
    (hnext : s.net.client.nextServices e = some services)
    (hkind : (kinds services).lookup n = some κ) {κ' : TunnelKind} (hexpects : s.Expects n κ') :
    κ = κ' := by
  obtain ⟨service, hservice, rfl, rfl⟩ := mem_of_lookup_kinds hkind
  have huse : κ' ∈ s.kindsInUse service.name → service.kind = κ' := fun hmem =>
    (hkeeps services hnext service hservice κ' hmem).symm
  rcases hexpects with ⟨conn, hconn, hpromise⟩ | hway
  · obtain ⟨config, c, hphase, hpending⟩ := idle_of_nextServices hstep hnext
    cases hpromise with
    | declared hdeclared =>
      have hin : s.declared service.name = some κ' := by
        rw [declared, hconn]
        exact hdeclared
      exact huse (by simp [kindsInUse, hin])
    | update hmem =>
      -- none is pending, so none is on its way
      obtain ⟨past, hmatched⟩ := h.matched
      obtain ⟨conn', hconn', hcarries⟩ := hmatched.carries (onConnection_of_connected hphase)
      obtain rfl := Option.some.inj (hconn.symm.trans hconn')
      rw [pending?_of_connected hphase, hpending] at hcarries
      rw [hcarries.toServer_eq_nil] at hmem
      exact absurd hmem List.not_mem_nil
    | hello hun => exact absurd hun (h.registered.connected config c conn hphase hconn)
  · exact huse (by simp [kindsInUse, hway])

lemma Agreeing.client (h : s.Agreeing sha256) {e : Client.Event}
    (hkeeps : s.KeepsKinds (.net (.client e))) {net : ServiceNetwork}
    (hmatched : ∃ past, ServiceNetwork.Matched sha256 past net)
    (hmove : ServiceNetwork.ClientMove s.net e net) : Agreeing sha256 { s with net } where
  matched := hmatched
  registered := h.registered.client hmove
  agree n κ κ' huses hexpects := by
    have hstep := hmove.step
    rcases kindsFrom_of_step hmove.connected hstep huses with
      ⟨hnone, hold⟩ | ⟨services, hnext, hkind⟩
    · rcases expects_of_client hmove hexpects with hbefore | ⟨services, hnext, -⟩ |
        ⟨config, hphase, hkind⟩
      · exact h.agree n κ κ' hold hbefore
      · simp [hnone] at hnext
      · exact Option.some.inj (((uses_of_authenticating hphase).mp hold).symm.trans hkind)
    · rcases expects_of_client hmove hexpects with hbefore | ⟨services', hnext', hkind'⟩ |
        ⟨config, hphase, -⟩
      · rcases hkind with hnew | hconfigured
        · exact h.update hkeeps hstep hnext hnew hbefore
        · exact h.agree n κ κ' (uses_of_configured hconfigured) hbefore
      · obtain rfl := Option.some.inj (hnext.symm.trans hnext')
        rcases hkind with hnew | hconfigured
        · exact Option.some.inj (hnew.symm.trans hkind')
        · obtain ⟨service, hservice, rfl, rfl⟩ := mem_of_lookup_kinds hkind'
          refine hkeeps services hnext service hservice κ ?_
          simp [kindsInUse, hconfigured]
      · obtain ⟨config', c, hphase', -⟩ := idle_of_nextServices hstep hnext
        rw [hphase] at hphase'
        simp at hphase'
  known p hmem k hk := by
    have hlength : net.connections.length = s.net.connections.length := by
      rcases hmove.connections with ⟨-, hconns⟩ | ⟨_, _, _, -, -, -, hconns⟩ <;>
        rw [hconns, List.length_modify]
    have hlt := h.known p hmem k hk
    rw [← hlength] at hlt
    exact hlt
  requested := h.requested
  interpreted := h.interpreted

/-! ## Steps of a public connection -/

lemma Agreeing.accept (h : s.Agreeing sha256) (tunnel : String) (kind : TunnelKind)
    (destination : Option String) :
    Agreeing sha256
      { s with publics := s.publics ++ [⟨tunnel, kind, destination, .accepted⟩] } := by
  have hmem : ∀ p ∈ s.publics ++ [⟨tunnel, kind, destination, .accepted⟩],
      p ∈ s.publics ∨ p.stage = .accepted := by
    intro p hp
    rcases List.mem_append.mp hp with hold | hnew
    · exact Or.inl hold
    · rw [List.mem_singleton.mp hnew]
      exact Or.inr rfl
  refine ⟨h.matched, h.registered, fun n κ κ' huses hexpects => h.agree n κ κ' huses ?_,
    fun p hp k hk => ?_, fun p hp k request hstage => ?_, fun p hp service hstage => ?_⟩
  · rcases hexpects with hpromise | hway
    · exact Or.inl hpromise
    · obtain ⟨p, hp, hon, hkind⟩ := mem_kindsOnWay.mp hway
      rcases hmem p hp with hold | hnew
      · exact Or.inr (mem_kindsOnWay.mpr ⟨p, hold, hon, hkind⟩)
      · simp [PublicConnection.onWay, hnew] at hon
  · rcases hmem p hp with hold | hnew
    · exact h.known p hold k hk
    · simp [PublicConnection.onWay, hnew] at hk
  · rcases hmem p hp with hold | hnew
    · exact h.requested p hold k request hstage
    · simp [hnew] at hstage
  · rcases hmem p hp with hold | hnew
    · exact h.interpreted p hold service hstage
    · simp [hnew] at hstage

/-- A public connection comes to the next stage; when its stream takes to the way, the client
has no other kind in use for its tunnel. -/
lemma Agreeing.setStage (h : s.Agreeing sha256) {i : ℕ} {p : PublicConnection}
    {stage : ForwardStage}
    (hway : ∀ k, PublicConnection.onWay { p with stage } k = true → p.onWay k = true ∨
      (k < s.net.connections.length ∧ ∀ κ, k = s.net.current →
        s.net.client.Uses p.tunnel κ → κ = p.kind))
    (hp : p ∈ s.publics)
    (hrequested : ∀ k request, stage = .requested k request → request.service = p.tunnel)
    (hinterpreted : PublicConnection.Interpreted { p with stage }) :
    Agreeing sha256 { s with publics := s.publics.set i { p with stage } } := by
  refine ⟨h.matched, h.registered, fun n κ κ' huses hexpects => ?_, fun q hq k hk => ?_,
    fun q hq k request hstage => ?_, fun q hq => ?_⟩
  · rcases hexpects with hpromise | hkinds
    · exact h.agree n κ κ' huses (Or.inl hpromise)
    · obtain ⟨q, hq, hon, rfl, rfl⟩ := mem_kindsOnWay.mp hkinds
      rcases List.mem_or_eq_of_mem_set hq with hold | rfl
      · exact h.agree _ κ _ huses (Or.inr (mem_kindsOnWay.mpr ⟨q, hold, hon, rfl, rfl⟩))
      · rcases hway _ hon with hbefore | ⟨-, hkind⟩
        · exact h.agree _ κ _ huses (Or.inr (mem_kindsOnWay.mpr ⟨p, hp, hbefore, rfl, rfl⟩))
        · exact hkind κ rfl huses
  · rcases List.mem_or_eq_of_mem_set hq with hold | rfl
    · exact h.known q hold k hk
    · rcases hway k hk with hbefore | ⟨hlt, -⟩
      · exact h.known p hp k hbefore
      · exact hlt
  · rcases List.mem_or_eq_of_mem_set hq with hold | rfl
    · exact h.requested q hold k request hstage
    · exact hrequested k request hstage
  · rcases List.mem_or_eq_of_mem_set hq with hold | rfl
    · exact h.interpreted q hold
    · exact hinterpreted

/-- The session that `find` gives declares the tunnel with the kind it is configured with. -/
lemma Agreeing.declared_of_find (h : s.Agreeing sha256) {tunnel : String} {k : ℕ}
    (hfind : s.findConnection tunnel = some k) :
    ∃ spec conn, s.net.runtime.value.state.tunnels.lookup tunnel = some spec ∧
      tunnel ∈ s.net.runtime.value.state.owners ∧ s.net.connections[k]? = some conn ∧
      s.net.Promises conn tunnel spec.kind := by
  unfold findConnection at hfind
  split at hfind
  · rename_i found owner hfound howner
    obtain ⟨hlt, hsession, -⟩ := List.findIdx?_eq_some_iff_getElem.mp hfind
    obtain ⟨spec, session, hspec, hlookup, -, hkind⟩ :=
      h.registered.consistent.owners tunnel owner howner
    refine ⟨spec, s.net.connections[k], hspec, AList.mem_of_lookup howner,
      List.getElem?_eq_getElem hlt, .declared ?_⟩
    have hsame : s.net.connections[k].session = owner.sessionId := by simpa using hsession
    rw [hsame, RuntimeState.declared, hlookup]
    exact hkind
  · simp at hfind

lemma onWay_found {p : PublicConnection} {k k' : ℕ}
    (h : PublicConnection.onWay { p with stage := .found k } k' = true) : k = k' := by
  simpa [PublicConnection.onWay] using h

lemma Agreeing.find (h : s.Agreeing sha256) {i k : ℕ} {p : PublicConnection}
    (hp : s.publics[i]? = some p) (hkeeps : s.KeepsKinds (.find i))
    (hfind : s.findConnection p.tunnel = some k) :
    Agreeing sha256 { s with publics := s.publics.set i { p with stage := .found k } } := by
  obtain ⟨spec, conn, hspec, howned, hconn, hpromise⟩ := h.declared_of_find hfind
  have hkind : spec.kind = p.kind := hkeeps p hp spec hspec howned
  refine h.setStage (fun k' hon => Or.inr ?_) (List.mem_of_getElem? hp) (by simp)
    (fun service hstage => by simp at hstage)
  obtain rfl := onWay_found hon
  refine ⟨(List.getElem?_eq_some_iff.mp hconn).1, fun κ hcurrent huses => ?_⟩
  rw [← hkind]
  exact h.agree p.tunnel κ spec.kind huses (Or.inl ⟨conn, hcurrent ▸ hconn, hpromise⟩)

/-- The public connection ends. -/
lemma Agreeing.ended (h : s.Agreeing sha256) {i : ℕ} {p : PublicConnection}
    (hp : s.publics[i]? = some p) :
    Agreeing sha256 { s with publics := s.publics.set i { p with stage := .ended } } := by
  refine h.setStage (fun k hon => ?_) (List.mem_of_getElem? hp) (by simp)
    (fun service hstage => by simp at hstage)
  simp [PublicConnection.onWay] at hon

/-- The client accepts a stream with the entry under the name, or the stream ends. -/
lemma answer_cases (services : HashMap String ClientServiceConfig) (request : OpenRequest)
    (target : TargetConnection) :
    answer services request target = .ended ∨
      ∃ service, services.lookup request.service = some service ∧
        answer services request target = .handled service := by
  unfold answer
  split
  · rename_i service response hlookup _
    split
    · exact Or.inr ⟨service, hlookup, rfl⟩
    · exact Or.inl rfl
  · exact Or.inl rfl

lemma Agreeing.handle (h : s.Agreeing sha256) {i : ℕ} {p : PublicConnection}
    (hp : s.publics[i]? = some p) {request : OpenRequest}
    (hstage : p.stage = .requested s.net.current request)
    {services : HashMap String ClientServiceConfig}
    (hservices : s.net.client.services? = some services) (target : TargetConnection) :
    Agreeing sha256 { s with
      publics := s.publics.set i { p with stage := answer services request target } } := by
  have hmem := List.mem_of_getElem? hp
  rcases answer_cases services request target with hended | ⟨service, hlookup, hanswer⟩
  · rw [hended]
    exact h.ended hp
  · obtain ⟨config, c, hphase, rfl⟩ : ∃ config c, s.net.client.phase = .connected config c ∧
        services = c.services := by
      unfold Client.services? at hservices
      split at hservices
      · rename_i config c hphase
        exact ⟨config, c, hphase, (Option.some.inj hservices).symm⟩
      all_goals simp at hservices
    rw [h.requested p hmem _ _ hstage] at hlookup
    obtain ⟨l, hmap⟩ := h.registered.map config c hphase
    have huses : s.net.client.Uses p.tunnel service.kind := by
      rw [uses_of_connected hphase]
      exact Or.inl (by rw [hlookup]; rfl)
    have hexpects : s.Expects p.tunnel p.kind := by
      refine Or.inr (mem_kindsOnWay.mpr ⟨p, hmem, ?_, rfl, rfl⟩)
      simp [PublicConnection.onWay, hstage]
    rw [hanswer]
    refine h.setStage (fun k hon => by simp [PublicConnection.onWay] at hon) hmem (by simp) ?_
    rintro service' ⟨⟩
    exact ⟨name_of_lookup_serviceMap (hmap ▸ hlookup), h.agree _ _ _ huses hexpects⟩

lemma Agreeing.stage (h : s.Agreeing sha256) {i : ℕ} {p : PublicConnection}
    (hp : s.publics[i]? = some p) {e : Event} (he : e = .find i ∨ ∀ j, e ≠ .find j)
    (hkeeps : s.KeepsKinds e) {stage : ForwardStage} (hstage : s.stageStep p e = some stage) :
    Agreeing sha256 { s with publics := s.publics.set i { p with stage } } := by
  cases e with
  | find j =>
    obtain rfl : j = i := by simpa using he
    simp only [stageStep] at hstage
    split at hstage
    · split at hstage
      · rename_i hfind
        obtain rfl := Option.some.inj hstage
        exact h.find hp hkeeps hfind
      · exact Option.some.inj hstage ▸ h.ended hp
    · simp at hstage
  | request j =>
    simp only [stageStep] at hstage
    split at hstage
    · rename_i k hbefore
      obtain rfl := Option.some.inj hstage
      refine h.setStage (fun k' hon => Or.inl ?_) (List.mem_of_getElem? hp) ?_
        (fun service hstage => by simp at hstage)
      · simpa [PublicConnection.onWay, hbefore] using hon
      · rintro k' request ⟨⟩
        rfl
    · simp at hstage
  | handle j target =>
    simp only [stageStep] at hstage
    split at hstage
    · rename_i k request services hbefore hservices
      split at hstage
      · rename_i hk
        subst hk
        exact Option.some.inj hstage ▸ h.handle hp hbefore hservices target
      · simp at hstage
    · simp at hstage
  | drop j => exact Option.some.inj hstage ▸ h.ended hp
  | net | accept => simp [stageStep] at hstage

lemma Agreeing.step (h : s.Agreeing sha256) {e : Event} (hok : s.Orderly e)
    (hstep : s.step sha256 e = some s') : s'.Agreeing sha256 := by
  cases e with
  | net e =>
    obtain ⟨net, hnet, rfl⟩ := Option.map_eq_some_iff.mp hstep
    obtain ⟨past, hmatched⟩ := h.matched
    have hmatched' : ∃ past, ServiceNetwork.Matched sha256 past net := ⟨_, hmatched.step hnet⟩
    rcases h.registered.cases hok.1 hnet with
      hside | ⟨e', rfl, hmove⟩ | ⟨session, client, rfl, hclient, rfl⟩
    · exact h.serverSide hmatched' hside
    · exact h.client hok.2 hmatched' hmove
    · exact h.connect hok.1 hclient hmatched'
  | accept tunnel kind destination =>
    simp only [StreamNetwork.step] at hstep
    split at hstep
    · exact Option.some.inj hstep ▸ h.accept tunnel kind destination
    · simp at hstep
  | find i | request i | handle i | drop i =>
    obtain ⟨p, hp, hset⟩ := Option.bind_eq_some_iff.mp hstep
    obtain ⟨stage, hstage, rfl⟩ := Option.map_eq_some_iff.mp hset
    exact h.stage hp (by simp) hok.2 hstage

/-! ## The steps that are left out -/

/-- The update is on its way on the connection of the client. -/
lemma mem_toServer_of_starts {net net' : ServiceNetwork} {e : Client.Event}
    (hmove : ServiceNetwork.ClientMove net e net') {services : List ClientServiceConfig}
    (hstarts : net.client.Starts e services net'.client) {conn : ClientConnection}
    (hconn : net.connections[net.current]? = some conn) :
    ∃ conn' requestId, net'.connections[net'.current]? = some conn' ∧
      conn'.session = conn.session ∧ (requestId, declarations services) ∈ conn'.toServer := by
  obtain ⟨entries, requestId, hlog, hupdates⟩ := hstarts.log
  rcases hmove.connections with ⟨-, hconns⟩ | ⟨frame, _, _, hframe, -⟩
  · rw [ServiceNetwork.drop_log hlog] at hconns
    refine ⟨conn.write entries, requestId, ?_, rfl, ?_⟩
    · rw [hmove.current, hconns, List.getElem?_modify_eq, hconn]
      rfl
    · refine List.mem_append_right _ ?_
      rw [hupdates]
      exact List.mem_singleton_self _
  · rw [hstarts.frame] at hframe
    simp at hframe

/-- **An update with another kind ends the agreement.**  When the client starts an update that gives
a name a kind other than one in use for it, the client has one of the two kinds for the name and
expects streams of the other. -/
theorem not_agreeing_of_update (h : s.Agreeing sha256) {e : Client.Event} {net : ServiceNetwork}
    (hmove : ServiceNetwork.ClientMove s.net e net) {services : List ClientServiceConfig}
    (hnext : s.net.client.nextServices e = some services)
    (hnew : (kinds services).lookup n = some κ) {κ' : TunnelKind} (huse : κ' ∈ s.kindsInUse n)
    (hne : κ' ≠ κ) : ¬Agreeing sha256 { s with net } := by
  intro h'
  have hstarts := starts_of_nextServices hmove.step hnext
  have huses : net.client.Uses n κ := hstarts.uses hnew
  obtain ⟨config, c, -, hphase, -⟩ := hstarts.phase
  obtain ⟨past, hmatched⟩ := h.matched
  obtain ⟨conn, hconn, -⟩ := hmatched.carries (onConnection_of_connected hphase)
  obtain ⟨conn', requestId, hconn', hsession, hupdate⟩ := mem_toServer_of_starts hmove hstarts hconn
  rw [kindsInUse, List.mem_append, List.mem_append, Option.mem_toList, Option.mem_toList] at huse
  rcases huse with (hdeclared | hway) | hconfigured
  · have hkind : net.runtime.value.state.declared conn'.session n = some κ' := by
      rw [hmove.runtime, hsession]
      rwa [declared, hconn] at hdeclared
    exact hne (h'.agree n κ κ' huses (Or.inl ⟨conn', hconn', .declared hkind⟩)).symm
  · obtain ⟨p, hmem, hon, hp⟩ := mem_kindsOnWay.mp hway
    rw [← hmove.current] at hon
    exact hne (h'.agree n κ κ' huses (Or.inr (mem_kindsOnWay.mpr ⟨p, hmem, hon, hp⟩))).symm
  · -- a snapshot brings the map of a managed client back, and the server has the new kind
    have huses' : net.client.Uses n κ' :=
      uses_of_configured (hstarts.configured.trans hconfigured)
    exact hne (h'.agree n κ' κ huses' (Or.inl ⟨conn', hconn', .update hupdate hnew⟩))

/-- **So does the stream of a listener whose tunnel has another kind by now**, when it comes to the
connection of a client that has the name in use. -/
theorem not_agreeing_of_find (h : s.Agreeing sha256) {i : ℕ} {p : PublicConnection}
    (hp : s.publics[i]? = some p) (hfind : s.findConnection p.tunnel = some s.net.current)
    {spec : TunnelSpec} (hspec : s.net.runtime.value.state.tunnels.lookup p.tunnel = some spec)
    (hne : spec.kind ≠ p.kind) (huses : s.net.client.Uses p.tunnel κ) :
    ¬Agreeing sha256
      { s with publics := s.publics.set i { p with stage := .found s.net.current } } := by
  intro h'
  obtain ⟨spec', conn, hspec', -, hconn, hpromise⟩ := h.declared_of_find hfind
  obtain rfl := Option.some.inj (hspec.symm.trans hspec')
  have hdeclared : κ = spec.kind := h.agree p.tunnel κ spec.kind huses
    (Or.inl ⟨conn, hconn, hpromise⟩)
  have hway : κ = p.kind := by
    refine h'.agree p.tunnel κ p.kind huses (Or.inr (mem_kindsOnWay.mpr ?_))
    refine ⟨{ p with stage := .found s.net.current }, ?_, ?_, rfl, rfl⟩
    · obtain ⟨hlt, -⟩ := List.getElem?_eq_some_iff.mp hp
      exact List.mem_of_getElem? (List.getElem?_set_self hlt)
    · simp [PublicConnection.onWay]
  exact hne (hdeclared.symm.trans hway)

/-! ## Runs -/

def sampleStart : StreamNetwork := start (Client.start true "first" (.ok (sampleConfig [])))

end StreamNetwork

end GateRust.Tunnel
