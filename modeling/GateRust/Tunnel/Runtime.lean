/-
# The tunnel runtime

The shared state of the tunnel server (`runtime.rs`): the credentials of the groups, the
sessions of the clients that are online, the configured tunnels, and the session that owns
each tunnel.  Every operation of the runtime holds the write lock of the state from its
first access to its last, so an operation is one function here; what it does outside the
lock (closing connections, cancelling the data streams of a tunnel, notifying the
subscribers) is recorded in the runtime.

SHA-256 is a parameter: the library that computes it is not part of the repository.
-/
import Mathlib.Data.List.Sort
import GateRust.Lib.HashMap
import GateRust.Tunnel.Protocol

namespace GateRust.Tunnel

def maxOnlineClients : ℕ := 128

abbrev SessionId := UInt64

abbrev Digest := List UInt8

/-- A QUIC connection: its identity and the address of the peer. -/
structure Connection where
  stableId : ℕ
  remoteAddress : SocketAddr
deriving DecidableEq, Repr

/-- A cancellation token; two tokens are the same when their numbers are. -/
abbrev CancellationToken := ℕ

/-- The application close codes that the runtime uses. -/
inductive ApplicationCloseCode where
  | administratorDisconnect
  | credentialsRevoked
deriving DecidableEq, Repr

structure TunnelOwner where
  sessionId : SessionId
  shutdown : CancellationToken
deriving DecidableEq, Repr

structure SessionEntry where
  connection : Connection
  deviceId : String
  group : String
  credentialDigest : Digest
  remoteAddress : SocketAddr
  connectedAt : UInt64
  services : HashMap String TunnelKind

structure TunnelSpec where
  group : String
  kind : TunnelKind
  bind : SocketAddr
  localIp : Option String
  localPort : Option UInt16
deriving DecidableEq, Repr

structure RuntimeState where
  credentials : HashMap String Digest
  sessions : HashMap SessionId SessionEntry
  tunnels : HashMap String TunnelSpec
  owners : HashMap String TunnelOwner

/-- The runtime: the locked state, the revision that is sent to the subscribers, and the
effects outside the lock. -/
structure TunnelRuntime where
  state : RuntimeState
  revision : UInt64
  /-- The number of the next cancellation token. -/
  nextToken : ℕ
  cancelled : List CancellationToken
  closed : List (Connection × ApplicationCloseCode)

structure ClientSession where
  connection : Connection
  tunnelShutdown : CancellationToken
deriving DecidableEq, Repr

inductive TunnelDisconnectError where
  | sessionNotFound
  | tunnelNotFound
  | notOwnedBySession
deriving DecidableEq, Repr

inductive RegisterError where
  | deviceIdConflict
  | capacity
  | credentialsChanged
deriving DecidableEq, Repr

structure ServiceUpdate where
  declaredServices : ℕ
  activeTunnels : ℕ
  claimedTunnels : ℕ
  releasedTunnels : ℕ
  changed : Bool
deriving DecidableEq, Repr

structure RuntimeClient where
  sessionId : SessionId
  deviceId : String
  group : String
  remoteAddress : SocketAddr
  connectedAt : UInt64
deriving DecidableEq, Repr

structure RuntimeTunnel where
  name : String
  ownerSessionId : Option SessionId
deriving DecidableEq, Repr

structure TunnelRuntimeSnapshot where
  clients : List RuntimeClient
  tunnels : List RuntimeTunnel
deriving DecidableEq, Repr

/-! ## Ownership -/

def eligible (session : SessionEntry) (tunnel : String) (spec : TunnelSpec) : Bool :=
  session.group = spec.group && session.services.lookup tunnel = some spec.kind

def serviceMap (services : List ServiceDeclaration) : HashMap String TunnelKind :=
  .ofList (services.map fun service => (service.name, service.kind))

namespace RuntimeState

variable (st : RuntimeState)

def retainValidOwners : RuntimeState :=
  { st with
    owners := st.owners.retain fun name owner =>
      match st.tunnels.lookup name with
      | none => false
      | some spec =>
        match st.sessions.lookup owner.sessionId with
        | none => false
        | some session => eligible session name spec }

def releaseSession (id : SessionId) : RuntimeState :=
  { st with owners := st.owners.retain fun _ owner => owner.sessionId ≠ id }

/-- Remove a session and the tunnels it owns. -/
def removeSession (id : SessionId) : RuntimeState :=
  { st with sessions := st.sessions.erase id }.releaseSession id

def insertSession (id : SessionId) (entry : SessionEntry) : RuntimeState :=
  { st with sessions := st.sessions.insert id entry }

/-- Change the services that a session declares. -/
def modifyServices (id : SessionId)
    (f : HashMap String TunnelKind → HashMap String TunnelKind) : RuntimeState :=
  { st with
    sessions := st.sessions.modify id fun session =>
      { session with services := f session.services } }

def ownedTunnels (id : SessionId) : List String :=
  (st.owners.retain fun _ owner => owner.sessionId = id).keys

/-- The tunnels without an owner that a session is eligible for. -/
def available (id : SessionId) : List String :=
  match st.sessions.lookup id with
  | none => []
  | some session =>
    (st.tunnels.retain fun name spec =>
      !(st.owners.lookup name).isSome && eligible session name spec).keys

/-- Remove the sessions with revoked credentials, one after the other, and collect their
connections. -/
def revoke (st : RuntimeState) : List SessionId → RuntimeState × List Connection
  | [] => (st, [])
  | id :: ids =>
    match st.sessions.lookup id with
    | none => revoke st ids
    | some session =>
      let rest := revoke (st.removeSession id) ids
      (rest.1, session.connection :: rest.2)

end RuntimeState

/-- Make a session the owner of tunnels, each with a new token. -/
def insertOwners (id : SessionId) :
    List String → CancellationToken → HashMap String TunnelOwner → HashMap String TunnelOwner
  | [], _, owners => owners
  | name :: names, token, owners =>
    insertOwners id names (token + 1) (owners.insert name ⟨id, token⟩)

namespace TunnelRuntime

variable (rt : TunnelRuntime)

def new : TunnelRuntime := ⟨⟨∅, ∅, ∅, ∅⟩, 0, 0, [], []⟩

/-- `notify`: the revision wraps around. -/
def notify : TunnelRuntime := { rt with revision := rt.revision + 1 }

def claimAvailable (id : SessionId) : TunnelRuntime :=
  let names := rt.state.available id
  { rt with
    state.owners := insertOwners id names rt.nextToken rt.state.owners
    nextToken := rt.nextToken + names.length }

/-! ## Operations -/

def register (id : SessionId) (deviceId group : String) (credentialDigest : Digest)
    (connection : Connection) (services : List ServiceDeclaration) (now : UInt64) :
    Except RegisterError Unit × TunnelRuntime :=
  if maxOnlineClients ≤ rt.state.sessions.size then (.error .capacity, rt)
  else if rt.state.credentials.lookup group ≠ some credentialDigest then
    (.error .credentialsChanged, rt)
  else if rt.state.sessions.entries.any fun e => e.2.deviceId = deviceId then
    (.error .deviceIdConflict, rt)
  else
    let entry : SessionEntry :=
      { connection, deviceId, group, credentialDigest
        remoteAddress := connection.remoteAddress
        connectedAt := now
        services := serviceMap services }
    let rt := { rt with state := rt.state.insertSession id entry }
    (.ok (), (rt.claimAvailable id).notify)

def updateServices (id : SessionId) (services : List ServiceDeclaration) :
    Option ServiceUpdate × TunnelRuntime :=
  match rt.state.sessions.lookup id with
  | none => (none, rt)
  | some session =>
    let previouslyOwned := rt.state.ownedTunnels id
    let services := serviceMap services
    let declarationsChanged := !session.services.same services
    -- what the session may no longer own is released before it claims anything new
    let state := (rt.state.modifyServices id fun _ => services).retainValidOwners
    let rt := { rt with state }.claimAvailable id
    let currentlyOwned := rt.state.ownedTunnels id
    let claimed := (currentlyOwned.filter (· ∉ previouslyOwned)).length
    let released := (previouslyOwned.filter (· ∉ currentlyOwned)).length
    let changed := declarationsChanged || claimed ≠ 0 || released ≠ 0
    let update : ServiceUpdate :=
      { declaredServices := services.size
        activeTunnels := currentlyOwned.length
        claimedTunnels := claimed
        releasedTunnels := released
        changed }
    (some update, if changed then rt.notify else rt)

def unregister (id : SessionId) : TunnelRuntime :=
  match rt.state.sessions.lookup id with
  | none => rt
  | some _ => { rt with state := rt.state.removeSession id }.notify

def disconnect (id : SessionId) : Bool × TunnelRuntime :=
  match rt.state.sessions.lookup id with
  | none => (false, rt)
  | some session =>
    let rt := { rt with state := rt.state.removeSession id }.notify
    (true, { rt with closed := rt.closed ++ [(session.connection, .administratorDisconnect)] })

def disconnectTunnel (id : SessionId) (tunnel : String) :
    Except TunnelDisconnectError Unit × TunnelRuntime :=
  match rt.state.sessions.lookup id with
  | none => (.error .sessionNotFound, rt)
  | some _ =>
    match rt.state.tunnels.lookup tunnel with
    | none => (.error .tunnelNotFound, rt)
    | some _ =>
      match rt.state.owners.lookup tunnel with
      | none => (.error .notOwnedBySession, rt)
      | some owner =>
        if owner.sessionId ≠ id then (.error .notOwnedBySession, rt)
        else
          let state := { rt.state.modifyServices id (·.erase tunnel) with
            owners := rt.state.owners.erase tunnel }
          (.ok (), { rt with state, cancelled := rt.cancelled ++ [owner.shutdown] }.notify)

def applyTunnels (configs : List ServerTunnelConfig) : TunnelRuntime :=
  let tunnels := .ofList (configs.map fun config =>
    (config.name,
      { group := config.group
        kind := config.kind
        bind := config.bind
        localIp := config.clientLocalIp
        localPort := config.clientLocalPort }))
  { rt with state := { rt.state with tunnels }.retainValidOwners }.notify

/-- The digests of the configured keys, by group. -/
def credentialDigests (sha256 : GroupSecret → Digest)
    (credentials : List (String × GroupSecret)) : HashMap String Digest :=
  .ofList (credentials.map fun e => (e.1, sha256 e.2))

def applyCredentials (sha256 : GroupSecret → Digest)
    (credentials : List (String × GroupSecret)) : TunnelRuntime :=
  let state := { rt.state with credentials := credentialDigests sha256 credentials }
  let revoked := (state.sessions.retain fun _ session =>
    state.credentials.lookup session.group ≠ some session.credentialDigest).keys
  let result := state.revoke revoked
  let rt := { rt with state := result.1 }
  if result.2.isEmpty then rt
  else
    let rt := rt.notify
    { rt with closed := rt.closed ++ result.2.map fun c => (c, .credentialsRevoked) }

/-! ## Queries -/

def find (tunnel : String) : Option ClientSession :=
  match rt.state.owners.lookup tunnel with
  | none => none
  | some owner =>
    (rt.state.sessions.lookup owner.sessionId).map fun session =>
      { connection := session.connection, tunnelShutdown := owner.shutdown }

def catalog (sessionId : SessionId) : List ClientTunnel :=
  match rt.state.sessions.lookup sessionId with
  | none => []
  | some session =>
    let tunnels := (rt.state.tunnels.entries.filter fun e => e.2.group = session.group).map
      fun e =>
        let state : ClientTunnelState :=
          match rt.state.owners.lookup e.1 with
          | none => .idle
          | some owner => if owner.sessionId = sessionId then .enabled else .occupied
        { name := e.1
          kind := e.2.kind
          serverPort := e.2.bind.port
          localIp := e.2.localIp
          localPort := e.2.localPort
          state }
    tunnels.insertionSort fun left right => left.name ≤ right.name

def snapshot : TunnelRuntimeSnapshot :=
  let clients : List RuntimeClient := rt.state.sessions.entries.map fun e =>
    { sessionId := e.1
      deviceId := e.2.deviceId
      group := e.2.group
      remoteAddress := e.2.remoteAddress
      connectedAt := e.2.connectedAt }
  let tunnels : List RuntimeTunnel := rt.state.tunnels.keys.map fun name =>
    { name, ownerSessionId := (rt.state.owners.lookup name).map (·.sessionId) }
  { clients := clients.insertionSort fun left right => left.sessionId ≤ right.sessionId
    tunnels := tunnels.insertionSort fun left right => left.name ≤ right.name }

/-! ## Runs -/

/-- The operations of the runtime that change its state. -/
inductive Operation where
  | register (id : SessionId) (deviceId group : String) (credentialDigest : Digest)
      (connection : Connection) (services : List ServiceDeclaration) (now : UInt64)
  | updateServices (id : SessionId) (services : List ServiceDeclaration)
  | unregister (id : SessionId)
  | disconnect (id : SessionId)
  | disconnectTunnel (id : SessionId) (tunnel : String)
  | applyTunnels (configs : List ServerTunnelConfig)
  | applyCredentials (credentials : List (String × GroupSecret))

def perform (sha256 : GroupSecret → Digest) : Operation → TunnelRuntime
  | .register id deviceId group digest connection services now =>
    (rt.register id deviceId group digest connection services now).2
  | .updateServices id services => (rt.updateServices id services).2
  | .unregister id => rt.unregister id
  | .disconnect id => (rt.disconnect id).2
  | .disconnectTunnel id tunnel => (rt.disconnectTunnel id tunnel).2
  | .applyTunnels configs => rt.applyTunnels configs
  | .applyCredentials credentials => rt.applyCredentials sha256 credentials

/-- The step function of the runtime: every operation can be called in every state. -/
def step (sha256 : GroupSecret → Digest) (rt : TunnelRuntime) (op : Operation) :
    Option TunnelRuntime :=
  some (rt.perform sha256 op)

end TunnelRuntime

end GateRust.Tunnel
