/-
# The tunnel client

The loop of the client (`run_client_loop` in `client.rs`) with everything it awaits: the
configuration file and its watcher, the connection to the server, the authentication, the
connected session with its pending service update, and the wait before the next attempt.  The
`select!` loops wait for several things at once, so what happens next is an event, and any
event that the current phase waits for may be the next one.

The watcher is modelled with its history: whether the file has changed since the client last
read it.  The call of `changed` that a `select!` polls is part of the state, because it takes a
notification out of the channel before it returns, and it is dropped when another branch wins.
-/
import GateRust.Lib.Machine
import GateRust.Lib.HashMap
import GateRust.Tunnel.Protocol

namespace GateRust.Tunnel

/-! ## The configuration watcher -/

structure ConfigWatcher where
  /-- What `ClientConfig::load` returns for the file. -/
  file : Except String ClientConfig
  /-- The channel, which has room for one notification, holds one. -/
  token : Bool
  /-- The live call of `changed` has taken a notification and waits for the quiet period. -/
  holding : Bool
  /-- History: the file changed after the client last read it. -/
  changedSinceLoad : Bool
  /-- History: the file changed, and no notification was delivered since. -/
  undelivered : Bool

namespace ConfigWatcher

variable (w : ConfigWatcher)

def writeFile (content : Except String ClientConfig) : ConfigWatcher :=
  { w with file := content, changedSinceLoad := true, undelivered := true }

/-- The callback of the watcher: `try_send` does nothing when the channel is full. -/
def notify : ConfigWatcher := { w with token := true, undelivered := false }

/-- The first `recv` of `changed`. -/
def take : ConfigWatcher := { w with token := false, holding := true }

/-- A further `recv` during the quiet period. -/
def absorb : ConfigWatcher := { w with token := false }

/-- The call of `changed` returns or is dropped. -/
def release : ConfigWatcher := { w with holding := false }

def read : ConfigWatcher := { w with changedSinceLoad := false }

end ConfigWatcher

namespace Client

/-! ## Configurations and services -/

def declarations (services : List ClientServiceConfig) : List ServiceDeclaration :=
  services.map fun service => ⟨service.name, service.kind⟩

def serviceMap (services : List ClientServiceConfig) : HashMap String ClientServiceConfig :=
  .ofList (services.map fun service => (service.name, service))

def connectionIdentityChanged (current updated : ClientConfig) : Bool :=
  current.server ≠ updated.server || current.key ≠ updated.key

def reconcileConfigUpdate (current updated : ClientConfig) (managed : Bool) : ClientConfig :=
  if managed then
    if connectionIdentityChanged current updated then { updated with services := [] }
    else { updated with services := current.services }
  else updated

def takeRequestId (next : UInt64) : UInt64 × UInt64 := (next, max (next + 1) 1)

/-- The names of the tunnels that are enabled for this client. -/
def enabledNames (tunnels : List ClientTunnel) : List String :=
  (tunnels.filter fun tunnel => tunnel.state = .enabled).map (·.name)

/-! ## The connected session -/

/-- A service update that the server has not confirmed; a command of the controller waits for
the response with the given number. -/
structure PendingServiceUpdate where
  requestId : UInt64
  updated : ClientConfig
  response : Option ℕ

/-- The variables of `run_connected`. -/
structure Connected where
  pending : Option PendingServiceUpdate
  /-- The map that `handle_stream` looks services up in. -/
  services : HashMap String ClientServiceConfig
  nextRequestId : UInt64
  /-- The command channel is there. -/
  commands : Bool

/-- `retain_enabled_services`: the map is written only when a service was dropped. -/
def retainEnabledServices (config : ClientConfig) (services : HashMap String ClientServiceConfig)
    (tunnels : List ClientTunnel) : ClientConfig × HashMap String ClientServiceConfig :=
  let enabled := enabledNames tunnels
  let previousLen := config.services.length
  let config := { config with services := config.services.filter fun service =>
    service.name ∈ enabled }
  if config.services.length ≠ previousLen then (config, serviceMap config.services)
  else (config, services)

/-- `begin_service_update`, with the result of `write_frame`: the new map is in place before the
message is written, and the old one is restored when the write fails. -/
def beginServiceUpdate (current : ClientConfig) (update : PendingServiceUpdate) :
    Except TunnelError Unit →
      Except TunnelError PendingServiceUpdate × HashMap String ClientServiceConfig
  | .ok () => (.ok update, serviceMap update.updated.services)
  | .error error => (.error error, serviceMap current.services)

/-! ## The state of the client -/

inductive ClientStatus where
  | starting
  | unconfigured (reason : String)
  | connecting (server : String)
  | online (server deviceId : String) (tunnels : List ClientTunnel)
  | reconnecting (error : String) (retrySeconds : ℕ)
  | stopped (reason : Option String)
deriving DecidableEq, Repr

/-- Where the loop of the client is, with its local configuration. -/
inductive Phase where
  /-- `wait_for_initial_config` is about to load the file. -/
  | loading (current : Option ClientConfig)
  /-- `wait_for_initial_config` waits for a change. -/
  | waiting (current : Option ClientConfig)
  | connecting (config : ClientConfig)
  | authenticating (config : ClientConfig) (helloSent : Bool)
  | connected (config : ClientConfig) (c : Connected)
  /-- The wait before the next attempt. -/
  | retrying (config : ClientConfig)
  | stopped

/-- The `select!` of the phase polls a call of `changed`. -/
def Phase.watches : Phase → Bool
  | .loading _ | .stopped => false
  | .waiting _ | .connecting _ | .authenticating .. | .retrying _ => true
  | .connected _ c => c.pending.isNone

/-- What the client has done: the configurations it has loaded and the messages it has sent. -/
inductive Entry where
  | loaded (config : ClientConfig)
  | hello (hello : ClientHello)
  | control (message : ControlMessage)
deriving DecidableEq

end Client

open Client in
structure Client where
  managed : Bool
  deviceId : String
  /-- The seconds before the next attempt. -/
  retry : ℕ
  phase : Phase
  status : ClientStatus
  watcher : ConfigWatcher
  log : List Entry
  /-- The responses to the commands of the controller. -/
  responses : List (ℕ × Except String (List ClientTunnel))

namespace Client

inductive ConnectionEnd where
  | reconfigure (config : ClientConfig)
  | unconfigured
  | disconnected (error : TunnelError)
  /-- With the new device id, none if `resolve_conflict` fails. -/
  | deviceIdConflict (resolved : Option String)
  | administratorDisconnected
  | shutdown

def start (managed : Bool) (deviceId : String) (file : Except String ClientConfig) : Client where
  managed := managed
  deviceId := deviceId
  retry := 1
  phase := .loading none
  status := .starting
  watcher := ⟨file, false, false, false, false⟩
  log := []
  responses := []

variable (s : Client)

def connect (config : ClientConfig) : Client :=
  { s with phase := .connecting config, status := .connecting config.server.address }

def stop (reason : Option String) : Client :=
  { s with phase := .stopped, status := .stopped reason }

/-- What `run_client_loop` does when `connect_and_run` returns. -/
def endConnection (config : ClientConfig) : ConnectionEnd → Client
  | .reconfigure updated => { s with retry := 1 }.connect updated
  | .unconfigured => { s with phase := .loading (some config) }
  | .disconnected error =>
    { s with phase := .retrying config, status := .reconnecting error.display s.retry }
  | .deviceIdConflict (some id) => { s with deviceId := id, retry := 1 }.connect config
  | .deviceIdConflict none => { s with phase := .stopped }
  | .administratorDisconnected => s.stop (some "客户端已被管理员下线")
  | .shutdown => s.stop none

/-- A call of `ClientConfig::load`, or of `load_client_config_after_change` up to its last
attempt. -/
def load : Client :=
  match s.watcher.file with
  | .ok config => { s with watcher := s.watcher.read, log := s.log ++ [.loaded config] }
  | .error _ => { s with watcher := s.watcher.read }

/-- An iteration of `wait_for_initial_config` up to its `select!`, and what follows when the
configuration is there. -/
def loadInitial (current : Option ClientConfig) : Client :=
  match s.watcher.file, current with
  | .ok updated, none =>
    s.load.connect (if s.managed then { updated with services := [] } else updated)
  | .ok updated, some config =>
    { s.load with retry := 1 }.connect (reconcileConfigUpdate config updated s.managed)
  | .error reason, _ =>
    { s.load with phase := .waiting current, status := .unconfigured reason }

/-- Send a response to a command. -/
def respond (response : Option ℕ) (result : Except String (List ClientTunnel)) : Client :=
  match response with
  | some number => { s with responses := s.responses ++ [(number, result)] }
  | none => s

/-- Continue the loop of `run_connected`. -/
def stay (config : ClientConfig) (c : Connected) : Client := { s with phase := .connected config c }

def online (config : ClientConfig) (tunnels : List ClientTunnel) : Client :=
  { s with status := .online config.server.address s.deviceId tunnels }

/-- Call `begin_service_update`, and wait for the confirmation or end the connection. -/
def startUpdate (config : ClientConfig) (c : Connected) (updated : ClientConfig)
    (response : Option ℕ) (write : Except TunnelError Unit) : Client :=
  let (requestId, next) := takeRequestId c.nextRequestId
  let update : PendingServiceUpdate := ⟨requestId, updated, response⟩
  match beginServiceUpdate config update write with
  | (.ok pending, services) =>
    -- the map has the new services before the server has answered
    let message := .updateServices requestId (declarations updated.services)
    { s with log := s.log ++ [Entry.control message] }.stay config
      { c with nextRequestId := next, services, pending := some pending }
  | (.error error, _) =>
    (s.respond response (.error error.display)).endConnection config (.disconnected error)

/-- Only a managed client drops the services that are not enabled. -/
def retained (config : ClientConfig) (services : HashMap String ClientServiceConfig)
    (tunnels : List ClientTunnel) : ClientConfig × HashMap String ClientServiceConfig :=
  if s.managed then retainEnabledServices config services tunnels else (config, services)

/-- The branch of `read_frame` in `run_connected`. -/
def onMessage (config : ClientConfig) (c : Connected) : ServerControlMessage → Client
  | .tunnelSnapshot tunnels =>
    let (config, services) := s.retained config c.services tunnels
    (s.online config tunnels).stay config { c with services }
  | .servicesApplied requestId tunnels =>
    match c.pending with
    | none =>
      s.endConnection config (.disconnected (.protocol "收到没有对应请求的服务应用回执"))
    | some pending =>
      if pending.requestId ≠ requestId then
        s.endConnection config (.disconnected (.protocol "服务应用回执编号不匹配"))
      else
        let (config, services) := s.retained pending.updated c.services tunnels
        ((s.online config tunnels).respond pending.response (.ok tunnels)).stay config
          { c with services, pending := none }

/-- `changed` has returned true; `write` is the result of the `write_frame` call that may
follow in `run_connected`. -/
def onChanged (write : Except TunnelError Unit) : Client :=
  match s.phase with
  | .waiting current => s.loadInitial current
  | .connecting config | .authenticating config _ =>
    match s.watcher.file with
    | .ok updated =>
      s.load.endConnection config (.reconfigure (reconcileConfigUpdate config updated s.managed))
    | .error _ => s.load.endConnection config .unconfigured
  | .connected config c =>
    match s.watcher.file with
    | .ok updated =>
      if connectionIdentityChanged config updated then
        s.load.endConnection config (.reconfigure (reconcileConfigUpdate config updated s.managed))
      -- the services of a managed client come from commands, not from the file
      else if s.managed then s.load.stay config c
      else s.load.startUpdate config c updated none write
    | .error _ => s.load.endConnection config .unconfigured
  | .retrying config =>
    match s.watcher.file with
    | .ok updated =>
      { s.load with retry := min (s.retry * 2) 30 }.connect
        (reconcileConfigUpdate config updated s.managed)
    | .error _ => { s.load with phase := .loading (some config) }
  | .loading _ | .stopped => s

/-- `changed` has returned false. -/
def onWatcherClosed : Client :=
  match s.phase with
  | .waiting _ | .retrying _ => s.stop none
  | .connecting config | .authenticating config _ | .connected config _ =>
    s.endConnection config (.disconnected (.protocol "配置监听器已关闭"))
  | .loading _ | .stopped => s

/-! ## Events -/

inductive AuthenticationResult where
  | accepted (tunnels : List ClientTunnel)
  /-- With the result of `resolve_conflict`. -/
  | deviceIdConflict (resolved : Option String)
  | failed (error : TunnelError)

def AuthenticationResult.isFailed : AuthenticationResult → Bool
  | .failed _ => true
  | .accepted _ | .deviceIdConflict _ => false

inductive Event where
  /-- The file is replaced; the content is given by what `ClientConfig::load` makes of it. -/
  | fileChanged (content : Except String ClientConfig)
  | notify
  | takeToken
  | absorbToken
  | changed (write : Except TunnelError Unit)
  | watcherClosed
  | loadInitial
  | shutdown
  | connectionStep (result : Except TunnelError Unit)
  | helloWritten
  | authentication (result : AuthenticationResult)
  | retryElapsed
  | deadline
  | closed (error : TunnelError) (administrator : Bool)
  | message (message : ServerControlMessage)
  | readFailed (error : TunnelError)
  | command (services : List ClientServiceConfig) (response : ℕ) (responseClosed : Bool)
      (write : Except TunnelError Unit)
  | commandsClosed
  | acceptStream (result : Except TunnelError Unit)
  | taskJoined

def hello (config : ClientConfig) : ClientHello where
  version := protocolVersion
  deviceId := s.deviceId
  key := config.key.toUTF8.toList
  services := declarations config.services

/-- Another branch of the `select!` wins, and the call of `changed` is dropped. -/
def select : Client := { s with watcher := s.watcher.release }

/-- The events that the watcher and the configuration file take part in. -/
def watcherStep : Event → Option Client
  | .fileChanged content => some { s with watcher := s.watcher.writeFile content }
  | .notify => some { s with watcher := s.watcher.notify }
  | .takeToken =>
    if s.phase.watches && s.watcher.token && !s.watcher.holding then
      some { s with watcher := s.watcher.take }
    else none
  | .absorbToken =>
    if s.watcher.token && s.watcher.holding then some { s with watcher := s.watcher.absorb }
    else none
  | .changed write =>
    if s.phase.watches && s.watcher.holding then some (s.select.onChanged write) else none
  | .watcherClosed =>
    if s.phase.watches && !s.watcher.token && !s.watcher.holding then some s.onWatcherClosed
    else none
  | _ => none

/-- `connect_server` has returned. -/
def onConnectionStep (config : ClientConfig) : Except TunnelError Unit → Client
  | .ok () => { s with phase := .authenticating config false }
  | .error error => s.endConnection config (.disconnected error)

/-- `authenticate` has returned. -/
def onAuthentication (config : ClientConfig) : AuthenticationResult → Client
  | .accepted tunnels =>
    (s.online config tunnels).stay config ⟨none, serviceMap config.services, 1, s.managed⟩
  | .deviceIdConflict resolved => s.endConnection config (.deviceIdConflict resolved)
  | .failed error => s.endConnection config (.disconnected error)

/-- The events of the phases other than `connected`; the server answers a hello only after it
was written. -/
def phaseStep : Event → Option Client
  | .loadInitial =>
    match s.phase with
    | .loading current => some (s.loadInitial current)
    | _ => none
  | .connectionStep result =>
    match s.phase with
    | .connecting config => some (s.select.onConnectionStep config result)
    | _ => none
  | .helloWritten =>
    match s.phase with
    | .authenticating config false =>
      some { s with
        phase := .authenticating config true
        log := s.log ++ [.hello (s.hello config)] }
    | _ => none
  | .authentication result =>
    match s.phase with
    | .authenticating config helloSent =>
      if helloSent || result.isFailed then some (s.select.onAuthentication config result) else none
    | _ => none
  | .retryElapsed =>
    match s.phase with
    | .retrying config => some ({ s.select with retry := min (s.retry * 2) 30 }.connect config)
    | _ => none
  | .shutdown =>
    match s.phase with
    | .stopped => none
    | _ => some (s.select.stop none)
  | _ => none

/-- The branches of the loop of `run_connected` other than the watcher; the command channel is
there for a managed client until it is closed. -/
def connectedStep (config : ClientConfig) (c : Connected) : Event → Option Client
  | .deadline =>
    c.pending.map fun pending =>
      (s.select.respond pending.response (.error "等待服务端确认服务配置超时")).endConnection config
        (.disconnected (.timeout "等待服务端确认服务配置"))
  | .closed error administrator =>
    some (s.select.endConnection config
      (if administrator then .administratorDisconnected else .disconnected error))
  | .message message => some (s.select.onMessage config c message)
  | .readFailed error => some (s.select.endConnection config (.disconnected error))
  | .command services response responseClosed write =>
    if s.managed && c.commands && c.pending.isNone then
      -- nobody waits for the answer any more
      if responseClosed then some s.select
      else some (s.select.startUpdate config c { config with services } (some response) write)
    else none
  | .commandsClosed =>
    if s.managed && c.commands && c.pending.isNone then
      some (s.select.stay config { c with commands := false })
    else none
  | .acceptStream (.ok ()) => some s.select
  | .acceptStream (.error error) => some (s.select.endConnection config (.disconnected error))
  | .taskJoined => some s.select
  | _ => none

def step (e : Event) : Option Client :=
  match e with
  | .fileChanged _ | .notify | .takeToken | .absorbToken | .changed _ | .watcherClosed =>
    s.watcherStep e
  | .loadInitial | .shutdown | .connectionStep _ | .helloWritten | .authentication _
  | .retryElapsed => s.phaseStep e
  | .deadline | .closed .. | .message _ | .readFailed _ | .command .. | .commandsClosed
  | .acceptStream _ | .taskJoined =>
    match s.phase with
    | .connected config c => s.connectedStep config c e
    | _ => none

/-! ## The steps of the client -/

/-- The steps of the client, one constructor for each way in which an event is handled. -/
inductive Steps (s : Client) : Event → Client → Prop
  | fileChanged (content : Except String ClientConfig) :
      Steps s (.fileChanged content) { s with watcher := s.watcher.writeFile content }
  | notify : Steps s .notify { s with watcher := s.watcher.notify }
  | takeToken (hwatches : s.phase.watches = true) (htoken : s.watcher.token = true) :
      Steps s .takeToken { s with watcher := s.watcher.take }
  | absorbToken (hhold : s.watcher.holding = true) :
      Steps s .absorbToken { s with watcher := s.watcher.absorb }
  | changed (write : Except TunnelError Unit) (hwatches : s.phase.watches = true)
      (hhold : s.watcher.holding = true) : Steps s (.changed write) (s.select.onChanged write)
  | watcherClosed (hwatches : s.phase.watches = true) : Steps s .watcherClosed s.onWatcherClosed
  | loadInitial {current : Option ClientConfig} (hphase : s.phase = .loading current) :
      Steps s .loadInitial (s.loadInitial current)
  | shutdown (hphase : s.phase ≠ .stopped) : Steps s .shutdown (s.select.stop none)
  | connectionStep {config : ClientConfig} (result : Except TunnelError Unit)
      (hphase : s.phase = .connecting config) :
      Steps s (.connectionStep result) (s.select.onConnectionStep config result)
  | helloWritten {config : ClientConfig} (hphase : s.phase = .authenticating config false) :
      Steps s .helloWritten { s with
        phase := .authenticating config true
        log := s.log ++ [.hello (s.hello config)] }
  | authentication {config : ClientConfig} {helloSent : Bool} (result : AuthenticationResult)
      (hphase : s.phase = .authenticating config helloSent) :
      Steps s (.authentication result) (s.select.onAuthentication config result)
  | retryElapsed {config : ClientConfig} (hphase : s.phase = .retrying config) :
      Steps s .retryElapsed ({ s.select with retry := min (s.retry * 2) 30 }.connect config)
  | deadline {config : ClientConfig} {c : Connected} {pending : PendingServiceUpdate}
      (hphase : s.phase = .connected config c) (hpending : c.pending = some pending) :
      Steps s .deadline
        ((s.select.respond pending.response (.error "等待服务端确认服务配置超时")).endConnection config
          (.disconnected (.timeout "等待服务端确认服务配置")))
  | closed {config : ClientConfig} {c : Connected} (error : TunnelError) (administrator : Bool)
      (hphase : s.phase = .connected config c) :
      Steps s (.closed error administrator) (s.select.endConnection config
        (if administrator then .administratorDisconnected else .disconnected error))
  | message {config : ClientConfig} {c : Connected} (m : ServerControlMessage)
      (hphase : s.phase = .connected config c) :
      Steps s (.message m) (s.select.onMessage config c m)
  | readFailed {config : ClientConfig} {c : Connected} (error : TunnelError)
      (hphase : s.phase = .connected config c) :
      Steps s (.readFailed error) (s.select.endConnection config (.disconnected error))
  | ignoredCommand {config : ClientConfig} {c : Connected} (services : List ClientServiceConfig)
      (response : ℕ) (write : Except TunnelError Unit) (hphase : s.phase = .connected config c) :
      Steps s (.command services response true write) s.select
  | command {config : ClientConfig} {c : Connected} (services : List ClientServiceConfig)
      (response : ℕ) (write : Except TunnelError Unit) (hphase : s.phase = .connected config c)
      (hmanaged : s.managed = true) (hcommands : c.commands = true)
      (hpending : c.pending = none) :
      Steps s (.command services response false write)
        (s.select.startUpdate config c { config with services } (some response) write)
  | commandsClosed {config : ClientConfig} {c : Connected}
      (hphase : s.phase = .connected config c) :
      Steps s .commandsClosed (s.select.stay config { c with commands := false })
  | acceptedStream {config : ClientConfig} {c : Connected}
      (hphase : s.phase = .connected config c) : Steps s (.acceptStream (.ok ())) s.select
  | acceptFailed {config : ClientConfig} {c : Connected} (error : TunnelError)
      (hphase : s.phase = .connected config c) :
      Steps s (.acceptStream (.error error))
        (s.select.endConnection config (.disconnected error))
  | taskJoined {config : ClientConfig} {c : Connected} (hphase : s.phase = .connected config c) :
      Steps s .taskJoined s.select

variable {s} {s' : Client}

lemma steps_of_connectedStep {config : ClientConfig} {c : Connected} {e : Event}
    (hphase : s.phase = .connected config c) (h : s.connectedStep config c e = some s') :
    s.Steps e s' := by
  cases e with
  | deadline =>
    obtain ⟨pending, hpending, rfl⟩ := Option.map_eq_some_iff.mp h
    exact .deadline hphase hpending
  | closed error administrator => exact Option.some.inj h ▸ .closed error administrator hphase
  | message m => exact Option.some.inj h ▸ .message m hphase
  | readFailed error => exact Option.some.inj h ▸ .readFailed error hphase
  | command services response responseClosed write =>
    simp only [connectedStep] at h
    split at h
    · rename_i hguard
      simp only [Bool.and_eq_true, Option.isNone_iff_eq_none] at hguard
      obtain ⟨⟨hmanaged, hcommands⟩, hpending⟩ := hguard
      cases responseClosed with
      | true => exact Option.some.inj h ▸ .ignoredCommand services response write hphase
      | false =>
        exact Option.some.inj h ▸ .command services response write hphase hmanaged hcommands
          hpending
    · simp at h
  | commandsClosed =>
    simp only [connectedStep] at h
    split at h
    · exact Option.some.inj h ▸ .commandsClosed hphase
    · simp at h
  | acceptStream result =>
    cases result with
    | ok => exact Option.some.inj h ▸ .acceptedStream hphase
    | error error => exact Option.some.inj h ▸ .acceptFailed error hphase
  | taskJoined => exact Option.some.inj h ▸ .taskJoined hphase
  | _ => simp [connectedStep] at h

/-- Everything that a step can do. -/
lemma steps_of_step {e : Event} (h : s.step e = some s') : s.Steps e s' := by
  cases e with
  | fileChanged content => exact Option.some.inj h ▸ .fileChanged content
  | notify => exact Option.some.inj h ▸ .notify
  | takeToken | absorbToken | changed | watcherClosed =>
    simp only [step, watcherStep] at h
    split at h
    · rename_i hguard
      simp only [Bool.and_eq_true] at hguard
      obtain rfl := Option.some.inj h
      first
        | exact .takeToken hguard.1.1 hguard.1.2
        | exact .absorbToken hguard.2
        | exact .changed _ hguard.1 hguard.2
        | exact .watcherClosed hguard.1.1
    · simp at h
  | loadInitial | connectionStep | helloWritten | retryElapsed =>
    simp only [step, phaseStep] at h
    split at h
    · rename_i hphase
      obtain rfl := Option.some.inj h
      first
        | exact .loadInitial hphase
        | exact .connectionStep _ hphase
        | exact .helloWritten hphase
        | exact .retryElapsed hphase
    · simp at h
  | authentication result =>
    simp only [step, phaseStep] at h
    split at h
    · rename_i hphase
      split at h
      · exact Option.some.inj h ▸ .authentication result hphase
      · simp at h
    · simp at h
  | shutdown =>
    simp only [step, phaseStep] at h
    split at h
    · simp at h
    · rename_i hphase
      exact Option.some.inj h ▸ .shutdown hphase
  | deadline | closed | message | readFailed | command | commandsClosed | acceptStream
  | taskJoined =>
    simp only [step] at h
    split at h
    · rename_i hphase
      exact steps_of_connectedStep hphase h
    · simp at h

/-! ## Sample runs -/

def sampleService (name : String) : ClientServiceConfig := ⟨name, .tcp, some "127.0.0.1:8080"⟩

def sampleConfig (names : List String) : ClientConfig where
  key := "0123456789abcdef0123456789abcdef"
  server := ⟨"gate.example:7000", none, none⟩
  services := names.map sampleService

/-- The events from the start of the client to the connected session. -/
def connectEvents : List Event :=
  [.loadInitial, .connectionStep (.ok ()), .helloWritten, .authentication (.accepted [])]

end Client

end GateRust.Tunnel
