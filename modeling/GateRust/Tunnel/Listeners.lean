/-
# The public listeners

`ListenerManager`: the listeners of the tunnels, the changes that a new list of tunnels makes to
them, and the way back when one of the changes fails.

A listener is a task that has bound an address and runs until it is cancelled.  The operating
system decides whether an address can be bound, so `bind` is a parameter, as is the order in which
the values of a hash map come.
-/
import GateRust.Tunnel.Ownership
import GateRust.Tunnel.ServerConfig

namespace GateRust.Tunnel

/-- The shared counter of a rate limiter.  The `id` stands for the allocation, so that two
limiters of one rate differ. -/
structure Limited where
  id : ℕ
  bytesPerSecond : UInt64
deriving DecidableEq, Repr

structure RateLimiter where
  inner : Option Limited
deriving DecidableEq, Repr

def RateLimiter.new (id : ℕ) (bytesPerSecond : Option UInt64) : RateLimiter :=
  ⟨bytesPerSecond.map (⟨id, ·⟩)⟩

/-- The rate that the limiter holds its callers to. -/
def RateLimiter.rate (limiter : RateLimiter) : Option UInt64 :=
  limiter.inner.map (·.bytesPerSecond)

@[simp] lemma RateLimiter.rate_new (id : ℕ) (limit : Option UInt64) :
    (RateLimiter.new id limit).rate = limit := by
  cases limit <;> rfl

structure LimiterEntry where
  limit : Option UInt64
  limiter : RateLimiter
deriving DecidableEq, Repr

/-- A spawned task (`stream::run` or `udp::run`) with the values that were moved into it. -/
structure ListenerTask where
  id : ℕ
  config : ServerTunnelConfig
  limiter : RateLimiter
deriving DecidableEq, Repr

/-- The cancellation token, the stop signal and the join handle are those of `task`. -/
structure ListenerHandle where
  config : ServerTunnelConfig
  task : ListenerTask
deriving DecidableEq, Repr

/-- What the operating system and the hash maps decide. -/
structure System where
  /-- The result of the `call`-th bind, where `released` holds the endpoints that the manager has
  released and not bound again. -/
  bind (released : List (Transport × SocketAddr)) (call : ℕ) (endpoint : Transport × SocketAddr) :
    Except TunnelError Unit
  /-- The order in which the values of the active map come. -/
  order (call : ℕ) (configs : List ServerTunnelConfig) : List ServerTunnelConfig
  order_perm (call : ℕ) (configs : List ServerTunnelConfig) : (order call configs).Perm configs

/-- The manager, with the tasks it has `started` and the ids of those it has `stopped`. -/
structure ListenerManager where
  runtime : TunnelRuntime
  limiters : HashMap String LimiterEntry
  active : HashMap String ListenerHandle
  retired : List ListenerTask
  nextId : ℕ
  binds : ℕ
  started : List ListenerTask
  stopped : List ℕ
  released : List (Transport × SocketAddr)

def sameListener (current updated : ServerTunnelConfig) : Bool :=
  current.name = updated.name && current.kind = updated.kind && current.bind = updated.bind &&
    current.limitBps = updated.limitBps &&
    match current.kind with
    | .tcp | .socks5 => current.maxConnections = updated.maxConnections
    | .udp => current.maxUdpSessions = updated.maxUdpSessions &&
        current.udpIdleSeconds = updated.udpIdleSeconds

namespace ListenerManager

def new (runtime : TunnelRuntime) : ListenerManager where
  runtime := runtime
  limiters := ∅
  active := ∅
  retired := []
  nextId := 0
  binds := 0
  started := []
  stopped := []
  released := []

def configs (m : ListenerManager) : List ServerTunnelConfig := m.active.entries.map (·.2.config)

/-- The tasks with the ids in `finished` have finished; nothing depends on the order of the
others. -/
def reapRetired (m : ListenerManager) (finished : List ℕ) : ListenerManager :=
  { m with retired := m.retired.filter (·.id ∉ finished) }

/-- Cancel the listener and wait until it has released its address. -/
def stop (m : ListenerManager) (name : String) : ListenerManager :=
  match m.active.lookup name with
  | none => m
  | some handle => { m with
      active := m.active.erase name
      stopped := handle.task.id :: m.stopped
      released := handle.task.config.endpoint :: m.released
      retired := m.retired ++ [handle.task] }

/-- The limiter of the tunnel, a new one when its limit has changed. -/
def limiterFor (m : ListenerManager) (config : ServerTunnelConfig) :
    RateLimiter × ListenerManager :=
  let fresh := RateLimiter.new m.nextId config.limitBps
  let renewed := { m with
    limiters := m.limiters.insert config.name ⟨config.limitBps, fresh⟩
    nextId := m.nextId + 1 }
  match m.limiters.lookup config.name with
  | some entry => if entry.limit = config.limitBps then (entry.limiter, m) else (fresh, renewed)
  | none => (fresh, renewed)

/-- Bind the address and spawn the task. -/
def startListener (system : System) (config : ServerTunnelConfig) (limiter : RateLimiter)
    (m : ListenerManager) : Except TunnelError ListenerHandle × ListenerManager :=
  let called := { m with binds := m.binds + 1 }
  match system.bind m.released m.binds config.endpoint with
  | .error error => (.error error, called)
  | .ok () =>
    let task := ⟨m.nextId, config, limiter⟩
    (.ok ⟨config, task⟩, { called with
      nextId := m.nextId + 1
      started := task :: m.started
      released := m.released.filter (· ≠ config.endpoint) })

/-- One round of the loop of `apply_once` that starts the missing listeners. -/
def startMissing (system : System) (config : ServerTunnelConfig) (m : ListenerManager) :
    Except TunnelError Unit × ListenerManager :=
  if config.name ∈ m.active then (.ok (), m)
  else
    let (limiter, m) := m.limiterFor config
    match startListener system config limiter m with
    | (.error error, m) => (.error error, m)
    | (.ok handle, m) => (.ok (), { m with active := m.active.insert config.name handle })

def desired (configs : List ServerTunnelConfig) : HashMap String ServerTunnelConfig :=
  .ofList (configs.map fun config => (config.name, config))

/-- The names of the listeners that the new list does not keep. -/
def removed (m : ListenerManager) (configs : List ServerTunnelConfig) : List String :=
  (m.active.retain fun name handle =>
    ((desired configs).lookup name).all fun config => !sameListener handle.config config).keys

def updateConfig (m : ListenerManager) (config : ServerTunnelConfig) : ListenerManager :=
  { m with active := m.active.modify config.name fun handle => { handle with config } }

def applyOnce (system : System) (configs : List ServerTunnelConfig) (m : ListenerManager) :
    Except TunnelError Unit × ListenerManager :=
  match Except.untilError (startMissing system) configs ((m.removed configs).foldl stop m) with
  | (.error error, m) => (.error error, m)
  | (.ok (), m) =>
    let m := configs.foldl updateConfig m
    (.ok (), { m with limiters := m.limiters.retain fun name _ => name ∈ desired configs })

/-- The second call of `apply_once`, after the first one has `failed`. -/
def rollBack (system : System) (m failed : ListenerManager) :
    Except TunnelError Unit × ListenerManager :=
  applyOnce system (system.order m.binds m.configs) { failed with limiters := m.limiters }

def apply (system : System) (finished : List ℕ) (configs : List ServerTunnelConfig)
    (m : ListenerManager) : Except TunnelError Unit × ListenerManager :=
  let m := m.reapRetired finished
  match applyOnce system configs m with
  | (.error error, failed) =>
    match rollBack system m failed with
    | (.error rollbackError, m) =>
      (.error (.invalidConfig
        s!"应用监听配置失败: {error.display}; 回滚也失败: {rollbackError.display}"), m)
    | (.ok (), m) => (.error error, m)
  | (.ok (), m) => (.ok (), { m with runtime := m.runtime.applyTunnels configs })

end ListenerManager

/-! ## Runs -/

/-- `apply` is the only operation of the manager; the sessions work on the runtime meanwhile. -/
inductive ListenerEvent where
  | apply (finished : List ℕ) (configs : List ServerTunnelConfig)
  | operate (op : TunnelRuntime.Operation)

def ListenerManager.step (sha256 : GroupSecret → Digest) (system : System) (m : ListenerManager) :
    ListenerEvent → Option ListenerManager
  | .apply finished configs => some (m.apply system finished configs).2
  | .operate op => some { m with runtime := m.runtime.perform sha256 op }

/-- No two tunnels of a list have one name or one endpoint. -/
def Distinct (configs : List ServerTunnelConfig) : Prop :=
  (configs.map (·.name)).Nodup ∧ (configs.map (·.endpoint)).Nodup

instance (configs : List ServerTunnelConfig) : Decidable (Distinct configs) :=
  inferInstanceAs (Decidable (_ ∧ _))

lemma ValidTunnels.distinct {configs : List ServerTunnelConfig} (h : ValidTunnels configs) :
    Distinct configs := h.nodup

/-- The lists that are applied have passed the validation, or were read off the active map. -/
def ListenerEvent.Admissible (_ : ListenerManager) : ListenerEvent → Prop
  | .apply _ configs => Distinct configs
  | .operate _ => True

instance (m : ListenerManager) (e : ListenerEvent) : Decidable (e.Admissible m) :=
  match e with
  | .apply _ configs => inferInstanceAs (Decidable (Distinct configs))
  | .operate _ => inferInstanceAs (Decidable True)

end GateRust.Tunnel
