/-
# The listeners of the proxy

`ListenerManager` holds the HTTP and the HTTPS listener of the proxy and the limit of their
connections.  `apply` moves them to the addresses of a new configuration.  It binds the new
addresses before it stops the old listeners, and when the two protocols exchange their addresses,
where this is not possible, it stops both and binds them again.

What the system answers to an attempt to bind is left open: a call takes an outcome for each
attempt that it may make.
-/
import GateRust.Lib.Machine
import GateRust.Tunnel.Addresses
import GateRust.Proxy.Validation

namespace GateRust.Proxy

open Machine
open Tunnel (SocketAddr)

/-- A listening socket, with the address that it was bound to. -/
structure TcpListener where
  address : SocketAddr
deriving DecidableEq, Repr

/-- A listener whose task runs. -/
structure ActiveListener where
  listener : TcpListener
deriving DecidableEq, Repr

/-- The answer of the system to an attempt to bind: the error of the call, if there is one. -/
abbrev BindOutcome := Option String

/-- The outcomes of the attempts that one call of `apply` may make. -/
structure BindOutcomes where
  prepareHttp : BindOutcome
  prepareHttps : BindOutcome
  rebindHttp : BindOutcome
  rebindHttps : BindOutcome
  restoreHttp : BindOutcome
  restoreHttps : BindOutcome
deriving DecidableEq, Repr

def bindListener (protocol : String) (address : SocketAddr) (outcome : BindOutcome) :
    Except ProxyError TcpListener :=
  match outcome with
  | none => .ok ⟨address⟩
  | some error =>
    .error (.runtime s!"绑定 {protocol} 监听地址 {address.display} 失败: {error}")

def bindListenerPair (config : ProxyListenerConfig) (http https : BindOutcome) :
    Except ProxyError (TcpListener × TcpListener) := do
  let http ← bindListener "HTTP" config.httpBind http
  let https ← bindListener "HTTPS" config.httpsBind https
  return (http, https)

/-- The checks that the validation of a configuration makes of its listeners. -/
def ProxyListenerConfig.Valid (config : ProxyListenerConfig) : Prop :=
  config.httpBind ≠ config.httpsBind ∧ 0 < config.maxConnections

instance (config : ProxyListenerConfig) : Decidable config.Valid :=
  inferInstanceAs (Decidable (_ ∧ _))

lemma ProxyConfig.Validated.listeners {parseUri : String → Option Uri} {config : ProxyConfig}
    (h : config.Validated parseUri) : config.proxy.Valid := by
  obtain ⟨raw, h⟩ := h
  obtain ⟨⟨⟩, hchecks, h⟩ := Except.exists_ok_of_bind h
  obtain ⟨-, -, h⟩ := Except.exists_ok_of_bind h
  obtain ⟨-, -, h⟩ := Except.exists_ok_of_bind h
  obtain ⟨seen, -, h⟩ := Except.exists_ok_of_bind h
  obtain ⟨routes, -, h⟩ := Except.exists_ok_of_bind h
  cases h
  have haddresses := Except.of_reject_ok hchecks List.mem_cons_self
  have hmaximum := Except.of_reject_ok hchecks (List.mem_cons_of_mem _ List.mem_cons_self)
  simp only [decide_eq_false_iff_not] at haddresses hmaximum
  exact ⟨haddresses, Nat.pos_of_ne_zero hmaximum⟩

structure PreparedListeners where
  http : Option TcpListener
  https : Option TcpListener

/-- The manager.  Of the connection runtime only the maximum of its limit matters here. -/
structure ListenerManager where
  maximum : ℕ
  config : ProxyListenerConfig
  http : Option ActiveListener
  https : Option ActiveListener
deriving DecidableEq, Repr

namespace ListenerManager

def bind (config : ProxyListenerConfig) (http https : BindOutcome) :
    Except ProxyError ListenerManager := do
  let (http, https) ← bindListenerPair config http https
  return ⟨config.maxConnections, config, some ⟨http⟩, some ⟨https⟩⟩

/-- Bind the address of a protocol when it changes. -/
def prepareListener (protocol : String) (current next : SocketAddr) (outcome : BindOutcome) :
    Except ProxyError (Option TcpListener) :=
  if current = next then .ok none else some <$> bindListener protocol next outcome

def prepare (m : ListenerManager) (config : ProxyListenerConfig) (outcomes : BindOutcomes) :
    Except ProxyError PreparedListeners := do
  let http ← prepareListener "HTTP" m.config.httpBind config.httpBind outcomes.prepareHttp
  let https ← prepareListener "HTTPS" m.config.httpsBind config.httpsBind outcomes.prepareHttps
  return ⟨http, https⟩

/-- One protocol moves to the address that the other one has. -/
def hasInternalAddressConflict (m : ListenerManager) (config : ProxyListenerConfig) : Bool :=
  (m.config.httpBind ≠ config.httpBind && config.httpBind = m.config.httpsBind) ||
    (m.config.httpsBind ≠ config.httpsBind && config.httpsBind = m.config.httpBind)

def stopActive (m : ListenerManager) : ListenerManager :=
  { m with http := none, https := none }

/-- Stop both listeners and bind the new addresses; on a failure bind the previous ones. -/
def rebindAll (m : ListenerManager) (config : ProxyListenerConfig) (initialError : ProxyError)
    (outcomes : BindOutcomes) : Except ProxyError Unit × ListenerManager :=
  let previous := m.config
  let m := m.stopActive
  match bindListenerPair config outcomes.rebindHttp outcomes.rebindHttps with
  | .ok (http, https) =>
    (.ok (), ⟨config.maxConnections, config, some ⟨http⟩, some ⟨https⟩⟩)
  | .error error =>
    match bindListenerPair previous outcomes.restoreHttp outcomes.restoreHttps with
    | .ok (http, https) => (.error error, { m with http := some ⟨http⟩, https := some ⟨https⟩ })
    | .error rollbackError =>
      (.error (.runtime ("切换监听失败（" ++ initialError.display ++ "；重试失败: " ++
        error.display ++ "），恢复原监听也失败: " ++ rollbackError.display)), m)

def apply (m : ListenerManager) (config : ProxyListenerConfig) (outcomes : BindOutcomes) :
    Except ProxyError Unit × ListenerManager :=
  match m.prepare config outcomes with
  | .error error =>
    if m.hasInternalAddressConflict config then m.rebindAll config error outcomes
    else (.error error, m)
  | .ok prepared =>
    -- a listener that was not bound anew stays as it is, also when there is none
    (.ok (), ⟨config.maxConnections, config, (prepared.http.map ActiveListener.mk).or m.http,
      (prepared.https.map ActiveListener.mk).or m.https⟩)

/-! ## What a call of `apply` does -/

variable {m m' : ListenerManager} {config : ProxyListenerConfig} {outcomes : BindOutcomes}
  {result : Except ProxyError Unit}

lemma bindListener_ok {protocol : String} {address : SocketAddr} {outcome : BindOutcome}
    {listener : TcpListener} (h : bindListener protocol address outcome = .ok listener) :
    listener = ⟨address⟩ := by
  cases outcome with
  | none => exact (Except.ok.inj h).symm
  | some error => cases h

lemma bindListenerPair_ok {http https : BindOutcome} {pair : TcpListener × TcpListener}
    (h : bindListenerPair config http https = .ok pair) :
    pair = (⟨config.httpBind⟩, ⟨config.httpsBind⟩) := by
  obtain ⟨first, hfirst, h⟩ := Except.exists_ok_of_bind h
  obtain ⟨second, hsecond, h⟩ := Except.exists_ok_of_bind h
  cases h
  rw [bindListener_ok hfirst, bindListener_ok hsecond]

/-- The new listener of a protocol: none when its address stays. -/
def prepared (current next : SocketAddr) : Option TcpListener :=
  if current = next then none else some ⟨next⟩

lemma prepareListener_ok {current next : SocketAddr} {protocol : String} {outcome : BindOutcome}
    {listener : Option TcpListener}
    (h : prepareListener protocol current next outcome = .ok listener) :
    listener = prepared current next := by
  unfold prepareListener at h
  unfold prepared
  split at h
  case isTrue hsame =>
    cases h
    rw [if_pos hsame]
  case isFalse hother =>
    rw [if_neg hother]
    cases hbind : bindListener protocol next outcome with
    | error e =>
      rw [hbind] at h
      cases h
    | ok bound =>
      rw [hbind] at h
      cases h
      rw [bindListener_ok hbind]

lemma prepare_ok {listeners : PreparedListeners} (h : m.prepare config outcomes = .ok listeners) :
    listeners = ⟨prepared m.config.httpBind config.httpBind,
      prepared m.config.httpsBind config.httpsBind⟩ := by
  obtain ⟨http, hhttp, h⟩ := Except.exists_ok_of_bind h
  obtain ⟨https, hhttps, h⟩ := Except.exists_ok_of_bind h
  cases h
  rw [prepareListener_ok hhttp, prepareListener_ok hhttps]

/-- The manager after both listeners were bound to the addresses of `config`. -/
def bound (config : ProxyListenerConfig) : ListenerManager :=
  ⟨config.maxConnections, config, some ⟨⟨config.httpBind⟩⟩, some ⟨⟨config.httpsBind⟩⟩⟩

/-- The manager after the listeners whose addresses change were replaced. -/
def replaced (m : ListenerManager) (config : ProxyListenerConfig) : ListenerManager :=
  ⟨config.maxConnections, config,
    ((prepared m.config.httpBind config.httpBind).map ActiveListener.mk).or m.http,
    ((prepared m.config.httpsBind config.httpsBind).map ActiveListener.mk).or m.https⟩

/-- The manager after the addresses of its own configuration were bound again. -/
def restored (m : ListenerManager) : ListenerManager :=
  { m with http := some ⟨⟨m.config.httpBind⟩⟩, https := some ⟨⟨m.config.httpsBind⟩⟩ }

lemma bind_ok {http https : BindOutcome} (h : bind config http https = .ok m) :
    m = bound config := by
  obtain ⟨pair, hpair, h⟩ := Except.exists_ok_of_bind h
  rw [bindListenerPair_ok hpair] at h
  cases h
  rfl

lemma rebindAll_cases {e : ProxyError} (h : m.rebindAll config e outcomes = (result, m')) :
    (result = .ok () ∧ m' = bound config) ∨
      (∃ error, result = .error error ∧ (m' = m.restored ∨ m' = m.stopActive)) := by
  unfold rebindAll at h
  cases hnew : bindListenerPair config outcomes.rebindHttp outcomes.rebindHttps with
  | ok pair =>
    rw [bindListenerPair_ok hnew] at hnew
    simp only [hnew] at h
    cases h
    exact .inl ⟨rfl, rfl⟩
  | error error =>
    cases hold : bindListenerPair m.config outcomes.restoreHttp outcomes.restoreHttps with
    | ok pair =>
      rw [bindListenerPair_ok hold] at hold
      simp only [hnew, hold] at h
      cases h
      exact .inr ⟨_, rfl, .inl rfl⟩
    | error rollbackError =>
      simp only [hnew, hold] at h
      cases h
      exact .inr ⟨_, rfl, .inr rfl⟩

/-- All that a call of `apply` can do. -/
lemma apply_cases (h : m.apply config outcomes = (result, m')) :
    (result = .ok () ∧ m' = m.replaced config) ∨
      (result = .ok () ∧ m.hasInternalAddressConflict config ∧ m' = bound config) ∨
      (∃ error, result = .error error ∧ (m' = m ∨ m' = m.restored ∨ m' = m.stopActive)) := by
  unfold apply at h
  cases hp : m.prepare config outcomes with
  | ok listeners =>
    rw [prepare_ok hp] at hp
    simp only [hp] at h
    cases h
    exact .inl ⟨rfl, rfl⟩
  | error e =>
    simp only [hp] at h
    split at h
    case isTrue hconflict =>
      obtain ⟨hok, hm⟩ | ⟨error, herror, hm⟩ := rebindAll_cases h
      · exact .inr (.inl ⟨hok, hconflict, hm⟩)
      · exact .inr (.inr ⟨error, herror, .inr hm⟩)
    case isFalse =>
      cases h
      exact .inr (.inr ⟨e, rfl, .inl rfl⟩)

/-! ## What holds in every run -/

/-- The limit is that of the remembered configuration, and a listener that runs is bound to its
address there. -/
structure Consistent (m : ListenerManager) : Prop where
  maximum : m.maximum = m.config.maxConnections
  http : ∀ active ∈ m.http, active = ⟨⟨m.config.httpBind⟩⟩
  https : ∀ active ∈ m.https, active = ⟨⟨m.config.httpsBind⟩⟩

lemma consistent_bound : Consistent (bound config) := by
  constructor <;> simp [bound]

lemma replaced_listener {current next : SocketAddr} {listener : Option ActiveListener}
    (h : ∀ active ∈ listener, active = ⟨⟨current⟩⟩) :
    ∀ active ∈ ((prepared current next).map ActiveListener.mk).or listener,
      active = ⟨⟨next⟩⟩ := by
  intro active hactive
  by_cases hsame : current = next
  · rw [← hsame]
    exact h active (by simpa [prepared, hsame] using hactive)
  · simpa [prepared, hsame, eq_comm] using hactive

lemma Consistent.replaced (h : m.Consistent) : (m.replaced config).Consistent where
  maximum := rfl
  http := replaced_listener h.http
  https := replaced_listener h.https

lemma Consistent.restored (h : m.Consistent) : m.restored.Consistent := by
  constructor <;> simp [ListenerManager.restored, h.maximum]

lemma Consistent.stopActive (h : m.Consistent) : m.stopActive.Consistent := by
  constructor <;> simp [ListenerManager.stopActive, h.maximum]

lemma Consistent.apply (h : m.Consistent) (happly : m.apply config outcomes = (result, m')) :
    m'.Consistent := by
  obtain ⟨-, rfl⟩ | ⟨-, -, rfl⟩ | ⟨_, -, rfl | rfl | rfl⟩ := apply_cases happly
  · exact h.replaced
  · exact consistent_bound
  · exact h
  · exact h.restored
  · exact h.stopActive

/-- One call of `apply`, with the configuration and the outcomes of its attempts to bind. -/
def step (m : ListenerManager) (call : ProxyListenerConfig × BindOutcomes) :
    Option ListenerManager :=
  some (m.apply call.1 call.2).2

/-- The calls that the proxy makes: with a configuration that was validated. -/
def Validated (_ : ListenerManager) (call : ProxyListenerConfig × BindOutcomes) : Prop :=
  call.1.Valid

instance (m : ListenerManager) (call : ProxyListenerConfig × BindOutcomes) :
    Decidable (Validated m call) :=
  inferInstanceAs (Decidable call.1.Valid)

lemma consistent_of_reach {start : ListenerManager} {http https : BindOutcome}
    (hbind : bind config http https = .ok start) (h : Reach step Validated start m) :
    m.Consistent := by
  refine h.invariant (bind_ok hbind ▸ consistent_bound) ?_
  rintro m call m' hm - hstep
  cases hstep
  exact hm.apply rfl

/-! ## When the listeners run after a successful call -/

/-- Both listeners run on the addresses of `config`, under its limit. -/
def Serves (m : ListenerManager) (config : ProxyListenerConfig) : Prop :=
  m.http = some ⟨⟨config.httpBind⟩⟩ ∧ m.https = some ⟨⟨config.httpsBind⟩⟩ ∧
    m.maximum = config.maxConnections

instance (m : ListenerManager) (config : ProxyListenerConfig) : Decidable (m.Serves config) :=
  inferInstanceAs (Decidable (_ ∧ _))

lemma serves_bound : (bound config).Serves config := ⟨rfl, rfl, rfl⟩

/-- Two protocols on different addresses can only be in each other's way when both move. -/
lemma addresses_change_of_conflict (hvalid : config.Valid)
    (h : m.hasInternalAddressConflict config) :
    m.config.httpBind ≠ config.httpBind ∧ m.config.httpsBind ≠ config.httpsBind := by
  have hne := hvalid.1
  simp only [hasInternalAddressConflict, Bool.or_eq_true, Bool.and_eq_true,
    decide_eq_true_eq] at h
  obtain ⟨hhttp, htaken⟩ | ⟨hhttps, htaken⟩ := h
  · exact ⟨hhttp, fun hsame => hne (htaken.trans hsame)⟩
  · exact ⟨fun hsame => hne (hsame.symm.trans htaken.symm), hhttps⟩

lemma replaced_eq_some_iff {current : SocketAddr} (next : SocketAddr)
    {listener : Option ActiveListener} (h : ∀ active ∈ listener, active = ⟨⟨current⟩⟩) :
    ((prepared current next).map ActiveListener.mk).or listener = some ⟨⟨next⟩⟩ ↔
      listener.isSome ∨ current ≠ next := by
  by_cases hsame : current = next
  · subst hsame
    cases hl : listener with
    | none => simp [prepared]
    | some active =>
      have hactive := h active hl
      simp [prepared, hactive]
  · simp [prepared, hsame]

/-- **When a successful `apply` leaves the proxy serving.**  In every run of calls with validated
configurations, whatever the outcomes of the attempts to bind, a call that returns without an
error leaves both listeners bound to the new addresses, under the new limit, exactly if each of
them ran before the call or moves to another address in it. -/
theorem apply_serves_iff {initial : ProxyListenerConfig} {start : ListenerManager}
    {http https : BindOutcome} (hbind : bind initial http https = .ok start)
    (hrun : Reach step Validated start m) (hvalid : config.Valid)
    (happly : m.apply config outcomes = (.ok (), m')) :
    m'.Serves config ↔
      (m.http.isSome ∨ m.config.httpBind ≠ config.httpBind) ∧
        (m.https.isSome ∨ m.config.httpsBind ≠ config.httpsBind) := by
  have hm := consistent_of_reach hbind hrun
  obtain ⟨-, rfl⟩ | ⟨-, hconflict, rfl⟩ | ⟨_, herror, -⟩ := apply_cases happly
  · have hhttp := replaced_eq_some_iff config.httpBind hm.http
    have hhttps := replaced_eq_some_iff config.httpsBind hm.https
    constructor
    · rintro ⟨h1, h2, -⟩
      exact ⟨hhttp.mp h1, hhttps.mp h2⟩
    · rintro ⟨h1, h2⟩
      exact ⟨hhttp.mpr h1, hhttps.mpr h2, rfl⟩
  · obtain ⟨hhttp, hhttps⟩ := addresses_change_of_conflict hvalid hconflict
    exact iff_of_true serves_bound ⟨.inr hhttp, .inr hhttps⟩
  · cases herror

/-! The listeners that are missing were lost in an earlier call, and that call returned an error. -/

/-- A call that has to stop both listeners can bind the new or the previous addresses. -/
def Recovers (m : ListenerManager) (call : ProxyListenerConfig × BindOutcomes) : Prop :=
  m.hasInternalAddressConflict call.1 →
    (bindListenerPair call.1 call.2.rebindHttp call.2.rebindHttps).isOk ∨
      (bindListenerPair m.config call.2.restoreHttp call.2.restoreHttps).isOk

def Running (m : ListenerManager) : Prop := m.http.isSome ∧ m.https.isSome

lemma Running.rebindAll {e : ProxyError} (hconflict : m.hasInternalAddressConflict config)
    (hok : m.Recovers (config, outcomes)) : (m.rebindAll config e outcomes).2.Running := by
  unfold ListenerManager.rebindAll
  cases hnew : bindListenerPair config outcomes.rebindHttp outcomes.rebindHttps with
  | ok pair => exact ⟨rfl, rfl⟩
  | error error =>
    cases hold : bindListenerPair m.config outcomes.restoreHttp outcomes.restoreHttps with
    | ok pair => constructor <;> simp [hold]
    | error rollbackError =>
      have hrecovers := hok hconflict
      simp [hnew, hold, Except.isOk, Except.toBool] at hrecovers

lemma Running.apply (h : m.Running) (hok : m.Recovers (config, outcomes)) :
    (m.apply config outcomes).2.Running := by
  unfold ListenerManager.apply
  split
  · split
    · exact Running.rebindAll ‹_› hok
    · exact h
  · exact ⟨by simp [h.1], by simp [h.2]⟩

/-- In a run in which every call that stops both listeners can bind them again, both listeners
run all the time. -/
theorem running_of_reach {start : ListenerManager} {http https : BindOutcome}
    (hbind : bind config http https = .ok start) (h : Reach step Recovers start m) :
    m.Running := by
  refine h.invariant (bind_ok hbind ▸ ⟨rfl, rfl⟩) ?_
  rintro m call m' hm hok hstep
  cases hstep
  exact hm.apply hok

/-! ## An address that is lost for good -/

def sampleConfig (http https : UInt16) : ProxyListenerConfig where
  httpBind := ⟨.v4 0, http⟩
  httpsBind := ⟨.v4 0, https⟩
  cacheDir := "/var/lib/gaterust/proxy"
  maxConnections := 1024

/-- Outcomes of a system that lets no address be bound. -/
def allFail : BindOutcomes :=
  let error := some "Address already in use (os error 98)"
  ⟨error, error, error, error, error, error⟩

/-- Outcomes of a system that lets all addresses be bound. -/
def allBind : BindOutcomes := ⟨none, none, none, none, none, none⟩

/-- A change of the limit alone needs no attempt to bind. -/
theorem limit_change_served :
    let config := { sampleConfig 80 443 with maxConnections := 8 }
    ((bound (sampleConfig 80 443)).apply config allFail).2.Serves config := by
  intro config
  have hbind : bind (sampleConfig 80 443) none none = .ok (bound (sampleConfig 80 443)) := rfl
  have happly : (bound (sampleConfig 80 443)).apply config allFail =
      (.ok (), ⟨8, config, some ⟨⟨config.httpBind⟩⟩, some ⟨⟨config.httpsBind⟩⟩⟩) := by
    decide +kernel
  rw [happly]
  exact (apply_serves_iff hbind .init (by decide) happly).mpr (by decide)

/-- After a swap that could be neither made nor taken back, a call with the previous
configuration succeeds although no listener runs. -/
theorem apply_succeeds_without_listeners :
    ¬ ∀ (initial config : ProxyListenerConfig) (http https : BindOutcome)
      (outcomes : BindOutcomes) (start m m' : ListenerManager),
      initial.Valid → bind initial http https = .ok start → Reach step Validated start m →
      config.Valid → m.apply config outcomes = (.ok (), m') → m'.Serves config := by
  intro hserves
  have hswap : exec step Validated (bound (sampleConfig 80 443))
      [(sampleConfig 443 80, allFail)] = some (bound (sampleConfig 80 443)).stopActive := by
    decide +kernel
  have hserved := hserves (sampleConfig 80 443) (sampleConfig 80 443) none none allBind _ _ _
    (by decide) rfl (reach_of_exec hswap) (by decide) rfl
  revert hserved
  decide

end ListenerManager

end GateRust.Proxy
