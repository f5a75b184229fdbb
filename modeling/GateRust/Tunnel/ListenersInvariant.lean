/-
# Invariants of the listener manager

What one call of `apply_once` does, phase by phase: it stops the listeners that the new list does
not keep, starts the missing ones until a bind fails, and gives the handles their new
configuration.  Whatever fails, every running task belongs to a handle of the active map, runs
with the parameters of the configuration of that handle, and has the limiter that is registered
for the tunnel.
-/
import GateRust.Tunnel.Listeners

namespace GateRust.Tunnel

/-! ## The parameters of a listener -/

/-- What a listener task reads of its configuration: `stream::run` the number of connections,
`udp::run` the number of sessions and their idle time. -/
structure ListenerParameters where
  name : String
  kind : TunnelKind
  bind : SocketAddr
  capacity : ℕ ⊕ ℕ × UInt64
deriving DecidableEq

def ServerTunnelConfig.parameters (c : ServerTunnelConfig) : ListenerParameters where
  name := c.name
  kind := c.kind
  bind := c.bind
  capacity := match c.kind with
    | .tcp | .socks5 => .inl c.maxConnections
    | .udp => .inr (c.maxUdpSessions, c.udpIdleSeconds)

/-- The comparison covers what the tasks read, and the limit of the rate. -/
lemma sameListener_iff {a b : ServerTunnelConfig} :
    sameListener a b = true ↔ a.parameters = b.parameters ∧ a.limitBps = b.limitBps := by
  obtain ⟨name, group, kind, bind, ip, port, limit, connections, sessions, idle⟩ := a
  obtain ⟨name', group', kind', bind', ip', port', limit', connections', sessions', idle'⟩ := b
  cases kind <;> cases kind' <;>
    simp [sameListener, ServerTunnelConfig.parameters] <;> tauto

lemma endpoint_of_parameters {a b : ServerTunnelConfig} (h : a.parameters = b.parameters) :
    a.endpoint = b.endpoint := by
  have hkind : a.kind = b.kind := congrArg ListenerParameters.kind h
  have hbind : a.bind = b.bind := congrArg ListenerParameters.bind h
  rw [ServerTunnelConfig.endpoint, ServerTunnelConfig.endpoint, hkind, hbind]

lemma name_of_parameters {a b : ServerTunnelConfig} (h : a.parameters = b.parameters) :
    a.name = b.name := congrArg ListenerParameters.name h

namespace ListenerManager

variable {system : System} {m m' : ListenerManager} {configs : List ServerTunnelConfig}
  {config : ServerTunnelConfig} {name : String} {handle : ListenerHandle}

/-! ## The desired listeners -/

lemma mem_of_lookup_desired (h : (desired configs).lookup name = some config) :
    config ∈ configs ∧ config.name = name := by
  obtain ⟨c, hc, heq⟩ := List.mem_map.mp (AList.mem_of_lookup_ofList h)
  obtain ⟨rfl, rfl⟩ := Prod.mk.inj heq
  exact ⟨hc, rfl⟩

/-- Of two configurations of a list with one name there is only one. -/
lemma eq_of_name_eq (hnodup : (configs.map (·.name)).Nodup) {c c' : ServerTunnelConfig}
    (hc : c ∈ configs) (hc' : c' ∈ configs) (hname : c.name = c'.name) : c = c' :=
  List.inj_on_of_nodup_map hnodup hc hc' hname

lemma lookup_desired (hnodup : (configs.map (·.name)).Nodup) (hc : config ∈ configs) :
    (desired configs).lookup config.name = some config := by
  have hmem : (config.name, config) ∈ configs.map fun c => (c.name, c) :=
    List.mem_map.mpr ⟨config, hc, rfl⟩
  obtain ⟨c, hlookup⟩ := AList.lookup_ofList_of_mem hmem
  obtain ⟨hc', hname⟩ := mem_of_lookup_desired hlookup
  rw [desired, hlookup, eq_of_name_eq hnodup hc' hc hname]

lemma mem_desired (hnodup : (configs.map (·.name)).Nodup) :
    name ∈ desired configs ↔ ∃ c ∈ configs, c.name = name := by
  constructor
  · intro h
    obtain ⟨c, hc⟩ := AList.lookup_of_mem h
    exact ⟨c, mem_of_lookup_desired hc⟩
  · rintro ⟨c, hc, rfl⟩
    exact AList.mem_of_lookup (lookup_desired hnodup hc)

/-- The new list keeps the listener. -/
def Keeps (configs : List ServerTunnelConfig) (handle : ListenerHandle) : Prop :=
  ∃ c ∈ configs, handle.config.parameters = c.parameters ∧ handle.config.limitBps = c.limitBps

/-- The listeners that are stopped are those that the list does not keep. -/
lemma mem_removed (hnodup : (configs.map (·.name)).Nodup)
    (hnames : ∀ name h, m.active.lookup name = some h → h.config.name = name) :
    name ∈ m.removed configs ↔
      ∃ handle, m.active.lookup name = some handle ∧ ¬ Keeps configs handle := by
  rw [removed, ← AList.mem_keys, AList.mem_retain]
  refine exists_congr fun h => and_congr_right fun hh => ?_
  constructor
  · rintro hall ⟨c, hc, hpar, hlimit⟩
    have hname : c.name = name := (name_of_parameters hpar).symm.trans (hnames name h hh)
    subst hname
    rw [lookup_desired hnodup hc] at hall
    simp [sameListener_iff.mpr ⟨hpar, hlimit⟩] at hall
  · intro hkeeps
    cases hd : (desired configs).lookup name with
    | none => rfl
    | some c =>
      obtain ⟨hc, -⟩ := mem_of_lookup_desired hd
      cases hs : sameListener h.config c with
      | false => simp [hs]
      | true => exact absurd ⟨c, hc, sameListener_iff.mp hs⟩ hkeeps

/-! ## Stopping -/

/-- What stopping the listeners with the given names changes. -/
structure Stopped (names : List String) (m m' : ListenerManager) : Prop where
  runtime : m'.runtime = m.runtime
  limiters : m'.limiters = m.limiters
  started : m'.started = m.started
  nextId : m'.nextId = m.nextId
  active : ∀ name, m'.active.lookup name = if name ∈ names then none else m.active.lookup name
  stopped : ∀ id, id ∈ m'.stopped ↔ id ∈ m.stopped ∨
    ∃ name ∈ names, ∃ handle, m.active.lookup name = some handle ∧ handle.task.id = id
  released : ∀ e, e ∈ m'.released ↔ e ∈ m.released ∨
    ∃ name ∈ names, ∃ handle, m.active.lookup name = some handle ∧
      handle.task.config.endpoint = e

lemma stop_spec (m : ListenerManager) (name : String) : Stopped [name] m (m.stop name) := by
  unfold stop
  cases hh : m.active.lookup name with
  | none =>
    refine ⟨rfl, rfl, rfl, rfl, ?_, ?_, ?_⟩
    · intro k
      by_cases hk : k = name
      · subst hk
        simp [hh]
      · simp [hk]
    · simp [hh]
    · simp [hh]
  | some handle =>
    refine ⟨rfl, rfl, rfl, rfl, ?_, ?_, ?_⟩
    · intro k
      simp [AList.lookup_erase_eq]
    · intro id
      rw [List.mem_cons, or_comm, eq_comm]
      simp [hh]
    · intro e
      rw [List.mem_cons, or_comm, eq_comm]
      simp [hh]

/-- A name that comes twice is stopped once. -/
lemma stopAll_spec (names : List String) (m : ListenerManager) :
    Stopped names m (names.foldl stop m) := by
  induction names generalizing m with
  | nil => exact ⟨rfl, rfl, rfl, rfl, by simp, by simp, by simp⟩
  | cons n names ih =>
    obtain ⟨hr₁, hl₁, hs₁, hi₁, ha₁, hst₁, hre₁⟩ := stop_spec m n
    obtain ⟨hr, hl, hs, hi, ha, hst, hre⟩ := ih (m.stop n)
    -- the handles that the rest of the names finds after the first was stopped
    have hrest : ∀ P : ListenerHandle → Prop,
        ((∃ h, m.active.lookup n = some h ∧ P h) ∨
          ∃ k ∈ names, ∃ h, (m.stop n).active.lookup k = some h ∧ P h) ↔
        ∃ k ∈ n :: names, ∃ h, m.active.lookup k = some h ∧ P h := by
      intro P
      constructor
      · rintro (⟨h, hh, hP⟩ | ⟨k, hk, h, hh, hP⟩)
        · exact ⟨n, List.mem_cons_self, h, hh, hP⟩
        · rw [ha₁] at hh
          split at hh
          · cases hh
          · exact ⟨k, List.mem_cons_of_mem n hk, h, hh, hP⟩
      · rintro ⟨k, hk, h, hh, hP⟩
        by_cases hkn : k = n
        · exact Or.inl ⟨h, hkn ▸ hh, hP⟩
        · refine Or.inr ⟨k, (List.mem_cons.mp hk).resolve_left hkn, h, ?_, hP⟩
          rw [ha₁, if_neg (by simpa using hkn)]
          exact hh
    refine ⟨hr.trans hr₁, hl.trans hl₁, hs.trans hs₁, hi.trans hi₁, ?_, ?_, ?_⟩
    · intro k
      rw [List.foldl_cons, ha, ha₁]
      by_cases hk : k ∈ names
      · simp [hk]
      · by_cases hkn : k = n
        · simp [hkn]
        · simp [hk, hkn]
    · intro id
      rw [List.foldl_cons, hst, hst₁, ← hrest, or_assoc]
      simp
    · intro e
      rw [List.foldl_cons, hre, hre₁, ← hrest, or_assoc]
      simp

/-! ## The invariants -/

/-- Every running task belongs to the handle of one tunnel, and runs as the configuration of that
handle says. -/
structure Tracked (m : ListenerManager) : Prop where
  name : ∀ name h, m.active.lookup name = some h → h.config.name = name
  parameters : ∀ name h, m.active.lookup name = some h →
    h.task.config.parameters = h.config.parameters
  rate : ∀ name h, m.active.lookup name = some h → h.task.limiter.rate = h.config.limitBps
  started : ∀ name h, m.active.lookup name = some h → h.task ∈ m.started
  running : ∀ name h, m.active.lookup name = some h → h.task.id ∉ m.stopped
  unique : ∀ name h name' h', m.active.lookup name = some h → m.active.lookup name' = some h' →
    h.task.id = h'.task.id → name = name'
  held : ∀ t ∈ m.started, t.id ∉ m.stopped → ∃ name h, m.active.lookup name = some h ∧ h.task = t
  fresh : ∀ t ∈ m.started, t.id < m.nextId
  past : ∀ id ∈ m.stopped, id < m.nextId

/-- The registered limiters have the registered rates. -/
def Rated (limiters : HashMap String LimiterEntry) : Prop :=
  ∀ name entry, limiters.lookup name = some entry → entry.limiter.rate = entry.limit

/-- The listener uses the limiter that is registered for its tunnel. -/
def Registered (m : ListenerManager) (name : String) (handle : ListenerHandle) : Prop :=
  m.limiters.lookup name = some ⟨handle.config.limitBps, handle.task.limiter⟩

structure Sound (m : ListenerManager) : Prop where
  tracked : m.Tracked
  rated : Rated m.limiters
  registered : ∀ name h, m.active.lookup name = some h → m.Registered name h

lemma sound_new (runtime : TunnelRuntime) : (new runtime).Sound := by
  refine ⟨⟨?_, ?_, ?_, ?_, ?_, ?_, ?_, ?_, ?_⟩, ?_, ?_⟩ <;> simp [new, Rated]

/-- Stopping keeps the handles of the other tunnels, and these have tasks of their own. -/
lemma Tracked.stopAll {names : List String} (h : m.Tracked) (hs : Stopped names m m') :
    m'.Tracked := by
  have hold : ∀ {name hd}, m'.active.lookup name = some hd →
      name ∉ names ∧ m.active.lookup name = some hd := by
    intro name hd hhd
    rw [hs.active] at hhd
    split at hhd
    · cases hhd
    · exact ⟨‹_›, hhd⟩
  constructor
  case name => exact fun name hd hhd => h.name name hd (hold hhd).2
  case parameters => exact fun name hd hhd => h.parameters name hd (hold hhd).2
  case rate => exact fun name hd hhd => h.rate name hd (hold hhd).2
  case started =>
    intro name hd hhd
    rw [hs.started]
    exact h.started name hd (hold hhd).2
  case running =>
    intro name hd hhd hid
    rcases (hs.stopped _).mp hid with hid | ⟨name', hname', hd', hhd', hid⟩
    · exact h.running name hd (hold hhd).2 hid
    · -- the stopped task would belong to two tunnels
      exact (hold hhd).1 (h.unique name' hd' name hd hhd' (hold hhd).2 hid ▸ hname')
  case unique =>
    exact fun name hd name' hd' hhd hhd' => h.unique name hd name' hd' (hold hhd).2 (hold hhd').2
  case held =>
    intro t ht hid
    rw [hs.started] at ht
    rw [hs.stopped, not_or] at hid
    obtain ⟨name, hd, hhd, rfl⟩ := h.held t ht hid.1
    refine ⟨name, hd, ?_, rfl⟩
    rw [hs.active, if_neg fun hname => hid.2 ⟨name, hname, hd, hhd, rfl⟩]
    exact hhd
  case fresh =>
    rw [hs.started, hs.nextId]
    exact h.fresh
  case past =>
    intro id hid
    rw [hs.nextId]
    rcases (hs.stopped id).mp hid with hid | ⟨name, -, hd, hhd, rfl⟩
    · exact h.past id hid
    · exact h.fresh hd.task (h.started name hd hhd)

lemma Sound.stopAll {names : List String} (h : m.Sound) (hs : Stopped names m m') : m'.Sound := by
  refine ⟨h.tracked.stopAll hs, ?_, ?_⟩
  · rw [hs.limiters]
    exact h.rated
  · intro name hd hhd
    rw [hs.active] at hhd
    split at hhd
    · cases hhd
    · rw [Registered, hs.limiters]
      exact h.registered name hd hhd

/-! ## Starting -/

/-- The limiter is the registered one, and only the entry of the tunnel may be new. -/
lemma limiterFor_spec (m : ListenerManager) (config : ServerTunnelConfig) :
    ∃ limiter limiters nextId, m.limiterFor config = (limiter, { m with limiters, nextId }) ∧
      m.nextId ≤ nextId ∧ limiters.lookup config.name = some ⟨config.limitBps, limiter⟩ ∧
      (∀ name, name ≠ config.name → limiters.lookup name = m.limiters.lookup name) ∧
      (∀ old, m.limiters.lookup config.name = some ⟨config.limitBps, old⟩ →
        limiters = m.limiters) ∧
      (Rated m.limiters → Rated limiters) := by
  have hnew : ∃ limiter limiters nextId,
      (RateLimiter.new m.nextId config.limitBps, { m with
        limiters := m.limiters.insert config.name
          ⟨config.limitBps, RateLimiter.new m.nextId config.limitBps⟩
        nextId := m.nextId + 1 }) = (limiter, { m with limiters, nextId }) ∧
      m.nextId ≤ nextId ∧ limiters.lookup config.name = some ⟨config.limitBps, limiter⟩ ∧
      (∀ name, name ≠ config.name → limiters.lookup name = m.limiters.lookup name) ∧
      (Rated m.limiters → Rated limiters) := by
    refine ⟨_, _, _, rfl, Nat.le_succ _, ?_, ?_, ?_⟩
    · rw [AList.lookup_insert]
    · exact fun name hne => AList.lookup_insert_ne hne
    · intro hrated name entry hentry
      rw [AList.lookup_insert_eq] at hentry
      split at hentry
      · cases hentry
        exact RateLimiter.rate_new _ _
      · exact hrated name entry hentry
  unfold limiterFor
  cases he : m.limiters.lookup config.name with
  | none =>
    obtain ⟨limiter, limiters, nextId, heq, hle, hself, hother, hrated⟩ := hnew
    exact ⟨limiter, limiters, nextId, heq, hle, hself, hother, by simp, hrated⟩
  | some entry =>
    by_cases hlimit : entry.limit = config.limitBps
    · refine ⟨entry.limiter, m.limiters, m.nextId, ?_, le_refl _, ?_, fun _ _ => rfl,
        fun _ _ => rfl, id⟩
      · simp [hlimit]
      · rw [he, ← hlimit]
    · obtain ⟨limiter, limiters, nextId, heq, hle, hself, hother, hrated⟩ := hnew
      refine ⟨limiter, limiters, nextId, ?_, hle, hself, hother, ?_, hrated⟩
      · simpa only [if_neg hlimit] using heq
      · rintro old hold
        cases hold
        exact absurd rfl hlimit

/-- The round of the loop for one tunnel: nothing to do, a bind that fails, or a new listener. -/
lemma startMissing_cases (system : System) (config : ServerTunnelConfig) (m : ListenerManager) :
    (config.name ∈ m.active ∧ startMissing system config m = (.ok (), m)) ∨
    config.name ∉ m.active ∧ ∃ limiter limiters nextId,
      m.limiterFor config = (limiter, { m with limiters, nextId }) ∧
      ((∃ error, system.bind m.released m.binds config.endpoint = .error error ∧
        startMissing system config m =
          (.error error, { m with limiters, nextId, binds := m.binds + 1 })) ∨
      (system.bind m.released m.binds config.endpoint = .ok () ∧
        startMissing system config m = (.ok (), { m with
          limiters
          nextId := nextId + 1
          binds := m.binds + 1
          started := ⟨nextId, config, limiter⟩ :: m.started
          released := m.released.filter (· ≠ config.endpoint)
          active := m.active.insert config.name ⟨config, ⟨nextId, config, limiter⟩⟩ }))) := by
  by_cases hactive : config.name ∈ m.active
  · exact Or.inl ⟨hactive, by rw [startMissing, if_pos hactive]⟩
  · obtain ⟨limiter, limiters, nextId, heq, -⟩ := limiterFor_spec m config
    refine Or.inr ⟨hactive, limiter, limiters, nextId, heq, ?_⟩
    rw [startMissing, if_neg hactive, heq]
    simp only [startListener]
    cases hb : system.bind m.released m.binds config.endpoint with
    | error error => exact Or.inl ⟨error, rfl, rfl⟩
    | ok => exact Or.inr ⟨rfl, rfl⟩

lemma ne_of_inactive (hactive : config.name ∉ m.active)
    (hhd : m.active.lookup name = some handle) : name ≠ config.name := by
  rintro rfl
  exact hactive (AList.mem_of_lookup hhd)

/-- New limiters and a failed bind leave the tasks as they are. -/
lemma Tracked.congr (h : m.Tracked) (hactive : m'.active = m.active)
    (hstarted : m'.started = m.started) (hstopped : m'.stopped = m.stopped)
    (hnext : m.nextId ≤ m'.nextId) : m'.Tracked := by
  constructor
  case name => exact hactive ▸ h.name
  case parameters => exact hactive ▸ h.parameters
  case rate => exact hactive ▸ h.rate
  case started => exact hactive ▸ hstarted ▸ h.started
  case running => exact hactive ▸ hstopped ▸ h.running
  case unique => exact hactive ▸ h.unique
  case held => exact hactive ▸ hstarted ▸ hstopped ▸ h.held
  case fresh => exact fun t ht => (h.fresh t (hstarted ▸ ht)).trans_le hnext
  case past => exact fun id hid => (h.past id (hstopped ▸ hid)).trans_le hnext

/-- A new task gets an id that no task had before it. -/
lemma Tracked.start {limiter : RateLimiter} (h : m.Tracked) (hactive : config.name ∉ m.active)
    (hrate : limiter.rate = config.limitBps)
    (ha : m'.active = m.active.insert config.name ⟨config, ⟨m.nextId, config, limiter⟩⟩)
    (hst : m'.started = ⟨m.nextId, config, limiter⟩ :: m.started)
    (hsp : m'.stopped = m.stopped) (hn : m'.nextId = m.nextId + 1) : m'.Tracked := by
  have hlookup : ∀ {name hd}, m'.active.lookup name = some hd →
      (name = config.name ∧ hd = ⟨config, ⟨m.nextId, config, limiter⟩⟩) ∨
        m.active.lookup name = some hd := by
    intro name hd hhd
    rw [ha, AList.lookup_insert_eq] at hhd
    split at hhd
    · exact Or.inl ⟨‹_›, (Option.some.inj hhd).symm⟩
    · exact Or.inr hhd
  have holder : ∀ {name hd}, m.active.lookup name = some hd → hd.task.id < m.nextId :=
    fun hhd => h.fresh _ (h.started _ _ hhd)
  constructor
  case name =>
    intro name hd hhd
    rcases hlookup hhd with ⟨rfl, rfl⟩ | hhd
    · rfl
    · exact h.name name hd hhd
  case parameters =>
    intro name hd hhd
    rcases hlookup hhd with ⟨rfl, rfl⟩ | hhd
    · rfl
    · exact h.parameters name hd hhd
  case rate =>
    intro name hd hhd
    rcases hlookup hhd with ⟨rfl, rfl⟩ | hhd
    · exact hrate
    · exact h.rate name hd hhd
  case started =>
    intro name hd hhd
    rw [hst]
    rcases hlookup hhd with ⟨rfl, rfl⟩ | hhd
    · exact List.mem_cons_self
    · exact List.mem_cons_of_mem _ (h.started name hd hhd)
  case running =>
    intro name hd hhd hid
    rw [hsp] at hid
    rcases hlookup hhd with ⟨rfl, rfl⟩ | hhd
    · exact (h.past _ hid).false
    · exact h.running name hd hhd hid
  case unique =>
    intro name hd name' hd' hhd hhd' hid
    rcases hlookup hhd with ⟨rfl, rfl⟩ | hhd <;> rcases hlookup hhd' with ⟨rfl, rfl⟩ | hhd'
    · rfl
    · exact absurd hid (holder hhd').ne'
    · exact absurd hid (holder hhd).ne
    · exact h.unique name hd name' hd' hhd hhd' hid
  case held =>
    intro t ht hid
    rw [hst] at ht
    rw [hsp] at hid
    rcases List.mem_cons.mp ht with rfl | ht
    · exact ⟨config.name, _, ha ▸ AList.lookup_insert _, rfl⟩
    · obtain ⟨name, hd, hhd, rfl⟩ := h.held t ht hid
      refine ⟨name, hd, ?_, rfl⟩
      rw [ha, AList.lookup_insert_ne (ne_of_inactive hactive hhd)]
      exact hhd
  case fresh =>
    intro t ht
    rw [hst] at ht
    rw [hn]
    rcases List.mem_cons.mp ht with rfl | ht
    · exact Nat.lt_succ_self _
    · exact (h.fresh t ht).trans (Nat.lt_succ_self _)
  case past =>
    intro id hid
    rw [hsp] at hid
    exact hn ▸ (h.past id hid).trans (Nat.lt_succ_self _)

lemma Sound.startMissing (h : m.Sound) (config : ServerTunnelConfig) :
    (startMissing system config m).2.Sound := by
  rcases startMissing_cases system config m with ⟨-, heq⟩ | ⟨hactive, limiter, limiters, nextId,
    hlimiter, hround⟩
  · rw [heq]
    exact h
  obtain ⟨_, _, _, heq, hle, hself, hother, -, hrated⟩ := limiterFor_spec m config
  rw [hlimiter] at heq
  cases heq
  have hrated := hrated h.rated
  -- the entries of the active tunnels are not touched
  have hregistered : ∀ name hd, m.active.lookup name = some hd →
      limiters.lookup name = some ⟨hd.config.limitBps, hd.task.limiter⟩ := by
    intro name hd hhd
    rw [hother name (ne_of_inactive hactive hhd)]
    exact h.registered name hd hhd
  have hnext : Tracked { m with limiters, nextId } := h.tracked.congr rfl rfl rfl hle
  rcases hround with ⟨error, -, heq⟩ | ⟨-, heq⟩
  · rw [heq]
    exact ⟨hnext.congr rfl rfl rfl le_rfl, hrated, hregistered⟩
  · rw [heq]
    refine ⟨hnext.start hactive (hrated _ _ hself) rfl rfl rfl rfl, hrated, ?_⟩
    intro name hd hhd
    simp only [AList.lookup_insert_eq] at hhd
    split at hhd
    · next hname =>
      cases hhd
      exact hname ▸ hself
    · exact hregistered name hd hhd

/-- What the loop that starts the missing listeners has done so far. -/
structure Started (configs : List ServerTunnelConfig) (m m' : ListenerManager) : Prop where
  runtime : m'.runtime = m.runtime
  stopped : m'.stopped = m.stopped
  kept : ∀ name h, m.active.lookup name = some h → m'.active.lookup name = some h
  added : ∀ name h, m'.active.lookup name = some h → m.active.lookup name = some h ∨
    (name ∉ m.active ∧ h.config ∈ configs ∧ h.config.name = name ∧ h.task.config = h.config)
  released : ∀ e ∈ m.released, e ∈ m'.released ∨
    ∃ name h, name ∉ m.active ∧ m'.active.lookup name = some h ∧ h.task.config.endpoint = e

lemma Started.refl (configs : List ServerTunnelConfig) (m : ListenerManager) :
    Started configs m m :=
  ⟨rfl, rfl, fun _ _ h => h, fun _ _ h => Or.inl h, fun _ h => Or.inl h⟩

lemma Started.startMissing {m₀ : ListenerManager} (h : Started configs m₀ m)
    (hc : config ∈ configs) : Started configs m₀ (startMissing system config m).2 := by
  rcases startMissing_cases system config m with ⟨-, heq⟩ | ⟨hactive, limiter, limiters, nextId,
    -, ⟨error, -, heq⟩ | ⟨-, heq⟩⟩
  · rw [heq]
    exact h
  · rw [heq]
    exact ⟨h.runtime, h.stopped, h.kept, h.added, h.released⟩
  · rw [heq]
    have hbefore : config.name ∉ m₀.active := by
      intro hmem
      obtain ⟨hd, hhd⟩ := AList.lookup_of_mem hmem
      exact hactive (AList.mem_of_lookup (h.kept _ hd hhd))
    -- the new listener takes a free name, so the handles that were there stay
    have hstays : ∀ name hd, m.active.lookup name = some hd →
        (m.active.insert config.name ⟨config, ⟨nextId, config, limiter⟩⟩).lookup name =
          some hd := by
      intro name hd hhd
      rw [AList.lookup_insert_ne (ne_of_inactive hactive hhd)]
      exact hhd
    refine ⟨h.runtime, h.stopped, fun name hd hhd => hstays name hd (h.kept name hd hhd), ?_, ?_⟩
    · intro name hd hhd
      simp only [AList.lookup_insert_eq] at hhd
      split at hhd
      · next hname =>
        cases hhd
        exact Or.inr ⟨hname ▸ hbefore, hc, hname.symm, rfl⟩
      · exact h.added name hd hhd
    · intro e he
      rcases h.released e he with he | ⟨name, hd, hname, hhd, he⟩
      · by_cases heq : e = config.endpoint
        · exact Or.inr ⟨config.name, _, hbefore, AList.lookup_insert _, heq.symm⟩
        · exact Or.inl (List.mem_filter.mpr ⟨he, by simpa using heq⟩)
      · exact Or.inr ⟨name, hd, hname, hstays name hd hhd, he⟩

/-- A registered limiter stays when the list has the tunnel with the limit of the entry. -/
lemma lookup_limiters_startMissing {entry : LimiterEntry}
    (h : m.limiters.lookup name = some entry)
    (hlimit : config.name = name → config.limitBps = entry.limit) :
    (startMissing system config m).2.limiters.lookup name = some entry := by
  rcases startMissing_cases system config m with ⟨-, heq⟩ | ⟨-, limiter, limiters, nextId,
    hlimiter, hround⟩
  · rw [heq]
    exact h
  obtain ⟨_, _, _, heq, -, -, hother, hsame, -⟩ := limiterFor_spec m config
  rw [hlimiter] at heq
  cases heq
  have hkept : limiters.lookup name = some entry := by
    by_cases hname : config.name = name
    · have hold : m.limiters.lookup config.name = some ⟨config.limitBps, entry.limiter⟩ := by
        rw [hname, h, hlimit hname]
      rw [hsame _ hold]
      exact h
    · rw [hother name (Ne.symm hname)]
      exact h
  rcases hround with ⟨error, -, heq⟩ | ⟨-, heq⟩
  · rw [heq]
    exact hkept
  · rw [heq]
    exact hkept

/-! ## The new configurations -/

/-- Only the active map changes. -/
lemma updateConfigs_frame (configs : List ServerTunnelConfig) (m : ListenerManager) :
    (configs.foldl updateConfig m).runtime = m.runtime ∧
      (configs.foldl updateConfig m).limiters = m.limiters ∧
      (configs.foldl updateConfig m).nextId = m.nextId ∧
      (configs.foldl updateConfig m).started = m.started ∧
      (configs.foldl updateConfig m).stopped = m.stopped := by
  induction configs generalizing m with
  | nil => exact ⟨rfl, rfl, rfl, rfl, rfl⟩
  | cons c configs ih => exact ih (m.updateConfig c)

lemma lookup_updateConfigs_of_notMem (h : ∀ c ∈ configs, c.name ≠ name) :
    (configs.foldl updateConfig m).active.lookup name = m.active.lookup name := by
  induction configs generalizing m with
  | nil => rfl
  | cons c configs ih =>
    rw [List.foldl_cons, ih fun c' hc' => h c' (List.mem_cons_of_mem c hc'), updateConfig,
      AList.lookup_modify, if_neg (h c List.mem_cons_self).symm]

lemma lookup_updateConfigs (hnodup : (configs.map (·.name)).Nodup) (hc : config ∈ configs) :
    (configs.foldl updateConfig m).active.lookup config.name =
      (m.active.lookup config.name).map fun handle => { handle with config } := by
  induction configs generalizing m with
  | nil => cases hc
  | cons c configs ih =>
    obtain ⟨hfirst, hnodup⟩ := List.nodup_cons.mp hnodup
    have hne : ∀ c' ∈ configs, c'.name ≠ c.name :=
      fun c' hc' hname => hfirst (List.mem_map.mpr ⟨c', hc', hname⟩)
    rw [List.foldl_cons]
    rcases List.mem_cons.mp hc with rfl | hc
    · rw [lookup_updateConfigs_of_notMem hne, updateConfig, AList.lookup_modify, if_pos rfl]
    · rw [ih hnodup hc, updateConfig, AList.lookup_modify, if_neg (hne config hc)]

/-- A handle that the list keeps gets the configuration of the list. -/
lemma lookup_updateConfigs_iff (hnodup : (configs.map (·.name)).Nodup)
    (hkeeps : ∀ name h, m.active.lookup name = some h → ∃ c ∈ configs, c.name = name) :
    (configs.foldl updateConfig m).active.lookup name = some handle ↔
      ∃ h, m.active.lookup name = some h ∧ handle.config ∈ configs ∧ handle.config.name = name ∧
        handle.task = h.task := by
  by_cases hname : ∃ c ∈ configs, c.name = name
  · obtain ⟨c, hc, rfl⟩ := hname
    rw [lookup_updateConfigs hnodup hc, Option.map_eq_some_iff]
    refine exists_congr fun h => and_congr_right fun _ => ?_
    constructor
    · rintro rfl
      exact ⟨hc, rfl, rfl⟩
    · rintro ⟨hmem, hname, htask⟩
      obtain ⟨cfg, task⟩ := handle
      cases eq_of_name_eq hnodup hmem hc hname
      cases htask
      rfl
  · rw [lookup_updateConfigs_of_notMem fun c hc hn => hname ⟨c, hc, hn⟩]
    constructor
    · intro h
      exact absurd (hkeeps name handle h) hname
    · rintro ⟨h, hh, -⟩
      exact absurd (hkeeps name h hh) hname

/-- New configurations with the parameters of the old ones leave the invariant as it is. -/
lemma Sound.updateConfigs (h : m.Sound) (hnodup : (configs.map (·.name)).Nodup)
    (hkeeps : ∀ name hd, m.active.lookup name = some hd → Keeps configs hd) :
    (configs.foldl updateConfig m).Sound := by
  have hnames : ∀ name hd, m.active.lookup name = some hd → ∃ c ∈ configs, c.name = name := by
    intro name hd hhd
    obtain ⟨c, hc, hpar, -⟩ := hkeeps name hd hhd
    exact ⟨c, hc, (name_of_parameters hpar).symm.trans (h.tracked.name name hd hhd)⟩
  -- the handle before the update has the same task and an equivalent configuration
  have hold : ∀ {name hd}, (configs.foldl updateConfig m).active.lookup name = some hd →
      hd.config.name = name ∧ ∃ old, m.active.lookup name = some old ∧ hd.task = old.task ∧
        old.config.parameters = hd.config.parameters ∧
        old.config.limitBps = hd.config.limitBps := by
    intro name hd hhd
    obtain ⟨old, hlookup, hmem, hname, htask⟩ := (lookup_updateConfigs_iff hnodup hnames).mp hhd
    obtain ⟨c, hc, hpar, hlimit⟩ := hkeeps name old hlookup
    have heq : hd.config = c := eq_of_name_eq hnodup hmem hc (hname.trans
      ((h.tracked.name name old hlookup).symm.trans (name_of_parameters hpar)))
    exact ⟨hname, old, hlookup, htask, heq ▸ hpar, heq ▸ hlimit⟩
  have hnew : ∀ {name old}, m.active.lookup name = some old → ∃ hd,
      (configs.foldl updateConfig m).active.lookup name = some hd ∧ hd.task = old.task := by
    intro name old hlookup
    obtain ⟨c, hc, hname⟩ := hnames name old hlookup
    exact ⟨⟨c, old.task⟩,
      (lookup_updateConfigs_iff hnodup hnames).mpr ⟨old, hlookup, hc, hname, rfl⟩, rfl⟩
  obtain ⟨-, hlimiters, hnext, hstarted, hstopped⟩ := updateConfigs_frame configs m
  obtain ⟨ht, hrated, hregistered⟩ := h
  refine ⟨?_, hlimiters ▸ hrated, ?_⟩
  · constructor
    case name => exact fun name hd hhd => (hold hhd).1
    case parameters =>
      intro name hd hhd
      obtain ⟨-, old, hlookup, htask, hpar, -⟩ := hold hhd
      rw [htask, ht.parameters name old hlookup, hpar]
    case rate =>
      intro name hd hhd
      obtain ⟨-, old, hlookup, htask, -, hlimit⟩ := hold hhd
      rw [htask, ht.rate name old hlookup, hlimit]
    case started =>
      intro name hd hhd
      obtain ⟨-, old, hlookup, htask, -⟩ := hold hhd
      rw [htask, hstarted]
      exact ht.started name old hlookup
    case running =>
      intro name hd hhd
      obtain ⟨-, old, hlookup, htask, -⟩ := hold hhd
      rw [htask, hstopped]
      exact ht.running name old hlookup
    case unique =>
      intro name hd name' hd' hhd hhd' hid
      obtain ⟨-, old, hlookup, htask, -⟩ := hold hhd
      obtain ⟨-, old', hlookup', htask', -⟩ := hold hhd'
      rw [htask, htask'] at hid
      exact ht.unique name old name' old' hlookup hlookup' hid
    case held =>
      intro t hmem hid
      rw [hstarted] at hmem
      rw [hstopped] at hid
      obtain ⟨name, old, hlookup, rfl⟩ := ht.held t hmem hid
      obtain ⟨hd, hhd, htask⟩ := hnew hlookup
      exact ⟨name, hd, hhd, htask⟩
    case fresh =>
      rw [hstarted, hnext]
      exact ht.fresh
    case past =>
      rw [hstopped, hnext]
      exact ht.past
  · intro name hd hhd
    obtain ⟨-, old, hlookup, htask, -, hlimit⟩ := hold hhd
    rw [Registered, hlimiters, htask, ← hlimit]
    exact hregistered name old hlookup

/-! ## One call of `apply_once` -/

/-- After the first phase the listeners that the list keeps are left. -/
lemma lookup_stopPhase (hnodup : (configs.map (·.name)).Nodup) (h : m.Tracked) :
    ((m.removed configs).foldl stop m).active.lookup name = some handle ↔
      m.active.lookup name = some handle ∧ Keeps configs handle := by
  rw [(stopAll_spec _ m).active]
  by_cases hmem : name ∈ m.removed configs
  · obtain ⟨hd, hhd, hkeeps⟩ := (mem_removed hnodup h.name).mp hmem
    simp only [if_pos hmem, reduceCtorEq, false_iff, not_and]
    intro hhandle
    rw [hhd] at hhandle
    cases hhandle
    exact hkeeps
  · rw [if_neg hmem]
    refine ⟨fun hhandle => ⟨hhandle, ?_⟩, And.left⟩
    by_contra hkeeps
    exact hmem ((mem_removed hnodup h.name).mpr ⟨handle, hhandle, hkeeps⟩)

/-- The call fails in the second phase. -/
lemma applyOnce_error {e : TunnelError} (h : applyOnce system configs m = (.error e, m')) :
    Except.untilError (startMissing system) configs ((m.removed configs).foldl stop m) =
      (.error e, m') := by
  unfold applyOnce at h
  split at h
  · next heq =>
    cases h
    exact heq
  · cases h

lemma applyOnce_ok (h : applyOnce system configs m = (.ok (), m')) :
    ∃ s, Except.untilError (startMissing system) configs ((m.removed configs).foldl stop m) =
        (.ok (), s) ∧
      m' = { configs.foldl updateConfig s with
        limiters := s.limiters.retain fun name _ => name ∈ desired configs } := by
  unfold applyOnce at h
  split at h
  · cases h
  · next s heq =>
    cases h
    refine ⟨s, heq, ?_⟩
    rw [(updateConfigs_frame configs s).2.1]

/-- What the second phase starts from. -/
lemma sound_stopPhase (hnodup : (configs.map (·.name)).Nodup) (h : m.Tracked)
    (hrated : Rated m.limiters)
    (hregistered : ∀ name hd, m.active.lookup name = some hd → Keeps configs hd →
      m.Registered name hd) : ((m.removed configs).foldl stop m).Sound := by
  have hstop := stopAll_spec (m.removed configs) m
  refine ⟨h.stopAll hstop, hstop.limiters ▸ hrated, ?_⟩
  intro name hd hhd
  obtain ⟨hhd, hkeeps⟩ := (lookup_stopPhase hnodup h).mp hhd
  rw [Registered, hstop.limiters]
  exact hregistered name hd hhd hkeeps

lemma started_startPhase (system : System) (configs : List ServerTunnelConfig)
    (m : ListenerManager) :
    Started configs m (Except.untilError (startMissing system) configs m).2 :=
  Except.untilError_invariant (.refl configs m) fun _ hc _ hs => hs.startMissing hc

/-- After the second phase the list keeps every listener. -/
lemma keeps_startPhase (hnodup : (configs.map (·.name)).Nodup) (h : m.Tracked)
    (hs : Started configs ((m.removed configs).foldl stop m) m')
    (hhd : m'.active.lookup name = some handle) : Keeps configs handle := by
  rcases hs.added name handle hhd with hold | ⟨-, hmem, -, -⟩
  · exact ((lookup_stopPhase hnodup h).mp hold).2
  · exact ⟨handle.config, hmem, rfl, rfl⟩

/-- The manager is sound after a call, whether it fails or not. -/
lemma sound_applyOnce (hnodup : (configs.map (·.name)).Nodup) (h : m.Tracked)
    (hrated : Rated m.limiters)
    (hregistered : ∀ name hd, m.active.lookup name = some hd → Keeps configs hd →
      m.Registered name hd) : (applyOnce system configs m).2.Sound := by
  have hsound : (Except.untilError (startMissing system) configs
      ((m.removed configs).foldl stop m)).2.Sound :=
    Except.untilError_invariant (sound_stopPhase hnodup h hrated hregistered)
      fun c _ _ hs => hs.startMissing c
  rcases hcall : applyOnce system configs m with ⟨e | ⟨⟩, m'⟩
  · rw [applyOnce_error hcall] at hsound
    exact hsound
  · obtain ⟨s, hs, rfl⟩ := applyOnce_ok hcall
    have hstarted := started_startPhase system configs ((m.removed configs).foldl stop m)
    rw [hs] at hsound hstarted
    have hkeeps : ∀ name hd, s.active.lookup name = some hd → Keeps configs hd :=
      fun name hd hhd => keeps_startPhase hnodup h hstarted hhd
    obtain ⟨ht, hr, hreg⟩ := hsound.updateConfigs hnodup hkeeps
    have hlimiters := (updateConfigs_frame configs s).2.1
    refine ⟨ht.congr rfl rfl rfl le_rfl, ?_, ?_⟩
    · intro name entry hentry
      exact hsound.rated name entry (AList.lookup_retain_eq_some.mp hentry).1
    · intro name hd hhd
      have hentry := hreg name hd hhd
      rw [Registered, hlimiters] at hentry
      refine AList.lookup_retain_eq_some.mpr ⟨hentry, ?_⟩
      -- the tunnels with a handle are those of the list
      obtain ⟨old, hold, hmem, hname, -⟩ := (lookup_updateConfigs_iff hnodup fun name hd hhd => by
        obtain ⟨c, hc, hpar, -⟩ := hkeeps name hd hhd
        exact ⟨c, hc, (name_of_parameters hpar).symm.trans
          (hsound.tracked.name name hd hhd)⟩).mp hhd
      exact decide_eq_true ((mem_desired hnodup).mpr ⟨hd.config, hmem, hname⟩)

/-- What a call that succeeds has changed. -/
structure Applied (configs : List ServerTunnelConfig) (m m' : ListenerManager) : Prop where
  runtime : m'.runtime = m.runtime
  only : ∀ name h, m'.active.lookup name = some h → h.config ∈ configs ∧ h.config.name = name
  all : ∀ c ∈ configs, ∃ h, m'.active.lookup c.name = some h ∧ h.config = c
  kept : ∀ name h, m.active.lookup name = some h → Keeps configs h →
    ∃ h', m'.active.lookup name = some h' ∧ h'.task = h.task
  limiter : ∀ name entry, m.limiters.lookup name = some entry →
    (∃ c ∈ configs, c.name = name) →
    (∀ c ∈ configs, c.name = name → c.limitBps = entry.limit) →
    m'.limiters.lookup name = some entry
  named : ∀ name ∈ m'.limiters, ∃ c ∈ configs, c.name = name

/-- The limiters that the list does not change are still registered when the call fails. -/
lemma lookup_limiters_startPhase {entry : LimiterEntry}
    (h : m.limiters.lookup name = some entry)
    (hlimit : ∀ c ∈ configs, c.name = name → c.limitBps = entry.limit) :
    (Except.untilError (startMissing system) configs m).2.limiters.lookup name = some entry :=
  Except.untilError_invariant
    (I := fun s : ListenerManager => s.limiters.lookup name = some entry) h
    fun c hc _ hs => lookup_limiters_startMissing hs (hlimit c hc)

/-- After a loop without an error every tunnel of the list has a listener. -/
lemma active_startPhase
    (h : Except.untilError (startMissing system) configs m = (.ok (), m')) :
    ∀ c ∈ configs, c.name ∈ m'.active := by
  refine Except.untilError_all
    (P := fun c (s : ListenerManager) => c.name ∈ s.active) h ?_ ?_
  · intro c _ s s' hs
    rcases startMissing_cases system c s with ⟨hactive, heq⟩ | ⟨-, limiter, limiters, nextId, -,
      ⟨error, -, heq⟩ | ⟨-, heq⟩⟩
    · rw [heq] at hs
      cases hs
      exact hactive
    · rw [heq] at hs
      cases hs
    · rw [heq] at hs
      cases hs
      exact (AList.mem_insert _).mpr (Or.inl rfl)
  · intro c _ c' hc' s hs
    obtain ⟨hd, hhd⟩ := AList.lookup_of_mem hs
    exact AList.mem_of_lookup (((Started.refl configs s).startMissing hc').kept c.name hd hhd)

lemma applied_of_applyOnce (hnodup : (configs.map (·.name)).Nodup) (h : m.Tracked)
    (hcall : applyOnce system configs m = (.ok (), m')) : Applied configs m m' := by
  obtain ⟨s, hs, rfl⟩ := applyOnce_ok hcall
  have hstop := stopAll_spec (m.removed configs) m
  have hstart := started_startPhase system configs ((m.removed configs).foldl stop m)
  rw [hs] at hstart
  have hnames : ∀ name hd, s.active.lookup name = some hd → ∃ c ∈ configs, c.name = name := by
    intro name hd hhd
    rcases hstart.added name hd hhd with hold | ⟨-, hmem, hname, -⟩
    · obtain ⟨hold, c, hc, hpar, -⟩ := (lookup_stopPhase hnodup h).mp hold
      exact ⟨c, hc, (name_of_parameters hpar).symm.trans (h.name name hd hold)⟩
    · exact ⟨hd.config, hmem, hname⟩
  obtain ⟨hruntime, hlimiters, -⟩ := updateConfigs_frame configs s
  constructor
  case runtime => exact hruntime.trans (hstart.runtime.trans hstop.runtime)
  case only =>
    intro name hd hhd
    obtain ⟨-, -, hmem, hname, -⟩ := (lookup_updateConfigs_iff hnodup hnames).mp hhd
    exact ⟨hmem, hname⟩
  case all =>
    intro c hc
    obtain ⟨hd, hhd⟩ := AList.lookup_of_mem (active_startPhase hs c hc)
    exact ⟨⟨c, hd.task⟩,
      (lookup_updateConfigs_iff hnodup hnames).mpr ⟨hd, hhd, hc, rfl, rfl⟩, rfl⟩
  case kept =>
    intro name hd hhd hkeeps
    have hlookup := hstart.kept name hd ((lookup_stopPhase hnodup h).mpr ⟨hhd, hkeeps⟩)
    obtain ⟨c, hc, hname⟩ := hnames name hd hlookup
    exact ⟨⟨c, hd.task⟩,
      (lookup_updateConfigs_iff hnodup hnames).mpr ⟨hd, hlookup, hc, hname, rfl⟩, rfl⟩
  case limiter =>
    intro name entry hentry hname hlimit
    rw [← hstop.limiters] at hentry
    have hlookup : (Except.untilError (startMissing system) configs
        ((m.removed configs).foldl stop m)).2.limiters.lookup name = some entry :=
      lookup_limiters_startPhase hentry hlimit
    rw [hs] at hlookup
    exact AList.lookup_retain_eq_some.mpr
      ⟨hlookup, decide_eq_true ((mem_desired hnodup).mpr hname)⟩
  case named =>
    intro name hname
    obtain ⟨entry, -, hdesired⟩ := AList.mem_retain.mp hname
    exact (mem_desired hnodup).mp (of_decide_eq_true hdesired)

end ListenerManager

end GateRust.Tunnel
