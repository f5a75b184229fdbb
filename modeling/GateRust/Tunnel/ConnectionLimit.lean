/-
# The limit of the connections of a tunnel

The listener of a TCP or SOCKS5 tunnel makes a semaphore with `max_connections` permits when it
is started, and a connection holds a permit until it ends (`stream.rs`).  A listener that a reload
stops accepts no more connections, but those that it has accepted run on.

Connections come and go while a reload is under way, so `ListenerManager::apply` is taken apart
here: every listener that is stopped or started is a step of its own.
-/
import GateRust.Tunnel.ListenerReload

namespace GateRust.Tunnel

open Machine

/-! ## A reload step by step -/

/-- A call of `apply_once`: the listeners that are still to be stopped and the tunnels whose
listeners are still to be started. -/
structure Reloading where
  configs : List ServerTunnelConfig
  toStop : List String
  toStart : List ServerTunnelConfig
  /-- The list and the limiters to go back to on an error.  The way back itself has none. -/
  fallback : Option (List ServerTunnelConfig × HashMap String LimiterEntry)

def Reloading.start (m : ListenerManager) (configs : List ServerTunnelConfig)
    (fallback : Option (List ServerTunnelConfig × HashMap String LimiterEntry)) : Reloading :=
  ⟨configs, m.removed configs, configs, fallback⟩

/-- The server with the connections that are forwarded, each given by the task of the listener
that has accepted it. -/
structure ConnectionServer where
  manager : ListenerManager
  reloading : Option Reloading
  /-- The streams of UDP sessions, which count in the shared budget too. -/
  udpStreams : ℕ
  connections : List ListenerTask

inductive ConnectionEvent where
  /-- A reload begins. -/
  | apply (finished : List ℕ) (configs : List ServerTunnelConfig)
  /-- The reload does its next step. -/
  | advance
  /-- A public connection comes to the listener of a tunnel. -/
  | accept (name : String)
  /-- A connection that the task has accepted ends. -/
  | close (task : ListenerTask)
  /-- A UDP session begins or ends. -/
  | openUdp
  | closeUdp
  | operate (op : TunnelRuntime.Operation)

namespace ConnectionServer

def new (runtime : TunnelRuntime) : ConnectionServer := ⟨.new runtime, none, 0, []⟩

/-- The end of `apply_once`, and of `apply` when it was the first call. -/
def settle (m : ListenerManager) (r : Reloading) : ListenerManager :=
  let m := r.configs.foldl ListenerManager.updateConfig m
  let m := { m with
    limiters := m.limiters.retain fun name _ => name ∈ ListenerManager.desired r.configs }
  if r.fallback.isSome then { m with runtime := m.runtime.applyTunnels r.configs } else m

def advance (system : System) (s : ConnectionServer) (r : Reloading) : ConnectionServer :=
  match r.toStop, r.toStart with
  | name :: rest, _ =>
    { s with manager := s.manager.stop name, reloading := some { r with toStop := rest } }
  | [], config :: rest =>
    match s.manager.startMissing system config with
    | (.ok (), manager) => { s with manager, reloading := some { r with toStart := rest } }
    | (.error _, manager) =>
      match r.fallback with
      | some (previous, limiters) =>
        let manager := { manager with limiters }
        { s with manager, reloading := some (.start manager previous none) }
      | none => { s with manager, reloading := none }
  | [], [] => { s with manager := settle s.manager r, reloading := none }

/-- A permit of the shared budget is left. -/
def tryDataStream (s : ConnectionServer) : Bool :=
  s.connections.length + s.udpStreams < maxDataStreams

/-- The connections that hold a permit of the listener. -/
def permitsTaken (s : ConnectionServer) (task : ListenerTask) : ℕ := s.connections.count task

def step (sha256 : GroupSecret → Digest) (system : System) (s : ConnectionServer) :
    ConnectionEvent → Option ConnectionServer
  | .apply finished configs =>
    match s.reloading with
    | some _ => none
    | none =>
      let manager := s.manager.reapRetired finished
      let previous := system.order manager.binds manager.configs
      some { s with
        manager, reloading := some (.start manager configs (some (previous, manager.limiters))) }
  | .advance => s.reloading.map (s.advance system)
  | .accept name =>
    (s.manager.active.lookup name).bind fun handle =>
      let task := handle.task
      if task.config.kind = .udp then none
      -- a connection that gets no permit is dropped at once
      else if s.permitsTaken task < task.config.maxConnections && s.tryDataStream then
        some { s with connections := task :: s.connections }
      else some s
  | .close task =>
    if task ∈ s.connections then some { s with connections := s.connections.erase task } else none
  | .openUdp => if s.tryDataStream then some { s with udpStreams := s.udpStreams + 1 } else none
  | .closeUdp => if 0 < s.udpStreams then some { s with udpStreams := s.udpStreams - 1 } else none
  | .operate op =>
    some { s with manager := { s.manager with runtime := s.manager.runtime.perform sha256 op } }

/-! ## The steps of a reload are those of `apply` -/

variable {sha256 : GroupSecret → Digest} {system : System} {s s' : ConnectionServer}

/-- Only the reload moves. -/
def OnlyReload (_ : ConnectionServer) (e : ConnectionEvent) : Prop := e = .advance

lemma reach_advance {m : ListenerManager} {r : Reloading} {k : ℕ} {l : List ListenerTask}
    (h : advance system ⟨m, some r, k, l⟩ r = s') :
    Reach (step sha256 system) OnlyReload ⟨m, some r, k, l⟩ s' :=
  Reach.init.next rfl (congrArg some h)

lemma reach_stops {m : ListenerManager} {configs toStart : List ServerTunnelConfig}
    {fallback : Option (List ServerTunnelConfig × HashMap String LimiterEntry)} {k : ℕ}
    {l : List ListenerTask} (names : List String) :
    Reach (step sha256 system) OnlyReload ⟨m, some ⟨configs, names, toStart, fallback⟩, k, l⟩
      ⟨names.foldl ListenerManager.stop m, some ⟨configs, [], toStart, fallback⟩, k, l⟩ := by
  induction names generalizing m with
  | nil => exact .init
  | cons name names ih => exact (reach_advance rfl).trans ih

lemma reach_starts {m m' : ListenerManager} {configs : List ServerTunnelConfig}
    {fallback : Option (List ServerTunnelConfig × HashMap String LimiterEntry)} {k : ℕ}
    {l : List ListenerTask} {toStart : List ServerTunnelConfig}
    (h : Except.untilError (ListenerManager.startMissing system) toStart m = (.ok (), m')) :
    Reach (step sha256 system) OnlyReload ⟨m, some ⟨configs, [], toStart, fallback⟩, k, l⟩
      ⟨m', some ⟨configs, [], [], fallback⟩, k, l⟩ := by
  induction toStart generalizing m with
  | nil =>
    cases h
    exact .init
  | cons c toStart ih =>
    rcases hc : m.startMissing system c with ⟨e | ⟨⟩, m₁⟩
    · rw [Except.untilError_cons_error hc] at h
      cases h
    · rw [Except.untilError_cons_ok hc] at h
      have hfirst : Reach (step sha256 system) OnlyReload
          ⟨m, some ⟨configs, [], c :: toStart, fallback⟩, k, l⟩
          ⟨m₁, some ⟨configs, [], toStart, fallback⟩, k, l⟩ :=
        reach_advance (by simp only [advance, hc])
      exact hfirst.trans (ih h)

/-- The first listener that cannot be started ends the call. -/
lemma reach_fails {m failed : ListenerManager} {configs : List ServerTunnelConfig}
    {fallback : Option (List ServerTunnelConfig × HashMap String LimiterEntry)} {k : ℕ}
    {l : List ListenerTask} {toStart : List ServerTunnelConfig} {e : TunnelError}
    (h : Except.untilError (ListenerManager.startMissing system) toStart m = (.error e, failed)) :
    Reach (step sha256 system) OnlyReload ⟨m, some ⟨configs, [], toStart, fallback⟩, k, l⟩
      (match fallback with
        | some (previous, limiters) =>
          ⟨{ failed with limiters }, some (.start { failed with limiters } previous none), k, l⟩
        | none => ⟨failed, none, k, l⟩) := by
  induction toStart generalizing m with
  | nil => cases h
  | cons c toStart ih =>
    rcases hc : m.startMissing system c with ⟨e' | ⟨⟩, m₁⟩
    · rw [Except.untilError_cons_error hc] at h
      cases h
      refine reach_advance ?_
      cases fallback with
      | none => simp only [advance, hc]
      | some back => simp only [advance, hc]
    · rw [Except.untilError_cons_ok hc] at h
      have hfirst : Reach (step sha256 system) OnlyReload
          ⟨m, some ⟨configs, [], c :: toStart, fallback⟩, k, l⟩
          ⟨m₁, some ⟨configs, [], toStart, fallback⟩, k, l⟩ :=
        reach_advance (by simp only [advance, hc])
      exact hfirst.trans (ih h)

lemma reach_applyOnce_ok {m m' : ListenerManager} {configs : List ServerTunnelConfig}
    {fallback : Option (List ServerTunnelConfig × HashMap String LimiterEntry)} {k : ℕ}
    {l : List ListenerTask} (h : ListenerManager.applyOnce system configs m = (.ok (), m')) :
    Reach (step sha256 system) OnlyReload ⟨m, some (.start m configs fallback), k, l⟩
      ⟨if fallback.isSome then { m' with runtime := m'.runtime.applyTunnels configs } else m',
        none, k, l⟩ := by
  have hstops : Reach (step sha256 system) OnlyReload ⟨m, some (.start m configs fallback), k, l⟩
      ⟨(m.removed configs).foldl ListenerManager.stop m, some ⟨configs, [], configs, fallback⟩,
        k, l⟩ := reach_stops _
  unfold ListenerManager.applyOnce at h
  split at h
  case h_1 => cases h
  case h_2 started hstarted =>
    cases h
    refine hstops.trans ((reach_starts hstarted).trans (reach_advance ?_))
    cases fallback <;> rfl

lemma reach_applyOnce_error {m failed : ListenerManager} {configs : List ServerTunnelConfig}
    {fallback : Option (List ServerTunnelConfig × HashMap String LimiterEntry)} {k : ℕ}
    {l : List ListenerTask} {e : TunnelError}
    (h : ListenerManager.applyOnce system configs m = (.error e, failed)) :
    Reach (step sha256 system) OnlyReload ⟨m, some (.start m configs fallback), k, l⟩
      (match fallback with
        | some (previous, limiters) =>
          ⟨{ failed with limiters }, some (.start { failed with limiters } previous none), k, l⟩
        | none => ⟨failed, none, k, l⟩) := by
  have hstops : Reach (step sha256 system) OnlyReload ⟨m, some (.start m configs fallback), k, l⟩
      ⟨(m.removed configs).foldl ListenerManager.stop m, some ⟨configs, [], configs, fallback⟩,
        k, l⟩ := reach_stops _
  exact hstops.trans (reach_fails (ListenerManager.applyOnce_error h))

/-- **The steps of a reload are `apply`.**  When nothing else happens meanwhile, a reload leaves the
manager that `ListenerManager.apply` computes. -/
theorem reach_apply (h : s.reloading = none) (finished : List ℕ)
    (configs : List ServerTunnelConfig) :
    ∃ s₁, s.step sha256 system (.apply finished configs) = some s₁ ∧
      Reach (step sha256 system) OnlyReload s₁
        { s with manager := (s.manager.apply system finished configs).2 } := by
  obtain ⟨m, reloading, k, l⟩ := s
  cases h
  refine ⟨_, rfl, ?_⟩
  rcases ListenerManager.apply_cases system finished configs m with
    ⟨m', hcall, heq⟩ | ⟨e, failed, hcall, ⟨m', hback, heq⟩ | ⟨e', e'', m', hback, heq⟩⟩
  · rw [heq]
    exact reach_applyOnce_ok hcall
  · rw [heq]
    exact (reach_applyOnce_error hcall).trans (reach_applyOnce_ok hback)
  · rw [heq]
    exact (reach_applyOnce_error hcall).trans (reach_applyOnce_error hback)

/-! ## The limit -/

/-- The connections of the tunnel that are forwarded, those of stopped listeners included. -/
def forwarded (s : ConnectionServer) (t : String) : ℕ :=
  s.connections.countP fun task => task.config.name = t

/-- The list has the tunnel, if at all, as a TCP or SOCKS5 tunnel with the given limit. -/
def Promises (t : String) (max : ℕ) (configs : List ServerTunnelConfig) : Prop :=
  ∀ c ∈ configs, c.name = t → c.maxConnections = max ∧ c.kind ≠ .udp

instance (t : String) (max : ℕ) (configs : List ServerTunnelConfig) :
    Decidable (Promises t max configs) :=
  inferInstanceAs (Decidable (∀ c ∈ configs, _ → _ ∧ _))

/-- The next step of the reload starts a listener of the tunnel. -/
def startsListener (s : ConnectionServer) (t : String) : Bool :=
  s.reloading.any fun r =>
    r.toStop.isEmpty && r.toStart.head?.any fun c =>
      c.name = t && !s.manager.active.keys.contains t

/-- The lists that are applied promise the limit. -/
def Applies (t : String) (max : ℕ) (_ : ConnectionServer) : ConnectionEvent → Prop
  | .apply _ configs => Promises t max configs
  | _ => True

instance (t : String) (max : ℕ) (s : ConnectionServer) : (e : ConnectionEvent) →
    Decidable (Applies t max s e)
  | .apply _ configs => inferInstanceAs (Decidable (Promises t max configs))
  | .advance | .accept _ | .close _ | .openUdp | .closeUdp | .operate _ =>
    inferInstanceAs (Decidable True)

/-- A listener of the tunnel is only started when the connections of the earlier ones have
ended. -/
def Drained (t : String) (s : ConnectionServer) : ConnectionEvent → Prop
  | .advance => s.startsListener t = true → s.forwarded t = 0
  | _ => True

instance (t : String) (s : ConnectionServer) : (e : ConnectionEvent) → Decidable (Drained t s e)
  | .advance => inferInstanceAs (Decidable (_ = true → _ = 0))
  | .apply _ _ | .accept _ | .close _ | .openUdp | .closeUdp | .operate _ =>
    inferInstanceAs (Decidable True)

def AppliesDrained (t : String) (max : ℕ) (s : ConnectionServer) (e : ConnectionEvent) : Prop :=
  Applies t max s e ∧ Drained t s e

instance (t : String) (max : ℕ) (s : ConnectionServer) (e : ConnectionEvent) :
    Decidable (AppliesDrained t max s e) := inferInstanceAs (Decidable (_ ∧ _))

variable {t : String} {max : ℕ}

structure Limited (t : String) (max : ℕ) (s : ConnectionServer) : Prop where
  names : ∀ name h, s.manager.active.lookup name = some h →
    h.config.name = name ∧ h.task.config.name = name
  permits : ∀ h, s.manager.active.lookup t = some h →
    h.config.maxConnections = max ∧ h.config.kind ≠ .udp ∧ h.task.config.maxConnections = max
  lists : ∀ r, s.reloading = some r →
    Promises t max r.configs ∧ Promises t max r.toStart ∧ ∀ back ∈ r.fallback, Promises t max back.1
  /-- All connections of the tunnel belong to the listener that runs. -/
  current : ∀ h, s.manager.active.lookup t = some h →
    ∀ task ∈ s.connections, task.config.name = t → task = h.task
  bound : s.forwarded t ≤ max

lemma limited_new (runtime : TunnelRuntime) : Limited t max (new runtime) := by
  constructor <;> simp [new, ListenerManager.new, forwarded]

/-- Steps that start no listener and accept no connection. -/
lemma Limited.of_frame (h : Limited t max s)
    (hactive : ∀ name h', s'.manager.active.lookup name = some h' →
      ∃ h, s.manager.active.lookup name = some h ∧ h'.task = h.task ∧
        (h'.config = h.config ∨ h'.config.name = name ∧
          (name = t → h'.config.maxConnections = max ∧ h'.config.kind ≠ .udp)))
    (hconnections : s'.connections.Sublist s.connections)
    (hlists : ∀ r, s'.reloading = some r →
      Promises t max r.configs ∧ Promises t max r.toStart ∧
        ∀ back ∈ r.fallback, Promises t max back.1) : Limited t max s' where
  names := by
    intro name h' hlookup
    obtain ⟨old, hold, htask, hconfig⟩ := hactive name h' hlookup
    obtain ⟨hname, htaskName⟩ := h.names name old hold
    rw [htask]
    refine ⟨?_, htaskName⟩
    rcases hconfig with hsame | ⟨hnew, -⟩
    · rw [hsame]
      exact hname
    · exact hnew
  permits := by
    intro h' hlookup
    obtain ⟨old, hold, htask, hconfig⟩ := hactive t h' hlookup
    obtain ⟨hmax, hkind, htaskMax⟩ := h.permits old hold
    rw [htask]
    rcases hconfig with hsame | ⟨-, hnew⟩
    · rw [hsame]
      exact ⟨hmax, hkind, htaskMax⟩
    · exact ⟨(hnew rfl).1, (hnew rfl).2, htaskMax⟩
  lists := hlists
  current := by
    intro h' hlookup task htask hname
    obtain ⟨old, hold, hsame, -⟩ := hactive t h' hlookup
    rw [hsame]
    exact h.current old hold task (hconnections.subset htask) hname
  bound := le_trans hconnections.countP_le h.bound

/-- The active listeners promise the limit as well. -/
lemma Limited.promises_order (h : Limited t max s) (call : ℕ) :
    Promises t max (system.order call s.manager.configs) := by
  intro c hc hname
  obtain ⟨name, handle, hlookup, rfl⟩ := ListenerManager.mem_order.mp hc
  obtain rfl : t = name := hname.symm.trans (h.names name handle hlookup).1
  obtain ⟨hmax, hkind, -⟩ := h.permits handle hlookup
  exact ⟨hmax, hkind⟩

lemma lookup_updateConfigs {m : ListenerManager} {configs : List ServerTunnelConfig}
    {name : String} {h' : ListenerHandle}
    (hlookup : (configs.foldl ListenerManager.updateConfig m).active.lookup name = some h') :
    ∃ h, m.active.lookup name = some h ∧ h'.task = h.task ∧
      (h'.config = h.config ∨ ∃ c ∈ configs, c.name = name ∧ h'.config = c) := by
  induction configs generalizing m with
  | nil => exact ⟨h', hlookup, rfl, .inl rfl⟩
  | cons c configs ih =>
    obtain ⟨h₁, hh₁, htask, hconfig⟩ := ih hlookup
    simp only [ListenerManager.updateConfig, AList.lookup_modify] at hh₁
    split at hh₁
    case isTrue hname =>
      obtain ⟨h₀, hh₀, rfl⟩ := Option.map_eq_some_iff.mp hh₁
      refine ⟨h₀, hname ▸ hh₀, htask, .inr ?_⟩
      rcases hconfig with hsame | ⟨c', hc', hname', hsame⟩
      · exact ⟨c, List.mem_cons_self, hname.symm, hsame⟩
      · exact ⟨c', List.mem_cons_of_mem c hc', hname', hsame⟩
    case isFalse =>
      refine ⟨h₁, hh₁, htask, ?_⟩
      rcases hconfig with hsame | ⟨c', hc', hname', hsame⟩
      · exact .inl hsame
      · exact .inr ⟨c', List.mem_cons_of_mem c hc', hname', hsame⟩

lemma settle_active (m : ListenerManager) (r : Reloading) :
    (settle m r).active = (r.configs.foldl ListenerManager.updateConfig m).active := by
  unfold settle
  split <;> rfl

/-- The manager keeps its listeners. -/
lemma Limited.of_active (h : Limited t max s) (hactive : s'.manager.active = s.manager.active)
    (hconnections : s'.connections.Sublist s.connections)
    (hlists : ∀ r, s'.reloading = some r →
      Promises t max r.configs ∧ Promises t max r.toStart ∧
        ∀ back ∈ r.fallback, Promises t max back.1) : Limited t max s' :=
  h.of_frame (fun _ h' hlookup => ⟨h', hactive ▸ hlookup, rfl, .inl rfl⟩) hconnections hlists

/-- A new listener starts without connections of its tunnel. -/
lemma Limited.start (h : Limited t max s) {config : ServerTunnelConfig} {task : ListenerTask}
    (hconfig : config.name = t → config.maxConnections = max ∧ config.kind ≠ .udp)
    (htask : task.config = config) (hdrained : config.name = t → s.forwarded t = 0)
    (hactive : s'.manager.active = s.manager.active.insert config.name ⟨config, task⟩)
    (hconnections : s'.connections = s.connections)
    (hlists : ∀ r, s'.reloading = some r →
      Promises t max r.configs ∧ Promises t max r.toStart ∧
        ∀ back ∈ r.fallback, Promises t max back.1) : Limited t max s' := by
  have hcases : ∀ name h', s'.manager.active.lookup name = some h' →
      (name = config.name ∧ h' = ⟨config, task⟩) ∨ s.manager.active.lookup name = some h' := by
    intro name h' hlookup
    rw [hactive, AList.lookup_insert_eq] at hlookup
    split at hlookup
    case isTrue hname => exact .inl ⟨hname, (Option.some.inj hlookup).symm⟩
    case isFalse => exact .inr hlookup
  refine ⟨?_, ?_, hlists, ?_, ?_⟩
  · intro name h' hlookup
    obtain ⟨rfl, rfl⟩ | hold := hcases name h' hlookup
    · exact ⟨rfl, by rw [htask]⟩
    · exact h.names name h' hold
  · intro h' hlookup
    obtain ⟨hname, rfl⟩ | hold := hcases t h' hlookup
    · obtain ⟨hmax, hkind⟩ := hconfig hname.symm
      exact ⟨hmax, hkind, by rw [htask]; exact hmax⟩
    · exact h.permits h' hold
  · intro h' hlookup task' htask' hname'
    rw [hconnections] at htask'
    obtain ⟨hname, -⟩ | hold := hcases t h' hlookup
    · have hnone := List.countP_eq_zero.mp (hdrained hname.symm) task' htask'
      exact absurd (decide_eq_true hname') hnone
    · exact h.current h' hold task' htask' hname'
  · rw [forwarded, hconnections]
    exact h.bound

lemma Limited.advance {r : Reloading} (h : Limited t max s) (hr : s.reloading = some r)
    (hdrained : Drained t s .advance) : Limited t max (s.advance system r) := by
  obtain ⟨hconfigs, hstart, hback⟩ := h.lists r hr
  obtain ⟨configs, toStop, toStart, fallback⟩ := r
  match toStop, toStart with
  | name :: toStop, toStart =>
    refine h.of_frame ?_ (List.Sublist.refl _) ?_
    · intro name' h' hlookup
      refine ⟨h', ?_, rfl, .inl rfl⟩
      have hstopped := (ListenerManager.stop_spec s.manager name).active name'
      rw [ConnectionServer.advance, hstopped] at hlookup
      split at hlookup
      · cases hlookup
      · exact hlookup
    · rintro _ ⟨⟩
      exact ⟨hconfigs, hstart, hback⟩
  | [], [] =>
    refine h.of_frame ?_ (List.Sublist.refl _) (by rintro _ ⟨⟩)
    intro name h' hlookup
    rw [ConnectionServer.advance, settle_active] at hlookup
    obtain ⟨old, hold, htask, hsame | ⟨c, hc, hname, rfl⟩⟩ := lookup_updateConfigs hlookup
    · exact ⟨old, hold, htask, .inl hsame⟩
    · exact ⟨old, hold, htask, .inr ⟨hname, fun ht => hconfigs _ hc (hname.trans ht)⟩⟩
  | [], config :: toStart =>
    have hrest : Promises t max toStart := fun c hc => hstart c (List.mem_cons_of_mem config hc)
    rcases ListenerManager.startMissing_cases system config s.manager with
      ⟨-, heq⟩ | ⟨hinactive, limiter, limiters, nextId, -, ⟨error, -, heq⟩ | ⟨-, heq⟩⟩
    · simp only [ConnectionServer.advance, heq]
      refine h.of_active rfl (List.Sublist.refl _) ?_
      rintro _ ⟨⟩
      exact ⟨hconfigs, hrest, hback⟩
    · simp only [ConnectionServer.advance, heq]
      cases fallback with
      | none => exact h.of_active rfl (List.Sublist.refl _) (by rintro _ ⟨⟩)
      | some back =>
        refine h.of_active rfl (List.Sublist.refl _) ?_
        rintro _ ⟨⟩
        exact ⟨hback back rfl, hback back rfl, by rintro _ ⟨⟩⟩
    · simp only [ConnectionServer.advance, heq]
      have hlimit := hstart config List.mem_cons_self
      refine h.start hlimit rfl ?_ rfl rfl ?_
      · rintro rfl
        refine hdrained ?_
        simpa [startsListener, hr, ← AList.mem_keys] using hinactive
      · rintro _ ⟨⟩
        exact ⟨hconfigs, hrest, hback⟩

/-- The running listener has a permit left, and it holds all connections of its tunnel. -/
lemma Limited.accept {name : String} {h' : ListenerHandle} (h : Limited t max s)
    (hlookup : s.manager.active.lookup name = some h')
    (hpermit : s.permitsTaken h'.task < h'.task.config.maxConnections) :
    Limited t max { s with connections := h'.task :: s.connections } := by
  have hname := (h.names name h' hlookup).2
  refine ⟨h.names, h.permits, h.lists, ?_, ?_⟩
  · intro current hcurrent task htask htaskName
    obtain rfl | hold := List.mem_cons.mp htask
    · obtain rfl : name = t := hname.symm.trans htaskName
      rw [hlookup] at hcurrent
      cases hcurrent
      rfl
    · exact h.current current hcurrent task hold htaskName
  · show List.countP _ (h'.task :: s.connections) ≤ max
    rw [List.countP_cons]
    split
    case isFalse => exact h.bound
    case isTrue htaskName =>
      obtain rfl : name = t := hname.symm.trans (of_decide_eq_true htaskName)
      -- every connection of the tunnel holds a permit of this listener
      have hcount : s.connections.countP (fun task => task.config.name = name) =
          s.permitsTaken h'.task := by
        refine List.countP_congr fun task htask => ?_
        rw [decide_eq_true_iff, beq_iff_eq]
        constructor
        · exact h.current h' hlookup task htask
        · rintro rfl
          exact hname
      have hmax := (h.permits h' hlookup).2.2
      rw [hcount]
      omega

lemma Limited.step {e : ConnectionEvent} (h : Limited t max s) (hok : AppliesDrained t max s e)
    (hs : s.step sha256 system e = some s') : Limited t max s' := by
  obtain ⟨happlies, hdrained⟩ := hok
  cases e with
  | apply finished configs =>
    simp only [ConnectionServer.step] at hs
    split at hs
    case h_1 => cases hs
    case h_2 =>
      cases hs
      refine h.of_active rfl (List.Sublist.refl _) ?_
      rintro _ ⟨⟩
      refine ⟨happlies, happlies, ?_⟩
      rintro _ ⟨⟩
      exact h.promises_order _
  | advance =>
    obtain ⟨r, hr, rfl⟩ := Option.map_eq_some_iff.mp hs
    exact h.advance hr hdrained
  | accept name =>
    obtain ⟨handle, hlookup, hs⟩ := Option.bind_eq_some_iff.mp hs
    simp only at hs
    split at hs
    · cases hs
    split at hs
    case isTrue hpermits =>
      cases hs
      exact h.accept hlookup (of_decide_eq_true (Bool.and_eq_true_iff.mp hpermits).1)
    case isFalse =>
      cases hs
      exact h
  | close task =>
    simp only [ConnectionServer.step] at hs
    split at hs
    case isTrue =>
      cases hs
      exact h.of_active rfl List.erase_sublist h.lists
    case isFalse => cases hs
  | openUdp =>
    simp only [ConnectionServer.step] at hs
    split at hs
    case isTrue =>
      cases hs
      exact h.of_active rfl (List.Sublist.refl _) h.lists
    case isFalse => cases hs
  | closeUdp =>
    simp only [ConnectionServer.step] at hs
    split at hs
    case isTrue =>
      cases hs
      exact h.of_active rfl (List.Sublist.refl _) h.lists
    case isFalse => cases hs
  | operate op =>
    cases hs
    exact h.of_active rfl (List.Sublist.refl _) h.lists

/-- **The limit holds as long as listeners start without old connections.**  In a run whose lists
all give the tunnel the same limit, and whose listeners of the tunnel are started only when no
connection of an earlier one is left, the tunnel never has more connections than the limit. -/
theorem forwarded_le_max {runtime : TunnelRuntime}
    (h : Reach (step sha256 system) (AppliesDrained t max) (new runtime) s) :
    s.forwarded t ≤ max :=
  (h.invariant (limited_new runtime) fun _ _ _ hI hok hs => hI.step hok hs).bound

/-- While the listener has permits left, it accepts connections. -/
lemma reach_accepts {handle : ListenerHandle} (hlookup : s.manager.active.lookup t = some handle)
    (hkind : handle.task.config.kind ≠ .udp) {k : ℕ}
    (hpermits : s.permitsTaken handle.task + k ≤ handle.task.config.maxConnections)
    (hbudget : s.connections.length + s.udpStreams + k ≤ maxDataStreams) :
    Reach (step sha256 system) (Applies t max) s
      { s with connections := List.replicate k handle.task ++ s.connections } := by
  induction k with
  | zero => exact .init
  | succ k ih =>
    refine (ih (by omega) (by omega)).next (e := .accept t) trivial ?_
    have hfree : permitsTaken
        { s with connections := List.replicate k handle.task ++ s.connections } handle.task <
          handle.task.config.maxConnections := by
      have hcount : (List.replicate k handle.task ++ s.connections).count handle.task =
          k + s.permitsTaken handle.task := by
        rw [List.count_append, List.count_replicate_self]
        rfl
      rw [permitsTaken, hcount]
      omega
    have hstreams : tryDataStream
        { s with connections := List.replicate k handle.task ++ s.connections } = true := by
      refine decide_eq_true ?_
      show (List.replicate k handle.task ++ s.connections).length + s.udpStreams < maxDataStreams
      rw [List.length_append, List.length_replicate]
      omega
    simp only [ConnectionServer.step, hlookup, Option.bind_some, if_neg hkind, hfree, hstreams]
    rfl

/-- **A listener that starts beside old connections exceeds the limit.**  The listener that runs has
all its permits, and the budget is large enough: then the server goes on to a state in which the
tunnel has more connections than the limit. -/
theorem exists_exceeds {handle : ListenerHandle}
    (hlookup : s.manager.active.lookup t = some handle) (hname : handle.task.config.name = t)
    (hkind : handle.task.config.kind ≠ .udp) (hmax : handle.task.config.maxConnections = max)
    (hnew : s.permitsTaken handle.task = 0) (hold : s.forwarded t ≠ 0)
    (hbudget : s.connections.length + s.udpStreams + max ≤ maxDataStreams) :
    ∃ s', Reach (step sha256 system) (Applies t max) s s' ∧ max < s'.forwarded t := by
  refine ⟨_, reach_accepts hlookup hkind (k := max) (by omega) hbudget, ?_⟩
  have hcount : (List.replicate max handle.task).countP (fun task => task.config.name = t) =
      max := by
    simp [List.countP_replicate, hname]
  show max < List.countP _ (List.replicate max handle.task ++ s.connections)
  rw [List.countP_append, hcount]
  exact Nat.lt_add_of_pos_right (Nat.pos_of_ne_zero hold)

/-! ### A change of the rate while a connection is open -/

def limitedWeb (limitBps : Option UInt64) : ServerTunnelConfig :=
  { TunnelRuntime.sampleTunnel "web" 8080 with maxConnections := 1, limitBps }

/-- The listener is started and has a connection. -/
def webConnected : List ConnectionEvent :=
  [.apply [] [limitedWeb none], .advance, .advance, .accept "web"]

/-- Another rate stops the listener and starts a new one. -/
def webLimited : List ConnectionEvent :=
  [.apply [] [limitedWeb (some 1000)], .advance, .advance, .advance, .accept "web"]

/-- The steps of a server on which every bind succeeds. -/
def sampleStep : ConnectionServer → ConnectionEvent → Option ConnectionServer :=
  step TunnelRuntime.sampleSha256 (ListenerManager.sampleSystem fun _ _ _ => false)

/-- The first connection ends before the listener is started again. -/
theorem web_has_one_connection :
    ∃ s, exec sampleStep (AppliesDrained "web" 1) (new .new)
        (webConnected ++ [.close ⟨1, limitedWeb none, ⟨none⟩⟩] ++ webLimited) = some s ∧
      s.connections.length = 1 ∧ s.forwarded "web" ≤ 1 := by
  have hrun : (exec sampleStep (AppliesDrained "web" 1) (new .new)
      (webConnected ++ [.close ⟨1, limitedWeb none, ⟨none⟩⟩] ++ webLimited)).map
        (fun s => s.connections.length) = some 1 := by decide +kernel
  obtain ⟨s, hs, hlength⟩ := Option.map_eq_some_iff.mp hrun
  exact ⟨s, hs, hlength, forwarded_le_max (reach_of_exec hs)⟩

/-- The first connection is still open when the new listener accepts the second one. -/
theorem web_has_two_connections :
    ¬ ∀ (sha256 : GroupSecret → Digest) (system : System) (runtime : TunnelRuntime) (t : String)
      (max : ℕ) (s : ConnectionServer),
      Reach (step sha256 system) (Applies t max) (new runtime) s → s.forwarded t ≤ max := by
  intro hlimit
  have hrun : (exec sampleStep (Applies "web" 1) (new .new) (webConnected ++ webLimited)).map
      (fun s => s.forwarded "web") = some 2 := by decide +kernel
  obtain ⟨s, hs, hforwarded⟩ := Option.map_eq_some_iff.mp hrun
  have hle := hlimit _ _ _ _ _ s (reach_of_exec hs)
  rw [hforwarded] at hle
  omega

end ConnectionServer

end GateRust.Tunnel
