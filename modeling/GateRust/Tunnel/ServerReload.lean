/-
# Reloading the server

`reload_server` applies a new configuration in stages: it loads the file, prepares the QUIC
endpoint, applies the list of tunnels to the listeners, and switches the endpoint.  When the switch
fails, it puts the previous list of tunnels back.  Only after all stages it replaces the credentials
and the list of groups.

A reload is one step here: what the sessions do meanwhile is left out, so that it makes sense to
say that the reload has changed nothing.
-/
import GateRust.Tunnel.ListenerReload

namespace GateRust.Tunnel

open Machine TunnelRuntime

/-! ## The QUIC endpoint -/

/-- The certificate chain and the private key that new connections are offered. -/
structure QuicServerConfig where
  certificates : List (List UInt8)
  privateKey : List UInt8
deriving DecidableEq, Repr

/-- What the certificate and the private key of the configuration are made into. -/
structure ServerCredentials where
  serverConfig : QuicServerConfig
  certificate : List UInt8
deriving DecidableEq, Repr

structure QuicEndpoint where
  /-- The address that the socket of the endpoint is bound to. -/
  socket : SocketAddr
  config : ServerQuicConfig
  credentials : ServerCredentials
deriving DecidableEq, Repr

structure QuicUpdate where
  config : ServerQuicConfig
  credentials : ServerCredentials
  socket : Option SocketAddr
deriving DecidableEq, Repr

namespace QuicEndpoint

/-- `credentials` is what the files of the configuration give, and `bound` the result of binding
its address. -/
def prepare (quic : QuicEndpoint) (config : ServerQuicConfig)
    (credentials : Except TunnelError ServerCredentials) (bound : Except TunnelError Unit) :
    Except TunnelError (Option QuicUpdate) :=
  if config = quic.config then .ok none
  else
    credentials.bind fun credentials =>
      if config.bind ≠ quic.config.bind then
        bound.map fun _ => some ⟨config, credentials, some config.bind⟩
      else .ok (some ⟨config, credentials, none⟩)

/-- `rebound` is the result of moving the endpoint to another socket.  On an error the endpoint
keeps the old one. -/
def apply (quic : QuicEndpoint) (update : QuicUpdate) (rebound : Except TunnelError Unit) :
    Except TunnelError Unit × QuicEndpoint :=
  match update.socket with
  | none => (.ok (), ⟨quic.socket, update.config, update.credentials⟩)
  | some socket =>
    match rebound with
    | .error error => (.error error, quic)
    | .ok () => (.ok (), ⟨socket, update.config, update.credentials⟩)

end QuicEndpoint

/-! ## The stages -/

def ServerConfig.credentials (config : ServerConfig) : List (String × GroupSecret) :=
  config.groups.map fun group => (group.name, group.key.toUTF8.data.toList)

/-- What the file and the operating system give a reload.  The tasks with the ids in `finished`
have finished when the listeners are applied, and those in `finishedLater` when the previous list
is put back. -/
structure ReloadInput where
  parsed : Except TunnelError ServerConfig
  credentials : Except TunnelError ServerCredentials
  bound : Except TunnelError Unit
  rebound : Except TunnelError Unit
  finished : List ℕ
  finishedLater : List ℕ

def ReloadInput.load (input : ReloadInput) : Except TunnelError ServerConfig :=
  input.parsed.bind fun config => config.validate.map fun _ => config

structure TunnelServer where
  quic : QuicEndpoint
  groups : List (String × GroupSecret)
  listeners : ListenerManager

namespace TunnelServer

/-- The QUIC endpoint could not be switched: put the previous list of tunnels back. -/
def putBack (s : TunnelServer) (system : System) (finished : List ℕ)
    (previous : List ServerTunnelConfig) (error : TunnelError) :
    Except String Unit × TunnelServer :=
  match s.listeners.apply system finished previous with
  | (.ok (), listeners) => (.error error.display, { s with listeners })
  | (.error rollbackError, listeners) =>
    (.error s!"切换 QUIC 入口失败: {error.display}; 回滚隧道监听也失败: {rollbackError.display}",
      { s with listeners })

/-- The credentials are applied last. -/
def finish (s : TunnelServer) (sha256 : GroupSecret → Digest) (config : ServerConfig) :
    TunnelServer :=
  { s with
    groups := config.credentials
    listeners := { s.listeners with
      runtime := s.listeners.runtime.applyCredentials sha256 config.credentials } }

/-- From the prepared update of the endpoint on. -/
def applyUpdate (s : TunnelServer) (sha256 : GroupSecret → Digest) (system : System)
    (input : ReloadInput) (config : ServerConfig) (update : Option QuicUpdate) :
    Except String Unit × TunnelServer :=
  let previous := system.order s.listeners.binds s.listeners.configs
  match s.listeners.apply system input.finished config.tunnels with
  | (.error error, listeners) => (.error error.display, { s with listeners })
  | (.ok (), listeners) =>
    match update with
    | none => (.ok (), { s with listeners }.finish sha256 config)
    | some update =>
      match s.quic.apply update input.rebound with
      | (.error error, quic) =>
        { s with quic, listeners }.putBack system input.finishedLater previous error
      | (.ok (), quic) => (.ok (), { s with quic, listeners }.finish sha256 config)

/-- `reload_server`, with the error that is reported. -/
def reload (s : TunnelServer) (sha256 : GroupSecret → Digest) (system : System)
    (input : ReloadInput) : Except String Unit × TunnelServer :=
  match input.load with
  | .error error => (.error error.display, s)
  | .ok config =>
    match s.quic.prepare config.quic input.credentials input.bound with
    | .error error => (.error error.display, s)
    | .ok update => s.applyUpdate sha256 system input config update

/-! ## The runtime after two lists of tunnels -/

variable {configs previous : List ServerTunnelConfig} {t : String} {rt : TunnelRuntime}
  {owner : TunnelOwner}

/-- The entry of a tunnel in the table of the runtime. -/
def specOf (config : ServerTunnelConfig) : TunnelSpec where
  group := config.group
  kind := config.kind
  bind := config.bind
  localIp := config.clientLocalIp
  localPort := config.clientLocalPort

lemma lookup_tunnelSpecs (hnodup : (configs.map (·.name)).Nodup) {spec : TunnelSpec} :
    (tunnelSpecs configs).lookup t = some spec ↔
      ∃ config ∈ configs, config.name = t ∧ specOf config = spec := by
  constructor
  · intro h
    obtain ⟨config, hmem, heq⟩ := List.mem_map.mp (AList.mem_of_lookup_ofList h)
    exact ⟨config, hmem, congrArg Prod.fst heq, congrArg Prod.snd heq⟩
  · rintro ⟨config, hmem, rfl, rfl⟩
    obtain ⟨spec, hspec⟩ := AList.lookup_ofList_of_mem
      (List.mem_map.mpr ⟨config, hmem, rfl⟩ : (config.name, specOf config) ∈
        configs.map fun config => (config.name, specOf config))
    obtain ⟨config', hmem', heq⟩ := List.mem_map.mp (AList.mem_of_lookup_ofList hspec)
    have hsame : config' = config :=
      List.inj_on_of_nodup_map hnodup hmem' hmem (congrArg Prod.fst heq)
    rw [hsame] at heq
    exact hspec.trans (congrArg some (congrArg Prod.snd heq).symm)

/-- The order of a list does not matter for its table. -/
lemma lookup_tunnelSpecs_perm (hperm : configs.Perm previous)
    (hnodup : (configs.map (·.name)).Nodup) :
    (tunnelSpecs configs).lookup t = (tunnelSpecs previous).lookup t := by
  ext spec
  have hnodup' : (previous.map (·.name)).Nodup := (hperm.map _).nodup_iff.mp hnodup
  rw [lookup_tunnelSpecs hnodup, lookup_tunnelSpecs hnodup']
  simp only [hperm.mem_iff]

lemma lookup_owners_applyTunnels :
    (rt.applyTunnels configs).state.owners.lookup t = some owner ↔
      rt.state.owners.lookup t = some owner ∧
        ({ rt.state with tunnels := tunnelSpecs configs } : RuntimeState).MayOwn
          owner.sessionId t :=
  RuntimeState.lookup_retainValidOwners

/-- A session loses a tunnel that it owns when a list does not have the tunnel with its group and
its kind, even when the next list does. -/
lemma lookup_owners_applyTunnels_twice :
    ((rt.applyTunnels configs).applyTunnels previous).state.owners.lookup t = some owner ↔
      rt.state.owners.lookup t = some owner ∧
        ({ rt.state with tunnels := tunnelSpecs configs } : RuntimeState).MayOwn
          owner.sessionId t ∧
        ({ rt.state with tunnels := tunnelSpecs previous } : RuntimeState).MayOwn
          owner.sessionId t := by
  rw [lookup_owners_applyTunnels, lookup_owners_applyTunnels, and_assoc]
  rfl

/-- The owners of all tunnels stay when both lists have their tunnels with their groups and
kinds. -/
lemma owners_applyTunnels_twice (hvalid : rt.state.OwnersValid)
    (hnodup : (configs.map (·.name)).Nodup)
    (htable : ∀ name, (tunnelSpecs previous).lookup name = rt.state.tunnels.lookup name) :
    (∀ t, ((rt.applyTunnels configs).applyTunnels previous).state.owners.lookup t =
        rt.state.owners.lookup t) ↔
      ∀ t owner spec, rt.state.owners.lookup t = some owner →
        rt.state.tunnels.lookup t = some spec →
          ∃ config ∈ configs, config.name = t ∧ config.group = spec.group ∧
            config.kind = spec.kind := by
  constructor
  · intro h t owner spec howner hspec
    have hafter := (h t).trans howner
    obtain ⟨-, ⟨spec', session', hspec', hsession', hgroup', hkind'⟩, -⟩ :=
      lookup_owners_applyTunnels_twice.mp hafter
    obtain ⟨spec₀, session, hspec₀, hsession, hgroup, hkind⟩ := hvalid t owner howner
    obtain rfl := Option.some.inj (hspec.symm.trans hspec₀)
    obtain rfl := Option.some.inj (hsession.symm.trans hsession')
    obtain ⟨config, hmem, hname, rfl⟩ := (lookup_tunnelSpecs hnodup).mp hspec'
    exact ⟨config, hmem, hname, hgroup'.symm.trans hgroup,
      Option.some.inj (hkind'.symm.trans hkind)⟩
  · intro h t
    ext owner
    rw [lookup_owners_applyTunnels_twice]
    refine ⟨And.left, fun howner => ⟨howner, ?_, ?_⟩⟩
    · obtain ⟨spec, session, hspec, hsession, hgroup, hkind⟩ := hvalid t owner howner
      obtain ⟨config, hmem, hname, hgroup', hkind'⟩ := h t owner spec howner hspec
      exact ⟨specOf config, session, (lookup_tunnelSpecs hnodup).mpr ⟨config, hmem, hname, rfl⟩,
        hsession, hgroup.trans hgroup'.symm, hkind.trans (congrArg some hkind'.symm)⟩
    · obtain ⟨spec, session, hspec, hrest⟩ := hvalid t owner howner
      exact ⟨spec, session, (htable t).trans hspec, hrest⟩

/-! ## A reload that fails -/

variable {sha256 : GroupSecret → Digest} {system : System} {s s' : TunnelServer}
  {input : ReloadInput} {config : ServerConfig} {message : String}

abbrev runtimeState (s : TunnelServer) : RuntimeState := s.listeners.runtime.state

/-- The list of tunnels that `reload_server` remembers. -/
abbrev previousTunnels (s : TunnelServer) (system : System) : List ServerTunnelConfig :=
  system.order s.listeners.binds s.listeners.configs

/-- The reload gets to the last stage and fails there: the listeners could be applied, but the
endpoint could not be moved to its new socket. -/
def SwitchFails (s : TunnelServer) (system : System) (input : ReloadInput)
    (config : ServerConfig) : Prop :=
  input.load = .ok config ∧
    (∃ update, s.quic.prepare config.quic input.credentials input.bound = .ok (some update) ∧
      (s.quic.apply update input.rebound).1.isOk = false) ∧
    (s.listeners.apply system input.finished config.tunnels).1 = .ok ()

/-- The listeners can be put back: those that a failed call has left, and those that have to go
because the endpoint could not be switched. -/
structure RollsBack (s : TunnelServer) (system : System) (input : ReloadInput) : Prop where
  listeners : ∀ config e failed, input.load = .ok config →
    ListenerManager.applyOnce system config.tunnels (s.listeners.reapRetired input.finished) =
      (.error e, failed) →
    (ListenerManager.rollBack system (s.listeners.reapRetired input.finished) failed).1 = .ok ()
  switch : ∀ config, s.SwitchFails system input config →
    ((s.listeners.apply system input.finished config.tunnels).2.apply system input.finishedLater
      (s.previousTunnels system)).1 = .ok ()

/-- All that a reload that fails can have done. -/
lemma reload_error_cases (h : s.reload sha256 system input = (.error message, s')) :
    (s' = s ∧ ∀ config, ¬ s.SwitchFails system input config) ∨
      (∃ config error listeners, input.load = .ok config ∧
        s.listeners.apply system input.finished config.tunnels = (.error error, listeners) ∧
        s' = { s with listeners }) ∨
      ∃ config, s.SwitchFails system input config ∧
        s' = { s with listeners :=
          ((s.listeners.apply system input.finished config.tunnels).2.apply system
            input.finishedLater (s.previousTunnels system)).2 } := by
  unfold reload at h
  cases hload : input.load with
  | error error =>
    simp only [hload] at h
    cases h
    refine .inl ⟨rfl, fun config hswitch => ?_⟩
    cases hload.symm.trans hswitch.1
  | ok config =>
    cases hprepare : s.quic.prepare config.quic input.credentials input.bound with
    | error error =>
      simp only [hload, hprepare] at h
      cases h
      refine .inl ⟨rfl, ?_⟩
      rintro config' ⟨hload', ⟨update, hupdate, -⟩, -⟩
      obtain rfl := Except.ok.inj (hload.symm.trans hload')
      cases hprepare.symm.trans hupdate
    | ok update =>
      refine .inr ?_
      simp only [hload, hprepare, applyUpdate] at h
      rcases happly : s.listeners.apply system input.finished config.tunnels with
        ⟨error | ⟨⟩, listeners⟩
      · simp only [happly] at h
        cases h
        exact .inl ⟨config, error, listeners, rfl, happly, rfl⟩
      · refine .inr ⟨config, ?_⟩
        simp only [happly] at h
        cases update with
        | none => cases h
        | some update =>
          rcases hquic : s.quic.apply update input.rebound with ⟨error | ⟨⟩, quic⟩
          · have hsame : quic = s.quic := by
              unfold QuicEndpoint.apply at hquic
              split at hquic
              · cases hquic
              · split at hquic
                · exact (Prod.mk.inj hquic).2.symm
                · cases hquic
            subst hsame
            refine ⟨⟨hload, ⟨update, hprepare, by simp [hquic, Except.isOk, Except.toBool]⟩,
              by simp [happly]⟩, ?_⟩
            simp only [hquic, putBack] at h
            split at h
            · cases h
              simp [*]
            · cases h
              simp [*]
          · simp only [hquic] at h
            cases h

/-- The reload has changed nothing that the server does. -/
structure Unchanged (s s' : TunnelServer) : Prop where
  quic : s'.quic = s.quic
  groups : s'.groups = s.groups
  credentials : s'.runtimeState.credentials = s.runtimeState.credentials
  listeners : ∀ name, (s'.listeners.active.lookup name).map (·.config) =
    (s.listeners.active.lookup name).map (·.config)
  tunnels : ∀ t, s'.runtimeState.tunnels.lookup t = s.runtimeState.tunnels.lookup t
  owners : ∀ t, s'.runtimeState.owners.lookup t = s.runtimeState.owners.lookup t

lemma Unchanged.refl (s : TunnelServer) : Unchanged s s :=
  ⟨rfl, rfl, rfl, fun _ => rfl, fun _ => rfl, fun _ => rfl⟩

lemma validTunnels_of_load (h : input.load = .ok config) : ValidTunnels config.tunnels := by
  cases hp : input.parsed with
  | error error => simp [ReloadInput.load, hp, Except.bind] at h
  | ok parsed =>
    cases hv : parsed.validate with
    | error error => simp [ReloadInput.load, hp, hv, Except.bind, Except.map] at h
    | ok done =>
      simp only [ReloadInput.load, hp, hv, Except.bind, Except.map, Except.ok.injEq] at h
      exact ⟨config, h ▸ hv, rfl⟩

lemma distinct_of_load (h : input.load = .ok config) : Distinct config.tunnels :=
  (validTunnels_of_load h).distinct

/-- The listeners fail and are rolled back. -/
lemma unchanged_of_listeners {error : TunnelError} {listeners : ListenerManager}
    (hsound : s.listeners.Sound) (hback : s.RollsBack system input)
    (hload : input.load = .ok config)
    (happly : s.listeners.apply system input.finished config.tunnels = (.error error, listeners)) :
    Unchanged s { s with listeners } := by
  have hreaped := hsound.reapRetired input.finished
  have hnodup := (distinct_of_load hload).1
  rcases ListenerManager.apply_cases system input.finished config.tunnels s.listeners with
    ⟨m', -, heq⟩ | ⟨e, failed, hcall, ⟨m', hroll, heq⟩ | ⟨e', e'', m', hroll, -⟩⟩
  · rw [heq] at happly
    cases happly
  · rw [heq] at happly
    cases happly
    have happlied := ListenerManager.applied_of_applyOnce
      (ListenerManager.nodup_name_order system hreaped.tracked _)
      (ListenerManager.tracked_failed hnodup hreaped hcall) hroll
    have hfailed := ListenerManager.runtime_of_error hcall
    have hruntime : listeners.runtime = s.listeners.runtime := happlied.runtime.trans hfailed
    have hconfigs := ListenerManager.configs_of_applied_order hreaped.tracked happlied
    refine ⟨rfl, rfl, ?_, hconfigs, ?_, ?_⟩
    · simp only [runtimeState, hruntime]
    · intro t
      simp only [runtimeState, hruntime]
    · intro t
      simp only [runtimeState, hruntime]
  · have hok := hback.listeners config e failed hload hcall
    rw [hroll] at hok
    cases hok

/-- A call that succeeds, with the runtime that it leaves. -/
lemma applied_of_apply {m : ListenerManager} {finished : List ℕ} (hsound : m.Sound)
    (hnodup : (configs.map (·.name)).Nodup)
    (hok : (m.apply system finished configs).1 = .ok ()) :
    (m.apply system finished configs).2.runtime = m.runtime.applyTunnels configs ∧
      ∃ m', ListenerManager.Applied configs (m.reapRetired finished) m' ∧
        (m.apply system finished configs).2.active = m'.active := by
  have hreaped := hsound.reapRetired finished
  rcases ListenerManager.apply_cases system finished configs m with
    ⟨m', hcall, heq⟩ | ⟨e, failed, -, ⟨m', -, heq⟩ | ⟨e', e'', m', -, heq⟩⟩
  · have happlied := ListenerManager.applied_of_applyOnce hnodup hreaped.tracked hcall
    rw [heq]
    refine ⟨?_, m', happlied, rfl⟩
    show m'.runtime.applyTunnels configs = _
    rw [happlied.runtime]
    rfl
  · rw [heq] at hok
    cases hok
  · rw [heq] at hok
    cases hok

/-- What has to hold before the switch fails for it to leave no trace: the table of the runtime has
the tunnels of the running listeners, and the new list has every tunnel with an owner, with its
group and its kind. -/
structure Untouched (s : TunnelServer) (config : ServerConfig) : Prop where
  table : ∀ t, s.runtimeState.tunnels.lookup t = (tunnelSpecs s.listeners.configs).lookup t
  owned : ∀ t owner spec, s.runtimeState.owners.lookup t = some owner →
    s.runtimeState.tunnels.lookup t = some spec →
      ∃ c ∈ config.tunnels, c.name = t ∧ c.group = spec.group ∧ c.kind = spec.kind

/-- The switch fails and the previous list is put back. -/
lemma unchanged_iff_of_switchFails (hsound : s.listeners.Sound)
    (hvalid : s.runtimeState.OwnersValid) (hback : s.RollsBack system input)
    (hswitch : s.SwitchFails system input config) :
    Unchanged s { s with listeners :=
        ((s.listeners.apply system input.finished config.tunnels).2.apply system
          input.finishedLater (s.previousTunnels system)).2 } ↔ s.Untouched config := by
  have hnodup := (distinct_of_load hswitch.1).1
  have hprevious := ListenerManager.nodup_name_order system hsound.tracked s.listeners.binds
  obtain ⟨hfirst, -⟩ := applied_of_apply hsound hnodup hswitch.2.2
  have hsound' : (s.listeners.apply system input.finished config.tunnels).2.Sound :=
    hsound.apply hnodup
  obtain ⟨hsecond, restored, happlied, hactive⟩ :=
    applied_of_apply hsound' hprevious (hback.switch config hswitch)
  have hconfigs := ListenerManager.configs_of_applied_order hsound.tracked happlied
  rw [hfirst] at hsecond
  have hperm : ∀ t, (tunnelSpecs (s.previousTunnels system)).lookup t =
      (tunnelSpecs s.listeners.configs).lookup t := fun t =>
    lookup_tunnelSpecs_perm (system.order_perm _ _) hprevious
  constructor
  · rintro ⟨-, -, -, -, htunnels, howners⟩
    simp only [runtimeState, hsecond] at htunnels howners
    have htable : ∀ t, (tunnelSpecs (s.previousTunnels system)).lookup t =
        s.runtimeState.tunnels.lookup t := htunnels
    exact ⟨fun t => (htable t).symm.trans (hperm t),
      (owners_applyTunnels_twice hvalid hnodup htable).mp howners⟩
  · rintro ⟨htable, howned⟩
    have htable' : ∀ t, (tunnelSpecs (s.previousTunnels system)).lookup t =
        s.runtimeState.tunnels.lookup t := fun t => (hperm t).trans (htable t).symm
    refine ⟨rfl, rfl, ?_, ?_, ?_, ?_⟩
    · simp only [runtimeState, hsecond]
      rfl
    · intro name
      rw [hactive]
      exact hconfigs name
    · intro t
      simp only [runtimeState, hsecond]
      exact htable' t
    · simp only [runtimeState, hsecond]
      exact (owners_applyTunnels_twice hvalid hnodup htable').mpr howned

/-! ## Runs -/

inductive ServerEvent where
  | reload (input : ReloadInput)
  /-- A session or the control plane works on the runtime. -/
  | operate (op : TunnelRuntime.Operation)

/-- `run_server_with_runtime` up to the loop: none when the first list of tunnels cannot be
applied. -/
def start (sha256 : GroupSecret → Digest) (system : System) (quic : QuicEndpoint)
    (initial : ServerConfig) : Option TunnelServer :=
  let runtime := TunnelRuntime.new.applyCredentials sha256 initial.credentials
  match initial.validate, (ListenerManager.new runtime).apply system [] initial.tunnels with
  | .ok (), (.ok (), listeners) => some ⟨quic, initial.credentials, listeners⟩
  | _, _ => none

def step (sha256 : GroupSecret → Digest) (system : System) (s : TunnelServer) :
    ServerEvent → Option TunnelServer
  | .reload input => some (s.reload sha256 system input).2
  | .operate op =>
    some { s with listeners := { s.listeners with
      runtime := s.listeners.runtime.perform sha256 op } }

/-- New sessions get fresh ids and connections. -/
def Admissible (s : TunnelServer) : ServerEvent → Prop
  | .reload _ => True
  | .operate op => s.listeners.runtime.FreshSessions op

instance (s : TunnelServer) : (e : ServerEvent) → Decidable (s.Admissible e)
  | .reload _ => inferInstanceAs (Decidable True)
  | .operate op => inferInstanceAs (Decidable (s.listeners.runtime.FreshSessions op))

structure Invariant (s : TunnelServer) : Prop where
  sound : s.listeners.Sound
  consistent : s.runtimeState.Consistent

/-- A call of `apply` leaves the runtime as it is or gives it the new table. -/
lemma runtime_apply (system : System) {m : ListenerManager} (finished : List ℕ)
    (hsound : m.Sound) (hnodup : (configs.map (·.name)).Nodup) :
    (m.apply system finished configs).2.runtime = m.runtime ∨
      (m.apply system finished configs).2.runtime = m.runtime.applyTunnels configs := by
  have hreaped := hsound.reapRetired finished
  rcases ListenerManager.apply_cases system finished configs m with
    ⟨m', -, heq⟩ | ⟨e, failed, hcall, ⟨m', hroll, heq⟩ | ⟨e', e'', m', hroll, heq⟩⟩
  · exact .inr (applied_of_apply hsound hnodup (by rw [heq])).1
  · refine .inl ?_
    have happlied := ListenerManager.applied_of_applyOnce
      (ListenerManager.nodup_name_order system hreaped.tracked _)
      (ListenerManager.tracked_failed hnodup hreaped hcall) hroll
    have hfailed := ListenerManager.runtime_of_error hcall
    rw [heq]
    exact happlied.runtime.trans hfailed
  · refine .inl ?_
    have hrolled := ListenerManager.runtime_of_error hroll
    have hfailed := ListenerManager.runtime_of_error hcall
    rw [heq]
    exact hrolled.trans hfailed

lemma Invariant.apply (h : s.Invariant) {finished : List ℕ}
    (hnodup : (configs.map (·.name)).Nodup) {quic : QuicEndpoint}
    {groups : List (String × GroupSecret)} :
    Invariant ⟨quic, groups, (s.listeners.apply system finished configs).2⟩ := by
  refine ⟨h.sound.apply hnodup, ?_⟩
  show (s.listeners.apply system finished configs).2.runtime.state.Consistent
  rcases runtime_apply system finished h.sound hnodup with heq | heq
  · rw [heq]
    exact h.consistent
  · rw [heq]
    exact consistent_applyTunnels h.consistent configs

lemma Invariant.finish (h : s.Invariant) : (s.finish sha256 config).Invariant :=
  ⟨h.sound.withRuntime _, consistent_applyCredentials h.consistent _⟩

lemma Invariant.putBack (h : s.Invariant) {finished : List ℕ} {error : TunnelError}
    (hnodup : (previous.map (·.name)).Nodup) :
    (s.putBack system finished previous error).2.Invariant := by
  have happly : Invariant ⟨s.quic, s.groups, (s.listeners.apply system finished previous).2⟩ :=
    h.apply hnodup
  unfold TunnelServer.putBack
  split
  case h_1 listeners heq =>
    rw [heq] at happly
    exact happly
  case h_2 rollbackError listeners heq =>
    rw [heq] at happly
    exact happly

lemma Invariant.reload (h : s.Invariant) : (s.reload sha256 system input).2.Invariant := by
  have hprevious := ListenerManager.nodup_name_order system h.sound.tracked s.listeners.binds
  unfold TunnelServer.reload
  split
  · exact h
  case h_2 config hload =>
    split
    · exact h
    case h_2 update hprepare =>
      have hnodup := (distinct_of_load hload).1
      have happly : ∀ quic, Invariant ⟨quic, s.groups,
          (s.listeners.apply system input.finished config.tunnels).2⟩ := fun quic => h.apply hnodup
      unfold applyUpdate
      split
      case h_1 error listeners heq =>
        rw [heq] at happly
        exact happly s.quic
      case h_2 listeners heq =>
        rw [heq] at happly
        split
        · exact (happly s.quic).finish
        · split
          case h_1 error quic hquic => exact (happly quic).putBack hprevious
          case h_2 quic hquic => exact (happly quic).finish

lemma invariant_start {quic : QuicEndpoint} {initial : ServerConfig}
    (h : start sha256 system quic initial = some s) : s.Invariant := by
  simp only [start] at h
  split at h
  case h_2 => cases h
  case h_1 listeners hvalid happly =>
    cases h
    have hnew : Invariant ⟨quic, initial.credentials, .new
        (TunnelRuntime.new.applyCredentials sha256 initial.credentials)⟩ :=
      ⟨ListenerManager.sound_new _, consistent_applyCredentials consistent_new _⟩
    have hnodup : (initial.tunnels.map (·.name)).Nodup :=
      (ValidTunnels.nodup ⟨initial, hvalid, rfl⟩).1
    have happlied : Invariant ⟨quic, initial.credentials, ((ListenerManager.new
        (TunnelRuntime.new.applyCredentials sha256 initial.credentials)).apply system []
          initial.tunnels).2⟩ := hnew.apply hnodup
    rw [happly] at happlied
    exact happlied

lemma Invariant.step {e : ServerEvent} (h : s.Invariant) (hok : s.Admissible e)
    (hstep : s.step sha256 system e = some s') : s'.Invariant := by
  cases e with
  | reload input =>
    cases hstep
    exact h.reload
  | operate op =>
    cases hstep
    exact ⟨h.sound.withRuntime _, consistent_perform h.consistent hok⟩

/-- **When a reload that fails changes nothing.**  In every reachable state, for every file and
every stage that fails, as long as the listeners can be put back: everything is as before exactly
if the failing stage is not the switch of the QUIC socket, or the runtime has the tunnels of the
running listeners and the new list keeps every tunnel with an owner. -/
theorem failed_reload_unchanged_iff {quic : QuicEndpoint} {initial : ServerConfig}
    {s₀ : TunnelServer} (hstart : start sha256 system quic initial = some s₀)
    (hreach : Reach (step sha256 system) Admissible s₀ s) (hback : s.RollsBack system input)
    (hfail : s.reload sha256 system input = (.error message, s')) :
    Unchanged s s' ↔ ∀ config, s.SwitchFails system input config → s.Untouched config := by
  have hinv : s.Invariant := hreach.invariant (invariant_start hstart)
    fun _ _ _ hI hok hstep => hI.step hok hstep
  rcases reload_error_cases hfail with
    ⟨rfl, hnone⟩ | ⟨config, error, listeners, hload, happly, rfl⟩ | ⟨config, hswitch, rfl⟩
  · exact iff_of_true (.refl _) fun config hswitch => absurd hswitch (hnone config)
  · refine iff_of_true (unchanged_of_listeners hinv.sound hback hload happly) ?_
    intro config' hswitch
    obtain rfl := Except.ok.inj (hload.symm.trans hswitch.1)
    have hok := hswitch.2.2
    rw [happly] at hok
    cases hok
  · rw [unchanged_iff_of_switchFails hinv.sound hinv.consistent.owners hback hswitch]
    constructor
    · intro h config' hswitch'
      obtain rfl := Except.ok.inj (hswitch.1.symm.trans hswitch'.1)
      exact h
    · exact fun h => h config hswitch

/-! ## A switch that fails -/

/-- Where every address can be bound, the listeners can be applied. -/
lemma applyOnce_ok_of_binds
    (hsystem : ∀ released call endpoint, system.bind released call endpoint = .ok ())
    (configs : List ServerTunnelConfig) (m : ListenerManager) :
    (ListenerManager.applyOnce system configs m).1 = .ok () := by
  have hphase : ∀ (configs : List ServerTunnelConfig) (m : ListenerManager),
      ∃ m', Except.untilError (ListenerManager.startMissing system) configs m = (.ok (), m') := by
    intro configs
    induction configs with
    | nil => exact fun m => ⟨m, rfl⟩
    | cons c configs ih =>
      intro m
      rcases ListenerManager.startMissing_cases system c m with ⟨-, heq⟩ | ⟨-, limiter, limiters,
        nextId, -, ⟨error, hbind, -⟩ | ⟨-, heq⟩⟩
      · rw [Except.untilError_cons_ok heq]
        exact ih m
      · rw [hsystem] at hbind
        cases hbind
      · rw [Except.untilError_cons_ok heq]
        exact ih _
  obtain ⟨m', hm'⟩ := hphase configs ((m.removed configs).foldl ListenerManager.stop m)
  simp only [ListenerManager.applyOnce, hm']

lemma rollsBack_of_binds
    (hsystem : ∀ released call endpoint, system.bind released call endpoint = .ok ()) :
    s.RollsBack system input where
  listeners config e failed _ _ := applyOnce_ok_of_binds hsystem _ _
  switch config _ := by
    have hok := applyOnce_ok_of_binds hsystem (s.previousTunnels system)
      ((s.listeners.apply system input.finished config.tunnels).2.reapRetired input.finishedLater)
    rcases ListenerManager.apply_cases system input.finishedLater (s.previousTunnels system)
      (s.listeners.apply system input.finished config.tunnels).2 with
      ⟨m', -, heq⟩ | ⟨e, failed, hcall, -⟩
    · rw [heq]
    · rw [hcall] at hok
      cases hok

def freeSystem : System := ListenerManager.sampleSystem fun _ _ _ => false

lemma freeSystem_binds (released : List (Transport × SocketAddr)) (call : ℕ)
    (endpoint : Transport × SocketAddr) : freeSystem.bind released call endpoint = .ok () := rfl

/-- One group and the given tunnels, with the QUIC endpoint on the given port. -/
def officeConfig (port : UInt16) (tunnels : List ServerTunnelConfig) : ServerConfig where
  quic := ⟨samplePeer port, "server.pem", "server.key"⟩
  groups := [⟨"office", "AAAAAAAAAAAAAAAAAAAAAAAAAAAAAAAA"⟩]
  tunnels := tunnels

def officeEndpoint : QuicEndpoint :=
  ⟨samplePeer 4433, (officeConfig 4433 []).quic, ⟨⟨[[]], []⟩, []⟩⟩

/-- A file with another port for the endpoint, which cannot be switched to. -/
def movingReload (tunnels : List ServerTunnelConfig) : ReloadInput where
  parsed := .ok (officeConfig 4434 tunnels)
  credentials := .ok ⟨⟨[[]], []⟩, []⟩
  bound := .ok ()
  rebound := .error (.io "Invalid argument (os error 22)")
  finished := []
  finishedLater := []

/-- A session declares the tunnel `web` and owns it. -/
def officeSession : ServerEvent :=
  .operate (.register 1 "first" "office" (sampleSha256 sampleKey) ⟨1, samplePeer 5001⟩
    [⟨"web", .tcp⟩] 0)

/-- The server with the session. -/
def officeServer : Option TunnelServer :=
  (start sampleSha256 freeSystem officeEndpoint
    (officeConfig 4433 [sampleTunnel "web" 8080])).bind fun s₀ =>
      exec (step sampleSha256 freeSystem) Admissible s₀ [officeSession]

lemma reach_officeServer (h : officeServer = some s) :
    ∃ s₀, start sampleSha256 freeSystem officeEndpoint
        (officeConfig 4433 [sampleTunnel "web" 8080]) = some s₀ ∧
      Reach (step sampleSha256 freeSystem) Admissible s₀ s := by
  obtain ⟨s₀, hs₀, hrun⟩ := Option.bind_eq_some_iff.mp h
  exact ⟨s₀, hs₀, reach_of_exec hrun⟩

/-- The condition of the theorem, checked on the entries of the maps. -/
def isUntouched (s : TunnelServer) (config : ServerConfig) : Bool :=
  s.runtimeState.tunnels.entries = (tunnelSpecs s.listeners.configs).entries &&
    s.runtimeState.owners.entries.all fun e =>
      (s.runtimeState.tunnels.lookup e.1).all fun spec =>
        config.tunnels.any fun c => c.name = e.1 && c.group = spec.group && c.kind = spec.kind

lemma untouched_of_isUntouched (h : s.isUntouched config = true) : s.Untouched config := by
  simp only [isUntouched, Bool.and_eq_true, decide_eq_true_eq, List.all_eq_true, Option.all_eq_true,
    List.any_eq_true] at h
  obtain ⟨htable, howned⟩ := h
  have heq : s.runtimeState.tunnels = tunnelSpecs s.listeners.configs := AList.ext htable
  refine ⟨fun t => by rw [heq], ?_⟩
  intro t owner spec howner hspec
  obtain ⟨c, hc, ⟨hname, hgroup⟩, hkind⟩ :=
    howned ⟨t, owner⟩ (AList.lookup_eq_some_iff.mp howner) spec hspec
  exact ⟨c, hc, hname, hgroup, hkind⟩

/-- The switch fails, and the session keeps `web`, which is in the new list. -/
theorem failed_switch_keeps_web :
    ∃ s s' message, officeServer = some s ∧
      s.reload sampleSha256 freeSystem
        (movingReload [sampleTunnel "web" 8080, sampleTunnel "ssh" 2222]) = (.error message, s') ∧
      Unchanged s s' := by
  have hrun : officeServer.map (fun s =>
      (s.isUntouched (officeConfig 4434 [sampleTunnel "web" 8080, sampleTunnel "ssh" 2222]),
        (s.reload sampleSha256 freeSystem
          (movingReload [sampleTunnel "web" 8080, sampleTunnel "ssh" 2222])).1)) =
      some (true, .error "I/O 错误: Invalid argument (os error 22)") := by decide +kernel
  obtain ⟨s, hs, hview⟩ := Option.map_eq_some_iff.mp hrun
  obtain ⟨huntouched, herror⟩ := Prod.mk.inj hview
  obtain ⟨s₀, hs₀, hreach⟩ := reach_officeServer hs
  have hcall : s.reload sampleSha256 freeSystem
      (movingReload [sampleTunnel "web" 8080, sampleTunnel "ssh" 2222]) = (.error _, _) :=
    Prod.ext herror rfl
  refine ⟨s, _, _, hs, hcall, ?_⟩
  refine (failed_reload_unchanged_iff hs₀ hreach (rollsBack_of_binds freeSystem_binds) hcall).mpr ?_
  intro config hswitch
  have hload : (movingReload [sampleTunnel "web" 8080, sampleTunnel "ssh" 2222]).load =
      .ok (officeConfig 4434 [sampleTunnel "web" 8080, sampleTunnel "ssh" 2222]) := by
    decide +kernel
  obtain rfl := Except.ok.inj (hload.symm.trans hswitch.1)
  exact untouched_of_isUntouched huntouched

/-- The switch fails, and the session has lost `web`, which is not in the new list. -/
theorem failed_switch_loses_web :
    ¬ ∀ (sha256 : GroupSecret → Digest) (system : System) (quic : QuicEndpoint)
      (initial : ServerConfig) (s₀ s s' : TunnelServer) (input : ReloadInput) (message : String),
      start sha256 system quic initial = some s₀ → Reach (step sha256 system) Admissible s₀ s →
      s.RollsBack system input → s.reload sha256 system input = (.error message, s') →
      Unchanged s s' := by
  intro hunchanged
  have hrun : officeServer.map (fun s =>
      let result := s.reload sampleSha256 freeSystem (movingReload [sampleTunnel "ssh" 2222])
      (result.1, s.runtimeState.owners.lookup "web",
        result.2.runtimeState.owners.lookup "web")) =
      some (.error "I/O 错误: Invalid argument (os error 22)", some ⟨1, 0⟩, none) := by
    decide +kernel
  obtain ⟨s, hs, hview⟩ := Option.map_eq_some_iff.mp hrun
  obtain ⟨herror, howners⟩ := Prod.mk.inj hview
  obtain ⟨hbefore, hafter⟩ := Prod.mk.inj howners
  obtain ⟨s₀, hs₀, hreach⟩ := reach_officeServer hs
  have hcall : s.reload sampleSha256 freeSystem (movingReload [sampleTunnel "ssh" 2222]) =
      (.error _, _) := Prod.ext herror rfl
  have hsame := (hunchanged _ _ _ _ _ _ _ _ _ hs₀ hreach (rollsBack_of_binds freeSystem_binds)
    hcall).owners "web"
  rw [hbefore, hafter] at hsame
  cases hsame

end TunnelServer

end GateRust.Tunnel
