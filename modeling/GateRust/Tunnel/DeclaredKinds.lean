/-
# The kinds of services

A service has a kind on both sides: the session declares it to the server, and the client has
it in its configuration and in the map that its streams are looked up in.  This file follows
the kinds through the operations of the runtime, the steps of the session task and the steps
of the client.  A kind that was not there before comes with a registration, with an update
that the session task reads, or with an update that the client starts.
-/
import GateRust.Tunnel.ClientRequests

namespace GateRust.Tunnel

open Machine RuntimeState

/-! ## Declared kinds -/

namespace RuntimeState

variable {st : RuntimeState} {id : SessionId} {n : String} {κ : TunnelKind}

/-- The kind with which the session declares the service. -/
def declared (st : RuntimeState) (id : SessionId) (n : String) : Option TunnelKind :=
  (st.sessions.lookup id).bind (·.services.lookup n)

lemma declared_removeSession {id' : SessionId}
    (h : (st.removeSession id').declared id n = some κ) : st.declared id n = some κ := by
  simp only [declared, removeSession, releaseSession, AList.lookup_erase_eq] at h
  split at h
  · simp at h
  · exact h

lemma declared_modifyServices {id' : SessionId}
    {f : HashMap String TunnelKind → HashMap String TunnelKind} (hne : id ≠ id') :
    (st.modifyServices id' f).declared id n = st.declared id n := by
  rw [declared, declared, modifyServices, AList.lookup_modify, if_neg hne]

end RuntimeState

namespace TunnelRuntime

variable {sha256 : GroupSecret → Digest} {rt : TunnelRuntime} {id : SessionId} {n : String}
  {κ : TunnelKind}

/-- A registration declares the services of the hello for its own session only. -/
lemma declared_register {id' : SessionId} {deviceId group : String} {digest : Digest}
    {connection : Connection} {services : List ServiceDeclaration} {now : UInt64}
    (h : (rt.register id' deviceId group digest connection services now).2.state.declared id n =
      some κ) :
    rt.state.declared id n = some κ ∨
      (id = id' ∧ (serviceMap services).lookup n = some κ) := by
  unfold register at h
  split_ifs at h
  · exact Or.inl h
  · exact Or.inl h
  · exact Or.inl h
  · simp only [TunnelRuntime.notify, TunnelRuntime.claimAvailable, declared, insertSession,
      AList.lookup_insert_eq] at h
    split at h
    · rename_i hid
      exact Or.inr ⟨hid, h⟩
    · exact Or.inl h

/-- An update declares its services for its own session only. -/
lemma declared_updateServices {id' : SessionId} {services : List ServiceDeclaration}
    (h : (rt.updateServices id' services).2.state.declared id n = some κ) :
    rt.state.declared id n = some κ ∨
      (id = id' ∧ (serviceMap services).lookup n = some κ) := by
  unfold updateServices at h
  cases hs : rt.state.sessions.lookup id' with
  | none =>
    rw [hs] at h
    exact Or.inl h
  | some session =>
    simp only [hs, state_notify_if] at h
    have hmodify : (rt.state.modifyServices id' fun _ => serviceMap services).declared id n =
        some κ := h
    by_cases hid : id = id'
    · subst hid
      simp only [declared, modifyServices, AList.lookup_modify, if_true, hs, Option.map_some]
        at hmodify
      exact Or.inr ⟨rfl, hmodify⟩
    · rw [declared_modifyServices hid] at hmodify
      exact Or.inl hmodify

lemma declared_removed {st : RuntimeState} {id' : SessionId}
    (hst : st = rt.state ∨ st = rt.state.removeSession id') (h : st.declared id n = some κ) :
    rt.state.declared id n = some κ := by
  rcases hst with rfl | rfl
  · exact h
  · exact declared_removeSession h

/-- **Only its own task makes a session declare something new.** -/
lemma declared_perform {op : Operation} (hop : ¬op.Claims id)
    (h : (rt.perform sha256 op).state.declared id n = some κ) :
    rt.state.declared id n = some κ := by
  cases op with
  | register id' =>
    rcases declared_register h with hold | ⟨hid, -⟩
    · exact hold
    · exact absurd hid.symm hop
  | updateServices id' services =>
    rcases declared_updateServices h with hold | ⟨hid, -⟩
    · exact hold
    · exact absurd hid.symm hop
  | unregister id' => exact declared_removed (unregister_state rt id') h
  | disconnect id' => exact declared_removed (disconnect_state rt id') h
  | disconnectTunnel id' tunnel =>
    rcases disconnectTunnel_cases rt id' tunnel with ⟨_, heq⟩ | ⟨_, -, -, -, heq⟩
    · rw [perform, heq] at h
      exact h
    · rw [perform, heq] at h
      have hmodify : (rt.state.modifyServices id' (·.erase tunnel)).declared id n = some κ := h
      by_cases hid : id = id'
      · subst hid
        simp only [declared, modifyServices, AList.lookup_modify, if_true] at hmodify
        obtain ⟨session, hsession, hlookup⟩ := Option.bind_eq_some_iff.mp hmodify
        obtain ⟨session', hsession', rfl⟩ := Option.map_eq_some_iff.mp hsession
        simp only [AList.lookup_erase_eq] at hlookup
        split at hlookup
        · simp at hlookup
        · rw [declared, hsession']
          exact hlookup
      · rw [declared_modifyServices hid] at hmodify
        exact hmodify
  | applyTunnels configs => exact h
  | applyCredentials credentials =>
    rw [perform, applyCredentials_state] at h
    refine revoke_induction (P := fun st => st.declared id n = some κ →
      rt.state.declared id n = some κ) (fun st i hst hi => hst (declared_removeSession hi)) ?_ _ h
    exact fun hold => hold

end TunnelRuntime

/-! ## Steps of the session task -/

namespace ServerSession

variable {sha256 : GroupSecret → Digest} {s s' : ServerSession} {e : Event} {id : SessionId}
  {n : String} {κ : TunnelKind}

/-- The operations that a step can call. -/
inductive Performs (s : ServerSession) : Event → TunnelRuntime.Operation → Prop
  | operate (op : TunnelRuntime.Operation) : Performs s (.operate op) op
  | register {deviceId group : String} {digest : Digest} {connection : Connection}
      {services : List ServiceDeclaration} {now : UInt64} (hphase : s.phase = .subscribed) :
      Performs s (.register deviceId group digest connection services now)
        (.register s.id deviceId group digest connection services now)
  | update {requestId : UInt64} {services : List ServiceDeclaration} :
      Performs s (.update requestId services) (.updateServices s.id services)
  | unregister {e : Event} : Performs s e (.unregister s.id)

lemma state_of_step (h : s.step sha256 e = some s') :
    s'.runtime.value.state = s.runtime.value.state ∨ ∃ op, s.Performs e op ∧
      s'.runtime.value.state = (s.runtime.value.perform sha256 op).state := by
  have hleave : ∃ op, s.Performs e op ∧
      s.leave.runtime.value.state = (s.runtime.value.perform sha256 op).state :=
    ⟨.unregister s.id, .unregister, rfl⟩
  cases steps_of_step h with
  | operate op => exact Or.inr ⟨op, .operate op, rfl⟩
  | registered hphase => exact Or.inr ⟨_, .register hphase, rfl⟩
  | updated => exact Or.inr ⟨_, .update, rfl⟩
  | refused | finished => exact Or.inr hleave
  | notify | subscribe | rejected | notifyOwn | observe | read | write | changed | abandoned =>
    exact Or.inl rfl

lemma consistent_of_step (h : s.runtime.value.state.Consistent) (hfresh : s.FreshSessions e)
    (hstep : s.step sha256 e = some s') : s'.runtime.value.state.Consistent := by
  rcases state_of_step hstep with hsame | ⟨op, hop, hstate⟩
  · exact hsame ▸ h
  · rw [hstate]
    refine TunnelRuntime.consistent_perform h ?_
    cases hop with
    | operate | register => exact hfresh
    | update | unregister => trivial

/-- The session of another task does not appear in the runtime. -/
lemma not_mem_of_step (h : id ∉ s.runtime.value.state.sessions) (hid : id ≠ s.id)
    (hclaims : ∀ op, e = .operate op → ¬op.Claims id) (hstep : s.step sha256 e = some s') :
    id ∉ s'.runtime.value.state.sessions := by
  rcases state_of_step hstep with hsame | ⟨op, hop, hstate⟩
  · exact hsame ▸ h
  · rw [hstate]
    refine TunnelRuntime.not_mem_sessions_perform h ?_
    cases hop with
    | operate op => exact hclaims op rfl
    | register | update => exact hid.symm
    | unregister => exact fun hclaims => hclaims

/-- Nothing is written before the session is registered. -/
lemma written_of_unregistered (hstep : s.step sha256 e = some s') (hnew : s'.Unregistered) :
    s'.written = s.written := by
  cases steps_of_step hstep with
  | operate | notify | subscribe => rfl
  | registered | updated => exact absurd hnew not_unregistered_operateOwn
  | rejected | notifyOwn | observe | read | write | changed | abandoned | refused | finished =>
    simp [Unregistered, leave, ServerSession.operate] at hnew

/-- The event declares services for the session of the task. -/
def Declares (s : ServerSession) (services : List ServiceDeclaration) : Event → Prop
  | .register _ _ _ _ declared _ => s.phase = .subscribed ∧ declared = services
  | .update _ declared => declared = services
  | _ => False

/-- What a session declares after a step, it has declared before, or the step declares it. -/
lemma declared_of_step (hclaims : ∀ op, e = .operate op → ¬op.Claims id)
    (hstep : s.step sha256 e = some s') (h : s'.runtime.value.state.declared id n = some κ) :
    s.runtime.value.state.declared id n = some κ ∨
      id = s.id ∧ ∃ services, s.Declares services e ∧ (serviceMap services).lookup n = some κ := by
  rcases state_of_step hstep with hsame | ⟨op, hop, hstate⟩
  · exact Or.inl (hsame ▸ h)
  · rw [hstate] at h
    cases hop with
    | operate op => exact Or.inl (TunnelRuntime.declared_perform (hclaims op rfl) h)
    | @register _ _ _ _ services _ hphase =>
      rcases TunnelRuntime.declared_register h with hold | ⟨hid, hkind⟩
      · exact Or.inl hold
      · exact Or.inr ⟨hid, services, ⟨hphase, rfl⟩, hkind⟩
    | @update _ services =>
      rcases TunnelRuntime.declared_updateServices h with hold | ⟨hid, hkind⟩
      · exact Or.inl hold
      · exact Or.inr ⟨hid, services, rfl, hkind⟩
    | unregister =>
      exact Or.inl (TunnelRuntime.declared_removed
        (TunnelRuntime.unregister_state s.runtime.value s.id) h)

end ServerSession

/-! ## Kinds in the client -/

namespace Client

variable {s s' : Client} {config : ClientConfig} {c : Connected} {e : Event} {n : String}
  {κ : TunnelKind}

/-- The kinds of the services, as the server has them when they are declared. -/
def kinds (services : List ClientServiceConfig) : HashMap String TunnelKind :=
  Tunnel.serviceMap (declarations services)

lemma lookup_kinds (services : List ClientServiceConfig) (n : String) :
    (kinds services).lookup n =
      (services.reverse.find? fun service => service.name = n).map (·.kind) := by
  rw [kinds, Tunnel.serviceMap, AList.lookup_ofList, declarations, List.map_map,
    ← List.map_reverse, List.find?_map, Option.map_map]
  rfl

lemma lookup_serviceMap_eq (services : List ClientServiceConfig) (n : String) :
    (serviceMap services).lookup n =
      services.reverse.find? fun service => service.name = n := by
  rw [serviceMap, AList.lookup_ofList, ← List.map_reverse, List.find?_map, Option.map_map]
  exact Option.map_id'

/-- The map of the client and the declaration to the server give a name the same kind. -/
lemma kind_serviceMap (services : List ClientServiceConfig) (n : String) :
    ((serviceMap services).lookup n).map (·.kind) = (kinds services).lookup n := by
  rw [lookup_serviceMap_eq, lookup_kinds]

/-- The entry under a name has the name. -/
lemma name_of_lookup_serviceMap {services : List ClientServiceConfig}
    {service : ClientServiceConfig} (h : (serviceMap services).lookup n = some service) :
    service.name = n := by
  rw [lookup_serviceMap_eq] at h
  simpa using List.find?_some h

lemma mem_of_lookup_kinds {services : List ClientServiceConfig}
    (h : (kinds services).lookup n = some κ) :
    ∃ service ∈ services, service.name = n ∧ service.kind = κ := by
  rw [lookup_kinds] at h
  obtain ⟨service, hfind, hkind⟩ := Option.map_eq_some_iff.mp h
  have hname := List.find?_some hfind
  refine ⟨service, List.mem_reverse.mp (List.mem_of_find?_eq_some hfind), ?_, hkind⟩
  simpa using hname

/-- Dropping all services of some names does not change the kinds of the others. -/
lemma lookup_kinds_filter {services : List ClientServiceConfig} {names : List String}
    (h : (kinds (services.filter fun service => service.name ∈ names)).lookup n = some κ) :
    (kinds services).lookup n = some κ := by
  rw [lookup_kinds, ← List.filter_reverse, List.find?_filter] at h
  obtain ⟨service, hfind, rfl⟩ := Option.map_eq_some_iff.mp h
  have hname := List.find?_some hfind
  simp only [decide_eq_true_eq] at hname
  have hsame : (fun service : ClientServiceConfig =>
      decide (decide (service.name ∈ names) = true ∧ decide (service.name = n) = true)) =
      fun service => decide (service.name = n) := by
    funext service'
    by_cases hn : service'.name = n
    · simp [hn, hname.2 ▸ hname.1]
    · simp [hn]
  rw [hsame] at hfind
  rw [lookup_kinds, hfind]
  rfl

/-- The kinds that the connected client has for a name, or can have without a further update: a
snapshot or an acknowledgement may make a managed client write its map again, from the
configuration or from the pending update. -/
def Connected.Uses (c : Connected) (managed : Bool) (config : ClientConfig) (n : String)
    (κ : TunnelKind) : Prop :=
  (c.services.lookup n).map (·.kind) = some κ ∨ managed = true ∧
    ((kinds config.services).lookup n = some κ ∨
      ∃ p, c.pending = some p ∧ (kinds p.updated.services).lookup n = some κ)

/-- The client handles streams of the name with the kind, on its connection and without a
further update. -/
def Uses (s : Client) (n : String) (κ : TunnelKind) : Prop :=
  match s.phase with
  | .authenticating config _ => (kinds config.services).lookup n = some κ
  | .connected config c => c.Uses s.managed config n κ
  | .loading _ | .waiting _ | .connecting _ | .retrying _ | .stopped => False

/-- The kind in the configuration to which a snapshot can bring a managed client back. -/
def configured (s : Client) (n : String) : Option TunnelKind :=
  match s.phase with
  | .connected config _ => if s.managed then (kinds config.services).lookup n else none
  | .loading _ | .waiting _ | .connecting _ | .authenticating .. | .retrying _ | .stopped => none

lemma uses_of_connected (h : s.phase = .connected config c) :
    s.Uses n κ ↔ c.Uses s.managed config n κ := by
  rw [Uses, h]

lemma uses_of_authenticating {helloSent : Bool} (h : s.phase = .authenticating config helloSent) :
    s.Uses n κ ↔ (kinds config.services).lookup n = some κ := by
  rw [Uses, h]

lemma onConnection_of_uses (h : s.Uses n κ) : s.onConnection = true := by
  unfold Uses at h
  split at h
  · rename_i hphase
    rw [onConnection, hphase]
  · rename_i hphase
    exact onConnection_of_connected hphase
  all_goals exact h.elim

lemma configured_eq_some (h : s.configured n = some κ) :
    ∃ config c, s.phase = .connected config c ∧ s.managed = true ∧
      (kinds config.services).lookup n = some κ := by
  unfold configured at h
  split at h
  · rename_i config c hphase
    split at h
    · rename_i hmanaged
      exact ⟨config, c, hphase, hmanaged, h⟩
    · simp at h
  all_goals simp at h

lemma uses_of_configured (h : s.configured n = some κ) : s.Uses n κ := by
  obtain ⟨config, c, hphase, hmanaged, hkind⟩ := configured_eq_some h
  rw [uses_of_connected hphase]
  exact Or.inr ⟨hmanaged, Or.inl hkind⟩

/-! ## What a step does to the kinds -/

lemma lookup_kinds_retained {services : HashMap String ClientServiceConfig}
    {tunnels : List ClientTunnel}
    (h : (kinds (s.retained config services tunnels).1.services).lookup n = some κ) :
    (kinds config.services).lookup n = some κ := by
  simp only [retained, retainEnabledServices] at h
  split at h
  · split at h <;> exact lookup_kinds_filter h
  · exact h

lemma kind_retained {services : HashMap String ClientServiceConfig} {tunnels : List ClientTunnel}
    (h : ((s.retained config services tunnels).2.lookup n).map (·.kind) = some κ) :
    (services.lookup n).map (·.kind) = some κ ∨
      s.managed = true ∧ (kinds config.services).lookup n = some κ := by
  simp only [retained, retainEnabledServices] at h
  split at h
  · rename_i hmanaged
    split at h
    · rw [kind_serviceMap] at h
      exact Or.inr ⟨hmanaged, lookup_kinds_filter h⟩
    · exact Or.inl h
  · exact Or.inl h

lemma uses_onMessage {m : ServerControlMessage} (hphase : s.phase = .connected config c)
    (h : (s.onMessage config c m).Uses n κ) : s.Uses n κ := by
  rw [uses_of_connected hphase]
  have hended : ∀ r, ¬(s.endConnection config r).Uses n κ := fun r hr => by
    simpa using onConnection_of_uses hr
  cases m with
  | tunnelSnapshot tunnels =>
    rcases h with hentry | ⟨hmanaged, hconfig | hpending⟩
    · exact (kind_retained hentry).imp_right fun ⟨hm, hkind⟩ => ⟨hm, Or.inl hkind⟩
    · exact Or.inr ⟨hmanaged, Or.inl (lookup_kinds_retained hconfig)⟩
    · exact Or.inr ⟨hmanaged, Or.inr hpending⟩
  | servicesApplied requestId tunnels =>
    unfold onMessage at h
    cases hp : c.pending with
    | none =>
      rw [hp] at h
      exact absurd h (hended _)
    | some p =>
      simp only [hp] at h
      split at h
      · exact absurd h (hended _)
      · have hpending : ∀ hkind : (kinds p.updated.services).lookup n = some κ,
            ∃ p', c.pending = some p' ∧ (kinds p'.updated.services).lookup n = some κ :=
          fun hkind => ⟨p, hp, hkind⟩
        rcases h with hentry | ⟨hmanaged, hconfig | ⟨p', hp', -⟩⟩
        · exact (kind_retained hentry).imp_right fun ⟨hm, hkind⟩ => ⟨hm, Or.inr (hpending hkind)⟩
        · refine Or.inr ⟨?_, Or.inr (hpending (lookup_kinds_retained hconfig))⟩
          simpa [stay, online] using hmanaged
        · simp at hp'

/-- After the start of an update the map has its services. -/
lemma uses_startUpdate {updated : ClientConfig} {response : Option ℕ}
    {write : Except TunnelError Unit}
    (h : (s.startUpdate config c updated response write).Uses n κ) :
    write = .ok () ∧ ((kinds updated.services).lookup n = some κ ∨
      s.managed = true ∧ (kinds config.services).lookup n = some κ) := by
  cases write with
  | error error => simpa [startUpdate, beginServiceUpdate] using onConnection_of_uses h
  | ok =>
    refine ⟨rfl, ?_⟩
    rcases h with hentry | ⟨hmanaged, hconfig | ⟨p, hp, hkind⟩⟩
    · exact Or.inl ((kind_serviceMap updated.services n).symm.trans hentry)
    · exact Or.inr ⟨hmanaged, hconfig⟩
    · obtain rfl := Option.some.inj hp
      exact Or.inl hkind

/-- The event starts no update, and the kinds in use afterwards were in use before; or it starts
an update, and the kinds in use are those of the update and of the configuration. -/
def KindsFrom (s : Client) (e : Event) (n : String) (κ : TunnelKind) : Prop :=
  (s.nextServices e = none ∧ s.Uses n κ) ∨ ∃ services, s.nextServices e = some services ∧
    ((kinds services).lookup n = some κ ∨ s.configured n = some κ)

lemma kindsFrom_startUpdate (hphase : s.phase = .connected config c) (s₀ : Client)
    (hmanaged : s₀.managed = s.managed) {updated : ClientConfig} {response : Option ℕ}
    {write : Except TunnelError Unit}
    (hnext : write = .ok () → s.nextServices e = some updated.services)
    (h : (s₀.startUpdate config c updated response write).Uses n κ) : s.KindsFrom e n κ := by
  obtain ⟨hok, hkinds⟩ := uses_startUpdate h
  refine Or.inr ⟨updated.services, hnext hok, hkinds.imp_right fun ⟨hm, hkind⟩ => ?_⟩
  rw [configured, hphase]
  rw [hmanaged] at hm
  simp only [hm, if_true]
  exact hkind

lemma kindsFrom_onChanged {write : Except TunnelError Unit} (hwatches : s.phase.watches = true)
    (h : (s.select.onChanged write).Uses n κ) : s.KindsFrom (.changed write) n κ := by
  have hended : ∀ {s₀ : Client} config r, ¬(s₀.endConnection config r).Uses n κ :=
    fun config r hr => by simpa using onConnection_of_uses hr
  cases hp : s.phase with
  | connected config c =>
    have hphase : s.select.phase = .connected config c := hp
    have hfile : s.select.watcher.file = s.watcher.file := rfl
    simp only [onChanged, hphase, hfile] at h
    cases hupdated : s.watcher.file with
    | error error =>
      simp only [hupdated] at h
      exact absurd h (hended _ _)
    | ok updated =>
      simp only [hupdated] at h
      split at h
      · exact absurd h (hended _ _)
      · rename_i hsame
        split at h
        · rename_i hmanaged
          have hmanaged' : s.managed = true := hmanaged
          refine Or.inl ⟨?_, (uses_of_connected hp).mpr ?_⟩
          · cases write with
            | error error => rfl
            | ok => simp [nextServices, hp, hupdated, hmanaged']
          · have hload : s.select.load.managed = s.managed := by simp [select]
            exact hload ▸ h
        · rename_i hmanaged
          have hmanaged' : ¬s.managed = true := hmanaged
          refine kindsFrom_startUpdate hp s.select.load (by simp [select]) ?_ h
          rintro rfl
          simp [nextServices, hp, hupdated, hsame, hmanaged']
  | waiting current =>
    have hphase : s.select.phase = .waiting current := hp
    simp only [onChanged, hphase] at h
    simpa using onConnection_of_uses h
  | connecting config | authenticating config =>
    have hphase : s.select.phase = _ := hp
    simp only [onChanged, hphase] at h
    split at h <;> exact absurd h (hended _ _)
  | retrying config =>
    have hphase : s.select.phase = .retrying config := hp
    simp only [onChanged, hphase] at h
    split at h <;> exact absurd (onConnection_of_uses h) (by simp [connect, onConnection])
  | loading | stopped => simp [hp, Phase.watches] at hwatches

/-- **The kinds in use change with the start of an update only.** -/
lemma kindsFrom_of_step (hconnect : e ≠ .connectionStep (.ok ())) (hstep : s.step e = some s')
    (h : s'.Uses n κ) : s.KindsFrom e n κ := by
  have hended : ∀ (s₀ : Client) config r, ¬(s₀.endConnection config r).Uses n κ :=
    fun s₀ config r hr => by simpa using onConnection_of_uses hr
  cases steps_of_step hstep with
  | fileChanged | notify | takeToken | absorbToken | ignoredCommand | acceptedStream | taskJoined =>
    exact Or.inl ⟨rfl, h⟩
  | changed write hwatches => exact kindsFrom_onChanged hwatches h
  | watcherClosed =>
    unfold onWatcherClosed at h
    split at h
    · exact h.elim
    · exact h.elim
    all_goals first
      | exact absurd h (hended _ _ _)
      | exact Or.inl ⟨rfl, h⟩
  | loadInitial => simpa using onConnection_of_uses h
  | shutdown | retryElapsed => exact h.elim
  | @connectionStep config result hphase =>
    cases result with
    | ok => exact absurd rfl hconnect
    | error error => exact absurd h (hended s.select config (.disconnected error))
  | helloWritten hphase => exact Or.inl ⟨rfl, (uses_of_authenticating hphase).mpr h⟩
  | @authentication config _ result hphase =>
    cases result with
    | accepted tunnels =>
      refine Or.inl ⟨rfl, (uses_of_authenticating hphase).mpr ?_⟩
      rcases h with hentry | ⟨-, hconfig | ⟨p, hp, -⟩⟩
      · exact (kind_serviceMap config.services n).symm.trans hentry
      · exact hconfig
      · simp at hp
    | deviceIdConflict resolved =>
      exact absurd h (hended s.select config (.deviceIdConflict resolved))
    | failed error => exact absurd h (hended s.select config (.disconnected error))
  | deadline | closed | readFailed | acceptFailed => exact absurd h (hended _ _ _)
  | message m hphase =>
    have hphase' : s.select.phase = _ := hphase
    exact Or.inl ⟨rfl, uses_onMessage (s := s.select) hphase' h⟩
  | command services response write hphase =>
    refine kindsFrom_startUpdate hphase s.select rfl ?_ h
    rintro rfl
    rfl
  | commandsClosed hphase => exact Or.inl ⟨rfl, (uses_of_connected hphase).mpr h⟩

/-! ## The connected client -/

/-- How a step leads to the connected session: the client was connected before, and the map is
the old one or one that was written in the step; or the server has just accepted the hello. -/
inductive Online (s : Client) (e : Event) (c' : Connected) : Prop
  | stayed {config : ClientConfig} {c : Connected} (hphase : s.phase = .connected config c)
      (hmap : c'.services = c.services ∨ ∃ services, c'.services = serviceMap services)
  | accepted {tunnels : List ClientTunnel} (he : e = .authentication (.accepted tunnels))
      (hmap : ∃ services, c'.services = serviceMap services)

namespace Online

variable {config' : ClientConfig} {c' : Connected}

/-- The client is not connected after the step. -/
lemma ended (hphase' : s'.phase = .connected config' c') (hoff : s'.onConnection = false) :
    s.Online e c' :=
  absurd (onConnection_of_connected hphase') (by simp [hoff])

lemma same (hphase : s.phase = .connected config c)
    (hphase' : Phase.connected config c = .connected config' c') : s.Online e c' := by
  cases hphase'
  exact .stayed hphase (Or.inl rfl)

lemma startUpdate (hphase : s.phase = .connected config c) {s₀ : Client} {updated : ClientConfig}
    {response : Option ℕ} {write : Except TunnelError Unit}
    (hphase' : (s₀.startUpdate config c updated response write).phase = .connected config' c') :
    s.Online e c' := by
  cases write with
  | error error =>
    exact ended hphase' (by simp [Client.startUpdate, beginServiceUpdate])
  | ok =>
    cases hphase'
    exact .stayed hphase (Or.inr ⟨updated.services, rfl⟩)

lemma retained {s₀ : Client} (services : HashMap String ClientServiceConfig)
    (tunnels : List ClientTunnel) : (s₀.retained config services tunnels).2 = services ∨
      ∃ l, (s₀.retained config services tunnels).2 = serviceMap l := by
  simp only [Client.retained, retainEnabledServices]
  split
  · split
    · exact Or.inr ⟨_, rfl⟩
    · exact Or.inl rfl
  · exact Or.inl rfl

lemma onMessage (hphase : s.phase = .connected config c) {s₀ : Client} {m : ServerControlMessage}
    (hphase' : (s₀.onMessage config c m).phase = .connected config' c') : s.Online e c' := by
  cases m with
  | tunnelSnapshot tunnels =>
    cases hphase'
    exact .stayed hphase (retained c.services tunnels)
  | servicesApplied requestId tunnels =>
    unfold Client.onMessage at hphase'
    cases hp : c.pending with
    | none =>
      rw [hp] at hphase'
      exact ended hphase' (onConnection_endConnection _)
    | some p =>
      simp only [hp] at hphase'
      split at hphase'
      · exact ended hphase' (onConnection_endConnection _)
      · cases hphase'
        exact .stayed hphase (retained c.services tunnels)

lemma onChanged {s₀ : Client} (hphase₀ : s₀.phase = s.phase) {write : Except TunnelError Unit}
    (hwatches : s.phase.watches = true)
    (hphase' : (s₀.onChanged write).phase = .connected config' c') : s.Online e c' := by
  cases hp : s.phase with
  | connected config c =>
    simp only [Client.onChanged, hphase₀.trans hp] at hphase'
    split at hphase'
    · split at hphase'
      · exact ended hphase' (onConnection_endConnection _)
      · split at hphase'
        · exact same hp hphase'
        · exact startUpdate hp hphase'
    · exact ended hphase' (onConnection_endConnection _)
  | waiting current =>
    simp only [Client.onChanged, hphase₀.trans hp] at hphase'
    exact ended hphase' (onConnection_loadInitial _)
  | connecting config | authenticating config =>
    simp only [Client.onChanged, hphase₀.trans hp] at hphase'
    split at hphase' <;> exact ended hphase' (onConnection_endConnection _)
  | retrying config =>
    simp only [Client.onChanged, hphase₀.trans hp] at hphase'
    split at hphase' <;> exact ended hphase' rfl
  | loading | stopped => simp [hp, Phase.watches] at hwatches

end Online

lemma online_of_step {config' : ClientConfig} {c' : Connected} (hstep : s.step e = some s')
    (hphase' : s'.phase = .connected config' c') : s.Online e c' := by
  cases steps_of_step hstep with
  | fileChanged | notify | takeToken | absorbToken => exact .same hphase' rfl
  | ignoredCommand _ _ _ hphase | acceptedStream hphase | taskJoined hphase =>
    exact .same hphase' rfl
  | changed write hwatches =>
    have hphase₀ : s.select.phase = s.phase := rfl
    exact .onChanged hphase₀ hwatches hphase'
  | watcherClosed =>
    unfold onWatcherClosed at hphase'
    split at hphase'
    · exact .ended hphase' rfl
    · exact .ended hphase' rfl
    all_goals first
      | exact .ended hphase' (onConnection_endConnection _)
      | exact .same hphase' rfl
  | loadInitial => exact .ended hphase' (onConnection_loadInitial _)
  | shutdown | retryElapsed => exact .ended hphase' rfl
  | @connectionStep config result hphase => cases result <;> cases hphase'
  | helloWritten => cases hphase'
  | @authentication config _ result hphase =>
    cases result with
    | accepted tunnels =>
      cases hphase'
      exact .accepted rfl ⟨_, rfl⟩
    | deviceIdConflict resolved =>
      exact .ended hphase' (by simp [onAuthentication])
    | failed error => exact .ended hphase' (by simp [onAuthentication])
  | deadline | closed | readFailed | acceptFailed =>
    exact .ended hphase' (onConnection_endConnection _)
  | message m hphase => exact .onMessage hphase hphase'
  | command services response write hphase => exact .startUpdate hphase hphase'
  | commandsClosed hphase =>
    cases hphase'
    exact .stayed hphase (Or.inl rfl)

/-! ## What a step writes -/

/-- An update is started on the connection when none is pending. -/
lemma idle_of_nextServices {services : List ClientServiceConfig} (hstep : s.step e = some s')
    (hnext : s.nextServices e = some services) :
    ∃ config c, s.phase = .connected config c ∧ c.pending = none := by
  cases steps_of_step hstep with
  | changed write hwatches =>
    cases write with
    | error error => simp [nextServices] at hnext
    | ok =>
      simp only [nextServices] at hnext
      split at hnext
      · rename_i config c _ hphase _
        exact ⟨config, c, hphase, by simpa [hphase, Phase.watches] using hwatches⟩
      · simp at hnext
  | command services response write hphase _ _ hpending => exact ⟨_, _, hphase, hpending⟩
  | _ => simp [nextServices] at hnext

lemma written_of_step (hstep : s.step e = some s') :
    ∃ entries, s'.log = s.log ++ entries ∧
      (∀ update ∈ entries.filterMap Entry.update?, ∃ services,
        s.nextServices e = some services ∧ update.2 = declarations services) ∧
      ∀ hello, entries.findSome? (·.hello?) = some hello →
        ∃ config, s.phase = .authenticating config false ∧
          hello.services = declarations config.services := by
  cases exchange_of_step hstep with
  | silent hsilent =>
    obtain ⟨entries, hlog, hloaded⟩ := hsilent.log
    refine ⟨entries, hlog, ?_, ?_⟩
    · simp [Silent.updates_eq_nil hloaded]
    · simp [Silent.hello_eq_none hloaded]
  | @greeted config hphase _ hs' =>
    refine ⟨[.hello (s.hello config)], by rw [hs'], ?_, ?_⟩
    · rintro update hmem
      cases hmem
    · rintro hello ⟨⟩
      exact ⟨config, hphase, rfl⟩
  | started p _ _ _ hlog hnext =>
    obtain ⟨entries, hentries, hupdates, hhello⟩ := hlog
    refine ⟨entries, hentries, fun update hmem => ?_, by simp [hhello]⟩
    rw [hupdates, List.mem_singleton] at hmem
    exact ⟨p.updated.services, hnext, by rw [hmem]⟩
  | answered _ _ _ _ _ _ hlog => exact ⟨[], by rw [hlog, List.append_nil], by simp, by simp⟩

/-- The client has written an update with these services, which its map has from now on. -/
structure Starts (s : Client) (e : Event) (services : List ClientServiceConfig) (s' : Client) :
    Prop where
  frame : e.frame? = none
  managed : s'.managed = s.managed
  phase : ∃ config c c', s.phase = .connected config c ∧ s'.phase = .connected config c' ∧
    c'.services = serviceMap services
  log : ∃ entries requestId, s'.log = s.log ++ entries ∧
    entries.filterMap Entry.update? = [(requestId, declarations services)]

lemma starts_startUpdate {s₀ : Client} {entries : List Entry} (he : e.frame? = none)
    (hmanaged : s₀.managed = s.managed) (hlog : s₀.log = s.log ++ entries)
    (hentries : entries.filterMap Entry.update? = []) (hphase : s.phase = .connected config c)
    {updated : ClientConfig} {response : Option ℕ} :
    s.Starts e updated.services (s₀.startUpdate config c updated response (.ok ())) where
  frame := he
  managed := hmanaged
  phase := ⟨config, c, _, hphase, rfl, rfl⟩
  log := by
    let requestId := (takeRequestId c.nextRequestId).1
    refine ⟨entries ++ [.control (.updateServices requestId (declarations updated.services))],
      requestId, ?_, ?_⟩
    · rw [← List.append_assoc, ← hlog]
      rfl
    · rw [List.filterMap_append, hentries]
      rfl

lemma starts_of_nextServices {services : List ClientServiceConfig} (hstep : s.step e = some s')
    (hnext : s.nextServices e = some services) : s.Starts e services s' := by
  cases steps_of_step hstep with
  | changed write =>
    cases write with
    | error error => simp [nextServices] at hnext
    | ok =>
      simp only [nextServices] at hnext
      split at hnext
      · rename_i config c updated hphase hfile
        split at hnext
        · simp at hnext
        · rename_i hsame
          obtain rfl := Option.some.inj hnext
          rw [Bool.or_eq_true, not_or] at hsame
          have hphase' : s.select.phase = .connected config c := hphase
          have hfile' : s.select.watcher.file = .ok updated := hfile
          have hmanaged : ¬s.select.managed = true := hsame.2
          have hload : s.select.load.log = s.log ++ [.loaded updated] := by
            rw [load, hfile']
            rfl
          have hchanged : s.select.onChanged (.ok ()) =
              s.select.load.startUpdate config c updated none (.ok ()) := by
            simp only [onChanged, hphase', hfile', if_neg hsame.1, if_neg hmanaged]
          rw [hchanged]
          exact starts_startUpdate rfl (by simp [select]) hload rfl hphase
      · simp at hnext
  | @command config c services' response write hphase =>
    cases write with
    | error error => simp [nextServices] at hnext
    | ok =>
      obtain rfl := Option.some.inj hnext
      have hframe : (Event.command services' response false (.ok ())).frame? = none := rfl
      have hmanaged : s.select.managed = s.managed := rfl
      have hlog : s.select.log = s.log ++ [] := (List.append_nil _).symm
      let updated : ClientConfig := { config with services := services' }
      show s.Starts _ updated.services (s.select.startUpdate config c updated (some response) _)
      exact starts_startUpdate hframe hmanaged hlog rfl hphase
  | _ => simp [nextServices] at hnext

lemma Starts.uses {services : List ClientServiceConfig} (h : s.Starts e services s')
    (hkind : (kinds services).lookup n = some κ) : s'.Uses n κ := by
  obtain ⟨config, c, c', -, hphase', hmap⟩ := h.phase
  rw [uses_of_connected hphase']
  refine Or.inl ?_
  rw [hmap, kind_serviceMap]
  exact hkind

lemma Starts.configured {services : List ClientServiceConfig} (h : s.Starts e services s') :
    s'.configured n = s.configured n := by
  obtain ⟨config, c, c', hphase, hphase', -⟩ := h.phase
  simp only [Client.configured, hphase, hphase', h.managed]

end Client

end GateRust.Tunnel
