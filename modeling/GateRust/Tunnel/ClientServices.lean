/-
# The service map of the connected client

While a client is connected there are three copies of its services: the configuration, the
update that waits for the confirmation of the server, and the map that `handle_stream` looks
services up in.  The map should follow the pending update while there is one, and the
configuration otherwise.

A snapshot of the server that arrives while an update is pending is applied to the
configuration, and when it drops a service there the map is rewritten from the configuration
too.  In the runs in which this does not happen the map is right.
-/
import GateRust.Tunnel.Client

namespace GateRust.Tunnel.Client

open Machine

variable {s s' : Client}

/-- The services that the map should have: those of the pending update, if there is one. -/
def Connected.declared (c : Connected) (config : ClientConfig) : List ClientServiceConfig :=
  match c.pending with
  | some pending => pending.updated.services
  | none => config.services

def MapMatches (s : Client) : Prop :=
  ∀ config c, s.phase = .connected config c → c.services = serviceMap (c.declared config)

/-- A snapshot that arrives while an update is pending has all services of the configuration
enabled. -/
def snapshotKeepsServices (s : Client) (e : Event) : Bool :=
  match s.phase, e with
  | .connected config c, .message (.tunnelSnapshot tunnels) =>
    c.pending.isNone || config.services.all fun service => service.name ∈ enabledNames tunnels
  | _, _ => true

def SnapshotKeepsServices (s : Client) (e : Event) : Prop := s.snapshotKeepsServices e = true

instance (s : Client) (e : Event) : Decidable (s.SnapshotKeepsServices e) :=
  inferInstanceAs (Decidable (_ = true))

/-! ## Retaining the enabled services -/

/-- `retain_enabled_services` keeps a map that matches the configuration in step with it. -/
lemma retainEnabledServices_map {config : ClientConfig}
    {services : HashMap String ClientServiceConfig} (tunnels : List ClientTunnel)
    (h : services = serviceMap config.services) :
    (retainEnabledServices config services tunnels).2 =
      serviceMap (retainEnabledServices config services tunnels).1.services := by
  simp only [retainEnabledServices]
  split
  · rfl
  · rename_i hlen
    have hall := List.length_filter_eq_length_iff.mp (not_not.mp hlen)
    rw [List.filter_eq_self.mpr hall]
    exact h

lemma retained_map {config : ClientConfig} {services : HashMap String ClientServiceConfig}
    (tunnels : List ClientTunnel) (h : services = serviceMap config.services) :
    (s.retained config services tunnels).2 =
      serviceMap (s.retained config services tunnels).1.services := by
  unfold retained
  split
  · exact retainEnabledServices_map tunnels h
  · exact h

/-- The services that are enabled are retained. -/
lemma mem_retained {config : ClientConfig} {service : ClientServiceConfig}
    {tunnels : List ClientTunnel} (services : HashMap String ClientServiceConfig)
    (hmem : service ∈ config.services) (hen : service.name ∈ enabledNames tunnels) :
    service ∈ (s.retained config services tunnels).1.services := by
  unfold retained retainEnabledServices
  split
  · simp only
    split <;> exact List.mem_filter.mpr ⟨hmem, by simpa using hen⟩
  · exact hmem

/-- The map does not change when all services are enabled. -/
lemma retained_of_enabled {config : ClientConfig} {tunnels : List ClientTunnel}
    (h : ∀ service ∈ config.services, service.name ∈ enabledNames tunnels)
    (services : HashMap String ClientServiceConfig) :
    (s.retained config services tunnels).2 = services := by
  have hself : (config.services.filter fun service => service.name ∈ enabledNames tunnels) =
      config.services := List.filter_eq_self.mpr (by simpa using h)
  unfold retained
  split
  · simp [retainEnabledServices, hself]
  · rfl

lemma lookup_serviceMap {services : List ClientServiceConfig} {service : ClientServiceConfig}
    (hmem : service ∈ services) :
    ∃ v ∈ services, v.name = service.name ∧ (serviceMap services).lookup service.name = some v := by
  have hpair : (service.name, service) ∈ services.map fun service => (service.name, service) :=
    List.mem_map.mpr ⟨service, hmem, rfl⟩
  obtain ⟨v, hv⟩ := AList.lookup_ofList_of_mem hpair
  obtain ⟨v', hv', heq⟩ := List.mem_map.mp (AList.mem_of_lookup_ofList hv)
  obtain ⟨hname, rfl⟩ := Prod.mk.inj heq
  exact ⟨v', hv', hname, hv⟩

/-! ## Steps -/

lemma MapMatches.of_phase (h : s.MapMatches) (hp : s'.phase = s.phase) : s'.MapMatches := by
  intro config c hs
  exact h config c (hp ▸ hs)

lemma mapMatches_stay {config : ClientConfig} {c : Connected}
    (h : c.services = serviceMap (c.declared config)) : (s.stay config c).MapMatches := by
  intro config' c' hs
  simp only [stay, Phase.connected.injEq] at hs
  rw [← hs.1, ← hs.2]
  exact h

lemma mapMatches_of_not_connected (h : ∀ config c, s.phase ≠ .connected config c) :
    s.MapMatches :=
  fun config c hs => absurd hs (h config c)

/-- The end of a connection leaves no connected session. -/
lemma mapMatches_endConnection (config : ClientConfig) (r : ConnectionEnd) :
    (s.endConnection config r).MapMatches := by
  refine mapMatches_of_not_connected ?_
  rcases r with _ | _ | _ | (_ | _) | _ | _ <;> simp [endConnection, connect, stop]

lemma mapMatches_loadInitial (current : Option ClientConfig) :
    (s.loadInitial current).MapMatches := by
  refine mapMatches_of_not_connected ?_
  unfold loadInitial
  split <;> simp [connect]

lemma mapMatches_onWatcherClosed (h : s.MapMatches) : s.onWatcherClosed.MapMatches := by
  cases hphase : s.phase with
  | loading | stopped =>
    simp only [onWatcherClosed, hphase]
    exact h
  | waiting | retrying =>
    simp only [onWatcherClosed, hphase]
    exact mapMatches_of_not_connected (by simp [stop])
  | connecting | authenticating | connected =>
    simp only [onWatcherClosed, hphase]
    exact mapMatches_endConnection _ _

lemma mapMatches_startUpdate (config : ClientConfig) (c : Connected) (updated : ClientConfig)
    (response : Option ℕ) (write : Except TunnelError Unit) :
    (s.startUpdate config c updated response write).MapMatches := by
  cases write with
  | ok => exact mapMatches_stay rfl
  | error error => exact mapMatches_endConnection _ _

lemma mapMatches_onMessage {config : ClientConfig} {c : Connected} {m : ServerControlMessage}
    (h : c.services = serviceMap (c.declared config))
    (hok : ∀ tunnels, m = .tunnelSnapshot tunnels → c.pending ≠ none →
      ∀ service ∈ config.services, service.name ∈ enabledNames tunnels) :
    (s.onMessage config c m).MapMatches := by
  cases m with
  | tunnelSnapshot tunnels =>
    refine mapMatches_stay ?_
    cases hp : c.pending with
    | none =>
      simp only [Connected.declared, hp] at h ⊢
      exact retained_map tunnels h
    | some pending =>
      -- the snapshot filters the configuration, but the map belongs to the pending update
      have hall := hok tunnels rfl (by simp [hp])
      simp only [Connected.declared, hp] at h ⊢
      exact (retained_of_enabled hall c.services).trans h
  | servicesApplied requestId tunnels =>
    simp only [onMessage]
    split
    · exact mapMatches_endConnection _ _
    · rename_i pending hp
      split
      · exact mapMatches_endConnection _ _
      · refine mapMatches_stay ?_
        simp only [Connected.declared, hp] at h ⊢
        exact retained_map tunnels h

lemma mapMatches_onChanged (h : s.MapMatches) (write : Except TunnelError Unit) :
    (s.onChanged write).MapMatches := by
  cases hphase : s.phase with
  | loading | stopped =>
    simp only [onChanged, hphase]
    exact h
  | waiting current =>
    simp only [onChanged, hphase]
    exact mapMatches_loadInitial current
  | connecting | authenticating =>
    simp only [onChanged, hphase]
    split <;> exact mapMatches_endConnection _ _
  | retrying =>
    simp only [onChanged, hphase]
    split <;> exact mapMatches_of_not_connected (by simp [connect])
  | connected config c =>
    simp only [onChanged, hphase]
    split
    · split_ifs
      · exact mapMatches_endConnection _ _
      · -- a managed client stays connected, and its map is not touched
        exact mapMatches_stay (h config c hphase)
      · exact mapMatches_startUpdate _ _ _ _ _
    · exact mapMatches_endConnection _ _

lemma mapMatches_step {e : Event} (h : s.MapMatches) (hok : s.SnapshotKeepsServices e)
    (hstep : s.step e = some s') : s'.MapMatches := by
  have hsel : s.select.MapMatches := h.of_phase rfl
  cases steps_of_step hstep with
  | fileChanged | notify | takeToken | absorbToken => exact h.of_phase rfl
  | ignoredCommand | acceptedStream | taskJoined => exact hsel
  | changed write => exact mapMatches_onChanged hsel write
  | watcherClosed => exact mapMatches_onWatcherClosed h
  | loadInitial => exact mapMatches_loadInitial _
  | connectionStep result =>
    cases result with
    | ok => exact mapMatches_of_not_connected (by simp [onConnectionStep])
    | error error => exact mapMatches_endConnection _ _
  | authentication result =>
    cases result with
    | accepted => exact mapMatches_stay rfl
    | deviceIdConflict | failed => exact mapMatches_endConnection _ _
  | helloWritten | retryElapsed | shutdown =>
    exact mapMatches_of_not_connected (by simp [connect, stop])
  | message m hphase =>
    refine mapMatches_onMessage (h _ _ hphase) ?_
    rintro tunnels rfl hp
    simpa [SnapshotKeepsServices, snapshotKeepsServices, hphase, hp] using hok
  | command => exact mapMatches_startUpdate _ _ _ _ _
  | commandsClosed hphase =>
    have hmap := h _ _ hphase
    exact mapMatches_stay hmap
  | deadline | closed | readFailed | acceptFailed => exact mapMatches_endConnection _ _

/-! ## Runs -/

/-- The session after the confirmation of a pending update. -/
lemma step_servicesApplied {config : ClientConfig} {c : Connected} {pending : PendingServiceUpdate}
    {tunnels : List ClientTunnel} (hphase : s.phase = .connected config c)
    (hpending : c.pending = some pending)
    (h : s.step (.message (.servicesApplied pending.requestId tunnels)) = some s') :
    ∃ c', c'.pending = none ∧ s'.phase = .connected
      (s.retained pending.updated c.services tunnels).1 c' := by
  simp only [step, hphase, connectedStep, onMessage, hpending, ne_eq, not_true_eq_false,
    if_false] at h
  obtain rfl := Option.some.inj h
  exact ⟨_, rfl, rfl⟩

/-- **The service map of a connected managed client matches** the pending update while there is
one and the configuration otherwise, in the runs in which every snapshot that arrives while an
update is pending has all services of the configuration enabled.  Hence every service of an
update that its confirmation reports as enabled is in the map. -/
theorem service_map_matches {deviceId : String} {file : Except String ClientConfig}
    {config : ClientConfig} {c : Connected}
    (h : Reach step SnapshotKeepsServices (.start true deviceId file) s)
    (hphase : s.phase = .connected config c) :
    (∀ pending, c.pending = some pending →
      c.services = serviceMap pending.updated.services) ∧
    (c.pending = none → c.services = serviceMap config.services) ∧
    ∀ pending tunnels s', c.pending = some pending →
      s.step (.message (.servicesApplied pending.requestId tunnels)) = some s' →
      ∃ config' c', s'.phase = .connected config' c' ∧
        ∀ service ∈ pending.updated.services, service.name ∈ enabledNames tunnels →
          ∃ v ∈ config'.services, v.name = service.name ∧
            c'.services.lookup service.name = some v := by
  have hI : s.MapMatches := by
    refine h.invariant (I := MapMatches) ?_ fun _ _ _ hI hok hstep => mapMatches_step hI hok hstep
    exact mapMatches_of_not_connected (by simp [start])
  have hmap := hI config c hphase
  refine ⟨fun pending hp => by simpa [Connected.declared, hp] using hmap,
    fun hp => by simpa [Connected.declared, hp] using hmap, ?_⟩
  intro pending tunnels s' hp hstep
  obtain ⟨c', hp', hphase'⟩ := step_servicesApplied hphase hp hstep
  have hkeeps : s.SnapshotKeepsServices
      (.message (.servicesApplied pending.requestId tunnels)) := by
    simp [SnapshotKeepsServices, snapshotKeepsServices, hphase]
  have hI' : s'.MapMatches := mapMatches_step hI hkeeps hstep
  have hmap' := hI' _ c' hphase'
  simp only [Connected.declared, hp'] at hmap'
  refine ⟨_, c', hphase', fun service hmem hen => ?_⟩
  rw [hmap']
  exact lookup_serviceMap (mem_retained c.services hmem hen)

def sampleTunnel (name : String) (state : ClientTunnelState) : ClientTunnel :=
  ⟨name, .tcp, 8080, some "localhost", some 8080, state⟩

/-- The session of a connected client. -/
def session? (s : Client) : Option (ClientConfig × Connected) :=
  match s.phase with
  | .connected config c => some (config, c)
  | _ => none

lemma phase_of_session? {config : ClientConfig} {c : Connected}
    (h : s.session? = some (config, c)) : s.phase = .connected config c := by
  unfold session? at h
  split at h
  · simp_all
  · simp at h

/-- The client selects `web`, and then `ssh` instead; the snapshot that arrives before the
second confirmation has `web` enabled still. -/
theorem selection_replaced_after_snapshot :
    ∃ s config c, Reach step SnapshotKeepsServices
        (.start true "dev" (.ok (sampleConfig []))) s ∧
      s.phase = .connected config c ∧ c.pending = none ∧
      config.services = [sampleService "ssh"] ∧ c.services = serviceMap config.services := by
  have hrun : (exec step SnapshotKeepsServices (.start true "dev" (.ok (sampleConfig [])))
      (connectEvents ++
        [.command [sampleService "web"] 1 false (.ok ()),
          .message (.servicesApplied 1 [sampleTunnel "web" .enabled, sampleTunnel "ssh" .idle]),
          .command [sampleService "ssh"] 2 false (.ok ()),
          .message (.tunnelSnapshot [sampleTunnel "web" .enabled, sampleTunnel "ssh" .idle]),
          .message (.servicesApplied 2
            [sampleTunnel "web" .idle, sampleTunnel "ssh" .enabled])])).bind
      (fun s => s.session?.map fun e => (e.1.services, e.2.pending.isNone)) =
      some ([sampleService "ssh"], true) := by
    decide +kernel
  obtain ⟨s, hs, hview⟩ := Option.bind_eq_some_iff.mp hrun
  obtain ⟨⟨config, c⟩, hsession, hview⟩ := Option.map_eq_some_iff.mp hview
  obtain ⟨hservices, hpending⟩ := Prod.mk.inj hview
  have hphase := phase_of_session? hsession
  have hnone : c.pending = none := Option.isNone_iff_eq_none.mp hpending
  exact ⟨s, config, c, reach_of_exec hs, hphase, hnone, hservices,
    (service_map_matches (reach_of_exec hs) hphase).2.1 hnone⟩

/-- The client selects `web`, and then `ssh` instead.  Before the second confirmation a
snapshot reports that the administrator has disconnected `web`.  The confirmation reports `ssh`
as enabled, but the map is empty: the client rejects every stream of `ssh`. -/
theorem service_map_emptied_by_snapshot :
    ∃ s config c, Reach step Always (.start true "dev" (.ok (sampleConfig []))) s ∧
      s.phase = .connected config c ∧ c.pending = none ∧
      config.services = [sampleService "ssh"] ∧
      s.status = .online "gate.example:7000" "dev"
        [sampleTunnel "web" .idle, sampleTunnel "ssh" .enabled] ∧
      c.services.lookup "ssh" = none ∧ c.services ≠ serviceMap config.services := by
  have hrun : (exec step Always (.start true "dev" (.ok (sampleConfig [])))
      (connectEvents ++
        [.command [sampleService "web"] 1 false (.ok ()),
          .message (.servicesApplied 1 [sampleTunnel "web" .enabled, sampleTunnel "ssh" .idle]),
          .command [sampleService "ssh"] 2 false (.ok ()),
          .message (.tunnelSnapshot [sampleTunnel "web" .idle, sampleTunnel "ssh" .idle]),
          .message (.servicesApplied 2
            [sampleTunnel "web" .idle, sampleTunnel "ssh" .enabled])])).bind
      (fun s => s.session?.map fun e => decide (e.2.pending.isNone = true ∧
        e.1.services = [sampleService "ssh"] ∧
        s.status = .online "gate.example:7000" "dev"
          [sampleTunnel "web" .idle, sampleTunnel "ssh" .enabled] ∧
        e.2.services.lookup "ssh" = none)) = some true := by
    decide +kernel
  obtain ⟨s, hs, hview⟩ := Option.bind_eq_some_iff.mp hrun
  obtain ⟨⟨config, c⟩, hsession, hview⟩ := Option.map_eq_some_iff.mp hview
  obtain ⟨hpending, hservices, hstatus, hlook⟩ := of_decide_eq_true hview
  refine ⟨s, config, c, reach_of_exec hs, phase_of_session? hsession,
    Option.isNone_iff_eq_none.mp hpending, hservices, hstatus, hlook, ?_⟩
  intro heq
  rw [heq, hservices] at hlook
  exact absurd hlook (by decide +kernel)

end GateRust.Tunnel.Client
