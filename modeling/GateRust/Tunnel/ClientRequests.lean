/-
# Commands of the controller

`ClientController::update_services` checks the services, puts a command in the channel of the
client and waits for its answer.  This file has the check, and what one step of the client
does to the pending update and to the answers: it starts an update, it answers the pending
one with the tunnels of an acknowledgement, or it does neither.
-/
import GateRust.Tunnel.AdministratorDisconnect
import GateRust.Tunnel.ServerConfig

namespace GateRust.Tunnel

/-! ## The services of a command -/

/-- The round of `validate_client_services` for one service; the state of the loop is the names
of the services before it. -/
def validateClientService (names : List String) (service : ClientServiceConfig) :
    Except TunnelError (List String) := do
  validateName "服务" service.name
  reject
    [(service.name ∈ names, s!"服务名称重复: {service.name}"),
      (service.kind = .socks5 && service.target.isSome,
        s!"SOCKS5 服务 {service.name} 不应配置固定 target"),
      (service.kind ≠ .socks5 && service.target.getD "" = "",
        s!"TCP/UDP 服务 {service.name} 必须配置 target")]
  return service.name :: names

def validateClientServices (services : List ClientServiceConfig) : Except TunnelError Unit := do
  reject [(maxClientServices < services.length,
    s!"单个客户端最多声明 {maxClientServices} 个服务")]
  let _ ← services.foldlM validateClientService []
  return ()

namespace Client

variable {s s' s'' : Client} {config : ClientConfig} {c : Connected}

/-! ## Steps without an answer -/

/-- The update that the server has not confirmed. -/
def pending? (s : Client) : Option PendingServiceUpdate :=
  match s.phase with
  | .connected _ c => c.pending
  | .loading _ | .waiting _ | .connecting _ | .authenticating .. | .retrying _ | .stopped => none

lemma pending?_of_connected (h : s.phase = .connected config c) : s.pending? = c.pending := by
  rw [pending?, h]

lemma onConnection_of_connected (h : s.phase = .connected config c) : s.onConnection = true := by
  rw [onConnection, h]

lemma onConnection_of_pending? {p : PendingServiceUpdate} (h : s.pending? = some p) :
    s.onConnection = true := by
  unfold pending? at h
  split at h
  · rename_i hphase
    exact onConnection_of_connected hphase
  all_goals simp at h

/-- Between `s` and `s'` the client has written nothing, and the answers it has given are
errors. -/
structure Silent (s s' : Client) : Prop where
  log : ∃ entries, s'.log = s.log ++ entries ∧ ∀ e ∈ entries, ∃ config, e = .loaded config
  responses : ∃ errors, s'.responses = s.responses ++ errors ∧
    ∀ n tunnels, (n, .ok tunnels) ∉ errors

namespace Silent

lemma of_eq (hlog : s'.log = s.log) (hresponses : s'.responses = s.responses) : s.Silent s' :=
  ⟨⟨[], by rw [hlog, List.append_nil], by simp⟩, [], by rw [hresponses, List.append_nil], by simp⟩

lemma trans (h : s.Silent s') (h' : s'.Silent s'') : s.Silent s'' := by
  obtain ⟨entries, hlog, hloaded⟩ := h.log
  obtain ⟨entries', hlog', hloaded'⟩ := h'.log
  obtain ⟨errors, hres, herr⟩ := h.responses
  obtain ⟨errors', hres', herr'⟩ := h'.responses
  refine ⟨⟨entries ++ entries', ?_, ?_⟩, errors ++ errors', ?_, ?_⟩
  · rw [hlog', hlog, List.append_assoc]
  · intro e hmem
    rcases List.mem_append.mp hmem with hmem | hmem
    · exact hloaded e hmem
    · exact hloaded' e hmem
  · rw [hres', hres, List.append_assoc]
  · intro n tunnels hmem
    rcases List.mem_append.mp hmem with hmem | hmem
    · exact herr n tunnels hmem
    · exact herr' n tunnels hmem

lemma load : s.Silent s.load := by
  unfold Client.load
  split
  · rename_i config _
    exact ⟨⟨[.loaded config], rfl, by simp⟩, [], (List.append_nil _).symm, by simp⟩
  · exact of_eq rfl rfl

lemma respond (response : Option ℕ) (error : String) :
    s.Silent (s.respond response (.error error)) := by
  cases response with
  | none => exact of_eq rfl rfl
  | some n =>
    refine ⟨⟨[], (List.append_nil _).symm, by simp⟩, [(n, .error error)], rfl, ?_⟩
    intro n' tunnels hmem
    simp at hmem

lemma endConnection (h : s.Silent s') (r : ConnectionEnd) :
    s.Silent (s'.endConnection config r) := by
  refine h.trans (of_eq (endConnection_log r) ?_)
  rcases r with _ | _ | _ | (_ | _) | _ | _ <;> rfl

lemma loadInitial (current : Option ClientConfig) : s.Silent (s.loadInitial current) := by
  unfold Client.loadInitial
  split <;> exact load.trans (of_eq rfl rfl)

/-- What the client has logged is no update. -/
lemma updates_eq_nil {entries : List Entry} (h : ∀ e ∈ entries, ∃ config, e = .loaded config) :
    entries.filterMap Entry.update? = [] := by
  rw [List.filterMap_eq_nil_iff]
  intro e hmem
  obtain ⟨config, rfl⟩ := h e hmem
  rfl

/-- What the client has logged is no hello. -/
lemma hello_eq_none {entries : List Entry} (h : ∀ e ∈ entries, ∃ config, e = .loaded config) :
    entries.findSome? (·.hello?) = none := by
  rw [List.findSome?_eq_none_iff]
  intro e hmem
  obtain ⟨config, rfl⟩ := h e hmem
  rfl

end Silent

@[simp] lemma onConnection_endConnection (r : ConnectionEnd) :
    (s.endConnection config r).onConnection = false := by
  rcases r with _ | _ | _ | (_ | _) | _ | _ <;> rfl

@[simp] lemma onConnection_loadInitial (current : Option ClientConfig) :
    (s.loadInitial current).onConnection = false := by
  unfold loadInitial
  split <;> rfl

/-! ## What a step does to the pending update -/

/-- The services of the update that the client writes at the event. -/
def nextServices (s : Client) : Event → Option (List ClientServiceConfig)
  | .command services _ false (.ok ()) => some services
  | .changed (.ok ()) =>
    match s.phase, s.watcher.file with
    | .connected config _, .ok updated =>
      if connectionIdentityChanged config updated || s.managed then none
      else some updated.services
    | _, _ => none
  | _ => none

/-- The step from `s` to `s'` leaves the pending update alone or ends the connection, writes the
hello, starts an update, or answers the pending one. -/
inductive Exchange (s : Client) (e : Event) (s' : Client) : Prop
  | silent (h : s.Silent s')
      (hon : s'.onConnection = true → s'.pending? = s.pending? ∧
        (s.onConnection = true ∨ e = .connectionStep (.ok ())) ∧
        ∀ requestId tunnels, e ≠ .message (.servicesApplied requestId tunnels))
  | greeted {config : ClientConfig} (hphase : s.phase = .authenticating config false)
      (he : e = .helloWritten) (hs' : s' = { s with
        phase := .authenticating config true
        log := s.log ++ [.hello (s.hello config)] })
  | started (p : PendingServiceUpdate) (hon : s.onConnection = true) (hidle : s.pending? = none)
      (hpending : s'.pending? = some p)
      (hlog : ∃ entries, s'.log = s.log ++ entries ∧
        entries.filterMap Entry.update? = [(p.requestId, declarations p.updated.services)] ∧
        entries.findSome? (·.hello?) = none)
      (hnext : s.nextServices e = some p.updated.services)
      (hresponses : s'.responses = s.responses) (hframe : e.frame? = none)
      (hresponse : ∀ n, p.response = some n → e = .command p.updated.services n false (.ok ()))
  | answered (p : PendingServiceUpdate) (tunnels : List ClientTunnel)
      (he : e = .message (.servicesApplied p.requestId tunnels)) (hpending : s.pending? = some p)
      (hidle : s'.pending? = none) (hon : s'.onConnection = true) (hlog : s'.log = s.log)
      (hresponses : s'.responses = s.responses ++ (p.response.map fun n => (n, .ok tunnels)).toList)

namespace Exchange

variable {e : Event}

/-- The client is on no connection after the step. -/
lemma ended (h : s.Silent s') (hoff : s'.onConnection = false) : s.Exchange e s' :=
  .silent h fun hon => absurd hon (by simp [hoff])

lemma endConnection (h : s.Silent s') (config : ClientConfig) (r : ConnectionEnd) :
    s.Exchange e (s'.endConnection config r) :=
  ended (h.endConnection r) (onConnection_endConnection r)

/-- The step does not concern the connection. -/
lemma same (h : s.Silent s') (hphase : s'.phase = s.phase) (he : e.frame? = none) :
    s.Exchange e s' := by
  refine .silent h fun hon => ⟨by rw [pending?, pending?, hphase], Or.inl ?_, ?_⟩
  · rw [← hon, onConnection, onConnection, hphase]
  · rintro requestId tunnels rfl
    simp [Event.frame?] at he

/-- A call of `begin_service_update` after the client has loaded what it sends. -/
lemma startUpdate (h : s.Silent s') (hresponses : s'.responses = s.responses)
    (hphase : s.phase = .connected config c) (hidle : c.pending = none) {updated : ClientConfig}
    {response : Option ℕ} {write : Except TunnelError Unit} (he : e.frame? = none)
    (hnext : write = .ok () → s.nextServices e = some updated.services)
    (hresponse : ∀ n, response = some n → e = .command updated.services n false write) :
    s.Exchange e (s'.startUpdate config c updated response write) := by
  cases write with
  | error error =>
    exact endConnection (h.trans (.respond response error.display)) config (.disconnected error)
  | ok =>
    obtain ⟨entries, hlog, hloaded⟩ := h.log
    let requestId := (takeRequestId c.nextRequestId).1
    refine .started ⟨requestId, updated, response⟩
      (onConnection_of_connected hphase) ((pending?_of_connected hphase).trans hidle) rfl ?_
      (hnext rfl) hresponses he hresponse
    refine ⟨entries ++ [.control (.updateServices requestId (declarations updated.services))],
      ?_, ?_, ?_⟩
    · rw [← List.append_assoc, ← hlog]
      rfl
    · rw [List.filterMap_append, Silent.updates_eq_nil hloaded]
      rfl
    · rw [List.findSome?_append, Silent.hello_eq_none hloaded]
      rfl

/-- The branch of `read_frame`. -/
lemma onMessage (h : s.Silent s') (hresponses : s'.responses = s.responses)
    (hlog : s'.log = s.log) (hphase : s.phase = .connected config c) (m : ServerControlMessage) :
    s.Exchange (.message m) (s'.onMessage config c m) := by
  have hpending := pending?_of_connected hphase
  cases m with
  | tunnelSnapshot tunnels =>
    refine .silent (h.trans (.of_eq rfl rfl)) fun _ => ⟨hpending.symm, Or.inl ?_, by simp⟩
    exact onConnection_of_connected hphase
  | servicesApplied requestId tunnels =>
    unfold Client.onMessage
    cases hc : c.pending with
    | none => exact endConnection h _ _
    | some p =>
      simp only
      split
      · exact endConnection h _ _
      · rename_i hid
        obtain rfl : p.requestId = requestId := not_not.mp hid
        refine .answered p tunnels rfl (hpending.trans hc) rfl rfl ?_ ?_
        · simp [stay, online, hlog]
        · cases hr : p.response with
          | none => simp [stay, online, Client.respond, hresponses]
          | some n => simp [stay, online, Client.respond, hresponses]

/-- The branch of `changed`. -/
lemma onChanged (h : s.Silent s') (hresponses : s'.responses = s.responses)
    (hphase : s'.phase = s.phase) (hfile : s'.watcher.file = s.watcher.file)
    (hmanaged : s'.managed = s.managed) (hwatches : s.phase.watches = true)
    (write : Except TunnelError Unit) : s.Exchange (.changed write) (s'.onChanged write) := by
  have hload : s.Silent s'.load := h.trans .load
  cases hp : s.phase with
  | waiting current =>
    rw [hp] at hphase
    simp only [Client.onChanged, hphase]
    exact ended (h.trans (.loadInitial current)) (onConnection_loadInitial current)
  | connecting config | authenticating config =>
    rw [hp] at hphase
    simp only [Client.onChanged, hphase]
    split <;> exact endConnection hload _ _
  | retrying config =>
    rw [hp] at hphase
    simp only [Client.onChanged, hphase]
    split <;> exact ended (hload.trans (.of_eq rfl rfl)) rfl
  | connected config c =>
    have hidle : c.pending = none := by simpa [hp, Phase.watches] using hwatches
    have hphase' := hphase.trans hp
    simp only [Client.onChanged, hphase']
    split
    · rename_i updated hupdated
      split
      · exact endConnection hload _ _
      · rename_i hsame
        split
        · refine .silent (hload.trans (.of_eq rfl rfl)) fun _ => ⟨?_, Or.inl ?_, by simp⟩
          · exact (pending?_of_connected hp).symm
          · exact onConnection_of_connected hp
        · rename_i hm
          have hres : s'.load.responses = s.responses := by
            rw [← hresponses, Client.load]
            split <;> rfl
          refine startUpdate hload hres hp hidle rfl ?_ (by simp)
          rintro rfl
          simp [nextServices, hp, ← hfile, hupdated, hsame, ← hmanaged, hm]
    · exact endConnection hload _ _
  | loading | stopped => simp [hp, Phase.watches] at hwatches

end Exchange

/-- **Every step of the client** starts an update, answers the pending one, or does neither. -/
lemma exchange_of_step {e : Event} (h : s.step e = some s') : s.Exchange e s' := by
  have hselect : s.Silent s.select := .of_eq rfl rfl
  cases steps_of_step h with
  | fileChanged | notify | takeToken | absorbToken | ignoredCommand | acceptedStream | taskJoined =>
    exact .same (.of_eq rfl rfl) rfl rfl
  | changed write hwatches => exact .onChanged hselect rfl rfl rfl rfl hwatches write
  | watcherClosed =>
    unfold onWatcherClosed
    split
    · exact .ended (.of_eq rfl rfl) rfl
    · exact .ended (.of_eq rfl rfl) rfl
    all_goals first
      | exact .endConnection (.of_eq rfl rfl) _ _
      | exact .same (.of_eq rfl rfl) rfl rfl
  | loadInitial => exact .ended (.loadInitial _) (onConnection_loadInitial _)
  | shutdown => exact .ended (.of_eq rfl rfl) rfl
  | @connectionStep config result hphase =>
    cases result with
    | ok =>
      refine .silent (.of_eq rfl rfl) fun _ => ⟨?_, Or.inr rfl, by simp⟩
      simp [onConnectionStep, pending?, hphase]
    | error error => exact .endConnection hselect config (.disconnected error)
  | helloWritten hphase => exact .greeted hphase rfl rfl
  | @authentication config _ result hphase =>
    cases result with
    | accepted tunnels =>
      refine .silent (.of_eq rfl rfl) fun _ => ?_
      exact ⟨by simp [onAuthentication, stay, pending?, hphase],
        Or.inl (by simp [onConnection, hphase]), by simp⟩
    | deviceIdConflict resolved => exact .endConnection hselect config (.deviceIdConflict resolved)
    | failed error => exact .endConnection hselect config (.disconnected error)
  | retryElapsed => exact .ended (.of_eq rfl rfl) rfl
  | deadline =>
    exact .endConnection (hselect.trans (.respond _ _)) _ _
  | closed | readFailed | acceptFailed => exact .endConnection hselect _ _
  | message m hphase => exact .onMessage hselect rfl rfl hphase m
  | command services response write hphase hmanaged hcommands hpending =>
    refine .startUpdate hselect rfl hphase hpending rfl (fun hok => ?_) ?_
    · subst hok
      rfl
    · rintro n ⟨⟩
      rfl
  | commandsClosed hphase =>
    refine .silent (.of_eq rfl rfl) fun _ => ⟨?_, Or.inl ?_, by simp⟩
    · exact (pending?_of_connected hphase).symm
    · exact onConnection_of_connected hphase

end Client

end GateRust.Tunnel
