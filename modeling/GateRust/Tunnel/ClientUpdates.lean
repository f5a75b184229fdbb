/-
# Configurations that the client has loaded

A client without a command channel declares the services of its configuration file: in the
hello of every connection, and in an update when the file changes while it is connected.  Once
it has loaded a configuration, no later message should declare the services of an older one.

The configuration that was loaded while the client is connected is kept in the pending update
only.  When the connection ends before the update is confirmed, or when the update cannot be
written, the client reconnects with the configuration it had before.  In the runs in which this
does not happen every message declares the services of the latest configuration.
-/
import GateRust.Lib.History
import GateRust.Tunnel.Client

namespace GateRust.Tunnel.Client

open Machine History

variable {s s' : Client} {config U : ClientConfig}

/-! ## The history of the client -/

def Entry.loaded? : Entry → Option ClientConfig
  | .loaded config => some config
  | .hello _ | .control _ => none

/-- The services that a message declares. -/
def Entry.declared? : Entry → Option (List ServiceDeclaration)
  | .loaded _ => none
  | .hello message => some message.services
  | .control (.updateServices _ services) => some services

/-- The configuration that was loaded last has the given services. -/
def LoadedLast (log : List Entry) (services : List ServiceDeclaration) : Prop :=
  ∃ U, last? Entry.loaded? log = some U ∧ services = declarations U.services

/-- A message declares the services of the configuration that was loaded last. -/
def DeclaresLast (log : List Entry) (e : Entry) : Prop :=
  ∀ services, e.declared? = some services → LoadedLast log services

/-- The configuration whose services the next message declares, unless another one is loaded
before. -/
def Phase.next? : Phase → Option ClientConfig
  | .loading _ | .waiting _ | .stopped => none
  | .connecting config | .authenticating config _ | .retrying config => some config
  | .connected config c => some ((c.pending.map (·.updated)).getD config)

structure UpToDate (s : Client) : Prop where
  unmanaged : s.managed = false
  log : Along DeclaresLast s.log
  next : ∀ config, s.phase.next? = some config → LoadedLast s.log (declarations config.services)

/-! ## The runs that lose no update -/

/-- The event ends a connection on which the update with the given number is pending, and the
client reconnects. -/
def Event.reconnects (requestId : UInt64) : Event → Bool
  | .deadline | .readFailed _ | .acceptStream (.error _) => true
  | .closed _ administrator => !administrator
  | .message (.servicesApplied id _) => id ≠ requestId
  | _ => false

/-- A loaded configuration is not left behind: the connection does not end while its update is
pending and the update does not fail to be written, unless it declares the same services as the
configuration before it. -/
def keepsUpdate (s : Client) (e : Event) : Bool :=
  match s.phase with
  | .connected config c =>
    match c.pending with
    | some pending =>
      !e.reconnects pending.requestId ||
        declarations pending.updated.services = declarations config.services
    | none =>
      match e, s.watcher.file with
      | .changed (.error _), .ok updated =>
        connectionIdentityChanged config updated ||
          declarations updated.services = declarations config.services
      | _, _ => true
  | _ => true

def KeepsUpdate (s : Client) (e : Event) : Prop := s.keepsUpdate e = true

instance (s : Client) (e : Event) : Decidable (s.KeepsUpdate e) :=
  inferInstanceAs (Decidable (_ = true))

/-! ## What the operations do to the history -/

@[simp] lemma endConnection_log (r : ConnectionEnd) : (s.endConnection config r).log = s.log := by
  rcases r with _ | _ | _ | (_ | _) | _ | _ <;> rfl

@[simp] lemma endConnection_managed (r : ConnectionEnd) :
    (s.endConnection config r).managed = s.managed := by
  rcases r with _ | _ | _ | (_ | _) | _ | _ <;> rfl

@[simp] lemma respond_log (response : Option ℕ) (result : Except String (List ClientTunnel)) :
    (s.respond response result).log = s.log := by
  cases response <;> rfl

@[simp] lemma respond_managed (response : Option ℕ) (result : Except String (List ClientTunnel)) :
    (s.respond response result).managed = s.managed := by
  cases response <;> rfl

@[simp] lemma load_managed : s.load.managed = s.managed := by
  unfold load
  split <;> rfl

lemma load_log_of_error {reason : String} (hfile : s.watcher.file = .error reason) :
    s.load.log = s.log := by
  simp [load, hfile]

/-- A successful load is the last one. -/
lemma load_log_of_ok (hlog : Along DeclaresLast s.log) (hfile : s.watcher.file = .ok U) :
    Along DeclaresLast s.load.log ∧ LoadedLast s.load.log (declarations U.services) := by
  have hload : s.load.log = s.log ++ [.loaded U] := by simp [load, hfile]
  rw [hload]
  exact ⟨hlog.snoc (by simp [DeclaresLast, Entry.declared?]),
    U, last?_snoc_of_some rfl, rfl⟩

/-- Sending a message with the services of the last configuration keeps both. -/
lemma along_snoc_message {log : List Entry} {e : Entry} {services : List ServiceDeclaration}
    (hlog : Along DeclaresLast log) (hlast : LoadedLast log services)
    (he : e.declared? = some services) :
    Along DeclaresLast (log ++ [e]) ∧ LoadedLast (log ++ [e]) services := by
  have hnone : e.loaded? = none := by
    cases e with
    | loaded => simp [Entry.declared?] at he
    | hello | control => rfl
  refine ⟨hlog.snoc fun services' he' => ?_, ?_⟩
  · obtain rfl := Option.some.inj (he.symm.trans he')
    exact hlast
  · obtain ⟨U, hU, hservices⟩ := hlast
    exact ⟨U, (last?_snoc_of_none hnone).trans hU, hservices⟩

@[simp] lemma reconcileConfigUpdate_unmanaged (current updated : ClientConfig) :
    reconcileConfigUpdate current updated false = updated := rfl

/-! ## Steps -/

/-- A step that sends and loads nothing. -/
lemma UpToDate.move (h : s.UpToDate) (hm : s'.managed = s.managed) (hlog : s'.log = s.log)
    (hnext : ∀ config, s'.phase.next? = some config →
      LoadedLast s.log (declarations config.services)) : s'.UpToDate :=
  ⟨hm.trans h.unmanaged, hlog ▸ h.log, hlog ▸ hnext⟩

lemma UpToDate.of_phase (h : s.UpToDate) (hm : s'.managed = s.managed) (hlog : s'.log = s.log)
    (hphase : s'.phase = s.phase) : s'.UpToDate :=
  h.move hm hlog fun config hc => h.next config (hphase ▸ hc)

/-- A connection ends and the client goes on with a configuration that is up to date, or with
none. -/
lemma upToDate_endConnection {r : ConnectionEnd} (hm : s.managed = false)
    (hlog : Along DeclaresLast s.log)
    (hnext : ∀ k, (s.endConnection config r).phase.next? = some k →
      LoadedLast s.log (declarations k.services)) : (s.endConnection config r).UpToDate :=
  ⟨by simpa using hm, by simpa using hlog, by simpa using hnext⟩

lemma upToDate_disconnected (hm : s.managed = false) (hlog : Along DeclaresLast s.log)
    (hlast : LoadedLast s.log (declarations config.services)) (error : TunnelError) :
    (s.endConnection config (.disconnected error)).UpToDate := by
  refine upToDate_endConnection hm hlog fun k hk => ?_
  rw [← Option.some.inj hk]
  exact hlast

lemma upToDate_connect (hm : s.managed = false) (hlog : Along DeclaresLast s.log)
    (hlast : LoadedLast s.log (declarations config.services)) : (s.connect config).UpToDate := by
  refine ⟨hm, hlog, fun k hk => ?_⟩
  rw [← Option.some.inj hk]
  exact hlast

/-- A load fails and the client waits for a configuration. -/
lemma UpToDate.unconfigured (h : s.UpToDate) {reason : String}
    (hfile : s.watcher.file = .error reason) {phase : Phase} {status : ClientStatus}
    (hphase : phase.next? = none) : { s.load with phase, status }.UpToDate := by
  refine h.move load_managed (load_log_of_error hfile) fun k hk => ?_
  simp [hphase] at hk

/-- A load succeeds and the client connects with what it has loaded. -/
lemma UpToDate.reconfigured (h : s.UpToDate) (hfile : s.watcher.file = .ok U)
    (config : ClientConfig) (retry : ℕ) :
    ({ s.load with retry }.connect (reconcileConfigUpdate config U s.managed)).UpToDate := by
  obtain ⟨hlog, hlast⟩ := load_log_of_ok h.log hfile
  refine upToDate_connect (s := { s.load with retry }) ?_ hlog ?_
  · simpa using h.unmanaged
  · simpa [h.unmanaged] using hlast

lemma UpToDate.loadInitial (h : s.UpToDate) (current : Option ClientConfig) :
    (s.loadInitial current).UpToDate := by
  cases hfile : s.watcher.file with
  | error reason =>
    simp only [Client.loadInitial, hfile]
    exact h.unconfigured hfile rfl
  | ok updated =>
    cases current with
    | some config =>
      simp only [Client.loadInitial, hfile]
      exact h.reconfigured hfile config 1
    | none =>
      -- the first configuration of a client that is not managed is taken as it is
      simp only [Client.loadInitial, hfile, h.unmanaged]
      obtain ⟨hlog, hlast⟩ := load_log_of_ok h.log hfile
      exact upToDate_connect (by simpa using h.unmanaged) hlog hlast

/-- When the connection ends, the configuration that is left has the services of the last one. -/
lemma UpToDate.reconnect {c : Connected} {e : Event} (h : s.UpToDate)
    (hphase : s.phase = .connected config c) (hok : s.KeepsUpdate e)
    (he : ∀ pending, c.pending = some pending → e.reconnects pending.requestId = true) :
    LoadedLast s.log (declarations config.services) := by
  have hnext := h.next _ (congrArg Phase.next? hphase)
  cases hp : c.pending with
  | none => simpa [hp] using hnext
  | some pending =>
    have hsame : declarations pending.updated.services = declarations config.services := by
      simpa [KeepsUpdate, keepsUpdate, hphase, hp, he pending hp] using hok
    rw [← hsame]
    simpa [hp] using hnext

lemma UpToDate.onMessage {c : Connected} {m : ServerControlMessage} (h : s.UpToDate)
    (hphase : s.phase = .connected config c) (hok : s.KeepsUpdate (.message m)) :
    (s.onMessage config c m).UpToDate := by
  have hm := h.unmanaged
  have hnext := h.next _ (congrArg Phase.next? hphase)
  cases m with
  | tunnelSnapshot tunnels =>
    refine h.move rfl rfl fun k hk => ?_
    have heq : k = (c.pending.map (·.updated)).getD config := by
      simpa [Client.onMessage, stay, Phase.next?, retained, hm] using hk.symm
    rw [heq]
    exact hnext
  | servicesApplied requestId tunnels =>
    cases hp : c.pending with
    | none =>
      simp only [Client.onMessage, hp]
      exact upToDate_disconnected hm h.log (h.reconnect hphase hok (by simp [hp])) _
    | some pending =>
      simp only [hp, Option.map_some, Option.getD_some] at hnext
      simp only [Client.onMessage, hp]
      split
      · rename_i hne
        refine upToDate_disconnected hm h.log (h.reconnect hphase hok ?_) _
        rintro pending' hp'
        obtain rfl := Option.some.inj (hp.symm.trans hp')
        simpa [Event.reconnects] using Ne.symm hne
      · refine h.move (by simp [stay, online]) (by simp [stay, online]) fun k hk => ?_
        have heq : k = pending.updated := by
          simpa [stay, Phase.next?, retained, hm] using hk.symm
        rw [heq]
        exact hnext

/-- The branch in which a connected client declares a new configuration. -/
lemma UpToDate.declare {c : Connected} (h : s.UpToDate) (hphase : s.phase = .connected config c)
    (hp : c.pending = none) (hfile : s.watcher.file = .ok U)
    (hidentity : connectionIdentityChanged config U = false)
    {write : Except TunnelError Unit} (hok : s.KeepsUpdate (.changed write)) :
    (s.load.startUpdate config c U none write).UpToDate := by
  have hmload : s.load.managed = false := by simpa using h.unmanaged
  obtain ⟨hlog, hlast⟩ := load_log_of_ok h.log hfile
  cases write with
  | ok =>
    obtain ⟨hlog', hlast'⟩ := along_snoc_message hlog hlast
      (e := .control (.updateServices c.nextRequestId (declarations U.services))) rfl
    refine ⟨hmload, hlog', fun k hk => ?_⟩
    rw [← Option.some.inj hk]
    exact hlast'
  | error error =>
    -- the client reconnects with the old configuration, which declares the same services
    have hsame : declarations U.services = declarations config.services := by
      simpa [KeepsUpdate, keepsUpdate, hphase, hp, hfile, hidentity] using hok
    refine upToDate_disconnected hmload (by simpa using hlog) ?_ error
    rw [← hsame]
    simpa using hlast

lemma UpToDate.onChanged (h : s.UpToDate) (hwatches : s.phase.watches = true)
    {write : Except TunnelError Unit} (hok : s.KeepsUpdate (.changed write)) :
    (s.onChanged write).UpToDate := by
  cases hphase : s.phase with
  | loading | stopped =>
    simp only [Client.onChanged, hphase]
    exact h
  | waiting current =>
    simp only [Client.onChanged, hphase]
    exact h.loadInitial current
  | connecting | authenticating | retrying =>
    cases hfile : s.watcher.file with
    | error reason =>
      simp only [Client.onChanged, hphase, hfile]
      exact h.unconfigured hfile rfl
    | ok updated =>
      simp only [Client.onChanged, hphase, hfile]
      exact h.reconfigured hfile _ _
  | connected config c =>
    have hp : c.pending = none := by simpa [hphase, Phase.watches] using hwatches
    cases hfile : s.watcher.file with
    | error reason =>
      simp only [Client.onChanged, hphase, hfile]
      exact h.unconfigured hfile rfl
    | ok updated =>
      simp only [Client.onChanged, hphase, hfile, h.unmanaged, Bool.false_eq_true, if_false]
      split
      · have hconnect := h.reconfigured hfile config 1
        rwa [h.unmanaged] at hconnect
      · rename_i hidentity
        exact h.declare hphase hp hfile (by simpa using hidentity) hok

lemma UpToDate.onWatcherClosed (h : s.UpToDate) (hwatches : s.phase.watches = true) :
    s.onWatcherClosed.UpToDate := by
  cases hphase : s.phase with
  | loading | stopped =>
    simp only [Client.onWatcherClosed, hphase]
    exact h
  | waiting | retrying =>
    simp only [Client.onWatcherClosed, hphase]
    exact h.move rfl rfl fun k hk => by simp [stop, Phase.next?] at hk
  | connecting | authenticating =>
    simp only [Client.onWatcherClosed, hphase]
    exact upToDate_disconnected h.unmanaged h.log (h.next _ (congrArg Phase.next? hphase)) _
  | connected config c =>
    have hp : c.pending = none := by simpa [hphase, Phase.watches] using hwatches
    have hnext := h.next _ (congrArg Phase.next? hphase)
    simp only [hp] at hnext
    simp only [Client.onWatcherClosed, hphase]
    exact upToDate_disconnected h.unmanaged h.log hnext _

lemma upToDate_step {e : Event} (h : s.UpToDate) (hok : s.KeepsUpdate e)
    (hstep : s.step e = some s') : s'.UpToDate := by
  have hsel : s.select.UpToDate := h.of_phase rfl rfl rfl
  have hm := h.unmanaged
  cases steps_of_step hstep with
  | fileChanged | notify | takeToken | absorbToken => exact h.of_phase rfl rfl rfl
  | ignoredCommand | acceptedStream | taskJoined => exact hsel
  | changed write hwatches => exact hsel.onChanged hwatches hok
  | watcherClosed hwatches => exact h.onWatcherClosed hwatches
  | loadInitial => exact h.loadInitial _
  | shutdown => exact h.move rfl rfl fun k hk => by simp [stop, Phase.next?] at hk
  | connectionStep result hphase =>
    have hnext := h.next _ (congrArg Phase.next? hphase)
    cases result with
    | ok => exact h.move rfl rfl fun k hk => Option.some.inj hk ▸ hnext
    | error error => exact upToDate_disconnected hsel.unmanaged hsel.log hnext error
  | helloWritten hphase =>
    obtain ⟨hlog, hlast⟩ := along_snoc_message h.log (h.next _ (congrArg Phase.next? hphase))
      (e := .hello (s.hello _)) rfl
    exact ⟨hm, hlog, fun k hk => Option.some.inj hk ▸ hlast⟩
  | authentication result hphase =>
    have hnext := h.next _ (congrArg Phase.next? hphase)
    cases result with
    | accepted => exact h.move rfl rfl fun k hk => Option.some.inj hk ▸ hnext
    | deviceIdConflict resolved =>
      refine upToDate_endConnection hm h.log fun k hk => ?_
      cases resolved with
      | none => simp [endConnection, Phase.next?] at hk
      | some => exact Option.some.inj hk ▸ hnext
    | failed error => exact upToDate_disconnected hsel.unmanaged hsel.log hnext error
  | retryElapsed hphase =>
    exact upToDate_connect hm h.log (h.next _ (congrArg Phase.next? hphase))
  | message m hphase => exact hsel.onMessage hphase hok
  | command _ _ _ _ hmanaged => exact absurd (hmanaged.symm.trans hm) (by decide)
  | commandsClosed hphase =>
    refine h.move rfl rfl fun k hk => h.next k ?_
    rw [hphase]
    exact hk
  | deadline hphase =>
    have hlast := hsel.reconnect hphase hok fun _ _ => rfl
    exact upToDate_disconnected (by simpa using hsel.unmanaged) (by simpa using hsel.log)
      (by simpa using hlast) _
  | closed error administrator hphase =>
    cases administrator with
    | true => exact h.move rfl rfl fun k hk => by simp [endConnection, stop, Phase.next?] at hk
    | false =>
      exact upToDate_disconnected hsel.unmanaged hsel.log
        (h.reconnect hphase hok fun _ _ => rfl) error
  | readFailed error hphase | acceptFailed error hphase =>
    exact upToDate_disconnected hsel.unmanaged hsel.log
      (h.reconnect hphase hok fun _ _ => rfl) error

lemma LoadedLast.unique {log : List Entry} {services services' : List ServiceDeclaration}
    (h : LoadedLast log services) (h' : LoadedLast log services') : services = services' := by
  obtain ⟨U, hU, rfl⟩ := h
  obtain ⟨V, hV, rfl⟩ := h'
  rw [Option.some.inj (hU.symm.trans hV)]

/-- The client reconnects with the configuration that it had before the pending update. -/
lemma next_of_reconnects {c : Connected} {pending : PendingServiceUpdate} {e : Event}
    (hphase : s.phase = .connected config c) (hpending : c.pending = some pending)
    (he : e.reconnects pending.requestId = true) (hstep : s.step e = some s') :
    s'.log = s.log ∧ s'.phase.next? = some config := by
  cases steps_of_step hstep with
  | fileChanged | notify | takeToken | absorbToken | changed | watcherClosed | loadInitial
  | shutdown | connectionStep | helloWritten | authentication | retryElapsed | ignoredCommand
  | command | commandsClosed | acceptedStream | taskJoined => exact absurd he Bool.false_ne_true
  | deadline hphase' =>
    obtain ⟨rfl, rfl⟩ := Phase.connected.inj (hphase.symm.trans hphase')
    exact ⟨by simp [select], rfl⟩
  | closed error administrator hphase' =>
    obtain ⟨rfl, rfl⟩ := Phase.connected.inj (hphase.symm.trans hphase')
    cases administrator with
    | true => exact absurd he Bool.false_ne_true
    | false => exact ⟨rfl, rfl⟩
  | readFailed error hphase' | acceptFailed error hphase' =>
    obtain ⟨rfl, rfl⟩ := Phase.connected.inj (hphase.symm.trans hphase')
    exact ⟨rfl, rfl⟩
  | message m hphase' =>
    obtain ⟨rfl, rfl⟩ := Phase.connected.inj (hphase.symm.trans hphase')
    cases m with
    | tunnelSnapshot => exact absurd he Bool.false_ne_true
    | servicesApplied requestId tunnels =>
      have hne : pending.requestId ≠ requestId := Ne.symm (of_decide_eq_true he)
      simp only [Client.onMessage, hpending, if_pos hne]
      exact ⟨rfl, rfl⟩

/-- The update of a changed file cannot be written, and the client reconnects with the configuration
that it had before. -/
lemma UpToDate.of_writeError {c : Connected} {error : TunnelError} (h : s.UpToDate)
    (hphase : s.phase = .connected config c) (hfile : s.watcher.file = .ok U)
    (hidentity : connectionIdentityChanged config U = false)
    (h' : (s.onChanged (.error error)).UpToDate) :
    declarations U.services = declarations config.services := by
  have hback : s.onChanged (.error error) = s.load.endConnection config (.disconnected error) := by
    simp [Client.onChanged, hphase, hfile, hidentity, h.unmanaged, startUpdate, beginServiceUpdate,
      respond]
  rw [hback] at h'
  have hlast := h'.next config rfl
  rw [endConnection_log] at hlast
  exact (load_log_of_ok h.log hfile).2.unique hlast

/-- A step that the condition leaves out takes the client back to older services. -/
lemma upToDate_step_iff {e : Event} (h : s.UpToDate) (hstep : s.step e = some s') :
    s'.UpToDate ↔ s.KeepsUpdate e := by
  refine ⟨fun h' => ?_, fun hok => upToDate_step h hok hstep⟩
  simp only [KeepsUpdate, keepsUpdate]
  split
  case h_2 => rfl
  case h_1 config c hphase =>
    split
    case h_1 pending hpending =>
      cases he : e.reconnects pending.requestId with
      | false => rfl
      | true =>
        have hnext : s.phase.next? = some pending.updated := by
          simp [hphase, Phase.next?, hpending]
        obtain ⟨hlog, hback⟩ := next_of_reconnects hphase hpending he hstep
        have hlast := h'.next config hback
        rw [hlog] at hlast
        exact decide_eq_true ((h.next _ hnext).unique hlast)
    case h_2 =>
      split
      case h_2 => rfl
      case h_1 error U hfile =>
        cases hidentity : connectionIdentityChanged config U with
        | true => rfl
        | false =>
          cases steps_of_step hstep with
          | changed =>
            have hsel : s.select.UpToDate := h.of_phase rfl rfl rfl
            exact decide_eq_true (hsel.of_writeError hphase hfile hidentity h')

/-! ## Runs -/

/-- **The client declares the latest configuration.**  In the runs of the unmanaged client that
leave no loaded configuration behind, every message that follows the load of a configuration
declares the services of that configuration or of one that was loaded after it. -/
theorem messages_declare_latest_config {deviceId : String} {file : Except String ClientConfig}
    (h : Reach step KeepsUpdate (.start false deviceId file) s) {pre mid post : List Entry}
    {e : Entry} {services : List ServiceDeclaration}
    (hlog : s.log = pre ++ .loaded U :: mid ++ e :: post) (he : e.declared? = some services) :
    services = declarations U.services ∨
      ∃ V, Entry.loaded V ∈ mid ∧ services = declarations V.services := by
  have hI : s.UpToDate := by
    refine h.invariant (I := UpToDate) ⟨rfl, along_nil, ?_⟩ fun _ _ _ hI hok hstep =>
      (upToDate_step_iff hI hstep).mpr hok
    intro config hc
    simp [start, Phase.next?] at hc
  obtain ⟨V, hlast, rfl⟩ := hI.log _ e post hlog services he
  rcases last?_append_cons pre mid (show (Entry.loaded U).loaded? = some U from rfl) with
    hU | ⟨entry, hmem, V', hV', hlast'⟩
  · left
    rw [Option.some.inj (hlast.symm.trans hU)]
  · right
    obtain rfl : V = V' := Option.some.inj (hlast.symm.trans hlast')
    cases entry with
    | loaded W =>
      obtain rfl := Option.some.inj hV'
      exact ⟨_, hmem, rfl⟩
    | hello | control => simp [Entry.loaded?] at hV'

/-- The hello of the sample configuration with the given services. -/
def sampleHello (names : List String) : ClientHello :=
  ⟨5, "dev", "0123456789abcdef0123456789abcdef".toUTF8.toList, names.map fun name => ⟨name, .tcp⟩⟩

/-- The file changes while the client is connected, the update is confirmed, and the connection
is lost; the hello of the next connection declares the new services. -/
theorem confirmed_update_declared_again :
    ∃ s pre mid post message, Reach step KeepsUpdate
        (.start false "dev" (.ok (sampleConfig ["web"]))) s ∧
      s.log = pre ++ .loaded (sampleConfig ["ssh"]) :: mid ++ .hello message :: post ∧
      Entry.loaded (sampleConfig ["ssh"]) ∉ mid ∧
      (message.services = declarations (sampleConfig ["ssh"]).services ∨
        ∃ V, Entry.loaded V ∈ mid ∧ message.services = declarations V.services) := by
  have hrun : (exec step KeepsUpdate (.start false "dev" (.ok (sampleConfig ["web"])))
      (connectEvents ++
        [.fileChanged (.ok (sampleConfig ["ssh"])), .notify, .takeToken, .changed (.ok ()),
          .message (.servicesApplied 1 []), .closed (.quinnConnection "timed out") false,
          .retryElapsed, .connectionStep (.ok ()), .helloWritten])).map (fun s => s.log) =
      some ([.loaded (sampleConfig ["web"]), .hello (sampleHello ["web"])] ++
        .loaded (sampleConfig ["ssh"]) :: [.control (.updateServices 1 [⟨"ssh", .tcp⟩])] ++
        .hello (sampleHello ["ssh"]) :: []) := by
    decide +kernel
  obtain ⟨s, hs, hlog⟩ := Option.map_eq_some_iff.mp hrun
  have hreach := reach_of_exec hs
  exact ⟨s, _, _, _, _, hreach, hlog, by decide,
    messages_declare_latest_config hreach hlog rfl⟩

/-- The file changes while the client is connected, the update is sent, and the connection is
lost before the confirmation arrives.  The hello of the next connection declares the services
of the old configuration. -/
theorem unconfirmed_update_replaced_by_old_config :
    ∃ s pre mid post message, Reach step Always
        (.start false "dev" (.ok (sampleConfig ["web"]))) s ∧
      s.log = pre ++ .loaded (sampleConfig ["ssh"]) :: mid ++ .hello message :: post ∧
      ¬ (message.services = declarations (sampleConfig ["ssh"]).services ∨
        ∃ V, Entry.loaded V ∈ mid ∧ message.services = declarations V.services) := by
  have hrun : (exec step Always (.start false "dev" (.ok (sampleConfig ["web"])))
      (connectEvents ++
        [.fileChanged (.ok (sampleConfig ["ssh"])), .notify, .takeToken, .changed (.ok ()),
          .closed (.quinnConnection "timed out") false, .retryElapsed, .connectionStep (.ok ()),
          .helloWritten])).map (fun s => s.log) =
      some ([.loaded (sampleConfig ["web"]), .hello (sampleHello ["web"])] ++
        .loaded (sampleConfig ["ssh"]) :: [.control (.updateServices 1 [⟨"ssh", .tcp⟩])] ++
        .hello (sampleHello ["web"]) :: []) := by
    decide +kernel
  obtain ⟨s, hs, hlog⟩ := Option.map_eq_some_iff.mp hrun
  refine ⟨s, _, _, _, _, reach_of_exec hs, hlog, ?_⟩
  rintro (hnew | ⟨V, hV, -⟩)
  · exact absurd hnew (by decide)
  · simp at hV

end GateRust.Tunnel.Client
