/-
# What a managed client sends

A client with a command channel declares services for two reasons: in the hello of every
connection, and in an update when it is given a command.  A change of its configuration file
makes it reconnect or does nothing to its services.
-/
import GateRust.Tunnel.ClientUpdates

namespace GateRust.Tunnel.Client

variable {s s' s'' : Client} {config : ClientConfig}

/-- The update that an entry of the log is. -/
def Entry.update? : Entry → Option (UInt64 × List ServiceDeclaration)
  | .control (.updateServices requestId services) => some (requestId, services)
  | .loaded _ | .hello _ => none

/-- Between `s` and `s'` the client has logged entries that are not updates. -/
structure Quiet (s s' : Client) : Prop where
  managed : s'.managed = s.managed
  log : ∃ entries, s'.log = s.log ++ entries ∧ entries.filterMap Entry.update? = []

namespace Quiet

lemma of_eq (hm : s'.managed = s.managed) (hlog : s'.log = s.log) : s.Quiet s' :=
  ⟨hm, [], by rw [hlog, List.append_nil], rfl⟩

lemma trans (h : s.Quiet s') (h' : s'.Quiet s'') : s.Quiet s'' := by
  obtain ⟨entries, hlog, hnil⟩ := h.log
  obtain ⟨entries', hlog', hnil'⟩ := h'.log
  refine ⟨h'.managed.trans h.managed, entries ++ entries', ?_, ?_⟩
  · rw [hlog', hlog, List.append_assoc]
  · rw [List.filterMap_append, hnil, hnil', List.append_nil]

lemma load : s.Quiet s.load := by
  unfold Client.load
  split
  · rename_i config _
    exact ⟨rfl, [.loaded config], rfl, rfl⟩
  · exact of_eq rfl rfl

lemma endConnection (h : s.Quiet s') (r : ConnectionEnd) :
    s.Quiet (s'.endConnection config r) :=
  h.trans (of_eq (endConnection_managed r) (endConnection_log r))

lemma loadInitial (current : Option ClientConfig) : s.Quiet (s.loadInitial current) := by
  unfold Client.loadInitial
  split <;> exact load.trans (of_eq rfl rfl)

lemma onWatcherClosed : s.Quiet s.onWatcherClosed := by
  unfold Client.onWatcherClosed
  split
  · exact of_eq rfl rfl
  · exact of_eq rfl rfl
  all_goals first | exact (of_eq rfl rfl).endConnection _ | exact of_eq rfl rfl

lemma onMessage {c : Connected} (m : ServerControlMessage) : s.Quiet (s.onMessage config c m) := by
  cases m with
  | tunnelSnapshot tunnels => exact of_eq rfl rfl
  | servicesApplied requestId tunnels =>
    unfold Client.onMessage
    cases c.pending with
    | none => exact (of_eq rfl rfl).endConnection _
    | some pending =>
      simp only
      split
      · exact (of_eq rfl rfl).endConnection _
      · exact of_eq (by simp [stay, online]) (by simp [stay, online])

/-- The services of a managed client do not come from the file. -/
lemma onChanged (hm : s.managed = true) (write : Except TunnelError Unit) :
    s.Quiet (s.onChanged write) := by
  cases hphase : s.phase with
  | waiting current =>
    simp only [Client.onChanged, hphase]
    exact loadInitial current
  | connecting config | authenticating config =>
    simp only [Client.onChanged, hphase]
    split <;> exact load.endConnection _
  | connected config c =>
    simp only [Client.onChanged, hphase, hm, if_true]
    split
    · split
      · exact load.endConnection _
      · exact load.trans (of_eq rfl rfl)
    · exact load.endConnection _
  | retrying config =>
    simp only [Client.onChanged, hphase]
    split <;> exact load.trans (of_eq rfl rfl)
  | loading | stopped =>
    simp only [Client.onChanged, hphase]
    exact of_eq rfl rfl

end Quiet

/-- **A managed client sends an update only when it is given a command**, and the update
declares the services of the command. -/
lemma updates_of_step {e : Event} (hm : s.managed = true) (h : s.step e = some s') :
    s'.managed = true ∧ ∃ entries, s'.log = s.log ++ entries ∧
      ∀ requestId declared, (requestId, declared) ∈ entries.filterMap Entry.update? →
        ∃ services response, e = .command services response false (.ok ()) ∧
          declared = declarations services := by
  have hquiet : s.Quiet s' → s'.managed = true ∧ ∃ entries, s'.log = s.log ++ entries ∧
      ∀ requestId declared, (requestId, declared) ∈ entries.filterMap Entry.update? →
        ∃ services response, e = .command services response false (.ok ()) ∧
          declared = declarations services := by
    intro hq
    obtain ⟨entries, hlog, hnil⟩ := hq.log
    refine ⟨hq.managed.trans hm, entries, hlog, fun requestId declared hmem => ?_⟩
    simp [hnil] at hmem
  have hselect : s.Quiet s.select := .of_eq rfl rfl
  cases steps_of_step h with
  | command services response write hphase =>
    cases write with
    | ok =>
      refine ⟨hm, [.control (.updateServices _ (declarations services))], rfl, ?_⟩
      intro requestId declared hmem
      simp only [List.filterMap_cons, Entry.update?, List.filterMap_nil, List.mem_singleton,
        Prod.mk.injEq] at hmem
      exact ⟨services, response, rfl, hmem.2⟩
    | error error =>
      exact hquiet (.of_eq (by simp [startUpdate, beginServiceUpdate, select])
        (by simp [startUpdate, beginServiceUpdate, select]))
  | fileChanged | notify | takeToken | absorbToken | ignoredCommand | acceptedStream | taskJoined
  | shutdown | retryElapsed | commandsClosed => exact hquiet (.of_eq rfl rfl)
  | changed write =>
    have hm' : s.select.managed = true := hm
    exact hquiet (hselect.trans (.onChanged hm' write))
  | watcherClosed => exact hquiet .onWatcherClosed
  | loadInitial => exact hquiet (.loadInitial _)
  | connectionStep result =>
    cases result with
    | ok => exact hquiet (.of_eq rfl rfl)
    | error error => exact hquiet (hselect.endConnection (.disconnected error))
  | helloWritten hphase => exact hquiet ⟨rfl, [.hello _], rfl, rfl⟩
  | authentication result =>
    cases result with
    | accepted tunnels => exact hquiet (.of_eq rfl rfl)
    | deviceIdConflict resolved => exact hquiet (hselect.endConnection _)
    | failed error => exact hquiet (hselect.endConnection (.disconnected error))
  | deadline => exact hquiet (Quiet.endConnection (.of_eq (by simp [select]) (by simp [select])) _)
  | closed | readFailed | acceptFailed => exact hquiet (hselect.endConnection _)
  | message m => exact hquiet (hselect.trans (.onMessage m))

end GateRust.Tunnel.Client
