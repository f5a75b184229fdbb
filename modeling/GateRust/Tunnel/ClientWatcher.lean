/-
# Change notifications of the client

A change of the configuration file puts a notification into the channel of the watcher.
`changed` takes it out and then waits for 50 ms without a further one before it returns, and
only then is the file loaded.  A `select!` that polls this call drops it as soon as another
branch is ready; if that happens in the quiet period, the notification is gone and the file is
not loaded.

In the runs in which this does not happen no notification is lost.
-/
import GateRust.Tunnel.Client

namespace GateRust.Tunnel.Client

open Machine

variable {s s' : Client}

/-! ## What the operations do to the watcher -/

@[simp] lemma connect_watcher (config : ClientConfig) :
    (s.connect config).watcher = s.watcher := rfl

@[simp] lemma stay_watcher (config : ClientConfig) (c : Connected) :
    (s.stay config c).watcher = s.watcher := rfl

@[simp] lemma online_watcher (config : ClientConfig) (tunnels : List ClientTunnel) :
    (s.online config tunnels).watcher = s.watcher := rfl

@[simp] lemma respond_watcher (response : Option ℕ) (result : Except String (List ClientTunnel)) :
    (s.respond response result).watcher = s.watcher := by
  cases response <;> rfl

@[simp] lemma endConnection_watcher (config : ClientConfig) (r : ConnectionEnd) :
    (s.endConnection config r).watcher = s.watcher := by
  rcases r with _ | _ | _ | (_ | _) | _ | _ <;> rfl

@[simp] lemma load_watcher : s.load.watcher = s.watcher.read := by
  unfold load
  split <;> rfl

@[simp] lemma loadInitial_watcher (current : Option ClientConfig) :
    (s.loadInitial current).watcher = s.watcher.read := by
  unfold loadInitial
  split <;> simp

@[simp] lemma startUpdate_watcher (config : ClientConfig) (c : Connected) (updated : ClientConfig)
    (response : Option ℕ) (write : Except TunnelError Unit) :
    (s.startUpdate config c updated response write).watcher = s.watcher := by
  cases write <;> simp [startUpdate, beginServiceUpdate]

@[simp] lemma onMessage_watcher (config : ClientConfig) (c : Connected)
    (m : ServerControlMessage) : (s.onMessage config c m).watcher = s.watcher := by
  cases m with
  | tunnelSnapshot => rfl
  | servicesApplied =>
    simp only [onMessage]
    split
    · simp
    · split <;> simp

lemma onConnectionStep_watcher (config : ClientConfig) (result : Except TunnelError Unit) :
    (s.onConnectionStep config result).watcher = s.watcher := by
  cases result <;> rfl

lemma onAuthentication_watcher (config : ClientConfig) (result : AuthenticationResult) :
    (s.onAuthentication config result).watcher = s.watcher := by
  cases result <;> simp [onAuthentication]

/-- Every branch that handles a change loads the file. -/
lemma onChanged_watcher (h : s.phase.watches = true) (write : Except TunnelError Unit) :
    (s.onChanged write).watcher = s.watcher.read := by
  unfold onChanged
  split
  · simp
  · split <;> simp
  · split <;> simp
  · split
    · split
      · simp
      · split <;> simp
    · simp
  · split <;> simp
  · simp_all [Phase.watches]
  · simp_all [Phase.watches]

lemma onWatcherClosed_watcher : s.onWatcherClosed.watcher = s.watcher := by
  unfold onWatcherClosed
  split <;> simp [stop]

/-! ## Notifications -/

/-- Branches of the `select!` loops after which the client goes on: all but those of the watcher
and those that stop the client. -/
def Event.goesOn : Event → Bool
  | .connectionStep _ | .retryElapsed | .deadline | .message _ | .readFailed _ | .command ..
  | .commandsClosed | .acceptStream _ | .taskJoined => true
  | .closed _ administrator => !administrator
  | .authentication (.deviceIdConflict none) => false
  | .authentication _ => true
  | .fileChanged _ | .notify | .takeToken | .absorbToken | .changed _ | .watcherClosed
  | .loadInitial | .helloWritten | .shutdown => false

/-- No branch after which the client goes on wins during the quiet period of `changed`. -/
def KeepsNotification (s : Client) (e : Event) : Prop :=
  s.watcher.holding = true → e.goesOn = false

instance (s : Client) (e : Event) : Decidable (s.KeepsNotification e) :=
  inferInstanceAs (Decidable (_ → _))

/-- A change that the client has not loaded is still announced, or the client has stopped. -/
def Announced (s : Client) : Prop :=
  s.watcher.changedSinceLoad = true →
    s.watcher.undelivered = true ∨ s.watcher.token = true ∨ s.watcher.holding = true ∨
      s.phase = .stopped

/-- A step that drops the call of `changed`, which holds no notification unless the client
stops. -/
lemma Announced.release (hI : s.Announced) (hw : s'.watcher = s.watcher.release)
    (hphase : s.phase ≠ .stopped) (hkeep : s.watcher.holding = true → s'.phase = .stopped) :
    s'.Announced := by
  intro hchanged
  rw [hw] at hchanged ⊢
  rcases hI hchanged with hund | htoken | hhold | hstopped
  · exact Or.inl hund
  · exact Or.inr (Or.inl htoken)
  · exact Or.inr (Or.inr (Or.inr (hkeep hhold)))
  · exact absurd hstopped hphase

/-- A step that leaves the watcher alone. -/
lemma Announced.same (hI : s.Announced) (hw : s'.watcher = s.watcher)
    (hphase : s.phase ≠ .stopped) : s'.Announced := by
  intro hchanged
  rw [hw] at hchanged ⊢
  rcases hI hchanged with hund | htoken | hhold | hstopped
  · exact Or.inl hund
  · exact Or.inr (Or.inl htoken)
  · exact Or.inr (Or.inr (Or.inl hhold))
  · exact absurd hstopped hphase

/-- A step that reads the file. -/
lemma announced_of_read {w : ConfigWatcher} (hw : s.watcher = w.read) : s.Announced := by
  intro hchanged
  rw [hw] at hchanged
  simp [ConfigWatcher.read] at hchanged

lemma announced_step {e : Event} (hI : s.Announced) (hok : s.KeepsNotification e)
    (h : s.step e = some s') : s'.Announced := by
  have hnone : e.goesOn = true → s.watcher.holding = true → s'.phase = .stopped :=
    fun hgo hhold => absurd hgo (by simp [hok hhold])
  cases steps_of_step h with
  | fileChanged => exact fun _ => Or.inl rfl
  | notify => exact fun _ => Or.inr (Or.inl rfl)
  | takeToken => exact fun _ => Or.inr (Or.inr (Or.inl rfl))
  | absorbToken hhold =>
    -- the notification that is absorbed arrived while another one is held
    exact fun _ => Or.inr (Or.inr (Or.inl hhold))
  | changed write hwatches =>
    have hselected : s.select.phase.watches = true := hwatches
    exact announced_of_read (onChanged_watcher hselected write)
  | loadInitial => exact announced_of_read (loadInitial_watcher _)
  | watcherClosed hwatches =>
    exact hI.same onWatcherClosed_watcher fun hp => by simp [hp, Phase.watches] at hwatches
  | helloWritten hphase => exact hI.same rfl (by simp [hphase])
  | shutdown hphase => exact hI.release rfl hphase fun _ => rfl
  | connectionStep result hphase =>
    exact hI.release (onConnectionStep_watcher _ _) (by simp [hphase]) (hnone rfl)
  | authentication result hphase =>
    refine hI.release (onAuthentication_watcher _ _) (by simp [hphase]) ?_
    -- only a conflict of the device id that is not resolved stops the client
    rcases result with _ | (_ | _) | _
    · exact hnone rfl
    · exact fun _ => rfl
    · exact hnone rfl
    · exact hnone rfl
  | closed error administrator hphase =>
    refine hI.release (endConnection_watcher _ _) (by simp [hphase]) ?_
    cases administrator with
    | true => exact fun _ => rfl
    | false => exact hnone rfl
  | retryElapsed hphase => exact hI.release rfl (by simp [hphase]) (hnone rfl)
  | deadline hphase => exact hI.release (by simp [select]) (by simp [hphase]) (hnone rfl)
  | message _ hphase => exact hI.release (by simp [select]) (by simp [hphase]) (hnone rfl)
  | command _ _ _ hphase => exact hI.release (by simp [select]) (by simp [hphase]) (hnone rfl)
  | readFailed _ hphase | acceptFailed _ hphase | ignoredCommand _ _ _ hphase
  | commandsClosed hphase | acceptedStream hphase | taskJoined hphase =>
    exact hI.release rfl (by simp [hphase]) (hnone rfl)

/-- A branch after which the client goes on drops the call of `changed`. -/
lemma release_of_goesOn {e : Event} (he : e.goesOn = true) (h : s.step e = some s') :
    s'.watcher = s.watcher.release ∧ s'.phase ≠ .stopped := by
  cases steps_of_step h with
  | fileChanged | notify | takeToken | absorbToken | changed | watcherClosed | loadInitial
  | helloWritten | shutdown => exact absurd he Bool.false_ne_true
  | connectionStep result =>
    refine ⟨onConnectionStep_watcher _ _, ?_⟩
    cases result <;> simp [onConnectionStep, endConnection]
  | authentication result =>
    refine ⟨onAuthentication_watcher _ _, ?_⟩
    rcases result with _ | (_ | _) | _
    · simp [onAuthentication, stay]
    · exact absurd he Bool.false_ne_true
    · simp [onAuthentication, endConnection, connect]
    · simp [onAuthentication, endConnection]
  | closed error administrator =>
    refine ⟨endConnection_watcher _ _, ?_⟩
    cases administrator with
    | true => exact absurd he Bool.false_ne_true
    | false => simp [endConnection]
  | retryElapsed => exact ⟨rfl, by simp [connect]⟩
  | deadline => exact ⟨by simp [select], by simp [endConnection]⟩
  | message m =>
    refine ⟨by simp [select], ?_⟩
    cases m with
    | tunnelSnapshot => simp [onMessage, stay]
    | servicesApplied =>
      simp only [onMessage]
      split
      · simp [endConnection]
      · split <;> simp [endConnection, stay]
  | command _ _ write =>
    refine ⟨by simp [select], ?_⟩
    cases write <;> simp [startUpdate, beginServiceUpdate, endConnection, stay]
  | readFailed | acceptFailed => exact ⟨rfl, by simp [endConnection]⟩
  | commandsClosed => exact ⟨rfl, by simp [stay]⟩
  | ignoredCommand _ _ _ hphase | acceptedStream hphase | taskJoined hphase =>
    exact ⟨rfl, by simp [select, hphase]⟩

/-- A step that the condition leaves out loses the last notification of a change, unless there was
nothing to announce or another one is there. -/
lemma announced_step_iff {e : Event} (hI : s.Announced) (h : s.step e = some s') :
    s'.Announced ↔ s.KeepsNotification e ∨ (s.watcher.changedSinceLoad = true →
      s.watcher.undelivered = true ∨ s.watcher.token = true) := by
  constructor
  · intro hI'
    by_cases hgo : e.goesOn = true
    · refine Or.inr fun hchanged => ?_
      obtain ⟨hw, hphase⟩ := release_of_goesOn hgo h
      have hannounced := hI'
      rw [Announced, hw] at hannounced
      rcases hannounced hchanged with hund | htoken | hhold | hstopped
      · exact Or.inl hund
      · exact Or.inr htoken
      · exact absurd hhold Bool.false_ne_true
      · exact absurd hstopped hphase
    · exact Or.inl fun _ => Bool.eq_false_of_not_eq_true hgo
  · rintro (hkeep | hother)
    · exact announced_step hI hkeep h
    · by_cases hgo : e.goesOn = true
      · obtain ⟨hw, -⟩ := release_of_goesOn hgo h
        intro hchanged
        rw [hw] at hchanged ⊢
        rcases hother hchanged with hund | htoken
        · exact Or.inl hund
        · exact Or.inr (Or.inl htoken)
      · exact announced_step hI (fun _ => Bool.eq_false_of_not_eq_true hgo) h

/-- **No change notification is lost** in the runs in which no branch that lets the client go
on wins during the quiet period of `changed`: when the file has changed after the client last
loaded it, a notification is on its way, in the channel, or held by a live call of `changed`,
unless the client has stopped. -/
theorem change_notification_kept {managed : Bool} {deviceId : String}
    {file : Except String ClientConfig}
    (h : Reach step KeepsNotification (.start managed deviceId file) s)
    (hchanged : s.watcher.changedSinceLoad = true) :
    s.watcher.undelivered = true ∨ s.watcher.token = true ∨ s.watcher.holding = true ∨
      s.phase = .stopped := by
  have hI : s.Announced := by
    refine h.invariant (I := Announced) ?_ fun _ _ _ hI hok hstep =>
      (announced_step_iff hI hstep).mpr (Or.inl hok)
    intro h
    simp [start] at h
  exact hI hchanged

/-- The file changes while the client is connected, and the call of `changed` takes the
notification. -/
theorem notification_held_in_quiet_period :
    ∃ s, Reach step KeepsNotification (.start false "dev" (.ok (sampleConfig ["web"]))) s ∧
      s.watcher.changedSinceLoad = true ∧ s.watcher.holding = true ∧
      (s.watcher.undelivered = true ∨ s.watcher.token = true ∨ s.watcher.holding = true ∨
        s.phase = .stopped) := by
  have hrun : (exec step KeepsNotification (.start false "dev" (.ok (sampleConfig ["web"])))
      (connectEvents ++ [.fileChanged (.ok (sampleConfig ["web", "ssh"])), .acceptStream (.ok ()),
        .notify, .takeToken])).map
      (fun s => (s.watcher.changedSinceLoad, s.watcher.holding)) = some (true, true) := by
    decide +kernel
  obtain ⟨s, hs, hview⟩ := Option.map_eq_some_iff.mp hrun
  obtain ⟨hchanged, hhold⟩ := Prod.mk.inj hview
  have hreach := reach_of_exec hs
  exact ⟨s, hreach, hchanged, hhold, change_notification_kept hreach hchanged⟩

/-- The file changes while the client is connected, the call of `changed` takes the
notification, and a data stream is accepted in the quiet period.  The client runs on with the
old configuration and nothing announces the change any more. -/
theorem notification_lost_in_quiet_period :
    ∃ s, Reach step Always (.start false "dev" (.ok (sampleConfig ["web"]))) s ∧
      s.watcher.changedSinceLoad = true ∧ s.phase.watches = true ∧
      ¬ (s.watcher.undelivered = true ∨ s.watcher.token = true ∨ s.watcher.holding = true ∨
        s.phase = .stopped) := by
  have hrun : (exec step Always (.start false "dev" (.ok (sampleConfig ["web"])))
      (connectEvents ++ [.fileChanged (.ok (sampleConfig ["web", "ssh"])), .notify, .takeToken,
        .acceptStream (.ok ())])).map
      (fun s => (s.watcher.changedSinceLoad, s.phase.watches, s.watcher.undelivered,
        s.watcher.token, s.watcher.holding)) = some (true, true, false, false, false) := by
    decide +kernel
  obtain ⟨s, hs, hview⟩ := Option.map_eq_some_iff.mp hrun
  simp only [Prod.mk.injEq] at hview
  obtain ⟨hchanged, hwatches, hund, htoken, hhold⟩ := hview
  have hphase : s.phase ≠ .stopped := by
    intro hp
    simp [hp, Phase.watches] at hwatches
  exact ⟨s, reach_of_exec hs, hchanged, hwatches, by simp [hund, htoken, hhold, hphase]⟩

end GateRust.Tunnel.Client
