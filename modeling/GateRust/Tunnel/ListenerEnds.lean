/-
# Listeners that end by themselves

`stream::run` and `udp::run` leave their loops when `accept` or `recv_from` fails.  The manager
does not look at its tasks: a handle stays in the active map, and `same_listener` compares
configurations only.  So a call restarts a dead listener when the list changes it, and leaves it
dead when the list keeps it.
-/
import GateRust.Tunnel.ListenerReload

namespace GateRust.Tunnel

open Machine ListenerManager

/-- The manager, with the ids of the tasks that have `ended` by themselves. -/
structure ListenerLives where
  manager : ListenerManager
  ended : List ℕ

/-- A call of the manager, with the tasks that end before it returns, or the end of a task between
two calls. -/
inductive LifeEvent where
  | call (event : ListenerEvent) (meanwhile : List ℕ)
  | ends (id : ℕ)

namespace ListenerLives

def new (runtime : TunnelRuntime) : ListenerLives := ⟨.new runtime, []⟩

/-- Only a task that has been started can end.  The manager does not read `ended`. -/
def step (sha256 : GroupSecret → Digest) (system : System) (s : ListenerLives) :
    LifeEvent → Option ListenerLives
  | .call event meanwhile => do
    let manager ← s.manager.step sha256 system event
    guard (∀ id ∈ meanwhile, id ∈ manager.started.map (·.id))
    return ⟨manager, meanwhile ++ s.ended⟩
  | .ends id => do
    guard (id ∈ s.manager.started.map (·.id))
    return { s with ended := id :: s.ended }

def Admissible (s : ListenerLives) : LifeEvent → Prop
  | .call event _ => event.Admissible s.manager
  | .ends _ => True

instance (s : ListenerLives) (e : LifeEvent) : Decidable (s.Admissible e) :=
  match e with
  | .call event _ => inferInstanceAs (Decidable (event.Admissible s.manager))
  | .ends _ => inferInstanceAs (Decidable True)

/-- Some task still accepts on the bind address of the tunnel. -/
def Accepts (s : ListenerLives) (c : ServerTunnelConfig) : Prop :=
  ∃ t ∈ s.manager.started, (t.id ∉ s.manager.stopped ∧ t.id ∉ s.ended) ∧
    t.config.name = c.name ∧ t.config.endpoint = c.endpoint

instance (s : ListenerLives) (c : ServerTunnelConfig) : Decidable (s.Accepts c) :=
  inferInstanceAs (Decidable (∃ t ∈ _, _))

/-- No listener that the list keeps has ended, and none ends in the call. -/
def KeptAlive (s : ListenerLives) (configs : List ServerTunnelConfig) (meanwhile : List ℕ) : Prop :=
  ∀ c ∈ configs, ∀ handle, s.manager.active.lookup c.name = some handle →
    sameListener handle.config c = true → handle.task.id ∉ meanwhile ++ s.ended

/-- No listener that the call starts ends before the call returns: the ids from `nextId` on are
those of the call. -/
def NewAlive (s : ListenerLives) (meanwhile : List ℕ) : Prop :=
  ∀ id ∈ meanwhile, id < s.manager.nextId

end ListenerLives

/-! ## The ids of the tasks -/

namespace ListenerManager

variable {system : System} {m m' m'' : ListenerManager} {configs : List ServerTunnelConfig}
  {finished : List ℕ}

/-- The tasks that were started since `m` have ids from `m.nextId` on. -/
structure Numbered (m m' : ListenerManager) : Prop where
  nextId : m.nextId ≤ m'.nextId
  started : ∀ t ∈ m'.started, t ∈ m.started ∨ m.nextId ≤ t.id

lemma Numbered.refl (m : ListenerManager) : Numbered m m := ⟨le_rfl, fun _ h => Or.inl h⟩

lemma Numbered.trans (h : Numbered m m') (h' : Numbered m' m'') : Numbered m m'' := by
  refine ⟨h.nextId.trans h'.nextId, fun t ht => ?_⟩
  rcases h'.started t ht with hold | hnew
  · exact h.started t hold
  · exact Or.inr (h.nextId.trans hnew)

lemma numbered_stopAll (names : List String) (m : ListenerManager) :
    Numbered m (names.foldl stop m) := by
  have hs := stopAll_spec names m
  refine ⟨hs.nextId.ge, fun t ht => ?_⟩
  rw [hs.started] at ht
  exact Or.inl ht

lemma numbered_startMissing (system : System) (config : ServerTunnelConfig)
    (m : ListenerManager) : Numbered m (startMissing system config m).2 := by
  rcases startMissing_cases system config m with ⟨-, heq⟩ | ⟨-, limiter, limiters, nextId,
    hlimiter, hround⟩
  · rw [heq]
    exact .refl m
  obtain ⟨_, _, _, heq, hle, -⟩ := limiterFor_spec m config
  rw [hlimiter] at heq
  cases heq
  rcases hround with ⟨error, -, heq⟩ | ⟨-, heq⟩
  · rw [heq]
    exact ⟨hle, fun t ht => Or.inl ht⟩
  · rw [heq]
    refine ⟨Nat.le_succ_of_le hle, fun t ht => ?_⟩
    rcases List.mem_cons.mp ht with rfl | hold
    · exact Or.inr hle
    · exact Or.inl hold

lemma numbered_startPhase (system : System) (configs : List ServerTunnelConfig)
    (m : ListenerManager) :
    Numbered m (Except.untilError (startMissing system) configs m).2 :=
  Except.untilError_invariant (.refl m) fun c _ s hs => hs.trans (numbered_startMissing system c s)

lemma numbered_applyOnce (system : System) (configs : List ServerTunnelConfig)
    (m : ListenerManager) : Numbered m (applyOnce system configs m).2 := by
  have hphases := (numbered_stopAll (m.removed configs) m).trans
    (numbered_startPhase system configs _)
  rcases hcall : applyOnce system configs m with ⟨e | ⟨⟩, m'⟩
  · rw [applyOnce_error hcall] at hphases
    exact hphases
  · obtain ⟨s, hs, rfl⟩ := applyOnce_ok hcall
    rw [hs] at hphases
    obtain ⟨-, -, hnext, hstarted, -⟩ := updateConfigs_frame configs s
    refine ⟨hphases.nextId.trans hnext.ge, fun t ht => hphases.started t ?_⟩
    rw [← hstarted]
    exact ht

lemma numbered_apply (system : System) (finished : List ℕ) (configs : List ServerTunnelConfig)
    (m : ListenerManager) : Numbered m (m.apply system finished configs).2 := by
  have hfirst := numbered_applyOnce system configs (m.reapRetired finished)
  rcases apply_cases system finished configs m with ⟨m', hcall, heq⟩ | ⟨e, failed, hcall, hback⟩
  · rw [hcall] at hfirst
    rw [heq]
    exact ⟨hfirst.nextId, hfirst.started⟩
  · rw [hcall] at hfirst
    have hsecond := numbered_applyOnce system
      (system.order (m.reapRetired finished).binds (m.reapRetired finished).configs)
      { failed with limiters := (m.reapRetired finished).limiters }
    have hboth : Numbered m (rollBack system (m.reapRetired finished) failed).2 :=
      ⟨hfirst.nextId.trans hsecond.nextId, fun t ht => by
        rcases hsecond.started t ht with hold | hnew
        · exact hfirst.started t hold
        · exact Or.inr (hfirst.nextId.trans hnew)⟩
    rcases hback with ⟨m', hback, heq⟩ | ⟨e', e'', m', hback, heq⟩
    · rw [heq]
      rw [hback] at hboth
      exact hboth
    · rw [heq]
      rw [hback] at hboth
      exact hboth

/-- What a call that succeeds does to the tasks. -/
structure Called (configs : List ServerTunnelConfig) (m m' : ListenerManager) : Prop where
  sound : m'.Sound
  only : ∀ name h, m'.active.lookup name = some h → h.config ∈ configs ∧ h.config.name = name
  all : ∀ c ∈ configs, ∃ h, m'.active.lookup c.name = some h ∧ h.config = c
  kept : ∀ name h, m.active.lookup name = some h → Keeps configs h →
    ∃ h', m'.active.lookup name = some h' ∧ h'.task = h.task
  numbered : Numbered m m'
  stopped : ∀ id, id ∈ m'.stopped ↔ id ∈ m.stopped ∨
    ∃ name h, m.active.lookup name = some h ∧ ¬ Keeps configs h ∧ h.task.id = id

lemma called_of_apply (h : m.Sound) (hnodup : (configs.map (·.name)).Nodup)
    (hok : (m.apply system finished configs).1 = .ok ()) :
    Called configs m (m.apply system finished configs).2 := by
  have hreaped := h.reapRetired finished
  have hsound : (m.apply system finished configs).2.Sound := h.apply hnodup
  have hnumbered := numbered_apply system finished configs m
  rcases apply_cases system finished configs m with ⟨m', hcall, heq⟩ | ⟨e, failed, -,
    ⟨m', -, heq⟩ | ⟨e', e'', m', -, heq⟩⟩
  · rw [heq] at hsound hnumbered ⊢
    have happlied := applied_of_applyOnce hnodup hreaped.tracked hcall
    refine ⟨hsound, happlied.only, happlied.all, happlied.kept, hnumbered, ?_⟩
    obtain ⟨s, hs, rfl⟩ := applyOnce_ok hcall
    have hstarted := started_startPhase system configs
      (((m.reapRetired finished).removed configs).foldl stop (m.reapRetired finished))
    rw [hs] at hstarted
    have hstop := stopAll_spec ((m.reapRetired finished).removed configs) (m.reapRetired finished)
    obtain ⟨-, -, -, -, hstopped⟩ := updateConfigs_frame configs s
    -- the call stops tasks only in its first phase
    intro id
    show id ∈ (configs.foldl updateConfig s).stopped ↔ _
    rw [hstopped, hstarted.stopped, hstop.stopped]
    refine or_congr Iff.rfl ⟨?_, ?_⟩
    · rintro ⟨name, hname, handle, hhd, hid⟩
      obtain ⟨handle', hhd', hkeeps⟩ := (mem_removed hnodup hreaped.tracked.name).mp hname
      rw [hhd] at hhd'
      cases hhd'
      exact ⟨name, handle, hhd, hkeeps, hid⟩
    · rintro ⟨name, handle, hhd, hkeeps, hid⟩
      exact ⟨name, (mem_removed hnodup hreaped.tracked.name).mpr ⟨handle, hhd, hkeeps⟩,
        handle, hhd, hid⟩
  · rw [heq] at hok
    cases hok
  · rw [heq] at hok
    cases hok

/-- What runs after the call and is older than it was running before, and the list keeps it. -/
lemma Called.kept_of_lt (h : Called configs m m') (hsound : m.Sound) {t : ListenerTask}
    (ht : t ∈ m'.started) (hid : t.id ∉ m'.stopped) (hlt : t.id < m.nextId) :
    ∃ name handle, m.active.lookup name = some handle ∧ Keeps configs handle ∧
      handle.task = t := by
  rw [h.stopped, not_or] at hid
  have hold : t ∈ m.started := (h.numbered.started t ht).resolve_right (Nat.not_le.mpr hlt)
  obtain ⟨name, handle, hhd, rfl⟩ := hsound.tracked.held t hold hid.1
  exact ⟨name, handle, hhd, by_contra fun hkeeps => hid.2 ⟨name, handle, hhd, hkeeps, rfl⟩, rfl⟩

/-- A task that the call starts is not stopped in it. -/
lemma Called.notMem_stopped (h : Called configs m m') (hsound : m.Sound) {id : ℕ}
    (hge : m.nextId ≤ id) : id ∉ m'.stopped := by
  rw [h.stopped]
  rintro (hid | ⟨name, handle, hhd, -, rfl⟩)
  · exact absurd (hsound.tracked.past id hid) (Nat.not_lt.mpr hge)
  · exact absurd (hsound.tracked.fresh _ (hsound.tracked.started name handle hhd))
      (Nat.not_lt.mpr hge)

end ListenerManager

/-! ## Dead listeners -/

namespace ListenerLives

variable {sha256 : GroupSecret → Digest} {system : System} {runtime : TunnelRuntime}
  {s s' : ListenerLives} {configs : List ServerTunnelConfig} {finished meanwhile : List ℕ}

lemma call_spec {event : ListenerEvent}
    (h : s.step sha256 system (.call event meanwhile) = some s') :
    ∃ manager, s.manager.step sha256 system event = some manager ∧
      (∀ id ∈ meanwhile, ∃ t ∈ manager.started, t.id = id) ∧
      s' = ⟨manager, meanwhile ++ s.ended⟩ := by
  simp only [step, Option.bind_eq_bind, Option.bind_eq_some_iff, Option.guard_eq_some'] at h
  obtain ⟨manager, hmanager, -, hstarted, heq⟩ := h
  refine ⟨manager, hmanager, fun id hid => List.mem_map.mp (hstarted id hid), ?_⟩
  cases heq
  rfl

lemma ends_spec {id : ℕ} (h : s.step sha256 system (.ends id) = some s') :
    (∃ t ∈ s.manager.started, t.id = id) ∧ s' = { s with ended := id :: s.ended } := by
  simp only [step, Option.bind_eq_bind, Option.bind_eq_some_iff, Option.guard_eq_some'] at h
  obtain ⟨-, hstarted, heq⟩ := h
  cases heq
  exact ⟨List.mem_map.mp hstarted, rfl⟩

/-- The manager is sound, and only tasks that it has started have ended. -/
structure Alive (s : ListenerLives) : Prop where
  sound : s.manager.Sound
  past : ∀ id ∈ s.ended, id < s.manager.nextId

lemma alive_new (runtime : TunnelRuntime) : (new runtime).Alive :=
  ⟨sound_new runtime, by simp [new]⟩

lemma Alive.step {e : LifeEvent} (h : s.Alive) (hok : s.Admissible e)
    (hstep : s.step sha256 system e = some s') : s'.Alive := by
  cases e with
  | call event meanwhile =>
    obtain ⟨manager, hmanager, hstarted, rfl⟩ := call_spec hstep
    have hsound := h.sound.step hok hmanager
    have hnext : s.manager.nextId ≤ manager.nextId := by
      cases event with
      | apply finished configs =>
        cases hmanager
        exact (numbered_apply system finished configs s.manager).nextId
      | operate op =>
        cases hmanager
        exact le_rfl
    refine ⟨hsound, fun id hid => ?_⟩
    rcases List.mem_append.mp hid with hnew | hold
    · obtain ⟨t, ht, rfl⟩ := hstarted id hnew
      exact hsound.tracked.fresh t ht
    · exact (h.past id hold).trans_le hnext
  | ends id =>
    obtain ⟨⟨t, ht, rfl⟩, rfl⟩ := ends_spec hstep
    refine ⟨h.sound, fun id hid => ?_⟩
    rcases List.mem_cons.mp hid with rfl | hold
    · exact h.sound.tracked.fresh t ht
    · exact h.past id hold

/-- The tasks that are not stopped belong to the active map, each to the tunnel it was started
for. -/
lemma accepts_iff (h : s.manager.Sound) {c : ServerTunnelConfig} {handle : ListenerHandle}
    (hhd : s.manager.active.lookup c.name = some handle) (hconfig : handle.config = c) :
    s.Accepts c ↔ handle.task.id ∉ s.ended := by
  have hpar := h.tracked.parameters c.name handle hhd
  constructor
  · rintro ⟨t, ht, ⟨hstopped, hended⟩, hname, -⟩
    obtain ⟨name, hd, hlookup, rfl⟩ := h.tracked.held t ht hstopped
    have hsame : name = c.name := by
      rw [← hname, name_of_parameters (h.tracked.parameters name hd hlookup)]
      exact (h.tracked.name name hd hlookup).symm
    rw [hsame, hhd] at hlookup
    cases hlookup
    exact hended
  · intro hended
    refine ⟨handle.task, h.tracked.started c.name handle hhd,
      ⟨h.tracked.running c.name handle hhd, hended⟩, ?_, ?_⟩
    · rw [name_of_parameters hpar, hconfig]
    · rw [endpoint_of_parameters hpar, hconfig]

lemma keeps_iff (h : s.manager.Sound) {name : String} {handle : ListenerHandle}
    (hhd : s.manager.active.lookup name = some handle) :
    Keeps configs handle ↔ ∃ c ∈ configs, c.name = name ∧ sameListener handle.config c = true := by
  constructor
  · rintro ⟨c, hc, hpar, hlimit⟩
    refine ⟨c, hc, ?_, sameListener_iff.mpr ⟨hpar, hlimit⟩⟩
    rw [← name_of_parameters hpar]
    exact h.tracked.name name handle hhd
  · rintro ⟨c, hc, -, hsame⟩
    exact ⟨c, hc, sameListener_iff.mp hsame⟩

/-- **A call leaves the listeners dead that it keeps.**  In every reachable state, and for every
list that a call applies: every tunnel of the list has a listener that accepts exactly when no
listener that the list keeps has ended, and none that the call starts ends before it returns. -/
theorem accepts_after_apply_iff
    (h : Reach (step sha256 system) Admissible (new runtime) s) (hdistinct : Distinct configs)
    (hok : (s.manager.apply system finished configs).1 = .ok ())
    (hstep : s.step sha256 system (.call (.apply finished configs) meanwhile) = some s') :
    (∀ c ∈ configs, s'.Accepts c) ↔ s.KeptAlive configs meanwhile ∧ s.NewAlive meanwhile := by
  have halive : s.Alive := h.invariant (alive_new runtime) fun _ _ _ hs hok hstep =>
    hs.step hok hstep
  obtain ⟨manager, hmanager, hstarted, rfl⟩ := call_spec hstep
  cases hmanager
  have hcalled := called_of_apply halive.sound hdistinct.1 hok
  constructor
  · intro haccepts
    refine ⟨?_, ?_⟩
    · intro c hc handle hhd hsame
      obtain ⟨new, hnew, htask⟩ := hcalled.kept c.name handle hhd ⟨c, hc, sameListener_iff.mp hsame⟩
      obtain ⟨new', hnew', hconfig⟩ := hcalled.all c hc
      rw [hnew] at hnew'
      cases hnew'
      rw [← htask]
      exact (accepts_iff hcalled.sound hnew hconfig).mp (haccepts c hc)
    · -- a task of this call serves a tunnel of the list when the call returns
      intro id hid
      by_contra hge
      obtain ⟨t, ht, rfl⟩ := hstarted id hid
      obtain ⟨name, handle, hhd, rfl⟩ := hcalled.sound.tracked.held t ht
        (hcalled.notMem_stopped halive.sound (Nat.not_lt.mp hge))
      obtain ⟨hmem, rfl⟩ := hcalled.only name handle hhd
      have halive' := (accepts_iff hcalled.sound hhd rfl).mp (haccepts handle.config hmem)
      exact halive' (List.mem_append_left _ hid)
  · rintro ⟨hold, hnew⟩ c hc
    obtain ⟨handle, hhd, hconfig⟩ := hcalled.all c hc
    refine (accepts_iff hcalled.sound hhd hconfig).mpr fun hmem => ?_
    have hlt : handle.task.id < s.manager.nextId := by
      rcases List.mem_append.mp hmem with hid | hid
      · exact hnew _ hid
      · exact halive.past _ hid
    -- the task is older than the call, so the list keeps its listener
    obtain ⟨name, old, hlookup, hkeeps, htask⟩ := hcalled.kept_of_lt halive.sound
      (hcalled.sound.tracked.started c.name handle hhd)
      (hcalled.sound.tracked.running c.name handle hhd) hlt
    obtain ⟨c', hc', rfl, hsame⟩ := (keeps_iff halive.sound hlookup).mp hkeeps
    refine hold c' hc' old hlookup hsame ?_
    rw [htask]
    exact hmem

/-- A system on which every address is free. -/
def freeSystem : System := sampleSystem fun _ _ _ => false

/-- The listener of `web` has ended. -/
def sampleFailure : List LifeEvent :=
  [.call (.apply [] [TunnelRuntime.sampleTunnel "web" 8080,
    TunnelRuntime.sampleTunnel "ssh" 2222]) [], .ends 1]

/-- The reload that gives `web` another number of connections starts its listener again. -/
theorem changed_listener_restarts :
    ∃ s s', Reach (step TunnelRuntime.sampleSha256 freeSystem) Admissible (new .new) s ∧
      s.ended = [1] ∧
      s.step TunnelRuntime.sampleSha256 freeSystem (.call (.apply [] sampleReload) []) = some s' ∧
      ∀ c ∈ sampleReload, s'.Accepts c := by
  have hrun : (exec (step TunnelRuntime.sampleSha256 freeSystem) Admissible (new .new)
      sampleFailure).map (fun s => (s.ended, (s.manager.apply freeSystem [] sampleReload).1,
        sampleReload.all fun c => (s.manager.active.lookup c.name).all fun handle =>
          !sameListener handle.config c || !s.ended.contains handle.task.id)) =
      some ([1], .ok (), true) := by decide +kernel
  obtain ⟨s, hs, hview⟩ := Option.map_eq_some_iff.mp hrun
  simp only [Prod.mk.injEq] at hview
  obtain ⟨hended, hok, hkept⟩ := hview
  have hreach := reach_of_exec hs
  have hkeeps : s.KeptAlive sampleReload [] := by
    intro c hc handle hhd hsame
    have hall := List.all_eq_true.mp hkept c hc
    rw [hhd] at hall
    simpa [hsame] using hall
  refine ⟨s, _, hreach, hended, rfl, ?_⟩
  exact (accepts_after_apply_iff hreach (by decide +kernel) hok rfl).mpr
    ⟨hkeeps, by simp [NewAlive]⟩

/-- The listener of `web` ends, the same list is applied again without an error, and nothing
accepts for `web`. -/
theorem unchanged_listener_stays_dead :
    ∃ s s', Reach (step TunnelRuntime.sampleSha256 freeSystem) Admissible (new .new) s ∧
      Distinct s.manager.configs ∧
      (s.manager.apply freeSystem [] s.manager.configs).1 = .ok () ∧
      s.step TunnelRuntime.sampleSha256 freeSystem
        (.call (.apply [] s.manager.configs) []) = some s' ∧
      ¬ ∀ c ∈ s.manager.configs, s'.Accepts c := by
  have hrun : (exec (step TunnelRuntime.sampleSha256 freeSystem) Admissible (new .new)
      sampleFailure).map (fun s =>
        (decide (Distinct s.manager.configs),
          (s.manager.apply freeSystem [] s.manager.configs).1,
          (s.step TunnelRuntime.sampleSha256 freeSystem
            (.call (.apply [] s.manager.configs) [])).map fun s' =>
              decide (∀ c ∈ s.manager.configs, s'.Accepts c))) =
      some (true, .ok (), some false) := by decide +kernel
  obtain ⟨s, hs, hview⟩ := Option.map_eq_some_iff.mp hrun
  simp only [Prod.mk.injEq] at hview
  obtain ⟨hdistinct, hok, hstep⟩ := hview
  obtain ⟨s', hs', haccepts⟩ := Option.map_eq_some_iff.mp hstep
  exact ⟨s, s', reach_of_exec hs, of_decide_eq_true hdistinct, hok, hs',
    of_decide_eq_false haccepts⟩

end ListenerLives

end GateRust.Tunnel
