/-
# Reloading the listeners

Two results about `ListenerManager::apply` over whole runs.

When addresses that the manager has released can be bound again, a call that returns an error
changes nothing: the way back finds the listeners that the failed call has left, stops exactly
those that the failed call has started, and starts exactly those that it has stopped.

Without that assumption the way back can fail too, and leave tunnels without a listener.  Still a
call that succeeds puts the manager into the state that a new manager would have, except that the
tunnels keep their limiters.
-/
import GateRust.Lib.Machine
import GateRust.Tunnel.ListenersInvariant

namespace GateRust.Tunnel

open Machine

namespace ListenerManager

variable {system : System} {m m' failed : ListenerManager} {configs : List ServerTunnelConfig}
  {name : String} {handle : ListenerHandle} {finished : List ℕ}

/-! ## The way back -/

lemma mem_configs {config : ServerTunnelConfig} :
    config ∈ m.configs ↔ ∃ name h, m.active.lookup name = some h ∧ h.config = config := by
  rw [configs, List.mem_map]
  constructor
  · rintro ⟨⟨name, h⟩, hmem, rfl⟩
    exact ⟨name, h, AList.lookup_eq_some_iff.mpr hmem, rfl⟩
  · rintro ⟨name, h, hh, rfl⟩
    exact ⟨⟨name, h⟩, AList.lookup_eq_some_iff.mp hh, rfl⟩

lemma mem_order {config : ServerTunnelConfig} {call : ℕ} :
    config ∈ system.order call m.configs ↔
      ∃ name h, m.active.lookup name = some h ∧ h.config = config := by
  rw [(system.order_perm call m.configs).mem_iff, mem_configs]

/-- The names of the previous list are the keys of the active map. -/
lemma nodup_name_configs (h : m.Tracked) : (m.configs.map (·.name)).Nodup := by
  have hkeys : m.configs.map (·.name) = m.active.keys := by
    rw [configs, List.map_map]
    refine List.map_congr_left fun e he => ?_
    exact h.name e.1 e.2 (AList.lookup_eq_some_iff.mpr he)
  exact hkeys ▸ m.active.keys_nodup

lemma nodup_name_order (system : System) (h : m.Tracked) (call : ℕ) :
    ((system.order call m.configs).map (·.name)).Nodup :=
  ((system.order_perm call m.configs).map _).nodup_iff.mpr (nodup_name_configs h)

/-- The previous list has one tunnel of each name. -/
lemma eq_of_mem_order (h : m.Tracked) {config : ServerTunnelConfig} {call : ℕ}
    (hc : config ∈ system.order call m.configs) (hhd : m.active.lookup config.name = some handle) :
    config = handle.config := by
  obtain ⟨name, old, hold, rfl⟩ := mem_order.mp hc
  rw [h.name name old hold, hold] at hhd
  cases hhd
  rfl

/-- Of the listeners that the failed call has left, the previous list keeps the ones that the
failed call has not touched: a listener that it has started replaced one with other parameters, or
is new. -/
lemma of_keeps_previous (hnodup : (configs.map (·.name)).Nodup) (h : m.Tracked)
    (hs : Started configs ((m.removed configs).foldl stop m) failed) {call : ℕ}
    (hhd : failed.active.lookup name = some handle)
    (hkeeps : Keeps (system.order call m.configs) handle) :
    m.active.lookup name = some handle ∧ Keeps configs handle := by
  rcases hs.added name handle hhd with hold | ⟨hnew, hmem, hname, -⟩
  · exact (lookup_stopPhase hnodup h).mp hold
  · exfalso
    obtain ⟨p, hp, hpar, hlimit⟩ := hkeeps
    obtain ⟨name', old, hold, rfl⟩ := mem_order.mp hp
    have hsame : name' = name := by
      rw [← h.name name' old hold, ← name_of_parameters hpar, hname]
    subst hsame
    have hstays : Keeps configs old := ⟨handle.config, hmem, hpar.symm, hlimit.symm⟩
    exact hnew (AList.mem_of_lookup ((lookup_stopPhase hnodup h).mpr ⟨hold, hstays⟩))

lemma keeps_order (hhd : m.active.lookup name = some handle) (call : ℕ) :
    Keeps (system.order call m.configs) handle :=
  ⟨handle.config, mem_order.mpr ⟨name, handle, hhd, rfl⟩, rfl, rfl⟩

section RollBack

variable {e : TunnelError}

/-- What the failed call has left. -/
lemma started_of_error (hcall : applyOnce system configs m = (.error e, failed)) :
    Started configs ((m.removed configs).foldl stop m) failed := by
  have hs := started_startPhase system configs ((m.removed configs).foldl stop m)
  rwa [applyOnce_error hcall] at hs

/-- The failed call leaves the tasks tracked; the limiters are put back. -/
lemma tracked_failed (hnodup : (configs.map (·.name)).Nodup) (h : m.Sound)
    (hcall : applyOnce system configs m = (.error e, failed)) :
    Tracked { failed with limiters := m.limiters } := by
  have hsound : (applyOnce system configs m).2.Sound :=
    sound_applyOnce hnodup h.tracked h.rated fun name hd hhd _ => h.registered name hd hhd
  rw [hcall] at hsound
  exact hsound.tracked.congr rfl rfl rfl le_rfl

lemma sound_rollBack (hnodup : (configs.map (·.name)).Nodup) (h : m.Sound)
    (hcall : applyOnce system configs m = (.error e, failed)) :
    (rollBack system m failed).2.Sound := by
  refine sound_applyOnce (nodup_name_order system h.tracked _) (tracked_failed hnodup h hcall)
    h.rated ?_
  intro name hd hhd hkeeps
  exact h.registered name hd
    (of_keeps_previous hnodup h.tracked (started_of_error hcall) hhd hkeeps).1

end RollBack

/-! ## What holds in every state -/

/-- The three ways in which a call ends. -/
lemma apply_cases (system : System) (finished : List ℕ) (configs : List ServerTunnelConfig)
    (m : ListenerManager) :
    (∃ m', applyOnce system configs (m.reapRetired finished) = (.ok (), m') ∧
      m.apply system finished configs =
        (.ok (), { m' with runtime := m'.runtime.applyTunnels configs })) ∨
    ∃ e failed, applyOnce system configs (m.reapRetired finished) = (.error e, failed) ∧
      ((∃ m', rollBack system (m.reapRetired finished) failed = (.ok (), m') ∧
        m.apply system finished configs = (.error e, m')) ∨
      ∃ e' e'' m', rollBack system (m.reapRetired finished) failed = (.error e', m') ∧
        m.apply system finished configs = (.error e'', m')) := by
  rcases hcall : applyOnce system configs (m.reapRetired finished) with ⟨e | ⟨⟩, failed⟩
  · refine Or.inr ⟨e, failed, rfl, ?_⟩
    rcases hback : rollBack system (m.reapRetired finished) failed with ⟨e' | ⟨⟩, m'⟩
    · exact Or.inr ⟨e', _, m', rfl, by simp only [apply, hcall, hback]; rfl⟩
    · exact Or.inl ⟨m', rfl, by simp only [apply, hcall, hback]⟩
  · exact Or.inl ⟨failed, rfl, by simp only [apply, hcall]⟩

lemma Sound.reapRetired (h : m.Sound) (finished : List ℕ) : (m.reapRetired finished).Sound :=
  ⟨h.tracked.congr rfl rfl rfl le_rfl, h.rated, h.registered⟩

lemma Sound.withRuntime (h : m.Sound) (runtime : TunnelRuntime) : Sound { m with runtime } :=
  ⟨h.tracked.congr rfl rfl rfl le_rfl, h.rated, h.registered⟩

lemma Sound.apply (h : m.Sound) (hnodup : (configs.map (·.name)).Nodup) :
    (m.apply system finished configs).2.Sound := by
  have hreaped := h.reapRetired finished
  rcases apply_cases system finished configs m with ⟨m', hcall, heq⟩ | ⟨e, failed, hcall,
    ⟨m', hback, heq⟩ | ⟨e', e'', m', hback, heq⟩⟩
  · have hsound : (applyOnce system configs (m.reapRetired finished)).2.Sound :=
      sound_applyOnce hnodup hreaped.tracked hreaped.rated
        fun name hd hhd _ => hreaped.registered name hd hhd
    rw [hcall] at hsound
    rw [heq]
    exact hsound.withRuntime _
  · have hsound := sound_rollBack hnodup hreaped hcall
    rw [hback] at hsound
    rw [heq]
    exact hsound
  · have hsound := sound_rollBack hnodup hreaped hcall
    rw [hback] at hsound
    rw [heq]
    exact hsound

/-! ## A failed call changes nothing -/

/-- An address that the manager has released can be bound again. -/
def Rebinds (system : System) : Prop :=
  ∀ released call endpoint, endpoint ∈ released →
    system.bind released call endpoint = .ok ()

/-- What holds besides when every way back succeeds: only tunnels with a listener have a limiter,
and no two listeners have one endpoint. -/
structure Settled (m : ListenerManager) : Prop where
  limiters : ∀ name ∈ m.limiters, name ∈ m.active
  endpoints : ∀ name h name' h', m.active.lookup name = some h →
    m.active.lookup name' = some h' → h.config.endpoint = h'.config.endpoint → name = name'

/-- Starting listeners on different released endpoints does not fail. -/
lemma startPhase_ok (hsystem : Rebinds system) (hnodup : (configs.map (·.endpoint)).Nodup)
    (hfree : ∀ c ∈ configs, c.name ∉ m.active → c.endpoint ∈ m.released) :
    ∃ m', Except.untilError (startMissing system) configs m = (.ok (), m') := by
  induction configs generalizing m with
  | nil => exact ⟨m, rfl⟩
  | cons c configs ih =>
    obtain ⟨hfirst, hnodup⟩ := List.nodup_cons.mp hnodup
    rcases startMissing_cases system c m with ⟨-, heq⟩ | ⟨hactive, limiter, limiters, nextId, -,
      ⟨error, hbind, -⟩ | ⟨-, heq⟩⟩
    · rw [Except.untilError_cons_ok heq]
      exact ih hnodup fun c' hc' => hfree c' (List.mem_cons_of_mem c hc')
    · rw [hsystem _ _ _ (hfree c List.mem_cons_self hactive)] at hbind
      cases hbind
    · rw [Except.untilError_cons_ok heq]
      refine ih hnodup fun c' hc' hinactive => ?_
      -- the endpoints of the other listeners are still free
      have hold : c'.name ∉ m.active := fun hmem =>
        hinactive ((AList.mem_insert m.active).mpr (Or.inr hmem))
      have hne : c'.endpoint ≠ c.endpoint := fun he =>
        hfirst (List.mem_map.mpr ⟨c', hc', he⟩)
      exact List.mem_filter.mpr
        ⟨hfree c' (List.mem_cons_of_mem c hc') hold, by simpa using hne⟩

lemma nodup_endpoint_order (h : m.Settled) (call : ℕ) :
    ((system.order call m.configs).map (·.endpoint)).Nodup := by
  have hnodup : (m.configs.map (·.endpoint)).Nodup := by
    rw [configs, List.map_map]
    refine List.Nodup.map_on ?_ (List.Nodup.of_map _ m.active.nodupKeys)
    intro e he e' he' hsame
    exact m.active.nodupKeys.eq_of_fst_eq he he' (h.endpoints e.1 e.2 e'.1 e'.2
      (AList.lookup_eq_some_iff.mpr he) (AList.lookup_eq_some_iff.mpr he') hsame)
  exact ((system.order_perm call m.configs).map _).nodup_iff.mpr hnodup

/-- The way back finds the endpoints of the missing listeners free: the failed call has released
them, and what it has bound since then is stopped first. -/
lemma released_of_missing (hnodup : (configs.map (·.name)).Nodup) (h : m.Sound) {e : TunnelError}
    (hcall : applyOnce system configs m = (.error e, failed)) {s : ListenerManager} {call : ℕ}
    (hs : (removed { failed with limiters := m.limiters } (system.order call m.configs)).foldl stop
      { failed with limiters := m.limiters } = s)
    (hhd : m.active.lookup name = some handle) (hmissing : name ∉ s.active) :
    handle.config.endpoint ∈ s.released := by
  have hstarted := started_of_error hcall
  have hprevious := nodup_name_order system h.tracked call
  have hback : Stopped _ { failed with limiters := m.limiters } s := hs ▸ stopAll_spec _ _
  have htracked := tracked_failed hnodup h hcall
  -- a listener that the failed call has kept is not missing
  have hlost : ¬ Keeps configs handle := by
    intro hkeeps
    have hfailed := hstarted.kept name handle
      ((lookup_stopPhase hnodup h.tracked).mpr ⟨hhd, hkeeps⟩)
    have hstays := (lookup_stopPhase hprevious htracked).mpr ⟨hfailed, keeps_order hhd call⟩
    rw [hs] at hstays
    exact hmissing (AList.mem_of_lookup hstays)
  have hreleased : handle.config.endpoint ∈ ((m.removed configs).foldl stop m).released :=
    ((stopAll_spec (m.removed configs) m).released _).mpr (Or.inr ⟨name,
      (mem_removed hnodup h.tracked.name).mpr ⟨handle, hhd, hlost⟩, handle, hhd,
      endpoint_of_parameters (h.tracked.parameters name handle hhd)⟩)
  rcases hstarted.released _ hreleased with hfree | ⟨name', new, hnew, hlookup, hendpoint⟩
  · exact (hback.released _).mpr (Or.inl hfree)
  · -- the failed call has bound the endpoint again
    refine (hback.released _).mpr (Or.inr ⟨name', ?_, new, hlookup, hendpoint⟩)
    refine (mem_removed hprevious htracked.name).mpr ⟨new, hlookup, fun hkeeps => ?_⟩
    exact hnew (AList.mem_of_lookup ((lookup_stopPhase hnodup h.tracked).mpr
      (of_keeps_previous hnodup h.tracked hstarted hlookup hkeeps)))

lemma rollBack_ok (hsystem : Rebinds system) (hnodup : (configs.map (·.name)).Nodup)
    (h : m.Sound) (hsettled : m.Settled) {e : TunnelError}
    (hcall : applyOnce system configs m = (.error e, failed)) :
    ∃ m', rollBack system m failed = (.ok (), m') := by
  rcases hback : rollBack system m failed with ⟨e' | ⟨⟩, m'⟩
  · exfalso
    have hphase := applyOnce_error hback
    generalize hs : (removed { failed with limiters := m.limiters }
      (system.order m.binds m.configs)).foldl stop { failed with limiters := m.limiters } = s
      at hphase
    have hfree : ∀ c ∈ system.order m.binds m.configs, c.name ∉ s.active →
        c.endpoint ∈ s.released := by
      intro c hc hmissing
      obtain ⟨name, hd, hhd, rfl⟩ := mem_order.mp hc
      rw [h.tracked.name name hd hhd] at hmissing
      exact released_of_missing hnodup h hcall hs hhd hmissing
    obtain ⟨_, hok⟩ := startPhase_ok hsystem (nodup_endpoint_order hsettled m.binds) hfree
    rw [hok] at hphase
    cases hphase
  · exact ⟨m', rfl⟩

/-- A call that puts the previous list back restores the listeners. -/
lemma configs_of_applied_order {call : ℕ} (h : m.Tracked)
    (happlied : Applied (system.order call m.configs) failed m') (name : String) :
    (m'.active.lookup name).map (·.config) = (m.active.lookup name).map (·.config) := by
  cases hhd : m.active.lookup name with
  | some hd =>
    obtain ⟨new, hnew, hsame⟩ := happlied.all hd.config (mem_order.mpr ⟨name, hd, hhd, rfl⟩)
    rw [h.name name hd hhd] at hnew
    rw [hnew, Option.map_some, Option.map_some, hsame]
  | none =>
    cases hnew : m'.active.lookup name with
    | none => rfl
    | some new =>
      obtain ⟨hmem, hname⟩ := happlied.only name new hnew
      obtain ⟨name', old, hold, hsame⟩ := mem_order.mp hmem
      rw [← hname, ← hsame, h.name name' old hold, hold] at hhd
      cases hhd

lemma runtime_of_error {e : TunnelError}
    (hcall : applyOnce system configs m = (.error e, failed)) : failed.runtime = m.runtime := by
  rw [(started_of_error hcall).runtime, (stopAll_spec (m.removed configs) m).runtime]

/-- A call that fails leaves the state as it was. -/
structure Unchanged (configs : List ServerTunnelConfig) (m m' : ListenerManager) : Prop where
  config : ∀ name, (m'.active.lookup name).map (·.config) = (m.active.lookup name).map (·.config)
  limiters : ∀ name, m'.limiters.lookup name = m.limiters.lookup name
  kept : ∀ name h, m.active.lookup name = some h → Keeps configs h →
    m'.active.lookup name = some h ∧ h.task.id ∉ m'.stopped
  runtime : m'.runtime = m.runtime

lemma unchanged_of_rollBack (hnodup : (configs.map (·.name)).Nodup) (h : m.Sound)
    (hsettled : m.Settled) {e : TunnelError}
    (hcall : applyOnce system configs m = (.error e, failed))
    (hback : rollBack system m failed = (.ok (), m')) : Unchanged configs m m' := by
  have hstarted := started_of_error hcall
  have hprevious := nodup_name_order system h.tracked m.binds
  have hsound := sound_rollBack hnodup h hcall
  rw [hback] at hsound
  have happlied := applied_of_applyOnce hprevious (tracked_failed hnodup h hcall) hback
  have hconfigs := configs_of_applied_order h.tracked happlied
  refine ⟨hconfigs, ?_, ?_, ?_⟩
  · intro name
    cases hentry : m.limiters.lookup name with
    | some entry =>
      obtain ⟨hd, hhd⟩ := AList.lookup_of_mem (hsettled.limiters name (AList.mem_of_lookup hentry))
      have hname := h.tracked.name name hd hhd
      have hregistered := h.registered name hd hhd
      rw [Registered, hentry] at hregistered
      refine happlied.limiter name entry hentry
        ⟨hd.config, mem_order.mpr ⟨name, hd, hhd, rfl⟩, hname⟩ ?_
      intro c hc hcname
      rw [eq_of_mem_order h.tracked hc (hcname ▸ hhd), Option.some.inj hregistered]
    | none =>
      -- a registered tunnel has a listener, so it had one before, with a limiter
      cases hnew : m'.limiters.lookup name with
      | none => rfl
      | some entry =>
        obtain ⟨c, hc, rfl⟩ := happlied.named name (AList.mem_of_lookup hnew)
        obtain ⟨name', old, hold, rfl⟩ := mem_order.mp hc
        rw [h.tracked.name name' old hold] at hentry
        have hregistered := h.registered name' old hold
        rw [Registered, hentry] at hregistered
        cases hregistered
  · intro name hd hhd hkeeps
    have hfailed := hstarted.kept name hd
      ((lookup_stopPhase hnodup h.tracked).mpr ⟨hhd, hkeeps⟩)
    obtain ⟨new, hnew, htask⟩ := happlied.kept name hd hfailed (keeps_order hhd m.binds)
    have hsame := hconfigs name
    rw [hnew, hhd, Option.map_some, Option.map_some, Option.some.injEq] at hsame
    have heq : new = hd := by
      cases new
      cases hd
      cases htask
      cases hsame
      rfl
    rw [← heq]
    exact ⟨hnew, hsound.tracked.running name new hnew⟩
  · rw [happlied.runtime]
    show failed.runtime = m.runtime
    exact runtime_of_error hcall

lemma Settled.of_unchanged (h : m.Settled) (hm : Unchanged configs m m') : m'.Settled := by
  have hold : ∀ {name new}, m'.active.lookup name = some new →
      ∃ hd, m.active.lookup name = some hd ∧ hd.config = new.config := by
    intro name new hnew
    have hsame := hm.config name
    rw [hnew, Option.map_some] at hsame
    exact Option.map_eq_some_iff.mp hsame.symm
  constructor
  · intro name hname
    obtain ⟨entry, hentry⟩ := AList.lookup_of_mem hname
    rw [hm.limiters] at hentry
    obtain ⟨hd, hhd⟩ := AList.lookup_of_mem (h.limiters name (AList.mem_of_lookup hentry))
    have hsame := hm.config name
    rw [hhd, Option.map_some] at hsame
    obtain ⟨new, hnew, -⟩ := Option.map_eq_some_iff.mp hsame
    exact AList.mem_of_lookup hnew
  · intro name new name' new' hnew hnew' hend
    obtain ⟨hd, hhd, hsame⟩ := hold hnew
    obtain ⟨hd', hhd', hsame'⟩ := hold hnew'
    rw [← hsame, ← hsame'] at hend
    exact h.endpoints name hd name' hd' hhd hhd' hend

lemma Settled.of_applied (hdistinct : Distinct configs) (hm : Applied configs m m') :
    m'.Settled := by
  constructor
  · intro name hname
    obtain ⟨c, hc, rfl⟩ := hm.named name hname
    obtain ⟨hd, hhd, -⟩ := hm.all c hc
    exact AList.mem_of_lookup hhd
  · intro name hd name' hd' hhd hhd' hend
    obtain ⟨hmem, hname⟩ := hm.only name hd hhd
    obtain ⟨hmem', hname'⟩ := hm.only name' hd' hhd'
    rw [← hname, ← hname', List.inj_on_of_nodup_map hdistinct.2 hmem hmem' hend]

/-- A call that fails changes nothing, and a call that succeeds leaves the manager settled. -/
lemma Settled.apply (hsystem : Rebinds system) (hdistinct : Distinct configs) (h : m.Sound)
    (hsettled : m.Settled) :
    (m.apply system finished configs).2.Settled ∧
      ∀ e m', m.apply system finished configs = (.error e, m') → Unchanged configs m m' := by
  have hreaped := h.reapRetired finished
  have hsettled' : (m.reapRetired finished).Settled := ⟨hsettled.limiters, hsettled.endpoints⟩
  rcases apply_cases system finished configs m with ⟨m', hcall, heq⟩ | ⟨e, failed, hcall, hback⟩
  · rw [heq]
    have happlied := applied_of_applyOnce hdistinct.1 hreaped.tracked hcall
    obtain ⟨hlimiters, hendpoints⟩ := Settled.of_applied hdistinct happlied
    exact ⟨⟨hlimiters, hendpoints⟩, by simp⟩
  · obtain ⟨m', hok⟩ := rollBack_ok hsystem hdistinct.1 hreaped hsettled' hcall
    rcases hback with ⟨m'', hback, heq⟩ | ⟨e', e'', m'', hback, heq⟩
    · rw [heq]
      obtain ⟨hconfigs, hlimiters, hkept, hruntime⟩ :=
        unchanged_of_rollBack hdistinct.1 hreaped hsettled' hcall hback
      have hunchanged : Unchanged configs m m'' := ⟨hconfigs, hlimiters, hkept, hruntime⟩
      refine ⟨hsettled.of_unchanged hunchanged, ?_⟩
      rintro _ _ ⟨⟩
      exact hunchanged
    · rw [hok] at hback
      cases hback

section Runs

variable {sha256 : GroupSecret → Digest} {runtime : TunnelRuntime}

lemma Sound.step {e : ListenerEvent} (h : m.Sound) (hok : e.Admissible m)
    (hstep : m.step sha256 system e = some m') : m'.Sound := by
  cases e with
  | apply finished configs =>
    cases hstep
    exact h.apply hok.1
  | operate op =>
    cases hstep
    exact h.withRuntime _

/-- **A call that fails changes nothing.**  In every reachable state, for every list and every
pattern of failures of the binds, as long as released addresses can be bound again. -/
theorem apply_all_or_nothing (hsystem : Rebinds system)
    (h : Reach (step sha256 system) ListenerEvent.Admissible (new runtime) m)
    (hdistinct : Distinct configs) {error : TunnelError}
    (herror : m.apply system finished configs = (.error error, m')) :
    (∀ name, (m'.active.lookup name).map (·.config) = (m.active.lookup name).map (·.config)) ∧
      (∀ name, m'.limiters.lookup name = m.limiters.lookup name) ∧
      (∀ name handle, m.active.lookup name = some handle →
        (∃ c ∈ configs, sameListener handle.config c = true) →
        m'.active.lookup name = some handle ∧ handle.task.id ∉ m'.stopped) ∧
      m'.runtime = m.runtime := by
  have hinv : m.Sound ∧ m.Settled := by
    refine h.invariant (I := fun m => m.Sound ∧ m.Settled)
      ⟨sound_new runtime, by simp [new], by simp [new]⟩ ?_
    rintro s e s' ⟨hs, hsettled⟩ hok hstep
    refine ⟨hs.step hok hstep, ?_⟩
    cases e with
    | apply finished configs =>
      cases hstep
      exact (hsettled.apply hsystem hok hs).1
    | operate op =>
      cases hstep
      exact ⟨hsettled.limiters, hsettled.endpoints⟩
  obtain ⟨hconfig, hlimiters, hkept, hruntime⟩ :=
    (hinv.2.apply hsystem hdistinct hinv.1).2 error m' herror
  refine ⟨hconfig, hlimiters, ?_, hruntime⟩
  rintro name handle hhd ⟨c, hc, hsame⟩
  exact hkept name handle hhd ⟨c, hc, sameListener_iff.mp hsame⟩

/-- An operating system on which the given binds fail. -/
def sampleSystem (fails : List (Transport × SocketAddr) → ℕ → Transport × SocketAddr → Bool) :
    System where
  bind released call endpoint :=
    if fails released call endpoint then .error (.io "Address already in use (os error 98)")
    else .ok ()
  order _ configs := configs
  order_perm _ _ := .refl _

/-- The fourth bind fails, unless the address has been released. -/
def busySystem : System := sampleSystem fun released call e => !released.contains e && call = 3

/-- The tunnel `web` gets another limit, and `db` is new. -/
def sampleReload : List ServerTunnelConfig :=
  [{ TunnelRuntime.sampleTunnel "web" 8080 with maxConnections := 64 },
    TunnelRuntime.sampleTunnel "ssh" 2222, TunnelRuntime.sampleTunnel "db" 5432]

/-- The listener of `db` cannot be started after that of `web` has been restarted; the listener of
`ssh` runs on. -/
theorem ssh_runs_on_after_failed_reload :
    ∃ m m' handle,
      Reach (step TunnelRuntime.sampleSha256 busySystem) ListenerEvent.Admissible (new .new) m ∧
      m.active.lookup "ssh" = some handle ∧
      m.apply busySystem [] sampleReload =
        (.error (.io "Address already in use (os error 98)"), m') ∧
      m'.active.lookup "ssh" = some handle ∧ handle.task.id ∉ m'.stopped := by
  have hsystem : Rebinds busySystem := by
    intro released call e he
    simp [busySystem, sampleSystem, he]
  have hrun : (exec (step TunnelRuntime.sampleSha256 busySystem) ListenerEvent.Admissible
      (new .new) [.apply [] [TunnelRuntime.sampleTunnel "web" 8080,
        TunnelRuntime.sampleTunnel "ssh" 2222]]).map
        (fun m => (m.active.lookup "ssh", (m.apply busySystem [] sampleReload).1)) =
      some (some ⟨TunnelRuntime.sampleTunnel "ssh" 2222,
          ⟨3, TunnelRuntime.sampleTunnel "ssh" 2222, ⟨none⟩⟩⟩,
        .error (.io "Address already in use (os error 98)")) := by decide +kernel
  obtain ⟨m, hm, hview⟩ := Option.map_eq_some_iff.mp hrun
  obtain ⟨hssh, herror⟩ := Prod.mk.inj hview
  have hreach := reach_of_exec hm
  have hcall : m.apply busySystem [] sampleReload = (.error (.io
      "Address already in use (os error 98)"), (m.apply busySystem [] sampleReload).2) :=
    Prod.ext herror rfl
  obtain ⟨-, -, hkept, -⟩ := apply_all_or_nothing hsystem hreach (by decide +kernel) hcall
  have hsame := hkept "ssh" _ hssh
    ⟨TunnelRuntime.sampleTunnel "ssh" 2222, by simp [sampleReload], by decide +kernel⟩
  exact ⟨m, _, _, hreach, hssh, hcall, hsame⟩

end Runs

end ListenerManager

/-! ## A reload is a fresh start -/

/-- A manager and what its calls say about the limiters: `original` holds the limiter that each
tunnel had when it was added, as long as every list since then has had the tunnel with the same
limit; `lost` holds those of these tunnels that had no listener, since an earlier way back had
failed, when a call was undone. -/
structure Reloads where
  manager : ListenerManager
  original : HashMap String LimiterEntry
  lost : List String

namespace Reloads

open ListenerManager

variable {system : System} {sha256 : GroupSecret → Digest} {runtime : TunnelRuntime}
  {r r' : Reloads} {m m' : ListenerManager} {configs : List ServerTunnelConfig} {name : String}
  {finished : List ℕ} {entry : LimiterEntry}

def new (runtime : TunnelRuntime) : Reloads := ⟨.new runtime, ∅, []⟩

/-- The call fails, and the way back succeeds. -/
def undone (system : System) (m : ListenerManager) (configs : List ServerTunnelConfig) : Bool :=
  match applyOnce system configs m with
  | (.ok (), _) => false
  | (.error _, failed) => (rollBack system m failed).1.isOk

/-- The limiters of the listeners. -/
def inUse (m : ListenerManager) : HashMap String LimiterEntry :=
  .ofList (m.active.entries.map fun e => (e.1, ⟨e.2.config.limitBps, e.2.task.limiter⟩))

/-- The entries whose tunnel the list has, with the same limit. -/
def constant (original : HashMap String LimiterEntry) (configs : List ServerTunnelConfig) :
    HashMap String LimiterEntry :=
  original.retain fun name entry => ∃ c ∈ configs, c.name = name ∧ c.limitBps = entry.limit

def step (sha256 : GroupSecret → Digest) (system : System) (r : Reloads) :
    ListenerEvent → Option Reloads
  | .apply finished configs =>
    let (result, manager) := r.manager.apply system finished configs
    let kept := constant r.original configs
    let lost := r.lost.filter (· ∈ kept)
    let inactive := kept.keys.filter (· ∉ r.manager.active)
    match result with
    | .ok () => some ⟨manager, kept ∪ inUse manager, lost⟩
    | .error _ => some ⟨manager, kept,
        if undone system (r.manager.reapRetired finished) configs then lost ++ inactive else lost⟩
  | .operate op =>
    some { r with manager := { r.manager with runtime := r.manager.runtime.perform sha256 op } }

def Admissible (r : Reloads) (e : ListenerEvent) : Prop := e.Admissible r.manager

instance (r : Reloads) (e : ListenerEvent) : Decidable (r.Admissible e) :=
  inferInstanceAs (Decidable (e.Admissible r.manager))

/-- The manager of the next state is the one that the step of the manager gives. -/
lemma manager_of_step {e : ListenerEvent} (h : r.step sha256 system e = some r') :
    r.manager.step sha256 system e = some r'.manager := by
  cases e with
  | apply finished configs =>
    rcases hcall : r.manager.apply system finished configs with ⟨e | ⟨⟩, m'⟩
    · simp only [step, hcall] at h
      cases h
      simp only [ListenerManager.step, hcall]
    · simp only [step, hcall] at h
      cases h
      simp only [ListenerManager.step, hcall]
  | operate op =>
    cases h
    rfl

/-- The original limiters that are not lost are registered. -/
def Remembers (r : Reloads) : Prop :=
  ∀ name entry, r.original.lookup name = some entry → name ∉ r.lost →
    r.manager.limiters.lookup name = some entry

lemma lookup_inUse (h : (inUse m).lookup name = some entry) :
    ∃ handle, m.active.lookup name = some handle ∧
      entry = ⟨handle.config.limitBps, handle.task.limiter⟩ := by
  obtain ⟨⟨name', handle⟩, hmem, heq⟩ := List.mem_map.mp (AList.mem_of_lookup_ofList h)
  obtain ⟨rfl, rfl⟩ := Prod.mk.inj heq
  exact ⟨handle, AList.lookup_eq_some_iff.mpr hmem, rfl⟩

lemma lookup_constant :
    (constant r.original configs).lookup name = some entry ↔
      r.original.lookup name = some entry ∧
        ∃ c ∈ configs, c.name = name ∧ c.limitBps = entry.limit := by
  rw [constant, AList.lookup_retain_eq_some, decide_eq_true_iff]

/-- The limit of an active tunnel in the previous list is the registered one. -/
lemma limit_of_mem_order (h : m.Sound) {config : ServerTunnelConfig} {call : ℕ}
    (hc : config ∈ system.order call m.configs)
    (hentry : m.limiters.lookup config.name = some entry) : config.limitBps = entry.limit := by
  obtain ⟨name, hd, hhd, rfl⟩ := mem_order.mp hc
  have hregistered := h.registered name hd hhd
  rw [h.tracked.name name hd hhd] at hentry
  rw [Registered, hentry] at hregistered
  rw [Option.some.inj hregistered]

/-- A call that succeeds keeps the limiters of the tunnels with the same limit. -/
lemma limiter_of_applied (hnodup : (configs.map (·.name)).Nodup) (h : Applied configs m m')
    (hentry : m.limiters.lookup name = some entry)
    (hlimit : ∃ c ∈ configs, c.name = name ∧ c.limitBps = entry.limit) :
    m'.limiters.lookup name = some entry := by
  obtain ⟨c, hc, rfl, hlimit⟩ := hlimit
  refine h.limiter c.name entry hentry ⟨c, hc, rfl⟩ ?_
  intro c' hc' hname
  rw [eq_of_name_eq hnodup hc' hc hname, hlimit]

/-- A call that is undone keeps the limiters of the tunnels with a listener. -/
lemma limiter_of_rollBack {failed : ListenerManager} (hnodup : (configs.map (·.name)).Nodup)
    (h : m.Sound) {e : TunnelError} (hcall : applyOnce system configs m = (.error e, failed))
    (hback : rollBack system m failed = (.ok (), m')) (hactive : name ∈ m.active)
    (hentry : m.limiters.lookup name = some entry) : m'.limiters.lookup name = some entry := by
  obtain ⟨hd, hhd⟩ := AList.lookup_of_mem hactive
  have happlied := applied_of_applyOnce (nodup_name_order system h.tracked m.binds)
    (tracked_failed hnodup h hcall) hback
  refine happlied.limiter name entry hentry ?_ ?_
  · exact ⟨hd.config, mem_order.mpr ⟨name, hd, hhd, rfl⟩, h.tracked.name name hd hhd⟩
  · rintro c hc rfl
    exact limit_of_mem_order h hc hentry

/-- When the way back fails, all limiters are still registered. -/
lemma limiter_of_failed_rollBack {failed : ListenerManager} (h : m.Sound) {e : TunnelError}
    (hback : rollBack system m failed = (.error e, m'))
    (hentry : m.limiters.lookup name = some entry) : m'.limiters.lookup name = some entry := by
  have hphase := applyOnce_error hback
  have hstop := stopAll_spec
    (removed { failed with limiters := m.limiters } (system.order m.binds m.configs))
    { failed with limiters := m.limiters }
  rw [← Prod.mk.inj hphase |>.2]
  refine lookup_limiters_startPhase ?_ ?_
  · rw [hstop.limiters]
    exact hentry
  · rintro c hc rfl
    exact limit_of_mem_order h hc hentry

lemma Remembers.apply (h : r.Remembers) (hsound : r.manager.Sound) (hdistinct : Distinct configs)
    (hstep : r.step sha256 system (.apply finished configs) = some r') : r'.Remembers := by
  have hreaped := hsound.reapRetired finished
  have hnext : (r.manager.apply system finished configs).2.Sound := hsound.apply hdistinct.1
  -- an entry that stays and is not lost now was not lost before
  have hnotlost : ∀ {name entry}, (constant r.original configs).lookup name = some entry →
      name ∉ r.lost.filter (· ∈ constant r.original configs) → name ∉ r.lost := by
    intro name entry hentry hlost hmem
    exact hlost (List.mem_filter.mpr ⟨hmem, decide_eq_true (AList.mem_of_lookup hentry)⟩)
  rcases apply_cases system finished configs r.manager with ⟨m', hcall, heq⟩ | ⟨e, failed, hcall,
    ⟨m', hback, heq⟩ | ⟨e', e'', m', hback, heq⟩⟩
  · simp only [step, heq] at hstep
    rw [heq] at hnext
    cases hstep
    intro name entry hentry hlost
    rcases AList.lookup_union_eq_some.mp hentry with hentry | ⟨-, hentry⟩
    · obtain ⟨hold, hlimit⟩ := lookup_constant.mp hentry
      have happlied := applied_of_applyOnce hdistinct.1 hreaped.tracked hcall
      have hkept : m'.limiters.lookup name = some entry := limiter_of_applied hdistinct.1 happlied
        (h name entry hold (hnotlost hentry hlost)) hlimit
      exact hkept
    · -- a tunnel that was added has the limiter that is registered for it
      obtain ⟨hd, hhd, rfl⟩ := lookup_inUse hentry
      exact hnext.registered name hd hhd
  · have hundone : undone system (r.manager.reapRetired finished) configs = true := by
      simp only [undone, hcall, hback]
      rfl
    simp only [step, heq, hundone, if_true] at hstep
    cases hstep
    intro name entry hentry hlost
    obtain ⟨hlost, hinactive⟩ := not_or.mp fun hor => hlost (List.mem_append.mpr hor)
    have hactive : name ∈ r.manager.active := by
      by_contra hnot
      exact hinactive (List.mem_filter.mpr
        ⟨AList.mem_keys.mp (AList.mem_of_lookup hentry), decide_eq_true hnot⟩)
    exact limiter_of_rollBack hdistinct.1 hreaped hcall hback hactive
      (h name entry (lookup_constant.mp hentry).1 (hnotlost hentry hlost))
  · have hundone : undone system (r.manager.reapRetired finished) configs = false := by
      simp only [undone, hcall, hback]
      rfl
    simp only [step, heq, hundone, Bool.false_eq_true, if_false] at hstep
    cases hstep
    intro name entry hentry hlost
    exact limiter_of_failed_rollBack hreaped hback
      (h name entry (lookup_constant.mp hentry).1 (hnotlost hentry hlost))

lemma sound_and_remembers (h : Reach (step sha256 system) Admissible (new runtime) r) :
    r.manager.Sound ∧ r.Remembers := by
  refine h.invariant (I := fun r => r.manager.Sound ∧ r.Remembers)
    ⟨sound_new runtime, by simp [new, Remembers]⟩ ?_
  rintro s e s' ⟨hsound, hremembers⟩ hok hstep
  refine ⟨hsound.step hok (manager_of_step hstep), ?_⟩
  cases e with
  | apply finished configs => exact hremembers.apply hsound hok hstep
  | operate op =>
    cases hstep
    exact hremembers

/-- **A reload is a fresh start.**  After a call that succeeds, in every run and whatever has
failed before, the listeners are those of the list: the handles have its configurations, each
tunnel has one running task and this one has the parameters and the rate of the list, the runtime
has the tunnels of the list, and a tunnel that every list since it was added has had with the same
limit uses its original limiter, unless it is lost. -/
theorem reload_as_fresh_start (h : Reach (step sha256 system) Admissible (new runtime) r)
    (hdistinct : Distinct configs) (hok : (r.manager.apply system finished configs).1 = .ok ())
    (hstep : r.step sha256 system (.apply finished configs) = some r') :
    (∀ name config, (r'.manager.active.lookup name).map (·.config) = some config ↔
        config ∈ configs ∧ config.name = name) ∧
      (∀ task ∈ r'.manager.started, task.id ∉ r'.manager.stopped → ∃ config ∈ configs,
        task.config.parameters = config.parameters ∧ task.limiter.rate = config.limitBps) ∧
      (∀ config ∈ configs, ∃! task, task ∈ r'.manager.started ∧
        task.id ∉ r'.manager.stopped ∧ task.config.name = config.name) ∧
      r'.manager.runtime.state.tunnels = TunnelRuntime.tunnelSpecs configs ∧
      (∀ name entry, r'.original.lookup name = some entry → name ∉ r'.lost →
        ∃ handle, r'.manager.active.lookup name = some handle ∧
          handle.task.limiter = entry.limiter) := by
  obtain ⟨hsound, hremembers⟩ := sound_and_remembers h
  have hsound' := hsound.step (e := .apply finished configs) hdistinct (manager_of_step hstep)
  have hremembers' := hremembers.apply hsound hdistinct hstep
  rcases apply_cases system finished configs r.manager with ⟨m', hcall, heq⟩ | ⟨e, failed, -,
    ⟨m', -, heq⟩ | ⟨e', e'', m', -, heq⟩⟩
  · have hmanager := manager_of_step hstep
    simp only [ListenerManager.step, heq, Option.some.injEq] at hmanager
    rw [← hmanager] at hsound' ⊢
    obtain ⟨ht, -, hregistered⟩ := hsound'
    obtain ⟨-, honly, hall, -, -, hnamed⟩ :=
      applied_of_applyOnce hdistinct.1 (hsound.reapRetired finished).tracked hcall
    refine ⟨?_, ?_, ?_, rfl, ?_⟩
    · intro name config
      rw [Option.map_eq_some_iff]
      constructor
      · rintro ⟨hd, hhd, rfl⟩
        exact honly name hd hhd
      · rintro ⟨hc, rfl⟩
        exact hall config hc
    · intro task htask hid
      obtain ⟨name, hd, hhd, rfl⟩ := ht.held task htask hid
      exact ⟨hd.config, (honly name hd hhd).1, ht.parameters name hd hhd, ht.rate name hd hhd⟩
    · intro config hc
      obtain ⟨hd, hhd, rfl⟩ := hall config hc
      have hname := name_of_parameters (ht.parameters _ hd hhd)
      refine ⟨hd.task, ⟨ht.started _ hd hhd, ht.running _ hd hhd, hname⟩, ?_⟩
      -- a task of that name is the task of the one handle of that name
      rintro task ⟨htask, hid, hsame⟩
      obtain ⟨name, hd', hhd', rfl⟩ := ht.held task htask hid
      rw [name_of_parameters (ht.parameters name hd' hhd'), ht.name name hd' hhd'] at hsame
      subst hsame
      rw [Option.some.inj (hhd'.symm.trans hhd)]
    · intro name entry hentry hlost
      have hlimiter := hremembers' name entry hentry hlost
      rw [← hmanager] at hlimiter
      obtain ⟨c, hc, rfl⟩ := hnamed name (AList.mem_of_lookup hlimiter)
      obtain ⟨hd, hhd, -⟩ := hall c hc
      have hused := hregistered c.name hd hhd
      rw [Registered, hlimiter] at hused
      exact ⟨hd, hhd, (congrArg LimiterEntry.limiter (Option.some.inj hused)).symm⟩
  · rw [heq] at hok
    cases hok
  · rw [heq] at hok
    cases hok

/-- A tunnel with a limited rate, and the same with fewer connections. -/
def limitedWeb (maxConnections : ℕ) : ServerTunnelConfig :=
  { TunnelRuntime.sampleTunnel "web" 8080 with limitBps := some 1000, maxConnections }

/-- A reload fails and is undone, the next one restarts the listener with its limiter. -/
theorem web_keeps_limiter :
    ∃ r r', Reach (step TunnelRuntime.sampleSha256 (sampleSystem fun _ call _ => call = 1))
        Admissible (new .new) r ∧
      r.step TunnelRuntime.sampleSha256 (sampleSystem fun _ call _ => call = 1)
        (.apply [] [limitedWeb 64]) = some r' ∧
      ∃ handle, r'.manager.active.lookup "web" = some handle ∧
        handle.task.limiter = ⟨some ⟨0, 1000⟩⟩ := by
  have hrun : (exec (step TunnelRuntime.sampleSha256 (sampleSystem fun _ call _ => call = 1))
      Admissible (new .new) [.apply [] [limitedWeb 128], .apply [] [limitedWeb 64]]).map
        (fun r => ((r.manager.apply (sampleSystem fun _ call _ => call = 1) []
          [limitedWeb 64]).1, (r.step TunnelRuntime.sampleSha256
          (sampleSystem fun _ call _ => call = 1) (.apply [] [limitedWeb 64])).map
            fun r => (r.original.lookup "web", r.lost))) =
      some (.ok (), some (some ⟨some 1000, ⟨some ⟨0, 1000⟩⟩⟩, [])) := by decide +kernel
  obtain ⟨r, hr, hview⟩ := Option.map_eq_some_iff.mp hrun
  obtain ⟨hok, hnext⟩ := Prod.mk.inj hview
  obtain ⟨r', hstep, hview⟩ := Option.map_eq_some_iff.mp hnext
  obtain ⟨horiginal, hlost⟩ := Prod.mk.inj hview
  have hreach := reach_of_exec hr
  obtain ⟨-, -, -, -, hlimiter⟩ := reload_as_fresh_start hreach (by decide +kernel) hok hstep
  exact ⟨r, r', hreach, hstep, hlimiter "web" _ horiginal (hlost ▸ List.not_mem_nil)⟩

/-- The listener of `web` and the way back cannot be bound, nor can the listener of the next list,
after which the way back has no listener to start and drops the limiter.  The list after that has
the same limit as all lists before, but `web` gets a new limiter. -/
theorem web_gets_new_limiter :
    ValidTunnels [limitedWeb 128] ∧ ValidTunnels [limitedWeb 64] ∧
      ∃ r r', exec (step TunnelRuntime.sampleSha256
          (sampleSystem fun _ call _ => call ∈ [1, 2, 3])) Admissible (new .new)
          [.apply [] [limitedWeb 128], .apply [] [limitedWeb 64], .apply [] [limitedWeb 128]] =
          some r ∧
        (r.manager.apply (sampleSystem fun _ call _ => call ∈ [1, 2, 3]) []
          [limitedWeb 128]).1 = .ok () ∧
        r.step TunnelRuntime.sampleSha256 (sampleSystem fun _ call _ => call ∈ [1, 2, 3])
          (.apply [] [limitedWeb 128]) = some r' ∧
        ¬ (∀ name entry, r'.original.lookup name = some entry →
          ∃ handle, r'.manager.active.lookup name = some handle ∧
            handle.task.limiter = entry.limiter) := by
  have hvalid : ∀ n, n = 128 ∨ n = 64 → ValidTunnels [limitedWeb n] := by
    intro n hn
    refine ⟨⟨⟨TunnelRuntime.samplePeer 4433, "", ""⟩,
      [⟨"office", "0123456789abcdef0123456789abcdef"⟩], [limitedWeb n]⟩, ?_, rfl⟩
    rcases hn with rfl | rfl
    · decide +kernel
    · decide +kernel
  have hrun : (exec (step TunnelRuntime.sampleSha256
      (sampleSystem fun _ call _ => call ∈ [1, 2, 3])) Admissible (new .new)
      [.apply [] [limitedWeb 128], .apply [] [limitedWeb 64], .apply [] [limitedWeb 128]]).map
        (fun r => ((r.manager.apply (sampleSystem fun _ call _ => call ∈ [1, 2, 3]) []
          [limitedWeb 128]).1, (r.step TunnelRuntime.sampleSha256
          (sampleSystem fun _ call _ => call ∈ [1, 2, 3]) (.apply [] [limitedWeb 128])).map
            fun r => (r.original.lookup "web",
              (r.manager.active.lookup "web").map (·.task.limiter)))) =
      some (.ok (), some (some ⟨some 1000, ⟨some ⟨0, 1000⟩⟩⟩, some ⟨some ⟨2, 1000⟩⟩)) := by
    decide +kernel
  obtain ⟨r, hr, hview⟩ := Option.map_eq_some_iff.mp hrun
  obtain ⟨hok, hnext⟩ := Prod.mk.inj hview
  obtain ⟨r', hstep, hview⟩ := Option.map_eq_some_iff.mp hnext
  obtain ⟨horiginal, hactive⟩ := Prod.mk.inj hview
  refine ⟨hvalid 128 (Or.inl rfl), hvalid 64 (Or.inr rfl), r, r', hr, hok, hstep, ?_⟩
  intro hall
  obtain ⟨handle, hhandle, hlimiter⟩ := hall "web" _ horiginal
  rw [hhandle, Option.map_some, hlimiter] at hactive
  exact absurd hactive (by decide)

end Reloads

end GateRust.Tunnel
