/-
# What a catalog contains

The table of the runtime always comes from a list of tunnels that a valid configuration has, whole
or in part: a reload applies the list of the new configuration, and when the endpoint cannot be
switched, the list that it read off the active listeners, which may lack tunnels whose listener
could not be started again.  So a catalog has at most 256 tunnels, with valid names and addresses.
-/
import GateRust.Tunnel.ServerReload

namespace GateRust.Tunnel

open Machine TunnelRuntime

/-! ## Parts of a valid list -/

/-- Each tunnel is one of a valid configuration, and none comes twice. -/
structure PartOfValid (configs : List ServerTunnelConfig) : Prop where
  nodup : (configs.map (·.name)).Nodup
  subset : ∃ tunnels, ValidTunnels tunnels ∧ configs ⊆ tunnels

namespace PartOfValid

variable {configs configs' : List ServerTunnelConfig}

lemma of_valid (h : ValidTunnels configs) : PartOfValid configs :=
  ⟨h.nodup.1, configs, h, List.Subset.refl configs⟩

lemma of_subset (h : PartOfValid configs) (hnodup : (configs'.map (·.name)).Nodup)
    (hsub : configs' ⊆ configs) : PartOfValid configs' := by
  obtain ⟨tunnels, hvalid, htunnels⟩ := h.subset
  exact ⟨hnodup, tunnels, hvalid, List.Subset.trans hsub htunnels⟩

lemma forall_checked (h : PartOfValid configs) :
    ∀ tunnel ∈ configs, validName tunnel.name = true ∧ tunnel.LocalIpValid := by
  obtain ⟨tunnels, hvalid, htunnels⟩ := h.subset
  exact fun tunnel hmem => hvalid.forall_checked tunnel (htunnels hmem)

lemma group_count_le (h : PartOfValid configs) (group : String) :
    (configs.map (·.group)).count group ≤ maxClientServices := by
  obtain ⟨tunnels, hvalid, htunnels⟩ := h.subset
  obtain ⟨part, hperm, hsub⟩ := List.subperm_of_subset h.nodup.of_map htunnels
  rw [← (hperm.map _).count_eq]
  exact ((hsub.map _).count_le group).trans (hvalid.group_count_le group)

end PartOfValid

/-! ## The listeners after a call of `apply` -/

namespace ListenerManager

variable {system : System} {m m' failed : ListenerManager} {configs : List ServerTunnelConfig}
  {finished : List ℕ}

lemma order_subset (system : System) (m : ListenerManager) (call : ℕ) :
    system.order call m.configs ⊆ m.configs := (system.order_perm call m.configs).subset

/-- The way back leaves listeners of the previous list, even when it fails. -/
lemma configs_of_rollBack {e : TunnelError} {result : Except TunnelError Unit}
    (hnodup : (configs.map (·.name)).Nodup) (h : m.Sound)
    (hcall : applyOnce system configs m = (.error e, failed))
    (hback : rollBack system m failed = (result, m')) : m'.configs ⊆ m.configs := by
  have hprevious := nodup_name_order system h.tracked m.binds
  have htracked := tracked_failed hnodup h hcall
  intro config hconfig
  obtain ⟨name, hd, hhd, rfl⟩ := mem_configs.mp hconfig
  cases result with
  | ok =>
    have happlied := applied_of_applyOnce hprevious htracked hback
    exact order_subset system m _ (happlied.only name hd hhd).1
  | error e' =>
    rcases (started_of_error hback).added name hd hhd with hold | ⟨-, hmem, -⟩
    · obtain ⟨hfailed, hkeeps⟩ := (lookup_stopPhase hprevious htracked).mp hold
      have hkept := (of_keeps_previous hnodup h.tracked (started_of_error hcall) hfailed hkeeps).1
      exact mem_configs.mpr ⟨name, hd, hkept, rfl⟩
    · exact order_subset system m _ hmem

/-- After a call the listeners are some of the new list, or some of those before it. -/
lemma configs_of_apply (h : m.Sound) (hnodup : (configs.map (·.name)).Nodup) :
    (m.apply system finished configs).2.configs ⊆ configs ∨
      (m.apply system finished configs).2.configs ⊆ m.configs := by
  have hreaped := h.reapRetired finished
  rcases apply_cases system finished configs m with ⟨m', hcall, heq⟩ | ⟨e, failed, hcall,
    ⟨m', hback, heq⟩ | ⟨e', e'', m', hback, heq⟩⟩
  · have happlied := applied_of_applyOnce hnodup hreaped.tracked hcall
    rw [heq]
    left
    intro config hconfig
    obtain ⟨name, hd, hhd, rfl⟩ := mem_configs.mp hconfig
    exact (happlied.only name hd hhd).1
  · have hsub : m'.configs ⊆ (m.reapRetired finished).configs :=
      configs_of_rollBack hnodup hreaped hcall hback
    rw [heq]
    exact .inr hsub
  · have hsub : m'.configs ⊆ (m.reapRetired finished).configs :=
      configs_of_rollBack hnodup hreaped hcall hback
    rw [heq]
    exact .inr hsub

end ListenerManager

/-! ## The table of the runtime -/

namespace TunnelRuntime

variable {sha256 : GroupSecret → Digest} {rt : TunnelRuntime}

lemma tunnels_applyCredentials (credentials : List (String × GroupSecret)) :
    (rt.applyCredentials sha256 credentials).state.tunnels = rt.state.tunnels := by
  rw [applyCredentials_state]
  refine RuntimeState.revoke_induction
    (P := fun st => st.tunnels = rt.state.tunnels) (fun _ _ h => h) ?_ _
  rfl

/-- Only `apply_tunnels` replaces the table. -/
lemma tunnels_perform {op : Operation} (h : ∀ configs, op ≠ .applyTunnels configs) :
    (rt.perform sha256 op).state.tunnels = rt.state.tunnels := by
  cases op with
  | register id deviceId group digest connection services now =>
    rcases register_cases rt id deviceId group digest connection services now with
      ⟨error, heq⟩ | ⟨-, -, -, entry, -, -, -, -, heq⟩
    · rw [perform, heq]
    · rw [perform, heq]
      rfl
  | updateServices id services =>
    rw [perform, updateServices]
    cases rt.state.sessions.lookup id with
    | none => rfl
    | some session =>
      dsimp only
      rw [state_notify_if]
      rfl
  | unregister id =>
    rcases unregister_state rt id with heq | heq <;> rw [perform, heq]
    rfl
  | disconnect id =>
    rcases disconnect_state rt id with heq | heq <;> rw [perform, heq]
    rfl
  | disconnectTunnel id tunnel =>
    rcases disconnectTunnel_cases rt id tunnel with ⟨error, heq⟩ | ⟨owner, -, -, -, heq⟩
    · rw [perform, heq]
    · rw [perform, heq]
      rfl
  | applyTunnels configs => exact absurd rfl (h configs)
  | applyCredentials credentials => exact tunnels_applyCredentials credentials

/-- An entry of the table is that of a tunnel of the list. -/
lemma config_of_entry {configs : List ServerTunnelConfig} {e : Σ _ : String, TunnelSpec}
    (h : e ∈ (tunnelSpecs configs).entries) :
    ∃ config ∈ configs, config.name = e.1 ∧ TunnelServer.specOf config = e.2 := by
  obtain ⟨config, hconfig, heq⟩ :=
    List.mem_map.mp (AList.mem_of_lookup_ofList (AList.lookup_eq_some_iff.mpr h))
  exact ⟨config, hconfig, congrArg Prod.fst heq, congrArg Prod.snd heq⟩

/-- The table has no more tunnels of a group than the list. -/
lemma length_group_le {configs : List ServerTunnelConfig} (group : String) :
    ((tunnelSpecs configs).entries.filter fun e => e.2.group = group).length ≤
      (configs.map (·.group)).count group := by
  have hnodup : (((tunnelSpecs configs).entries.filter fun e => e.2.group = group).map
      (·.1)).Nodup := (List.filter_sublist.map _).nodup (tunnelSpecs configs).nodupKeys
  have hsub : (((tunnelSpecs configs).entries.filter fun e => e.2.group = group).map (·.1)) ⊆
      (configs.filter fun config => config.group = group).map (·.name) := by
    intro name hname
    obtain ⟨e, he, rfl⟩ := List.mem_map.mp hname
    rw [List.mem_filter, decide_eq_true_iff] at he
    obtain ⟨config, hconfig, hname, hspec⟩ := config_of_entry he.1
    refine List.mem_map.mpr ⟨config, List.mem_filter.mpr ⟨hconfig, ?_⟩, hname⟩
    rw [decide_eq_true_iff, ← he.2, ← hspec]
    rfl
  have hlength := (List.subperm_of_subset hnodup hsub).length_le
  rw [List.length_map, List.length_map] at hlength
  rw [List.count_eq_countP, List.countP_map, List.countP_eq_length_filter]
  exact hlength

/-- The catalog of a session has the tunnels of one group. -/
lemma catalog_of_part {configs : List ServerTunnelConfig} (h : PartOfValid configs)
    (htable : rt.state.tunnels = tunnelSpecs configs) (id : SessionId) :
    (rt.catalog id).length ≤ maxClientServices ∧ ∀ tunnel ∈ rt.catalog id,
      ∃ config ∈ configs, tunnel.name = config.name ∧ tunnel.localIp = config.clientLocalIp := by
  unfold catalog
  cases rt.state.sessions.lookup id with
  | none => simp
  | some session =>
    dsimp only
    rw [htable, List.length_insertionSort, List.length_map]
    refine ⟨(length_group_le session.group).trans (h.group_count_le _), ?_⟩
    intro tunnel htunnel
    rw [List.mem_insertionSort, List.mem_map] at htunnel
    obtain ⟨e, he, rfl⟩ := htunnel
    obtain ⟨config, hconfig, hname, hspec⟩ := config_of_entry (List.mem_of_mem_filter he)
    exact ⟨config, hconfig, hname.symm, congrArg TunnelSpec.localIp hspec.symm⟩

end TunnelRuntime

/-! ## Every reachable server -/

namespace TunnelServer

variable {sha256 : GroupSecret → Digest} {system : System} {s s' s₀ : TunnelServer}
  {input : ReloadInput} {config : ServerConfig} {configs previous : List ServerTunnelConfig}

/-- Outside of a reload nothing calls `apply_tunnels`. -/
def TablesFromReloads (_ : TunnelServer) : ServerEvent → Prop
  | .operate (.applyTunnels _) => False
  | _ => True

structure Catalogued (s : TunnelServer) : Prop where
  sound : s.listeners.Sound
  listeners : PartOfValid s.listeners.configs
  table : ∃ configs, PartOfValid configs ∧ s.runtimeState.tunnels = tunnelSpecs configs

lemma Catalogued.apply (h : s.Catalogued) (hpart : PartOfValid configs) {finished : List ℕ}
    {quic : QuicEndpoint} {groups : List (String × GroupSecret)} :
    Catalogued ⟨quic, groups, (s.listeners.apply system finished configs).2⟩ := by
  have hsound : (s.listeners.apply system finished configs).2.Sound := h.sound.apply hpart.nodup
  have hnodup := ListenerManager.nodup_name_configs hsound.tracked
  refine ⟨hsound, ?_, ?_⟩
  · rcases ListenerManager.configs_of_apply h.sound hpart.nodup with hsub | hsub
    · exact hpart.of_subset hnodup hsub
    · exact h.listeners.of_subset hnodup hsub
  · show ∃ configs', PartOfValid configs' ∧
      (s.listeners.apply system finished configs).2.runtime.state.tunnels = tunnelSpecs configs'
    rcases runtime_apply system finished h.sound hpart.nodup with heq | heq
    · rw [heq]
      exact h.table
    · rw [heq]
      exact ⟨configs, hpart, rfl⟩

lemma Catalogued.finish (h : s.Catalogued) : (s.finish sha256 config).Catalogued := by
  obtain ⟨configs, hpart, htable⟩ := h.table
  exact ⟨h.sound.withRuntime _, h.listeners, configs, hpart,
    (tunnels_applyCredentials _).trans htable⟩

lemma Catalogued.putBack (h : s.Catalogued) (hpart : PartOfValid previous) {finished : List ℕ}
    {error : TunnelError} : (s.putBack system finished previous error).2.Catalogued := by
  have happly : Catalogued ⟨s.quic, s.groups, (s.listeners.apply system finished previous).2⟩ :=
    h.apply hpart
  unfold TunnelServer.putBack
  split
  case h_1 listeners heq =>
    rw [heq] at happly
    exact happly
  case h_2 rollbackError listeners heq =>
    rw [heq] at happly
    exact happly

lemma Catalogued.reload (h : s.Catalogued) : (s.reload sha256 system input).2.Catalogued := by
  have hprevious : PartOfValid (s.previousTunnels system) := h.listeners.of_subset
    (ListenerManager.nodup_name_order system h.sound.tracked s.listeners.binds)
    (ListenerManager.order_subset system s.listeners s.listeners.binds)
  unfold TunnelServer.reload
  split
  · exact h
  case h_2 config hload =>
    split
    · exact h
    case h_2 update hprepare =>
      have happly : ∀ quic, Catalogued ⟨quic, s.groups,
          (s.listeners.apply system input.finished config.tunnels).2⟩ := fun quic =>
        h.apply (.of_valid (validTunnels_of_load hload))
      unfold applyUpdate
      split
      case h_1 error listeners heq =>
        rw [heq] at happly
        exact happly s.quic
      case h_2 listeners heq =>
        rw [heq] at happly
        split
        · exact (happly s.quic).finish
        · split
          case h_1 error quic hquic => exact (happly quic).putBack hprevious
          case h_2 quic hquic => exact (happly quic).finish

lemma catalogued_start {quic : QuicEndpoint} {initial : ServerConfig}
    (h : start sha256 system quic initial = some s) : s.Catalogued := by
  simp only [start] at h
  split at h
  case h_2 => cases h
  case h_1 listeners hvalid happly =>
    cases h
    have hempty : ValidTunnels [] := ⟨⟨initial.quic, [], []⟩, rfl, rfl⟩
    have hnew : Catalogued ⟨quic, initial.credentials, .new
        (TunnelRuntime.new.applyCredentials sha256 initial.credentials)⟩ :=
      ⟨ListenerManager.sound_new _, .of_valid hempty, [], .of_valid hempty,
        tunnels_applyCredentials _⟩
    have happlied : Catalogued ⟨quic, initial.credentials, ((ListenerManager.new
        (TunnelRuntime.new.applyCredentials sha256 initial.credentials)).apply system []
          initial.tunnels).2⟩ := hnew.apply (.of_valid ⟨initial, hvalid, rfl⟩)
    rw [happly] at happlied
    exact happlied

lemma Catalogued.step {e : ServerEvent} (h : s.Catalogued) (hok : s.TablesFromReloads e)
    (hstep : s.step sha256 system e = some s') : s'.Catalogued := by
  cases e with
  | reload input =>
    cases hstep
    exact h.reload
  | operate op =>
    cases hstep
    obtain ⟨configs, hpart, htable⟩ := h.table
    refine ⟨h.sound.withRuntime _, h.listeners, configs, hpart, ?_⟩
    refine (tunnels_perform ?_).trans htable
    rintro configs rfl
    exact hok

end TunnelServer

end GateRust.Tunnel
