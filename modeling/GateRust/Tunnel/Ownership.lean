/-
# Ownership of the tunnels

What the operations of the runtime do to the owner of a tunnel.  An owner keeps its tunnel
until it gives the tunnel up itself, is removed, is disconnected from the tunnel, or the
configuration of the tunnel changes; no operation hands an owned tunnel to another session,
and only `register` and `update_services` of a session make it the owner of a tunnel.

`update_services` of one session looks at the owners of all tunnels, so the owners of the
other sessions survive it only because they are valid (`OwnersValid`).
-/
import GateRust.Tunnel.RuntimeInvariant

namespace GateRust.Tunnel

open Machine RuntimeState

/-! ## The owners after the helper functions -/

namespace RuntimeState

variable {st : RuntimeState} {t : String} {owner : TunnelOwner}

lemma lookup_retainValidOwners :
    st.retainValidOwners.owners.lookup t = some owner ↔
      st.owners.lookup t = some owner ∧ st.MayOwn owner.sessionId t := by
  constructor
  · intro h
    exact ⟨(AList.lookup_retain_eq_some.mp h).1, ownersValid_retainValidOwners st t owner h⟩
  · rintro ⟨howner, spec, session, hspec, hsession, hmay⟩
    refine AList.lookup_retain_eq_some.mpr ⟨howner, ?_⟩
    simp only [hspec, hsession]
    exact eligible_iff.mpr hmay

lemma lookup_removeSession {id : SessionId} :
    (st.removeSession id).owners.lookup t = some owner ↔
      st.owners.lookup t = some owner ∧ owner.sessionId ≠ id := by
  rw [removeSession, releaseSession, AList.lookup_retain_eq_some, decide_eq_true_iff]

/-- Of the owners, exactly the sessions with the given ids lose their tunnels. -/
lemma lookup_revoke {ids : List SessionId} (hvalid : st.OwnersValid) :
    (st.revoke ids).1.owners.lookup t = some owner ↔
      st.owners.lookup t = some owner ∧ owner.sessionId ∉ ids := by
  induction ids generalizing st with
  | nil => simp [revoke]
  | cons id ids ih =>
    unfold revoke
    cases hs : st.sessions.lookup id with
    | none =>
      rw [ih hvalid, List.mem_cons, not_or]
      refine and_congr_right fun howner => ⟨fun hids => ⟨?_, hids⟩, And.right⟩
      -- a session that is not online owns nothing
      rintro rfl
      obtain ⟨-, session, -, hsession, -⟩ := hvalid t owner howner
      simp [hs] at hsession
    | some session =>
      rw [ih (hvalid.removeSession id), lookup_removeSession, List.mem_cons, not_or, and_assoc]

/-- The session may own the same tunnels when only the services of another one change. -/
lemma mayOwn_modifyServices_of_ne {id s : SessionId} (hne : s ≠ id)
    {f : HashMap String TunnelKind → HashMap String TunnelKind} :
    (st.modifyServices id f).MayOwn s t ↔ st.MayOwn s t := by
  simp only [MayOwn, modifyServices, AList.lookup_modify, if_neg hne]

lemma mayOwn_iff_of_lookup {s : SessionId} {spec : TunnelSpec} {session : SessionEntry}
    (hspec : st.tunnels.lookup t = some spec) (hsession : st.sessions.lookup s = some session) :
    st.MayOwn s t ↔ session.group = spec.group ∧ session.services.lookup t = some spec.kind := by
  constructor
  · rintro ⟨spec', session', hspec', hsession', hmay⟩
    obtain rfl := Option.some.inj (hspec.symm.trans hspec')
    obtain rfl := Option.some.inj (hsession.symm.trans hsession')
    exact hmay
  · exact fun hmay => ⟨spec, session, hspec, hsession, hmay⟩

end RuntimeState

namespace TunnelRuntime

variable {sha256 : GroupSecret → Digest} {rt : TunnelRuntime} {t : String} {owner : TunnelOwner}

variable (rt) in
/-- Claiming leaves the tunnels that have an owner alone. -/
lemma lookup_claimAvailable_of_some (id : SessionId) (h : rt.state.owners.lookup t = some owner) :
    (rt.claimAvailable id).state.owners.lookup t = some owner := by
  have hmem : t ∉ rt.state.available id := by
    intro hmem
    have hnone := (mem_available hmem).2
    rw [h] at hnone
    exact absurd hnone (by simp)
  exact (lookup_insertOwners.1 hmem).trans h

variable (rt) in
/-- A tunnel without an owner is claimed for the given session only. -/
lemma sessionId_of_claimAvailable {id : SessionId} (h : rt.state.owners.lookup t = none)
    (h' : (rt.claimAvailable id).state.owners.lookup t = some owner) :
    owner.sessionId = id ∧ rt.state.MayOwn id t := by
  by_cases hmem : t ∈ rt.state.available id
  · obtain ⟨token, hnew⟩ := @lookup_insertOwners id _ rt.nextToken rt.state.owners t |>.2 hmem
    have howner : owner = ⟨id, token⟩ := Option.some.inj (h'.symm.trans hnew)
    exact ⟨by rw [howner], (mem_available hmem).1⟩
  · have hnone : (rt.claimAvailable id).state.owners.lookup t = none :=
      (lookup_insertOwners.1 hmem).trans h
    rw [h'] at hnone
    exact absurd hnone (by simp)

/-! ## The owners after an operation -/

/-- The table of the tunnels that `apply_tunnels` installs. -/
def tunnelSpecs (configs : List ServerTunnelConfig) : HashMap String TunnelSpec :=
  .ofList (configs.map fun config =>
    (config.name,
      { group := config.group
        kind := config.kind
        bind := config.bind
        localIp := config.clientLocalIp
        localPort := config.clientLocalPort }))

/-- The operation ends the ownership of the tunnel `t` by the session `s`. -/
def Releases (rt : TunnelRuntime) (sha256 : GroupSecret → Digest) (s : SessionId) (t : String) :
    Operation → Prop
  | .register .. => False
  | .updateServices id services => id = s ∧ ∀ spec, rt.state.tunnels.lookup t = some spec →
      (serviceMap services).lookup t ≠ some spec.kind
  | .unregister id => id = s
  | .disconnect id => id = s
  | .disconnectTunnel id tunnel => id = s ∧ tunnel = t
  | .applyTunnels configs => ∀ spec spec', rt.state.tunnels.lookup t = some spec →
      (tunnelSpecs configs).lookup t = some spec' →
      spec'.group ≠ spec.group ∨ spec'.kind ≠ spec.kind
  | .applyCredentials credentials => ∀ session, rt.state.sessions.lookup s = some session →
      (credentialDigests sha256 credentials).lookup session.group ≠ some session.credentialDigest

/-- The operations in which a session may become the owner of a tunnel. -/
def Operation.Claims (s : SessionId) : Operation → Prop
  | .register id .. => id = s
  | .updateServices id _ => id = s
  | _ => False

/-- What a tunnel with the owner `owner` has afterwards: the same owner, or none when the
ownership was ended. -/
def KeptUnless (released : Prop) (owner : TunnelOwner) (after : Option TunnelOwner) : Prop :=
  (¬released → after = some owner) ∧ (released → after = none)

/-- A step that removes the owner or keeps it. -/
lemma KeptUnless.of_iff {released : Prop} {after : Option TunnelOwner}
    (h : ∀ owner', after = some owner' ↔ owner' = owner ∧ ¬released) :
    KeptUnless released owner after := by
  refine ⟨fun hkeep => (h owner).mpr ⟨rfl, hkeep⟩, fun hrelease => ?_⟩
  rw [Option.eq_none_iff_forall_ne_some]
  intro owner' hafter
  exact ((h owner').mp hafter).2 hrelease

section Operations

variable (hc : rt.state.Consistent) (howner : rt.state.owners.lookup t = some owner)
include howner

lemma keptUnless_register {id : SessionId} {deviceId group : String} {digest : Digest}
    {connection : Connection} {services : List ServiceDeclaration} {now : UInt64} :
    KeptUnless False owner ((rt.register id deviceId group digest connection services
      now).2.state.owners.lookup t) := by
  refine ⟨fun _ => ?_, False.elim⟩
  rcases register_cases rt id deviceId group digest connection services now with
    ⟨_, heq⟩ | ⟨-, -, -, entry, -, -, -, -, heq⟩
  · rw [heq]
    exact howner
  · rw [heq]
    exact lookup_claimAvailable_of_some _ id howner

lemma keptUnless_removeSession {id : SessionId} :
    KeptUnless (id = owner.sessionId) owner
      ((rt.state.removeSession id).owners.lookup t) := by
  refine .of_iff fun owner' => ?_
  rw [lookup_removeSession, howner, Option.some.injEq]
  constructor
  · rintro ⟨rfl, hne⟩
    exact ⟨rfl, Ne.symm hne⟩
  · rintro ⟨rfl, hne⟩
    exact ⟨rfl, Ne.symm hne⟩

include hc

lemma keptUnless_unregister {id : SessionId} :
    KeptUnless (id = owner.sessionId) owner ((rt.unregister id).state.owners.lookup t) := by
  obtain ⟨-, session, -, hsession, -⟩ := hc.owners t owner howner
  unfold unregister
  cases hs : rt.state.sessions.lookup id with
  | none =>
    refine ⟨fun _ => howner, ?_⟩
    rintro rfl
    simp [hs] at hsession
  | some _ => exact keptUnless_removeSession howner

lemma keptUnless_disconnect {id : SessionId} :
    KeptUnless (id = owner.sessionId) owner ((rt.disconnect id).2.state.owners.lookup t) := by
  obtain ⟨-, session, -, hsession, -⟩ := hc.owners t owner howner
  unfold disconnect
  cases hs : rt.state.sessions.lookup id with
  | none =>
    refine ⟨fun _ => howner, ?_⟩
    rintro rfl
    simp [hs] at hsession
  | some _ => exact keptUnless_removeSession howner

/-- `disconnect_tunnel` succeeds for the owner of the tunnel. -/
lemma disconnectTunnel_of_owner :
    rt.disconnectTunnel owner.sessionId t = (.ok (),
      { rt with
        state := { rt.state.modifyServices owner.sessionId (·.erase t) with
          owners := rt.state.owners.erase t }
        cancelled := rt.cancelled ++ [owner.shutdown] }.notify) := by
  obtain ⟨spec, session, hspec, hsession, -⟩ := hc.owners t owner howner
  simp [disconnectTunnel, hsession, hspec, howner]

lemma keptUnless_disconnectTunnel {id : SessionId} {tunnel : String} :
    KeptUnless (id = owner.sessionId ∧ tunnel = t) owner
      ((rt.disconnectTunnel id tunnel).2.state.owners.lookup t) := by
  constructor
  · intro hne
    rcases disconnectTunnel_cases rt id tunnel with ⟨_, heq⟩ | ⟨owner', howner', hid, -, heq⟩
    · rw [heq]
      exact howner
    · rw [heq]
      have htunnel : t ≠ tunnel := by
        rintro rfl
        obtain rfl := Option.some.inj (howner'.symm.trans howner)
        exact hne ⟨hid.symm, rfl⟩
      exact (AList.lookup_erase_ne htunnel).trans howner
  · rintro ⟨rfl, rfl⟩
    rw [disconnectTunnel_of_owner hc howner]
    exact AList.lookup_erase _ _

/-- A tunnel of another session survives; a tunnel of the session itself as long as the
session declares it with its kind. -/
lemma keptUnless_updateServices (id : SessionId) (services : List ServiceDeclaration) :
    KeptUnless (id = owner.sessionId ∧ ∀ spec, rt.state.tunnels.lookup t = some spec →
        (serviceMap services).lookup t ≠ some spec.kind) owner
      ((rt.updateServices id services).2.state.owners.lookup t) := by
  obtain ⟨spec, session, hspec, hsession, hgroup, hkind⟩ := hc.owners t owner howner
  unfold updateServices
  cases hs : rt.state.sessions.lookup id with
  | none =>
    refine ⟨fun _ => howner, ?_⟩
    rintro ⟨rfl, -⟩
    simp [hs] at hsession
  | some _ =>
    simp only [state_notify_if]
    set st := rt.state.modifyServices id fun _ => serviceMap services with hst
    have hmay : ¬(id = owner.sessionId ∧ ∀ spec, rt.state.tunnels.lookup t = some spec →
        (serviceMap services).lookup t ≠ some spec.kind) ↔ st.MayOwn owner.sessionId t := by
      by_cases hid : id = owner.sessionId
      · subst hid
        have hsession' : st.sessions.lookup owner.sessionId =
            some { session with services := serviceMap services } := by
          simp [hst, modifyServices, AList.lookup_modify, hsession]
        rw [mayOwn_iff_of_lookup (show st.tunnels.lookup t = some spec from hspec) hsession']
        simp [hspec, hgroup]
      · rw [hst, mayOwn_modifyServices_of_ne (Ne.symm hid)]
        exact iff_of_true (fun h => hid h.1) ⟨spec, session, hspec, hsession, hgroup, hkind⟩
    constructor
    · intro hkeep
      exact lookup_claimAvailable_of_some _ id
        (lookup_retainValidOwners.mpr ⟨howner, hmay.mp hkeep⟩)
    · intro hrelease
      have hnone : st.retainValidOwners.owners.lookup t = none := by
        rw [Option.eq_none_iff_forall_ne_some]
        intro owner' howner'
        obtain ⟨hold, hmay'⟩ := lookup_retainValidOwners.mp howner'
        obtain rfl := Option.some.inj (howner.symm.trans hold)
        exact (hmay.mpr hmay') hrelease
      rw [Option.eq_none_iff_forall_ne_some]
      intro owner' howner'
      -- the session does not claim back what it has just given up
      obtain ⟨-, hclaim⟩ := sessionId_of_claimAvailable
        { rt with state := st.retainValidOwners } hnone howner'
      rw [hrelease.1] at hclaim
      exact (hmay.mpr hclaim) hrelease

lemma keptUnless_applyTunnels {configs : List ServerTunnelConfig} :
    KeptUnless (∀ spec spec', rt.state.tunnels.lookup t = some spec →
        (tunnelSpecs configs).lookup t = some spec' →
        spec'.group ≠ spec.group ∨ spec'.kind ≠ spec.kind) owner
      ((rt.applyTunnels configs).state.owners.lookup t) := by
  obtain ⟨spec, session, hspec, hsession, hgroup, hkind⟩ := hc.owners t owner howner
  refine .of_iff fun owner' => ?_
  show ({ rt.state with tunnels := tunnelSpecs configs }.retainValidOwners.owners.lookup t =
    some owner') ↔ _
  rw [lookup_retainValidOwners]
  show rt.state.owners.lookup t = some owner' ∧ _ ↔ _
  rw [howner, Option.some.injEq, eq_comm]
  refine and_congr_right fun hown => ?_
  subst hown
  constructor
  · rintro ⟨spec', session', hspec', hsession', hgroup', hkind'⟩ hchanged
    obtain rfl := Option.some.inj (hsession.symm.trans hsession')
    rcases hchanged spec spec' hspec hspec' with hne | hne
    · exact hne (hgroup'.symm.trans hgroup)
    · exact hne (Option.some.inj (hkind'.symm.trans hkind))
  · intro hsame
    push Not at hsame
    obtain ⟨spec₀, spec', hspec₀, hspec', hgroup', hkind'⟩ := hsame
    obtain rfl := Option.some.inj (hspec.symm.trans hspec₀)
    exact ⟨spec', session, hspec', hsession, hgroup.trans hgroup'.symm, hkind'.symm ▸ hkind⟩

lemma keptUnless_applyCredentials {credentials : List (String × GroupSecret)} :
    KeptUnless (∀ session, rt.state.sessions.lookup owner.sessionId = some session →
        (credentialDigests sha256 credentials).lookup session.group ≠
          some session.credentialDigest) owner
      ((rt.applyCredentials sha256 credentials).state.owners.lookup t) := by
  obtain ⟨-, session, -, hsession, -⟩ := hc.owners t owner howner
  refine .of_iff fun owner' => ?_
  rw [applyCredentials_state, lookup_revoke (show OwnersValid { rt.state with
    credentials := credentialDigests sha256 credentials } from hc.owners)]
  show rt.state.owners.lookup t = some owner' ∧ _ ↔ _
  rw [howner, Option.some.injEq, eq_comm]
  refine and_congr_right fun hown => ?_
  subst hown
  rw [not_iff_not, ← AList.mem_keys, AList.mem_retain]
  constructor
  · rintro ⟨session', hsession', hrevoked⟩ session'' hsession''
    obtain rfl := Option.some.inj (hsession'.symm.trans hsession'')
    simpa using hrevoked
  · intro hrevoked
    exact ⟨session, hsession, by simpa using hrevoked session hsession⟩

end Operations

variable (sha256) in
/-- Every operation keeps the owner of a tunnel, unless it is one of those that end the
ownership. -/
lemma keptUnless_perform (hc : rt.state.Consistent)
    (howner : rt.state.owners.lookup t = some owner) (op : Operation) :
    KeptUnless (rt.Releases sha256 owner.sessionId t op) owner
      ((rt.perform sha256 op).state.owners.lookup t) := by
  cases op with
  | register => exact keptUnless_register howner
  | updateServices => exact keptUnless_updateServices hc howner _ _
  | unregister => exact keptUnless_unregister hc howner
  | disconnect => exact keptUnless_disconnect hc howner
  | disconnectTunnel => exact keptUnless_disconnectTunnel hc howner
  | applyTunnels => exact keptUnless_applyTunnels hc howner
  | applyCredentials => exact keptUnless_applyCredentials hc howner

/-- What `update_services` gives to a session that declares the services. -/
lemma claims_of_updateServices {id : SessionId} {services : List ServiceDeclaration}
    (hnone : rt.state.owners.lookup t = none)
    (hnew : (rt.updateServices id services).2.state.owners.lookup t = some owner) :
    owner.sessionId = id ∧ ∃ spec, rt.state.tunnels.lookup t = some spec ∧
      (serviceMap services).lookup t = some spec.kind := by
  unfold updateServices at hnew
  cases hs : rt.state.sessions.lookup id with
  | none =>
    simp only [hs] at hnew
    exact absurd (hnone.symm.trans hnew) (by simp)
  | some session =>
    simp only [hs, state_notify_if] at hnew
    set st := rt.state.modifyServices id fun _ => serviceMap services with hst
    have hnone' : st.retainValidOwners.owners.lookup t = none := by
      rw [Option.eq_none_iff_forall_ne_some]
      intro owner' howner'
      exact absurd (hnone.symm.trans (lookup_retainValidOwners.mp howner').1) (by simp)
    obtain ⟨hid, spec, session', hspec, hsession', -, hkind⟩ := sessionId_of_claimAvailable
      { rt with state := st.retainValidOwners } hnone' hnew
    have hservices : some { session with services := serviceMap services } = some session' := by
      rw [← hsession']
      simp [hst, retainValidOwners, modifyServices, AList.lookup_modify, hs]
    obtain rfl := Option.some.inj hservices
    exact ⟨hid, spec, hspec, hkind⟩

lemma owner_of_removed {st : RuntimeState} {id : SessionId}
    (hst : st = rt.state ∨ st = rt.state.removeSession id)
    (h : st.owners.lookup t = some owner) : rt.state.owners.lookup t = some owner := by
  rcases hst with rfl | rfl
  · exact h
  · exact (lookup_removeSession.mp h).1

/-- The other operations add no owner. -/
lemma owner_of_not_claims (hc : rt.state.Consistent) {op : Operation}
    (hop : ¬op.Claims owner.sessionId)
    (h : (rt.perform sha256 op).state.owners.lookup t = some owner) :
    rt.state.owners.lookup t = some owner := by
  cases op with
  | register id deviceId group digest connection services now =>
    rcases register_cases rt id deviceId group digest connection services now with
      ⟨_, heq⟩ | ⟨-, -, -, entry, -, -, -, -, heq⟩
    · rw [perform, heq] at h
      exact h
    · rw [perform, heq] at h
      by_contra hne
      cases hold : rt.state.owners.lookup t with
      | none =>
        exact hop (sessionId_of_claimAvailable
          { rt with state := rt.state.insertSession id entry } hold h).1.symm
      | some owner' =>
        have hkept := lookup_claimAvailable_of_some
          { rt with state := rt.state.insertSession id entry } id hold
        exact hne (hold.trans (hkept.symm.trans h))
  | updateServices id services =>
    cases hold : rt.state.owners.lookup t with
    | none => exact absurd (claims_of_updateServices hold h).1.symm hop
    | some owner' =>
      obtain ⟨hkeep, hrelease⟩ := keptUnless_updateServices hc hold id services
      by_contra hne
      refine hne ((hkeep fun hr => ?_).symm.trans h)
      exact absurd ((hrelease hr).symm.trans h) (by simp)
  | unregister id => exact owner_of_removed (unregister_state rt id) h
  | disconnect id => exact owner_of_removed (disconnect_state rt id) h
  | disconnectTunnel id tunnel =>
    rcases disconnectTunnel_cases rt id tunnel with ⟨_, heq⟩ | ⟨_, -, -, -, heq⟩
    · rw [perform, heq] at h
      exact h
    · simp only [perform, heq, notify, AList.lookup_erase_eq] at h
      split at h
      · exact absurd h (by simp)
      · exact h
  | applyTunnels configs => exact (lookup_retainValidOwners.mp h).1
  | applyCredentials credentials =>
    rw [perform, applyCredentials_state] at h
    exact ((lookup_revoke (show OwnersValid { rt.state with
      credentials := credentialDigests sha256 credentials } from hc.owners)).mp h).1

/-! ## Ownership over a run -/

/-- **Ownership is sticky and never handed over.**  In every reachable state, an operation
leaves the owner of a tunnel as it is or removes it, and it removes it exactly when it is one
of the operations that end the ownership; a session that owns a tunnel after an operation and
did not own it before is the session that the operation registers or whose services it
updates. -/
theorem ownership_sticky (hreach : Reach (TunnelRuntime.step sha256) FreshSessions .new rt)
    (op : Operation) :
    (∀ t owner, rt.state.owners.lookup t = some owner →
      ((rt.perform sha256 op).state.owners.lookup t = some owner ∧
          ¬rt.Releases sha256 owner.sessionId t op) ∨
        ((rt.perform sha256 op).state.owners.lookup t = none ∧
          rt.Releases sha256 owner.sessionId t op)) ∧
      ∀ t owner, (rt.perform sha256 op).state.owners.lookup t = some owner →
        (∀ owner', rt.state.owners.lookup t = some owner' →
          owner'.sessionId ≠ owner.sessionId) →
        op.Claims owner.sessionId := by
  have hc := consistent_of_reach hreach
  constructor
  · intro t owner howner
    obtain ⟨hkeep, hrelease⟩ := keptUnless_perform sha256 hc howner op
    by_cases hr : rt.Releases sha256 owner.sessionId t op
    · exact Or.inr ⟨hrelease hr, hr⟩
    · exact Or.inl ⟨hkeep hr, hr⟩
  · intro t owner hnew hgain
    by_contra hop
    exact hgain owner (owner_of_not_claims hc hop hnew) rfl

/-- The session 1 owns `web`; the session 2, which declares `web` too, changes its services,
and the session 1 keeps the tunnel. -/
theorem first_session_keeps_web :
    ∃ rt, Reach (TunnelRuntime.step sampleSha256) FreshSessions .new rt ∧
      (rt.updateServices 2 [⟨"web", .tcp⟩, ⟨"ssh", .tcp⟩]).2.state.owners.lookup "web" =
        some ⟨1, 0⟩ := by
  have hrun : (exec (TunnelRuntime.step sampleSha256) FreshSessions .new
      [.applyCredentials [("office", sampleKey)],
        .applyTunnels [sampleTunnel "web" 8080],
        .register 1 "first" "office" (sampleSha256 sampleKey) ⟨1, samplePeer 5001⟩
          [⟨"web", .tcp⟩] 0,
        .register 2 "second" "office" (sampleSha256 sampleKey) ⟨2, samplePeer 5002⟩
          [⟨"web", .tcp⟩] 0]).map (fun rt => rt.state.owners.lookup "web") =
      some (some ⟨1, 0⟩) := by decide +kernel
  obtain ⟨rt, hrt, howner⟩ := Option.map_eq_some_iff.mp hrun
  have hreach := reach_of_exec hrt
  refine ⟨rt, hreach, ?_⟩
  rcases (ownership_sticky hreach (.updateServices 2 [⟨"web", .tcp⟩, ⟨"ssh", .tcp⟩])).1 "web"
    ⟨1, 0⟩ howner with ⟨hkept, -⟩ | ⟨-, hother, -⟩
  · exact hkept
  · exact absurd hother (by decide)

end TunnelRuntime

end GateRust.Tunnel
