/-
# Consistency of the tunnel runtime

The four maps of the runtime state are kept consistent by its operations: the owner of a
tunnel is an online session of the group of the tunnel that declares the tunnel with its
kind; the device ids of the online sessions differ; and there are at most 128 of them.  The
three views of the state, `find`, `snapshot` and `catalog`, therefore agree on who owns a
tunnel.

Each operation is described once, by what it does to the owners (`OwnersValid`) and by where
the sessions of the new state come from (`SessionsFrom`).
-/
import GateRust.Lib.Machine
import GateRust.Tunnel.Runtime

namespace GateRust.Tunnel

open Machine

/-! ## The invariant -/

namespace RuntimeState

/-- The session `id` may own the tunnel `t`: both exist, the session is in the group of the
tunnel, and it declares the tunnel with its kind. -/
def MayOwn (st : RuntimeState) (id : SessionId) (t : String) : Prop :=
  ∃ spec session, st.tunnels.lookup t = some spec ∧ st.sessions.lookup id = some session ∧
    session.group = spec.group ∧ session.services.lookup t = some spec.kind

def OwnersValid (st : RuntimeState) : Prop :=
  ∀ t owner, st.owners.lookup t = some owner → st.MayOwn owner.sessionId t

/-- Two online sessions with the same value of `f` are the same session. -/
def Distinguishes {α : Type} (st : RuntimeState) (f : SessionEntry → α) : Prop :=
  ∀ i j a b, st.sessions.lookup i = some a → st.sessions.lookup j = some b → f a = f b → i = j

structure Consistent (st : RuntimeState) : Prop where
  owners : st.OwnersValid
  deviceIds : st.Distinguishes (·.deviceId)
  connections : st.Distinguishes (·.connection)
  capacity : st.sessions.size ≤ maxOnlineClients

/-- Every session of `st'` is a session of `st`, up to the services it declares, and the
credentials are the same. -/
structure SessionsFrom (st' st : RuntimeState) : Prop where
  session : ∀ {i a'}, st'.sessions.lookup i = some a' →
    ∃ a, st.sessions.lookup i = some a ∧ a' = { a with services := a'.services }
  size : st'.sessions.size ≤ st.sessions.size
  credentials : st'.credentials = st.credentials

lemma SessionsFrom.of_eq {st' st : RuntimeState} (h : st'.sessions = st.sessions)
    (hcred : st'.credentials = st.credentials) : SessionsFrom st' st :=
  ⟨fun ha => ⟨_, h ▸ ha, rfl⟩, by rw [h], hcred⟩

lemma SessionsFrom.refl (st : RuntimeState) : SessionsFrom st st := .of_eq rfl rfl

lemma SessionsFrom.trans {st st' st'' : RuntimeState} (h : SessionsFrom st'' st')
    (h' : SessionsFrom st' st) : SessionsFrom st'' st := by
  refine ⟨fun ha => ?_, h.size.trans h'.size, h.credentials.trans h'.credentials⟩
  obtain ⟨b, hb, hab⟩ := h.session ha
  obtain ⟨c, hc, hbc⟩ := h'.session hb
  exact ⟨c, hc, by rw [hab, hbc]⟩

lemma SessionsFrom.congr {st st' st'' : RuntimeState} (h : SessionsFrom st' st)
    (heq : st''.sessions = st'.sessions) (hcred : st''.credentials = st'.credentials) :
    SessionsFrom st'' st :=
  SessionsFrom.trans (.of_eq heq hcred) h

lemma SessionsFrom.distinguishes {α : Type} {st' st : RuntimeState} {f : SessionEntry → α}
    (h : SessionsFrom st' st) (hf : ∀ a services, f { a with services } = f a)
    (hd : st.Distinguishes f) : st'.Distinguishes f := by
  intro i j a b ha hb hab
  obtain ⟨a₀, ha₀, hea⟩ := h.session ha
  obtain ⟨b₀, hb₀, heb⟩ := h.session hb
  rw [hea, heb, hf a₀, hf b₀] at hab
  exact hd i j a₀ b₀ ha₀ hb₀ hab

/-- Adding a session with a new value of `f` keeps the values of `f` distinct. -/
lemma Distinguishes.insert {α : Type} {st : RuntimeState} {f : SessionEntry → α}
    (h : st.Distinguishes f) {id : SessionId} {entry : SessionEntry}
    (hnew : ∀ i a, st.sessions.lookup i = some a → f a ≠ f entry) :
    (st.insertSession id entry).Distinguishes f := by
  intro i j a b ha hb hab
  rw [insertSession, AList.lookup_insert_eq] at ha hb
  by_cases hi : i = id <;> by_cases hj : j = id
  · rw [hi, hj]
  · simp only [hi, hj, if_true, if_false, Option.some.injEq] at ha hb
    exact absurd (ha ▸ hab.symm) (hnew j b hb)
  · simp only [hi, hj, if_true, if_false, Option.some.injEq] at ha hb
    exact absurd (hb ▸ hab) (hnew i a ha)
  · simp only [hi, hj, if_false] at ha hb
    exact h i j a b ha hb hab

/-- An operation that takes its sessions from the old state has to establish the owners
only. -/
lemma Consistent.of_sessionsFrom {st' st : RuntimeState} (h : st.Consistent)
    (hfrom : SessionsFrom st' st) (howners : st'.OwnersValid) : st'.Consistent where
  owners := howners
  deviceIds := hfrom.distinguishes (fun _ _ => rfl) h.deviceIds
  connections := hfrom.distinguishes (fun _ _ => rfl) h.connections
  capacity := hfrom.size.trans h.capacity

/-! ## The helper functions -/

lemma eligible_iff {session : SessionEntry} {t : String} {spec : TunnelSpec} :
    eligible session t spec = true ↔
      session.group = spec.group ∧ session.services.lookup t = some spec.kind := by
  simp [eligible]

/-- `retain_valid_owners` establishes the validity of the owners in any state. -/
lemma ownersValid_retainValidOwners (st : RuntimeState) : st.retainValidOwners.OwnersValid := by
  intro t owner h
  obtain ⟨-, hkeep⟩ := AList.lookup_retain_eq_some.mp h
  cases hspec : st.tunnels.lookup t with
  | none => simp [hspec] at hkeep
  | some spec =>
    cases hsession : st.sessions.lookup owner.sessionId with
    | none => simp [hspec, hsession] at hkeep
    | some session =>
      simp only [hspec, hsession, eligible_iff] at hkeep
      exact ⟨spec, session, hspec, hsession, hkeep⟩

lemma sessionsFrom_modifyServices (st : RuntimeState) (id : SessionId)
    (f : HashMap String TunnelKind → HashMap String TunnelKind) :
    SessionsFrom (st.modifyServices id f) st := by
  refine ⟨fun {i a'} ha => ?_, le_of_eq (AList.size_modify _ _ _), rfl⟩
  rw [modifyServices, AList.lookup_modify] at ha
  split at ha
  · rename_i hi
    obtain ⟨a, hlook, rfl⟩ := Option.map_eq_some_iff.mp ha
    exact ⟨a, hi ▸ hlook, rfl⟩
  · exact ⟨a', ha, rfl⟩

lemma sessionsFrom_removeSession (st : RuntimeState) (id : SessionId) :
    SessionsFrom (st.removeSession id) st := by
  refine ⟨fun {i a'} ha => ⟨a', ?_, rfl⟩, AList.size_erase_le _ _, rfl⟩
  simp only [removeSession, releaseSession, AList.lookup_erase_eq] at ha
  split at ha
  · exact absurd ha (by simp)
  · exact ha

/-- Removing a session and releasing its tunnels keeps the other owners valid. -/
lemma OwnersValid.removeSession {st : RuntimeState} (h : st.OwnersValid) (id : SessionId) :
    (st.removeSession id).OwnersValid := by
  intro t owner ht
  obtain ⟨hold, hne⟩ := AList.lookup_retain_eq_some.mp ht
  have hne' : owner.sessionId ≠ id := by simpa using hne
  obtain ⟨spec, session, hspec, hsession, hmay⟩ := h t owner hold
  refine ⟨spec, session, hspec, ?_, hmay⟩
  simp [RuntimeState.removeSession, releaseSession, AList.lookup_erase_ne hne', hsession]

/-- What `apply_credentials` does to the sessions: those with the given ids are gone. -/
lemma sessionsFrom_revoke (st : RuntimeState) (ids : List SessionId) :
    SessionsFrom (st.revoke ids).1 st ∧ ∀ id ∈ ids, id ∉ (st.revoke ids).1.sessions := by
  induction ids generalizing st with
  | nil => exact ⟨.refl st, by simp⟩
  | cons id ids ih =>
    unfold revoke
    cases hs : st.sessions.lookup id with
    | none =>
      obtain ⟨hfrom, hgone⟩ := ih st
      refine ⟨hfrom, List.forall_mem_cons.mpr ⟨fun hmem => ?_, hgone⟩⟩
      obtain ⟨a, ha⟩ := AList.lookup_of_mem hmem
      obtain ⟨b, hb, -⟩ := hfrom.session ha
      simp [hs] at hb
    | some session =>
      obtain ⟨hfrom, hgone⟩ := ih (st.removeSession id)
      refine ⟨hfrom.trans (sessionsFrom_removeSession st id),
        List.forall_mem_cons.mpr ⟨fun hmem => ?_, hgone⟩⟩
      obtain ⟨a, ha⟩ := AList.lookup_of_mem hmem
      obtain ⟨b, hb, -⟩ := hfrom.session ha
      simp [removeSession, releaseSession] at hb

/-- A property of states that removing a session preserves is preserved by removing several. -/
lemma revoke_induction {P : RuntimeState → Prop} (hP : ∀ st id, P st → P (st.removeSession id))
    {st : RuntimeState} (h : P st) (ids : List SessionId) : P (st.revoke ids).1 := by
  induction ids generalizing st with
  | nil => exact h
  | cons id ids ih =>
    unfold revoke
    cases st.sessions.lookup id with
    | none => exact ih h
    | some session => exact ih (hP st id h)

end RuntimeState

/-- The new owners are the given session, the others are unchanged. -/
lemma lookup_insertOwners {id : SessionId} {names : List String} {token : CancellationToken}
    {owners : HashMap String TunnelOwner} {t : String} :
    (t ∉ names → (insertOwners id names token owners).lookup t = owners.lookup t) ∧
      (t ∈ names → ∃ token', (insertOwners id names token owners).lookup t =
        some ⟨id, token'⟩) := by
  induction names generalizing token owners with
  | nil => simp [insertOwners]
  | cons name names ih =>
    obtain ⟨hout, hin⟩ := @ih (token + 1) (owners.insert name ⟨id, token⟩)
    constructor
    · intro h
      rw [List.mem_cons, not_or] at h
      rw [insertOwners, hout h.2, AList.lookup_insert_ne h.1]
    · intro h
      by_cases hmem : t ∈ names
      · exact hin hmem
      · have ht : t = name := (List.mem_cons.mp h).resolve_right hmem
        subst ht
        exact ⟨token, by rw [insertOwners, hout hmem, AList.lookup_insert]⟩

lemma mem_available {st : RuntimeState} {id : SessionId} {t : String}
    (h : t ∈ st.available id) : st.MayOwn id t ∧ st.owners.lookup t = none := by
  unfold RuntimeState.available at h
  cases hs : st.sessions.lookup id with
  | none => simp [hs] at h
  | some session =>
    simp only [hs] at h
    obtain ⟨spec, hspec, hkeep⟩ := AList.mem_retain.mp (AList.mem_keys.mpr h)
    simp only [Bool.and_eq_true, Bool.not_eq_true', Option.isSome_eq_false_iff,
      Option.isNone_iff_eq_none, RuntimeState.eligible_iff] at hkeep
    exact ⟨⟨spec, session, hspec, hs, hkeep.2⟩, hkeep.1⟩

namespace TunnelRuntime

open RuntimeState

/-- Claiming gives tunnels only to a session that may own them. -/
lemma ownersValid_claimAvailable {rt : TunnelRuntime} (h : rt.state.OwnersValid)
    (id : SessionId) : (rt.claimAvailable id).state.OwnersValid := by
  intro t owner ht
  by_cases hmem : t ∈ rt.state.available id
  · obtain ⟨token, hnew⟩ := lookup_insertOwners.2 hmem
    have howner : owner = ⟨id, token⟩ := Option.some.inj (ht.symm.trans hnew)
    rw [howner]
    exact (mem_available hmem).1
  · exact h t owner (ht.symm.trans (lookup_insertOwners.1 hmem)).symm

/-! ## The operations -/

variable {sha256 : GroupSecret → Digest} {rt : TunnelRuntime}

lemma consistent_new : TunnelRuntime.new.state.Consistent where
  owners t owner h := absurd h (by simp [new])
  deviceIds i j a b h := absurd h (by simp [new])
  connections i j a b h := absurd h (by simp [new])
  capacity := by simp [new, AList.size]

/-- A session id and a connection that no online session has: what `accept_connections`
gives to every call of `register`. -/
def Fresh (rt : TunnelRuntime) (id : SessionId) (connection : Connection) : Prop :=
  id ∉ rt.state.sessions ∧
    ∀ i a, rt.state.sessions.lookup i = some a → a.connection ≠ connection

instance (rt : TunnelRuntime) (id : SessionId) (connection : Connection) :
    Decidable (rt.Fresh id connection) :=
  decidable_of_iff (id ∉ rt.state.sessions ∧
    ∀ e ∈ rt.state.sessions.entries, e.2.connection ≠ connection) <| and_congr_right fun _ =>
    ⟨fun h i a ha => h ⟨i, a⟩ (AList.lookup_eq_some_iff.mp ha),
      fun h e he => h e.1 e.2 (AList.lookup_eq_some_iff.mpr he)⟩

/-- `register` fails and leaves the runtime alone, or all its checks pass and it adds the
session and claims tunnels for it. -/
lemma register_cases (rt : TunnelRuntime) (id : SessionId) (deviceId group : String)
    (digest : Digest) (connection : Connection) (services : List ServiceDeclaration)
    (now : UInt64) :
    (∃ error, rt.register id deviceId group digest connection services now = (.error error, rt)) ∨
      (rt.state.sessions.size < maxOnlineClients ∧
        rt.state.credentials.lookup group = some digest ∧
        (∀ i a, rt.state.sessions.lookup i = some a → a.deviceId ≠ deviceId) ∧
        ∃ entry : SessionEntry, entry.connection = connection ∧ entry.deviceId = deviceId ∧
          entry.group = group ∧ entry.credentialDigest = digest ∧
          rt.register id deviceId group digest connection services now = (.ok (),
            ({ rt with state := rt.state.insertSession id entry }.claimAvailable id).notify)) := by
  unfold register
  split
  · exact Or.inl ⟨_, rfl⟩
  · rename_i hsize
    split
    · exact Or.inl ⟨_, rfl⟩
    · rename_i hcred
      split
      · exact Or.inl ⟨_, rfl⟩
      · rename_i hdevice
        refine Or.inr ⟨Nat.not_le.mp hsize, not_not.mp hcred, ?_, _, rfl, rfl, rfl, rfl, rfl⟩
        intro i a ha hsame
        refine hdevice (List.any_eq_true.mpr ⟨⟨i, a⟩, AList.lookup_eq_some_iff.mp ha, ?_⟩)
        simpa using hsame

lemma consistent_register (h : rt.state.Consistent) {id : SessionId} {deviceId group : String}
    {digest : Digest} {connection : Connection} {services : List ServiceDeclaration}
    {now : UInt64} (hfresh : rt.Fresh id connection) :
    (rt.register id deviceId group digest connection services now).2.state.Consistent := by
  rcases register_cases rt id deviceId group digest connection services now with
    ⟨_, heq⟩ | ⟨hsize, -, hdevice, entry, rfl, rfl, -, -, heq⟩
  · rw [heq]
    exact h
  · rw [heq]
    refine ⟨ownersValid_claimAvailable ?_ id, h.deviceIds.insert hdevice,
      h.connections.insert hfresh.2, (AList.size_insert_le _ _ _).trans hsize⟩
    -- the owners are online already, so none of them is the new session
    intro t owner ht
    obtain ⟨spec, session, hspec, hsession, hmay⟩ := h.owners t owner ht
    refine ⟨spec, session, hspec, ?_, hmay⟩
    have hne : owner.sessionId ≠ id := by
      rintro rfl
      exact hfresh.1 (AList.mem_of_lookup hsession)
    rw [insertSession, AList.lookup_insert_ne hne]
    exact hsession

lemma state_notify_if (b : Bool) (rt : TunnelRuntime) :
    (if b then rt.notify else rt).state = rt.state := by
  cases b <;> rfl

lemma sessionsFrom_updateServices (rt : TunnelRuntime) (id : SessionId)
    (services : List ServiceDeclaration) :
    SessionsFrom (rt.updateServices id services).2.state rt.state := by
  unfold updateServices
  cases rt.state.sessions.lookup id with
  | none => exact .refl _
  | some session =>
    simp only [state_notify_if]
    exact (sessionsFrom_modifyServices rt.state id fun _ => serviceMap services).congr rfl rfl

/-- An update leaves its session with exactly the declared services. -/
lemma services_updateServices {id : SessionId} {services : List ServiceDeclaration}
    (h : (rt.updateServices id services).1.isSome = true) :
    ((rt.updateServices id services).2.state.sessions.lookup id).map (·.services) =
      some (serviceMap services) := by
  unfold updateServices at h ⊢
  cases hs : rt.state.sessions.lookup id with
  | none => simp [hs] at h
  | some session =>
    simp only [state_notify_if]
    show ((rt.state.modifyServices id fun _ => serviceMap services).sessions.lookup id).map
      (·.services) = _
    simp [modifyServices, AList.lookup_modify, hs]

lemma consistent_updateServices (h : rt.state.Consistent) (id : SessionId)
    (services : List ServiceDeclaration) :
    (rt.updateServices id services).2.state.Consistent := by
  refine h.of_sessionsFrom (sessionsFrom_updateServices rt id services) ?_
  unfold updateServices
  cases rt.state.sessions.lookup id with
  | none => exact h.owners
  | some session =>
    simp only [state_notify_if]
    exact ownersValid_claimAvailable (ownersValid_retainValidOwners _) id

/-- `unregister` and `disconnect` remove the session if there is one. -/
lemma unregister_state (rt : TunnelRuntime) (id : SessionId) :
    (rt.unregister id).state = rt.state ∨
      (rt.unregister id).state = rt.state.removeSession id := by
  unfold unregister
  cases rt.state.sessions.lookup id with
  | none => exact Or.inl rfl
  | some session => exact Or.inr rfl

lemma disconnect_state (rt : TunnelRuntime) (id : SessionId) :
    (rt.disconnect id).2.state = rt.state ∨
      (rt.disconnect id).2.state = rt.state.removeSession id := by
  unfold disconnect
  cases rt.state.sessions.lookup id with
  | none => exact Or.inl rfl
  | some session => exact Or.inr rfl

lemma consistent_removed {st : RuntimeState} (h : rt.state.Consistent) {id : SessionId}
    (hst : st = rt.state ∨ st = rt.state.removeSession id) : st.Consistent := by
  rcases hst with rfl | rfl
  · exact h
  · exact h.of_sessionsFrom (sessionsFrom_removeSession _ id) (h.owners.removeSession id)

/-- `disconnect_tunnel` fails and leaves the runtime alone, or the session owns the tunnel and
loses both the tunnel and its declaration. -/
lemma disconnectTunnel_cases (rt : TunnelRuntime) (id : SessionId) (tunnel : String) :
    (∃ error, rt.disconnectTunnel id tunnel = (.error error, rt)) ∨
      ∃ owner, rt.state.owners.lookup tunnel = some owner ∧ owner.sessionId = id ∧
        (rt.disconnectTunnel id tunnel).1 = .ok () ∧
        (rt.disconnectTunnel id tunnel).2 =
          { rt with
            state := { rt.state.modifyServices id (·.erase tunnel) with
              owners := rt.state.owners.erase tunnel }
            cancelled := rt.cancelled ++ [owner.shutdown] }.notify := by
  unfold disconnectTunnel
  split
  · exact Or.inl ⟨_, rfl⟩
  · split
    · exact Or.inl ⟨_, rfl⟩
    · split
      · exact Or.inl ⟨_, rfl⟩
      · rename_i owner howner
        split
        · exact Or.inl ⟨_, rfl⟩
        · rename_i hid
          exact Or.inr ⟨owner, howner, not_not.mp hid, rfl, rfl⟩

lemma sessionsFrom_disconnectTunnel (rt : TunnelRuntime) (id : SessionId) (tunnel : String) :
    SessionsFrom (rt.disconnectTunnel id tunnel).2.state rt.state := by
  rcases disconnectTunnel_cases rt id tunnel with ⟨_, heq⟩ | ⟨_, -, -, -, heq⟩
  · rw [heq]
    exact .refl _
  · rw [heq]
    exact (sessionsFrom_modifyServices rt.state id (·.erase tunnel)).congr rfl rfl

lemma consistent_disconnectTunnel (h : rt.state.Consistent) (id : SessionId) (tunnel : String) :
    (rt.disconnectTunnel id tunnel).2.state.Consistent := by
  refine h.of_sessionsFrom (sessionsFrom_disconnectTunnel rt id tunnel) ?_
  rcases disconnectTunnel_cases rt id tunnel with ⟨_, heq⟩ | ⟨_, -, -, -, heq⟩
  · rw [heq]
    exact h.owners
  · rw [heq]
    intro t owner ht
    simp only [notify, AList.lookup_erase_eq] at ht
    split at ht
    · exact absurd ht (by simp)
    · rename_i hne
      obtain ⟨spec, session, hspec, hsession, hgroup, hkind⟩ := h.owners t owner ht
      by_cases hid : owner.sessionId = id
      · -- the session keeps the declarations of its other tunnels
        subst hid
        refine ⟨spec, { session with services := session.services.erase tunnel }, hspec, ?_,
          hgroup, ?_⟩
        · simp [notify, modifyServices, AList.lookup_modify, hsession]
        · simpa [AList.lookup_erase_ne hne] using hkind
      · refine ⟨spec, session, hspec, ?_, hgroup, hkind⟩
        simp [notify, modifyServices, AList.lookup_modify, hid, hsession]

lemma consistent_applyTunnels (h : rt.state.Consistent) (configs : List ServerTunnelConfig) :
    (rt.applyTunnels configs).state.Consistent :=
  h.of_sessionsFrom (.of_eq rfl rfl) (ownersValid_retainValidOwners _)

/-- The sessions and owners after `apply_credentials`. -/
lemma applyCredentials_state (rt : TunnelRuntime) (credentials : List (String × GroupSecret)) :
    (rt.applyCredentials sha256 credentials).state =
      ({ rt.state with credentials := credentialDigests sha256 credentials }.revoke
        (rt.state.sessions.retain fun _ session =>
          (credentialDigests sha256 credentials).lookup session.group ≠
            some session.credentialDigest).keys).1 := by
  unfold applyCredentials
  simp only
  split <;> rfl

lemma consistent_applyCredentials (h : rt.state.Consistent)
    (credentials : List (String × GroupSecret)) :
    (rt.applyCredentials sha256 credentials).state.Consistent := by
  have hcred : { rt.state with
      credentials := credentialDigests sha256 credentials }.Consistent :=
    ⟨h.owners, h.deviceIds, h.connections, h.capacity⟩
  rw [applyCredentials_state]
  exact hcred.of_sessionsFrom (sessionsFrom_revoke _ _).1
    (revoke_induction (fun _ id hvalid => hvalid.removeSession id) hcred.owners _)

/-! ## Runs -/

/-- The calls of `register` get a fresh session id and a fresh connection. -/
def FreshSessions (rt : TunnelRuntime) : Operation → Prop
  | .register id _ _ _ connection _ _ => rt.Fresh id connection
  | _ => True

instance : ∀ (rt : TunnelRuntime) (op : Operation), Decidable (rt.FreshSessions op)
  | rt, .register id _ _ _ connection _ _ => inferInstanceAs (Decidable (rt.Fresh id connection))
  | _, .updateServices .. | _, .unregister _ | _, .disconnect _ | _, .disconnectTunnel ..
  | _, .applyTunnels _ | _, .applyCredentials _ => inferInstanceAs (Decidable True)

/-- Every operation keeps the state consistent. -/
lemma consistent_perform (h : rt.state.Consistent) {op : Operation}
    (hfresh : rt.FreshSessions op) : (rt.perform sha256 op).state.Consistent := by
  cases op with
  | register => exact consistent_register h hfresh
  | updateServices id services => exact consistent_updateServices h id services
  | unregister id => exact consistent_removed h (unregister_state rt id)
  | disconnect id => exact consistent_removed h (disconnect_state rt id)
  | disconnectTunnel id tunnel => exact consistent_disconnectTunnel h id tunnel
  | applyTunnels configs => exact consistent_applyTunnels h configs
  | applyCredentials credentials => exact consistent_applyCredentials h credentials

lemma consistent_of_reach (h : Reach (TunnelRuntime.step sha256) FreshSessions .new rt) :
    rt.state.Consistent := by
  refine h.invariant (I := fun rt => rt.state.Consistent) consistent_new ?_
  intro rt op rt' hI hfresh hstep
  obtain rfl : rt.perform sha256 op = rt' := Option.some.inj hstep
  exact consistent_perform hI hfresh

/-! ## The views -/

/-- A tunnel is in the given state in the catalog of a session. -/
def InCatalog (rt : TunnelRuntime) (id : SessionId) (t : String) (state : ClientTunnelState) :
    Prop :=
  ∃ tunnel ∈ rt.catalog id, tunnel.name = t ∧ tunnel.state = state

/-- `find` gives the connection of the session. -/
def FindsSession (rt : TunnelRuntime) (t : String) (id : SessionId) : Prop :=
  ∃ session found, rt.state.sessions.lookup id = some session ∧ rt.find t = some found ∧
    found.connection = session.connection

/-- The state of a tunnel in the catalog of a session. -/
def stateFor (rt : TunnelRuntime) (id : SessionId) (t : String) : ClientTunnelState :=
  match rt.state.owners.lookup t with
  | none => .idle
  | some owner => if owner.sessionId = id then .enabled else .occupied

lemma inCatalog_iff {id : SessionId} {t : String} {state : ClientTunnelState} :
    rt.InCatalog id t state ↔ ∃ session spec, rt.state.sessions.lookup id = some session ∧
      rt.state.tunnels.lookup t = some spec ∧ spec.group = session.group ∧
      rt.stateFor id t = state := by
  unfold InCatalog catalog
  cases hs : rt.state.sessions.lookup id with
  | none => simp
  | some session =>
    simp only [List.mem_insertionSort, List.mem_map, List.mem_filter]
    constructor
    · rintro ⟨tunnel, ⟨e, ⟨he, hgroup⟩, rfl⟩, rfl, rfl⟩
      exact ⟨session, e.2, rfl, AList.lookup_eq_some_iff.mpr he, by simpa using hgroup, rfl⟩
    · rintro ⟨_, spec, hsession, hspec, hgroup, rfl⟩
      obtain rfl := Option.some.inj hsession
      exact ⟨_, ⟨⟨t, spec⟩, ⟨AList.lookup_eq_some_iff.mp hspec, by simpa using hgroup⟩, rfl⟩,
        rfl, rfl⟩

lemma mem_snapshot_tunnels {t : String} {id : SessionId} :
    (⟨t, some id⟩ : RuntimeTunnel) ∈ rt.snapshot.tunnels ↔
      t ∈ rt.state.tunnels ∧ ∃ owner, rt.state.owners.lookup t = some owner ∧
        owner.sessionId = id := by
  simp only [snapshot, List.mem_insertionSort, List.mem_map, RuntimeTunnel.mk.injEq,
    AList.mem_keys]
  constructor
  · rintro ⟨name, hname, rfl, howner⟩
    exact ⟨hname, Option.map_eq_some_iff.mp howner⟩
  · rintro ⟨hname, howner⟩
    exact ⟨t, hname, rfl, Option.map_eq_some_iff.mpr howner⟩

lemma find_eq_some_iff {t : String} {found : ClientSession} :
    rt.find t = some found ↔ ∃ owner session, rt.state.owners.lookup t = some owner ∧
      rt.state.sessions.lookup owner.sessionId = some session ∧
      found = ⟨session.connection, owner.shutdown⟩ := by
  unfold find
  cases rt.state.owners.lookup t with
  | none => simp
  | some owner => simp [eq_comm]

/-- The owner of a tunnel, as every view of a consistent state shows it. -/
lemma views_agree (h : rt.state.Consistent) (t : String) (id : SessionId) :
    (rt.FindsSession t id ↔ ∃ owner, rt.state.owners.lookup t = some owner ∧
        owner.sessionId = id) ∧
      (⟨t, some id⟩ ∈ rt.snapshot.tunnels ↔ ∃ owner, rt.state.owners.lookup t = some owner ∧
        owner.sessionId = id) ∧
      (rt.InCatalog id t .enabled ↔ ∃ owner, rt.state.owners.lookup t = some owner ∧
        owner.sessionId = id) := by
  refine ⟨⟨?_, ?_⟩, ⟨fun hs => (mem_snapshot_tunnels.mp hs).2, ?_⟩, ⟨?_, ?_⟩⟩
  · rintro ⟨session, found, hsession, hfound, hconn⟩
    obtain ⟨owner, session', howner, hsession', rfl⟩ := find_eq_some_iff.mp hfound
    exact ⟨owner, howner, h.connections _ _ _ _ hsession' hsession hconn⟩
  · rintro ⟨owner, howner, rfl⟩
    obtain ⟨spec, session, -, hsession, -⟩ := h.owners t owner howner
    exact ⟨session, _, hsession, find_eq_some_iff.mpr ⟨owner, session, howner, hsession, rfl⟩,
      rfl⟩
  · rintro ⟨owner, howner, hid⟩
    obtain ⟨spec, session, hspec, -⟩ := h.owners t owner howner
    exact mem_snapshot_tunnels.mpr ⟨AList.mem_of_lookup hspec, owner, howner, hid⟩
  · intro hin
    obtain ⟨session, spec, -, -, -, hstate⟩ := inCatalog_iff.mp hin
    unfold stateFor at hstate
    cases howner : rt.state.owners.lookup t with
    | none => simp [howner] at hstate
    | some owner =>
      refine ⟨owner, rfl, ?_⟩
      by_contra hne
      simp [howner, hne] at hstate
  · rintro ⟨owner, howner, rfl⟩
    obtain ⟨spec, session, hspec, hsession, hgroup, -⟩ := h.owners t owner howner
    refine inCatalog_iff.mpr ⟨session, spec, hsession, hspec, hgroup.symm, ?_⟩
    simp [stateFor, howner]

/-- **The runtime is consistent in every reachable state**, and its views agree: the session
that `find` routes to is the one that `snapshot` reports and the only one whose catalog shows
the tunnel as enabled; the catalogs of the other sessions of the group show it as occupied. -/
theorem runtime_consistent_and_views_agree
    (h : Reach (TunnelRuntime.step sha256) FreshSessions .new rt) :
    (∀ t owner, rt.state.owners.lookup t = some owner →
        ∃ spec session, rt.state.tunnels.lookup t = some spec ∧
          rt.state.sessions.lookup owner.sessionId = some session ∧
          session.group = spec.group ∧ session.services.lookup t = some spec.kind) ∧
      (∀ i j a b, rt.state.sessions.lookup i = some a → rt.state.sessions.lookup j = some b →
        a.deviceId = b.deviceId → i = j) ∧
      rt.state.sessions.size ≤ 128 ∧
      (∀ t id, (rt.FindsSession t id ↔ ⟨t, some id⟩ ∈ rt.snapshot.tunnels) ∧
        (⟨t, some id⟩ ∈ rt.snapshot.tunnels ↔ rt.InCatalog id t .enabled)) ∧
      (∀ t i j, rt.InCatalog i t .enabled → rt.InCatalog j t .enabled → i = j) ∧
      (∀ t i j spec session, rt.InCatalog i t .enabled → j ≠ i →
        rt.state.tunnels.lookup t = some spec → rt.state.sessions.lookup j = some session →
        session.group = spec.group → rt.InCatalog j t .occupied) := by
  have hc := consistent_of_reach h
  refine ⟨hc.owners, hc.deviceIds, hc.capacity, ?_, ?_, ?_⟩
  · intro t id
    obtain ⟨hfind, hsnap, hcat⟩ := views_agree hc t id
    exact ⟨hfind.trans hsnap.symm, hsnap.trans hcat.symm⟩
  · intro t i j hi hj
    obtain ⟨owner, howner, rfl⟩ := (views_agree hc t i).2.2.mp hi
    obtain ⟨owner', howner', rfl⟩ := (views_agree hc t j).2.2.mp hj
    rw [Option.some.inj (howner.symm.trans howner')]
  · intro t i j spec session hi hne hspec hsession hgroup
    obtain ⟨owner, howner, rfl⟩ := (views_agree hc t i).2.2.mp hi
    refine inCatalog_iff.mpr ⟨session, spec, hsession, hspec, hgroup.symm, ?_⟩
    simp [stateFor, howner, hne.symm]

/-- A key of thirty-two letters A. -/
def sampleKey : GroupSecret := List.replicate 32 65

/-- SHA-256 on the sample key. -/
def sampleSha256 (secret : GroupSecret) : Digest :=
  if secret = sampleKey then
    [34, 164, 128, 81, 89, 76, 25, 73, 222, 237, 112, 64, 133, 12, 31, 15, 135, 100, 83, 127, 81,
      145, 190, 86, 115, 45, 22, 165, 76, 29, 129, 83]
  else []

def samplePeer (port : UInt16) : SocketAddr := ⟨.v4 0x7f000001, port⟩

/-- A tunnel of the group `office`, with the default limits. -/
def sampleTunnel (name : String) (port : UInt16) : ServerTunnelConfig where
  name := name
  group := "office"
  kind := .tcp
  bind := samplePeer port
  localIp := "localhost"
  localPort := none
  limitBps := none
  maxConnections := 128
  maxUdpSessions := 128
  udpIdleSeconds := 60

/-- Two sessions of one group declare the tunnel `web`; the first of them owns it. -/
theorem two_sessions_declare_web :
    ∃ rt, Reach (TunnelRuntime.step sampleSha256) FreshSessions .new rt ∧
      rt.snapshot.tunnels = [⟨"web", some 1⟩] ∧
      (rt.FindsSession "web" 1 ↔ ⟨"web", some 1⟩ ∈ rt.snapshot.tunnels) ∧
      rt.state.sessions.size = 2 := by
  have hrun : (exec (TunnelRuntime.step sampleSha256) FreshSessions .new
      [.applyCredentials [("office", sampleKey)],
        .applyTunnels [sampleTunnel "web" 8080],
        .register 1 "first" "office" (sampleSha256 sampleKey) ⟨1, samplePeer 5001⟩
          [⟨"web", .tcp⟩] 0,
        .register 2 "second" "office" (sampleSha256 sampleKey) ⟨2, samplePeer 5002⟩
          [⟨"web", .tcp⟩] 0]).map (fun rt => (rt.snapshot.tunnels, rt.state.sessions.size)) =
      some ([⟨"web", some 1⟩], 2) := by decide +kernel
  obtain ⟨rt, hrt, hview⟩ := Option.map_eq_some_iff.mp hrun
  obtain ⟨hsnap, hsize⟩ := Prod.mk.inj hview
  have hreach := reach_of_exec hrt
  exact ⟨rt, hreach, hsnap,
    ((runtime_consistent_and_views_agree hreach).2.2.2.1 "web" 1).1, hsize⟩

end TunnelRuntime

end GateRust.Tunnel
