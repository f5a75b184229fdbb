/-
# Authentication of clients and reloads of the server

A client is authenticated in two steps (`authenticate` in `server/mod.rs`): its key is looked
up in the shared list of groups, and later the session is registered in the runtime with the
digest of the key.  A reload of the configuration is two steps as well (`reload_server`):
`apply_credentials` replaces the digests of the runtime and revokes sessions, and later the
list of groups is overwritten.  Any number of client tasks run in between.

Whatever the order of these steps is, a session that is online has the digest that the runtime
has for its group, because `register` compares the digest again under the lock.
-/
import GateRust.Tunnel.RuntimeInvariant

namespace GateRust.Tunnel

open Machine RuntimeState

/-! ## The server -/

/-- A client task of `accept_connections` that has not registered a session yet. -/
inductive ClientTask where
  /-- The connection is accepted, the hello is not read. -/
  | accepted (id : SessionId) (connection : Connection)
  /-- The key of the hello is in the list of groups. -/
  | authenticated (id : SessionId) (connection : Connection) (hello : ClientHello)
      (group : String) (credential : Digest)

structure AuthServer where
  runtime : TunnelRuntime
  groups : List (String × GroupSecret)
  /-- The next session id. -/
  ids : SessionId
  tasks : List ClientTask
  /-- The credentials of the reload that has called `apply_credentials` and has not written
  the list of groups. -/
  reloading : Option (List (String × GroupSecret))
  /-- History: the configuration that was applied last. -/
  applied : List (String × GroupSecret)
  /-- History: the key that each session was authenticated with. -/
  keys : HashMap SessionId GroupSecret

/-- The checks of `authenticate` on a hello before it looks for the key. -/
def validHello (hello : ClientHello) : Bool :=
  let validKey :=
    match String.fromUTF8? hello.key.toByteArray with
    | some key => validateGroupKey key
    | none => false
  hello.version = protocolVersion && validKey && validateDeviceId hello.deviceId &&
    (validateDeclarations hello.services).isOk

/-- The group of the key, and the digest of its secret. -/
def authenticatedGroup (sha256 : GroupSecret → Digest) (groups : List (String × GroupSecret))
    (hello : ClientHello) : Option (String × Digest) :=
  if validHello hello then
    groups.findSome? fun e => if e.2 = hello.key then some (e.1, sha256 e.2) else none
  else none

/-- The operations that sessions, the control plane and the listeners call.  The remaining two
are called by `authenticate` and by `reload_server`. -/
def TunnelRuntime.Operation.isExternal : TunnelRuntime.Operation → Bool
  | .register .. | .applyCredentials _ => false
  | .updateServices .. | .unregister _ | .disconnect _ | .disconnectTunnel .. | .applyTunnels _ =>
    true

namespace AuthServer

/-- `run_server_with_runtime` before it accepts connections. -/
def start (sha256 : GroupSecret → Digest) (initial : List (String × GroupSecret)) : AuthServer where
  runtime := TunnelRuntime.new.applyCredentials sha256 initial
  groups := initial
  ids := 1
  tasks := []
  reloading := none
  applied := initial
  keys := ∅

inductive Event where
  | accept (connection : Connection)
  /-- The task reads a hello and the list of groups. -/
  | readHello (task : ℕ) (hello : ClientHello)
  | register (task : ℕ) (now : UInt64)
  /-- The task ends: a timeout, a bootstrap request, or a connection that is lost. -/
  | abandon (task : ℕ)
  | applyCredentials (credentials : List (String × GroupSecret))
  | overwriteGroups
  | operate (op : TunnelRuntime.Operation)

/-- The call of `register` in `authenticate`; the task ends or serves the session. -/
def registerSession (s : AuthServer) (task : ℕ) (id : SessionId) (connection : Connection)
    (hello : ClientHello) (group : String) (credential : Digest) (now : UInt64) : AuthServer :=
  let tasks := s.tasks.eraseIdx task
  match s.runtime.register id hello.deviceId group credential connection hello.services now with
  | (.ok (), runtime) => { s with runtime, tasks, keys := s.keys.insert id hello.key }
  | (.error _, runtime) => { s with runtime, tasks }

def step (sha256 : GroupSecret → Digest) (s : AuthServer) : Event → Option AuthServer
  | .accept connection =>
    some { s with ids := s.ids + 1, tasks := s.tasks ++ [.accepted s.ids connection] }
  | .readHello task hello =>
    match s.tasks[task]? with
    | some (.accepted id connection) =>
      match authenticatedGroup sha256 s.groups hello with
      | some (group, credential) =>
        some { s with
          tasks := s.tasks.set task (.authenticated id connection hello group credential) }
      | none => some { s with tasks := s.tasks.eraseIdx task }
    | _ => none
  | .register task now =>
    match s.tasks[task]? with
    | some (.authenticated id connection hello group credential) =>
      some (s.registerSession task id connection hello group credential now)
    | _ => none
  | .abandon task => some { s with tasks := s.tasks.eraseIdx task }
  | .applyCredentials credentials =>
    match s.reloading with
    | none =>
      some { s with
        runtime := s.runtime.applyCredentials sha256 credentials
        reloading := some credentials
        applied := credentials }
    | some _ => none
  | .overwriteGroups =>
    s.reloading.map fun credentials => { s with groups := credentials, reloading := none }
  | .operate op =>
    if op.isExternal then some { s with runtime := s.runtime.perform sha256 op } else none

end AuthServer

/-! ## Owners are online -/

namespace RuntimeState

def OwnersOnline (st : RuntimeState) : Prop :=
  ∀ t owner, st.owners.lookup t = some owner → owner.sessionId ∈ st.sessions

lemma OwnersValid.online {st : RuntimeState} (h : st.OwnersValid) : st.OwnersOnline := by
  intro t owner ht
  obtain ⟨_, session, -, hsession, -⟩ := h t owner ht
  exact AList.mem_of_lookup hsession

lemma OwnersOnline.removeSession {st : RuntimeState} (h : st.OwnersOnline) (id : SessionId) :
    (st.removeSession id).OwnersOnline := by
  intro t owner ht
  obtain ⟨hold, hne⟩ := AList.lookup_retain_eq_some.mp ht
  have hne' : owner.sessionId ≠ id := by simpa using hne
  exact AList.mem_erase.mpr ⟨hne', h t owner hold⟩

lemma OwnersOnline.of_removed {st st' : RuntimeState} (h : st.OwnersOnline) {id : SessionId}
    (hst : st' = st ∨ st' = st.removeSession id) : st'.OwnersOnline := by
  rcases hst with rfl | rfl
  · exact h
  · exact h.removeSession id

lemma SessionsFrom.of_removed {st st' : RuntimeState} {id : SessionId}
    (hst : st' = st ∨ st' = st.removeSession id) : SessionsFrom st' st := by
  rcases hst with rfl | rfl
  · exact .refl st'
  · exact sessionsFrom_removeSession st id

/-- Every online session has the digest that is configured for its group. -/
def DigestsCurrent (st : RuntimeState) : Prop :=
  ∀ id session, st.sessions.lookup id = some session →
    st.credentials.lookup session.group = some session.credentialDigest

lemma SessionsFrom.digestsCurrent {st' st : RuntimeState} (h : SessionsFrom st' st)
    (hcur : st.DigestsCurrent) : st'.DigestsCurrent := by
  intro id session hs
  obtain ⟨old, hold, heq⟩ := h.session hs
  rw [h.credentials, heq]
  exact hcur id old hold

end RuntimeState

namespace TunnelRuntime

variable {sha256 : GroupSecret → Digest} {rt : TunnelRuntime}

lemma ownersOnline_claimAvailable {id : SessionId} (h : rt.state.OwnersOnline)
    (hid : id ∈ rt.state.sessions) : (rt.claimAvailable id).state.OwnersOnline := by
  intro t owner ht
  by_cases hmem : t ∈ rt.state.available id
  · obtain ⟨token, hnew⟩ := lookup_insertOwners.2 hmem
    rw [Option.some.inj (ht.symm.trans hnew)]
    exact hid
  · exact h t owner (ht.symm.trans (lookup_insertOwners.1 hmem)).symm

lemma ownersOnline_applyCredentials (h : rt.state.OwnersOnline)
    (credentials : List (String × GroupSecret)) :
    (rt.applyCredentials sha256 credentials).state.OwnersOnline := by
  rw [applyCredentials_state]
  exact revoke_induction (fun _ id hon => hon.removeSession id) (by exact h) _

/-- Every session after `apply_credentials` was there before and has the new digest of its
group. -/
lemma sessionsFrom_applyCredentials (sha256 : GroupSecret → Digest) (rt : TunnelRuntime)
    (credentials : List (String × GroupSecret)) :
    SessionsFrom (rt.applyCredentials sha256 credentials).state
        { rt.state with credentials := credentialDigests sha256 credentials } ∧
      (rt.applyCredentials sha256 credentials).state.DigestsCurrent := by
  rw [applyCredentials_state]
  set st := { rt.state with credentials := credentialDigests sha256 credentials }
  obtain ⟨hfrom, hgone⟩ := sessionsFrom_revoke st
    (rt.state.sessions.retain fun _ session =>
      (credentialDigests sha256 credentials).lookup session.group ≠
        some session.credentialDigest).keys
  refine ⟨hfrom, fun id session hs => ?_⟩
  obtain ⟨old, hold, heq⟩ := hfrom.session hs
  rw [hfrom.credentials, heq]
  by_contra hne
  refine hgone id (AList.mem_keys.mp (AList.mem_retain.mpr ⟨old, hold, ?_⟩))
    (AList.mem_of_lookup hs)
  simpa using hne

/-- What the operations that the sessions and the control plane call do to the sessions. -/
lemma sessionsFrom_perform {op : Operation} (hop : op.isExternal) :
    SessionsFrom (rt.perform sha256 op).state rt.state := by
  cases op with
  | register => simp [Operation.isExternal] at hop
  | updateServices id services => exact sessionsFrom_updateServices rt id services
  | unregister id => exact .of_removed (unregister_state rt id)
  | disconnect id => exact .of_removed (disconnect_state rt id)
  | disconnectTunnel id tunnel => exact sessionsFrom_disconnectTunnel rt id tunnel
  | applyTunnels configs => exact .of_eq rfl rfl
  | applyCredentials => simp [Operation.isExternal] at hop

lemma ownersOnline_perform (h : rt.state.OwnersOnline) {op : Operation} (hop : op.isExternal) :
    (rt.perform sha256 op).state.OwnersOnline := by
  cases op with
  | register => simp [Operation.isExternal] at hop
  | updateServices id services =>
    simp only [perform, updateServices]
    cases rt.state.sessions.lookup id with
    | none => exact h
    | some session =>
      simp only [state_notify_if]
      exact (ownersValid_claimAvailable (ownersValid_retainValidOwners _) id).online
  | unregister id => exact h.of_removed (unregister_state rt id)
  | disconnect id => exact h.of_removed (disconnect_state rt id)
  | disconnectTunnel id tunnel =>
    rcases disconnectTunnel_cases rt id tunnel with ⟨_, heq⟩ | ⟨_, -, -, -, heq⟩
    · rw [perform, heq]
      exact h
    · rw [perform, heq]
      intro t owner ht
      simp only [notify, AList.lookup_erase_eq] at ht
      split at ht
      · exact absurd ht (by simp)
      · exact AList.mem_modify.mpr (h t owner ht)
  | applyTunnels configs => exact (ownersValid_retainValidOwners _).online
  | applyCredentials => simp [Operation.isExternal] at hop

end TunnelRuntime

/-! ## The invariant -/

namespace AuthServer

variable {sha256 : GroupSecret → Digest} {s s' : AuthServer}

/-- A task that found its key has the digest of that key. -/
def DigestOfKey (sha256 : GroupSecret → Digest) : ClientTask → Prop
  | .accepted .. => True
  | .authenticated _ _ hello _ credential => credential = sha256 hello.key

structure Current (sha256 : GroupSecret → Digest) (s : AuthServer) : Prop where
  credentials : s.runtime.state.credentials = TunnelRuntime.credentialDigests sha256 s.applied
  digests : s.runtime.state.DigestsCurrent
  owners : s.runtime.state.OwnersOnline
  keys : ∀ id session, s.runtime.state.sessions.lookup id = some session →
    ∃ key, s.keys.lookup id = some key ∧ session.credentialDigest = sha256 key
  tasks : ∀ task ∈ s.tasks, DigestOfKey sha256 task

lemma digest_of_authenticatedGroup {groups : List (String × GroupSecret)} {hello : ClientHello}
    {group : String} {credential : Digest}
    (h : authenticatedGroup sha256 groups hello = some (group, credential)) :
    credential = sha256 hello.key := by
  unfold authenticatedGroup at h
  split at h
  · obtain ⟨e, -, he⟩ := List.exists_of_findSome?_eq_some h
    split at he
    · rename_i hkey
      simp only [Option.some.injEq, Prod.mk.injEq] at he
      rw [← he.2, hkey]
    · simp at he
  · simp at h

/-- Steps that change the tasks only. -/
lemma Current.setTasks (h : Current sha256 s) {tasks : List ClientTask} {ids : SessionId}
    (htasks : ∀ task ∈ tasks, task ∈ s.tasks ∨ DigestOfKey sha256 task) :
    Current sha256 { s with tasks, ids } where
  credentials := h.credentials
  digests := h.digests
  owners := h.owners
  keys := h.keys
  tasks task hmem := (htasks task hmem).elim (h.tasks task) id

lemma Current.eraseTask (h : Current sha256 s) (task : ℕ) :
    Current sha256 { s with tasks := s.tasks.eraseIdx task } :=
  h.setTasks fun _ hmem => Or.inl (List.mem_of_mem_eraseIdx hmem)

/-- Steps that take the sessions of the runtime from the old state. -/
lemma Current.setRuntime (h : Current sha256 s) {runtime : TunnelRuntime}
    (hfrom : SessionsFrom runtime.state s.runtime.state) (howners : runtime.state.OwnersOnline) :
    Current sha256 { s with runtime } where
  credentials := hfrom.credentials.trans h.credentials
  digests := hfrom.digestsCurrent h.digests
  owners := howners
  keys id session hs := by
    obtain ⟨old, hold, heq⟩ := hfrom.session hs
    rw [heq]
    exact h.keys id old hold
  tasks := h.tasks

/-- `register` compares the digest with the credentials before it adds the session. -/
lemma Current.registerSession (h : Current sha256 s) {task : ℕ} {id : SessionId}
    {connection : Connection} {hello : ClientHello} {group : String} {credential : Digest}
    (hcred : credential = sha256 hello.key) (now : UInt64) :
    Current sha256 (s.registerSession task id connection hello group credential now) := by
  have herased := h.eraseTask task
  unfold AuthServer.registerSession
  rcases TunnelRuntime.register_cases s.runtime id hello.deviceId group credential connection
    hello.services now with ⟨error, heq⟩ | ⟨-, hlook, -, entry, -, -, rfl, rfl, heq⟩
  · rw [heq]
    exact herased
  · rw [heq]
    refine ⟨h.credentials, ?_, ?_, ?_, herased.tasks⟩
    · -- the digest of the new session was found in the credentials under the same lock
      intro i session hi
      simp only [TunnelRuntime.notify, TunnelRuntime.claimAvailable, insertSession,
        AList.lookup_insert_eq] at hi
      split at hi
      · rw [← Option.some.inj hi]
        exact hlook
      · exact h.digests i session hi
    · refine TunnelRuntime.ownersOnline_claimAvailable ?_ ((AList.mem_insert _).mpr (Or.inl rfl))
      exact fun t owner ht => (AList.mem_insert _).mpr (Or.inr (h.owners t owner ht))
    · intro i session hi
      simp only [TunnelRuntime.notify, TunnelRuntime.claimAvailable, insertSession,
        AList.lookup_insert_eq] at hi ⊢
      split at hi
      · rename_i hid
        rw [← Option.some.inj hi, if_pos hid]
        exact ⟨hello.key, rfl, hcred⟩
      · rename_i hid
        rw [if_neg hid]
        exact h.keys i session hi

lemma Current.applyCredentials (h : Current sha256 s) (credentials : List (String × GroupSecret)) :
    Current sha256 { s with
      runtime := s.runtime.applyCredentials sha256 credentials
      reloading := some credentials
      applied := credentials } := by
  obtain ⟨hfrom, hcur⟩ := TunnelRuntime.sessionsFrom_applyCredentials sha256 s.runtime credentials
  refine ⟨hfrom.credentials, hcur,
    TunnelRuntime.ownersOnline_applyCredentials h.owners credentials, ?_, h.tasks⟩
  intro id session hs
  obtain ⟨old, hold, heq⟩ := hfrom.session hs
  rw [heq]
  exact h.keys id old hold

/-- Every step keeps the digests current. -/
lemma current_step (h : Current sha256 s) {e : Event} (hstep : s.step sha256 e = some s') :
    Current sha256 s' := by
  cases e with
  | accept connection =>
    obtain rfl := Option.some.inj hstep
    refine h.setTasks fun task hmem => ?_
    rcases List.mem_append.mp hmem with hold | hnew
    · exact Or.inl hold
    · rw [List.mem_singleton.mp hnew]
      exact Or.inr trivial
  | readHello task hello =>
    simp only [step] at hstep
    split at hstep
    · split at hstep
      · rename_i hauth
        obtain rfl := Option.some.inj hstep
        refine h.setTasks fun task' hmem => ?_
        rcases List.mem_or_eq_of_mem_set hmem with hold | rfl
        · exact Or.inl hold
        · exact Or.inr (digest_of_authenticatedGroup hauth)
      · obtain rfl := Option.some.inj hstep
        exact h.eraseTask task
    · simp at hstep
  | register task now =>
    simp only [step] at hstep
    split at hstep
    · rename_i htask
      obtain rfl := Option.some.inj hstep
      exact h.registerSession (h.tasks _ (List.mem_of_getElem? htask)) now
    · simp at hstep
  | abandon task =>
    obtain rfl := Option.some.inj hstep
    exact h.eraseTask task
  | applyCredentials credentials =>
    simp only [step] at hstep
    split at hstep
    · obtain rfl := Option.some.inj hstep
      exact h.applyCredentials credentials
    · simp at hstep
  | overwriteGroups =>
    -- the list of groups only decides which tasks find their key
    obtain ⟨credentials, -, rfl⟩ := Option.map_eq_some_iff.mp hstep
    exact ⟨h.credentials, h.digests, h.owners, h.keys, h.tasks⟩
  | operate op =>
    simp only [step] at hstep
    split at hstep
    · rename_i hop
      obtain rfl := Option.some.inj hstep
      exact h.setRuntime (TunnelRuntime.sessionsFrom_perform hop)
        (TunnelRuntime.ownersOnline_perform h.owners hop)
    · simp at hstep

lemma current_start (initial : List (String × GroupSecret)) :
    Current sha256 (.start sha256 initial) := by
  obtain ⟨hfrom, hcur⟩ :=
    TunnelRuntime.sessionsFrom_applyCredentials sha256 TunnelRuntime.new initial
  refine ⟨hfrom.credentials, hcur,
    TunnelRuntime.ownersOnline_applyCredentials TunnelRuntime.consistent_new.owners.online initial,
    ?_, by simp [start]⟩
  intro id session hs
  obtain ⟨old, hold, -⟩ := hfrom.session hs
  simp [TunnelRuntime.new] at hold

lemma current_of_reach {initial : List (String × GroupSecret)}
    (h : Reach (step sha256) Always (.start sha256 initial) s) : Current sha256 s :=
  h.invariant (current_start initial) fun _ _ _ hI _ hstep => current_step hI hstep

/-! ## Revoked keys -/

/-- The event is not a further call of `apply_credentials`. -/
def NoFurtherReload (_ : AuthServer) : Event → Prop
  | .applyCredentials _ => False
  | _ => True

instance : ∀ (s : AuthServer) (e : Event), Decidable (s.NoFurtherReload e)
  | _, .applyCredentials _ => inferInstanceAs (Decidable False)
  | _, .accept _ | _, .readHello .. | _, .register .. | _, .abandon _ | _, .overwriteGroups
  | _, .operate _ => inferInstanceAs (Decidable True)

lemma applied_of_reach (h : Reach (step sha256) NoFurtherReload s s') : s'.applied = s.applied := by
  refine h.invariant (I := fun t => t.applied = s.applied) rfl ?_
  intro t e t' ht hok hstep
  cases e with
  | accept => exact Option.some.inj hstep ▸ ht
  | readHello =>
    simp only [step] at hstep
    split at hstep
    · split at hstep <;> exact Option.some.inj hstep ▸ ht
    · simp at hstep
  | register =>
    simp only [step] at hstep
    split at hstep
    · rw [← Option.some.inj hstep, registerSession]
      split <;> exact ht
    · simp at hstep
  | abandon => exact Option.some.inj hstep ▸ ht
  | applyCredentials => exact hok.elim
  | overwriteGroups =>
    obtain ⟨_, -, rfl⟩ := Option.map_eq_some_iff.mp hstep
    exact ht
  | operate =>
    simp only [step] at hstep
    split at hstep
    · exact Option.some.inj hstep ▸ ht
    · simp at hstep

/-- SHA-256 has no collision between the keys that clients presented and the configured keys. -/
def NoCollision (sha256 : GroupSecret → Digest) (s : AuthServer) : Prop :=
  ∀ id key, s.keys.lookup id = some key → ∀ e ∈ s.applied, sha256 key = sha256 e.2 → key = e.2

/-- The key of an online session is in the configuration that was applied last. -/
lemma Current.key_mem_applied (h : Current sha256 s) (hcoll : NoCollision sha256 s)
    {id : SessionId} {key : GroupSecret} (hkey : s.keys.lookup id = some key)
    (hid : id ∈ s.runtime.state.sessions) : key ∈ s.applied.map Prod.snd := by
  obtain ⟨session, hs⟩ := AList.lookup_of_mem hid
  obtain ⟨key', hkey', hdigest⟩ := h.keys id session hs
  obtain rfl := Option.some.inj (hkey.symm.trans hkey')
  have hlook := h.digests id session hs
  rw [h.credentials, TunnelRuntime.credentialDigests] at hlook
  obtain ⟨e, he, hpair⟩ := List.mem_map.mp (AList.mem_of_lookup_ofList hlook)
  have hsha : sha256 key = sha256 e.2 := hdigest.symm.trans (Prod.mk.inj hpair).2.symm
  exact List.mem_map.mpr ⟨e, he, (hcoll id key hkey e he hsha).symm⟩

/-- **Every online session has current credentials, in every order of authentications and
reloads.**  Hence, from the return of `apply_credentials` until it is called again, a session
that was authenticated with a key that is not in the configuration is not online and owns no
tunnel. -/
theorem sessions_have_current_credentials {initial : List (String × GroupSecret)}
    (h : Reach (step sha256) Always (.start sha256 initial) s) :
    (∀ id session, s.runtime.state.sessions.lookup id = some session →
      s.runtime.state.credentials.lookup session.group = some session.credentialDigest) ∧
    ∀ credentials s₁ s₂, s.step sha256 (.applyCredentials credentials) = some s₁ →
      Reach (step sha256) NoFurtherReload s₁ s₂ → NoCollision sha256 s₂ →
      ∀ id key, s₂.keys.lookup id = some key → key ∉ credentials.map Prod.snd →
        id ∉ s₂.runtime.state.sessions ∧
          ∀ t owner, s₂.runtime.state.owners.lookup t = some owner → owner.sessionId ≠ id := by
  refine ⟨(current_of_reach h).digests, ?_⟩
  intro credentials s₁ s₂ happly hafter hcoll id key hkey habsent
  have hreach : Reach (step sha256) Always (.start sha256 initial) s₂ :=
    (h.next trivial happly).trans (hafter.mono fun _ _ _ => trivial)
  have hcur := current_of_reach hreach
  have happlied : s₂.applied = credentials := by
    rw [applied_of_reach hafter]
    simp only [step] at happly
    split at happly
    · rw [← Option.some.inj happly]
    · simp at happly
  have hoffline : id ∉ s₂.runtime.state.sessions := fun hid =>
    habsent (happlied ▸ hcur.key_mem_applied hcoll hkey hid)
  refine ⟨hoffline, fun t owner ht hid => hoffline ?_⟩
  rw [← hid]
  exact hcur.owners t owner ht

/-- A second key, thirty-two letters B. -/
def otherKey : GroupSecret := List.replicate 32 66

/-- SHA-256 on the two keys. -/
def twoKeySha256 (secret : GroupSecret) : Digest :=
  if secret = otherKey then
    [66, 94, 212, 228, 163, 107, 48, 234, 33, 185, 14, 33, 199, 18, 198, 73, 232, 33, 76, 41, 183,
      234, 246, 128, 137, 209, 3, 156, 110, 85, 56, 76]
  else TunnelRuntime.sampleSha256 secret

def sampleHello (deviceId : String) : ClientHello where
  version := protocolVersion
  deviceId := deviceId
  key := TunnelRuntime.sampleKey
  services := [⟨"web", .tcp⟩]

/-- Two clients present the first key; the configuration changes to the second key after one
of them has registered and before the other has. -/
theorem key_replaced_during_authentication :
    ∃ s s₁ s₂, Reach (step twoKeySha256) Always
        (.start twoKeySha256 [("office", TunnelRuntime.sampleKey)]) s ∧
      s.runtime.snapshot.tunnels = [⟨"web", some 1⟩] ∧
      s.step twoKeySha256 (.applyCredentials [("office", otherKey)]) = some s₁ ∧
      Reach (step twoKeySha256) NoFurtherReload s₁ s₂ ∧
      s₂.keys.lookup 1 = some TunnelRuntime.sampleKey ∧ s₂.tasks.length = 0 ∧
      1 ∉ s₂.runtime.state.sessions := by
  have hrun : ((exec (step twoKeySha256) Always
      (.start twoKeySha256 [("office", TunnelRuntime.sampleKey)])
      [.operate (.applyTunnels [TunnelRuntime.sampleTunnel "web" 8080]),
        .accept ⟨1, TunnelRuntime.samplePeer 5001⟩, .accept ⟨2, TunnelRuntime.samplePeer 5002⟩,
        .readHello 0 (sampleHello "first"), .readHello 1 (sampleHello "second"),
        .register 0 7]).bind fun s =>
      (s.step twoKeySha256 (.applyCredentials [("office", otherKey)])).bind fun s₁ =>
      (exec (step twoKeySha256) NoFurtherReload s₁ [.register 0 8, .overwriteGroups]).map fun s₂ =>
        decide (s.runtime.snapshot.tunnels = [⟨"web", some 1⟩] ∧ s₂.keys.keys = [1] ∧
          s₂.keys.lookup 1 = some TunnelRuntime.sampleKey ∧
          s₂.applied = [("office", otherKey)] ∧ s₂.tasks.length = 0)) = some true := by
    decide +kernel
  obtain ⟨s, hs, hrun⟩ := Option.bind_eq_some_iff.mp hrun
  obtain ⟨s₁, hs₁, hrun⟩ := Option.bind_eq_some_iff.mp hrun
  obtain ⟨s₂, hs₂, hview⟩ := Option.map_eq_some_iff.mp hrun
  obtain ⟨htunnels, hkeys, hkey, happlied, htasks⟩ := of_decide_eq_true hview
  have hreach := reach_of_exec hs
  have hcoll : NoCollision twoKeySha256 s₂ := by
    intro id key hid e he
    have hmem := AList.mem_keys.mp (AList.mem_of_lookup hid)
    rw [hkeys, List.mem_singleton] at hmem
    rw [hmem, hkey, Option.some.injEq] at hid
    rw [happlied, List.mem_singleton] at he
    rw [← hid, he]
    decide
  refine ⟨s, s₁, s₂, hreach, htunnels, hs₁, reach_of_exec hs₂, hkey, htasks, ?_⟩
  exact ((sessions_have_current_credentials hreach).2 _ s₁ s₂ hs₁ (reach_of_exec hs₂) hcoll 1 _ hkey
    (by decide)).1

end AuthServer

end GateRust.Tunnel
