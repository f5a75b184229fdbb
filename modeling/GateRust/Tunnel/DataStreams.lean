/-
# Data streams and the shutdown of their tunnel

A task that forwards a public connection asks the runtime for the session of its tunnel
(`find`) and keeps the cancellation token of the ownership it found.  `disconnect_tunnel`
cancels the token of the current ownership.  When a session gives a tunnel up in another way
and claims it again later, the new ownership has a new token, and nothing will ever cancel the
old one.

The history of a run has the streams that were opened and the tokens of the ownerships that
ended otherwise than by `disconnect_tunnel`.
-/
import GateRust.Lib.Results
import GateRust.Tunnel.Ownership

namespace GateRust.Tunnel

open Machine RuntimeState

/-! ## The tokens of the owners -/

/-- The new owners get consecutive tokens. -/
lemma lookup_insertOwners_of_nodup {id : SessionId} {names : List String}
    (hnodup : names.Nodup) {token : CancellationToken} {owners : HashMap String TunnelOwner}
    {t : String} :
    (insertOwners id names token owners).lookup t =
      if t ∈ names then some ⟨id, token + names.idxOf t⟩ else owners.lookup t := by
  induction names generalizing token owners with
  | nil => simp [insertOwners]
  | cons name names ih =>
    obtain ⟨hname, hnames⟩ := List.nodup_cons.mp hnodup
    rw [insertOwners, ih hnames, AList.lookup_insert_eq]
    by_cases ht : t = name
    · subst ht
      simp [hname]
    · have hidx : (name :: names).idxOf t = names.idxOf t + 1 := by
        rw [List.idxOf_cons_ne _ (Ne.symm ht)]
      simp only [List.mem_cons, ht, false_or, if_false, hidx]
      rw [Nat.add_assoc, Nat.add_comm 1]

lemma nodup_available (st : RuntimeState) (id : SessionId) : (st.available id).Nodup := by
  unfold available
  cases st.sessions.lookup id with
  | none => exact List.nodup_nil
  | some session => exact AList.keys_nodup _

namespace TunnelRuntime

variable {sha256 : GroupSecret → Digest} {rt rt' : TunnelRuntime}

lemma lookup_claimAvailable (rt : TunnelRuntime) (id : SessionId) (t : String) :
    (rt.claimAvailable id).state.owners.lookup t =
      if t ∈ rt.state.available id then
        some ⟨id, rt.nextToken + (rt.state.available id).idxOf t⟩
      else rt.state.owners.lookup t :=
  lookup_insertOwners_of_nodup (nodup_available _ _)

/-- The tokens of the owners were given out, and no token was given out twice. -/
structure FreshTokens (rt : TunnelRuntime) : Prop where
  bound : ∀ t owner, rt.state.owners.lookup t = some owner → owner.shutdown < rt.nextToken
  distinct : ∀ t t' owner owner', rt.state.owners.lookup t = some owner →
    rt.state.owners.lookup t' = some owner' → owner.shutdown = owner'.shutdown → t = t'

/-- The owners of `rt'` are owners of `rt` or have tokens that `rt` has not given out. -/
structure TokensFrom (rt' rt : TunnelRuntime) : Prop where
  next : rt.nextToken ≤ rt'.nextToken
  fresh : rt'.FreshTokens
  owner : ∀ t owner, rt'.state.owners.lookup t = some owner →
    rt.state.owners.lookup t = some owner ∨ rt.nextToken ≤ owner.shutdown

lemma TokensFrom.of_subset (h : rt.FreshTokens) (hnext : rt'.nextToken = rt.nextToken)
    (hsub : ∀ t owner, rt'.state.owners.lookup t = some owner →
      rt.state.owners.lookup t = some owner) : rt'.TokensFrom rt where
  next := hnext.ge
  fresh := by
    refine ⟨fun t owner ht => ?_, fun t t' owner owner' ht ht' => ?_⟩
    · rw [hnext]
      exact h.bound t owner (hsub t owner ht)
    · exact h.distinct t t' owner owner' (hsub t owner ht) (hsub t' owner' ht')
  owner t owner ht := Or.inl (hsub t owner ht)

variable (rt') in
lemma TokensFrom.claimAvailable (h : rt'.TokensFrom rt) (id : SessionId) :
    (rt'.claimAvailable id).TokensFrom rt := by
  have hlook := lookup_claimAvailable rt' id
  have hidx : ∀ t ∈ rt'.state.available id,
      (rt'.state.available id).idxOf t < (rt'.state.available id).length :=
    fun t ht => List.idxOf_lt_length_iff.mpr ht
  have hnext : (rt'.claimAvailable id).nextToken =
      rt'.nextToken + (rt'.state.available id).length := rfl
  refine ⟨?_, ⟨?_, ?_⟩, ?_⟩
  · rw [hnext]
    exact h.next.trans (Nat.le_add_right _ _)
  · intro t owner ht
    rw [hlook] at ht
    rw [hnext]
    split at ht
    · rename_i hmem
      obtain rfl := Option.some.inj ht
      exact Nat.add_lt_add_left (hidx t hmem) _
    · exact Nat.lt_add_right _ (h.fresh.bound t owner ht)
  · intro t t' owner owner' ht ht' hsame
    rw [hlook] at ht ht'
    split at ht <;> split at ht'
    · rename_i hmem hmem'
      obtain rfl := Option.some.inj ht
      obtain rfl := Option.some.inj ht'
      have hpos : (rt'.state.available id).idxOf t = (rt'.state.available id).idxOf t' :=
        Nat.add_left_cancel hsame
      exact (List.idxOf_inj hmem).mp hpos
    · obtain rfl := Option.some.inj ht
      have hlt := h.fresh.bound t' owner' ht'
      rw [← hsame] at hlt
      exact absurd hlt (Nat.not_lt.mpr (Nat.le_add_right _ _))
    · obtain rfl := Option.some.inj ht'
      have hlt := h.fresh.bound t owner ht
      rw [hsame] at hlt
      exact absurd hlt (Nat.not_lt.mpr (Nat.le_add_right _ _))
    · exact h.fresh.distinct t t' owner owner' ht ht' hsame
  · intro t owner ht
    rw [hlook] at ht
    split at ht
    · obtain rfl := Option.some.inj ht
      exact Or.inr (h.next.trans (Nat.le_add_right _ _))
    · exact h.owner t owner ht

lemma tokensFrom_updateServices (h : rt.FreshTokens) (id : SessionId)
    (services : List ServiceDeclaration) : (rt.updateServices id services).2.TokensFrom rt := by
  unfold updateServices
  cases rt.state.sessions.lookup id with
  | none => exact .of_subset h rfl fun _ _ ht => ht
  | some session =>
    set st := rt.state.modifyServices id fun _ => serviceMap services
    have hclaim : ({ rt with state := st.retainValidOwners }.claimAvailable id).TokensFrom rt :=
      TokensFrom.claimAvailable { rt with state := st.retainValidOwners }
        (.of_subset h rfl fun _ _ ht => (lookup_retainValidOwners.mp ht).1) id
    simp only
    split
    · exact ⟨hclaim.next, ⟨hclaim.fresh.bound, hclaim.fresh.distinct⟩, hclaim.owner⟩
    · exact hclaim

lemma tokensFrom_register (h : rt.FreshTokens) {id : SessionId} {deviceId group : String}
    {digest : Digest} {connection : Connection} {services : List ServiceDeclaration}
    {now : UInt64} :
    (rt.register id deviceId group digest connection services now).2.TokensFrom rt := by
  rcases register_cases rt id deviceId group digest connection services now with
    ⟨_, heq⟩ | ⟨-, -, -, entry, -, -, -, -, heq⟩
  · rw [heq]
    exact .of_subset h rfl fun _ _ ht => ht
  · have hclaim := TokensFrom.claimAvailable
      { rt with state := rt.state.insertSession id entry }
      (.of_subset h rfl fun _ _ ht => ht) id
    rw [heq]
    exact ⟨hclaim.next, ⟨hclaim.fresh.bound, hclaim.fresh.distinct⟩, hclaim.owner⟩

/-- An operation that registers no session and updates no services gives out no token. -/
lemma nextToken_perform {op : Operation} (hop : ∀ s, ¬op.Claims s) :
    (rt.perform sha256 op).nextToken = rt.nextToken := by
  cases op with
  | register id => exact absurd rfl (hop id)
  | updateServices id => exact absurd rfl (hop id)
  | unregister id =>
    simp only [perform, unregister]
    split <;> rfl
  | disconnect id =>
    simp only [perform, disconnect]
    split <;> rfl
  | disconnectTunnel id tunnel =>
    rcases disconnectTunnel_cases rt id tunnel with ⟨_, heq⟩ | ⟨_, -, -, -, heq⟩
    · rw [perform, heq]
    · rw [perform, heq]
      rfl
  | applyTunnels configs => rfl
  | applyCredentials credentials =>
    simp only [perform, applyCredentials]
    split <;> rfl

/-- Every operation gives its new owners fresh tokens. -/
lemma tokensFrom_perform (hc : rt.state.Consistent) (h : rt.FreshTokens) (op : Operation) :
    (rt.perform sha256 op).TokensFrom rt := by
  by_cases hop : ∀ s, ¬op.Claims s
  · exact .of_subset h (nextToken_perform hop) fun t owner => owner_of_not_claims hc (hop _)
  · push Not at hop
    obtain ⟨s, hs⟩ := hop
    cases op with
    | register => exact tokensFrom_register h
    | updateServices id services => exact tokensFrom_updateServices h id services
    | _ => exact absurd hs id

/-- Only `disconnect_tunnel` cancels a token. -/
lemma cancelled_perform {op : Operation} (hop : ∀ id tunnel, op ≠ .disconnectTunnel id tunnel) :
    (rt.perform sha256 op).cancelled = rt.cancelled := by
  cases op with
  | register id deviceId group digest connection services now =>
    rcases register_cases rt id deviceId group digest connection services now with
      ⟨_, heq⟩ | ⟨-, -, -, entry, -, -, -, -, heq⟩
    · rw [perform, heq]
    · rw [perform, heq]
      rfl
  | updateServices id services =>
    simp only [perform, updateServices]
    split
    · rfl
    · simp only
      split <;> rfl
  | unregister id =>
    simp only [perform, unregister]
    split <;> rfl
  | disconnect id =>
    simp only [perform, disconnect]
    split <;> rfl
  | disconnectTunnel id tunnel => exact absurd rfl (hop id tunnel)
  | applyTunnels configs => rfl
  | applyCredentials credentials =>
    simp only [perform, applyCredentials]
    split <;> rfl

end TunnelRuntime

/-! ## Streams -/

/-- A task that forwards data of a tunnel, with what it got from `find`. -/
structure DataStream where
  tunnel : String
  sessionId : SessionId
  tunnelShutdown : CancellationToken
deriving DecidableEq, Repr

structure StreamServer where
  runtime : TunnelRuntime
  /-- History: the tasks that have called `find`. -/
  streams : List DataStream
  /-- History: the tokens of the ownerships that ended otherwise than by `disconnect_tunnel`. -/
  dropped : List CancellationToken

namespace StreamServer

inductive Event where
  | operate (op : TunnelRuntime.Operation)
  /-- A task calls `find` for its tunnel. -/
  | openStream (tunnel : String)

def start : StreamServer := ⟨.new, [], []⟩

/-- The tokens of the owners of `rt` that are no owners of `rt'`. -/
def endedTokens (rt rt' : TunnelRuntime) : List CancellationToken :=
  (rt.state.owners.entries.filter fun e => rt'.state.owners.lookup e.1 ≠ some e.2).map
    (·.2.shutdown)

def step (sha256 : GroupSecret → Digest) (s : StreamServer) : Event → Option StreamServer
  | .operate op =>
    let runtime := s.runtime.perform sha256 op
    match op with
    | .disconnectTunnel .. => some { s with runtime }
    | _ => some { s with runtime, dropped := s.dropped ++ endedTokens s.runtime runtime }
  | .openStream tunnel =>
    match s.runtime.state.owners.lookup tunnel, s.runtime.find tunnel with
    | some owner, some session =>
      some { s with
        streams := s.streams ++ [⟨tunnel, owner.sessionId, session.tunnelShutdown⟩] }
    | _, _ => none

def FreshSessions (s : StreamServer) : Event → Prop
  | .operate op => s.runtime.FreshSessions op
  | .openStream _ => True

instance : ∀ (s : StreamServer) (e : Event), Decidable (s.FreshSessions e)
  | s, .operate op => inferInstanceAs (Decidable (s.runtime.FreshSessions op))
  | _, .openStream _ => inferInstanceAs (Decidable True)

/-- The stream holds the token of the current ownership of its tunnel. -/
def IsCurrent (s : StreamServer) (d : DataStream) : Prop :=
  s.runtime.state.owners.lookup d.tunnel = some ⟨d.sessionId, d.tunnelShutdown⟩

structure Tracked (s : StreamServer) : Prop where
  consistent : s.runtime.state.Consistent
  tokens : s.runtime.FreshTokens
  streams : ∀ d ∈ s.streams, s.IsCurrent d ∨ d.tunnelShutdown ∈ s.runtime.cancelled ∨
    d.tunnelShutdown ∈ s.dropped
  ended : ∀ token, token ∈ s.runtime.cancelled ∨ token ∈ s.dropped →
    token < s.runtime.nextToken ∧
      ∀ t owner, s.runtime.state.owners.lookup t = some owner → owner.shutdown ≠ token
  disjoint : ∀ token ∈ s.dropped, token ∉ s.runtime.cancelled

variable {sha256 : GroupSecret → Digest} {s s' : StreamServer}

lemma mem_endedTokens {rt rt' : TunnelRuntime} {token : CancellationToken} :
    token ∈ endedTokens rt rt' ↔ ∃ t owner, rt.state.owners.lookup t = some owner ∧
      rt'.state.owners.lookup t ≠ some owner ∧ owner.shutdown = token := by
  simp only [endedTokens, List.mem_map, List.mem_filter, decide_eq_true_iff]
  constructor
  · rintro ⟨e, ⟨he, hended⟩, rfl⟩
    exact ⟨e.1, e.2, AList.lookup_eq_some_iff.mpr he, hended, rfl⟩
  · rintro ⟨t, owner, hlook, hended, rfl⟩
    exact ⟨⟨t, owner⟩, ⟨AList.lookup_eq_some_iff.mp hlook, hended⟩, rfl⟩

lemma tracked_start : start.Tracked where
  consistent := TunnelRuntime.consistent_new
  tokens := ⟨fun t owner h => by simp [start, TunnelRuntime.new] at h,
    fun t t' owner owner' h => by simp [start, TunnelRuntime.new] at h⟩
  streams d h := by simp [start] at h
  ended token h := by simp [start, TunnelRuntime.new] at h
  disjoint token h := by simp [start] at h

/-- An operation other than `disconnect_tunnel`: the ownerships that end are recorded. -/
lemma Tracked.operate (h : s.Tracked) {op : TunnelRuntime.Operation}
    (hfresh : s.runtime.FreshSessions op)
    (hop : ∀ id tunnel, op ≠ .disconnectTunnel id tunnel) :
    Tracked { s with
      runtime := s.runtime.perform sha256 op
      dropped := s.dropped ++ endedTokens s.runtime (s.runtime.perform sha256 op) } := by
  have hfrom : (s.runtime.perform sha256 op).TokensFrom s.runtime :=
    TunnelRuntime.tokensFrom_perform h.consistent h.tokens op
  have hcancelled : (s.runtime.perform sha256 op).cancelled = s.runtime.cancelled :=
    TunnelRuntime.cancelled_perform hop
  refine ⟨TunnelRuntime.consistent_perform h.consistent hfresh, hfrom.fresh, ?_, ?_, ?_⟩
  · intro d hd
    rcases h.streams d hd with hcur | hcan | hdrop
    · by_cases hkept : (s.runtime.perform sha256 op).state.owners.lookup d.tunnel =
          some ⟨d.sessionId, d.tunnelShutdown⟩
      · exact Or.inl hkept
      · refine Or.inr (Or.inr (List.mem_append_right _ ?_))
        exact mem_endedTokens.mpr ⟨d.tunnel, _, hcur, hkept, rfl⟩
    · exact Or.inr (Or.inl (by rw [hcancelled]; exact hcan))
    · exact Or.inr (Or.inr (List.mem_append_left _ hdrop))
  · -- a token that is no longer in use stays out of use
    have hold : ∀ token, token < s.runtime.nextToken →
        (∀ t owner, s.runtime.state.owners.lookup t = some owner →
          (s.runtime.perform sha256 op).state.owners.lookup t = some owner →
          owner.shutdown ≠ token) →
        token < (s.runtime.perform sha256 op).nextToken ∧
          ∀ t owner, (s.runtime.perform sha256 op).state.owners.lookup t = some owner →
            owner.shutdown ≠ token := by
      intro token hlt hne
      refine ⟨Nat.lt_of_lt_of_le hlt hfrom.next, fun t owner ht => ?_⟩
      rcases hfrom.owner t owner ht with hbefore | hnew
      · exact hne t owner hbefore ht
      · exact Nat.ne_of_gt (Nat.lt_of_lt_of_le hlt hnew)
    intro token htoken
    simp only [hcancelled, List.mem_append, ← or_assoc] at htoken
    rcases htoken with hend | hnew
    · obtain ⟨hlt, hne⟩ := h.ended token hend
      exact hold token hlt fun t owner hbefore _ => hne t owner hbefore
    · obtain ⟨t₁, owner₁, hlook₁, hended₁, rfl⟩ := mem_endedTokens.mp hnew
      refine hold _ (h.tokens.bound t₁ owner₁ hlook₁) fun t owner hbefore hafter hsame => ?_
      obtain rfl := h.tokens.distinct t t₁ owner owner₁ hbefore hlook₁ hsame
      obtain rfl := Option.some.inj (hbefore.symm.trans hlook₁)
      exact hended₁ hafter
  · intro token htoken hcan
    rw [hcancelled] at hcan
    rcases List.mem_append.mp htoken with hdrop | hnew
    · exact h.disjoint token hdrop hcan
    · obtain ⟨t, owner, hlook, -, hsame⟩ := mem_endedTokens.mp hnew
      exact (h.ended token (Or.inl hcan)).2 t owner hlook hsame

lemma Tracked.disconnectTunnel (h : s.Tracked) (id : SessionId) (tunnel : String) :
    Tracked { s with runtime := (s.runtime.disconnectTunnel id tunnel).2 } := by
  have hcons := TunnelRuntime.consistent_disconnectTunnel h.consistent id tunnel
  have hfrom : (s.runtime.perform (fun _ => []) (.disconnectTunnel id tunnel)).TokensFrom
      s.runtime := TunnelRuntime.tokensFrom_perform h.consistent h.tokens _
  rcases TunnelRuntime.disconnectTunnel_cases s.runtime id tunnel with
    ⟨_, heq⟩ | ⟨owner, howner, -, -, heq⟩
  · rw [heq]
    exact h
  · refine ⟨hcons, hfrom.fresh, ?_, ?_, ?_⟩
    · intro d hd
      rw [heq]
      rcases h.streams d hd with hcur | hcan | hdrop
      · by_cases ht : d.tunnel = tunnel
        · subst ht
          obtain rfl := Option.some.inj (howner.symm.trans hcur)
          exact Or.inr (Or.inl (List.mem_append_right _ (List.mem_singleton.mpr rfl)))
        · exact Or.inl ((AList.lookup_erase_ne ht).trans hcur)
      · exact Or.inr (Or.inl (List.mem_append_left _ hcan))
      · exact Or.inr (Or.inr hdrop)
    · intro token htoken
      rw [heq] at htoken ⊢
      simp only [TunnelRuntime.notify, List.mem_append, List.mem_singleton] at htoken
      have hrest : ∀ t owner', ({ s.runtime.state.modifyServices id (·.erase tunnel) with
          owners := s.runtime.state.owners.erase tunnel } : RuntimeState).owners.lookup t =
            some owner' → t ≠ tunnel ∧ s.runtime.state.owners.lookup t = some owner' := by
        intro t owner' ht
        simp only [AList.lookup_erase_eq] at ht
        split at ht
        · simp at ht
        · rename_i hne
          exact ⟨hne, ht⟩
      rcases htoken with (hcan | rfl) | hdrop
      · obtain ⟨hlt, hne⟩ := h.ended token (Or.inl hcan)
        exact ⟨hlt, fun t owner' ht => hne t owner' (hrest t owner' ht).2⟩
      · refine ⟨h.tokens.bound tunnel owner howner, fun t owner' ht hsame => ?_⟩
        obtain ⟨hne, hlook⟩ := hrest t owner' ht
        exact hne (h.tokens.distinct t tunnel owner' owner hlook howner hsame)
      · obtain ⟨hlt, hne⟩ := h.ended token (Or.inr hdrop)
        exact ⟨hlt, fun t owner' ht => hne t owner' (hrest t owner' ht).2⟩
    · intro token hdrop hcan
      rw [heq] at hcan
      rcases List.mem_append.mp hcan with hold | hnew
      · exact h.disjoint token hdrop hold
      · obtain rfl := List.mem_singleton.mp hnew
        exact (h.ended _ (Or.inr hdrop)).2 tunnel owner howner rfl

lemma Tracked.step (h : s.Tracked) {e : Event} (hfresh : s.FreshSessions e)
    (hstep : s.step sha256 e = some s') : s'.Tracked := by
  cases e with
  | operate op =>
    simp only [StreamServer.step] at hstep
    split at hstep
    · exact Option.some.inj hstep ▸ h.disconnectTunnel _ _
    · rename_i hop
      exact Option.some.inj hstep ▸ h.operate hfresh hop
  | openStream tunnel =>
    simp only [StreamServer.step] at hstep
    split at hstep
    · rename_i owner session howner hfind
      obtain rfl := Option.some.inj hstep
      refine ⟨h.consistent, h.tokens, fun d hd => ?_, h.ended, h.disjoint⟩
      rcases List.mem_append.mp hd with hold | hnew
      · exact h.streams d hold
      · obtain rfl := List.mem_singleton.mp hnew
        obtain ⟨owner', session', howner', -, rfl⟩ := TunnelRuntime.find_eq_some_iff.mp hfind
        obtain rfl := Option.some.inj (howner.symm.trans howner')
        exact Or.inl howner
    · simp at hstep

/-! ## What `disconnect_tunnel` stops -/

/-- The streams that obtained the session `id` from `find` for the tunnel `t`. -/
def streamsOf (s : StreamServer) (id : SessionId) (t : String) : List DataStream :=
  s.streams.filter fun d => d.tunnel = t && d.sessionId = id

/-- **`disconnect_tunnel` stops the data streams of a tunnel** exactly when none of them was
opened during an ownership that ended in another way: by `update_services`, by `apply_tunnels`,
or with the session. -/
theorem disconnectTunnel_cancels_streams_iff
    (hreach : Reach (StreamServer.step sha256) FreshSessions start s) {id : SessionId} {t : String}
    (hok : (s.runtime.disconnectTunnel id t).1 = .ok ()) :
    (∀ d ∈ s.streamsOf id t, d.tunnelShutdown ∈ (s.runtime.disconnectTunnel id t).2.cancelled) ↔
      ∀ d ∈ s.streamsOf id t, d.tunnelShutdown ∉ s.dropped := by
  have h : s.Tracked :=
    hreach.invariant tracked_start fun _ _ _ h hfresh hstep => h.step hfresh hstep
  have hcases : ∃ owner, s.runtime.state.owners.lookup t = some owner ∧ owner.sessionId = id ∧
      (s.runtime.disconnectTunnel id t).2.cancelled =
        s.runtime.cancelled ++ [owner.shutdown] := by
    rcases TunnelRuntime.disconnectTunnel_cases s.runtime id t with
      ⟨_, heq⟩ | ⟨owner, howner, hid, -, heq⟩
    · rw [heq] at hok
      simp at hok
    · exact ⟨owner, howner, hid, by rw [heq]; rfl⟩
  obtain ⟨owner, howner, hid, hcancelled⟩ := hcases
  rw [hcancelled]
  refine forall₂_congr fun d hd => ?_
  obtain ⟨hmem, hd⟩ := List.mem_filter.mp hd
  simp only [Bool.and_eq_true, decide_eq_true_eq] at hd
  obtain ⟨rfl, rfl⟩ := hd
  constructor
  · intro hcan hdrop
    rcases List.mem_append.mp hcan with hold | hnew
    · exact h.disjoint _ hdrop hold
    · rw [List.mem_singleton] at hnew
      exact (h.ended _ (Or.inr hdrop)).2 d.tunnel owner howner hnew.symm
  · intro hkept
    rcases h.streams d hmem with hcur | hcan | hdrop
    · obtain rfl := Option.some.inj (howner.symm.trans hcur)
      exact List.mem_append_right _ (List.mem_singleton.mpr rfl)
    · exact List.mem_append_left _ hcan
    · exact absurd hdrop hkept

/-- The session 1 declares the tunnel `web`, and a public connection opens a stream. -/
def webStreamEvents : List Event :=
  [.operate (.applyCredentials [("office", TunnelRuntime.sampleKey)]),
    .operate (.applyTunnels [TunnelRuntime.sampleTunnel "web" 8080]),
    .operate (.register 1 "first" "office" (TunnelRuntime.sampleSha256 TunnelRuntime.sampleKey)
      ⟨1, TunnelRuntime.samplePeer 5001⟩ [⟨"web", .tcp⟩] 0),
    .openStream "web"]

/-- The stream of the current ownership is stopped. -/
theorem current_stream_stopped :
    ∃ s, Reach (StreamServer.step TunnelRuntime.sampleSha256) FreshSessions start s ∧
      s.streamsOf 1 "web" = [⟨"web", 1, 0⟩] ∧
      ∀ d ∈ s.streamsOf 1 "web",
        d.tunnelShutdown ∈ (s.runtime.disconnectTunnel 1 "web").2.cancelled := by
  have hrun : (exec (StreamServer.step TunnelRuntime.sampleSha256) FreshSessions start
      webStreamEvents).map (fun s => ((s.runtime.disconnectTunnel 1 "web").1.isOk,
        s.streamsOf 1 "web", s.dropped)) = some (true, [⟨"web", 1, 0⟩], []) := by
    decide +kernel
  obtain ⟨s, hs, hview⟩ := Option.map_eq_some_iff.mp hrun
  simp only [Prod.mk.injEq] at hview
  obtain ⟨hok, hstreams, hdropped⟩ := hview
  have hreach := reach_of_exec hs
  refine ⟨s, hreach, hstreams, (disconnectTunnel_cancels_streams_iff hreach ?_).mpr ?_⟩
  · exact Except.eq_ok_of_isOk hok
  · intro d _
    rw [hdropped]
    exact List.not_mem_nil

/-- The session gives the tunnel up and claims it again; the stream that it had before goes on
after `disconnect_tunnel`. -/
theorem earlier_stream_not_stopped :
    ¬∀ s, Reach (StreamServer.step TunnelRuntime.sampleSha256) FreshSessions start s →
      ∀ id t, (s.runtime.disconnectTunnel id t).1 = .ok () →
        ∀ d ∈ s.streamsOf id t,
          d.tunnelShutdown ∈ (s.runtime.disconnectTunnel id t).2.cancelled := by
  intro hall
  have hrun : (exec (StreamServer.step TunnelRuntime.sampleSha256) FreshSessions start
      (webStreamEvents ++ [.operate (.updateServices 1 []),
        .operate (.updateServices 1 [⟨"web", .tcp⟩])])).map
        (fun s => ((s.runtime.disconnectTunnel 1 "web").1.isOk, s.streamsOf 1 "web",
          (s.runtime.disconnectTunnel 1 "web").2.cancelled)) =
      some (true, [⟨"web", 1, 0⟩], [1]) := by
    decide +kernel
  obtain ⟨s, hs, hview⟩ := Option.map_eq_some_iff.mp hrun
  simp only [Prod.mk.injEq] at hview
  obtain ⟨hok, hstreams, hcancelled⟩ := hview
  have hstopped := hall s (reach_of_exec hs) 1 "web" (Except.eq_ok_of_isOk hok) ⟨"web", 1, 0⟩
    (by rw [hstreams]; exact List.mem_singleton.mpr rfl)
  rw [hcancelled] at hstopped
  exact absurd hstopped (by decide)

end StreamServer

end GateRust.Tunnel
