/-
# Answers to service updates

What a step of the network does to the calls and to the connections, the invariant that pairs
the pending update of the client with what is on its connection, and what it says about the
answers: a call of `update_services` that returns `Ok` was applied, and a command that was lost
is never answered `Ok`.
-/
import Mathlib.Data.List.Flatten
import GateRust.Tunnel.ServiceUpdates

namespace GateRust.Tunnel.ServiceNetwork

open Machine History Client

variable {sha256 : GroupSecret → Digest} {s s' : ServiceNetwork}
  {past : List (ServiceNetwork × Event)}

/-! ## Steps of the calls -/

def services? (s : ServiceNetwork) (n : ℕ) : Option (List ClientServiceConfig) :=
  s.calls[n]?.map (·.services)

/-- A call of the controller takes a step. -/
structure CallMove (s : ServiceNetwork) (n : ℕ) (call : UpdateCall) (s' : ServiceNetwork) :
    Prop where
  running : call.stage.isOpen = true
  client : s'.client = s.client
  runtime : s'.runtime = s.runtime
  connections : s'.connections = s.connections
  move : (call.stage = .sending ∧ s'.commands = s.commands ++ [n] ∧
      s'.calls = (s.setStage n .sent).calls) ∨
    (s'.commands = s.commands ∧ ∃ stage, s'.calls = (s.setStage n stage).calls ∧
      (stage = .dropped ∨ (∃ error, stage = .returned (.error error)) ∨
        ∃ tunnels, stage = .returned (.ok tunnels) ∧ call.stage = .sent ∧
          (n, .ok tunnels) ∈ s.client.responses))

lemma mem_of_lookup_eq_some {β : Type} {l : List (ℕ × β)} {n : ℕ} {b : β}
    (h : l.lookup n = some b) : (n, b) ∈ l := by
  obtain ⟨l₁, l₂, rfl, -⟩ := List.lookup_eq_some_iff.mp h
  simp

lemma eq_sent_of_isSent {stage : CallStage} (h : stage.isSent = true) :
    stage = .sent := by
  cases stage with
  | sent => rfl
  | sending | returned | dropped => exact absurd h Bool.false_ne_true

lemma callMove_of_callStep {n : ℕ} {call : UpdateCall} {e : Event}
    (h : s.callStep n call e = some s') : CallMove s n call s' := by
  cases e with
  | send =>
    simp only [callStep] at h
    split at h
    · rename_i hguard
      simp only [Bool.and_eq_true] at hguard
      obtain rfl := Option.some.inj h
      have hsending : call.stage = .sending := by
        cases hstage : call.stage with
        | sending => rfl
        | sent | returned | dropped => simp [hstage, CallStage.isSending] at hguard
      refine ⟨?_, rfl, rfl, rfl, Or.inl ⟨hsending, rfl, rfl⟩⟩
      rw [hsending]
      rfl
    · simp at h
  | receive =>
    simp only [callStep] at h
    split at h
    · rename_i response hlookup
      split at h
      · rename_i hsent
        obtain rfl := Option.some.inj h
        have hstage := eq_sent_of_isSent hsent
        refine ⟨by rw [hstage]; rfl, rfl, rfl, rfl, Or.inr ⟨rfl, _, rfl, ?_⟩⟩
        cases response with
        | error error => exact Or.inr (Or.inl ⟨_, rfl⟩)
        | ok tunnels => exact Or.inr (Or.inr ⟨tunnels, rfl, hstage, mem_of_lookup_eq_some hlookup⟩)
      · simp at h
    · simp at h
  | fail n' failure =>
    simp only [callStep] at h
    split at h
    · rename_i hfail
      obtain rfl := Option.some.inj h
      refine ⟨?_, rfl, rfl, rfl, Or.inr ⟨rfl, _, rfl, Or.inr (Or.inl ⟨_, rfl⟩)⟩⟩
      cases failure with
      | timeout => exact hfail
      | stopped | unfinished =>
        simp only [canFail, Bool.and_eq_true] at hfail
        simp [CallStage.isOpen, hfail.1]
    · simp at h
  | dropCall =>
    simp only [callStep] at h
    split at h
    · rename_i hopen
      obtain rfl := Option.some.inj h
      exact ⟨hopen, rfl, rfl, rfl, Or.inr ⟨rfl, _, rfl, Or.inl rfl⟩⟩
    · simp at h
  | _ => simp [callStep] at h

lemma services?_setStage (n m : ℕ) (stage : CallStage) :
    (s.setStage n stage).services? m = s.services? m := by
  simp only [services?, setStage, List.getElem?_modify]
  cases s.calls[m]? with
  | none => rfl
  | some call =>
    simp only [Option.map_some]
    split <;> rfl

/-! ## Steps on a connection -/

/-- One connection changes. -/
structure ConnectionMove (s s' : ServiceNetwork) (k : ℕ) (conn conn' : ClientConnection) :
    Prop where
  before : s.connections[k]? = some conn
  after : s'.connections[k]? = some conn'
  others : ∀ i, i ≠ k → s'.connections[i]? = s.connections[i]?
  length : s'.connections.length = s.connections.length

lemma connectionMove_of_set {k : ℕ} {conn conn' : ClientConnection}
    (hconn : s.connections[k]? = some conn) (h : s'.connections = s.connections.set k conn') :
    ConnectionMove s s' k conn conn' := by
  obtain ⟨hlt, -⟩ := List.getElem?_eq_some_iff.mp hconn
  refine ⟨hconn, ?_, fun i hi => ?_, ?_⟩
  · rw [h, List.getElem?_set_self hlt]
  · rw [h, List.getElem?_set_ne (Ne.symm hi)]
  · rw [h, List.length_set]

lemma connectionMove_of_modify {k : ℕ} {conn : ClientConnection}
    {f : ClientConnection → ClientConnection} (hconn : s.connections[k]? = some conn)
    (h : s'.connections = s.connections.modify k f) :
    ConnectionMove s s' k conn (f conn) := by
  refine ⟨hconn, ?_, fun i hi => ?_, ?_⟩
  · rw [h, List.getElem?_modify_eq, hconn]
    rfl
  · rw [h, List.getElem?_modify_ne _ _ (Ne.symm hi)]
  · rw [h, List.length_modify]

/-- Nothing changes in the connections when there is none with the number. -/
lemma modify_of_none {k : ℕ} {f : ClientConnection → ClientConnection}
    (hconn : s.connections[k]? = none) : s.connections.modify k f = s.connections :=
  List.modify_eq_self (List.getElem?_eq_none_iff.mp hconn)

lemma length_of_current {conn : ClientConnection}
    (h : s.connections[s.current]? = some conn) : s.connections.length = s.current + 1 := by
  obtain ⟨hlt, -⟩ := List.getElem?_eq_some_iff.mp h
  have hcurrent : s.current = s.connections.length - 1 := rfl
  omega

/-! ## Steps of the client -/

/-- The client takes a step on its connection, other than making it. -/
structure ClientMove (s : ServiceNetwork) (e : Client.Event) (s' : ServiceNetwork) : Prop where
  step : s.client.step e = some s'.client
  connected : e ≠ .connectionStep (.ok ())
  runtime : s'.runtime = s.runtime
  calls : s'.calls = s.calls
  commands : s'.commands = s.commands ∨
    ∃ services n responseClosed write rest, e = .command services n responseClosed write ∧
      s.commands = n :: rest ∧ s'.commands = rest
  command : ∀ services n responseClosed write, e = .command services n responseClosed write →
    n ∈ s.commands ∧ s.services? n = some services
  connections : (e.frame? = none ∧ s'.connections = s.connections.modify s.current
      (·.write (s'.client.log.drop s.client.log.length))) ∨
    ∃ frame conn rest, e.frame? = some frame ∧ s.connections[s.current]? = some conn ∧
      conn.toClient = frame :: rest ∧ s'.connections = s.connections.modify s.current fun conn =>
        { conn with
          toClient := rest
          outstanding := conn.outstanding.filter (frame.acknowledges? ≠ some ·) }.write
          (s'.client.log.drop s.client.log.length)

lemma clientMove_of_frame {e : Client.Event} (hcommand : ∀ services n responseClosed write,
      e ≠ .command services n responseClosed write) (hconnected : e ≠ .connectionStep (.ok ()))
    (h : (match e.frame? with
      | none => (s.client.step e).map s.setClient
      | some frame => (s.takeFrame frame).bind fun s' =>
        (s'.client.step e).map s'.setClient) = some s') : ClientMove s e s' := by
  split at h
  · rename_i hframe
    obtain ⟨client, hclient, rfl⟩ := Option.map_eq_some_iff.mp h
    refine ⟨hclient, hconnected, rfl, rfl, Or.inl rfl, ?_, Or.inl ⟨hframe, rfl⟩⟩
    rintro services n responseClosed write rfl
    exact absurd rfl (hcommand services n responseClosed write)
  · rename_i frame hframe
    obtain ⟨taken, htaken, hstep⟩ := Option.bind_eq_some_iff.mp h
    unfold takeFrame at htaken
    split at htaken
    · rename_i conn hconn
      split at htaken
      · rename_i next rest hnext
        split at htaken
        · rename_i hsame
          obtain rfl := Option.some.inj htaken
          obtain ⟨client, hclient, rfl⟩ := Option.map_eq_some_iff.mp hstep
          refine ⟨hclient, hconnected, rfl, rfl, Or.inl rfl, ?_, Or.inr ⟨frame, conn, rest,
            hframe, hconn, hsame ▸ hnext, ?_⟩⟩
          · rintro services n responseClosed write rfl
            exact absurd rfl (hcommand services n responseClosed write)
          · simp only [setClient, modifyConnection, current, List.length_modify,
              List.modify_modify_eq]
            rfl
        · simp at htaken
      · simp at htaken
    · simp at htaken

lemma clientMove_of_clientStep {e : Client.Event} (h : s.clientStep e = some s') :
    ClientMove s e s' := by
  unfold clientStep at h
  split at h
  · simp at h
  · rename_i services n responseClosed write
    split at h
    · rename_i next rest call hcommands hcall
      split at h
      · rename_i hguard
        obtain ⟨rfl, rfl, -⟩ := hguard
        obtain ⟨client, hclient, rfl⟩ := Option.map_eq_some_iff.mp h
        refine ⟨hclient, by simp, rfl, rfl, Or.inr ⟨_, _, _, _, rest, rfl, hcommands, rfl⟩, ?_,
          Or.inl ⟨rfl, rfl⟩⟩
        rintro services n responseClosed write ⟨⟩
        exact ⟨by rw [hcommands]; exact List.mem_cons_self, by rw [services?, hcall]; rfl⟩
      · simp at h
    · simp at h
  · rename_i hconnected hcommand
    exact clientMove_of_frame (fun services n responseClosed write he =>
      hcommand services n responseClosed write he) hconnected h

/-! ## The steps of the network -/

/-- The steps of the network, one constructor for each kind of step. -/
inductive Steps (sha256 : GroupSecret → Digest) (s : ServiceNetwork) :
    Event → ServiceNetwork → Prop
  | called (services : List ClientServiceConfig) (stage : CallStage)
      (hstage : stage = .sending ∨ ∃ error, stage = .returned (.error error)) :
      Steps sha256 s (.call services) { s with calls := s.calls ++ [⟨services, stage⟩] }
  | call {e : Event} {n : ℕ} {call : UpdateCall} {s' : ServiceNetwork}
      (hcall : s.calls[n]? = some call) (hmove : CallMove s n call s') : Steps sha256 s e s'
  | connect (session : SessionId) (client : Client)
      (hstep : s.client.step (.connectionStep (.ok ())) = some client) :
      Steps sha256 s (.connect session)
        { s with client, connections := s.connections ++ [.new session] }
  | client {e : Client.Event} {s' : ServiceNetwork} (hmove : ClientMove s e s') :
      Steps sha256 s (.client e) s'
  | server {k : ℕ} {e : ServerSession.Event} {conn : ClientConnection} {session : ServerSession}
      (hconn : s.connections[k]? = some conn)
      (hstep : (conn.serverSession s.runtime).step sha256 e = some session)
      (hoperate : ∀ op, e ≠ .operate op)
      (hupdate : ∀ requestId services, e ≠ .update requestId services)
      (hregister : ∀ deviceId group digest connection services now,
        e = .register deviceId group digest connection services now →
        ∃ hello, conn.hello = some hello ∧ hello.services = services) :
      Steps sha256 s (.server k e) { s with
        runtime := session.runtime
        connections := s.connections.set k (conn.setSession session) }
  | deliver {k : ℕ} {conn : ClientConnection} {requestId : UInt64}
      {services : List ServiceDeclaration} {rest : List (UInt64 × List ServiceDeclaration)}
      {session : ServerSession} (hconn : s.connections[k]? = some conn)
      (hqueue : conn.toServer = (requestId, services) :: rest)
      (hstep : ({ conn with toServer := rest }.serverSession s.runtime).step sha256
        (.update requestId services) = some session) :
      Steps sha256 s (.deliver k) { s with
        runtime := session.runtime
        connections := s.connections.set k ({ conn with toServer := rest }.setSession session) }
  | operate (op : TunnelRuntime.Operation) : Steps sha256 s (.operate op) { s with
      runtime := s.runtime.change
        (s.runtime.value.unannounced (s.runtime.value.perform sha256 op))
        (s.runtime.value.notifies (s.runtime.value.perform sha256 op)) }
  | notify : Steps sha256 s .notify
      { s with runtime := s.runtime.notify s.runtime.value.notify }
  | lose {e : Event} (k : ℕ) (f : ClientConnection → ClientConnection)
      (hf : ∀ conn, f conn = { conn with toServer := conn.toServer.tail } ∨
        f conn = { conn with toClient := conn.toClient.tail }) :
      Steps sha256 s e (s.modifyConnection k f)

/-- Everything that a step can do. -/
lemma steps_of_step {e : Event} (h : s.step sha256 e = some s') : s.Steps sha256 e s' := by
  cases e with
  | call services =>
    obtain rfl := Option.some.inj h
    refine .called services _ ?_
    cases validateClientServices services with
    | ok => exact Or.inl rfl
    | error error => exact Or.inr ⟨error, rfl⟩
  | send | receive | fail | dropCall =>
    obtain ⟨call, hcall, hstep⟩ := Option.bind_eq_some_iff.mp h
    exact .call hcall (callMove_of_callStep hstep)
  | connect session =>
    obtain ⟨client, hclient, rfl⟩ := Option.map_eq_some_iff.mp h
    exact .connect session client hclient
  | client e => exact .client (clientMove_of_clientStep h)
  | server k e =>
    obtain ⟨conn, hconn, hstep⟩ := Option.bind_eq_some_iff.mp h
    have hplain : s.sessionStep sha256 k conn e = some s' → (∀ op, e ≠ .operate op) →
        (∀ requestId services, e ≠ .update requestId services) →
        (∀ deviceId group digest connection services now,
          e = .register deviceId group digest connection services now →
          ∃ hello, conn.hello = some hello ∧ hello.services = services) →
        s.Steps sha256 (.server k e) s' := by
      intro hsession hoperate hupdate hregister
      obtain ⟨session, hnext, rfl⟩ := Option.map_eq_some_iff.mp hsession
      exact .server hconn hnext hoperate hupdate hregister
    cases e with
    | operate | notify | update => simp [serverStep] at hstep
    | register deviceId group digest connection services now =>
      simp only [serverStep] at hstep
      split at hstep
      · rename_i hello hhello
        split at hstep
        · rename_i hsame
          refine hplain hstep (by simp) (by simp) ?_
          rintro _ _ _ _ _ _ ⟨⟩
          exact ⟨hello, hhello, hsame.2⟩
        · simp at hstep
      · simp at hstep
    | _ => exact hplain hstep (by simp) (by simp) (by simp)
  | deliver k =>
    obtain ⟨conn, hconn, hstep⟩ := Option.bind_eq_some_iff.mp h
    simp only [deliver] at hstep
    split at hstep
    · rename_i requestId services rest hqueue
      obtain ⟨session, hnext, rfl⟩ := Option.map_eq_some_iff.mp hstep
      exact .deliver hconn hqueue hnext
    · simp at hstep
  | operate op => exact Option.some.inj h ▸ .operate op
  | notify =>
    simp only [step] at h
    split at h
    · simp at h
    · exact Option.some.inj h ▸ .notify
  | loseUpdate k => exact Option.some.inj h ▸ .lose k _ fun conn => Or.inl rfl
  | loseFrame k => exact Option.some.inj h ▸ .lose k _ fun conn => Or.inr rfl

/-! ## Acknowledgements match -/

structure Matched (sha256 : GroupSecret → Digest) (past : List (ServiceNetwork × Event))
    (s : ServiceNetwork) : Prop where
  outstanding : ∀ (k : ℕ) (conn : ClientConnection), s.connections[k]? = some conn →
    conn.outstanding.length ≤ 1
  carries : s.client.onConnection = true → ∃ conn, s.connections[s.current]? = some conn ∧
    conn.Carries sha256 past s.current s.client.pending?
  command : ∀ p n, s.client.pending? = some p → p.response = some n →
    s.services? n = some p.updated.services
  responses : ∀ n tunnels, (n, .ok tunnels) ∈ s.client.responses →
    ∃ services k id, s.services? n = some services ∧
      Acknowledged sha256 past k id n services tunnels
  results : ∀ (n : ℕ) (call : UpdateCall) (tunnels : List ClientTunnel),
    s.calls[n]? = some call → call.stage = .returned (.ok tunnels) →
    ∃ k id, Acknowledged sha256 past k id n call.services tunnels

lemma matched_start {managed : Bool} {deviceId : String} {file : Except String ClientConfig}
    {runtime : Watch TunnelRuntime} :
    Matched sha256 [] (start (Client.start managed deviceId file) runtime) where
  outstanding k conn h := by simp [start] at h
  carries h := by simp [start, Client.start, onConnection] at h
  command p n h := by simp [start, Client.start, pending?] at h
  responses n tunnels h := by simp [start, Client.start] at h
  results n call tunnels h := by simp [start] at h

lemma Matched.outstanding_of_move (h : Matched sha256 past s) {k : ℕ}
    {conn conn' : ClientConnection}
    (hmove : ConnectionMove s s' k conn conn') (hout : conn'.outstanding.length ≤ 1) (i : ℕ)
    (c : ClientConnection) (hc : s'.connections[i]? = some c) : c.outstanding.length ≤ 1 := by
  by_cases hi : i = k
  · subst hi
    obtain rfl := Option.some.inj (hmove.after.symm.trans hc)
    exact hout
  · exact h.outstanding i c ((hmove.others i hi).symm.trans hc)

/-- A step that changes one connection and neither the calls nor the client. -/
lemma Matched.connection (h : Matched sha256 past s) {e : Event} {k : ℕ}
    {conn conn' : ClientConnection}
    (hmove : ConnectionMove s s' k conn conn') (hcalls : s'.calls = s.calls)
    (hclient : s'.client = s.client) (hout : conn'.outstanding = conn.outstanding)
    (hcarry : s.connections.length = k + 1 → conn.Carries sha256 past k s.client.pending? →
      conn'.Carries sha256 (past ++ [(s, e)]) k s.client.pending?) :
    Matched sha256 (past ++ [(s, e)]) s' := by
  have hcurrent : s'.current = s.current := by rw [current, current, hmove.length]
  have hservices : ∀ n, s'.services? n = s.services? n := by
    intro n
    rw [services?, services?, hcalls]
  refine ⟨h.outstanding_of_move hmove ?_, fun hon => ?_, ?_, ?_, ?_⟩
  · rw [hout]
    exact h.outstanding k conn hmove.before
  · rw [hclient] at hon
    obtain ⟨conn₀, hconn₀, hcarries⟩ := h.carries hon
    rw [hclient, hcurrent]
    by_cases hk : s.current = k
    · subst hk
      obtain rfl := Option.some.inj (hmove.before.symm.trans hconn₀)
      exact ⟨conn', hmove.after, hcarry (length_of_current hconn₀) hcarries⟩
    · refine ⟨conn₀, (hmove.others _ hk).trans hconn₀, ?_⟩
      exact hcarries.move _ rfl rfl (.refl _)
  · rw [hclient]
    intro p n hp hn
    rw [hservices]
    exact h.command p n hp hn
  · rw [hclient]
    intro n tunnels hmem
    obtain ⟨services, k, id, hn, hack⟩ := h.responses n tunnels hmem
    exact ⟨services, k, id, (hservices n).trans hn, hack.snoc⟩
  · rw [hcalls]
    intro n call tunnels hcall hstage
    obtain ⟨k, id, hack⟩ := h.results n call tunnels hcall hstage
    exact ⟨k, id, hack.snoc⟩

/-- A step that changes the calls only. -/
lemma Matched.ofCalls (h : Matched sha256 past s) {e : Event} (hclient : s'.client = s.client)
    (hconns : s'.connections = s.connections)
    (hservices : ∀ n services, s.services? n = some services → s'.services? n = some services)
    (hresults : ∀ (n : ℕ) (call : UpdateCall) (tunnels : List ClientTunnel),
      s'.calls[n]? = some call → call.stage = .returned (.ok tunnels) →
      ∃ k id, Acknowledged sha256 past k id n call.services tunnels) :
    Matched sha256 (past ++ [(s, e)]) s' := by
  have hcurrent : s'.current = s.current := by rw [current, current, hconns]
  refine ⟨?_, fun hon => ?_, ?_, ?_, ?_⟩
  · rw [hconns]
    exact h.outstanding
  · rw [hclient] at hon
    obtain ⟨conn, hconn, hcarries⟩ := h.carries hon
    rw [hclient, hcurrent, hconns]
    exact ⟨conn, hconn, hcarries.move _ rfl rfl (.refl _)⟩
  · rw [hclient]
    exact fun p n hp hn => hservices _ _ (h.command p n hp hn)
  · rw [hclient]
    intro n tunnels hmem
    obtain ⟨services, k, id, hn, hack⟩ := h.responses n tunnels hmem
    exact ⟨services, k, id, hservices _ _ hn, hack.snoc⟩
  · intro n call tunnels hcall hstage
    obtain ⟨k, id, hack⟩ := hresults n call tunnels hcall hstage
    exact ⟨k, id, hack.snoc⟩

lemma services?_of_append {call : UpdateCall} {n : ℕ} {services : List ClientServiceConfig}
    (hcalls : s'.calls = s.calls ++ [call]) (h : s.services? n = some services) :
    s'.services? n = some services := by
  obtain ⟨call', hcall, rfl⟩ := Option.map_eq_some_iff.mp h
  obtain ⟨hlt, -⟩ := List.getElem?_eq_some_iff.mp hcall
  rw [services?, hcalls, List.getElem?_append_left hlt, hcall]
  rfl

lemma Matched.called (h : Matched sha256 past s) {e : Event} {call : UpdateCall}
    (hstage : call.stage = .sending ∨ ∃ error, call.stage = .returned (.error error)) :
    Matched sha256 (past ++ [(s, e)]) { s with calls := s.calls ++ [call] } := by
  refine h.ofCalls rfl rfl (fun n services => services?_of_append rfl) ?_
  intro n call' tunnels hcall hok
  rcases Nat.lt_or_ge n s.calls.length with hlt | hge
  · exact h.results n call' tunnels ((List.getElem?_append_left hlt).symm.trans hcall) hok
  · rw [List.getElem?_append_right hge] at hcall
    obtain rfl := List.mem_singleton.mp (List.mem_of_getElem? hcall)
    rcases hstage with hstage | ⟨error, hstage⟩ <;> simp [hstage] at hok

lemma services?_of_calls (hcalls : s'.calls = s.calls) (n : ℕ) :
    s'.services? n = s.services? n := by
  rw [services?, services?, hcalls]

/-- A call that has moved to a new stage, and one that has not. -/
lemma stage_of_setStage {n m : ℕ} {stage : CallStage} {call : UpdateCall}
    (h : (s.setStage n stage).calls[m]? = some call) :
    ∃ before, s.calls[m]? = some before ∧ call.services = before.services ∧
      ((m = n ∧ call.stage = stage) ∨ (m ≠ n ∧ call.stage = before.stage)) := by
  simp only [setStage, List.getElem?_modify] at h
  obtain ⟨before, hbefore, rfl⟩ := Option.map_eq_some_iff.mp h
  refine ⟨before, hbefore, ?_⟩
  by_cases hn : n = m
  · simp [hn]
  · simp [hn, Ne.symm hn]

lemma Matched.call (h : Matched sha256 past s) {e : Event} {n : ℕ} {call : UpdateCall}
    (hmove : CallMove s n call s') : Matched sha256 (past ++ [(s, e)]) s' := by
  obtain ⟨stage, hcalls, hstage⟩ : ∃ stage, s'.calls = (s.setStage n stage).calls ∧
      ∀ tunnels, stage = .returned (.ok tunnels) → (n, .ok tunnels) ∈ s.client.responses := by
    rcases hmove.move with ⟨-, -, hcalls⟩ | ⟨-, stage, hcalls, hstage⟩
    · exact ⟨.sent, hcalls, by simp⟩
    · refine ⟨stage, hcalls, ?_⟩
      rintro tunnels rfl
      rcases hstage with hdropped | ⟨error, herror⟩ | ⟨tunnels', hok, -, hmem⟩
      · simp at hdropped
      · simp at herror
      · simp only [CallStage.returned.injEq, Except.ok.injEq] at hok
        exact hok ▸ hmem
  refine h.ofCalls hmove.client hmove.connections (fun m services hm => ?_) ?_
  · rw [services?_of_calls (s := s.setStage n stage) hcalls, services?_setStage]
    exact hm
  · intro m call' tunnels hcall hok
    rw [hcalls] at hcall
    obtain ⟨before, hbefore, hservices, ⟨rfl, hnew⟩ | ⟨-, hold⟩⟩ := stage_of_setStage hcall
    · obtain ⟨services, k, id, hm, hack⟩ :=
        h.responses m tunnels (hstage tunnels (hnew.symm.trans hok))
      obtain rfl : before.services = services := by simpa [services?, hbefore] using hm
      exact ⟨k, id, hservices ▸ hack⟩
    · obtain ⟨k, id, hack⟩ := h.results m before tunnels hbefore (hold.symm.trans hok)
      exact ⟨k, id, hservices ▸ hack⟩

/-- The client makes a connection, which carries nothing. -/
lemma Matched.connect (h : Matched sha256 past s) {e : Event} {session : SessionId}
    {client : Client}
    (hstep : s.client.step (.connectionStep (.ok ())) = some client) :
    Matched sha256 (past ++ [(s, e)])
      { s with client, connections := s.connections ++ [.new session] } := by
  obtain ⟨config, hphase, rfl⟩ : ∃ config, s.client.phase = .connecting config ∧
      client = s.client.select.onConnectionStep config (.ok ()) := by
    cases Client.steps_of_step hstep with
    | connectionStep _ hphase => exact ⟨_, hphase, rfl⟩
  refine ⟨fun k conn hk => ?_, fun _ => ?_, fun p n hp => ?_, fun n tunnels hmem => ?_, ?_⟩
  · rcases Nat.lt_or_ge k s.connections.length with hlt | hge
    · exact h.outstanding k conn ((List.getElem?_append_left hlt).symm.trans hk)
    · simp only [List.getElem?_append_right hge] at hk
      obtain rfl := List.mem_singleton.mp (List.mem_of_getElem? hk)
      simp [ClientConnection.new]
  · refine ⟨.new session, by simp [current], rfl, Nat.le_refl 0, ?_⟩
    intro p hp
    simp [onConnectionStep, pending?] at hp
  · simp [onConnectionStep, pending?] at hp
  · obtain ⟨services, k, id, hn, hack⟩ := h.responses n tunnels hmem
    exact ⟨services, k, id, hn, hack.snoc⟩
  · intro n call tunnels hcall hok
    obtain ⟨k, id, hack⟩ := h.results n call tunnels hcall hok
    exact ⟨k, id, hack.snoc⟩

/-- What the client has logged in a step. -/
lemma drop_log {client client' : Client} {entries : List Entry}
    (h : client'.log = client.log ++ entries) : client'.log.drop client.log.length = entries := by
  rw [h, List.drop_left]

lemma ClientMove.current {e : Client.Event} (hmove : ClientMove s e s') :
    s'.current = s.current := by
  rcases hmove.connections with ⟨-, hconns⟩ | ⟨_, _, _, -, -, -, hconns⟩ <;>
    rw [ServiceNetwork.current, ServiceNetwork.current, hconns, List.length_modify]

/-- What the client reads without an acknowledgement acknowledges nothing. -/
lemma acknowledges?_eq_none {e : Client.Event} {frame : ServerFrame}
    (hframe : e.frame? = some frame)
    (hack : ∀ requestId tunnels, e ≠ .message (.servicesApplied requestId tunnels)) :
    frame.acknowledges? = none := by
  cases frame with
  | hello tunnels => rfl
  | control m =>
    cases m with
    | tunnelSnapshot tunnels => rfl
    | servicesApplied requestId tunnels =>
      cases e with
      | message m =>
        obtain rfl := ServerFrame.control.inj (Option.some.inj hframe)
        exact absurd rfl (hack requestId tunnels)
      | authentication result => cases result <;> simp [Client.Event.frame?] at hframe
      | _ => simp [Client.Event.frame?] at hframe

/-- A step in which the client writes no update leaves no more updates outstanding. -/
lemma Matched.outstanding_of_silent (h : Matched sha256 past s) {e : Client.Event}
    (hmove : ClientMove s e s') {entries : List Entry}
    (hlog : s'.client.log = s.client.log ++ entries)
    (hnil : entries.filterMap Entry.update? = []) (i : ℕ) (conn : ClientConnection)
    (hi : s'.connections[i]? = some conn) : conn.outstanding.length ≤ 1 := by
  have hconnections := hmove.connections
  rw [drop_log hlog] at hconnections
  cases hcurrent : s.connections[s.current]? with
  | none =>
    have hsame : s'.connections = s.connections := by
      rcases hconnections with ⟨-, hconns⟩ | ⟨_, _, _, -, -, -, hconns⟩ <;>
        exact hconns.trans (modify_of_none hcurrent)
    exact h.outstanding i conn (hsame ▸ hi)
  | some current =>
    have hle := h.outstanding _ current hcurrent
    rcases hconnections with ⟨-, hconns⟩ | ⟨frame, _, rest, -, -, -, hconns⟩
    · refine h.outstanding_of_move (connectionMove_of_modify hcurrent hconns) ?_ i conn hi
      simpa [ClientConnection.write, hnil] using hle
    · refine h.outstanding_of_move (connectionMove_of_modify hcurrent hconns) ?_ i conn hi
      refine Nat.le_trans ?_ hle
      simpa [ClientConnection.write, hnil] using List.length_filter_le _ current.outstanding

/-- A step of the client in which it starts no update and reads no acknowledgement of the pending
one. -/
lemma Matched.silent (h : Matched sha256 past s) {e : Client.Event} (hmove : ClientMove s e s')
    {entries : List Entry} (hlog : s'.client.log = s.client.log ++ entries)
    (hnil : entries.filterMap Entry.update? = [])
    {errors : List (ℕ × Except String (List ClientTunnel))}
    (hres : s'.client.responses = s.client.responses ++ errors)
    (herr : ∀ n tunnels, (n, .ok tunnels) ∉ errors)
    (hon : s'.client.onConnection = true → s'.client.pending? = s.client.pending? ∧
      (s.client.onConnection = true ∨ e = .connectionStep (.ok ())) ∧
      ∀ requestId tunnels, e ≠ .message (.servicesApplied requestId tunnels)) :
    Matched sha256 (past ++ [(s, .client e)]) s' := by
  have hservices := services?_of_calls hmove.calls
  refine ⟨h.outstanding_of_silent hmove hlog hnil, fun hnow => ?_, fun p n hp hn => ?_,
    fun n tunnels hmem => ?_, ?_⟩
  · obtain ⟨hpending, hbefore, hack⟩ := hon hnow
    have hwas := hbefore.resolve_right hmove.connected
    obtain ⟨conn, hconn, hcarries⟩ := h.carries hwas
    have hconnections := hmove.connections
    rw [drop_log hlog] at hconnections
    rw [hmove.current, hpending]
    rcases hconnections with ⟨-, hconns⟩ | ⟨frame, conn', rest, hframe, hconn', hnext, hconns⟩
    · refine ⟨_, (connectionMove_of_modify hconn hconns).after, hcarries.move _ ?_ rfl ?_⟩
      · simp [ClientConnection.write, hnil]
      · simp [ClientConnection.write, ClientConnection.transit, hnil]
    · obtain rfl := Option.some.inj (hconn.symm.trans hconn')
      exact ⟨_, (connectionMove_of_modify hconn hconns).after,
        hcarries.takeFrame _ hnext (acknowledges?_eq_none hframe hack) hnil⟩
  · have hpending := (hon (onConnection_of_pending? hp)).1
    rw [hservices]
    exact h.command p n (hpending ▸ hp) hn
  · rw [hres] at hmem
    rcases List.mem_append.mp hmem with hold | hnew
    · obtain ⟨services, k, id, hn, hack⟩ := h.responses n tunnels hold
      exact ⟨services, k, id, (hservices n).trans hn, hack.snoc⟩
    · exact absurd hnew (herr n tunnels)
  · intro n call tunnels hcall hok
    obtain ⟨k, id, hack⟩ := h.results n call tunnels (hmove.calls ▸ hcall) hok
    exact ⟨k, id, hack.snoc⟩

lemma Matched.started (h : Matched sha256 past s) {e : Client.Event} (hmove : ClientMove s e s')
    {p : PendingServiceUpdate} (hon : s.client.onConnection = true)
    (hidle : s.client.pending? = none) (hpending : s'.client.pending? = some p)
    {entries : List Entry} (hlog : s'.client.log = s.client.log ++ entries)
    (hupdate : entries.filterMap Entry.update? =
      [(p.requestId, declarations p.updated.services)])
    (hresponses : s'.client.responses = s.client.responses) (hframe : e.frame? = none)
    (hresponse : ∀ n, p.response = some n →
      e = .command p.updated.services n false (.ok ())) :
    Matched sha256 (past ++ [(s, .client e)]) s' := by
  obtain ⟨conn, hconn, hcarries⟩ := h.carries hon
  rw [hidle] at hcarries
  have hservices := services?_of_calls hmove.calls
  have hconnections : s'.connections = s.connections.modify s.current (·.write entries) := by
    rcases hmove.connections with ⟨-, hconns⟩ | ⟨frame, _, _, hframe', -⟩
    · rw [hconns, drop_log hlog]
    · simp [hframe] at hframe'
  have hconnection := connectionMove_of_modify hconn hconnections
  have hnew := hcarries.started (s, .client e) hupdate rfl rfl
  refine ⟨h.outstanding_of_move hconnection ?_, fun _ => ?_, fun p' n hp hn => ?_, ?_, ?_⟩
  · rw [hnew.outstanding]
    simp
  · rw [hmove.current, hpending]
    exact ⟨_, hconnection.after, hnew⟩
  · obtain rfl := Option.some.inj (hpending.symm.trans hp)
    rw [hservices]
    exact (hmove.command _ _ _ _ (hresponse n hn)).2
  · intro n tunnels hmem
    rw [hresponses] at hmem
    obtain ⟨services, k, id, hn, hack⟩ := h.responses n tunnels hmem
    exact ⟨services, k, id, (hservices n).trans hn, hack.snoc⟩
  · intro n call tunnels hcall hok
    obtain ⟨k, id, hack⟩ := h.results n call tunnels (hmove.calls ▸ hcall) hok
    exact ⟨k, id, hack.snoc⟩

/-- The acknowledgement that the client reads is the one of the update it waits for. -/
lemma Matched.answered (h : Matched sha256 past s) {e : Client.Event} (hmove : ClientMove s e s')
    {p : PendingServiceUpdate} {tunnels : List ClientTunnel}
    (he : e = .message (.servicesApplied p.requestId tunnels))
    (hpending : s.client.pending? = some p) (hidle : s'.client.pending? = none)
    (hlog : s'.client.log = s.client.log)
    (hresponses : s'.client.responses =
      s.client.responses ++ (p.response.map fun n => (n, .ok tunnels)).toList) :
    Matched sha256 (past ++ [(s, .client e)]) s' := by
  obtain ⟨conn, hconn, hcarries⟩ := h.carries (onConnection_of_pending? hpending)
  rw [hpending] at hcarries
  have hservices := services?_of_calls hmove.calls
  obtain ⟨rest, hnext, hconnections⟩ : ∃ rest,
      conn.toClient = .control (.servicesApplied p.requestId tunnels) :: rest ∧
      s'.connections = s.connections.modify s.current fun conn => { conn with
        toClient := rest
        outstanding := conn.outstanding.filter fun id => some p.requestId ≠ some id }.write [] := by
    subst he
    rcases hmove.connections with ⟨hframe, -⟩ | ⟨frame, conn', rest, hframe, hconn', hnext, hconns⟩
    · simp [Client.Event.frame?] at hframe
    · obtain rfl := Option.some.inj (hconn.symm.trans hconn')
      obtain rfl := Option.some.inj hframe
      rw [hlog, List.drop_length] at hconns
      exact ⟨rest, hnext, hconns⟩
  have hconnection := connectionMove_of_modify hconn hconnections
  obtain ⟨hreported, hnew⟩ := hcarries.answered (s, .client e) hnext
  refine ⟨h.outstanding_of_move hconnection ?_, fun _ => ?_, fun p' n hp => ?_, ?_, ?_⟩
  · rw [hnew.outstanding]
    simp
  · rw [hmove.current, hidle]
    exact ⟨_, hconnection.after, hnew⟩
  · simp [hidle] at hp
  · intro n tunnels' hmem
    rw [hresponses] at hmem
    rcases List.mem_append.mp hmem with hold | hmem
    · obtain ⟨services, k, id, hn, hack⟩ := h.responses n tunnels' hold
      exact ⟨services, k, id, (hservices n).trans hn, hack.snoc⟩
    · obtain ⟨n', hn', hpair⟩ := Option.map_eq_some_iff.mp (Option.mem_toList.mp hmem)
      obtain ⟨rfl, htunnels⟩ := Prod.mk.inj hpair
      obtain rfl := Except.ok.inj htunnels
      refine ⟨p.updated.services, s.current, conn.session, ?_, ?_⟩
      · rw [hservices]
        exact h.command p n' hpending hn'
      · exact once_snoc ⟨⟨p.requestId, by rw [he]⟩,
          ⟨length_of_current hconn, p, hpending, hn'⟩, hreported n' hn'⟩
  · intro n call tunnels' hcall hok
    obtain ⟨k, id, hack⟩ := h.results n call tunnels' (hmove.calls ▸ hcall) hok
    exact ⟨k, id, hack.snoc⟩

lemma Matched.client (h : Matched sha256 past s) {e : Client.Event} (hmove : ClientMove s e s') :
    Matched sha256 (past ++ [(s, .client e)]) s' := by
  cases exchange_of_step hmove.step with
  | silent hsilent hon =>
    obtain ⟨entries, hlog, hloaded⟩ := hsilent.log
    obtain ⟨errors, hres, herr⟩ := hsilent.responses
    exact h.silent hmove hlog (Silent.updates_eq_nil hloaded) hres herr hon
  | @greeted config hphase he hs' =>
    have hlog : s'.client.log = s.client.log ++ [.hello (s.client.hello config)] := by rw [hs']
    have hres : s'.client.responses = s.client.responses ++ [] := by simp [hs']
    refine h.silent hmove hlog rfl hres (by simp) fun _ => ⟨?_, Or.inl ?_, by simp [he]⟩
    · rw [hs', pending?, pending?, hphase]
    · rw [onConnection, hphase]
  | started p hon hidle hpending hlog _ hresponses hframe hresponse =>
    obtain ⟨entries, hentries, hupdate, -⟩ := hlog
    exact h.started hmove hon hidle hpending hentries hupdate hresponses hframe hresponse
  | answered p tunnels he hpending hidle _ hlog hresponses =>
    exact h.answered hmove he hpending hidle hlog hresponses

lemma Matched.step (h : Matched sha256 past s) {e : Event} (hstep : s.step sha256 e = some s') :
    Matched sha256 (past ++ [(s, e)]) s' := by
  cases steps_of_step hstep with
  | called services stage hstage => exact h.called hstage
  | call hcall hmove => exact h.call hmove
  | connect session client hclient => exact h.connect hclient
  | client hmove => exact h.client hmove
  | server hconn hsession _ hupdate =>
    exact h.connection (connectionMove_of_set hconn rfl) rfl rfl rfl fun _ hcarries =>
      hcarries.session hsession hupdate
  | deliver hconn hqueue hsession =>
    exact h.connection (connectionMove_of_set hconn rfl) rfl rfl rfl fun hlast hcarries =>
      hcarries.deliver hqueue hconn hlast rfl hsession
  | operate | notify => exact h.ofCalls rfl rfl (fun _ _ => id) h.results
  | lose k f hf =>
    cases hconn : s.connections[k]? with
    | none => exact h.ofCalls rfl (modify_of_none hconn) (fun _ _ => id) h.results
    | some conn =>
      refine h.connection (connectionMove_of_modify hconn rfl) rfl rfl ?_ fun _ hcarries => ?_
      · rcases hf conn with hf | hf <;> rw [hf]
      · rcases hf conn with hf | hf
        · rw [hf]
          refine hcarries.move _ rfl rfl (List.Sublist.append_left ?_ _)
          exact ((List.tail_sublist _).map _).append_left _
        · rw [hf]
          refine hcarries.move _ rfl rfl (List.Sublist.append_right ?_ _)
          exact (List.tail_sublist _).flatMap _

/-! ## Lost commands -/

/-- The call has timed out or failed, or its command was taken from the channel and the client
neither waits for its acknowledgement any more nor has answered it with `Ok`: the command was
dropped together with its connection, or it was answered with an error. -/
def Lost (s : ServiceNetwork) (n : ℕ) : Prop :=
  ∃ call, s.calls[n]? = some call ∧ (call.stage.isFailed = true ∨
    (call.stage = .sent ∧ n ∉ s.commands ∧ ¬s.Waits n ∧
      ∀ tunnels, (n, .ok tunnels) ∉ s.client.responses))

lemma Lost.not_ok {n : ℕ} (h : s.Lost n) {call : UpdateCall} {tunnels : List ClientTunnel}
    (hcall : s.calls[n]? = some call) : call.stage ≠ .returned (.ok tunnels) := by
  obtain ⟨call', hcall', hstage⟩ := h
  obtain rfl := Option.some.inj (hcall.symm.trans hcall')
  intro hok
  rcases hstage with hfailed | ⟨hsent, -⟩
  · simp [hok, CallStage.isFailed] at hfailed
  · simp [hok] at hsent

/-- A step of the client answers no other command than the one it waits for, and it takes up no
other command than the one it is given. -/
lemma not_answered_of_exchange {client client' : Client} {e : Client.Event} {n : ℕ}
    (hex : client.Exchange e client')
    (hcommand : ∀ services write, e ≠ .command services n false write)
    (hwaits : ¬∃ p, client.pending? = some p ∧ p.response = some n)
    (hresponses : ∀ tunnels, (n, .ok tunnels) ∉ client.responses) :
    (¬∃ p, client'.pending? = some p ∧ p.response = some n) ∧
      ∀ tunnels, (n, .ok tunnels) ∉ client'.responses := by
  cases hex with
  | silent hsilent hon =>
    obtain ⟨errors, hres, herr⟩ := hsilent.responses
    refine ⟨?_, fun tunnels hmem => ?_⟩
    · rintro ⟨p, hp, hn⟩
      have hpending := (hon (onConnection_of_pending? hp)).1
      exact hwaits ⟨p, hpending ▸ hp, hn⟩
    · rw [hres] at hmem
      rcases List.mem_append.mp hmem with hold | hnew
      · exact hresponses tunnels hold
      · exact herr n tunnels hnew
  | greeted hphase _ hs' =>
    subst hs'
    exact ⟨by simp [pending?], hresponses⟩
  | started p _ _ hpending _ _ hres _ hresponse =>
    refine ⟨?_, fun tunnels => hres ▸ hresponses tunnels⟩
    rintro ⟨p', hp', hn⟩
    obtain rfl := Option.some.inj (hpending.symm.trans hp')
    exact hcommand _ _ (hresponse n hn)
  | answered p tunnels _ hpending hidle _ _ hres =>
    refine ⟨by simp [hidle], fun tunnels' hmem => ?_⟩
    rw [hres] at hmem
    rcases List.mem_append.mp hmem with hold | hnew
    · exact hresponses tunnels' hold
    · obtain ⟨n', hn', hpair⟩ := Option.map_eq_some_iff.mp (Option.mem_toList.mp hnew)
      obtain ⟨rfl, -⟩ := Prod.mk.inj hpair
      exact hwaits ⟨p, hpending, hn'⟩

/-- A step of the client on its connections. -/
lemma Lost.client {n : ℕ} (h : s.Lost n) {e : Client.Event}
    (hstep : s.client.step e = some s'.client) (hcalls : s'.calls = s.calls)
    (hcommands : ∀ m ∈ s'.commands, m ∈ s.commands)
    (hcommand : ∀ services n' responseClosed write, e = .command services n' responseClosed write →
      n' ∈ s.commands) : s'.Lost n := by
  obtain ⟨call, hcall, hstage⟩ := h
  refine ⟨call, hcalls ▸ hcall, hstage.imp_right fun ⟨hsent, hqueue, hwaits, hresponses⟩ => ?_⟩
  refine ⟨hsent, fun hmem => hqueue (hcommands n hmem), ?_⟩
  refine not_answered_of_exchange (exchange_of_step hstep) ?_ hwaits hresponses
  rintro services write rfl
  exact hqueue (hcommand services n false write rfl)

lemma Lost.call {n m : ℕ} (h : s.Lost n) {call : UpdateCall} (hcall : s.calls[m]? = some call)
    (hmove : CallMove s m call s') : s'.Lost n := by
  obtain ⟨before, hbefore, hstage⟩ := h
  have hwaits : s'.Waits n ↔ s.Waits n := by rw [Waits, Waits, hmove.client]
  have hres : s'.client.responses = s.client.responses := by rw [hmove.client]
  by_cases hn : n = m
  · subst hn
    obtain rfl := Option.some.inj (hcall.symm.trans hbefore)
    rcases hstage with hfailed | ⟨hsent, hqueue, hnot, hresponses⟩
    · -- a call that has ended takes no step
      have hrunning := hmove.running
      cases hstage : call.stage with
      | sending | sent => simp [hstage, CallStage.isFailed] at hfailed
      | returned | dropped => simp [hstage, CallStage.isOpen, CallStage.isSending,
          CallStage.isSent] at hrunning
    · rcases hmove.move with ⟨hsending, -⟩ | ⟨-, stage, hcalls, hnew⟩
      · simp [hsent] at hsending
      · refine ⟨{ call with stage }, ?_, Or.inl ?_⟩
        · rw [hcalls, setStage, List.getElem?_modify_eq, hcall]
          rfl
        · rcases hnew with rfl | ⟨error, rfl⟩ | ⟨tunnels, -, -, hmem⟩
          · rfl
          · rfl
          · exact absurd hmem (hresponses tunnels)
  · refine ⟨before, ?_, hstage.imp_right fun ⟨hsent, hqueue, hnot, hresponses⟩ => ?_⟩
    · rcases hmove.move with ⟨-, -, hcalls⟩ | ⟨-, stage, hcalls, -⟩ <;>
        rw [hcalls, setStage, List.getElem?_modify_ne _ _ (Ne.symm hn), hbefore]
    · refine ⟨hsent, ?_, hwaits.not.mpr hnot, hres ▸ hresponses⟩
      rcases hmove.move with ⟨-, hcommands, -⟩ | ⟨hcommands, -⟩
      · rw [hcommands]
        simpa [hn] using hqueue
      · rw [hcommands]
        exact hqueue

lemma Lost.step {n : ℕ} (h : s.Lost n) {e : Event} (hstep : s.step sha256 e = some s') :
    s'.Lost n := by
  cases steps_of_step hstep with
  | called =>
    obtain ⟨call, hcall, hstage⟩ := h
    obtain ⟨hlt, -⟩ := List.getElem?_eq_some_iff.mp hcall
    exact ⟨call, (List.getElem?_append_left hlt).trans hcall, hstage⟩
  | call hcall hmove => exact h.call hcall hmove
  | connect session client hclient => exact h.client hclient rfl (fun _ => id) (by simp)
  | client hmove =>
    refine h.client hmove.step hmove.calls (fun m hm => ?_) fun services n' closed write he =>
      (hmove.command services n' closed write he).1
    rcases hmove.commands with hsame | ⟨_, _, _, _, rest, -, hold, hnew⟩
    · exact hsame ▸ hm
    · rw [hold]
      exact List.mem_cons_of_mem _ (hnew ▸ hm)
  | server | deliver | operate | notify | lose => exact h

/-! ## The answers are right -/

/-- **Acknowledgements are matched with the updates they are for.**  In every run, at most one
update is outstanding on each connection.  When `update_services` returns `Ok`, then on one
connection of the client the server has applied an update that declares exactly the services of
the call and has left the session with these, at a moment at which the client was waiting for the
call on this connection; later it has read the returned tunnels as the catalog of the session; and
later the client, which was still waiting for the call on this connection, has read them in the
acknowledgement.  A command that was lost with its connection or has timed out is never answered
with `Ok`. -/
theorem update_services_acknowledged {managed : Bool} {deviceId : String}
    {file : Except String ClientConfig} {runtime : Watch TunnelRuntime}
    (hrun : Run (ServiceNetwork.step sha256) Always
      (start (Client.start managed deviceId file) runtime) past s) :
    (∀ conn ∈ s.connections, conn.outstanding.length ≤ 1) ∧
      (∀ (n : ℕ) (call : UpdateCall) (tunnels : List ClientTunnel), s.calls[n]? = some call →
        call.stage = .returned (.ok tunnels) →
        ∃ k id, Acknowledged sha256 past k id n call.services tunnels) ∧
      ∀ n, s.Lost n → ∀ s', Reach (ServiceNetwork.step sha256) Always s s' →
        ∀ (call : UpdateCall) (tunnels : List ClientTunnel), s'.calls[n]? = some call →
          call.stage ≠ .returned (.ok tunnels) := by
  have h : Matched sha256 past s :=
    hrun.invariant matched_start fun _ _ _ _ h _ hstep => h.step hstep
  refine ⟨fun conn hmem => ?_, h.results, fun n hlost s' hreach call tunnels hcall => ?_⟩
  · obtain ⟨k, hk⟩ := List.mem_iff_getElem?.mp hmem
    exact h.outstanding k conn hk
  · have hlost' : s'.Lost n :=
      hreach.invariant (I := fun s => s.Lost n) hlost fun _ _ _ h _ hstep => h.step hstep
    exact hlost'.not_ok hcall

/-! ## A sample run -/

def sampleCatalog (web : ClientTunnelState) : List ClientTunnel :=
  [⟨"web", .tcp, 8080, some "localhost", some 8080, web⟩]

/-- A managed client whose configuration file names no services, and a new server. -/
def sampleStart : ServiceNetwork :=
  start (Client.start true "first" (.ok (sampleConfig []))) ⟨.new, 0, 0⟩

/-- The client makes connection `k`, on which it declares nothing. -/
def connectEvents (k : ℕ) (session : SessionId) : List Event :=
  [.connect session, .client .helloWritten, .server k .subscribe,
    .server k (.register "first" "office" (TunnelRuntime.sampleSha256 TunnelRuntime.sampleKey)
      ⟨k, TunnelRuntime.samplePeer 5001⟩ [] 0),
    .server k .notifyOwn, .server k .observe, .server k .read, .server k .write,
    .client (.authentication (.accepted (sampleCatalog .idle)))]

/-- Call `n` is made, and its command, which declares the tunnel `web`, is taken up. -/
def commandEvents (n : ℕ) : List Event :=
  [.call [sampleService "web"], .send n,
    .client (.command [sampleService "web"] n false (.ok ()))]

/-- The first command is lost with its connection; the second one is request 1 of the next
connection, as the first was of its own, and is answered with `Ok`. -/
theorem second_command_answered :
    ∃ past s, Run (ServiceNetwork.step TunnelRuntime.sampleSha256) Always sampleStart past s ∧
      (∃ k id, Acknowledged TunnelRuntime.sampleSha256 past k id 1 [sampleService "web"]
        (sampleCatalog .enabled)) ∧
      s.Lost 0 ∧ ∀ s', Reach (ServiceNetwork.step TunnelRuntime.sampleSha256) Always s s' →
        ∀ (call : UpdateCall) (tunnels : List ClientTunnel), s'.calls[0]? = some call →
          call.stage ≠ .returned (.ok tunnels) := by
  have hexec : (exec (ServiceNetwork.step TunnelRuntime.sampleSha256) Always sampleStart
      ([.operate (.applyCredentials [("office", TunnelRuntime.sampleKey)]),
          .operate (.applyTunnels [TunnelRuntime.sampleTunnel "web" 8080]), .notify,
          .client .loadInitial] ++ connectEvents 0 1 ++ commandEvents 0 ++
        [.client (.readFailed (.protocol "")), .server 0 .finish, .client .retryElapsed] ++
        connectEvents 1 2 ++ commandEvents 1 ++
        [.deliver 1, .server 1 .notifyOwn, .server 1 .observe, .server 1 .read, .server 1 .write,
          .client (.message (.servicesApplied 1 (sampleCatalog .enabled))), .receive 1])).map
        (fun s => (s.calls, s.commands, s.client.pending?.isNone, s.client.responses.map (·.1))) =
      some ([⟨[sampleService "web"], .sent⟩,
        ⟨[sampleService "web"], .returned (.ok (sampleCatalog .enabled))⟩], [], true, [1]) := by
    decide +kernel
  obtain ⟨s, hs, hview⟩ := Option.map_eq_some_iff.mp hexec
  simp only [Prod.mk.injEq, Option.isNone_iff_eq_none] at hview
  obtain ⟨hcalls, hcommands, hpending, hresponses⟩ := hview
  obtain ⟨past, hrun⟩ := (reach_of_exec hs).exists_run
  obtain ⟨-, hok, hnever⟩ := update_services_acknowledged hrun
  have hlost : s.Lost 0 := by
    refine ⟨⟨[sampleService "web"], .sent⟩, by rw [hcalls]; rfl, Or.inr ⟨rfl, ?_, ?_, ?_⟩⟩
    · simp [hcommands]
    · simp [Waits, hpending]
    · intro tunnels hmem
      have hnumber := List.mem_map_of_mem (f := Prod.fst) hmem
      rw [hresponses] at hnumber
      simp at hnumber
  exact ⟨past, s, hrun, hok 1 _ (sampleCatalog .enabled) (by rw [hcalls]; rfl) rfl, hlost,
    hnever 0 hlost⟩

end GateRust.Tunnel.ServiceNetwork
