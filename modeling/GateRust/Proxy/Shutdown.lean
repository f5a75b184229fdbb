/-
# Stopping the proxy

At its end `run_proxy_with_runtime` cancels the listeners and waits for each of them, for ten
seconds before it aborts it.  Then it takes the set of the connection tasks away, aborts the tasks
and waits for them, and does the same with the tasks of the upgrades, whose set stays; at last it
waits for the manager.  Meanwhile the listeners, connections and upgrades go on with what they do:
an aborted listener still runs until it waits the next time, and a request may be upgraded.

A task of an upgrade is spawned by a connection task, with the answer of the upstream, and gets the
stream when hyper hands it over.
-/
import GateRust.Proxy.Connections
import Mathlib.Data.Finset.Card
import Mathlib.Data.Finset.Range

namespace GateRust.Proxy

open Machine

/-- How far `run_proxy_with_runtime` has come. -/
inductive ShutdownStage where
  | running
  /-- It waits for the listeners. -/
  | listeners
  /-- The set of the connection tasks is taken away. -/
  | connections
  | upgrades
  | manager
  | returned
deriving DecidableEq, Repr

def ShutdownStage.rank : ShutdownStage → ℕ
  | .running => 0
  | .listeners => 1
  | .connections => 2
  | .upgrades => 3
  | .manager => 4
  | .returned => 5

structure ProxyShutdown where
  runtime : ConnectionRuntime
  /-- The clients of the tasks of upgrades that have not ended. -/
  upgrades : List ℕ
  /-- The listeners that were aborted. -/
  aborted : List ℕ
  stage : ShutdownStage

inductive ShutdownEvent where
  /-- The limit has the maximum at that time. -/
  | connection (maximum : ℕ) (event : ConnectionRuntime.Event)
  /-- The upstream switches protocols, and a task for the upgrade is spawned. -/
  | upgrade (client : ℕ)
  | upgradeEnds (client : ℕ)
  | cancel
  /-- `await_listener` runs out of time. -/
  | abort (listener : ℕ)
  /-- An aborted listener is dropped where it waits. -/
  | abortEnds (listener : ℕ)
  | listenersStopped
  | connectionsJoined
  | upgradesJoined
  | managerJoined

namespace ConnectionRuntime

variable (r : ConnectionRuntime)

/-- All listeners have a child of the token. -/
def cancelAll : ConnectionRuntime :=
  { r with listeners := r.listeners.map fun l => { l with cancelled := true } }

/-- The future of a listener is dropped, and with it the client that it has not handed over. -/
def dropListener (listener : ℕ) : Option ConnectionRuntime := do
  let l ← r.listeners[listener]?
  let r' := { r with listeners := r.listeners.set listener { l with stage := .stopped } }
  match l.stage with
  | .spawning client => r'.moveStream client .accepted .closed
  | _ => return r'

/-- The task of an upgrade ends, and closes the stream if it has it. -/
def endUpgrade (client : ℕ) : ConnectionRuntime :=
  (r.moveStream client .relayed .closed).getD r

/-- No task of the set is left. -/
def Joined : Prop :=
  ∀ c ∈ r.clients, c.stream ≠ .served ∧ (c.stream = .relayed → c.permit = false)

instance : Decidable r.Joined := inferInstanceAs (Decidable (∀ _ ∈ _, _))

/-! ## What a step does to the listeners and the clients -/

/-- How the stream of a client may move, where `tasks` says whether the set of tasks is there and
`hands` which streams may be handed over. -/
inductive StreamMove (tasks : Bool) (hands : ℕ → Prop) (client : ℕ) :
    ClientStream → ClientStream → Prop
  | kept (stream : ClientStream) : StreamMove tasks hands client stream stream
  | spawned {target : ClientStream} (h : target = if tasks then .served else .closed) :
      StreamMove tasks hands client .accepted target
  | handedOver (h : hands client) : StreamMove tasks hands client .served .relayed
  | closed (stream : ClientStream) : StreamMove tasks hands client stream .closed

lemma StreamMove.of_accepted {tasks : Bool} {hands : ℕ → Prop} {client : ℕ}
    {source target : ClientStream} (h : StreamMove tasks hands client source target)
    (htarget : target = .accepted) : source = .accepted := by
  cases h with
  | kept => exact htarget
  | spawned => rfl
  | handedOver => cases htarget
  | closed => cases htarget

/-- Each listener was there before, unless one is added, and does not start again.  One that is to
spawn the task of a client goes on to hold the client, or has handed it over. -/
structure ListenersMove (r r' : ConnectionRuntime) (adds : Prop) : Prop where
  old : ¬adds → ∀ (j : ℕ) l', r'.listeners[j]? = some l' →
    ∃ l, r.listeners[j]? = some l ∧ (l.stage = .stopped → l'.stage = .stopped) ∧
      (l.cancelled = true → l'.cancelled = true)
  spawning : ∀ (j : ℕ) l client, r.listeners[j]? = some l → l.stage = .spawning client →
    (∃ l', r'.listeners[j]? = some l' ∧ l'.stage = .spawning client) ∨
      ∃ c, r'.clients[client]? = some c ∧ c.stream ≠ .accepted

/-- Each client was there before, and its stream has moved, or it is held by a listener that spawns
its task next. -/
def ClientsMove (r r' : ConnectionRuntime) (hands : ℕ → Prop) : Prop :=
  ∀ (i : ℕ) c', r'.clients[i]? = some c' →
    (c'.stream = .accepted ∧ ∃ (j : ℕ) (l : ListenerLoop), r'.listeners[j]? = some l ∧
      l.stage = .spawning i) ∨
    ∃ c, r.clients[i]? = some c ∧ StreamMove r.tasks hands i c.stream c'.stream

structure Moves (r r' : ConnectionRuntime) (adds : Prop) (hands : ℕ → Prop) : Prop where
  tasks : r'.tasks = r.tasks
  listeners : ListenersMove r r' adds
  clients : ClientsMove r r' hands

variable {r} {r' : ConnectionRuntime} {maximum listener client : ℕ} {adds : Prop}
  {hands : ℕ → Prop} {l l' : ListenerLoop} {c c' : ClientConnection}

lemma ListenersMove.of_eq (h : r'.listeners = r.listeners) : ListenersMove r r' adds where
  old _ _ l' hl' := ⟨l', h ▸ hl', id, id⟩
  spawning _ l _ hl hstage := .inl ⟨l, h ▸ hl, hstage⟩

lemma ListenersMove.of_set (hl : r.listeners[listener]? = some l)
    (h : r'.listeners = r.listeners.set listener l')
    (hstopped : l.stage = .stopped → l'.stage = .stopped)
    (hcancelled : l.cancelled = true → l'.cancelled = true)
    (hspawning : ∀ client, l.stage = .spawning client → l'.stage = .spawning client ∨
      ∃ c, r'.clients[client]? = some c ∧ c.stream ≠ .accepted) : ListenersMove r r' adds where
  old _ j m' hm' := by
    rw [h, List.getElem?_set] at hm'
    split at hm'
    case isTrue hj =>
      subst hj
      obtain ⟨-, hm'⟩ := Option.ite_none_right_eq_some.mp hm'
      cases hm'
      exact ⟨l, hl, hstopped, hcancelled⟩
    case isFalse => exact ⟨m', hm', id, id⟩
  spawning j m client hm hstage := by
    by_cases hj : listener = j
    · subst hj
      obtain rfl : l = m := Option.some.inj (hl.symm.trans hm)
      refine (hspawning client hstage).imp_left fun hstage' => ⟨l', ?_, hstage'⟩
      rw [h]
      exact List.getElem?_set_self (List.getElem?_eq_some_iff.mp hl).1
    · refine .inl ⟨m, ?_, hstage⟩
      rw [h, List.getElem?_set_ne hj, hm]

lemma ClientsMove.of_eq (h : r'.clients = r.clients) : ClientsMove r r' hands := by
  intro i c' hc'
  exact .inr ⟨c', h ▸ hc', .kept _⟩

lemma ClientsMove.of_set (hc : r.clients[client]? = some c)
    (h : r'.clients = r.clients.set client c')
    (hmove : StreamMove r.tasks hands client c.stream c'.stream) : ClientsMove r r' hands := by
  intro i d' hd'
  rw [h, List.getElem?_set] at hd'
  split at hd'
  case isTrue hi =>
    subst hi
    obtain ⟨-, hd'⟩ := Option.ite_none_right_eq_some.mp hd'
    cases hd'
    exact .inr ⟨c, hc, hmove⟩
  case isFalse => exact .inr ⟨d', hd', .kept _⟩

lemma moveListener_spec {move : ListenerLoop → Option AcceptStage}
    (h : r.moveListener listener move = some r') :
    ∃ l stage, r.listeners[listener]? = some l ∧ move l = some stage ∧
      r' = { r with listeners := r.listeners.set listener { l with stage } } := by
  simp only [moveListener, Option.bind_eq_bind, Option.bind_eq_some_iff] at h
  obtain ⟨l, hl, stage, hstage, h⟩ := h
  exact ⟨l, stage, hl, hstage, (Option.some.inj h).symm⟩

lemma moveStream_eq {source target : ClientStream}
    (h : r.moveStream client source target = some r') :
    ∃ c, r.clients[client]? = some c ∧ c.stream = source ∧
      r' = { r with clients := r.clients.set client { c with stream := target } } := by
  simp only [moveStream, Option.bind_eq_bind, Option.bind_eq_some_iff, Option.guard_eq_some'] at h
  obtain ⟨c, hc, -, hsource, h⟩ := h
  exact ⟨c, hc, hsource, (Option.some.inj h).symm⟩

/-- An event that moves a listener from a stage that is neither the last one nor that before the
spawn. -/
lemma moves_of_moveListener {move : ListenerLoop → Option AcceptStage}
    (hmove : ∀ l stage, r.listeners[listener]? = some l → move l = some stage →
      l.stage ≠ .stopped ∧ ∀ client, l.stage ≠ .spawning client)
    (h : r.moveListener listener move = some r') : Moves r r' adds hands := by
  obtain ⟨l, stage, hl, hstage, rfl⟩ := moveListener_spec h
  obtain ⟨hstopped, hspawning⟩ := hmove l stage hl hstage
  exact ⟨rfl, .of_set hl rfl (fun h => absurd h hstopped) id
    fun client h => absurd h (hspawning client), .of_eq rfl⟩

lemma moves_of_moveStream {source target : ClientStream}
    (hmove : StreamMove r.tasks hands client source target)
    (h : r.moveStream client source target = some r') : Moves r r' adds hands := by
  obtain ⟨c, hc, rfl, rfl⟩ := moveStream_eq h
  exact ⟨rfl, .of_eq rfl, .of_set hc rfl hmove⟩

lemma moves_of_exchange {spurious : Bool} (h : r.exchange maximum listener spurious = some r') :
    Moves r r' adds hands := by
  simp only [exchange, Option.bind_eq_bind, Option.bind_eq_some_iff] at h
  obtain ⟨l, hl, h⟩ := h
  split at h
  case h_2 => cases h
  case h_1 active hstage =>
    obtain ⟨-, h⟩ := Option.ite_none_right_eq_some.mp h
    split at h
    case isTrue =>
      obtain ⟨m, stage, hm, hspawning, rfl⟩ := moveListener_spec h
      cases hspawning
      obtain rfl : l = m := Option.some.inj (hl.symm.trans hm)
      refine ⟨rfl, .of_set hl rfl (by simp [hstage]) id (by simp [hstage]), fun i c' hc' => ?_⟩
      -- the new client is the one that the listener spawns the task of
      change (r.clients ++ [⟨true, .accepted⟩])[i]? = some c' at hc'
      rw [List.getElem?_append] at hc'
      split at hc'
      case isTrue => exact .inr ⟨c', hc', .kept _⟩
      case isFalse hi =>
        obtain ⟨hlt, rfl⟩ := List.getElem?_eq_some_iff.mp hc'
        obtain rfl : i = r.clients.length := by
          rw [List.length_singleton] at hlt
          omega
        refine .inl ⟨by simp, listener, { l with stage := .spawning r.clients.length }, ?_, rfl⟩
        exact List.getElem?_set_self (List.getElem?_eq_some_iff.mp hl).1
    case isFalse =>
      refine moves_of_moveListener (fun m stage hm _ => ?_) h
      obtain rfl : l = m := Option.some.inj (hl.symm.trans hm)
      simp [hstage]

/-- A listener hands its client over, or is dropped with it. -/
lemma moves_of_handOver {stage : AcceptStage} {target : ClientStream}
    (hl : r.listeners[listener]? = some l) (hstage : l.stage = .spawning client)
    (htarget : target ≠ .accepted) (hmove : StreamMove r.tasks hands client .accepted target)
    (h : { r with listeners := r.listeners.set listener { l with stage } }.moveStream client
      .accepted target = some r') : Moves r r' adds hands := by
  obtain ⟨c, hc, haccepted, rfl⟩ := moveStream_eq h
  refine ⟨rfl, .of_set hl rfl (by simp [hstage]) id fun other hother => ?_, .of_set hc rfl ?_⟩
  · obtain rfl : client = other := by
      rw [hstage, AcceptStage.spawning.injEq] at hother
      exact hother
    exact .inr ⟨_, List.getElem?_set_self (List.getElem?_eq_some_iff.mp hc).1, htarget⟩
  · rw [haccepted]
    exact hmove

lemma moves_of_spawn (h : r.spawn listener = some r') : Moves r r' adds hands := by
  simp only [spawn, Option.bind_eq_bind, Option.bind_eq_some_iff] at h
  obtain ⟨l, hl, h⟩ := h
  split at h
  case h_2 => cases h
  case h_1 client hstage =>
    obtain ⟨r₁, hmove, h⟩ := Option.bind_eq_some_iff.mp h
    obtain ⟨m, stage, hm, -, rfl⟩ := moveListener_spec hmove
    obtain rfl : l = m := Option.some.inj (hl.symm.trans hm)
    refine moves_of_handOver hl hstage ?_ (.spawned rfl) h
    cases r.tasks <;> simp

lemma moves_of_dropListener (h : r.dropListener listener = some r') : Moves r r' adds hands := by
  simp only [dropListener, Option.bind_eq_bind, Option.bind_eq_some_iff] at h
  obtain ⟨l, hl, h⟩ := h
  split at h
  case h_1 client hstage => exact moves_of_handOver hl hstage (by simp) (.closed _) h
  case h_2 hspawning =>
    cases h
    exact ⟨rfl, .of_set hl rfl (fun _ => rfl) id fun client h => absurd h (hspawning client),
      .of_eq rfl⟩

lemma moves_cancelAll (r : ConnectionRuntime) : Moves r r.cancelAll adds hands := by
  refine ⟨rfl, ⟨fun _ j l' hl' => ?_, fun j l client hl hstage => ?_⟩, .of_eq rfl⟩
  · change (r.listeners.map _)[j]? = some l' at hl'
    rw [List.getElem?_map] at hl'
    obtain ⟨l, hl, rfl⟩ := Option.map_eq_some_iff.mp hl'
    exact ⟨l, hl, id, fun _ => rfl⟩
  · refine .inl ⟨{ l with cancelled := true }, ?_, hstage⟩
    change (r.listeners.map _)[j]? = _
    rw [List.getElem?_map, hl]
    rfl

lemma ne_of_endUpgrade {i : ℕ} (hc : (r.endUpgrade client).clients[i]? = some c)
    (hrelayed : c.stream = .relayed) : i ≠ client := by
  rintro rfl
  unfold endUpgrade at hc
  cases hmove : r.moveStream i .relayed .closed with
  | none =>
    rw [hmove, Option.getD_none] at hc
    simp [moveStream, hc, hrelayed, guard] at hmove
  | some r' =>
    obtain ⟨d, hd, -, rfl⟩ := moveStream_eq hmove
    rw [hmove, Option.getD_some] at hc
    obtain rfl := Option.some.inj
      ((List.getElem?_set_self (List.getElem?_eq_some_iff.mp hd).1).symm.trans hc)
    cases hrelayed

lemma moves_endUpgrade (r : ConnectionRuntime) (client : ℕ) :
    Moves r (r.endUpgrade client) adds hands := by
  unfold endUpgrade
  cases hmove : r.moveStream client .relayed .closed with
  | none => exact ⟨rfl, .of_eq rfl, .of_eq rfl⟩
  | some r' => exact moves_of_moveStream (.closed _) hmove

/-- The streams that an event may hand over. -/
def Event.Hands (e : Event) (client : ℕ) : Prop := e = .handOver client

def Event.Adds (e : Event) : Prop := ∃ protocol, e = .spawnListener protocol

lemma moves_of_step {e : Event} (h : r.step maximum e = some r') (hkept : e ≠ .shutdownTasks) :
    Moves r r' e.Adds e.Hands := by
  cases e with
  | spawnListener protocol =>
    cases h
    refine ⟨rfl, ⟨fun hadds => absurd ⟨protocol, rfl⟩ hadds, fun j l client hl hstage => ?_⟩,
      .of_eq rfl⟩
    refine .inl ⟨l, ?_, hstage⟩
    exact (List.getElem?_append_left (List.getElem?_eq_some_iff.mp hl).1).trans hl
  | cancelListener listener =>
    simp only [step, Option.bind_eq_bind, Option.bind_eq_some_iff] at h
    obtain ⟨l, hl, h⟩ := h
    cases h
    exact ⟨rfl, .of_set hl rfl id (fun _ => rfl) fun client h => .inl h, .of_eq rfl⟩
  | accept | acceptFails | stopAccepting | load | wait | notified | stopWaiting =>
    refine moves_of_moveListener (fun l stage _ hstage => ?_) h
    cases hl : l.stage <;> simp [hl] at hstage ⊢
  | exchange listener spurious => exact moves_of_exchange h
  | spawn listener => exact moves_of_spawn h
  | handOver client => exact moves_of_moveStream (.handedOver rfl) h
  | close client => exact moves_of_moveStream (.closed _) h
  | relayEnds client => exact moves_of_moveStream (.closed _) h
  | dropPermit client =>
    simp only [step, releasePermit, Option.bind_eq_bind, Option.bind_eq_some_iff,
      Option.guard_eq_some'] at h
    obtain ⟨c, hc, -, -, h⟩ := h
    cases h
    exact ⟨rfl, .of_eq rfl, .of_set hc rfl (.kept c.stream)⟩
  | shutdownTasks => exact absurd rfl hkept

/-! ## What the end of a task changes -/

lemma moveStream_closed {source : ClientStream} (hopen : source ≠ .closed)
    (h : r.moveStream client source .closed = some r') :
    r'.served + 1 = r.served ∧ r'.permits = r.permits ∧ r'.listeners = r.listeners := by
  obtain ⟨c, hc, rfl, rfl⟩ := moveStream_eq h
  exact ⟨countP_set_succ hc (by simpa using hopen) (by simp), countP_set_eq hc rfl, rfl⟩

lemma releasePermit_spec (h : r.releasePermit client = some r') :
    r'.permits + 1 = r.permits ∧ r'.served = r.served ∧ r'.listeners = r.listeners := by
  simp only [releasePermit, Option.bind_eq_bind, Option.bind_eq_some_iff,
    Option.guard_eq_some'] at h
  obtain ⟨c, hc, -, ⟨hpermit, -⟩, h⟩ := h
  cases h
  exact ⟨countP_set_succ hc hpermit rfl, countP_set_eq hc rfl, rfl⟩

lemma endUpgrade_spec (r : ConnectionRuntime) (client : ℕ) :
    (r.endUpgrade client).served ≤ r.served ∧ (r.endUpgrade client).permits = r.permits ∧
      (r.endUpgrade client).listeners = r.listeners := by
  unfold endUpgrade
  cases hmove : r.moveStream client .relayed .closed with
  | none => exact ⟨le_rfl, rfl, rfl⟩
  | some r' =>
    obtain ⟨hserved, hpermits, hlisteners⟩ := moveStream_closed (by simp) hmove
    exact ⟨by simp only [Option.getD_some]; omega, hpermits, hlisteners⟩

/-- A client whose task was not spawned is held by a listener that spawns it next. -/
def Held (r : ConnectionRuntime) : Prop :=
  ∀ (i : ℕ) c, r.clients[i]? = some c → c.stream = .accepted →
    ∃ (j : ℕ) (l : ListenerLoop), r.listeners[j]? = some l ∧ l.stage = .spawning i

lemma Held.moves (h : r.Held) (hmoves : Moves r r' adds hands) : r'.Held := by
  intro i c' hc' haccepted
  obtain ⟨-, hheld⟩ | ⟨c, hc, hmove⟩ := hmoves.clients i c' hc'
  · exact hheld
  · obtain ⟨j, l, hl, hstage⟩ := h i c hc (hmove.of_accepted haccepted)
    obtain ⟨l', hl', hstage'⟩ | ⟨d, hd, hopen⟩ := hmoves.listeners.spawning j l i hl hstage
    · exact ⟨j, l', hl', hstage'⟩
    · exact absurd ((Option.some.inj (hd.symm.trans hc')) ▸ haccepted) hopen

end ConnectionRuntime

namespace ProxyShutdown

def start : ProxyShutdown := ⟨.new, [], [], .running⟩

variable (s : ProxyShutdown)

/-- The listener has stopped, or was aborted. -/
def Awaited (listener : ℕ) (l : ListenerLoop) : Prop := l.stage = .stopped ∨ listener ∈ s.aborted

instance (listener : ℕ) (l : ListenerLoop) : Decidable (s.Awaited listener l) :=
  inferInstanceAs (Decidable (_ ∨ _))

/-- All listeners are awaited, also those that were replaced before. -/
def ListenersAwaited : Prop :=
  ∀ p ∈ s.runtime.listeners.zipIdx, s.Awaited p.2 p.1

instance : Decidable s.ListenersAwaited := inferInstanceAs (Decidable (∀ _ ∈ _, _))

/-- What the listeners and the tasks may do. -/
def allows : ConnectionRuntime.Event → Bool
  | .spawnListener _ => s.stage = .running
  -- the stream goes to a task that waits for it
  | .handOver client => client ∈ s.upgrades
  | .relayEnds _ | .shutdownTasks => false
  | _ => true

def step (s : ProxyShutdown) : ShutdownEvent → Option ProxyShutdown
  | .connection maximum event =>
    if s.allows event then
      (s.runtime.step maximum event).map fun runtime => { s with runtime }
    else none
  | .upgrade client => do
    let c ← s.runtime.clients[client]?
    -- a connection switches protocols once
    guard (c.stream = .served ∧ client ∉ s.upgrades)
    return { s with upgrades := s.upgrades ++ [client] }
  | .upgradeEnds client =>
    if client ∈ s.upgrades then
      some { s with
        runtime := s.runtime.endUpgrade client, upgrades := s.upgrades.erase client }
    else none
  | .cancel =>
    if s.stage = .running then some { s with runtime := s.runtime.cancelAll, stage := .listeners }
    else none
  | .abort listener =>
    match s.runtime.listeners[listener]? with
    | some l => if l.cancelled then some { s with aborted := s.aborted ++ [listener] } else none
    | none => none
  | .abortEnds listener =>
    if listener ∈ s.aborted then
      (s.runtime.dropListener listener).map fun runtime => { s with runtime }
    else none
  | .listenersStopped =>
    if s.stage = .listeners ∧ s.ListenersAwaited then
      some { s with runtime := { s.runtime with tasks := false }, stage := .connections }
    else none
  | .connectionsJoined =>
    if s.stage = .connections ∧ s.runtime.Joined then some { s with stage := .upgrades } else none
  | .upgradesJoined =>
    if s.stage = .upgrades ∧ s.upgrades = [] then some { s with stage := .manager } else none
  | .managerJoined => if s.stage = .manager then some { s with stage := .returned } else none

/-! ## What is left at each stage -/

/-- What is gone at each stage does not come back. -/
structure Stopping (s : ProxyShutdown) : Prop where
  relayed : ∀ (i : ℕ) c, s.runtime.clients[i]? = some c → c.stream = .relayed → i ∈ s.upgrades
  held : s.runtime.Held
  cancelled : s.stage ≠ .running → ∀ l ∈ s.runtime.listeners, l.cancelled = true
  awaited : 2 ≤ s.stage.rank → s.ListenersAwaited
  taken : 2 ≤ s.stage.rank → s.runtime.tasks = false
  joined : 3 ≤ s.stage.rank → ∀ c ∈ s.runtime.clients, c.stream ≠ .served
  upgrades : 4 ≤ s.stage.rank → s.upgrades = []

variable {s} {s' : ProxyShutdown} {r' : ConnectionRuntime} {adds : Prop} {hands : ℕ → Prop}

lemma listenersAwaited_iff : s.ListenersAwaited ↔
    ∀ (j : ℕ) l, s.runtime.listeners[j]? = some l → s.Awaited j l := by
  simp only [ListenersAwaited, List.mem_zipIdx_iff_getElem?, Prod.forall]
  exact forall_comm

lemma stopping_start : start.Stopping where
  relayed i c hc := by simp [start, ConnectionRuntime.new] at hc
  held i c hc := by simp [start, ConnectionRuntime.new] at hc
  cancelled h := absurd rfl h
  awaited h := absurd h (by decide)
  taken h := absurd h (by decide)
  joined h := absurd h (by decide)
  upgrades h := absurd h (by decide)

/-- The listeners and clients move as long as streams are only handed to the tasks of upgrades, and
listeners are added before the end. -/
lemma Stopping.moves (h : s.Stopping) (hmoves : s.runtime.Moves r' adds hands)
    (hhands : ∀ i, hands i → i ∈ s.upgrades) (hadds : adds → s.stage = .running) :
    Stopping { s with runtime := r' } where
  relayed i c' hc' hrelayed := by
    obtain ⟨haccepted, -⟩ | ⟨c, hc, hmove⟩ := hmoves.clients i c' hc'
    · rw [hrelayed] at haccepted
      cases haccepted
    · rw [hrelayed] at hmove
      generalize hstream : c.stream = stream at hmove
      cases hmove with
      | kept => exact h.relayed i c hc hstream
      | spawned htarget => split at htarget <;> cases htarget
      | handedOver hhand => exact hhands i hhand
  held := h.held.moves hmoves
  cancelled hrunning l' hmem := by
    obtain ⟨j, hl'⟩ := List.mem_iff_getElem?.mp hmem
    obtain ⟨l, hl, -, hcancelled⟩ :=
      hmoves.listeners.old (fun hadd => hrunning (hadds hadd)) j l' hl'
    exact hcancelled (h.cancelled hrunning l (List.mem_of_getElem? hl))
  awaited hrank := by
    have hadded : ¬adds := fun hadd => by
      change 2 ≤ s.stage.rank at hrank
      rw [hadds hadd] at hrank
      exact absurd hrank (by decide)
    rw [listenersAwaited_iff]
    intro j l' hl'
    obtain ⟨l, hl, hstopped, -⟩ := hmoves.listeners.old hadded j l' hl'
    exact (listenersAwaited_iff.mp (h.awaited hrank) j l hl).imp_left hstopped
  taken hrank := hmoves.tasks.trans (h.taken hrank)
  joined hrank c' hmem hserved := by
    obtain ⟨i, hc'⟩ := List.mem_iff_getElem?.mp hmem
    obtain ⟨haccepted, -⟩ | ⟨c, hc, hmove⟩ := hmoves.clients i c' hc'
    · rw [hserved] at haccepted
      cases haccepted
    · rw [hserved, h.taken (Nat.le_of_succ_le hrank)] at hmove
      generalize hstream : c.stream = stream at hmove
      cases hmove with
      | kept => exact h.joined hrank c (List.mem_of_getElem? hc) hstream
      | spawned htarget => cases htarget
  upgrades := h.upgrades

lemma Stopping.moves_own (h : s.Stopping) (hmoves : s.runtime.Moves r' False fun _ => False) :
    Stopping { s with runtime := r' } :=
  h.moves hmoves (fun _ => False.elim) False.elim

/-- The next stage begins behind the connections. -/
lemma Stopping.next (h : s.Stopping) {stage : ShutdownStage} (htaken : 2 ≤ s.stage.rank)
    (hjoined : ∀ c ∈ s.runtime.clients, c.stream ≠ .served)
    (hupgrades : 4 ≤ stage.rank → s.upgrades = []) : Stopping { s with stage } :=
  { h with
    cancelled := fun _ => h.cancelled fun hrunning => by
      rw [hrunning] at htaken
      exact absurd htaken (by decide)
    awaited := fun _ => h.awaited htaken
    taken := fun _ => h.taken htaken
    joined := fun _ => hjoined
    upgrades := hupgrades }

lemma Stopping.step {e : ShutdownEvent} (h : s.Stopping) (hstep : s.step e = some s') :
    s'.Stopping := by
  cases e with
  | connection maximum event =>
    obtain ⟨hallows, hstep⟩ := Option.ite_none_right_eq_some.mp hstep
    obtain ⟨r', hr', rfl⟩ := Option.map_eq_some_iff.mp hstep
    have hkept : event ≠ .shutdownTasks := by
      rintro rfl
      cases hallows
    refine h.moves (ConnectionRuntime.moves_of_step hr' hkept) ?_ ?_
    · rintro i rfl
      exact of_decide_eq_true hallows
    · rintro ⟨protocol, rfl⟩
      exact of_decide_eq_true hallows
  | upgrade client =>
    simp only [ProxyShutdown.step, Option.bind_eq_bind, Option.bind_eq_some_iff,
      Option.guard_eq_some'] at hstep
    obtain ⟨c, hc, -, ⟨hserved, -⟩, hstep⟩ := hstep
    cases hstep
    exact { h with
      relayed := fun i c hc hrelayed => List.mem_append_left _ (h.relayed i c hc hrelayed)
      upgrades := fun hrank =>
        absurd hserved (h.joined (Nat.le_of_succ_le hrank) c (List.mem_of_getElem? hc)) }
  | upgradeEnds client =>
    obtain ⟨hmem, hstep⟩ := Option.ite_none_right_eq_some.mp hstep
    cases hstep
    have hmoved := h.moves_own (ConnectionRuntime.moves_endUpgrade s.runtime client)
    exact { hmoved with
      relayed := fun i c hc hrelayed => by
        have hne : i ≠ client := ConnectionRuntime.ne_of_endUpgrade hc hrelayed
        exact (List.mem_erase_of_ne hne).mpr (hmoved.relayed i c hc hrelayed)
      upgrades := fun hrank => by
        rw [show s.upgrades = [] from h.upgrades hrank] at hmem
        cases hmem }
  | cancel =>
    obtain ⟨-, hstep⟩ := Option.ite_none_right_eq_some.mp hstep
    cases hstep
    have hmoved := h.moves_own (ConnectionRuntime.moves_cancelAll s.runtime)
    exact
      { relayed := hmoved.relayed
        held := hmoved.held
        cancelled := fun _ l hl => by
          obtain ⟨l, -, rfl⟩ := List.mem_map.mp hl
          rfl
        awaited := fun hrank => absurd hrank (by simp [ShutdownStage.rank])
        taken := fun hrank => absurd hrank (by simp [ShutdownStage.rank])
        joined := fun hrank => absurd hrank (by simp [ShutdownStage.rank])
        upgrades := fun hrank => absurd hrank (by simp [ShutdownStage.rank]) }
  | abort listener =>
    simp only [ProxyShutdown.step] at hstep
    split at hstep
    case h_1 =>
      obtain ⟨-, hstep⟩ := Option.ite_none_right_eq_some.mp hstep
      cases hstep
      exact { h with
        awaited := fun hrank p hp => (h.awaited hrank p hp).imp_right (List.mem_append_left _) }
    case h_2 => cases hstep
  | abortEnds listener =>
    obtain ⟨-, hstep⟩ := Option.ite_none_right_eq_some.mp hstep
    obtain ⟨r', hr', rfl⟩ := Option.map_eq_some_iff.mp hstep
    exact h.moves_own (ConnectionRuntime.moves_of_dropListener hr')
  | listenersStopped =>
    obtain ⟨⟨hstage, hawaited⟩, hstep⟩ := Option.ite_none_right_eq_some.mp hstep
    cases hstep
    exact { h with
      cancelled := fun _ => h.cancelled (by simp [hstage])
      awaited := fun _ => hawaited
      taken := fun _ => rfl
      joined := fun hrank => absurd hrank (by simp [ShutdownStage.rank])
      upgrades := fun hrank => absurd hrank (by simp [ShutdownStage.rank]) }
  | connectionsJoined =>
    obtain ⟨⟨hstage, hjoined⟩, hstep⟩ := Option.ite_none_right_eq_some.mp hstep
    cases hstep
    exact h.next (by simp [hstage, ShutdownStage.rank]) (fun c hc => (hjoined c hc).1)
      fun hrank => absurd hrank (by simp [ShutdownStage.rank])
  | upgradesJoined =>
    obtain ⟨⟨hstage, hnone⟩, hstep⟩ := Option.ite_none_right_eq_some.mp hstep
    cases hstep
    have hjoined := h.joined (by simp [hstage, ShutdownStage.rank])
    exact h.next (by simp [hstage, ShutdownStage.rank]) hjoined fun _ => hnone
  | managerJoined =>
    obtain ⟨hstage, hstep⟩ := Option.ite_none_right_eq_some.mp hstep
    cases hstep
    have hjoined := h.joined (by simp [hstage, ShutdownStage.rank])
    have hnone := h.upgrades (by simp [hstage, ShutdownStage.rank])
    exact h.next (by simp [hstage, ShutdownStage.rank]) hjoined fun _ => hnone

lemma not_running_of_step {e : ShutdownEvent} (h : s.stage ≠ .running)
    (hstep : s.step e = some s') : s'.stage ≠ .running := by
  cases e with
  | connection | abortEnds =>
    obtain ⟨-, hstep⟩ := Option.ite_none_right_eq_some.mp hstep
    obtain ⟨r', -, rfl⟩ := Option.map_eq_some_iff.mp hstep
    exact h
  | upgrade client =>
    simp only [ProxyShutdown.step, Option.bind_eq_bind, Option.bind_eq_some_iff] at hstep
    obtain ⟨c, -, -, -, hstep⟩ := hstep
    cases hstep
    exact h
  | upgradeEnds client =>
    obtain ⟨-, hstep⟩ := Option.ite_none_right_eq_some.mp hstep
    cases hstep
    exact h
  | abort listener =>
    simp only [ProxyShutdown.step] at hstep
    split at hstep
    case h_1 =>
      obtain ⟨-, hstep⟩ := Option.ite_none_right_eq_some.mp hstep
      cases hstep
      exact h
    case h_2 => cases hstep
  | cancel | listenersStopped | connectionsJoined | upgradesJoined | managerJoined =>
    obtain ⟨-, hstep⟩ := Option.ite_none_right_eq_some.mp hstep
    cases hstep
    simp

lemma stopping_of_run {past : List (ProxyShutdown × ShutdownEvent)}
    (h : Run ProxyShutdown.step Always start past s) : s.Stopping :=
  h.invariant (I := fun _ s => s.Stopping) stopping_start fun _ _ _ _ hs _ hstep => hs.step hstep

/-! ## The shutdown goes on -/

/-- What the shutdown does itself, and the ends of the tasks that it has aborted. -/
def Works (s : ProxyShutdown) : ShutdownEvent → Prop
  | .abort listener => ∀ l ∈ s.runtime.listeners[listener]?, ¬s.Awaited listener l
  | .connection _ (.close _) | .connection _ (.dropPermit _) | .upgradeEnds _ | .listenersStopped
  | .connectionsJoined | .upgradesJoined | .managerJoined => True
  | _ => False

instance : (e : ShutdownEvent) → Decidable (s.Works e)
  | .abort _ => inferInstanceAs (Decidable (∀ _ ∈ _, _))
  | .connection _ (.close _) | .connection _ (.dropPermit _) | .upgradeEnds _ | .listenersStopped
  | .connectionsJoined | .upgradesJoined | .managerJoined => isTrue trivial
  | .connection _ (.spawnListener _) | .connection _ (.cancelListener _)
  | .connection _ (.accept _) | .connection _ (.acceptFails _) | .connection _ (.stopAccepting _)
  | .connection _ (.load _) | .connection _ (.exchange ..) | .connection _ (.wait _)
  | .connection _ (.notified _) | .connection _ (.stopWaiting _) | .connection _ (.spawn _)
  | .connection _ (.handOver _) | .connection _ (.relayEnds _) | .connection _ .shutdownTasks
  | .upgrade _ | .cancel | .abortEnds _ => isFalse id

/-- How many steps the shutdown may need. -/
def work (s : ProxyShutdown) : ℕ :=
  (5 - s.stage.rank) + ((Finset.range s.runtime.listeners.length).filter (· ∉ s.aborted)).card +
    s.runtime.served + s.runtime.permits + s.upgrades.length

lemma work_lt {e : ShutdownEvent} (hworks : s.Works e) (hstep : s.step e = some s') :
    s'.work < s.work := by
  cases e with
  | connection maximum event =>
    obtain ⟨-, hstep⟩ := Option.ite_none_right_eq_some.mp hstep
    obtain ⟨r', hr', rfl⟩ := Option.map_eq_some_iff.mp hstep
    cases event with
    | close client =>
      obtain ⟨hserved, hpermits, hlisteners⟩ :=
        ConnectionRuntime.moveStream_closed (by simp) hr'
      simp only [work, hpermits, hlisteners]
      omega
    | dropPermit client =>
      obtain ⟨hpermits, hserved, hlisteners⟩ := ConnectionRuntime.releasePermit_spec hr'
      simp only [work, hserved, hlisteners]
      omega
    | _ => exact hworks.elim
  | upgradeEnds client =>
    obtain ⟨hmem, hstep⟩ := Option.ite_none_right_eq_some.mp hstep
    cases hstep
    obtain ⟨hserved, hpermits, hlisteners⟩ :=
      ConnectionRuntime.endUpgrade_spec s.runtime client
    have hlength := List.length_erase_of_mem hmem
    have hpos := List.length_pos_of_mem hmem
    simp only [work, hpermits, hlisteners]
    omega
  | abort listener =>
    simp only [ProxyShutdown.step] at hstep
    split at hstep
    case h_1 l hl =>
      obtain ⟨-, hstep⟩ := Option.ite_none_right_eq_some.mp hstep
      cases hstep
      have hnew : listener ∉ s.aborted := fun hmem => hworks l hl (.inr hmem)
      have hlt : ((Finset.range s.runtime.listeners.length).filter
          (· ∉ s.aborted ++ [listener])).card <
          ((Finset.range s.runtime.listeners.length).filter (· ∉ s.aborted)).card := by
        refine Finset.card_lt_card (Finset.ssubset_iff_of_subset ?_ |>.mpr ⟨listener, ?_, ?_⟩)
        · intro i hi
          rw [Finset.mem_filter] at hi ⊢
          exact ⟨hi.1, fun hmem => hi.2 (List.mem_append_left _ hmem)⟩
        · exact Finset.mem_filter.mpr
            ⟨Finset.mem_range.mpr (List.getElem?_eq_some_iff.mp hl).1, hnew⟩
        · simp
      simp only [work]
      omega
    case h_2 => cases hstep
  | listenersStopped | connectionsJoined | upgradesJoined =>
    obtain ⟨⟨hstage, -⟩, hstep⟩ := Option.ite_none_right_eq_some.mp hstep
    cases hstep
    simp only [work, ConnectionRuntime.served, ConnectionRuntime.permits, hstage,
      ShutdownStage.rank]
    omega
  | managerJoined =>
    obtain ⟨hstage, hstep⟩ := Option.ite_none_right_eq_some.mp hstep
    cases hstep
    simp only [work, hstage, ShutdownStage.rank]
    omega
  | upgrade | cancel | abortEnds => exact hworks.elim

/-- As long as the server has not returned, there is something that it does. -/
lemma Stopping.returned_of_stuck (h : s.Stopping) (hrunning : s.stage ≠ .running)
    (hstuck : ∀ e, s.Works e → s.step e = none) : s.stage = .returned := by
  cases hstage : s.stage with
  | running => exact absurd hstage hrunning
  | listeners =>
    have hdone := hstuck .listenersStopped trivial
    have hnot : ¬s.ListenersAwaited := fun hawaited => by
      simp [ProxyShutdown.step, hstage, hawaited] at hdone
    rw [listenersAwaited_iff] at hnot
    push Not at hnot
    obtain ⟨j, l, hl, hnot⟩ := hnot
    have hcancelled := h.cancelled hrunning l (List.mem_of_getElem? hl)
    have habort := hstuck (.abort j) fun l' hl' => by
      cases hl.symm.trans hl'
      exact hnot
    simp [ProxyShutdown.step, hl, hcancelled] at habort
  | connections =>
    have hdone := hstuck .connectionsJoined trivial
    have hnot : ¬s.runtime.Joined := fun hjoined => by
      simp [ProxyShutdown.step, hstage, hjoined] at hdone
    unfold ConnectionRuntime.Joined at hnot
    push Not at hnot
    obtain ⟨c, hmem, hnot⟩ := hnot
    obtain ⟨i, hc⟩ := List.mem_iff_getElem?.mp hmem
    by_cases hserved : c.stream = .served
    · have hclose := hstuck (.connection 0 (.close i)) trivial
      simp [ProxyShutdown.step, allows, ConnectionRuntime.step, ConnectionRuntime.moveStream, hc,
        hserved] at hclose
    · obtain ⟨hrelayed, hpermit⟩ := hnot hserved
      have hdrop := hstuck (.connection 0 (.dropPermit i)) trivial
      simp [ProxyShutdown.step, allows, ConnectionRuntime.step, ConnectionRuntime.releasePermit, hc,
        hrelayed, hpermit] at hdrop
  | upgrades =>
    have hdone := hstuck .upgradesJoined trivial
    cases hupgrades : s.upgrades with
    | nil => simp [ProxyShutdown.step, hstage, hupgrades] at hdone
    | cons client rest =>
      have hends := hstuck (.upgradeEnds client) trivial
      simp [ProxyShutdown.step, hupgrades] at hends
  | manager =>
    have hdone := hstuck .managerJoined trivial
    simp [ProxyShutdown.step, hstage] at hdone
  | returned => rfl

/-- **Nothing of the proxy is left.**  Once `run_proxy_with_runtime` has returned, no task of an
upgrade is left, every listener has stopped or was aborted, and of the clients that were given a
permit every stream is closed but for one that an aborted listener has not handed over.  Once the
token is cancelled, what the server does and waits for comes to an end in whatever order, within as
many steps as there are stages, listeners, open streams, permits and upgrades, and can always be
gone on with until the server returns. -/
theorem nothing_left {past : List (ProxyShutdown × ShutdownEvent)}
    (h : Run ProxyShutdown.step Always start past s) :
    (s.stage = .returned → s.upgrades = [] ∧ s.ListenersAwaited ∧
      ∀ (i : ℕ) c, s.runtime.clients[i]? = some c → c.stream = .closed ∨
        ∃ (j : ℕ) (l : ListenerLoop), s.runtime.listeners[j]? = some l ∧ l.stage = .spawning i ∧
          j ∈ s.aborted) ∧
    (s.stage ≠ .running → ∀ events s', exec ProxyShutdown.step Works s events = some s' →
      events.length ≤ s.work ∧ ∃ more s'', exec ProxyShutdown.step Works s' more = some s'' ∧
        s''.stage = .returned) := by
  have hstopping := stopping_of_run h
  constructor
  · intro hreturned
    have hrank : 4 ≤ s.stage.rank := by rw [hreturned]; decide
    have hawaited := hstopping.awaited (by omega)
    refine ⟨hstopping.upgrades hrank, hawaited, fun i c hc => ?_⟩
    cases hstream : c.stream with
    | closed => exact .inl rfl
    | served => exact absurd hstream (hstopping.joined (by omega) c (List.mem_of_getElem? hc))
    | relayed =>
      have hmem := hstopping.relayed i c hc hstream
      rw [hstopping.upgrades hrank] at hmem
      cases hmem
    | accepted =>
      obtain ⟨j, l, hl, hstage⟩ := hstopping.held i c hc hstream
      refine .inr ⟨j, l, hl, hstage, ?_⟩
      obtain hstopped | haborted := listenersAwaited_iff.mp hawaited j l hl
      · rw [hstage] at hstopped
        cases hstopped
      · exact haborted
  · intro hrunning events s' hexec
    have hmeasure : ∀ (t : ProxyShutdown) e t', t.Stopping ∧ t.stage ≠ .running → t.Works e →
        t.step e = some t' → (t'.Stopping ∧ t'.stage ≠ .running) ∧ t'.work < t.work := by
      intro t e t' ⟨ht, hnot⟩ hworks hstep
      exact ⟨⟨ht.step hstep, not_running_of_step hnot hstep⟩, work_lt hworks hstep⟩
    obtain ⟨hs', hle⟩ := exec_length_le hmeasure ⟨hstopping, hrunning⟩ hexec
    obtain ⟨more, s'', hmore, hstuck⟩ := exists_exec_stuck hmeasure hs'
    obtain ⟨⟨hend, hnot⟩, -⟩ := exec_length_le hmeasure hs' hmore
    exact ⟨by omega, more, s'', hmore, hend.returned_of_stuck hnot hstuck⟩

/-- A client is upgraded, and another one is still with the listener when the server stops. -/
def stoppingEvents : List ShutdownEvent :=
  [.connection 2 (.spawnListener .http), .connection 2 (.accept 0), .connection 2 (.load 0),
    .connection 2 (.exchange 0 false), .connection 2 (.spawn 0), .upgrade 0,
    .connection 2 (.handOver 0), .connection 2 (.accept 0), .connection 2 (.load 0),
    .connection 2 (.exchange 0 false), .cancel]

/-- The listener is aborted, and the upgrade is joined behind the connections. -/
def stoppedEvents : List ShutdownEvent :=
  stoppingEvents ++ [.abort 0, .listenersStopped, .connection 2 (.dropPermit 0), .connectionsJoined,
    .upgradeEnds 0, .upgradesJoined, .managerJoined]

theorem sample_nothing_left :
    (∃ past s, Run ProxyShutdown.step Always start past s ∧ s.stage = .listeners ∧
      ∃ more s', exec ProxyShutdown.step Works s more = some s' ∧ s'.stage = .returned) ∧
    ∃ past s, Run ProxyShutdown.step Always start past s ∧ s.stage = .returned ∧
      s.upgrades = [] ∧ s.ListenersAwaited := by
  constructor
  · have hall : (exec ProxyShutdown.step Always start stoppingEvents).map (·.stage) =
        some .listeners := by
      decide +kernel
    obtain ⟨s, hexec, hstage⟩ := Option.map_eq_some_iff.mp hall
    obtain ⟨past, hrun⟩ := (reach_of_exec hexec).exists_run
    have hrunning : s.stage ≠ .running := by simp [hstage]
    obtain ⟨-, more⟩ := (nothing_left hrun).2 hrunning [] s rfl
    exact ⟨past, s, hrun, hstage, more⟩
  · have hall : (exec ProxyShutdown.step Always start stoppedEvents).map (·.stage) =
        some .returned := by
      decide +kernel
    obtain ⟨s, hexec, hreturned⟩ := Option.map_eq_some_iff.mp hall
    obtain ⟨past, hrun⟩ := (reach_of_exec hexec).exists_run
    obtain ⟨hupgrades, hawaited, -⟩ := (nothing_left hrun).1 hreturned
    exact ⟨past, s, hrun, hreturned, hupgrades, hawaited⟩

end ProxyShutdown

end GateRust.Proxy
