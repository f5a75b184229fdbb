/-
# The connections of the proxy

The listeners of the proxy share one `ConnectionLimit`, also with the listeners that they replace.
A listener accepts a client, acquires a permit, and spawns a task that holds the permit and serves
the client.  When a request upgrades the connection, hyper hands the stream over to a task of
another set, which relays it, and the future of the connection completes; so the task of the
connection ends and drops the permit while the stream is still open.

The counter of the limit is atomic; `acquire` reads it and then tries to exchange it.
-/
import GateRust.Lib.Machine
import Mathlib.Data.Option.Basic

namespace GateRust.Proxy

open Machine

inductive ListenerProtocol where
  | http
  | https
deriving DecidableEq, Repr

/-- Who has the stream of a client. -/
inductive ClientStream where
  /-- The task of the connection, before it is spawned. -/
  | accepted
  /-- The task of the connection. -/
  | served
  /-- The task of the upgrade. -/
  | relayed
  | closed
deriving DecidableEq, Repr

/-- A client that was given a permit. -/
structure ClientConnection where
  /-- The permit is still there. -/
  permit : Bool
  stream : ClientStream
deriving DecidableEq, Repr

/-- Where the loop of a listener is. -/
inductive AcceptStage where
  | accepting
  /-- At the start of the loop of `acquire`, which holds an accepted client. -/
  | acquiring
  /-- The counter was read. -/
  | loaded (active : ℕ)
  /-- `acquire` waits until a permit is dropped. -/
  | waiting
  /-- The task of the client is to be spawned. -/
  | spawning (client : ℕ)
  | stopped
deriving DecidableEq, Repr

structure ListenerLoop where
  protocol : ListenerProtocol
  cancelled : Bool
  stage : AcceptStage
deriving DecidableEq, Repr

/-- The connection runtime, with all listeners that were spawned and all clients that were given a
permit. -/
structure ConnectionRuntime where
  active : ℕ
  /-- The set of the connection tasks is there. -/
  tasks : Bool
  listeners : List ListenerLoop
  clients : List ClientConnection
deriving DecidableEq, Repr

namespace ConnectionRuntime

def new : ConnectionRuntime := ⟨0, true, [], []⟩

inductive Event where
  /-- The first listeners, or those of another address. -/
  | spawnListener (protocol : ListenerProtocol)
  | cancelListener (listener : ℕ)
  | accept (listener : ℕ)
  | acceptFails (listener : ℕ)
  | stopAccepting (listener : ℕ)
  | load (listener : ℕ)
  /-- `compare_exchange_weak`, which may fail for no reason. -/
  | exchange (listener : ℕ) (spurious : Bool)
  | wait (listener : ℕ)
  | notified (listener : ℕ)
  | stopWaiting (listener : ℕ)
  | spawn (listener : ℕ)
  /-- A request has upgraded the connection, and hyper hands the stream over. -/
  | handOver (client : ℕ)
  /-- The connection ends, fails or is aborted, and its task closes the stream. -/
  | close (client : ℕ)
  /-- The task of the connection ends and drops the permit. -/
  | dropPermit (client : ℕ)
  /-- The task of the upgrade ends. -/
  | relayEnds (client : ℕ)
  | shutdownTasks
deriving DecidableEq, Repr

variable (r : ConnectionRuntime)

/-- Move a listener on that is at the given stage. -/
def moveListener (listener : ℕ) (move : ListenerLoop → Option AcceptStage) :
    Option ConnectionRuntime := do
  let l ← r.listeners[listener]?
  let stage ← move l
  return { r with listeners := r.listeners.set listener { l with stage } }

/-- The stream of a client goes from one owner to another. -/
def moveStream (client : ℕ) (source target : ClientStream) : Option ConnectionRuntime := do
  let c ← r.clients[client]?
  guard (c.stream = source)
  return { r with clients := r.clients.set client { c with stream := target } }

/-- `Drop` of the permit. -/
def releasePermit (client : ℕ) : Option ConnectionRuntime := do
  let c ← r.clients[client]?
  guard (c.permit ∧ (c.stream = .relayed ∨ c.stream = .closed))
  return { r with
    active := r.active - 1
    clients := r.clients.set client { c with permit := false } }

/-- The exchange has succeeded: there is a permit for the client of the listener. -/
def grant : ConnectionRuntime :=
  { r with active := r.active + 1, clients := r.clients ++ [⟨true, .accepted⟩] }

def exchange (maximum listener : ℕ) (spurious : Bool) : Option ConnectionRuntime := do
  let l ← r.listeners[listener]?
  match l.stage with
  | .loaded active =>
    if active < maximum then
      if active = r.active && !spurious then
        r.grant.moveListener listener fun _ => some (.spawning r.clients.length)
      else r.moveListener listener fun _ => some .acquiring
    else none
  | _ => none

/-- Without the set of tasks the task is dropped, and the stream with it. -/
def spawn (listener : ℕ) : Option ConnectionRuntime := do
  let l ← r.listeners[listener]?
  match l.stage with
  | .spawning client =>
    let r ← r.moveListener listener fun _ => some .accepting
    r.moveStream client .accepted (if r.tasks then .served else .closed)
  | _ => none

def step (maximum : ℕ) (r : ConnectionRuntime) : Event → Option ConnectionRuntime
  | .spawnListener protocol =>
    some { r with listeners := r.listeners ++ [⟨protocol, false, .accepting⟩] }
  | .cancelListener listener => do
    let l ← r.listeners[listener]?
    return { r with listeners := r.listeners.set listener { l with cancelled := true } }
  | .accept listener => r.moveListener listener fun l =>
    if l.stage = .accepting then some .acquiring else none
  | .acceptFails listener => r.moveListener listener fun l =>
    if l.stage = .accepting then some .accepting else none
  | .stopAccepting listener => r.moveListener listener fun l =>
    if l.stage = .accepting && l.cancelled then some .stopped else none
  | .load listener => r.moveListener listener fun l =>
    if l.stage = .acquiring then some (.loaded r.active) else none
  | .exchange listener spurious => r.exchange maximum listener spurious
  | .wait listener => r.moveListener listener fun l =>
    match l.stage with
    | .loaded active => if active < maximum then none else some .waiting
    | _ => none
  | .notified listener => r.moveListener listener fun l =>
    if l.stage = .waiting then some .acquiring else none
  | .stopWaiting listener => r.moveListener listener fun l =>
    if l.stage = .waiting && l.cancelled then some .stopped else none
  | .spawn listener => r.spawn listener
  | .handOver client => r.moveStream client .served .relayed
  | .close client => r.moveStream client .served .closed
  | .dropPermit client => r.releasePermit client
  | .relayEnds client => r.moveStream client .relayed .closed
  | .shutdownTasks => some { r with tasks := false }

/-! ## What is counted -/

/-- The permits that were not dropped. -/
def permits : ℕ := r.clients.countP (·.permit)

/-- The clients that are served: from their permit until their stream is closed. -/
def served : ℕ := r.clients.countP (·.stream ≠ .closed)

/-- The upgraded streams that are relayed without a permit. -/
def uncovered : ℕ := r.clients.countP fun c => !c.permit && c.stream = .relayed

/-- The exchange of the listener succeeds. -/
def Grants (listener : ℕ) (spurious : Bool) : Prop :=
  r.listeners[listener]?.map (·.stage) = some (.loaded r.active) ∧ spurious = false

/-- Whenever a permit is given, the permits and the streams without one are fewer than the
maximum. -/
def CountsUpgrades (maximum : ℕ) (r : ConnectionRuntime) : Event → Prop
  | .exchange listener spurious => r.Grants listener spurious → r.active + r.uncovered < maximum
  | _ => True

instance (maximum : ℕ) (r : ConnectionRuntime) :
    (e : Event) → Decidable (CountsUpgrades maximum r e)
  | .exchange _ _ => inferInstanceAs (Decidable (_ ∧ _ → r.active + r.uncovered < maximum))
  | .spawnListener _ | .cancelListener _ | .accept _ | .acceptFails _ | .stopAccepting _ | .load _
  | .wait _ | .notified _ | .stopWaiting _ | .spawn _ | .handOver _ | .close _ | .dropPermit _
  | .relayEnds _ | .shutdownTasks => inferInstanceAs (Decidable True)

/-! ## What a step does to the clients -/

variable {r} {r' : ConnectionRuntime} {maximum : ℕ}

/-- What a step does to the counter and to the clients. -/
inductive ClientStep (maximum : ℕ) (r r' : ConnectionRuntime) : Event → Prop
  | none {e : Event} (hactive : r'.active = r.active) (hclients : r'.clients = r.clients) :
      ClientStep maximum r r' e
  | granted (listener : ℕ) (hgrants : r.Grants listener false) (hactive : r'.active = r.active + 1)
      (hclients : r'.clients = r.clients ++ [⟨true, .accepted⟩]) :
      ClientStep maximum r r' (.exchange listener false)
  | moved {e : Event} (client : ℕ) (c : ClientConnection) (target : ClientStream)
      (hclient : r.clients[client]? = some c) (hopen : c.stream ≠ .closed)
      (htarget : c.stream = .relayed → target = .closed) (hactive : r'.active = r.active)
      (hclients : r'.clients = r.clients.set client { c with stream := target }) :
      ClientStep maximum r r' e
  | released (client : ℕ) (c : ClientConnection) (hclient : r.clients[client]? = some c)
      (hpermit : c.permit = true) (hstream : c.stream = .relayed ∨ c.stream = .closed)
      (hactive : r'.active = r.active - 1)
      (hclients : r'.clients = r.clients.set client { c with permit := false }) :
      ClientStep maximum r r' (.dropPermit client)

lemma moveListener_frame {listener : ℕ} {move : ListenerLoop → Option AcceptStage}
    (h : r.moveListener listener move = some r') :
    r'.active = r.active ∧ r'.clients = r.clients ∧ r'.tasks = r.tasks := by
  simp only [moveListener, Option.bind_eq_bind, Option.bind_eq_some_iff] at h
  obtain ⟨l, -, stage, -, heq⟩ := h
  cases heq
  exact ⟨rfl, rfl, rfl⟩

lemma moveStream_spec {client : ℕ} {source target : ClientStream}
    (h : r.moveStream client source target = some r') :
    ∃ c, r.clients[client]? = some c ∧ c.stream = source ∧ r'.active = r.active ∧
      r'.clients = r.clients.set client { c with stream := target } := by
  simp only [moveStream, Option.bind_eq_bind, Option.bind_eq_some_iff,
    Option.guard_eq_some'] at h
  obtain ⟨c, hc, -, hsource, heq⟩ := h
  cases heq
  exact ⟨c, hc, hsource, rfl, rfl⟩

lemma clientStep_of_moveStream {e : Event} {client : ℕ} {source target : ClientStream}
    (hopen : source ≠ .closed) (htarget : source = .relayed → target = .closed)
    (h : r.moveStream client source target = some r') : ClientStep maximum r r' e := by
  obtain ⟨c, hc, rfl, hactive, hclients⟩ := moveStream_spec h
  exact .moved client c target hc hopen htarget hactive hclients

lemma clientStep_of_step {e : Event} (h : r.step maximum e = some r') :
    ClientStep maximum r r' e := by
  cases e with
  | spawnListener protocol =>
    cases h
    exact .none rfl rfl
  | cancelListener listener =>
    simp only [step, Option.bind_eq_bind, Option.bind_eq_some_iff] at h
    obtain ⟨l, -, heq⟩ := h
    cases heq
    exact .none rfl rfl
  | accept | acceptFails | stopAccepting | load | wait | notified | stopWaiting =>
    obtain ⟨hactive, hclients, -⟩ := moveListener_frame h
    exact .none hactive hclients
  | exchange listener spurious =>
    simp only [step, exchange, Option.bind_eq_bind, Option.bind_eq_some_iff] at h
    obtain ⟨l, hl, h⟩ := h
    split at h
    case h_1 active hstage =>
      split at h
      · split at h
        case isTrue hsame =>
          simp only [Bool.and_eq_true, decide_eq_true_eq, Bool.not_eq_true'] at hsame
          obtain ⟨rfl, rfl⟩ := hsame
          obtain ⟨hactive, hclients, -⟩ := moveListener_frame h
          refine .granted listener ⟨?_, rfl⟩ hactive hclients
          rw [hl, Option.map_some, hstage]
        case isFalse =>
          obtain ⟨hactive, hclients, -⟩ := moveListener_frame h
          exact .none hactive hclients
      · cases h
    case h_2 => cases h
  | spawn listener =>
    simp only [step, spawn, Option.bind_eq_bind, Option.bind_eq_some_iff] at h
    obtain ⟨l, hl, h⟩ := h
    split at h
    case h_1 client hstage =>
      obtain ⟨r₁, hmove, hstream⟩ := Option.bind_eq_some_iff.mp h
      obtain ⟨hactive₁, hclients₁, -⟩ := moveListener_frame hmove
      obtain ⟨c, hc, hsource, hactive, hclients⟩ := moveStream_spec hstream
      rw [hclients₁] at hc hclients
      exact .moved client c _ hc (by simp [hsource]) (by simp [hsource])
        (hactive.trans hactive₁) hclients
    case h_2 => cases h
  | handOver client => exact clientStep_of_moveStream (by simp) (by simp) h
  | close client => exact clientStep_of_moveStream (by simp) (by simp) h
  | dropPermit client =>
    simp only [step, releasePermit, Option.bind_eq_bind, Option.bind_eq_some_iff,
      Option.guard_eq_some'] at h
    obtain ⟨c, hc, -, ⟨hpermit, hstream⟩, heq⟩ := h
    cases heq
    exact .released client c hc hpermit hstream rfl rfl
  | relayEnds client => exact clientStep_of_moveStream (by simp) (fun _ => rfl) h
  | shutdownTasks =>
    cases h
    exact .none rfl rfl

/-! ## The limit -/

/-- A client without a permit has a stream that is relayed or closed. -/
def Handed (c : ClientConnection) : Prop :=
  c.permit = false → c.stream = .relayed ∨ c.stream = .closed

/-- The counter is the number of permits, and at most the maximum of clients are served. -/
structure Limited (maximum : ℕ) (r : ConnectionRuntime) : Prop where
  counted : r.active = r.permits
  handed : ∀ c ∈ r.clients, Handed c
  served : r.served ≤ maximum

/-- A client that is served has a permit or is relayed without one. -/
lemma countP_served_le {clients : List ClientConnection} (h : ∀ c ∈ clients, Handed c) :
    clients.countP (·.stream ≠ .closed) ≤
      clients.countP (·.permit) + clients.countP fun c => !c.permit && c.stream = .relayed := by
  induction clients with
  | nil => simp
  | cons c clients ih =>
    have hrest := ih fun c hc => h c (List.mem_cons_of_mem _ hc)
    have hfirst := h c List.mem_cons_self
    obtain ⟨permit, stream⟩ := c
    rcases permit with _ | _
    · rcases hfirst rfl with hstream | hstream
      · simp only at hstream
        subst hstream
        simp only [List.countP_cons]
        simp at hrest ⊢
        omega
      · simp only at hstream
        subst hstream
        simp only [List.countP_cons]
        simp at hrest ⊢
        omega
    · simp only [List.countP_cons]
      have hone : (if decide (stream ≠ .closed) = true then 1 else 0) ≤ 1 := by split <;> omega
      simp at hrest hone ⊢
      omega

section CountP

variable {clients : List ClientConnection} {p : ClientConnection → Bool} {client : ℕ}
  {c d : ClientConnection}

lemma countP_set_eq (hc : clients[client]? = some c) (h : p d = p c) :
    (clients.set client d).countP p = clients.countP p := by
  obtain ⟨hlt, rfl⟩ := List.getElem?_eq_some_iff.mp hc
  have hle := List.boole_getElem_le_countP (p := p) hlt
  rw [List.countP_set hlt, h]
  omega

lemma countP_set_succ (hc : clients[client]? = some c) (hold : p c = true)
    (hnew : p d = false) : (clients.set client d).countP p + 1 = clients.countP p := by
  obtain ⟨hlt, rfl⟩ := List.getElem?_eq_some_iff.mp hc
  have hpos : 0 < clients.countP p := List.countP_pos_iff.mpr ⟨_, List.getElem_mem hlt, hold⟩
  rw [List.countP_set hlt, hnew, if_pos hold, if_neg Bool.false_ne_true]
  omega

end CountP

/-- Only a permit that is given makes one more client served. -/
lemma Limited.step {e : Event} (h : r.Limited maximum) (hok : CountsUpgrades maximum r e)
    (hstep : ClientStep maximum r r' e) : r'.Limited maximum := by
  obtain ⟨hcounted, hhanded, hserved⟩ := h
  cases hstep with
  | none hactive hclients =>
    refine ⟨?_, ?_, ?_⟩
    · rw [hactive, hcounted, permits, permits, hclients]
    · rw [hclients]
      exact hhanded
    · rw [ConnectionRuntime.served, hclients]
      exact hserved
  | granted listener hgrants hactive hclients =>
    refine ⟨?_, ?_, ?_⟩
    · rw [hactive, hcounted, permits, permits, hclients, List.countP_append]
      rfl
    · rw [hclients]
      intro c hc
      rcases List.mem_append.mp hc with hc | hc
      · exact hhanded c hc
      · rw [List.mem_singleton.mp hc]
        simp [Handed]
    · have hroom : r.active + r.uncovered < maximum := hok hgrants
      have hle : r.served ≤ r.permits + r.uncovered := countP_served_le hhanded
      have hone : r'.served = r.served + 1 := by
        rw [ConnectionRuntime.served, hclients, List.countP_append]
        rfl
      omega
  | moved client c target hclient hopen htarget hactive hclients =>
    have hmem := List.mem_of_getElem? hclient
    refine ⟨?_, ?_, ?_⟩
    · have hpermits :=
        countP_set_eq (p := (·.permit)) (d := { c with stream := target }) hclient rfl
      rw [hactive, hcounted, permits, permits, hclients, hpermits]
    · rw [hclients]
      intro c' hc' hpermit
      rcases List.mem_or_eq_of_mem_set hc' with hc' | rfl
      · exact hhanded c' hc' hpermit
      · rcases hhanded c hmem hpermit with hstream | hstream
        · exact .inr (htarget hstream)
        · exact absurd hstream hopen
    · rw [ConnectionRuntime.served, hclients]
      by_cases hclosed : target = .closed
      · have hcount := countP_set_succ (p := (·.stream ≠ .closed))
          (d := { c with stream := target }) hclient (by simpa using hopen) (by simp [hclosed])
        rw [ConnectionRuntime.served] at hserved
        omega
      · rw [countP_set_eq hclient (by simp [hclosed, hopen])]
        exact hserved
  | released client c hclient hpermit hstream hactive hclients =>
    refine ⟨?_, ?_, ?_⟩
    · have hpermits := countP_set_succ (p := (·.permit)) (d := { c with permit := false })
        hclient hpermit rfl
      rw [hactive, hcounted, permits, permits, hclients]
      omega
    · rw [hclients]
      intro c' hc' hpermit'
      rcases List.mem_or_eq_of_mem_set hc' with hc' | rfl
      · exact hhanded c' hc' hpermit'
      · exact hstream
    · have hcount := countP_set_eq (p := (·.stream ≠ .closed)) (d := { c with permit := false })
        hclient rfl
      rw [ConnectionRuntime.served, hclients, hcount]
      exact hserved

/-- **When the limit covers every client.**  In every run in which a permit is given only while
the permits and the relayed streams without one are fewer than the maximum, at most the maximum of
clients are served, upgraded ones included. -/
theorem served_le_maximum (maximum : ℕ) (h : Reach (step maximum) (CountsUpgrades maximum) new r) :
    r.served ≤ maximum := by
  have hlimited : r.Limited maximum := by
    have hnew : new.Limited maximum := ⟨rfl, by simp [new], Nat.zero_le _⟩
    refine h.invariant (I := Limited maximum) hnew ?_
    intro s e s' hs hok hstep
    exact hs.step hok (clientStep_of_step hstep)
  exact hlimited.served

/-- The listener accepts a client, which gets a permit and a task. -/
def sampleClient (listener : ℕ) : List Event :=
  [.accept listener, .load listener, .exchange listener false, .spawn listener]

/-- Two listeners; the first client upgrades its connection, and its task ends. -/
def sampleUpgrade : List Event :=
  [.spawnListener .http, .spawnListener .https] ++ sampleClient 0 ++ [.handOver 0, .dropPermit 0]

/-- With room for two, the second client is served next to the upgraded one. -/
theorem upgraded_client_within_two :
    ∃ r, Reach (step 2) (CountsUpgrades 2) new r ∧ r.active = 1 ∧ r.uncovered = 1 ∧
      r.served ≤ 2 := by
  have hrun : (exec (step 2) (CountsUpgrades 2) new (sampleUpgrade ++ sampleClient 1)).map
      (fun r => (r.active, r.uncovered)) = some (1, 1) := by decide +kernel
  obtain ⟨r, hr, hview⟩ := Option.map_eq_some_iff.mp hrun
  obtain ⟨hactive, huncovered⟩ := Prod.mk.inj hview
  exact ⟨r, reach_of_exec hr, hactive, huncovered, served_le_maximum 2 (reach_of_exec hr)⟩

/-- With room for one, the second client gets the permit that the upgraded one has dropped. -/
theorem upgraded_client_not_counted :
    ¬ ∀ (maximum : ℕ) (r : ConnectionRuntime), Reach (step maximum) Always new r →
      r.served ≤ maximum := by
  intro hserved
  have hrun : (exec (step 1) Always new (sampleUpgrade ++ sampleClient 1)).map
      (·.served) = some 2 := by decide +kernel
  obtain ⟨r, hr, htwo⟩ := Option.map_eq_some_iff.mp hrun
  have hone := hserved 1 r (reach_of_exec hr)
  omega

end ConnectionRuntime

end GateRust.Proxy
