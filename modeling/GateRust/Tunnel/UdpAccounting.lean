/-
# The permits of the UDP sessions

The tunnels of a server and its TCP connections share one budget.  In every state that they can
reach the permits add up, the map of each tunnel has the peers of its tasks, and a datagram that is
dropped leaves nothing behind.
-/
import GateRust.Lib.Machine
import GateRust.Tunnel.UdpSessions

namespace GateRust.Tunnel

open Machine

/-! ## All tunnels of a server -/

structure UdpServer where
  budget : ResourceBudget
  /-- The TCP connections that hold the permit of a data stream. -/
  tcpStreams : ℕ
  listeners : HashMap ℕ UdpListener

inductive UdpServerEvent where
  | start (i : ℕ) (config : ServerTunnelConfig)
  | listener (i : ℕ) (e : UdpEvent)
  | openTcp
  | closeTcp
deriving DecidableEq, Repr

namespace UdpServer

def new : UdpServer := ⟨.new, 0, ∅⟩

/-- The permits of all connections and listeners. -/
def held (s : UdpServer) : ResourceBudget := ⟨s.tcpStreams, 0, 0⟩ + s.listeners.sumOf (·.held)

def step (s : UdpServer) : UdpServerEvent → Option UdpServer
  | .start i config =>
    if i ∈ s.listeners then none
    else some { s with listeners := s.listeners.insert i (.start config) }
  | .listener i e =>
    match s.listeners.lookup i with
    | some l =>
      match l.step s.budget e with
      | some (budget, l) => some { s with budget, listeners := s.listeners.insert i l }
      | none => none
    | none => none
  | .openTcp =>
    match s.budget.tryDataStream with
    | some budget => some { s with budget, tcpStreams := s.tcpStreams + 1 }
    | none => none
  | .closeTcp =>
    if 0 < s.tcpStreams then
      some { s with budget := s.budget + .stream, tcpStreams := s.tcpStreams - 1 }
    else none

end UdpServer

/-! ## Runs of the server -/

namespace UdpServer

variable {s s' t : UdpServer} {e : UdpServerEvent} {i : ℕ}

structure Inv (s : UdpServer) : Prop where
  total : s.budget + s.held = .new
  listeners : ∀ i l, s.listeners.lookup i = some l → l.Inv

/-- What `step` allows. -/
inductive Steps (s : UdpServer) : UdpServerEvent → UdpServer → Prop
  | start {i : ℕ} {config : ServerTunnelConfig} (hnew : i ∉ s.listeners) :
      Steps s (.start i config) { s with listeners := s.listeners.insert i (.start config) }
  | listener {i : ℕ} {e : UdpEvent} {l l' : UdpListener} {budget : ResourceBudget}
      (hl : s.listeners.lookup i = some l) (h : l.step s.budget e = some (budget, l')) :
      Steps s (.listener i e) { s with budget, listeners := s.listeners.insert i l' }
  | openTcp {budget : ResourceBudget} (h : s.budget.tryDataStream = some budget) :
      Steps s .openTcp { s with budget, tcpStreams := s.tcpStreams + 1 }
  | closeTcp (hpos : 0 < s.tcpStreams) :
      Steps s .closeTcp { s with budget := s.budget + .stream, tcpStreams := s.tcpStreams - 1 }

lemma steps_of_step (h : s.step e = some s') : s.Steps e s' := by
  cases e with
  | start i config =>
    obtain ⟨hnew, h⟩ := Option.ite_none_left_eq_some.mp h
    cases h
    exact .start hnew
  | listener i e =>
    simp only [step] at h
    split at h
    · rename_i l hl
      split at h
      · rename_i budget l' hstep
        cases h
        exact .listener hl hstep
      · cases h
    · cases h
  | openTcp =>
    simp only [step] at h
    split at h
    · rename_i budget htry
      cases h
      exact .openTcp htry
    · cases h
  | closeTcp =>
    obtain ⟨hpos, h⟩ := Option.ite_none_right_eq_some.mp h
    cases h
    exact .closeTcp hpos

lemma inv_new : new.Inv where
  total := rfl
  listeners _ _ h := nomatch h

/-- Nothing is lost: what one holds more, the budget has less. -/
lemma Steps.total (h : s.Steps e s') (hinv : s.Inv) : s'.budget + s'.held = s.budget + s.held := by
  cases h with
  | @start i config hnew =>
    have hzero : (UdpListener.start config).held = 0 := rfl
    simp only [held, AList.sumOf_insert_of_notMem hnew, hzero, zero_add]
  | @listener i e l l' budget hl h =>
    have hheld := (UdpListener.steps_of_step h).held (hinv.listeners i l hl)
    simp only [held]
    rw [add_left_comm, add_left_comm s.budget, AList.add_sumOf_insert hl hheld]
  | openTcp h =>
    rw [← ResourceBudget.add_stream_of_try h]
    ext <;> simp [held, ResourceBudget.stream]
    omega
  | closeTcp hpos =>
    ext <;> simp [held, ResourceBudget.stream]
    omega

lemma Inv.step (hinv : s.Inv) (h : s.step e = some s') : s'.Inv := by
  have hsteps := steps_of_step h
  refine ⟨(hsteps.total hinv).trans hinv.total, fun i l hl => ?_⟩
  cases hsteps with
  | start =>
    rw [AList.lookup_insert_eq] at hl
    split at hl
    · cases hl
      exact UdpListener.inv_start _
    · exact hinv.listeners i l hl
  | listener hl' h' =>
    rw [AList.lookup_insert_eq] at hl
    split at hl
    · cases hl
      exact (UdpListener.steps_of_step h').inv (hinv.listeners _ _ hl')
    · exact hinv.listeners i l hl
  | openTcp | closeTcp => exact hinv.listeners i l hl

lemma inv_of_reach (h : Reach step Always new s) : s.Inv :=
  h.invariant inv_new fun _ _ _ hinv _ hs => hinv.step hs

/-- **Sessions and permits are accounted for.** -/
structure Accounted (s : UdpServer) : Prop where
  /-- The map has the peers of the tasks that are not joined. -/
  keys : ∀ i l, s.listeners.lookup i = some l → l.stage.Looping → ∀ peer,
    peer ∈ l.sessions ↔ ∃ id task, l.tasks.lookup id = some task ∧ task.peer = peer
  unique : ∀ i l, s.listeners.lookup i = some l → l.stage.Looping → ∀ id id' task task',
    l.tasks.lookup id = some task → l.tasks.lookup id' = some task' → task.peer = task'.peer →
      id = id'
  bounded : ∀ i l, s.listeners.lookup i = some l → l.stage.Looping →
    l.tasks.size ≤ l.config.maxUdpSessions
  /-- A task that has not ended holds its two permits. -/
  permits : ∀ i l, s.listeners.lookup i = some l → ∀ id task, l.tasks.lookup id = some task →
    task.leaving = false → task.stream = true ∧ task.session = true
  total : s.budget + s.held = .new
  limits : s.held.dataStreams ≤ 512 ∧ s.held.udpSessions ≤ 128 ∧
    s.held.queuedUdpBytes ≤ 16 * 1024 * 1024
  stopped : ∀ i l, s.listeners.lookup i = some l → l.stage = .stopped → l.tasks = ∅ ∧ l.held = 0

lemma Inv.accounted (h : s.Inv) : s.Accounted where
  keys i l hl hlooping peer := by
    have hlinked := (h.listeners i l hl).linked hlooping
    constructor
    · intro hmem
      obtain ⟨id, hid⟩ := AList.lookup_of_mem hmem
      obtain ⟨task, htask, hpeer⟩ := (hlinked.lookup peer id).mp hid
      exact ⟨id, task, htask, hpeer⟩
    · rintro ⟨id, task, htask, hpeer⟩
      exact AList.mem_of_lookup ((hlinked.lookup peer id).mpr ⟨task, htask, hpeer⟩)
  unique i l hl hlooping id id' task task' htask htask' hpeer := by
    have hlinked := (h.listeners i l hl).linked hlooping
    have hid := (hlinked.lookup task'.peer id).mpr ⟨task, htask, hpeer⟩
    have hid' := (hlinked.lookup task'.peer id').mpr ⟨task', htask', rfl⟩
    exact Option.some.inj (hid.symm.trans hid')
  bounded i l hl hlooping := by
    have hlinked := (h.listeners i l hl).linked hlooping
    rw [hlinked.size]
    exact hlinked.bound
  permits i l hl id task htask hleaving :=
    ((h.listeners i l hl).sound id task htask hleaving).2
  total := h.total
  limits := by
    have hstreams := congrArg ResourceBudget.dataStreams h.total
    have hsessions := congrArg ResourceBudget.udpSessions h.total
    have hbytes := congrArg ResourceBudget.queuedUdpBytes h.total
    simp only [ResourceBudget.dataStreams_add, ResourceBudget.udpSessions_add,
      ResourceBudget.queuedUdpBytes_add, ResourceBudget.new, maxDataStreams, maxUdpSessions,
      maxQueuedUdpBytes] at hstreams hsessions hbytes
    omega
  stopped i l hl hstopped := by
    have hempty := (h.listeners i l hl).stopped hstopped
    refine ⟨hempty, ?_⟩
    rw [UdpListener.held, hstopped, hempty]
    rfl

/-! ## Dropped datagrams -/

/-- The loop of the listener `i` neither puts its datagram in a queue nor inserts a session; all
else goes on. -/
def Dropping (i : ℕ) (s : UdpServer) : UdpServerEvent → Prop
  | .listener j e => j = i → match e with
    | .task _ _ => True
    | .proceed => ∀ l, s.listeners.lookup i = some l →
      ∀ id peer payload, l.stage ≠ .sending id payload ∧ l.stage ≠ .withPacket peer payload
    | _ => False
  | _ => True

/-- The permits that anybody but the loop of the listener `i` holds. -/
def heldByOthers (s : UdpServer) (i : ℕ) : ResourceBudget :=
  ⟨s.tcpStreams, 0, 0⟩ + (s.listeners.erase i).sumOf (·.held) +
    ((s.listeners.lookup i).map fun l => l.tasks.sumOf (·.held)).getD 0

/-- The listener has the sessions and the tasks of another state of it. -/
structure SameSessions (l l' : UdpListener) : Prop where
  sessions : l'.sessions = l.sessions
  tasks : ∀ id, (l'.tasks.lookup id).map (·.peer) = (l.tasks.lookup id).map (·.peer)

lemma SameSessions.refl (l : UdpListener) : SameSessions l l := ⟨rfl, fun _ => rfl⟩

lemma SameSessions.step {l l' l'' : UdpListener} {budget budget' : ResourceBudget} {e : UdpEvent}
    (h : SameSessions l l') (hs : l'.step budget e = some (budget', l''))
    (he : match e with
      | .task _ _ => True
      | .proceed => ∀ id peer payload,
        l'.stage ≠ .sending id payload ∧ l'.stage ≠ .withPacket peer payload
      | _ => False) : SameSessions l l'' := by
  cases e with
  | task id e =>
    simp only [UdpListener.step] at hs
    split at hs
    · rename_i task htask
      split at hs
      · rename_i budget'' task' hstep
        cases hs
        refine ⟨h.sessions, fun id' => ?_⟩
        rw [← h.tasks id', AList.lookup_insert_eq]
        split
        · rename_i hid
          rw [hid, htask, Option.map_some, Option.map_some,
            (SessionTask.steps_of_step hstep).peer]
        · rfl
      · cases hs
    · cases hs
  | proceed =>
    have hp := UdpListener.proceeds_of_proceed hs
    cases hp with
    | move => exact ⟨h.sessions, h.tasks⟩
    | @send id payload hstage => exact absurd hstage (he id l.config.bind payload).1
    | @insert peer payload hstage => exact absurd hstage (he 0 peer payload).2
  | receive | join | cancel | finish => cases he

lemma budget_add_heldByOthers (hinv : s.Inv) {l : UdpListener}
    (hl : s.listeners.lookup i = some l) (hstage : l.stage = .waiting) :
    s.budget + s.heldByOthers i = .new := by
  have htotal := hinv.total
  rw [held, AList.sumOf_eq_add_erase hl, UdpListener.held, hstage] at htotal
  rw [← htotal, heldByOthers, hl]
  simp only [UdpStage.held, zero_add, Option.map_some, Option.getD_some]
  abel

/-- Between the arrival of a datagram and its being dropped the sessions stay. -/
lemma sameSessions_of_dropping {l : UdpListener} (h : Reach step (Dropping i) s t)
    (hstart : ∃ l₁, s.listeners.lookup i = some l₁ ∧ SameSessions l l₁) :
    ∃ l', t.listeners.lookup i = some l' ∧ SameSessions l l' := by
  refine h.invariant (I := fun t => ∃ l', t.listeners.lookup i = some l' ∧ SameSessions l l')
    hstart ?_
  rintro t e t' ⟨l', hl', hsame⟩ hok ht
  have hsteps := steps_of_step ht
  cases hsteps with
  | @start j config hnew =>
    have hne : i ≠ j := by
      rintro rfl
      exact hnew (AList.mem_of_lookup hl')
    exact ⟨l', (AList.lookup_insert_ne hne).trans hl', hsame⟩
  | @listener j e l₁ l₂ budget hl₁ hs =>
    by_cases hij : i = j
    · subst hij
      obtain rfl := Option.some.inj (hl'.symm.trans hl₁)
      refine ⟨l₂, AList.lookup_insert _, hsame.step hs ?_⟩
      have hok' := hok rfl
      cases e with
      | proceed => exact hok' l' hl'
      | task | receive | join | cancel | finish => exact hok'
    · exact ⟨l', (AList.lookup_insert_ne hij).trans hl', hsame⟩
  | openTcp | closeTcp => exact ⟨l', hl', hsame⟩

/-- **A datagram that is dropped leaves the map and the budget as they were**, but for what the
others take and give back in the meantime. -/
def DropsCleanly (s : UdpServer) : Prop :=
  ∀ i l peer payload s₁ t l', s.listeners.lookup i = some l →
    s.step (.listener i (.receive peer payload)) = some s₁ → Reach step (Dropping i) s₁ t →
    t.listeners.lookup i = some l' → l'.stage = .waiting →
      SameSessions l l' ∧ t.budget + t.heldByOthers i = s.budget + s.heldByOthers i

lemma dropsCleanly_of_reach (h : Reach step Always new s) : s.DropsCleanly := by
  intro i l peer payload s₁ t l' hl hs₁ ht hl' hwaiting
  have hinv := inv_of_reach h
  have hstart : l.stage = .waiting ∧ ∃ l₁, s₁.listeners.lookup i = some l₁ ∧ SameSessions l l₁ := by
    cases steps_of_step hs₁ with
    | listener hl₁ hs =>
      obtain rfl := Option.some.inj (hl.symm.trans hl₁)
      obtain ⟨⟨hstage, -⟩, hs⟩ := Option.ite_none_right_eq_some.mp hs
      cases hs
      refine ⟨hstage, l.receive peer payload, AList.lookup_insert _, ?_⟩
      rcases UdpListener.receive_cases l peer payload with heq | ⟨id, -, heq⟩ | ⟨-, -, heq⟩
      · rw [heq]
        exact .refl l
      · rw [heq]
        exact ⟨rfl, fun _ => rfl⟩
      · rw [heq]
        exact ⟨rfl, fun _ => rfl⟩
  obtain ⟨hstage, hstart⟩ := hstart
  obtain ⟨l₂, hl₂, hsame⟩ := sameSessions_of_dropping ht hstart
  obtain rfl := Option.some.inj (hl'.symm.trans hl₂)
  have hreach : Reach step Always new t :=
    (h.next trivial hs₁).trans (ht.mono fun _ _ _ => trivial)
  refine ⟨hsame, ?_⟩
  rw [budget_add_heldByOthers (inv_of_reach hreach) hl' hwaiting,
    budget_add_heldByOthers hinv hl hstage]

/-- **The sessions of the UDP tunnels agree with their tasks, and every permit is accounted for**,
in every state that a server can reach. -/
theorem udp_sessions_accounted (h : Reach step Always new s) : s.Accounted ∧ s.DropsCleanly :=
  ⟨(inv_of_reach h).accounted, dropsCleanly_of_reach h⟩

def dnsTunnel : ServerTunnelConfig where
  name := "dns"
  group := "office"
  kind := .udp
  bind := ⟨.v4 0, 5353⟩
  localIp := "127.0.0.1"
  localPort := some 53
  limitBps := none
  maxConnections := 1
  maxUdpSessions := 1
  udpIdleSeconds := 60

/-- A datagram opens the only session of the tunnel, and its task ends and is dropped. -/
def sampleEvents : List UdpServerEvent :=
  [.start 0 dnsTunnel, .openTcp,
    .listener 0 (.receive ⟨.v4 1, 1⟩ [7, 7]), .listener 0 .proceed, .listener 0 .proceed,
    .listener 0 .proceed, .listener 0 .proceed,
    .listener 0 (.task 0 .leave), .listener 0 (.task 0 .dropReceiver),
    .listener 0 (.task 0 .dropStream), .listener 0 (.task 0 .dropSession)]

/-- The state of the listener after these events. -/
lemma exists_sample : ∃ s l task, Reach step Always new s ∧ s.listeners.lookup 0 = some l ∧
    l.stage = .waiting ∧ l.tasks.lookup 0 = some task ∧ task.stream = false ∧
      s.held = .stream := by
  have hexec : ((exec step Always new sampleEvents).bind fun s =>
      (s.listeners.lookup 0).bind fun l => (l.tasks.lookup 0).map fun task =>
        decide (l.stage = .waiting ∧ task.stream = false ∧ s.held = .stream)) = some true := by
    decide +kernel
  obtain ⟨s, hs, hview⟩ := Option.bind_eq_some_iff.mp hexec
  obtain ⟨l, hl, hview⟩ := Option.bind_eq_some_iff.mp hview
  obtain ⟨task, htask, hview⟩ := Option.map_eq_some_iff.mp hview
  obtain ⟨hstage, hstream, hheld⟩ := of_decide_eq_true hview
  exact ⟨s, l, task, reach_of_exec hs, hl, hstage, htask, hstream, hheld⟩

/-- A server on which a task has ended and is not joined. -/
theorem sample_accounted : ∃ s, Reach step Always new s ∧ s.held = .stream ∧
    s.Accounted ∧ s.DropsCleanly := by
  obtain ⟨s, -, -, hreach, -, -, -, -, hheld⟩ := exists_sample
  exact ⟨s, hreach, hheld, udp_sessions_accounted hreach⟩

/-- A task that has ended holds no permits, though it is not joined. -/
theorem unjoined_task_without_permits :
    ¬ ∀ s, Reach step Always new s → ∀ i l, s.listeners.lookup i = some l → l.stage = .waiting →
      ∀ id task, l.tasks.lookup id = some task → task.stream = true ∧ task.session = true := by
  intro h
  obtain ⟨s, l, task, hreach, hl, hstage, htask, hstream, -⟩ := exists_sample
  have hpermits := h s hreach 0 l hl hstage 0 task htask
  rw [hstream] at hpermits
  cases hpermits.1

end UdpServer

end GateRust.Tunnel
