/-
# UDP sessions

`udp::run` gives each public peer a task and keeps the sender of its queue in the map `sessions`.
A task holds one permit for its data stream and one for its UDP session, and a datagram holds one
for each of its bytes while it is queued.

Every operation on a semaphore is a step of its own, so that the loops of all tunnels and their
tasks take permits in any order between each other.  A task may end at any time, by itself or
aborted; it is dropped piece by piece, and the loop joins it when nothing of it is left.
-/
import GateRust.Lib.MapSums
import GateRust.Tunnel.ResourceBudget
import Mathlib.Tactic.Abel

namespace GateRust.Tunnel

/-! ## The task of a peer -/

def sessionQueue : ℕ := 8

/-- The task of a peer with the queue that leads to it. -/
structure SessionTask where
  peer : SocketAddr
  queue : List (List UInt8)
  /-- The datagram that `relay_session` has taken from the queue. -/
  current : Option (List UInt8)
  /-- The receiver of the queue is alive. -/
  receiver : Bool
  /-- The task holds the permit of its data stream. -/
  stream : Bool
  /-- The task holds the permit of its UDP session. -/
  session : Bool
  /-- `run_session` has returned, or the task is aborted; what it owns is dropped. -/
  leaving : Bool
deriving DecidableEq, Repr

inductive TaskEvent where
  /-- `inbound.recv()` gives a datagram. -/
  | take
  /-- The datagram that was taken is dropped. -/
  | dropPacket
  | leave
  | dropReceiver
  | dropStream
  | dropSession
deriving DecidableEq, Repr

namespace SessionTask

def spawn (peer : SocketAddr) (queue : List (List UInt8)) : SessionTask where
  peer
  queue
  current := none
  receiver := true
  stream := true
  session := true
  leaving := false

def queuedBytes (task : SessionTask) : ℕ := (task.queue.map (·.length)).sum

/-- The permits that the task and its datagrams hold. -/
def held (task : SessionTask) : ResourceBudget :=
  (if task.stream then .stream else 0) + (if task.session then .session else 0) +
    .bytes (task.queuedBytes + (task.current.map (·.length)).getD 0)

/-- Nothing of the task is left but its result. -/
def Ended (task : SessionTask) : Prop :=
  task.leaving = true ∧ task.current = none ∧ task.receiver = false ∧ task.stream = false ∧
    task.session = false

instance (task : SessionTask) : Decidable task.Ended := inferInstanceAs (Decidable (_ ∧ _))

/-- A queue with room for one more datagram, whose receiver is alive. -/
def tryReserve (task : SessionTask) : Bool :=
  task.receiver && task.queue.length < sessionQueue

def send (payload : List UInt8) (task : SessionTask) : SessionTask :=
  { task with queue := task.queue ++ [payload] }

/-- The sender is dropped; with the receiver gone as well, the datagrams go. -/
def dropSender (task : SessionTask) : SessionTask :=
  if task.receiver then task else { task with queue := [] }

/-- The bytes of the datagrams that go with the sender. -/
def leftover (task : SessionTask) : ℕ := if task.receiver then 0 else task.queuedBytes

def step (budget : ResourceBudget) (task : SessionTask) :
    TaskEvent → Option (ResourceBudget × SessionTask)
  | .take =>
    match task.queue with
    | packet :: queue =>
      if task.leaving = false ∧ task.current = none then
        some (budget, { task with queue, current := some packet })
      else none
    | [] => none
  | .dropPacket =>
    match task.current with
    | some packet => some (budget + .bytes packet.length, { task with current := none })
    | none => none
  | .leave => if task.leaving then none else some (budget, { task with leaving := true })
  | .dropReceiver =>
    if task.leaving && task.receiver then
      some (budget + .bytes task.queuedBytes, { task with queue := [], receiver := false })
    else none
  | .dropStream =>
    if task.leaving && task.stream then some (budget + .stream, { task with stream := false })
    else none
  | .dropSession =>
    if task.leaving && task.session then some (budget + .session, { task with session := false })
    else none

end SessionTask

/-! ## The loop of a tunnel -/

abbrev TaskId := ℕ

/-- Where `udp::run` stands. -/
inductive UdpStage where
  /-- In `select!`. -/
  | waiting
  /-- A datagram of a known peer has a slot in the queue of the task. -/
  | reserved (id : TaskId) (payload : List UInt8)
  /-- The datagram has its permits. -/
  | sending (id : TaskId) (payload : List UInt8)
  /-- A datagram of a new peer has arrived, and there is room for a session. -/
  | admitting (peer : SocketAddr) (payload : List UInt8)
  /-- The permit of the data stream is taken. -/
  | withStream (peer : SocketAddr) (payload : List UInt8)
  /-- The permit of the UDP session is taken as well. -/
  | withSession (peer : SocketAddr) (payload : List UInt8)
  /-- The datagram has its permits, too. -/
  | withPacket (peer : SocketAddr) (payload : List UInt8)
  /-- The datagram is dropped; the permit of the data stream is to be dropped, and before it that
  of the UDP session if it was taken. -/
  | returning (session : Bool)
  /-- The loop is left, the tasks are aborted and joined. -/
  | draining
  | stopped
deriving DecidableEq, Repr

/-- The permits that the loop itself holds. -/
def UdpStage.held : UdpStage → ResourceBudget
  | .waiting | .reserved _ _ | .admitting _ _ | .draining | .stopped => 0
  | .sending _ payload => .bytes payload.length
  | .withStream _ _ => .stream
  | .withSession _ _ => .stream + .session
  | .withPacket _ payload => .stream + .session + .bytes payload.length
  | .returning session => .stream + if session then .session else 0

structure UdpListener where
  config : ServerTunnelConfig
  /-- The senders, by the tasks that they lead to. -/
  sessions : HashMap SocketAddr TaskId
  /-- The tasks that are not joined. -/
  tasks : HashMap TaskId SessionTask
  /-- The number of tasks so far. -/
  spawned : ℕ
  stage : UdpStage

inductive UdpEvent where
  /-- `recv_from` returns a datagram. -/
  | receive (peer : SocketAddr) (payload : List UInt8)
  /-- The loop makes the next operation on a queue or a semaphore. -/
  | proceed
  | task (id : TaskId) (e : TaskEvent)
  /-- `join_next` returns the result of a task. -/
  | join (id : TaskId)
  /-- The loop is cancelled, or `recv_from` fails. -/
  | cancel
  | finish
deriving DecidableEq, Repr

namespace UdpListener

def start (config : ServerTunnelConfig) : UdpListener := ⟨config, ∅, ∅, 0, .waiting⟩

/-- The permits of a listener: those of its loop and those of its tasks. -/
def held (l : UdpListener) : ResourceBudget := l.stage.held + l.tasks.sumOf (·.held)

/-- `Sender::try_reserve` on the queue of a task. -/
def tryReserve (l : UdpListener) (id : TaskId) : Bool :=
  ((l.tasks.lookup id).map (·.tryReserve)).getD false

def receive (l : UdpListener) (peer : SocketAddr) (payload : List UInt8) : UdpListener :=
  match l.sessions.lookup peer with
  | some id => if l.tryReserve id then { l with stage := .reserved id payload } else l
  | none =>
    if l.config.maxUdpSessions ≤ l.sessions.size then l
    else { l with stage := .admitting peer payload }

/-- The new task, whose queue holds the first datagram. -/
def insertTask (l : UdpListener) (peer : SocketAddr) (queue : List (List UInt8)) : UdpListener :=
  { l with
    sessions := l.sessions.insert peer l.spawned
    tasks := l.tasks.insert l.spawned (.spawn peer queue)
    spawned := l.spawned + 1
    stage := .waiting }

/-- `Sender::try_send` on a new queue. -/
def trySend (payload : List UInt8) : Option (List (List UInt8)) :=
  if 0 < sessionQueue then some [payload] else none

def proceed (budget : ResourceBudget) (l : UdpListener) : Option (ResourceBudget × UdpListener) :=
  match l.stage with
  | .reserved id payload =>
    match budget.tryQueueUdpBytes payload.length with
    | some budget => some (budget, { l with stage := .sending id payload })
    | none => some (budget, { l with stage := .waiting })
  | .sending id payload =>
    some (budget, { l with tasks := l.tasks.modify id (.send payload), stage := .waiting })
  | .admitting peer payload =>
    match budget.tryDataStream with
    | some budget => some (budget, { l with stage := .withStream peer payload })
    | none => some (budget, { l with stage := .waiting })
  | .withStream peer payload =>
    match budget.tryUdpSession with
    | some budget => some (budget, { l with stage := .withSession peer payload })
    | none => some (budget, { l with stage := .returning false })
  | .withSession peer payload =>
    match budget.tryQueueUdpBytes payload.length with
    | some budget => some (budget, { l with stage := .withPacket peer payload })
    | none => some (budget, { l with stage := .returning true })
  | .withPacket peer payload =>
    match trySend payload with
    | some queue => some (budget, l.insertTask peer queue)
    | none => some (budget + .bytes payload.length, { l with stage := .returning true })
  | .returning true => some (budget + .session, { l with stage := .returning false })
  | .returning false => some (budget + .stream, { l with stage := .waiting })
  | .waiting | .draining | .stopped => none

/-- `sessions.remove`, which drops the sender. -/
def removeSession (budget : ResourceBudget) (l : UdpListener) (peer : SocketAddr) :
    ResourceBudget × UdpListener :=
  match l.sessions.lookup peer with
  | some id =>
    (budget + .bytes (((l.tasks.lookup id).map (·.leftover)).getD 0),
      { l with
        sessions := l.sessions.erase peer
        tasks := l.tasks.modify id .dropSender })
  | none => (budget, l)

def step (budget : ResourceBudget) (l : UdpListener) :
    UdpEvent → Option (ResourceBudget × UdpListener)
  | .receive peer payload =>
    if l.stage = .waiting ∧ payload.length ≤ maxDatagram then some (budget, l.receive peer payload)
    else none
  | .proceed => l.proceed budget
  | .task id e =>
    match l.tasks.lookup id with
    | some task =>
      match task.step budget e with
      | some (budget, task) => some (budget, { l with tasks := l.tasks.insert id task })
      | none => none
    | none => none
  | .join id =>
    match l.tasks.lookup id with
    | some task =>
      if task.Ended then
        match l.stage with
        | .waiting =>
          let (budget, l) := l.removeSession budget task.peer
          some (budget, { l with tasks := l.tasks.erase id })
        | .draining => some (budget, { l with tasks := l.tasks.erase id })
        | _ => none
      else none
    | none => none
  | .cancel =>
    if l.stage = .waiting then
      some (budget + l.tasks.sumOf (fun task => .bytes task.leftover),
        { l with sessions := ∅, tasks := l.tasks.mapValues .dropSender, stage := .draining })
    else none
  | .finish =>
    if l.stage = .draining ∧ l.tasks.size = 0 then some (budget, { l with stage := .stopped })
    else none

end UdpListener

/-! ## What a task holds -/

namespace SessionTask

variable {task task' : SessionTask} {budget budget' : ResourceBudget} {e : TaskEvent}

/-- A task that has not ended owns all that it got. -/
def Sound (task : SessionTask) : Prop :=
  task.leaving = false → task.receiver = true ∧ task.stream = true ∧ task.session = true

/-- What a step of a task does to the task. -/
inductive Steps (budget : ResourceBudget) (task : SessionTask) : ResourceBudget → SessionTask → Prop
  | take {packet : List UInt8} {queue : List (List UInt8)} (hqueue : task.queue = packet :: queue)
      (hcurrent : task.current = none) :
      Steps budget task budget { task with queue, current := some packet }
  | dropPacket {packet : List UInt8} (hcurrent : task.current = some packet) :
      Steps budget task (budget + .bytes packet.length) { task with current := none }
  | leave : Steps budget task budget { task with leaving := true }
  | dropReceiver (hleaving : task.leaving = true) :
      Steps budget task (budget + .bytes task.queuedBytes)
        { task with queue := [], receiver := false }
  | dropStream (hleaving : task.leaving = true) (hstream : task.stream = true) :
      Steps budget task (budget + .stream) { task with stream := false }
  | dropSession (hleaving : task.leaving = true) (hsession : task.session = true) :
      Steps budget task (budget + .session) { task with session := false }

lemma steps_of_step (h : task.step budget e = some (budget', task')) :
    task.Steps budget budget' task' := by
  cases e with
  | take =>
    simp only [step] at h
    split at h
    · rename_i packet queue hqueue
      obtain ⟨⟨-, hcurrent⟩, h⟩ := Option.ite_none_right_eq_some.mp h
      cases h
      exact .take hqueue hcurrent
    · cases h
  | dropPacket =>
    simp only [step] at h
    split at h
    · rename_i packet hcurrent
      cases h
      exact .dropPacket hcurrent
    · cases h
  | leave =>
    obtain ⟨-, h⟩ := Option.ite_none_left_eq_some.mp h
    cases h
    exact .leave
  | dropReceiver =>
    obtain ⟨hcond, h⟩ := Option.ite_none_right_eq_some.mp h
    cases h
    exact .dropReceiver (Bool.and_eq_true_iff.mp hcond).1
  | dropStream =>
    obtain ⟨hcond, h⟩ := Option.ite_none_right_eq_some.mp h
    cases h
    obtain ⟨hleaving, hstream⟩ := Bool.and_eq_true_iff.mp hcond
    exact .dropStream hleaving hstream
  | dropSession =>
    obtain ⟨hcond, h⟩ := Option.ite_none_right_eq_some.mp h
    cases h
    obtain ⟨hleaving, hsession⟩ := Bool.and_eq_true_iff.mp hcond
    exact .dropSession hleaving hsession

/-- What a task drops goes back to the budget. -/
lemma Steps.held (h : task.Steps budget budget' task') :
    budget' + task'.held = budget + task.held := by
  cases h with
  | take hqueue hcurrent =>
    simp [SessionTask.held, queuedBytes, hqueue, hcurrent, Nat.add_comm]
  | dropPacket hcurrent =>
    ext <;> simp [SessionTask.held, ResourceBudget.bytes, hcurrent, queuedBytes]
    omega
  | leave => rfl
  | dropReceiver hleaving =>
    ext <;> simp [SessionTask.held, ResourceBudget.bytes, queuedBytes]
    omega
  | dropStream hleaving hstream =>
    simp [SessionTask.held, queuedBytes, hstream, add_assoc]
  | dropSession hleaving hsession =>
    simp [SessionTask.held, queuedBytes, hsession, add_assoc, add_left_comm]

lemma Steps.sound (h : task.Steps budget budget' task') (hsound : task.Sound) : task'.Sound := by
  cases h with
  | take | dropPacket => exact hsound
  | leave => exact fun hfalse => nomatch hfalse
  | dropReceiver hleaving | dropStream hleaving | dropSession hleaving =>
    intro hfalse
    rw [show task.leaving = false from hfalse] at hleaving
    cases hleaving

lemma Steps.peer (h : task.Steps budget budget' task') : task'.peer = task.peer := by
  cases h <;> rfl

/-- The datagrams that go with the sender give their permits back. -/
lemma held_dropSender (task : SessionTask) :
    .bytes task.leftover + task.dropSender.held = task.held := by
  unfold leftover dropSender
  split
  · ext <;> simp [ResourceBudget.bytes]
  · ext <;> simp [held, queuedBytes, ResourceBudget.bytes]
    omega

lemma sound_dropSender (h : task.Sound) : task.dropSender.Sound := by
  unfold dropSender
  split
  · exact h
  · exact h

lemma held_send (task : SessionTask) (payload : List UInt8) :
    (task.send payload).held = .bytes payload.length + task.held := by
  have hbytes : (task.send payload).queuedBytes = payload.length + task.queuedBytes := by
    simp [send, queuedBytes, Nat.add_comm]
  have hheld : (task.send payload).held =
      (if task.stream then .stream else 0) + (if task.session then .session else 0) +
        .bytes (payload.length + task.queuedBytes + (task.current.map (·.length)).getD 0) := by
    rw [← hbytes]
    rfl
  rw [hheld, held, add_assoc payload.length, ResourceBudget.bytes_add]
  abel

lemma held_spawn (peer : SocketAddr) (payload : List UInt8) :
    (spawn peer [payload]).held = .stream + .session + .bytes payload.length := by
  simp [held, spawn, queuedBytes]

/-- An ended task holds the datagrams in its queue only. -/
lemma Ended.held (h : task.Ended) : task.held = .bytes task.queuedBytes := by
  obtain ⟨-, hcurrent, -, hstream, hsession⟩ := h
  simp [SessionTask.held, hcurrent, hstream, hsession]

end SessionTask

/-! ## What a listener holds -/

/-- The peer for which the loop is about to insert a session. -/
def UdpStage.newPeer? : UdpStage → Option SocketAddr
  | .admitting peer _ | .withStream peer _ | .withSession peer _ | .withPacket peer _ => some peer
  | _ => none

/-- The task in whose queue the loop is about to put a datagram. -/
def UdpStage.target? : UdpStage → Option TaskId
  | .reserved id _ | .sending id _ => some id
  | _ => none

/-- The loop is not left. -/
def UdpStage.Looping (stage : UdpStage) : Prop := stage ≠ .draining ∧ stage ≠ .stopped

namespace UdpListener

variable {l l' : UdpListener} {budget budget' : ResourceBudget} {e : UdpEvent}

/-- What `proceed` does: it takes or gives back permits, puts a datagram in a queue, or inserts a
session. -/
inductive Proceeds (budget : ResourceBudget) (l : UdpListener) :
    ResourceBudget → UdpListener → Prop
  | move {budget' : ResourceBudget} {stage : UdpStage}
      (hheld : budget' + stage.held = budget + l.stage.held) (hlooping : stage.Looping)
      (hpeer : ∀ peer, stage.newPeer? = some peer → l.stage.newPeer? = some peer)
      (htarget : ∀ id, stage.target? = some id → l.stage.target? = some id) :
      Proceeds budget l budget' { l with stage }
  | send {id : TaskId} {payload : List UInt8} (hstage : l.stage = .sending id payload) :
      Proceeds budget l budget
        { l with tasks := l.tasks.modify id (.send payload), stage := .waiting }
  | insert {peer : SocketAddr} {payload : List UInt8}
      (hstage : l.stage = .withPacket peer payload) :
      Proceeds budget l budget (l.insertTask peer [payload])

lemma looping_of_proceed (h : l.proceed budget = some (budget', l')) : l.stage.Looping := by
  constructor <;>
    · intro hstage
      rw [proceed, hstage] at h
      cases h

lemma proceeds_of_proceed (h : l.proceed budget = some (budget', l')) :
    l.Proceeds budget budget' l' := by
  unfold proceed at h
  split at h
  case h_1 id payload hstage =>
    split at h
    case h_1 budget'' htry =>
      cases h
      refine .move ?_ ⟨nofun, nofun⟩ nofun (fun id' hid' => ?_)
      · rw [hstage, ← ResourceBudget.add_bytes_of_try htry]
        simp [UdpStage.held]
      · rw [hstage]
        exact hid'
    case h_2 =>
      cases h
      exact .move (by rw [hstage]; rfl) ⟨nofun, nofun⟩ nofun nofun
  case h_2 id payload hstage =>
    cases h
    exact .send hstage
  case h_3 peer payload hstage =>
    split at h
    case h_1 budget'' htry =>
      cases h
      refine .move ?_ ⟨nofun, nofun⟩ (fun peer' hpeer' => ?_) nofun
      · rw [hstage, ← ResourceBudget.add_stream_of_try htry]
        simp [UdpStage.held]
      · rw [hstage]
        exact hpeer'
    case h_2 =>
      cases h
      exact .move (by rw [hstage]; rfl) ⟨nofun, nofun⟩ nofun nofun
  case h_4 peer payload hstage =>
    split at h
    case h_1 budget'' htry =>
      cases h
      refine .move ?_ ⟨nofun, nofun⟩ (fun peer' hpeer' => ?_) nofun
      · rw [hstage, ← ResourceBudget.add_session_of_try htry]
        simp only [UdpStage.held]
        abel
      · rw [hstage]
        exact hpeer'
    case h_2 =>
      cases h
      exact .move (by rw [hstage]; simp [UdpStage.held]) ⟨nofun, nofun⟩ nofun nofun
  case h_5 peer payload hstage =>
    split at h
    case h_1 budget'' htry =>
      cases h
      refine .move ?_ ⟨nofun, nofun⟩ (fun peer' hpeer' => ?_) nofun
      · rw [hstage, ← ResourceBudget.add_bytes_of_try htry]
        simp only [UdpStage.held]
        abel
      · rw [hstage]
        exact hpeer'
    case h_2 =>
      cases h
      exact .move (by rw [hstage]; rfl) ⟨nofun, nofun⟩ nofun nofun
  case h_6 peer payload hstage =>
    cases h
    exact .insert hstage
  case h_7 hstage =>
    cases h
    refine .move ?_ ⟨nofun, nofun⟩ nofun nofun
    rw [hstage]
    simp only [UdpStage.held, if_true]
    simp [add_left_comm, add_comm]
  case h_8 hstage =>
    cases h
    refine .move ?_ ⟨nofun, nofun⟩ nofun nofun
    rw [hstage]
    simp [UdpStage.held]
  all_goals cases h

/-! ## The sessions of a listener -/

/-- The map and the tasks of a listener whose loop is not left. -/
structure Linked (l : UdpListener) : Prop where
  lookup : ∀ peer id, l.sessions.lookup peer = some id ↔
    ∃ task, l.tasks.lookup id = some task ∧ task.peer = peer
  size : l.tasks.size = l.sessions.size
  bound : l.sessions.size ≤ l.config.maxUdpSessions
  room : ∀ peer, l.stage.newPeer? = some peer →
    peer ∉ l.sessions ∧ l.sessions.size < l.config.maxUdpSessions
  target : ∀ id, l.stage.target? = some id → ∃ task, l.tasks.lookup id = some task

structure Inv (l : UdpListener) : Prop where
  fresh : ∀ id ∈ l.tasks, id < l.spawned
  sound : ∀ id task, l.tasks.lookup id = some task → task.Sound
  drained : l.stage = .draining → ∀ id task, l.tasks.lookup id = some task →
    task.receiver = false → task.queue = []
  stopped : l.stage = .stopped → l.tasks = ∅
  linked : l.stage.Looping → l.Linked

lemma inv_start (config : ServerTunnelConfig) : (start config).Inv where
  fresh _ hmem := absurd hmem (AList.notMem_empty _)
  sound _ _ h := nomatch h
  drained h := nomatch h
  stopped h := nomatch h
  linked _ :=
    { lookup := fun _ _ => ⟨fun h => (nomatch h), fun ⟨_, h, _⟩ => (nomatch h)⟩
      size := rfl
      bound := Nat.zero_le _
      room := fun _ h => (nomatch h)
      target := fun _ h => (nomatch h) }

lemma Linked.move (h : l.Linked) {stage : UdpStage}
    (hroom : ∀ peer, stage.newPeer? = some peer →
      peer ∉ l.sessions ∧ l.sessions.size < l.config.maxUdpSessions)
    (htarget : ∀ id, stage.target? = some id → ∃ task, l.tasks.lookup id = some task) :
    { l with stage }.Linked :=
  ⟨h.lookup, h.size, h.bound, hroom, htarget⟩

/-- A task changes without changing its peer. -/
lemma Linked.modify (h : l.Linked) {id : TaskId} {f : SessionTask → SessionTask}
    (hpeer : ∀ task, l.tasks.lookup id = some task → (f task).peer = task.peer) :
    { l with tasks := l.tasks.modify id f }.Linked where
  lookup peer id' := by
    rw [h.lookup, AList.lookup_modify]
    by_cases hid : id' = id
    · subst hid
      rw [if_pos rfl]
      constructor
      · rintro ⟨task, hlookup, rfl⟩
        exact ⟨f task, by rw [hlookup]; rfl, hpeer task hlookup⟩
      · rintro ⟨task', hlookup, rfl⟩
        obtain ⟨task, htask, rfl⟩ := Option.map_eq_some_iff.mp hlookup
        exact ⟨task, htask, (hpeer task htask).symm⟩
    · rw [if_neg hid]
  size := by
    rw [AList.size_modify]
    exact h.size
  bound := h.bound
  room := h.room
  target id' hid' := by
    obtain ⟨task, htask⟩ := h.target id' hid'
    rw [AList.lookup_modify]
    split
    · rename_i hid
      subst hid
      exact ⟨f task, by rw [htask]; rfl⟩
    · exact ⟨task, htask⟩

lemma Inv.notMem_spawned (h : l.Inv) : l.spawned ∉ l.tasks :=
  fun hmem => absurd (h.fresh _ hmem) (Nat.lt_irrefl _)

lemma Linked.insertTask (h : l.Linked) (hfresh : l.spawned ∉ l.tasks) {peer : SocketAddr}
    (hpeer : l.stage.newPeer? = some peer) (queue : List (List UInt8)) :
    (l.insertTask peer queue).Linked where
  lookup peer' id := by
    obtain ⟨hnew, -⟩ := h.room peer hpeer
    have hnone : l.tasks.lookup l.spawned = none := AList.lookup_eq_none.mpr hfresh
    simp only [UdpListener.insertTask, AList.lookup_insert_eq]
    by_cases hp : peer' = peer
    · subst hp
      rw [if_pos rfl]
      constructor
      · intro hid
        cases hid
        exact ⟨_, if_pos rfl, rfl⟩
      · rintro ⟨task, htask, hp⟩
        split at htask
        · rename_i hid
          rw [hid]
        · have hmem := AList.mem_of_lookup ((h.lookup peer' id).mpr ⟨task, htask, hp⟩)
          exact absurd hmem hnew
    · rw [if_neg hp, h.lookup]
      constructor
      · rintro ⟨task, htask, rfl⟩
        have hid : id ≠ l.spawned := by
          rintro rfl
          rw [hnone] at htask
          cases htask
        exact ⟨task, by rw [if_neg hid]; exact htask, rfl⟩
      · rintro ⟨task, htask, rfl⟩
        split at htask
        · cases htask
          exact absurd rfl hp
        · exact ⟨task, htask, rfl⟩
  size := by
    obtain ⟨hnew, -⟩ := h.room peer hpeer
    simp only [UdpListener.insertTask]
    rw [AList.size_insert_of_notMem hfresh, AList.size_insert_of_notMem hnew, h.size]
  bound := by
    obtain ⟨hnew, hroom⟩ := h.room peer hpeer
    simp only [UdpListener.insertTask]
    rw [AList.size_insert_of_notMem hnew]
    exact hroom
  room _ h := nomatch h
  target _ h := nomatch h

/-- A task and its session are removed. -/
lemma Linked.remove (h : l.Linked) {id : TaskId} {task : SessionTask}
    {tasks : HashMap TaskId SessionTask} (htask : l.tasks.lookup id = some task)
    (hstage : l.stage = .waiting)
    (herase : tasks = l.tasks.erase id) :
    { l with sessions := l.sessions.erase task.peer, tasks }.Linked := by
  subst herase
  have hsession : l.sessions.lookup task.peer = some id := (h.lookup _ _).mpr ⟨task, htask, rfl⟩
  refine ⟨fun peer id' => ?_, ?_, (AList.size_erase_le _ _).trans h.bound, fun _ hpeer => ?_,
    fun _ hid => ?_⟩
  · simp only [AList.lookup_erase_eq]
    by_cases hpeer : peer = task.peer
    · rw [if_pos hpeer]
      refine ⟨fun h => (nomatch h), ?_⟩
      rintro ⟨task', htask', rfl⟩
      split at htask'
      · cases htask'
      · rename_i hid
        have hsession' := (h.lookup _ _).mpr ⟨task', htask', rfl⟩
        rw [hpeer, hsession] at hsession'
        exact absurd (Option.some.inj hsession').symm hid
    · rw [if_neg hpeer, h.lookup]
      refine exists_congr fun task' => and_congr_left fun hp => ?_
      split
      · rename_i hid
        subst hid
        rw [htask]
        refine ⟨fun heq => ?_, fun h => (nomatch h)⟩
        cases heq
        exact absurd hp.symm hpeer
      · rfl
  · have hsize := h.size
    have htasks := AList.size_erase_of_mem (AList.mem_of_lookup htask)
    have hsessions := AList.size_erase_of_mem (AList.mem_of_lookup hsession)
    simp only
    omega
  · rw [show l.stage = .waiting from hstage] at hpeer
    cases hpeer
  · rw [show l.stage = .waiting from hstage] at hid
    cases hid

/-! ## Steps of a listener -/

/-- What `step` allows. -/
inductive Steps (budget : ResourceBudget) (l : UdpListener) : ResourceBudget → UdpListener → Prop
  | receive {peer : SocketAddr} {payload : List UInt8} (hstage : l.stage = .waiting) :
      Steps budget l budget (l.receive peer payload)
  | proceed {budget' : ResourceBudget} {l' : UdpListener} (h : l.Proceeds budget budget' l')
      (hstage : l.stage.Looping) : Steps budget l budget' l'
  | task {budget' : ResourceBudget} {id : TaskId} {task task' : SessionTask}
      (htask : l.tasks.lookup id = some task) (h : task.Steps budget budget' task') :
      Steps budget l budget' { l with tasks := l.tasks.insert id task' }
  | join {id : TaskId} {task : SessionTask} (htask : l.tasks.lookup id = some task)
      (hended : task.Ended) (hstage : l.stage = .waiting) :
      Steps budget l (l.removeSession budget task.peer).1
        { (l.removeSession budget task.peer).2 with
          tasks := (l.removeSession budget task.peer).2.tasks.erase id }
  | drain {id : TaskId} {task : SessionTask} (htask : l.tasks.lookup id = some task)
      (hended : task.Ended) (hstage : l.stage = .draining) :
      Steps budget l budget { l with tasks := l.tasks.erase id }
  | cancel (hstage : l.stage = .waiting) :
      Steps budget l (budget + l.tasks.sumOf fun task => .bytes task.leftover)
        { l with sessions := ∅, tasks := l.tasks.mapValues .dropSender, stage := .draining }
  | finish (hstage : l.stage = .draining) (hempty : l.tasks = ∅) :
      Steps budget l budget { l with stage := .stopped }

lemma steps_of_step (h : l.step budget e = some (budget', l')) : l.Steps budget budget' l' := by
  cases e with
  | receive peer payload =>
    obtain ⟨⟨hstage, -⟩, h⟩ := Option.ite_none_right_eq_some.mp h
    cases h
    exact .receive hstage
  | proceed => exact .proceed (proceeds_of_proceed h) (looping_of_proceed h)
  | task id e =>
    simp only [step] at h
    split at h
    · rename_i task htask
      split at h
      · rename_i budget'' task' hstep
        cases h
        exact .task htask (SessionTask.steps_of_step hstep)
      · cases h
    · cases h
  | join id =>
    simp only [step] at h
    split at h
    · rename_i task htask
      obtain ⟨hended, h⟩ := Option.ite_none_right_eq_some.mp h
      split at h
      · rename_i hstage
        cases h
        exact .join htask hended hstage
      · rename_i hstage
        cases h
        exact .drain htask hended hstage
      · cases h
    · cases h
  | cancel =>
    obtain ⟨hstage, h⟩ := Option.ite_none_right_eq_some.mp h
    cases h
    exact .cancel hstage
  | finish =>
    obtain ⟨⟨hstage, hempty⟩, h⟩ := Option.ite_none_right_eq_some.mp h
    cases h
    exact .finish hstage (AList.ext (List.eq_nil_of_length_eq_zero hempty))

/-- A datagram that arrives is dropped at once or changes the stage. -/
lemma receive_cases (l : UdpListener) (peer : SocketAddr) (payload : List UInt8) :
    l.receive peer payload = l ∨
    (∃ id, l.sessions.lookup peer = some id ∧
      l.receive peer payload = { l with stage := .reserved id payload }) ∨
    (l.sessions.lookup peer = none ∧ l.sessions.size < l.config.maxUdpSessions ∧
      l.receive peer payload = { l with stage := .admitting peer payload }) := by
  unfold receive
  split
  · rename_i id hid
    split
    · exact Or.inr (Or.inl ⟨id, hid, rfl⟩)
    · exact Or.inl rfl
  · rename_i hnone
    split
    · exact Or.inl rfl
    · rename_i hroom
      exact Or.inr (Or.inr ⟨hnone, Nat.lt_of_not_le hroom, rfl⟩)

lemma receive_held (hstage : l.stage = .waiting) (peer : SocketAddr) (payload : List UInt8) :
    (l.receive peer payload).held = l.held := by
  rcases receive_cases l peer payload with heq | ⟨id, -, heq⟩ | ⟨-, -, heq⟩
  · rw [heq]
  · rw [heq, held, held, hstage]
    rfl
  · rw [heq, held, held, hstage]
    rfl

lemma Proceeds.held (h : l.Proceeds budget budget' l') (hinv : l.Inv)
    (hlooping : l.stage.Looping) : budget' + l'.held = budget + l.held := by
  cases h with
  | move hheld => rw [UdpListener.held, UdpListener.held, ← add_assoc, ← add_assoc, hheld]
  | @send id payload hstage =>
    obtain ⟨task, htask⟩ := (hinv.linked hlooping).target id (by rw [hstage]; rfl)
    have hsum := AList.add_sumOf_insert (f := SessionTask.held) htask
      (show 0 + (task.send payload).held = .bytes payload.length + task.held by
        rw [zero_add, SessionTask.held_send])
    rw [zero_add] at hsum
    rw [UdpListener.held, UdpListener.held, hstage, AList.modify, htask]
    simp only [UdpStage.held, zero_add]
    rw [hsum]
  | @insert peer payload hstage =>
    rw [UdpListener.held, UdpListener.held, hstage]
    simp only [insertTask, UdpStage.held, zero_add]
    rw [AList.sumOf_insert_of_notMem hinv.notMem_spawned, SessionTask.held_spawn]

/-- What the ended task and its queue hold is given back when its session is removed. -/
lemma removeSession_join (budget : ResourceBudget) (hlinked : l.Linked) {id : TaskId}
    {task : SessionTask} (htask : l.tasks.lookup id = some task) (hended : task.Ended) :
    (l.removeSession budget task.peer).1 = budget + task.held ∧
      { (l.removeSession budget task.peer).2 with
        tasks := (l.removeSession budget task.peer).2.tasks.erase id } =
      { l with sessions := l.sessions.erase task.peer, tasks := l.tasks.erase id } := by
  have hsession : l.sessions.lookup task.peer = some id :=
    (hlinked.lookup _ _).mpr ⟨task, htask, rfl⟩
  have hleftover : task.leftover = task.queuedBytes := by
    rw [SessionTask.leftover, hended.2.2.1]
    rfl
  simp only [removeSession, hsession, htask, AList.modify, AList.erase_insert_self]
  exact ⟨by rw [hended.held, ← hleftover]; rfl, trivial⟩

lemma Steps.held (h : l.Steps budget budget' l') (hinv : l.Inv) :
    budget' + l'.held = budget + l.held := by
  cases h with
  | receive hstage => rw [receive_held hstage]
  | proceed h hstage => exact h.held hinv hstage
  | task htask h =>
    rw [UdpListener.held, UdpListener.held, add_left_comm, add_left_comm budget,
      AList.add_sumOf_insert htask h.held]
  | join htask hended hstage =>
    have hlooping : l.stage.Looping := by
      rw [hstage]
      exact ⟨nofun, nofun⟩
    obtain ⟨hbudget, heq⟩ := removeSession_join budget (hinv.linked hlooping) htask hended
    rw [heq, hbudget, UdpListener.held, UdpListener.held, AList.sumOf_eq_add_erase htask]
    abel
  | @drain id task htask hended hstage =>
    have hqueue := hinv.drained hstage id task htask hended.2.2.1
    have hzero : task.held = 0 := by
      rw [hended.held, SessionTask.queuedBytes, hqueue]
      rfl
    rw [UdpListener.held, UdpListener.held, AList.sumOf_eq_add_erase htask, hzero, zero_add]
  | cancel hstage =>
    have hsum : l.tasks.sumOf (·.held) = l.tasks.sumOf (fun task => .bytes task.leftover) +
        (l.tasks.mapValues .dropSender).sumOf (·.held) := by
      rw [AList.sumOf_mapValues, ← AList.sumOf_add]
      exact AList.sumOf_congr fun _ task _ => (SessionTask.held_dropSender task).symm
    rw [UdpListener.held, UdpListener.held, hsum, hstage]
    simp only [UdpStage.held, zero_add, add_assoc]
  | finish hstage =>
    rw [UdpListener.held, UdpListener.held, hstage]
    rfl

lemma Inv.of_stage (h : l.Inv) {stage : UdpStage} (hstage : stage.Looping)
    (hlinked : { l with stage }.Linked) : { l with stage }.Inv where
  fresh := h.fresh
  sound := h.sound
  drained hdraining := absurd hdraining hstage.1
  stopped hstopped := absurd hstopped hstage.2
  linked _ := hlinked

lemma looping_waiting (hstage : l.stage = .waiting) : l.stage.Looping := by
  rw [hstage]
  exact ⟨nofun, nofun⟩

lemma Inv.receive (h : l.Inv) (hstage : l.stage = .waiting) (peer : SocketAddr)
    (payload : List UInt8) : (l.receive peer payload).Inv := by
  have hlinked := h.linked (looping_waiting hstage)
  rcases receive_cases l peer payload with heq | ⟨id, hid, heq⟩ | ⟨hnone, hroom, heq⟩
  · rw [heq]
    exact h
  · rw [heq]
    refine h.of_stage ⟨nofun, nofun⟩ (hlinked.move nofun fun id' hid' => ?_)
    cases hid'
    obtain ⟨task, htask, -⟩ := (hlinked.lookup peer id).mp hid
    exact ⟨task, htask⟩
  · rw [heq]
    refine h.of_stage ⟨nofun, nofun⟩ (hlinked.move (fun peer' hpeer' => ?_) nofun)
    cases hpeer'
    exact ⟨AList.lookup_eq_none.mp hnone, hroom⟩

/-- The tasks after one of them has changed. -/
lemma Inv.modify (h : l.Inv) {id : TaskId} {f : SessionTask → SessionTask}
    (hpeer : ∀ task, l.tasks.lookup id = some task → (f task).peer = task.peer)
    (hsound : ∀ task, l.tasks.lookup id = some task → task.Sound → (f task).Sound)
    (hdrained : l.stage = .draining → ∀ task, l.tasks.lookup id = some task →
      (f task).receiver = false → (f task).queue = []) :
    { l with tasks := l.tasks.modify id f }.Inv where
  fresh id' hmem := h.fresh id' (AList.mem_modify.mp hmem)
  sound id' task' htask' := by
    rw [AList.lookup_modify] at htask'
    split at htask'
    · obtain ⟨task, htask, rfl⟩ := Option.map_eq_some_iff.mp htask'
      exact hsound task htask (h.sound _ _ htask)
    · exact h.sound id' task' htask'
  drained hstage id' task' htask' := by
    rw [AList.lookup_modify] at htask'
    split at htask'
    · obtain ⟨task, htask, rfl⟩ := Option.map_eq_some_iff.mp htask'
      exact hdrained hstage task htask
    · exact h.drained hstage id' task' htask'
  stopped hstage := by
    have hempty := h.stopped hstage
    simp only [hempty]
    rfl
  linked hlooping := (h.linked hlooping).modify hpeer

lemma Inv.insertTask (h : l.Inv) {peer : SocketAddr} (hlooping : l.stage.Looping)
    (hpeer : l.stage.newPeer? = some peer) (queue : List (List UInt8)) :
    (l.insertTask peer queue).Inv where
  fresh id hmem := by
    rcases (AList.mem_insert _).mp hmem with rfl | hmem
    · exact Nat.lt_succ_self _
    · exact Nat.lt_succ_of_lt (h.fresh id hmem)
  sound id task htask := by
    simp only [UdpListener.insertTask, AList.lookup_insert_eq] at htask
    split at htask
    · cases htask
      exact fun _ => ⟨rfl, rfl, rfl⟩
    · exact h.sound id task htask
  drained hstage := nomatch hstage
  stopped hstage := nomatch hstage
  linked _ := (h.linked hlooping).insertTask h.notMem_spawned hpeer queue

lemma Inv.proceeds (h : l.Inv) (hlooping : l.stage.Looping) (hp : l.Proceeds budget budget' l') :
    l'.Inv := by
  have hlinked := h.linked hlooping
  cases hp with
  | move hheld hstage hpeer htarget =>
    exact h.of_stage hstage (hlinked.move (fun peer hp => hlinked.room peer (hpeer peer hp))
      fun id hid => hlinked.target id (htarget id hid))
  | @send id payload hstage =>
    have hsend := h.modify (f := .send payload) (fun _ (_ : l.tasks.lookup id = _) => rfl)
      (fun _ _ hsound => hsound) fun hdraining => absurd hdraining hlooping.1
    exact hsend.of_stage ⟨nofun, nofun⟩ ((hsend.linked hlooping).move nofun nofun)
  | insert hstage => exact h.insertTask hlooping (by rw [hstage]; rfl) _

lemma Inv.task (h : l.Inv) {id : TaskId} {task task' : SessionTask}
    (htask : l.tasks.lookup id = some task) (hs : task.Steps budget budget' task') :
    { l with tasks := l.tasks.insert id task' }.Inv := by
  have hinsert : l.tasks.insert id task' = l.tasks.modify id fun _ => task' := by
    rw [AList.modify, htask]
  rw [hinsert]
  refine h.modify (fun task₁ htask₁ => ?_) (fun task₁ htask₁ hsound => ?_)
    fun hstage task₁ htask₁ hreceiver => ?_
  · rw [htask] at htask₁
    cases htask₁
    exact hs.peer
  · rw [htask] at htask₁
    cases htask₁
    exact hs.sound hsound
  · have hqueue := h.drained hstage id task htask
    cases hs with
    | take hhead =>
      rw [hqueue hreceiver] at hhead
      cases hhead
    | dropReceiver => rfl
    | dropPacket | leave | dropStream | dropSession => exact hqueue hreceiver

lemma Steps.inv (h : l.Steps budget budget' l') (hinv : l.Inv) : l'.Inv := by
  cases h with
  | receive hstage => exact hinv.receive hstage _ _
  | proceed h hstage => exact hinv.proceeds hstage h
  | task htask h => exact hinv.task htask h
  | @join id task htask hended hstage =>
    have hlinked := hinv.linked (looping_waiting hstage)
    rw [(removeSession_join budget hlinked htask hended).2]
    refine ⟨fun id' hmem => hinv.fresh id' (AList.mem_erase.mp hmem).2, fun id' task' htask' => ?_,
      fun hdraining => ?_, fun hstopped => ?_, fun _ => hlinked.remove htask hstage rfl⟩
    · rw [AList.lookup_erase_eq] at htask'
      split at htask'
      · cases htask'
      · exact hinv.sound id' task' htask'
    · rw [show l.stage = .draining from hdraining] at hstage
      cases hstage
    · rw [show l.stage = .stopped from hstopped] at hstage
      cases hstage
  | @drain id task htask hended hstage =>
    have hlookup : ∀ id' task', (l.tasks.erase id).lookup id' = some task' →
        l.tasks.lookup id' = some task' := by
      intro id' task' htask'
      rw [AList.lookup_erase_eq] at htask'
      split at htask'
      · cases htask'
      · exact htask'
    refine ⟨fun id' hmem => hinv.fresh id' (AList.mem_erase.mp hmem).2,
      fun id' task' htask' => hinv.sound id' task' (hlookup id' task' htask'),
      fun hdraining id' task' htask' => hinv.drained hstage id' task' (hlookup id' task' htask'),
      fun hstopped => ?_, fun hlooping => absurd hstage hlooping.1⟩
    rw [show l.stage = .stopped from hstopped] at hstage
    cases hstage
  | cancel hstage =>
    have hlookup : ∀ id task', (l.tasks.mapValues .dropSender).lookup id = some task' →
        ∃ task, l.tasks.lookup id = some task ∧ task.dropSender = task' := by
      intro id task' htask'
      rw [AList.lookup_mapValues] at htask'
      exact Option.map_eq_some_iff.mp htask'
    refine ⟨fun id hmem => ?_, fun id task' htask' => ?_, fun _ id task' htask' hreceiver => ?_,
      fun hstopped => (nomatch hstopped), fun hlooping => absurd rfl hlooping.1⟩
    · obtain ⟨task', htask'⟩ := AList.lookup_of_mem hmem
      obtain ⟨task, htask, -⟩ := hlookup id task' htask'
      exact hinv.fresh id (AList.mem_of_lookup htask)
    · obtain ⟨task, htask, rfl⟩ := hlookup id task' htask'
      exact SessionTask.sound_dropSender (hinv.sound id task htask)
    · obtain ⟨task, htask, rfl⟩ := hlookup id task' htask'
      unfold SessionTask.dropSender at hreceiver ⊢
      split
      · rename_i halive
        rw [if_pos halive, halive] at hreceiver
        cases hreceiver
      · rfl
  | finish hstage hempty =>
    exact ⟨hinv.fresh, hinv.sound, fun h => (nomatch h), fun _ => hempty,
      fun hlooping => absurd rfl hlooping.2⟩

end UdpListener

end GateRust.Tunnel
