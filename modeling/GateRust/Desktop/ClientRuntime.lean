/-
# The runtime of the desktop client

`ClientRuntime` of the crate `gaterust-client`: the login, which is one operation at a time, and
the background task that a successful login starts.  The receiver of the commands is moved into
the first task, and its handle stays in place after the task has ended.

The task is the client of `run_client_loop`.  Its steps, those of the calls of `login`, and the
calls of `cancel_login` and `shutdown` come in any order.  What a login does to the files is left
to the model of its trust; here its result is given.
-/
import GateRust.Lib.Machine
import GateRust.Tunnel.Client

namespace GateRust.Desktop

open Machine
open Tunnel (Client ClientConfig TunnelError)

inductive ClientError where
  | invalidOperation (message : String)
  | loginTimeout
  | loginCancelled
  | shutdownTimeout
  | tunnel (error : TunnelError)
  | task (message : String)
deriving DecidableEq, Repr

def ClientError.display : ClientError → String
  | .invalidOperation message => message
  | .loginTimeout => "获取配置超过 60 秒，已停止本次获取"
  | .loginCancelled => "已取消获取连接配置"
  | .shutdownTimeout => "客户端运行时未在退出期限内停止"
  | .tunnel error => error.display
  | .task message => "等待客户端运行时任务失败: " ++ message

/-- How far the call of `login` has come that holds the operation. -/
inductive LoginStage where
  /-- Up to the last call of `check_login_state`. -/
  | preparing
  /-- The configuration is being saved. -/
  | saving
  /-- The configuration is saved, and `activate` is next. -/
  | saved
  /-- `finish_login` is next. -/
  | finishing (result : Except ClientError Unit)
deriving DecidableEq

/-- The active operation.  Its call is none when the future of the call was dropped. -/
structure LoginOperation where
  cancelled : Bool
  call : Option LoginStage
deriving DecidableEq

/-- A spawned task: the client, and whether it has ended before its loop, because the watcher or
the identity could not be made, or with a panic. -/
structure SpawnedTask where
  client : Client
  failed : Bool

def SpawnedTask.finished (t : SpawnedTask) : Bool :=
  t.failed || match t.client.phase with
    | .stopped => true
    | _ => false

structure ManagedTask where
  /-- The receiver is there. -/
  commands : Bool
  /-- The position of the task in `tasks`. -/
  handle : Option ℕ

/-- The runtime, with all tasks that it has spawned. -/
structure ClientRuntime where
  shutdown : Bool
  task : ManagedTask
  login : Option LoginOperation
  tasks : List SpawnedTask

namespace ClientRuntime

def start : ClientRuntime where
  shutdown := false
  task := ⟨true, none⟩
  login := none
  tasks := []

variable (r : ClientRuntime)

def beginLogin : Except ClientError ClientRuntime :=
  match r.login with
  | some _ => .error (.invalidOperation "正在获取连接配置，请稍候")
  | none => .ok { r with login := some ⟨false, some .preparing⟩ }

/-- The new task loads the configuration file as it finds it. -/
def activate (deviceId : String) (file : Except String ClientConfig) : ClientRuntime :=
  if r.task.handle.isSome || r.shutdown then r
  else if r.task.commands then { r with
    task := ⟨false, some r.tasks.length⟩
    tasks := r.tasks ++ [⟨.start true deviceId file, false⟩] }
  else r

def finishLogin : ClientRuntime := { r with login := none }

/-- The stage of the call that holds the operation. -/
def stage : Option LoginStage := r.login.bind (·.call)

def setStage (stage : Option LoginStage) : ClientRuntime :=
  { r with login := r.login.map ({ · with call := stage }) }

def cancel : ClientRuntime :=
  { r with login := r.login.map ({ · with cancelled := true }) }

/-! ## Events -/

inductive Event where
  /-- A call of `login` begins; without the operation it returns an error. -/
  | login
  /-- The last check before the configuration is saved has passed. -/
  | checked
  /-- A check, the validation, the download or the verification has failed. -/
  | loginFails (error : ClientError)
  | saved (result : Except ClientError Unit)
  | activate (deviceId : String) (file : Except String ClientConfig)
  /-- `finish_login`, after which `login` returns the result. -/
  | loginReturns (result : Except ClientError Unit)
  /-- The future of the call is dropped. -/
  | loginDropped
  | cancelLogin
  | shutdown
  /-- `shutdown` has taken the handle. -/
  | handleTaken
  /-- The grace period is over. -/
  | aborted
  /-- A step of a task. -/
  | task (number : ℕ) (event : Client.Event)
  | taskFails (number : ℕ)

def updateTask (number : ℕ) (t : SpawnedTask) : ClientRuntime :=
  { r with tasks := r.tasks.set number t }

/-- The shutdown of a task is that of the runtime. -/
def permits : Client.Event → Bool
  | .shutdown => r.shutdown
  | _ => true

/-- A task steps until it has finished. -/
def stepTask (number : ℕ) (event : Client.Event) : Option ClientRuntime := do
  let t ← r.tasks[number]?
  guard (!t.finished && r.permits event)
  let client ← t.client.step event
  return r.updateTask number { t with client }

def step : Event → Option ClientRuntime
  | .login =>
    match r.beginLogin with
    | .ok r' => some r'
    | .error _ => some r
  | .checked => do
    guard (r.stage = some .preparing ∧ r.login.all fun operation => !operation.cancelled)
    return r.setStage (some .saving)
  | .loginFails error => do
    guard (r.stage = some .preparing)
    return r.setStage (some (.finishing (.error error)))
  | .saved result => do
    guard (r.stage = some .saving)
    return r.setStage (some (match result with
      | .ok () => .saved
      | .error error => .finishing (.error error)))
  | .activate deviceId file => do
    guard (r.stage = some .saved)
    return (r.activate deviceId file).setStage (some (.finishing (.ok ())))
  | .loginReturns result => do
    guard (r.stage = some (.finishing result))
    return r.finishLogin
  | .loginDropped => some (r.setStage none)
  | .cancelLogin => some r.cancel
  | .shutdown => some { r.cancel with shutdown := true }
  | .handleTaken => do
    guard r.shutdown
    return { r with task := { r.task with handle := none } }
  | .aborted => do
    guard r.shutdown
    return { r with tasks := r.tasks.map ({ · with failed := true }) }
  | .task number event => r.stepTask number event
  | .taskFails number => do
    let t ← r.tasks[number]?
    return r.updateTask number { t with failed := true }

/-- A managed client task that has not finished is running. -/
def Running : Prop := ∃ t ∈ r.tasks, t.finished = false

/-- No task has ended so far. -/
def NoneEnded : Prop := ∀ t ∈ r.tasks, t.finished = false

instance : Decidable r.Running := inferInstanceAs (Decidable (∃ t ∈ r.tasks, _))

instance : Decidable r.NoneEnded := inferInstanceAs (Decidable (∀ t ∈ r.tasks, _))

/-! ## One task at most -/

variable {r} {r' : ClientRuntime}

/-- The receiver is there until the first task is spawned, which stays the only one; a login that
is about to return without an error finds a task, unless the runtime is shut down. -/
structure Invariant (r : ClientRuntime) : Prop where
  unspawned : r.task.commands = true → r.tasks = [] ∧ r.task.handle = none
  spawned : r.task.commands = false → r.tasks.length = 1
  activated : r.stage = some (.finishing (.ok ())) → r.shutdown = true ∨ r.task.commands = false

lemma invariant_start : start.Invariant :=
  ⟨fun _ => ⟨rfl, rfl⟩, by simp [start], by simp [start, stage]⟩

@[simp] lemma stage_setStage (stage : Option LoginStage) :
    (r.setStage stage).stage = if r.login.isSome then stage else none := by
  cases hlogin : r.login <;> simp [setStage, ClientRuntime.stage, hlogin]

@[simp] lemma stage_cancel : r.cancel.stage = r.stage := by
  cases hlogin : r.login <;> simp [cancel, stage, hlogin]

/-- A step that moves on the login and does not activate the task. -/
lemma Invariant.setStage (h : r.Invariant) {stage : Option LoginStage}
    (hstage : stage ≠ some (.finishing (.ok ()))) : (r.setStage stage).Invariant := by
  refine ⟨h.unspawned, h.spawned, fun hactive => ?_⟩
  rw [stage_setStage] at hactive
  split at hactive
  · exact absurd hactive hstage
  · cases hactive

/-- A step of the tasks. -/
lemma Invariant.withTasks (h : r.Invariant) {tasks : List SpawnedTask}
    (hlength : tasks.length = r.tasks.length) : Invariant { r with tasks } := by
  refine ⟨fun hcommands => ?_, fun hcommands => ?_, h.activated⟩
  · obtain ⟨hnil, hhandle⟩ := h.unspawned hcommands
    rw [hnil, List.length_nil] at hlength
    exact ⟨List.length_eq_zero_iff.mp hlength, hhandle⟩
  · exact hlength.trans (h.spawned hcommands)

lemma Invariant.activate (h : r.Invariant) (deviceId : String) (file : Except String ClientConfig)
    (stage : Option LoginStage) : ((r.activate deviceId file).setStage stage).Invariant := by
  unfold ClientRuntime.activate
  split
  case isTrue hactive =>
    refine ⟨h.unspawned, h.spawned, fun _ => ?_⟩
    rcases Bool.or_eq_true_iff.mp hactive with hhandle | hshutdown
    · cases hcommands : r.task.commands with
      | false => exact .inr hcommands
      | true =>
        rw [(h.unspawned hcommands).2] at hhandle
        cases hhandle
    · exact .inl hshutdown
  case isFalse hidle =>
    split
    case isTrue hcommands =>
      obtain ⟨hnil, -⟩ := h.unspawned hcommands
      refine ⟨fun hnew => ?_, fun _ => ?_, fun _ => .inr rfl⟩
      · exact absurd hnew Bool.false_ne_true
      · show (r.tasks ++ [_]).length = 1
        rw [hnil]
        rfl
    case isFalse hcommands =>
      exact ⟨h.unspawned, h.spawned, fun _ => .inr (Bool.not_eq_true _ ▸ hcommands)⟩

lemma Invariant.step {e : Event} (h : r.Invariant) (hstep : r.step e = some r') :
    r'.Invariant := by
  cases e with
  | login =>
    simp only [ClientRuntime.step, beginLogin] at hstep
    cases hlogin : r.login with
    | none =>
      rw [hlogin] at hstep
      cases hstep
      exact ⟨h.unspawned, h.spawned, fun hactive => by cases hactive⟩
    | some operation =>
      rw [hlogin] at hstep
      cases hstep
      exact h
  | checked | loginFails =>
    simp only [ClientRuntime.step, Option.bind_eq_bind, Option.bind_eq_some_iff] at hstep
    obtain ⟨-, -, heq⟩ := hstep
    cases heq
    exact h.setStage (by simp)
  | saved result =>
    simp only [ClientRuntime.step, Option.bind_eq_bind, Option.bind_eq_some_iff] at hstep
    obtain ⟨-, -, heq⟩ := hstep
    cases heq
    exact h.setStage (by cases result <;> simp)
  | activate deviceId file =>
    simp only [ClientRuntime.step, Option.bind_eq_bind, Option.bind_eq_some_iff] at hstep
    obtain ⟨-, -, heq⟩ := hstep
    cases heq
    exact h.activate deviceId file _
  | loginReturns result =>
    simp only [ClientRuntime.step, Option.bind_eq_bind, Option.bind_eq_some_iff] at hstep
    obtain ⟨-, -, heq⟩ := hstep
    cases heq
    exact ⟨h.unspawned, h.spawned, fun hactive => by cases hactive⟩
  | loginDropped =>
    cases hstep
    exact h.setStage (by simp)
  | cancelLogin =>
    cases hstep
    exact ⟨h.unspawned, h.spawned, fun hactive => h.activated (stage_cancel ▸ hactive)⟩
  | shutdown =>
    cases hstep
    exact ⟨h.unspawned, h.spawned, fun _ => .inl rfl⟩
  | handleTaken =>
    simp only [ClientRuntime.step, Option.bind_eq_bind, Option.bind_eq_some_iff] at hstep
    obtain ⟨-, -, heq⟩ := hstep
    cases heq
    exact ⟨fun hcommands => ⟨(h.unspawned hcommands).1, rfl⟩, h.spawned, h.activated⟩
  | aborted =>
    simp only [ClientRuntime.step, Option.bind_eq_bind, Option.bind_eq_some_iff] at hstep
    obtain ⟨-, -, heq⟩ := hstep
    cases heq
    exact h.withTasks (List.length_map _)
  | task number event =>
    simp only [ClientRuntime.step, stepTask, Option.bind_eq_bind, Option.bind_eq_some_iff] at hstep
    obtain ⟨t, -, -, -, client, -, heq⟩ := hstep
    cases heq
    exact h.withTasks List.length_set
  | taskFails number =>
    simp only [ClientRuntime.step, Option.bind_eq_bind, Option.bind_eq_some_iff] at hstep
    obtain ⟨t, -, heq⟩ := hstep
    cases heq
    exact h.withTasks List.length_set

/-- **A login does not start a second task.**  In every run, when `login` returns without an error
and the runtime is not shut down, a task that has not finished is running exactly when no task has
ended so far. -/
theorem running_after_login_iff (h : Reach step Always start r)
    (hstep : r.step (.loginReturns (.ok ())) = some r') (hshutdown : r'.shutdown = false) :
    r'.Running ↔ r.NoneEnded := by
  have hinv : r.Invariant := h.invariant invariant_start fun _ _ _ hs _ hstep => hs.step hstep
  simp only [step, Option.bind_eq_bind, Option.bind_eq_some_iff, Option.guard_eq_some'] at hstep
  obtain ⟨-, hstage, heq⟩ := hstep
  cases heq
  have hspawned : r.task.commands = false := by
    rcases hinv.activated hstage with hdown | hspawned
    · exact absurd (hdown.symm.trans hshutdown) (by simp)
    · exact hspawned
  obtain ⟨t, htasks⟩ := List.length_eq_one_iff.mp (hinv.spawned hspawned)
  have hsame : r.finishLogin.tasks = [t] := htasks
  simp [Running, NoneEnded, hsame, htasks]

/-! ## Two logins -/

/-- A login up to its return, with what the first load of the file gives the task. -/
def sampleLogin : List Event :=
  [.login, .checked, .saved (.ok ()), .activate "desktop" (.ok (Client.sampleConfig []))]

/-- The task connects to the server. -/
def sampleConnection : List Event := Client.connectEvents.map (.task 0)

/-- The second login finds the task of the first one. -/
theorem second_login_keeps_task :
    ∃ r r', Reach step Always start r ∧ r.step (.loginReturns (.ok ())) = some r' ∧
      r'.Running := by
  have hrun : (exec step Always start (sampleLogin ++ .loginReturns (.ok ()) ::
      (sampleConnection ++ sampleLogin))).map (fun r =>
        ((r.step (.loginReturns (.ok ()))).map (·.shutdown), decide r.NoneEnded)) =
      some (some false, true) := by decide +kernel
  obtain ⟨r, hr, hview⟩ := Option.map_eq_some_iff.mp hrun
  obtain ⟨hstep, hnone⟩ := Prod.mk.inj hview
  obtain ⟨r', hr', hshutdown⟩ := Option.map_eq_some_iff.mp hstep
  exact ⟨r, r', reach_of_exec hr, hr', (running_after_login_iff (reach_of_exec hr) hr'
    hshutdown).mpr (of_decide_eq_true hnone)⟩

/-- The administrator disconnects the client, which ends the task; the next login succeeds, and
nothing is running. -/
theorem login_after_disconnect_starts_nothing :
    ¬ ∀ r r', Reach step Always start r → r.step (.loginReturns (.ok ())) = some r' →
      r'.shutdown = false → r'.Running := by
  intro hrunning
  have hrun : (exec step Always start (sampleLogin ++ .loginReturns (.ok ()) ::
      (sampleConnection ++ .task 0 (.closed (.quinnConnection "closed by peer: 5") true) ::
        sampleLogin))).map (fun r => (r.step (.loginReturns (.ok ()))).map fun r' =>
          (r'.shutdown, decide r'.Running)) = some (some (false, false)) := by decide +kernel
  obtain ⟨r, hr, hview⟩ := Option.map_eq_some_iff.mp hrun
  obtain ⟨r', hr', hview⟩ := Option.map_eq_some_iff.mp hview
  obtain ⟨hshutdown, hstopped⟩ := Prod.mk.inj hview
  exact of_decide_eq_false hstopped (hrunning r r' (reach_of_exec hr) hr' hshutdown)

end ClientRuntime

end GateRust.Desktop
