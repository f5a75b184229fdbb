/-
# One client at a time

`instance.rs` of the desktop client: the processes of one user find the client that runs already by
a lock file, and speak to it through a file with a request.  A new process that does not get the
lock of the client writes its build into the file, one such process at a time.  A client with the
same build focuses its window and removes the file, and the new process ends; a client with another
build exits, and the new process takes its lock.

Every operation on a lock or on the file is a step of its own, in any order among the processes;
any of them may fail, and a process may exit at any time, which releases its locks.
-/
import GateRust.Desktop.LoginFiles

namespace GateRust.Desktop

open Machine

/-! ## Requests -/

def isBuildId (value : String) : Bool :=
  value.toUTF8.toList.length = 64 && value.toUTF8.toList.all isAsciiHexdigit

inductive RequestAction where
  | focus
  | replace (nextBuildId : String)
deriving DecidableEq, Repr

/-- `read_request` on a file that is there. -/
def readRequest (request currentBuildId : String) : Except String RequestAction :=
  let buildId := String.ofList (Proxy.trim request)
  if !isBuildId buildId then .error "客户端实例请求中的构建标识无效"
  else if buildId = currentBuildId then .ok .focus
  else .ok (.replace buildId)

/-- The request file, and the process that has written it. -/
structure RequestFile where
  author : Option ℕ
  content : String
deriving DecidableEq, Repr

/-! ## The processes -/

/-- The next operation of a process, first in `acquire_in` and `write_request`, then in
`monitor_requests` and `process_request`. -/
inductive Place where
  | initial
  | createDirectory
  | lockInstance
  | lockRequest
  | relockInstance
  | removeOld
  | writeTemporary
  | renameTemporary
  | pollInstance
  | pollRequest
  | withdraw
  /-- The instance lock is held, and the request is to be removed. -/
  | clearRequest
  | existing
  | failed (error : String)
  | primary
  | monitoring
  /-- The monitor has read a request to focus the window. -/
  | focusing (read : RequestFile)
  /-- The monitor could not read the request. -/
  | discarding
  /-- `application.exit(0)` has been called. -/
  | leaving
  | ended
deriving DecidableEq, Repr

namespace Place

/-- `acquire_in` has returned `Primary`, and the process has not exited. -/
def isPrimary : Place → Bool
  | .primary | .monitoring | .focusing _ | .discarding | .leaving => true
  | _ => false

/-- The process has read requests. -/
def monitors : Place → Bool
  | .monitoring | .focusing _ | .discarding | .leaving => true
  | _ => false

def holdsInstance (place : Place) : Bool := place = .clearRequest || place.isPrimary

def holdsRequest : Place → Bool
  | .relockInstance | .removeOld | .writeTemporary | .renameTemporary | .pollInstance
  | .pollRequest | .withdraw => true
  | _ => false

/-- The call has checked its build and has not returned. -/
def acquires (place : Place) : Bool :=
  place.holdsRequest || place = .createDirectory || place = .lockInstance || place = .lockRequest

/-- The process has written its request and may still find it gone. -/
def waits : Place → Bool
  | .pollInstance | .pollRequest => true
  | _ => false

lemma holdsRequest_of_waits {place : Place} (h : place.waits = true) :
    place.holdsRequest = true := by
  cases place <;> first | rfl | cases h

lemma acquires_of_waits {place : Place} (h : place.waits = true) : place.acquires = true := by
  rw [acquires, holdsRequest_of_waits h]
  rfl

lemma holdsInstance_of_monitors {place : Place} (h : place.monitors = true) :
    place.holdsInstance = true := by
  cases place <;> first | rfl | cases h

end Place

/-- The directory of the instance, and the processes by number.  The file that a process renames is
its own, and is left out. -/
structure Instances where
  places : ℕ → Place
  instanceLock : Option ℕ
  requestLock : Option ℕ
  request : Option RequestFile
  /-- History: the client that has removed the request of a process after it had read this request
  as one to focus its window. -/
  acknowledged : ℕ → Option ℕ

namespace Instances

inductive Event where
  /-- The process `p` calls `acquire_in`. -/
  | start (p : ℕ)
  /-- The next operation of the process; `late` says that its deadline has passed. -/
  | run (p : ℕ) (io : Except String Unit) (late : Bool)
  | exit (p : ℕ)

/-- No process has been started; the file may be there. -/
def start (content : Option String) : Instances where
  places _ := .initial
  instanceLock := none
  requestLock := none
  request := content.map fun content => ⟨none, content⟩
  acknowledged _ := none

variable (build : ℕ → String) (s : Instances) (p : ℕ)

def go (place : Place) : Instances := { s with places := Function.update s.places p place }

/-- The process goes on without its locks. -/
def release (place : Place) : Instances :=
  { s with
    places := Function.update s.places p place
    instanceLock := s.instanceLock.filter (· ≠ p)
    requestLock := s.requestLock.filter (· ≠ p) }

/-- `try_lock` on the lock of the client. -/
def tryInstance (otherwise : Place) : Instances :=
  match s.instanceLock with
  | none => { s with instanceLock := some p }.go p .clearRequest
  | some _ => s.go p otherwise

/-- An operation of `acquire_in` that succeeds. -/
def acquireIn (late : Bool) : Place → Instances
  | .createDirectory => s.go p .lockInstance
  | .lockInstance => s.tryInstance p .lockRequest
  | .lockRequest =>
    match s.requestLock with
    | none => { s with requestLock := some p }.go p .relockInstance
    | some _ => if late then s.release p (.failed "等待客户端实例请求锁超时") else s
  | .relockInstance => s.tryInstance p .removeOld
  | .removeOld => { s with request := none }.go p .writeTemporary
  | .writeTemporary => s.go p .renameTemporary
  | .renameTemporary => { s with request := some ⟨some p, build p⟩ }.go p .pollInstance
  | .pollInstance => s.tryInstance p .pollRequest
  | .pollRequest =>
    if s.request.isSome then s.go p (if late then .withdraw else .pollInstance)
    else s.release p .existing
  | .withdraw => { s with request := none }.release p (.failed "等待旧版客户端退出超时")
  | .clearRequest =>
    { s with request := none, requestLock := s.requestLock.filter (· ≠ p) }.go p .primary
  | _ => s

/-- The monitor reads the request. -/
def processRequest : Except String Unit → Instances
  | .error _ => s.go p .discarding
  | .ok () =>
    match s.request with
    | none => s
    | some read =>
      match readRequest read.content (build p) with
      | .ok .focus => s.go p (.focusing read)
      | .ok (.replace _) => s.go p .leaving
      | .error _ => s.go p .discarding

/-- The monitor removes the request after it has focused the window. -/
def acknowledge (read : RequestFile) : Instances :=
  let s' := { s with request := none }.go p .monitoring
  match s.request.bind (·.author) with
  | some c =>
    if read.author = some c then
      { s' with acknowledged := Function.update s.acknowledged c (some p) }
    else s'
  | none => s'

def step : Event → Option Instances
  | .start p =>
    match s.places p with
    | .initial =>
      some (if isBuildId (build p) then s.go p .createDirectory
        else s.go p (.failed "客户端构建标识格式无效"))
    | _ => none
  | .run p io late =>
    match s.places p, io with
    | .initial, _ | .existing, _ | .failed _, _ | .leaving, _ | .ended, _ => none
    | .primary, .ok () => some (s.go p .monitoring)
    | .primary, .error _ => none
    | .monitoring, io => some (s.processRequest build p io)
    | .focusing read, .ok () => some (s.acknowledge p read)
    | .discarding, .ok () => some ({ s with request := none }.go p .monitoring)
    -- the request stays, and the monitor waits for the next change
    | .focusing _, .error _ | .discarding, .error _ => some (s.go p .monitoring)
    | place, .ok () => some (s.acquireIn build p late place)
    | _, .error error => some (s.release p (.failed error))
  | .exit p =>
    match s.places p with
    | .initial | .ended => none
    | _ => some (s.release p .ended)

/-! ## Orderly steps -/

/-- The process whose request is open. -/
def awaiting : Option ℕ := s.requestLock.filter fun c => (s.places c).waits

/-- The request in the file is an open one. -/
def pending : Bool :=
  match s.awaiting, s.request with
  | some c, some current => current.author = some c
  | _, _ => false

/-- A request that is open is removed only by its own process or by the client that has read it,
and this client does not exit before the process has seen the answer. -/
def orderly : Event → Bool
  | .start _ => true
  | .run p (.ok ()) _ =>
    match s.places p with
    | .clearRequest | .discarding => !s.pending
    | .focusing read => !s.pending || s.request.any fun current => current.author = read.author
    | _ => true
  | .run _ (.error _) _ => true
  | .exit p => s.awaiting.all fun c => s.acknowledged c ≠ some p

def Orderly (e : Event) : Prop := s.orderly e = true

instance (e : Event) : Decidable (s.Orderly e) := inferInstanceAs (Decidable (_ = true))

end Instances

/-! ## The builds of requests -/

lemma trim_of_isBuildId {value : String} (h : isBuildId value = true) :
    String.ofList (Proxy.trim value) = value := by
  rw [isBuildId, Bool.and_eq_true, List.all_eq_true] at h
  have hlt : ∀ byte ∈ value.toUTF8.toList, byte.toNat < 128 := by
    intro byte hbyte
    have hhex := h.2 byte hbyte
    simp only [isAsciiHexdigit, Bool.or_eq_true, Bool.and_eq_true, decide_eq_true_eq,
      UInt8.le_iff_toNat_le, UInt8.reduceToNat] at hhex
    omega
  have hchars := String.toNat_lt_of_toUTF8 hlt
  have hbytes := String.toList_toUTF8_of_lt hchars
  have hplain : ∀ c ∈ value.toList, Proxy.isWhitespace c = false := by
    intro c hc
    have hhex := h.2 (UInt8.ofNat c.toNat) (hbytes ▸ List.mem_map_of_mem hc)
    have hmod : (UInt8.ofNat c.toNat).toNat = c.toNat := by
      rw [UInt8.toNat_ofNat']
      exact Nat.mod_eq_of_lt ((hchars c hc).trans (by decide))
    simp only [isAsciiHexdigit, Bool.or_eq_true, Bool.and_eq_true, decide_eq_true_eq,
      UInt8.le_iff_toNat_le, UInt8.reduceToNat, hmod] at hhex
    simp only [Proxy.isWhitespace, Bool.or_eq_false_iff, Bool.and_eq_false_iff,
      decide_eq_false_iff_not]
    omega
  have hfront : value.toList.dropWhile Proxy.isWhitespace = value.toList := by
    cases hlist : value.toList with
    | nil => rfl
    | cons c cs =>
      rw [List.dropWhile_cons_of_neg]
      simp [hplain c (hlist ▸ List.mem_cons_self)]
  have hback : value.toList.rdropWhile Proxy.isWhitespace = value.toList := by
    rw [List.rdropWhile_eq_self_iff]
    intro hne
    simp [hplain _ (List.getLast_mem hne)]
  rw [Proxy.trim, hfront, hback, String.ofList_toList]

lemma readRequest_focus {request currentBuildId : String}
    (h : readRequest request currentBuildId = .ok .focus) :
    String.ofList (Proxy.trim request) = currentBuildId := by
  simp only [readRequest] at h
  split_ifs at h with _ hsame
  · exact hsame
  · cases h

namespace Instances

variable {build : ℕ → String} {s s' : Instances} {p c : ℕ} {place : Place} {current : RequestFile}

@[simp] lemma places_go (s : Instances) (p : ℕ) (place : Place) :
    (s.go p place).places = Function.update s.places p place := rfl

/-! ## The locks -/

/-- A client has the lock of the client, and a process that hands over the lock of the requests. -/
structure Locked (s : Instances) : Prop where
  client : ∀ p, (s.places p).holdsInstance = true → s.instanceLock = some p
  caller : ∀ p, (s.places p).holdsRequest = true → s.requestLock = some p

/-- The process has the locks that it needs at its new place, and the locks of the others stay. -/
lemma Locked.update (h : s.Locked) (hplaces : s'.places = Function.update s.places p place)
    (hclient : place.holdsInstance = true → s'.instanceLock = some p)
    (hcaller : place.holdsRequest = true → s'.requestLock = some p)
    (hclients : ∀ q, q ≠ p → s.instanceLock = some q → s'.instanceLock = some q)
    (hcallers : ∀ q, q ≠ p → s.requestLock = some q → s'.requestLock = some q) : s'.Locked := by
  constructor
  case client =>
    intro q hq
    rw [hplaces] at hq
    by_cases hqp : q = p
    · subst hqp
      rw [Function.update_self] at hq
      exact hclient hq
    · rw [Function.update_of_ne hqp] at hq
      exact hclients q hqp (h.client q hq)
  case caller =>
    intro q hq
    rw [hplaces] at hq
    by_cases hqp : q = p
    · subst hqp
      rw [Function.update_self] at hq
      exact hcaller hq
    · rw [Function.update_of_ne hqp] at hq
      exact hcallers q hqp (h.caller q hq)

lemma Locked.go (h : s.Locked) (request : Option RequestFile)
    (hclient : place.holdsInstance = true → (s.places p).holdsInstance = true)
    (hcaller : place.holdsRequest = true → (s.places p).holdsRequest = true) :
    (Instances.go { s with request := request } p place).Locked :=
  h.update rfl (fun hplace => h.client p (hclient hplace))
    (fun hplace => h.caller p (hcaller hplace)) (fun _ _ => id) fun _ _ => id

lemma Locked.release (h : s.Locked) (request : Option RequestFile)
    (hclient : place.holdsInstance = false) (hcaller : place.holdsRequest = false) :
    (Instances.release { s with request := request } p place).Locked := by
  refine h.update rfl ?_ ?_ ?_ ?_
  · intro hplace
    rw [hclient] at hplace
    cases hplace
  · intro hplace
    rw [hcaller] at hplace
    cases hplace
  · intro q hq hlock
    simp [Instances.release, hlock, hq]
  · intro q hq hlock
    simp [Instances.release, hlock, hq]

lemma Locked.tryInstance (h : s.Locked) (hclient : place.holdsInstance = false)
    (hcaller : place.holdsRequest = true → (s.places p).holdsRequest = true) :
    (s.tryInstance p place).Locked := by
  unfold Instances.tryInstance
  split
  case h_1 hfree =>
    refine h.update rfl (fun _ => rfl) (fun hplace => ?_) (fun q _ hlock => ?_) fun _ _ => id
    · cases hplace
    · rw [hfree] at hlock
      cases hlock
  case h_2 =>
    refine h.go s.request (fun hplace => ?_) hcaller
    rw [hclient] at hplace
    cases hplace

lemma Locked.acquireIn (h : s.Locked) (hplace : s.places p = place) (late : Bool) :
    (s.acquireIn build p late place).Locked := by
  cases place with
  | createDirectory => exact h.go s.request nofun nofun
  | lockInstance => exact h.tryInstance rfl nofun
  | lockRequest =>
    simp only [Instances.acquireIn]
    split
    case h_1 hfree =>
      refine h.update rfl nofun (fun _ => rfl) (fun _ _ => id) fun q _ hlock => ?_
      rw [hfree] at hlock
      cases hlock
    case h_2 =>
      split_ifs
      · exact h.release s.request rfl rfl
      · exact h
  | relockInstance => exact h.tryInstance rfl fun _ => hplace ▸ rfl
  | removeOld => exact h.go none nofun fun _ => hplace ▸ rfl
  | writeTemporary => exact h.go s.request nofun fun _ => hplace ▸ rfl
  | renameTemporary => exact h.go _ nofun fun _ => hplace ▸ rfl
  | pollInstance => exact h.tryInstance rfl fun _ => hplace ▸ rfl
  | pollRequest =>
    simp only [Instances.acquireIn]
    split_ifs
    · exact h.go s.request nofun fun _ => hplace ▸ rfl
    · exact h.go s.request nofun fun _ => hplace ▸ rfl
    · exact h.release s.request rfl rfl
  | withdraw => exact h.release none rfl rfl
  | clearRequest =>
    refine h.update rfl (fun _ => h.client p (hplace ▸ rfl)) nofun (fun _ _ => id) ?_
    intro q hq hlock
    show s.requestLock.filter (· ≠ p) = some q
    simp [hlock, hq]
  | initial | existing | failed error | primary | monitoring | focusing read | discarding
  | leaving | ended => exact h

lemma Locked.processRequest (h : s.Locked) (hplace : s.places p = .monitoring)
    (io : Except String Unit) : (s.processRequest build p io).Locked := by
  unfold Instances.processRequest
  split
  · exact h.go s.request (fun _ => hplace ▸ rfl) nofun
  · split
    · exact h
    · split
      · exact h.go s.request (fun _ => hplace ▸ rfl) nofun
      · exact h.go s.request (fun _ => hplace ▸ rfl) nofun
      · exact h.go s.request (fun _ => hplace ▸ rfl) nofun

lemma Locked.acknowledge (h : s.Locked) {read : RequestFile}
    (hplace : s.places p = .focusing read) : (s.acknowledge p read).Locked := by
  have hgo : (Instances.go { s with request := none } p .monitoring).Locked :=
    h.go none (fun _ => hplace ▸ rfl) nofun
  unfold Instances.acknowledge
  dsimp only
  split
  · split_ifs
    · exact ⟨hgo.client, hgo.caller⟩
    · exact hgo
  · exact hgo

/-- What an event does: the call begins, the process makes a step or is told of an error, its
monitor makes a step, or the process exits. -/
inductive StepCase (build : ℕ → String) (s : Instances) : Event → Instances → Prop
  | begins {p : ℕ} (hplace : s.places p = .initial) (hbuild : isBuildId (build p) = true) :
      StepCase build s (.start p) (s.go p .createDirectory)
  | refuses {p : ℕ} {error : String} (hplace : s.places p = .initial) :
      StepCase build s (.start p) (s.go p (.failed error))
  | acquires {p : ℕ} {late : Bool} {place : Place} (hplace : s.places p = place)
      (hacquires : place.acquires = true ∨ place = .clearRequest) :
      StepCase build s (.run p (.ok ()) late) (s.acquireIn build p late place)
  | fails {p : ℕ} {error : String} {late : Bool} (hplace : (s.places p).monitors = false) :
      StepCase build s (.run p (.error error) late) (s.release p (.failed error))
  | starts {p : ℕ} {io : Except String Unit} {late : Bool} (hplace : s.places p = .primary) :
      StepCase build s (.run p io late) (s.go p .monitoring)
  | reads {p : ℕ} {io : Except String Unit} {late : Bool} (hplace : s.places p = .monitoring) :
      StepCase build s (.run p io late) (s.processRequest build p io)
  | acknowledges {p : ℕ} {late : Bool} {read : RequestFile}
      (hplace : s.places p = .focusing read) :
      StepCase build s (.run p (.ok ()) late) (s.acknowledge p read)
  | discards {p : ℕ} {late : Bool} (hplace : s.places p = .discarding) :
      StepCase build s (.run p (.ok ()) late) ({ s with request := none }.go p .monitoring)
  | keeps {p : ℕ} {error : String} {late : Bool} (hplace : (s.places p).monitors = true) :
      StepCase build s (.run p (.error error) late) (s.go p .monitoring)
  | exits {p : ℕ} : StepCase build s (.exit p) (s.release p .ended)

lemma step_cases {e : Event} (h : s.step build e = some s') : s.StepCase build e s' := by
  cases e with
  | start p =>
    cases hplace : s.places p <;> simp only [step, hplace] at h <;> cases h
    split_ifs with hbuild
    · exact .begins hplace hbuild
    · exact .refuses hplace
  | run p io late =>
    cases io with
    | ok u =>
      cases hplace : s.places p <;> simp only [step, hplace] at h <;> cases h
      all_goals first
        | exact .acquires hplace (.inl rfl)
        | exact .acquires hplace (.inr rfl)
        | exact .starts hplace
        | exact .reads hplace
        | exact .acknowledges hplace
        | exact .discards hplace
    | error error =>
      cases hplace : s.places p <;> simp only [step, hplace] at h <;> cases h
      all_goals first
        | exact .reads hplace
        | exact .keeps (hplace ▸ rfl)
        | exact .fails (hplace ▸ rfl)
  | exit p =>
    simp only [step] at h
    split at h
    · cases h
    · cases h
    · cases h
      exact .exits

/-- **Every step keeps the locks.** -/
theorem locked_step {e : Event} (h : s.Locked) (hstep : s.step build e = some s') : s'.Locked := by
  cases step_cases hstep with
  | begins hplace => exact h.go s.request nofun nofun
  | refuses hplace => exact h.go s.request nofun nofun
  | acquires hplace => exact h.acquireIn hplace _
  | fails hplace => exact h.release s.request rfl rfl
  | starts hplace => exact h.go s.request (fun _ => hplace ▸ rfl) nofun
  | reads hplace => exact h.processRequest hplace _
  | acknowledges hplace => exact h.acknowledge hplace
  | discards hplace => exact h.go none (fun _ => hplace ▸ rfl) nofun
  | keeps hplace => exact h.go s.request (fun _ => Place.holdsInstance_of_monitors hplace) nofun
  | exits => exact h.release s.request rfl rfl

lemma locked_start (content : Option String) : (start content).Locked := ⟨nofun, nofun⟩

lemma locked_of_reach {ok : Instances → Event → Prop} {content : Option String}
    (h : Reach (step build) ok (start content) s) : s.Locked :=
  h.invariant (locked_start content) fun _ _ _ hs _ hstep => locked_step hs hstep

/-- **At most one process is the client.** -/
theorem primary_unique {ok : Instances → Event → Prop} {content : Option String}
    (h : Reach (step build) ok (start content) s) {q : ℕ} (hp : (s.places p).isPrimary = true)
    (hq : (s.places q).isPrimary = true) : p = q := by
  have hlocked := locked_of_reach h
  have holds : ∀ n, (s.places n).isPrimary = true → s.instanceLock = some n := fun n hn =>
    hlocked.client n (by rw [Place.holdsInstance, hn, Bool.or_true])
  exact Option.some.inj ((holds p hp).symm.trans (holds q hq))

/-! ## The requests -/

/-- The request of the process is in the file. -/
def Pending (s : Instances) (c : ℕ) : Prop :=
  ∃ current, s.request = some current ∧ current.author = some c

/-- A client with the build of the process has acknowledged its request and watches on. -/
def Acknowledged (build : ℕ → String) (s : Instances) (c : ℕ) : Prop :=
  ∃ q, s.acknowledged c = some q ∧ build q = build c ∧ (s.places q).monitors = true

structure Requests (build : ℕ → String) (s : Instances) : Prop where
  builds : ∀ p, (s.places p).acquires = true → isBuildId (build p) = true
  content : ∀ current c, s.request = some current → current.author = some c →
    current.content = build c
  read : ∀ p current, s.places p = .focusing current →
    readRequest current.content (build p) = .ok .focus ∧
      ∀ c, current.author = some c → current.content = build c
  kept : ∀ c, (s.places c).waits = true → s.Pending c ∨ s.Acknowledged build c

lemma Locked.awaiting (h : s.Locked) (hc : (s.places c).waits = true) :
    s.awaiting = some c := by
  rw [Instances.awaiting, h.caller c (Place.holdsRequest_of_waits hc), Option.filter_some,
    if_pos hc]

/-- Only the process with the lock of the requests waits. -/
lemma Locked.eq_of_waits (h : s.Locked) (hp : (s.places p).holdsRequest = true)
    (hc : (s.places c).waits = true) : c = p := by
  have hawaiting := h.awaiting hc
  rw [Instances.awaiting, h.caller p hp, Option.filter_some] at hawaiting
  split_ifs at hawaiting
  exact (Option.some.inj hawaiting).symm

lemma Locked.pending (h : s.Locked) (hc : (s.places c).waits = true) (hpending : s.Pending c) :
    s.pending = true := by
  obtain ⟨current, hrequest, hauthor⟩ := hpending
  rw [Instances.pending, h.awaiting hc, hrequest]
  exact decide_eq_true hauthor

/-- A step of one process that leaves the request alone. -/
lemma Requests.go (h : s.Requests build) (hplaces : s'.places = Function.update s.places p place)
    (hrequest : s'.request = s.request) (hacknowledged : s'.acknowledged = s.acknowledged)
    (hacquires : place.acquires = true → isBuildId (build p) = true)
    (hread : ∀ current, place = .focusing current → s.request = some current ∧
      readRequest current.content (build p) = .ok .focus)
    (hwaits : place.waits = true → (s.places p).waits = true)
    (hmonitors : (s.places p).monitors = true → place.monitors = true ∨
      ∀ c, (s.places c).waits = true → s.acknowledged c ≠ some p) : s'.Requests build := by
  constructor
  case builds =>
    intro q hq
    rw [hplaces] at hq
    by_cases hqp : q = p
    · subst hqp
      rw [Function.update_self] at hq
      exact hacquires hq
    · rw [Function.update_of_ne hqp] at hq
      exact h.builds q hq
  case content =>
    intro current c hcurrent
    exact h.content current c (hrequest ▸ hcurrent)
  case read =>
    intro q current hq
    rw [hplaces] at hq
    by_cases hqp : q = p
    · subst hqp
      rw [Function.update_self] at hq
      obtain ⟨hcurrent, hfocus⟩ := hread current hq
      exact ⟨hfocus, fun c => h.content current c hcurrent⟩
    · rw [Function.update_of_ne hqp] at hq
      exact h.read q current hq
  case kept =>
    intro c hc
    have hbefore : (s.places c).waits = true := by
      rw [hplaces] at hc
      by_cases hcp : c = p
      · subst hcp
        rw [Function.update_self] at hc
        exact hwaits hc
      · rw [Function.update_of_ne hcp] at hc
        exact hc
    rcases h.kept c hbefore with ⟨current, hcurrent, hauthor⟩ | ⟨q, hq, hbuild, hwatches⟩
    · exact .inl ⟨current, hrequest.trans hcurrent, hauthor⟩
    · refine .inr ⟨q, (congrFun hacknowledged c).trans hq, hbuild, ?_⟩
      rw [hplaces]
      by_cases hqp : q = p
      · subst hqp
        rw [Function.update_self]
        exact (hmonitors hwatches).resolve_right fun hnot => hnot c hbefore hq
      · rw [Function.update_of_ne hqp]
        exact hwatches

/-- The file is removed when every open request is acknowledged. -/
lemma Requests.remove (h : s.Requests build) {acknowledged : ℕ → Option ℕ}
    (hall : ∀ c, (s.places c).waits = true →
      ∃ q, acknowledged c = some q ∧ build q = build c ∧ (s.places q).monitors = true) :
    Instances.Requests build { s with request := none, acknowledged := acknowledged } where
  builds := h.builds
  content := nofun
  read := h.read
  kept c hc := .inr (hall c hc)

/-- A removal that is no answer leaves an open request alone. -/
lemma Requests.discard (h : s.Requests build) (hlocked : s.Locked) (hpending : s.pending = false) :
    Instances.Requests build { s with request := none } := by
  refine h.remove fun c hc => (h.kept c hc).resolve_left fun hc' => ?_
  rw [hlocked.pending hc hc'] at hpending
  cases hpending

lemma Requests.write (h : s.Requests build) (hlocked : s.Locked)
    (hplace : s.places p = .renameTemporary) : Instances.Requests build
      (Instances.go { s with request := some ⟨some p, build p⟩ } p .pollInstance) := by
  constructor
  case builds =>
    intro q hq
    by_cases hqp : q = p
    · subst hqp
      exact h.builds q (hplace ▸ rfl)
    · refine h.builds q ?_
      rwa [places_go, Function.update_of_ne hqp] at hq
  case content =>
    intro current c hcurrent hauthor
    cases hcurrent
    cases hauthor
    rfl
  case read =>
    intro q current hq
    by_cases hqp : q = p
    · subst hqp
      rw [places_go, Function.update_self] at hq
      cases hq
    · rw [places_go, Function.update_of_ne hqp] at hq
      exact h.read q current hq
  case kept =>
    -- nobody else waits for an answer
    intro c hc
    by_cases hcp : c = p
    · subst hcp
      exact .inl ⟨_, rfl, rfl⟩
    · rw [places_go, Function.update_of_ne hcp] at hc
      exact absurd (hlocked.eq_of_waits (hplace ▸ rfl) hc) hcp

/-- The removal after the focus is an answer if the request is the one that was read. -/
lemma acknowledge_eq (s : Instances) (p : ℕ) (read : RequestFile) :
    ∃ acknowledged, s.acknowledge p read = Instances.go
        { s with request := none, acknowledged := acknowledged } p .monitoring ∧
      (∀ c, s.Pending c → read.author = some c → acknowledged c = some p) ∧
      ∀ c, ¬ s.Pending c → acknowledged c = s.acknowledged c := by
  have hpending : ∀ c, s.Pending c ↔ s.request.bind (·.author) = some c := fun c =>
    Option.bind_eq_some_iff.symm
  unfold Instances.acknowledge
  dsimp only
  split
  case h_1 c hauthor =>
    split_ifs with hread
    · refine ⟨Function.update s.acknowledged c (some p), rfl, fun c' hc' _ => ?_, fun c' hc' =>
        Function.update_of_ne ?_ _ _⟩
      · obtain rfl := Option.some.inj (hauthor.symm.trans ((hpending c').mp hc'))
        exact Function.update_self _ _ _
      · rintro rfl
        exact hc' ((hpending c').mpr hauthor)
    · refine ⟨s.acknowledged, rfl, fun c' hc' hread' => ?_, fun _ _ => rfl⟩
      obtain rfl := Option.some.inj (hauthor.symm.trans ((hpending c').mp hc'))
      exact absurd hread' hread
  case h_2 hnone =>
    refine ⟨s.acknowledged, rfl, fun c' hc' _ => ?_, fun _ _ => rfl⟩
    rw [(hpending c').mp hc'] at hnone
    cases hnone

lemma Requests.acknowledge (h : s.Requests build) (hlocked : s.Locked) {read : RequestFile}
    (hplace : s.places p = .focusing read)
    (hown : s.pending = true → ∃ current, s.request = some current ∧
      current.author = read.author) : (s.acknowledge p read).Requests build := by
  have hmonitors : (s.places p).monitors = true := hplace ▸ rfl
  obtain ⟨hfocus, hcontent⟩ := h.read p read hplace
  obtain ⟨acknowledged, hacknowledge, hanswer, hothers⟩ := s.acknowledge_eq p read
  have hremoved : Instances.Requests build
      { s with request := none, acknowledged := acknowledged } := by
    refine h.remove fun c hc => ?_
    by_cases hpending : s.Pending c
    · obtain ⟨current, hcurrent, hsame⟩ := hown (hlocked.pending hc hpending)
      obtain ⟨current', hcurrent', hauthor⟩ := id hpending
      obtain rfl := Option.some.inj (hcurrent.symm.trans hcurrent')
      have hread : read.author = some c := hsame ▸ hauthor
      have hbuild := readRequest_focus hfocus
      rw [hcontent c hread, trim_of_isBuildId (h.builds c (Place.acquires_of_waits hc))] at hbuild
      exact ⟨p, hanswer c hpending hread, hbuild.symm, hmonitors⟩
    · obtain ⟨q, hq, hbuild, hwatches⟩ := (h.kept c hc).resolve_left hpending
      exact ⟨q, (hothers c hpending).trans hq, hbuild, hwatches⟩
  rw [hacknowledge]
  exact hremoved.go rfl rfl rfl nofun nofun nofun fun _ => .inl rfl

lemma Requests.tryInstance (h : s.Requests build) (hacquires : isBuildId (build p) = true)
    (hwaits : place.waits = true → (s.places p).waits = true)
    (hplace : (s.places p).monitors = false)
    (hread : ∀ current, place ≠ .focusing current) :
    (s.tryInstance p place).Requests build := by
  have hmonitors : ∀ {other : Place}, (s.places p).monitors = true → other.monitors = true ∨
      ∀ c, (s.places c).waits = true → s.acknowledged c ≠ some p := by
    intro other hmonitors
    rw [hplace] at hmonitors
    cases hmonitors
  unfold Instances.tryInstance
  split
  · exact h.go rfl rfl rfl nofun nofun nofun hmonitors
  · exact h.go rfl rfl rfl (fun _ => hacquires) (fun current hcurrent =>
      absurd hcurrent (hread current)) hwaits hmonitors

lemma Requests.acquireIn (h : s.Requests build) (hlocked : s.Locked) (hplace : s.places p = place)
    (hacquires : place.acquires = true ∨ place = .clearRequest) {late : Bool}
    (horderly : place = .clearRequest → s.pending = false) :
    (s.acquireIn build p late place).Requests build := by
  have hbuild : place.acquires = true → isBuildId (build p) = true := fun hp =>
    h.builds p (hplace ▸ hp)
  -- a process that hands over is the one that waits
  have hnone : (s.places p).holdsRequest = true → (s.places p).waits = false →
      s.pending = false := by
    intro hholds hwaits
    rw [Instances.pending, Instances.awaiting, hlocked.caller p hholds, Option.filter_some,
      hwaits]
    rfl
  cases place with
  | createDirectory =>
    exact h.go rfl rfl rfl (fun _ => hbuild rfl) nofun nofun (hplace ▸ nofun)
  | lockInstance => exact h.tryInstance (hbuild rfl) nofun (hplace ▸ rfl) nofun
  | lockRequest =>
    simp only [Instances.acquireIn]
    split
    · exact h.go rfl rfl rfl (fun _ => hbuild rfl) nofun nofun (hplace ▸ nofun)
    · split_ifs
      · exact h.go rfl rfl rfl nofun nofun nofun (hplace ▸ nofun)
      · exact h
  | relockInstance => exact h.tryInstance (hbuild rfl) nofun (hplace ▸ rfl) nofun
  | removeOld =>
    exact (h.discard hlocked (hnone (hplace ▸ rfl) (hplace ▸ rfl))).go rfl rfl rfl
      (fun _ => hbuild rfl) nofun nofun (hplace ▸ nofun)
  | writeTemporary =>
    exact h.go rfl rfl rfl (fun _ => hbuild rfl) nofun nofun (hplace ▸ nofun)
  | renameTemporary => exact h.write hlocked hplace
  | pollInstance =>
    exact h.tryInstance (hbuild rfl) (fun _ => hplace ▸ rfl) (hplace ▸ rfl) nofun
  | pollRequest =>
    simp only [Instances.acquireIn]
    split_ifs
    · exact h.go rfl rfl rfl (fun _ => hbuild rfl) nofun nofun (hplace ▸ nofun)
    · exact h.go rfl rfl rfl (fun _ => hbuild rfl) nofun (fun _ => hplace ▸ rfl)
        (hplace ▸ nofun)
    · exact h.go rfl rfl rfl nofun nofun nofun (hplace ▸ nofun)
  | withdraw =>
    exact (h.discard hlocked (hnone (hplace ▸ rfl) (hplace ▸ rfl))).go rfl rfl rfl nofun nofun
      nofun (hplace ▸ nofun)
  | clearRequest =>
    exact (h.discard hlocked (horderly rfl)).go rfl rfl rfl nofun nofun nofun (hplace ▸ nofun)
  | initial | existing | failed error | primary | monitoring | focusing read | discarding
  | leaving | ended => simp [Place.acquires, Place.holdsRequest] at hacquires

lemma Requests.processRequest (h : s.Requests build) (p : ℕ) (io : Except String Unit) :
    (s.processRequest build p io).Requests build := by
  unfold Instances.processRequest
  split
  · exact h.go rfl rfl rfl nofun nofun nofun fun _ => .inl rfl
  · split
    · exact h
    case h_2 read hread =>
      split
      case h_1 hfocus =>
        refine h.go rfl rfl rfl nofun (fun current hcurrent => ?_) nofun fun _ => .inl rfl
        cases hcurrent
        exact ⟨hread, hfocus⟩
      · exact h.go rfl rfl rfl nofun nofun nofun fun _ => .inl rfl
      · exact h.go rfl rfl rfl nofun nofun nofun fun _ => .inl rfl

/-- **Every orderly step keeps the requests.** -/
theorem requests_step {e : Event} (h : s.Requests build) (hlocked : s.Locked)
    (horderly : s.Orderly e) (hstep : s.step build e = some s') : s'.Requests build := by
  cases step_cases hstep with
  | begins hplace hbuild =>
    exact h.go rfl rfl rfl (fun _ => hbuild) nofun nofun (hplace ▸ nofun)
  | refuses hplace => exact h.go rfl rfl rfl nofun nofun nofun (hplace ▸ nofun)
  | acquires hplace hacquires =>
    refine h.acquireIn hlocked hplace hacquires fun hclear => ?_
    rw [hclear] at hplace
    simpa [Orderly, orderly, hplace] using horderly
  | fails hplace => exact h.go rfl rfl rfl nofun nofun nofun (hplace ▸ nofun)
  | starts hplace => exact h.go rfl rfl rfl nofun nofun nofun fun _ => .inl rfl
  | reads hplace => exact h.processRequest _ _
  | @acknowledges p late read hplace =>
    refine h.acknowledge hlocked hplace fun hpending => ?_
    simpa [Orderly, orderly, hplace, hpending, Option.any_eq_true] using horderly
  | discards hplace =>
    have hpending : s.pending = false := by
      simpa [Orderly, orderly, hplace] using horderly
    exact (h.discard hlocked hpending).go rfl rfl rfl nofun nofun nofun fun _ => .inl rfl
  | keeps hplace => exact h.go rfl rfl rfl nofun nofun nofun fun _ => .inl rfl
  | @exits p =>
    refine h.go rfl rfl rfl nofun nofun nofun fun _ => .inr fun c hc => ?_
    rw [Orderly, orderly, hlocked.awaiting hc, Option.all_some] at horderly
    exact of_decide_eq_true horderly

lemma requests_start (content : Option String) : (start content).Requests build where
  builds := nofun
  content current c hcurrent hauthor := by
    obtain ⟨text, -, rfl⟩ := Option.map_eq_some_iff.mp hcurrent
    cases hauthor
  read := nofun
  kept := nofun

/-! ## Processes that end -/

/-- A step moves one process at most, and to the end only where it finds no request. -/
def MovesOne (s s' : Instances) : Prop :=
  s'.places = s.places ∨ ∃ p place, s'.places = Function.update s.places p place ∧
    (place = .existing → s.places p = .pollRequest ∧ s.request = none)

lemma movesOne_of_ne (h : s'.places = Function.update s.places p place)
    (hplace : place ≠ .existing) : s.MovesOne s' :=
  .inr ⟨p, place, h, fun hexisting => absurd hexisting hplace⟩

lemma movesOne_tryInstance (s : Instances) (p : ℕ) (hplace : place ≠ .existing) :
    s.MovesOne (s.tryInstance p place) := by
  unfold tryInstance
  split
  · exact movesOne_of_ne rfl nofun
  · exact movesOne_of_ne rfl hplace

lemma movesOne_acquireIn (hplace : s.places p = place) (late : Bool) :
    s.MovesOne (s.acquireIn build p late place) := by
  cases place with
  | createDirectory | writeTemporary | removeOld | renameTemporary | withdraw | clearRequest =>
    exact movesOne_of_ne rfl nofun
  | lockInstance | relockInstance | pollInstance => exact s.movesOne_tryInstance p nofun
  | lockRequest =>
    simp only [acquireIn]
    split
    · exact movesOne_of_ne rfl nofun
    · split_ifs
      · exact movesOne_of_ne rfl nofun
      · exact .inl rfl
  | pollRequest =>
    simp only [acquireIn]
    split_ifs with hrequest
    · exact movesOne_of_ne rfl nofun
    · exact movesOne_of_ne rfl nofun
    · exact .inr ⟨p, .existing, rfl, fun _ => ⟨hplace, Option.not_isSome_iff_eq_none.mp hrequest⟩⟩
  | initial | existing | failed error | primary | monitoring | focusing read | discarding
  | leaving | ended => exact .inl rfl

lemma movesOne_of_step {e : Event} (hstep : s.step build e = some s') : s.MovesOne s' := by
  cases step_cases hstep with
  | acquires hplace hacquires => exact movesOne_acquireIn hplace _
  | @reads p io late hplace =>
    unfold processRequest
    split
    · exact movesOne_of_ne rfl nofun
    · split
      · exact .inl rfl
      · split
        · exact movesOne_of_ne rfl nofun
        · exact movesOne_of_ne rfl nofun
        · exact movesOne_of_ne rfl nofun
  | @acknowledges p late read hplace =>
    obtain ⟨acknowledged, hacknowledge, -⟩ := s.acknowledge_eq p read
    rw [hacknowledge]
    exact movesOne_of_ne rfl nofun
  | begins | refuses | fails | starts | discards | keeps | exits =>
    exact movesOne_of_ne rfl nofun

/-- A process ends where it finds its request gone. -/
lemma existing_cases {e : Event} (hstep : s.step build e = some s')
    (hbefore : s.places c ≠ .existing) (hafter : s'.places c = .existing) :
    s.places c = .pollRequest ∧ s.request = none := by
  rcases movesOne_of_step hstep with hsame | ⟨p, place, hplaces, hplace⟩
  · rw [hsame] at hafter
    exact absurd hafter hbefore
  · rw [hplaces] at hafter
    by_cases hcp : c = p
    · subst hcp
      rw [Function.update_self] at hafter
      exact hplace hafter
    · rw [Function.update_of_ne hcp] at hafter
      exact absurd hafter hbefore

/-- **A process ends only for a client of its own build that has answered it**, in every run of
orderly steps: if `acquire_in` returns `Existing`, then the process that has the lock of the client
at this moment has the same build, and has removed the request to acknowledge it.  And there is one
client at most. -/
theorem existing_is_acknowledged {content : Option String}
    (h : Reach (step build) Orderly (start content) s) :
    (∀ p q, (s.places p).isPrimary = true → (s.places q).isPrimary = true → p = q) ∧
    ∀ e s' c, s.step build e = some s' → s.places c ≠ .existing → s'.places c = .existing →
      ∃ q, s.instanceLock = some q ∧ build q = build c ∧ s.acknowledged c = some q := by
  have hinvariant : s.Locked ∧ s.Requests build :=
    h.invariant (I := fun s => s.Locked ∧ s.Requests build)
      ⟨locked_start content, requests_start content⟩ fun _ _ _ hs horderly hstep =>
        ⟨locked_step hs.1 hstep, requests_step hs.2 hs.1 horderly hstep⟩
  obtain ⟨hlocked, hrequests⟩ := hinvariant
  refine ⟨fun p q hp hq => primary_unique h hp hq, fun e s' c hstep hbefore hafter => ?_⟩
  obtain ⟨hplace, hnone⟩ := existing_cases hstep hbefore hafter
  rcases hrequests.kept c (hplace ▸ rfl) with ⟨current, hcurrent, -⟩ | ⟨q, hq, hbuild, hwatches⟩
  · rw [hnone] at hcurrent
    cases hcurrent
  · exact ⟨q, hlocked.client q (Place.holdsInstance_of_monitors hwatches), hbuild, hq⟩

/-! ## Three processes -/

def firstBuild : String := .ofList (List.replicate 64 'a')

def secondBuild : String := .ofList (List.replicate 64 'b')

def thirdBuild : String := .ofList (List.replicate 64 'c')

def builds : ℕ → String
  | 0 => firstBuild
  | 1 => secondBuild
  | _ => thirdBuild

/-- The process makes its next `n` operations without an error. -/
def runs (p n : ℕ) : List Event := List.replicate n (.run p (.ok ()) false)

/-- The first process becomes the client, and the second one writes its request. -/
def requested : List Event := .start 0 :: runs 0 4 ++ .start 1 :: runs 1 7

/-- A process with the build of the client is answered. -/
theorem same_build_is_answered : ∃ s s' : Instances,
    Reach (step fun _ => firstBuild) Orderly (start none) s ∧
    s.step (fun _ => firstBuild) (.run 1 (.ok ()) false) = some s' ∧ s'.places 1 = .existing ∧
    ∃ q, s.instanceLock = some q ∧ s.acknowledged 1 = some q := by
  have hrun : (exec (step fun _ => firstBuild) Orderly (start none)
      (requested ++ runs 0 2 ++ runs 1 1)).any (fun s => decide (s.places 1 ≠ .existing) &&
        (s.step (fun _ => firstBuild) (.run 1 (.ok ()) false)).any fun s' =>
          decide (s'.places 1 = .existing)) = true := by
    decide +kernel
  obtain ⟨s, hexec, hs⟩ := (Option.any_eq_true _ _).mp hrun
  rw [Bool.and_eq_true] at hs
  obtain ⟨s', hstep, hs'⟩ := (Option.any_eq_true _ _).mp hs.2
  obtain ⟨q, hlock, -, hanswer⟩ := (existing_is_acknowledged (reach_of_exec hexec)).2 _ s' 1 hstep
    (of_decide_eq_true hs.1) (of_decide_eq_true hs')
  exact ⟨s, s', reach_of_exec hexec, hstep, of_decide_eq_true hs', q, hlock, hanswer⟩

/-- The client exits while a process with another build waits.  A third process takes the free lock
at once, without that of the requests, and removes the request, which nobody has read.  The process
that waits ends, although the client that runs now has another build and has not answered. -/
theorem new_client_removes_request : ∃ s s' : Instances,
    Reach (step builds) Always (start none) s ∧
    s.step builds (.run 1 (.ok ()) false) = some s' ∧ s.places 1 = .pollRequest ∧
    s'.places 1 = .existing ∧ s.instanceLock = some 2 ∧ builds 2 ≠ builds 1 ∧
    s.acknowledged 1 = none := by
  have hrun : (exec (step builds) Always (start none)
      (requested ++ runs 1 1 ++ .exit 0 :: .start 2 :: runs 2 3)).any (fun s =>
        (s.step builds (.run 1 (.ok ()) false)).any fun s' => decide (s.places 1 = .pollRequest ∧
          s'.places 1 = .existing ∧ s.instanceLock = some 2 ∧ builds 2 ≠ builds 1 ∧
          s.acknowledged 1 = none)) = true := by
    decide +kernel
  obtain ⟨s, hexec, hs⟩ := (Option.any_eq_true _ _).mp hrun
  obtain ⟨s', hstep, hs'⟩ := (Option.any_eq_true _ _).mp hs
  obtain ⟨hbefore, hafter, hlock, hbuild, hnone⟩ := of_decide_eq_true hs'
  exact ⟨s, s', reach_of_exec hexec, hstep, hbefore, hafter, hlock, hbuild, hnone⟩

/-- A client has read the request of a process with its own build, which exits; it then removes the
request of the next process, with another build. -/
example : ((exec (step fun p => if p = 2 then secondBuild else firstBuild) Always (start none)
    (requested ++ runs 0 1 ++ .exit 1 :: .start 2 :: runs 2 8 ++ runs 0 1 ++ runs 2 1)).map fun s =>
      (s.places 2, s.instanceLock, s.acknowledged 2)) = some (.existing, some 0, none) := by
  decide +kernel

end Instances

end GateRust.Desktop
