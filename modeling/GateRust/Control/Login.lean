/-
# Logging in to the control plane

`AuthService::login` answers a call in three steps.  It first asks, under the lock of the table of
attempts, whether the address may try; it then waits for one of two workers and lets it verify the
password; and it last takes the lock again to count a failure or to forget the address.  Any number
of calls may be between the first and the last step.

The table has a window for each address with a recorded failure: its start and the number of
failures recorded in it.  Times are nanoseconds of a clock that does not run backwards.  Verifying a
password against the stored hash is the work of a library and a parameter here.
-/
import GateRust.Lib.Machine
import GateRust.Lib.HashMap
import GateRust.Tunnel.Config

namespace GateRust.Control

open Machine
open Tunnel (IpAddr)

def loginWindow : ℕ := 60000000000

def maxLoginFailures : ℕ := 5

def maxTrackedAddresses : ℕ := 4096

structure LoginAttempt where
  windowStarted : ℕ
  failures : ℕ
deriving DecidableEq, Repr

/-- Count one more failure, in an `u8` that saturates. -/
def LoginAttempt.fail (attempt : LoginAttempt) : LoginAttempt :=
  { attempt with failures := min 255 (attempt.failures + 1) }

/-- How far a call has come after it was admitted. -/
inductive LoginPhase where
  /-- It waits for a worker. -/
  | waiting
  /-- A worker verifies the password. -/
  | verifying
  /-- The result is there and the worker is free again. -/
  | verified
deriving DecidableEq, Repr

/-- A call of `login` that was admitted and is not answered yet. -/
structure LoginCall where
  address : IpAddr
  username : String
  password : String
  phase : LoginPhase
deriving DecidableEq, Repr

/-- What is written down of a call. -/
inductive LoginRecord where
  /-- `can_attempt` let it pass. -/
  | admitted
  | rateLimited
  /-- It failed, and this opened a window or not. -/
  | invalidCredentials (opened : Bool)
  | loggedIn
deriving DecidableEq, Repr

structure LogEntry where
  address : IpAddr
  time : ℕ
  record : LoginRecord
deriving DecidableEq, Repr

/-- The service while it runs.  The log, the latest entry first, is kept for the statements only. -/
structure AuthService where
  username : String
  passwordHash : String
  passwordWorkers : ℕ
  attempts : HashMap IpAddr LoginAttempt
  calls : List LoginCall
  now : ℕ
  log : List LogEntry

inductive LoginEvent where
  /-- A call arrives. -/
  | login (address : IpAddr) (username password : String)
  /-- A call gets a worker. -/
  | acquire (call : LoginCall)
  /-- The worker of a call is done. -/
  | verify (call : LoginCall)
  /-- A call is answered.  Where several addresses are the oldest, any of them may go. -/
  | answer (call : LoginCall) (oldest : IpAddr)
  /-- The future of a call is dropped, or its worker failed. -/
  | abandon (call : LoginCall)
  | tick (elapsed : ℕ)
deriving DecidableEq, Repr

namespace AuthService

def new (username passwordHash : String) : AuthService :=
  ⟨username, passwordHash, 2, ∅, [], 0, []⟩

variable (verifyPassword : String → String → Bool)

/-- The user name and the password of the call are right. -/
def accepts (s : AuthService) (call : LoginCall) : Bool :=
  verifyPassword s.passwordHash call.password && call.username = s.username

def record (s : AuthService) (address : IpAddr) (entry : LoginRecord) : AuthService :=
  { s with log := ⟨address, s.now, entry⟩ :: s.log }

/-- The table without the windows that have ended. -/
def currentAttempts (s : AuthService) : HashMap IpAddr LoginAttempt :=
  s.attempts.retain fun _ attempt => s.now - attempt.windowStarted < loginWindow

def canAttempt (s : AuthService) (address : IpAddr) : Bool × AuthService :=
  let s := { s with attempts := s.currentAttempts }
  ((s.attempts.lookup address).all (·.failures < maxLoginFailures), s)

/-- The address has the oldest window of the table. -/
def isOldest (attempts : HashMap IpAddr LoginAttempt) (address : IpAddr) : Bool :=
  (attempts.lookup address).any fun oldest =>
    attempts.entries.all fun e => oldest.windowStarted ≤ e.2.windowStarted

/-- The table is full and has no place for `address`. -/
def needsRoom (s : AuthService) (address : IpAddr) : Bool :=
  maxTrackedAddresses ≤ s.attempts.size && !s.attempts.keys.contains address

def recordFailure (s : AuthService) (address oldest : IpAddr) : Option AuthService :=
  if s.needsRoom address && !isOldest s.attempts oldest then none
  else
    let attempts := if s.needsRoom address then s.attempts.erase oldest else s.attempts
    let attempt := (attempts.lookup address).getD ⟨s.now, 0⟩
    some { s with attempts := attempts.insert address attempt.fail }

/-- The call in its next phase. -/
def setPhase (s : AuthService) (call : LoginCall) (phase : LoginPhase) : AuthService :=
  { s with calls := { call with phase } :: s.calls.erase call }

def step (s : AuthService) : LoginEvent → Option AuthService
  | .login address username password =>
    let (admitted, s) := s.canAttempt address
    if admitted then
      some { s.record address .admitted with
        calls := ⟨address, username, password, .waiting⟩ :: s.calls }
    else some (s.record address .rateLimited)
  | .acquire call =>
    if call ∈ s.calls ∧ call.phase = .waiting ∧ 0 < s.passwordWorkers then
      some { s.setPhase call .verifying with passwordWorkers := s.passwordWorkers - 1 }
    else none
  | .verify call =>
    if call ∈ s.calls ∧ call.phase = .verifying then
      some { s.setPhase call .verified with passwordWorkers := s.passwordWorkers + 1 }
    else none
  | .answer call oldest =>
    if call ∈ s.calls ∧ call.phase = .verified then
      let done := { s with calls := s.calls.erase call }
      if s.accepts verifyPassword call then
        some { done.record call.address .loggedIn with attempts := s.attempts.erase call.address }
      else
        let opened := !s.attempts.keys.contains call.address
        (done.recordFailure call.address oldest).map fun s =>
          s.record call.address (.invalidCredentials opened)
    else none
  | .abandon call =>
    if call ∈ s.calls then
      let freed := if call.phase = .verifying then 1 else 0
      some { s with
        calls := s.calls.erase call, passwordWorkers := s.passwordWorkers + freed }
    else none
  | .tick elapsed => some { s with now := s.now + elapsed }

/-! ## Throttling -/

/-- The call failed because of its credentials. -/
def isFailure (address : IpAddr) (entry : LogEntry) : Bool :=
  entry.address = address &&
    (entry.record = .invalidCredentials true || entry.record = .invalidCredentials false)

/-- The failures of an address among the entries. -/
def failuresOf (address : IpAddr) (entries : List LogEntry) : ℕ :=
  entries.countP (isFailure address)

/-- The first recorded failure of a window. -/
def opening (address : IpAddr) (start : ℕ) : LogEntry :=
  ⟨address, start, .invalidCredentials true⟩

/-- The entries lie in the window of `address` that began at `start`: none of them comes after its
end or is a login of the address. -/
def InWindow (address : IpAddr) (start : ℕ) (entries : List LogEntry) : Prop :=
  ∀ entry ∈ entries, entry.time < start + loginWindow ∧
    ¬(entry.address = address ∧ entry.record = .loggedIn)

/-- In each window of the address at most `MAX_LOGIN_FAILURES` calls fail, its first failure
included, and a call that comes after that many is not admitted. -/
def Throttled (address : IpAddr) (log : List LogEntry) : Prop :=
  ∀ newer start older, log = newer ++ opening address start :: older →
    InWindow address start newer →
      1 + failuresOf address newer ≤ maxLoginFailures ∧
      ∀ later time earlier, newer = later ++ ⟨address, time, .admitted⟩ :: earlier →
        1 + failuresOf address earlier < maxLoginFailures

/-- The failures of an address that the table has. -/
def recordedFailures (attempts : HashMap IpAddr LoginAttempt) (address : IpAddr) : ℕ :=
  (attempts.lookup address).elim 0 (·.failures)

/-- The calls from an address that were admitted, are not answered yet and will fail. -/
def pendingFailures (s : AuthService) (address : IpAddr) : ℕ :=
  s.calls.countP fun call => call.address = address && !s.accepts verifyPassword call

/-- Fewer than `MAX_TRACKED_ADDRESSES` other addresses are in the table. -/
def Uncrowded (address : IpAddr) (s : AuthService) : Prop :=
  (s.attempts.erase address).size < maxTrackedAddresses

/-- A call from `address` with wrong credentials is only admitted while the failures of the window
and the calls that are on the way to one are together fewer than `MAX_LOGIN_FAILURES`. -/
def Spaced (address : IpAddr) (s : AuthService) : LoginEvent → Prop
  | .login address' username password =>
    address' = address → (s.canAttempt address).1 = true →
      s.accepts verifyPassword ⟨address', username, password, .waiting⟩ = false →
        recordedFailures s.currentAttempts address + s.pendingFailures verifyPassword address <
          maxLoginFailures
  | _ => True

instance (address : IpAddr) (s : AuthService) : Decidable (Uncrowded address s) :=
  inferInstanceAs (Decidable (_ < _))

instance (address : IpAddr) (s : AuthService) : (e : LoginEvent) →
    Decidable (Spaced verifyPassword address s e)
  | .login _ _ _ => inferInstanceAs (Decidable (_ → _ → _ → _))
  | .acquire _ | .verify _ | .answer _ _ | .abandon _ | .tick _ =>
    inferInstanceAs (Decidable True)

/-! ## The log and the windows -/

variable {address : IpAddr} {start : ℕ} {entry : LogEntry} {entries log : List LogEntry}

lemma InWindow.tail (h : InWindow address start (entry :: entries)) :
    InWindow address start entries :=
  fun e he => h e (List.mem_cons_of_mem entry he)

lemma failuresOf_cons_of_not (h : isFailure address entry = false) :
    failuresOf address (entry :: entries) = failuresOf address entries := by
  simp [failuresOf, h]

lemma failuresOf_cons (h : isFailure address entry = true) :
    failuresOf address (entry :: entries) = failuresOf address entries + 1 := by
  simp [failuresOf, h]

/-- A log stays throttled when its new entry respects every window that is still open. -/
lemma Throttled.cons (h : Throttled address log)
    (hentry : ∀ newer start older, log = newer ++ opening address start :: older →
      InWindow address start (entry :: newer) →
        1 + failuresOf address (entry :: newer) ≤ maxLoginFailures ∧
        ((∃ time, entry = ⟨address, time, .admitted⟩) →
          1 + failuresOf address newer < maxLoginFailures)) :
    Throttled address (entry :: log) := by
  intro newer start older hsplit hwindow
  cases newer with
  | nil => exact ⟨by simp [failuresOf, maxLoginFailures], by simp⟩
  | cons first newer =>
    obtain ⟨rfl, hlog⟩ := List.cons.inj hsplit
    obtain ⟨hcount, hadmitted⟩ := hentry newer start older hlog hwindow
    refine ⟨hcount, ?_⟩
    intro later time earlier hlater
    cases later with
    | nil =>
      obtain ⟨hentry, rfl⟩ := List.cons.inj hlater
      exact hadmitted ⟨time, hentry⟩
    | cons _ later =>
      exact (h newer start older hlog hwindow.tail).2 later time earlier (List.cons.inj hlater).2

/-- The new entry is neither a failure of the address nor the admission of a call from it. -/
lemma Throttled.cons_of_other (h : Throttled address log)
    (hfailure : isFailure address entry = false)
    (hadmitted : ∀ time, entry ≠ ⟨address, time, .admitted⟩) :
    Throttled address (entry :: log) := by
  refine h.cons ?_
  intro newer start older hlog hwindow
  refine ⟨?_, fun ⟨time, htime⟩ => absurd htime (hadmitted time)⟩
  rw [failuresOf_cons_of_not hfailure]
  exact (h newer start older hlog hwindow.tail).1

variable {verifyPassword} {s s' : AuthService}

/-- The table has every window of the address that is still open, with all its failures. -/
def WindowKept (address : IpAddr) (s : AuthService) : Prop :=
  ∀ newer start older, s.log = newer ++ opening address start :: older →
    InWindow address start newer → s.now < start + loginWindow →
      s.attempts.lookup address = some ⟨start, 1 + failuresOf address newer⟩

/-- A step that adds an entry to the log, other than a failure of the address, keeps the windows
when it keeps the entry of the address in the table. -/
lemma WindowKept.cons_of_other (h : WindowKept address s) (hlog : s'.log = entry :: s.log)
    (hnow : s.now = s'.now) (hfailure : isFailure address entry = false)
    (hlookup : ∀ attempt, s.attempts.lookup address = some attempt →
      s.now < attempt.windowStarted + loginWindow →
      ¬(entry.address = address ∧ entry.record = .loggedIn) →
        s'.attempts.lookup address = some attempt) :
    WindowKept address s' := by
  intro newer start older hsplit hwindow hopen
  rw [hlog] at hsplit
  rw [← hnow] at hopen
  cases newer with
  | nil =>
    obtain ⟨rfl, -⟩ := List.cons.inj hsplit
    simp [isFailure, opening] at hfailure
  | cons first newer =>
    obtain ⟨rfl, hrest⟩ := List.cons.inj hsplit
    have hkept := h newer start older hrest hwindow.tail hopen
    rw [failuresOf_cons_of_not hfailure]
    exact hlookup _ hkept hopen (hwindow entry List.mem_cons_self).2

/-! ## What the steps preserve -/

/-- The table holds the windows while there is room for it, and the failures that it has and those
that are on their way are not too many. -/
structure Invariant (verifyPassword : String → String → Bool) (address : IpAddr)
    (s : AuthService) : Prop where
  throttled : Throttled address s.log
  bounded : recordedFailures s.attempts address + s.pendingFailures verifyPassword address ≤
    maxLoginFailures
  window : Uncrowded address s → WindowKept address s

lemma invariant_new (address : IpAddr) (username passwordHash : String) :
    Invariant verifyPassword address (new username passwordHash) where
  throttled := by simp [Throttled, new]
  bounded := by simp [recordedFailures, pendingFailures, new]
  window := by simp [WindowKept, new]

/-- Steps that touch neither the table nor the log. -/
lemma Invariant.of_quiet (h : Invariant verifyPassword address s)
    (hlog : s'.log = s.log) (hattempts : s'.attempts = s.attempts) (hnow : s.now ≤ s'.now)
    (hpending : s'.pendingFailures verifyPassword address ≤
      s.pendingFailures verifyPassword address) :
    Invariant verifyPassword address s' where
  throttled := hlog ▸ h.throttled
  bounded := by
    have hbounded := h.bounded
    rw [hattempts]
    omega
  window := by
    intro huncrowded newer start older hsplit hwindow hopen
    rw [Uncrowded, hattempts] at huncrowded
    rw [hattempts]
    exact h.window huncrowded newer start older (hlog ▸ hsplit) hwindow (by omega)

/-- A call that goes on to another phase or ends makes no new failure possible. -/
lemma countP_erase_add {call : LoginCall} {calls : List LoginCall} (p : LoginCall → Bool)
    (h : call ∈ calls) :
    (calls.erase call).countP p + (if p call then 1 else 0) = calls.countP p := by
  rw [(List.perm_cons_erase h).countP_eq p, List.countP_cons]

lemma pendingFailures_setPhase {call : LoginCall} (h : call ∈ s.calls) (phase : LoginPhase) :
    (s.setPhase call phase).pendingFailures verifyPassword address =
      s.pendingFailures verifyPassword address := by
  have hcount := countP_erase_add
    (fun call => call.address = address && !s.accepts verifyPassword call) h
  rw [pendingFailures, setPhase, List.countP_cons]
  exact hcount

/-- The call that ends counted when it would fail. -/
lemma pendingFailures_erase {call : LoginCall} (h : call ∈ s.calls)
    (hcalls : s'.calls = s.calls.erase call) (husername : s'.username = s.username)
    (hhash : s'.passwordHash = s.passwordHash) :
    s'.pendingFailures verifyPassword address +
        (if call.address = address && !s.accepts verifyPassword call then 1 else 0) =
      s.pendingFailures verifyPassword address := by
  have hcount := countP_erase_add
    (fun call => call.address = address && !s.accepts verifyPassword call) h
  simp only [pendingFailures, accepts, hcalls, husername, hhash]
  exact hcount

lemma lookup_currentAttempts {attempt : LoginAttempt}
    (h : s.attempts.lookup address = some attempt)
    (hopen : s.now < attempt.windowStarted + loginWindow) :
    s.currentAttempts.lookup address = some attempt := by
  refine AList.lookup_retain_eq_some.mpr ⟨h, ?_⟩
  have hpos : 0 < loginWindow := by decide
  simp only [decide_eq_true_eq]
  omega

lemma recordedFailures_currentAttempts_le :
    recordedFailures s.currentAttempts address ≤ recordedFailures s.attempts address := by
  unfold recordedFailures
  cases hc : s.currentAttempts.lookup address with
  | none => exact Nat.zero_le _
  | some attempt => rw [(AList.lookup_retain_eq_some.mp hc).1]

/-- `login`, when the call is admitted. -/
lemma Invariant.admit (h : Invariant verifyPassword address s) (huncrowded : Uncrowded address s)
    {call : LoginCall} (hadmitted : (s.canAttempt call.address).1 = true)
    (hspaced : call.address = address → s.accepts verifyPassword call = false →
      recordedFailures s.currentAttempts address + s.pendingFailures verifyPassword address <
        maxLoginFailures)
    (hs' : s' = { (s.canAttempt call.address).2.record call.address .admitted with
      calls := call :: s.calls }) :
    Invariant verifyPassword address s' := by
  have hkept := h.window huncrowded
  have hrecorded : recordedFailures s.currentAttempts address ≤
      recordedFailures s.attempts address := recordedFailures_currentAttempts_le
  have hbounded := h.bounded
  subst hs'
  refine ⟨h.throttled.cons ?_, ?_, fun _ => hkept.cons_of_other rfl rfl (by simp [isFailure]) ?_⟩
  · intro newer start older hsplit hwindow
    have hopen : s.now < start + loginWindow := (hwindow _ List.mem_cons_self).1
    rw [failuresOf_cons_of_not (by simp [isFailure])]
    refine ⟨(h.throttled newer start older hsplit hwindow.tail).1, ?_⟩
    rintro ⟨time, hentry⟩
    have hsame : call.address = address := congrArg LogEntry.address hentry
    -- the window is in the table, so that its failures were counted
    have hlookup := lookup_currentAttempts (hkept newer start older hsplit hwindow.tail hopen) hopen
    rw [hsame] at hadmitted
    simpa [canAttempt, hlookup] using hadmitted
  · show recordedFailures s.currentAttempts address + _ ≤ _
    rw [pendingFailures, List.countP_cons]
    show _ + (s.pendingFailures verifyPassword address + _) ≤ _
    split
    case isTrue hfails =>
      simp only [Bool.and_eq_true, decide_eq_true_eq, Bool.not_eq_true'] at hfails
      have hroom := hspaced hfails.1 hfails.2
      omega
    case isFalse => omega
  · intro attempt hattempt hopen _
    exact lookup_currentAttempts hattempt hopen

/-- `login`, when the call is refused. -/
lemma Invariant.refuse (h : Invariant verifyPassword address s) (huncrowded : Uncrowded address s)
    {caller : IpAddr} (hs' : s' = (s.canAttempt caller).2.record caller .rateLimited) :
    Invariant verifyPassword address s' := by
  have hrecorded : recordedFailures s.currentAttempts address ≤
      recordedFailures s.attempts address := recordedFailures_currentAttempts_le
  subst hs'
  refine ⟨h.throttled.cons_of_other (by simp [isFailure]) (by simp), ?_, fun _ =>
    (h.window huncrowded).cons_of_other rfl rfl (by simp [isFailure]) ?_⟩
  · exact le_trans (Nat.add_le_add_right hrecorded _) h.bounded
  · intro attempt hattempt hopen _
    exact lookup_currentAttempts hattempt hopen

lemma recordedFailures_erase_le (attempts : HashMap IpAddr LoginAttempt) (other : IpAddr) :
    recordedFailures (attempts.erase other) address ≤ recordedFailures attempts address := by
  unfold recordedFailures
  rw [AList.lookup_erase_eq]
  split
  · exact Nat.zero_le _
  · exact le_rfl

/-- A login: the address is forgotten, and with it its window. -/
lemma Invariant.logIn (h : Invariant verifyPassword address s) (huncrowded : Uncrowded address s)
    {call : LoginCall} (hcall : call ∈ s.calls)
    (hs' : s' = { { s with calls := s.calls.erase call }.record call.address .loggedIn with
      attempts := s.attempts.erase call.address }) :
    Invariant verifyPassword address s' := by
  have hrecorded : recordedFailures (s.attempts.erase call.address) address ≤
      recordedFailures s.attempts address := recordedFailures_erase_le s.attempts call.address
  have hpending : s'.pendingFailures verifyPassword address + _ = _ :=
    pendingFailures_erase hcall (by rw [hs']; rfl) (by rw [hs']; rfl) (by rw [hs']; rfl)
  have hbounded := h.bounded
  subst hs'
  refine ⟨h.throttled.cons_of_other (by simp [isFailure]) (by simp), ?_, fun _ =>
    (h.window huncrowded).cons_of_other rfl rfl (by simp [isFailure]) ?_⟩
  · show recordedFailures (s.attempts.erase call.address) address + _ ≤ _
    omega
  · intro attempt hattempt _ hother
    have hne : address ≠ call.address := fun heq => hother ⟨heq.symm, rfl⟩
    show (s.attempts.erase call.address).lookup address = some attempt
    rw [AList.lookup_erase_eq, if_neg hne]
    exact hattempt

/-! ## Recording a failure -/

/-- The table after a failure of `caller`. -/
lemma recordFailure_eq {caller oldest : IpAddr} (h : s.recordFailure caller oldest = some s') :
    ∃ attempts, (attempts = s.attempts ∨ s.needsRoom caller ∧ attempts = s.attempts.erase oldest) ∧
      s' = { s with
        attempts := attempts.insert caller ((attempts.lookup caller).getD ⟨s.now, 0⟩).fail } := by
  unfold recordFailure at h
  split at h
  · cases h
  · cases h
    refine ⟨_, ?_, rfl⟩
    split
    case isTrue hroom => exact .inr ⟨hroom, rfl⟩
    case isFalse => exact .inl rfl

/-- There is room for the address itself. -/
lemma needsRoom_self (h : Uncrowded address s) : s.needsRoom address = false := by
  by_contra hroom
  simp only [needsRoom, Bool.not_eq_false, Bool.and_eq_true, decide_eq_true_eq,
    Bool.not_eq_true', List.contains_eq_mem, decide_eq_false_iff_not] at hroom
  have hsize : (s.attempts.erase address).size = s.attempts.size :=
    AList.size_erase_of_notMem (AList.mem_keys.not.mpr hroom.2)
  rw [Uncrowded, hsize] at h
  omega

/-- A failure of another address takes the place of this one only when too many other addresses
are in the table afterwards. -/
lemma oldest_ne_of_uncrowded {caller oldest : IpAddr} {attempt : LoginAttempt}
    (hne : caller ≠ address) (hroom : s.needsRoom caller)
    (hsize : (((s.attempts.erase oldest).insert caller attempt).erase address).size <
      maxTrackedAddresses) (hmem : address ∈ s.attempts) : oldest ≠ address := by
  rintro rfl
  simp only [needsRoom, Bool.and_eq_true, decide_eq_true_eq, Bool.not_eq_true',
    List.contains_eq_mem, decide_eq_false_iff_not] at hroom
  have hcaller : caller ∉ s.attempts.erase oldest := by
    rw [AList.mem_erase]
    exact fun h => AList.mem_keys.not.mpr hroom.2 h.2
  have hgone : oldest ∉ (s.attempts.erase oldest).insert caller attempt := by
    rw [AList.mem_insert, AList.mem_erase]
    rintro (heq | h)
    · exact hne heq.symm
    · exact h.1 rfl
  rw [AList.size_erase_of_notMem hgone, AList.size_insert_of_notMem hcaller,
    AList.size_erase_of_mem hmem] at hsize
  omega

lemma recordedFailures_insert_le (attempts : HashMap IpAddr LoginAttempt) (address : IpAddr)
    (now : ℕ) :
    recordedFailures
        (attempts.insert address ((attempts.lookup address).getD ⟨now, 0⟩).fail) address ≤
      recordedFailures attempts address + 1 := by
  unfold recordedFailures
  rw [AList.lookup_insert]
  cases attempts.lookup address with
  | none => simp [LoginAttempt.fail]
  | some attempt =>
    simp only [Option.getD_some, Option.elim_some, LoginAttempt.fail]
    omega

/-- A failure of the address itself. -/
lemma Invariant.fail (h : Invariant verifyPassword address s) (huncrowded : Uncrowded address s)
    {call : LoginCall} (hcall : call ∈ s.calls) (haddress : call.address = address)
    (hwrong : s.accepts verifyPassword call = false)
    (hs' : s' = { s with
      calls := s.calls.erase call
      attempts := s.attempts.insert address ((s.attempts.lookup address).getD ⟨s.now, 0⟩).fail
      log := ⟨address, s.now, .invalidCredentials (!s.attempts.keys.contains address)⟩ :: s.log }) :
    Invariant verifyPassword address s' := by
  have hkept := h.window huncrowded
  have hbounded := h.bounded
  have hpending : s'.pendingFailures verifyPassword address + _ = _ :=
    pendingFailures_erase hcall (by rw [hs']) (by rw [hs']) (by rw [hs'])
  rw [if_pos (by simp [haddress, hwrong])] at hpending
  have hfailure : isFailure address
      ⟨address, s.now, .invalidCredentials (!s.attempts.keys.contains address)⟩ = true := by
    cases s.attempts.keys.contains address <;> simp [isFailure]
  -- a window that is still open has its failures in the table
  have hwindow : ∀ newer start older, s.log = newer ++ opening address start :: older →
      InWindow address start (⟨address, s.now,
        .invalidCredentials (!s.attempts.keys.contains address)⟩ :: newer) →
      s.attempts.lookup address = some ⟨start, 1 + failuresOf address newer⟩ := by
    intro newer start older hsplit hin
    exact hkept newer start older hsplit hin.tail (hin _ List.mem_cons_self).1
  subst hs'
  refine ⟨h.throttled.cons ?_, ?_, ?_⟩
  · intro newer start older hsplit hin
    rw [recordedFailures, hwindow newer start older hsplit hin] at hbounded
    simp only [Option.elim_some] at hbounded
    refine ⟨?_, by simp⟩
    rw [failuresOf_cons hfailure]
    omega
  · have hrecorded := recordedFailures_insert_le s.attempts address s.now
    show recordedFailures (s.attempts.insert address _) address + _ ≤ _
    omega
  · intro _ newer start older hsplit hin _
    show (s.attempts.insert address _).lookup address = _
    rw [AList.lookup_insert]
    cases newer with
    | nil =>
      obtain ⟨hentry, -⟩ := List.cons.inj hsplit
      obtain ⟨-, hstart, hopened⟩ := LogEntry.mk.inj hentry
      have hfresh : address ∉ s.attempts.keys := by simpa using hopened
      have hnone : s.attempts.lookup address = none :=
        AList.lookup_eq_none.mpr (AList.mem_keys.not.mpr hfresh)
      simp [hnone, LoginAttempt.fail, failuresOf, hstart]
    | cons first newer =>
      obtain ⟨rfl, hrest⟩ := List.cons.inj hsplit
      have hlookup := hwindow newer start older hrest hin
      rw [recordedFailures, hlookup] at hbounded
      rw [hlookup, failuresOf_cons hfailure]
      simp only [Option.elim_some, maxLoginFailures, Option.getD_some, LoginAttempt.fail,
        Option.some.injEq, LoginAttempt.mk.injEq, true_and] at hbounded ⊢
      omega

/-- A failure of another address. -/
lemma Invariant.fail_other (h : Invariant verifyPassword address s)
    (huncrowded : Uncrowded address s) {call : LoginCall} (hcall : call ∈ s.calls)
    (hother : call.address ≠ address) {attempts : HashMap IpAddr LoginAttempt} {oldest : IpAddr}
    {attempt : LoginAttempt} {record : LoginRecord}
    (hattempts : attempts = s.attempts ∨
      s.needsRoom call.address ∧ attempts = s.attempts.erase oldest)
    (hs' : s' = { s with
      calls := s.calls.erase call
      attempts := attempts.insert call.address attempt
      log := ⟨call.address, s.now, record⟩ :: s.log }) :
    Invariant verifyPassword address s' := by
  have hbounded := h.bounded
  have hpending : s'.pendingFailures verifyPassword address + _ = _ :=
    pendingFailures_erase hcall (by rw [hs']) (by rw [hs']) (by rw [hs'])
  have hinsert : (attempts.insert call.address attempt).lookup address = attempts.lookup address :=
    AList.lookup_insert_ne hother.symm
  have hrecorded : recordedFailures (attempts.insert call.address attempt) address ≤
      recordedFailures s.attempts address := by
    rw [recordedFailures, hinsert]
    obtain rfl | ⟨-, rfl⟩ := hattempts
    · exact le_rfl
    · exact recordedFailures_erase_le s.attempts oldest
  have hnot : isFailure address ⟨call.address, s.now, record⟩ = false := by
    simp [isFailure, hother]
  subst hs'
  refine ⟨h.throttled.cons_of_other hnot ?_, ?_, ?_⟩
  · exact fun time heq => hother (congrArg LogEntry.address heq)
  · show recordedFailures (attempts.insert call.address attempt) address + _ ≤ _
    omega
  · intro hafter
    refine (h.window huncrowded).cons_of_other rfl rfl hnot ?_
    intro found hfound _ _
    show (attempts.insert call.address attempt).lookup address = some found
    rw [hinsert]
    obtain rfl | ⟨hroom, rfl⟩ := hattempts
    · exact hfound
    · have hne := oldest_ne_of_uncrowded hother hroom hafter (AList.mem_of_lookup hfound)
      rw [AList.lookup_erase_eq, if_neg hne.symm]
      exact hfound

/-! ## Every run -/

/-- What the steps of a run satisfy: there is room in the table, and the calls of the address that
fail are spaced. -/
def Admissible (verifyPassword : String → String → Bool) (address : IpAddr) (s : AuthService)
    (e : LoginEvent) : Prop :=
  Uncrowded address s ∧ Spaced verifyPassword address s e

instance (s : AuthService) (e : LoginEvent) :
    Decidable (Admissible verifyPassword address s e) :=
  inferInstanceAs (Decidable (_ ∧ _))

lemma Invariant.step {e : LoginEvent} (h : Invariant verifyPassword address s)
    (hok : Admissible verifyPassword address s e) (hstep : s.step verifyPassword e = some s') :
    Invariant verifyPassword address s' := by
  obtain ⟨huncrowded, hspaced⟩ := hok
  cases e with
  | login caller username password =>
    simp only [AuthService.step] at hstep
    split at hstep
    case isTrue hadmitted =>
      cases hstep
      refine h.admit huncrowded hadmitted ?_ rfl
      rintro rfl hwrong
      exact hspaced rfl hadmitted hwrong
    case isFalse =>
      cases hstep
      exact h.refuse huncrowded rfl
  | acquire call =>
    simp only [AuthService.step] at hstep
    split at hstep
    case isTrue hcall =>
      cases hstep
      exact h.of_quiet rfl rfl le_rfl (Nat.le_of_eq (pendingFailures_setPhase hcall.1 _))
    case isFalse => cases hstep
  | verify call =>
    simp only [AuthService.step] at hstep
    split at hstep
    case isTrue hcall =>
      cases hstep
      exact h.of_quiet rfl rfl le_rfl (Nat.le_of_eq (pendingFailures_setPhase hcall.1 _))
    case isFalse => cases hstep
  | answer call oldest =>
    simp only [AuthService.step] at hstep
    split at hstep
    case isFalse => cases hstep
    case isTrue hcall =>
      split at hstep
      case isTrue =>
        cases hstep
        exact h.logIn huncrowded hcall.1 rfl
      case isFalse hwrong =>
        rw [Bool.not_eq_true] at hwrong
        obtain ⟨t, ht, rfl⟩ := Option.map_eq_some_iff.mp hstep
        obtain ⟨attempts, hattempts, rfl⟩ := recordFailure_eq ht
        by_cases haddress : call.address = address
        · subst haddress
          have hsame : attempts = s.attempts := by
            obtain rfl | ⟨hroom, -⟩ := hattempts
            · rfl
            · have hfree : s.needsRoom call.address = false := needsRoom_self huncrowded
              exact absurd (hfree.symm.trans hroom) Bool.false_ne_true
          subst hsame
          exact h.fail huncrowded hcall.1 rfl hwrong rfl
        · exact h.fail_other huncrowded hcall.1 haddress hattempts rfl
  | abandon call =>
    simp only [AuthService.step] at hstep
    split at hstep
    case isTrue hcall =>
      cases hstep
      exact h.of_quiet rfl rfl le_rfl (Nat.le.intro (pendingFailures_erase hcall rfl rfl rfl))
    case isFalse => cases hstep
  | tick elapsed =>
    cases hstep
    exact h.of_quiet rfl rfl (Nat.le_add_right _ _) le_rfl

/-- **Logging in is throttled.**  In every run in which, while fewer than `MAX_TRACKED_ADDRESSES`
other addresses are tracked, the calls of the address with wrong credentials are spaced, every
window of the address has at most `MAX_LOGIN_FAILURES` failures, and a call that comes after that
many in a window is not admitted. -/
theorem login_throttled {username passwordHash : String}
    (h : Reach (step verifyPassword) (Admissible verifyPassword address)
      (new username passwordHash) s) : Throttled address s.log :=
  (h.invariant (invariant_new address username passwordHash)
    fun _ _ _ hinv hok hstep => hinv.step hok hstep).throttled

/-! ## Calls that do not wait for each other -/

def sampleAddress : IpAddr := .v4 0x7f000001#32

/-- A library that accepts the stored text itself. -/
def sampleVerify (passwordHash password : String) : Bool := passwordHash = password

def sampleService : AuthService := new "admin" "correct"

/-- A wrong call, from its admission to its answer. -/
def wrongCall (phase : LoginPhase) : LoginCall := ⟨sampleAddress, "admin", "wrong", phase⟩

def finishWrongCall : List LoginEvent :=
  [.acquire (wrongCall .waiting), .verify (wrongCall .verifying),
    .answer (wrongCall .verified) sampleAddress]

/-- Wrong calls that all come before the first of them is answered. -/
def wrongCallsAtOnce (count : ℕ) : List LoginEvent :=
  List.replicate count (.login sampleAddress "admin" "wrong") ++
    (List.replicate count finishWrongCall).flatten

def failureLog (opened : Bool) : LogEntry := ⟨sampleAddress, 0, .invalidCredentials opened⟩

lemma log_of_wrongCallsAtOnce :
    (exec (step sampleVerify) (fun s _ => Uncrowded sampleAddress s) sampleService
        (wrongCallsAtOnce 6)).map (·.log) =
      some (List.replicate 5 (failureLog false) ++ failureLog true ::
        List.replicate 6 ⟨sampleAddress, 0, .admitted⟩) := by
  decide +kernel

/-- Five wrong calls at once, and a sixth one that is refused. -/
theorem sixth_call_refused :
    ∃ s, Reach (step sampleVerify) (Admissible sampleVerify sampleAddress) sampleService s ∧
      Throttled sampleAddress s.log ∧
      s.log.head? = some ⟨sampleAddress, 0, .rateLimited⟩ := by
  have hrun : ((exec (step sampleVerify) (Admissible sampleVerify sampleAddress) sampleService
      (wrongCallsAtOnce 5 ++ [.login sampleAddress "admin" "wrong"])).map (·.log.head?)) =
        some (some ⟨sampleAddress, 0, .rateLimited⟩) := by
    decide +kernel
  obtain ⟨s, hs, hhead⟩ := Option.map_eq_some_iff.mp hrun
  have hreach := reach_of_exec hs
  exact ⟨s, hreach, login_throttled hreach, hhead⟩

/-- Six calls that are admitted before the first of them is answered all fail in one window. -/
theorem six_calls_fail_at_once :
    ¬ ∀ (verifyPassword : String → String → Bool) (address : IpAddr)
      (username passwordHash : String) (s : AuthService),
      Reach (step verifyPassword) (fun s _ => Uncrowded address s) (new username passwordHash) s →
        Throttled address s.log := by
  intro hthrottled
  obtain ⟨s, hs, hlog⟩ := Option.map_eq_some_iff.mp log_of_wrongCallsAtOnce
  have hlimit := hthrottled _ _ _ _ s (reach_of_exec hs)
  rw [hlog] at hlimit
  have hcount := (hlimit _ 0 _ rfl (by
    intro entry hentry
    obtain ⟨-, rfl⟩ := List.mem_replicate.mp hentry
    exact ⟨by decide, by simp [failureLog]⟩)).1
  revert hcount
  decide

end AuthService

end GateRust.Control
