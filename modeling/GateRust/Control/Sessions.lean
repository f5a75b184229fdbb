/-
# Sessions of the control plane

A login is answered with a token, the claims of the administrator signed under the secret of the
service, and every other request must come with one.  `GET /auth/session` answers a token that is an
hour old with a new one.  Nothing about tokens is stored at the server, so what a token can be
worth must follow from how the tokens were given out.

Requests come from anybody.  The attacker has seen every token that was issued, and knows some
secrets, but not the one of the service.  The library decodes a token whose signature is right and
whose end, with the leeway of the library, has not passed.  Times are seconds of the wall clock,
which runs beside the clock of the logins.
-/
import GateRust.Lib.SymbolicMac
import GateRust.Control.Login
import Mathlib.Algebra.Group.Nat.Defs

namespace GateRust.Control

open Machine SymbolicMac

structure Claims where
  sub : String
  iat : ℕ
  exp : ℕ
deriving DecidableEq, Repr

/-- A bearer token: the signed claims, or any other string. -/
abbrev Token := Tag String Claims

def TOKEN_REFRESH_INTERVAL : ℕ := 3600

/-- `u64::MAX`, where `saturating_add` ends. -/
def maxSeconds : ℕ := 2 ^ 64 - 1

/-- What the authentication service has for its tokens, and the leeway of the library. -/
structure TokenService where
  username : String
  jwtSecret : String
  tokenTtl : ℕ
  leeway : ℕ

structure AuthenticatedSession where
  issuedAt : ℕ
deriving DecidableEq, Repr

namespace TokenService

variable (auth : TokenService)

/-- The claims that `issue_token` signs. -/
def claims (issuedAt : ℕ) : Claims :=
  ⟨auth.username, issuedAt, min (issuedAt + auth.tokenTtl) maxSeconds⟩

def issueToken (issuedAt : ℕ) : Token := .mac auth.jwtSecret (auth.claims issuedAt)

/-- `decode` of the library, at the time `now`. -/
def decode (now : ℕ) : Token → Option Claims
  | .mac key claims =>
    if verify auth.jwtSecret claims (.mac key claims) ∧ now ≤ claims.exp + auth.leeway then
      some claims
    else none
  | .noise _ => none

def verifyToken (now : ℕ) (token : Token) : Option AuthenticatedSession :=
  ((auth.decode now token).filter fun claims => claims.sub = auth.username).map fun claims =>
    ⟨claims.iat⟩

def refreshToken (now : ℕ) (session : AuthenticatedSession) : Option Token :=
  if now - session.issuedAt < TOKEN_REFRESH_INTERVAL then none else some (auth.issueToken now)

variable {auth} {now : ℕ} {token : Token} {session : AuthenticatedSession}

lemma verifyToken_eq_some (h : auth.verifyToken now token = some session) :
    ∃ claims, token = .mac auth.jwtSecret claims ∧ claims.sub = auth.username ∧
      now ≤ claims.exp + auth.leeway ∧ session = ⟨claims.iat⟩ := by
  simp only [verifyToken, Option.map_eq_some_iff, Option.filter_eq_some_iff,
    decide_eq_true_eq] at h
  obtain ⟨claims, ⟨hdecode, hsub⟩, rfl⟩ := h
  cases token with
  | noise bytes => cases hdecode
  | mac key message =>
    simp only [decode, Option.ite_none_right_eq_some, Option.some.injEq] at hdecode
    obtain ⟨⟨hverify, hend⟩, rfl⟩ := hdecode
    exact ⟨message, verify_iff.mp hverify, hsub, hend, rfl⟩

lemma refreshToken_eq_some {token' : Token} (h : auth.refreshToken now session = some token') :
    session.issuedAt + TOKEN_REFRESH_INTERVAL ≤ now ∧ token' = auth.issueToken now := by
  simp only [refreshToken, Option.ite_none_left_eq_some, Option.some.injEq] at h
  obtain ⟨hage, rfl⟩ := h
  refine ⟨?_, rfl⟩
  unfold TOKEN_REFRESH_INTERVAL at hage ⊢
  omega

lemma exp_le (auth : TokenService) (issuedAt : ℕ) :
    (auth.claims issuedAt).exp ≤ issuedAt + auth.tokenTtl := min_le_left _ _

lemma issueToken_inj {t t' : ℕ} (h : auth.issueToken t = auth.issueToken t') : t = t' := by
  simp only [issueToken, Tag.mac.injEq, claims, Claims.mk.injEq] at h
  exact h.2.2.1

end TokenService

/-- The credentials of the service do not change. -/
lemma AuthService.credentials_step {verifyPassword : String → String → Bool} {s s' : AuthService}
    {e : LoginEvent} (hstep : s.step verifyPassword e = some s') :
    s'.username = s.username ∧ s'.passwordHash = s.passwordHash := by
  cases e with
  | login address username password =>
    simp only [AuthService.step] at hstep
    split at hstep <;> cases hstep <;> exact ⟨rfl, rfl⟩
  | acquire call | verify call | abandon call =>
    simp only [AuthService.step, Option.ite_none_right_eq_some, Option.some.injEq] at hstep
    obtain ⟨-, rfl⟩ := hstep
    exact ⟨rfl, rfl⟩
  | answer call oldest =>
    simp only [AuthService.step, Option.ite_none_right_eq_some] at hstep
    obtain ⟨-, hstep⟩ := hstep
    split at hstep
    · cases hstep
      exact ⟨rfl, rfl⟩
    · obtain ⟨t, ht, rfl⟩ := Option.map_eq_some_iff.mp hstep
      obtain ⟨attempts, -, rfl⟩ := recordFailure_eq ht
      exact ⟨rfl, rfl⟩
  | tick elapsed =>
    cases hstep
    exact ⟨rfl, rfl⟩

/-! ## The service and its callers -/

/-- What is written down of the requests. -/
inductive SessionRecord where
  /-- A login was answered with the token. -/
  | loggedIn (call : LoginCall) (token : Token)
  /-- `require_auth` let a request with the token pass. -/
  | accepted (token : Token)
  /-- The request with the first token was answered with the second. -/
  | refreshed (token token' : Token)
deriving DecidableEq

structure SessionEntry where
  time : ℕ
  record : SessionRecord
deriving DecidableEq

/-- A call of `session` behind `require_auth`.  The token and the time are kept for the statements
only. -/
structure SessionCall where
  token : Token
  acceptedAt : ℕ
  session : AuthenticatedSession
deriving DecidableEq

structure ControlSessions where
  login : AuthService
  clock : ℕ
  calls : List SessionCall
  log : List SessionEntry

inductive SessionEvent where
  /-- A step of the logins. -/
  | login (e : LoginEvent)
  /-- A request to a protected route other than `/auth/session`. -/
  | request (token : Token)
  | session (token : Token)
  /-- The handler of `/auth/session` answers. -/
  | answer (call : SessionCall)
  /-- The connection of a call is gone. -/
  | drop (call : SessionCall)
  | tick (elapsed : ℕ)
deriving DecidableEq

namespace ControlSessions

def new (auth : TokenService) (passwordHash : String) (clock : ℕ) : ControlSessions :=
  ⟨.new auth.username passwordHash, clock, [], []⟩

/-- The tokens that were sent to somebody. -/
def issued (s : ControlSessions) : List Token :=
  s.log.filterMap fun entry =>
    match entry.record with
    | .loggedIn _ token | .refreshed _ token => some token
    | .accepted _ => none

def record (s : ControlSessions) (entry : SessionRecord) : ControlSessions :=
  { s with log := ⟨s.clock, entry⟩ :: s.log }

variable (verifyPassword : String → String → Bool) (auth : TokenService) (known : String → Bool)

/-- The call that a step of the logins answers with a token. -/
def loginAnswered (s : AuthService) : LoginEvent → Option LoginCall
  | .answer call _ => if s.accepts verifyPassword call then some call else none
  | _ => none

def step (s : ControlSessions) : SessionEvent → Option ControlSessions
  | .login e =>
    (s.login.step verifyPassword e).map fun login =>
      match loginAnswered verifyPassword s.login e with
      | some call => { s with login }.record (.loggedIn call (auth.issueToken s.clock))
      | none => { s with login }
  | .request token =>
    if presents known s.issued token then
      match auth.verifyToken s.clock token with
      | some _ => some (s.record (.accepted token))
      | none => some s
    else none
  | .session token =>
    if presents known s.issued token then
      match auth.verifyToken s.clock token with
      | some session =>
        some { s.record (.accepted token) with calls := ⟨token, s.clock, session⟩ :: s.calls }
      | none => some s
    else none
  | .answer call =>
    if call ∈ s.calls then
      let done := { s with calls := s.calls.erase call }
      match auth.refreshToken s.clock call.session with
      | some token => some (done.record (.refreshed call.token token))
      | none => some done
    else none
  | .drop call => if call ∈ s.calls then some { s with calls := s.calls.erase call } else none
  | .tick elapsed => some { s with clock := s.clock + elapsed }

/-! ## What a step does -/

variable {verifyPassword auth known} {s s' : ControlSessions} {e : SessionEvent}

/-- What a step may do to the log and to the calls. -/
inductive Change (verifyPassword : String → String → Bool) (auth : TokenService)
    (known : String → Bool) (s s' : ControlSessions) : Prop
  | quiet : s'.log = s.log → s.clock ≤ s'.clock → s'.calls ⊆ s.calls → Change ..
  | loggedIn (call : LoginCall) : s.login.accepts verifyPassword call = true →
      s' = { s with login := s'.login }.record (.loggedIn call (auth.issueToken s.clock)) →
      Change ..
  | accepted (token : Token) (session : AuthenticatedSession) :
      presents known s.issued token = true → auth.verifyToken s.clock token = some session →
      s'.log = ⟨s.clock, .accepted token⟩ :: s.log → s'.clock = s.clock →
      s'.calls ⊆ ⟨token, s.clock, session⟩ :: s.calls → Change ..
  | refreshed (call : SessionCall) (token : Token) : call ∈ s.calls →
      auth.refreshToken s.clock call.session = some token →
      s'.log = ⟨s.clock, .refreshed call.token token⟩ :: s.log → s'.clock = s.clock →
      s'.calls ⊆ s.calls → Change ..

lemma change_of_step (hstep : step verifyPassword auth known s e = some s') :
    Change verifyPassword auth known s s' := by
  cases e with
  | login e =>
    simp only [step, Option.map_eq_some_iff] at hstep
    obtain ⟨login, -, rfl⟩ := hstep
    cases hanswered : loginAnswered verifyPassword s.login e with
    | none => exact .quiet rfl le_rfl (List.Subset.refl _)
    | some call =>
      refine .loggedIn call ?_ rfl
      unfold loginAnswered at hanswered
      split at hanswered
      · split_ifs at hanswered with haccepts
        cases hanswered
        exact haccepts
      · cases hanswered
  | request token =>
    simp only [step, Option.ite_none_right_eq_some] at hstep
    obtain ⟨hpresents, hstep⟩ := hstep
    cases hverify : auth.verifyToken s.clock token with
    | none =>
      rw [hverify] at hstep
      cases hstep
      exact .quiet rfl le_rfl (List.Subset.refl _)
    | some session =>
      rw [hverify] at hstep
      cases hstep
      exact .accepted token session hpresents hverify rfl rfl (List.subset_cons_self _ _)
  | session token =>
    simp only [step, Option.ite_none_right_eq_some] at hstep
    obtain ⟨hpresents, hstep⟩ := hstep
    cases hverify : auth.verifyToken s.clock token with
    | none =>
      rw [hverify] at hstep
      cases hstep
      exact .quiet rfl le_rfl (List.Subset.refl _)
    | some session =>
      rw [hverify] at hstep
      cases hstep
      exact .accepted token session hpresents hverify rfl rfl (List.Subset.refl _)
  | answer call =>
    simp only [step, Option.ite_none_right_eq_some] at hstep
    obtain ⟨hcall, hstep⟩ := hstep
    cases hrefresh : auth.refreshToken s.clock call.session with
    | none =>
      rw [hrefresh] at hstep
      cases hstep
      exact .quiet rfl le_rfl (List.erase_subset ..)
    | some token =>
      rw [hrefresh] at hstep
      cases hstep
      exact .refreshed call token hcall hrefresh rfl rfl (List.erase_subset ..)
  | drop call =>
    simp only [step, Option.ite_none_right_eq_some, Option.some.injEq] at hstep
    obtain ⟨-, rfl⟩ := hstep
    exact .quiet rfl le_rfl (List.erase_subset ..)
  | tick elapsed =>
    simp only [step, Option.some.injEq] at hstep
    subst hstep
    exact .quiet rfl (Nat.le_add_right _ _) (List.Subset.refl _)

/-- Every step keeps the credentials of the logins. -/
lemma credentials_of_step (hstep : step verifyPassword auth known s e = some s') :
    s'.login.username = s.login.username ∧ s'.login.passwordHash = s.login.passwordHash := by
  cases e with
  | login e =>
    simp only [step, Option.map_eq_some_iff] at hstep
    obtain ⟨login, hlogin, rfl⟩ := hstep
    have hkept := AuthService.credentials_step hlogin
    split <;> exact hkept
  | request token | session token =>
    simp only [step, Option.ite_none_right_eq_some] at hstep
    obtain ⟨-, hstep⟩ := hstep
    split at hstep <;> cases hstep <;> exact ⟨rfl, rfl⟩
  | answer call =>
    simp only [step, Option.ite_none_right_eq_some] at hstep
    obtain ⟨-, hstep⟩ := hstep
    split at hstep <;> cases hstep <;> exact ⟨rfl, rfl⟩
  | drop call =>
    simp only [step, Option.ite_none_right_eq_some, Option.some.injEq] at hstep
    obtain ⟨-, rfl⟩ := hstep
    exact ⟨rfl, rfl⟩
  | tick elapsed =>
    cases hstep
    exact ⟨rfl, rfl⟩

/-! ## Lineages -/

/-- The token of the time `iat` comes from the login `call` by `k` refreshes.  Each of them was
asked for with the token before, while that was still good, and at least an hour after it was
issued. -/
inductive Lineage (auth : TokenService) (log : List SessionEntry) (call : LoginCall) : ℕ → ℕ → Prop
  | login {iat : ℕ} :
      ⟨iat, .loggedIn call (auth.issueToken iat)⟩ ∈ log → Lineage auth log call 0 iat
  | refresh {k iat a t : ℕ} : Lineage auth log call k iat →
      ⟨a, .accepted (auth.issueToken iat)⟩ ∈ log → iat ≤ a → a ≤ iat + auth.tokenTtl + auth.leeway →
      a ≤ t → iat + TOKEN_REFRESH_INTERVAL ≤ t →
      ⟨t, .refreshed (auth.issueToken iat) (auth.issueToken t)⟩ ∈ log →
      Lineage auth log call (k + 1) t

lemma Lineage.mono {log log' : List SessionEntry} {call : LoginCall} {k iat : ℕ}
    (h : Lineage auth log call k iat) (hsub : log ⊆ log') : Lineage auth log' call k iat := by
  induction h with
  | login hlog => exact .login (hsub hlog)
  | refresh _ haccepted hle hend hat hage hlog ih =>
    exact ih.refresh (hsub haccepted) hle hend hat hage (hsub hlog)

/-- Every refresh takes an hour. -/
lemma Lineage.exists_login {log : List SessionEntry} {call : LoginCall} {k iat : ℕ}
    (h : Lineage auth log call k iat) :
    ∃ t, ⟨t, .loggedIn call (auth.issueToken t)⟩ ∈ log ∧ t + TOKEN_REFRESH_INTERVAL * k ≤ iat := by
  induction h with
  | login hlog => exact ⟨_, hlog, by simp⟩
  | refresh _ _ _ _ _ hage _ ih =>
    obtain ⟨t, hlog, hle⟩ := ih
    refine ⟨t, hlog, ?_⟩
    rw [Nat.mul_add, Nat.mul_one]
    omega

/-- The token `old` was answered with the token `token` at the time `t`, as `Lineage.refresh` has
it. -/
def RefreshedAt (auth : TokenService) (log : List SessionEntry) (t : ℕ) (old token : Token) :
    Prop :=
  ∃ iat a, old = auth.issueToken iat ∧ token = auth.issueToken t ∧ ⟨a, .accepted old⟩ ∈ log ∧
    iat ≤ a ∧ a ≤ iat + auth.tokenTtl + auth.leeway ∧ a ≤ t ∧ iat + TOKEN_REFRESH_INTERVAL ≤ t

lemma RefreshedAt.mono {log log' : List SessionEntry} {t : ℕ} {old token : Token}
    (h : RefreshedAt auth log t old token) (hsub : log ⊆ log') :
    RefreshedAt auth log' t old token := by
  obtain ⟨iat, a, hold, htoken, hlog, hrest⟩ := h
  exact ⟨iat, a, hold, htoken, hsub hlog, hrest⟩

/-- A refresh continues the lineage of the token it was asked for with. -/
lemma Lineage.snoc {log : List SessionEntry} {call : LoginCall} {k iat t : ℕ} {token : Token}
    (h : Lineage auth log call k iat) (hlog : ⟨t, .refreshed (auth.issueToken iat) token⟩ ∈ log)
    (hrefreshed : RefreshedAt auth log t (auth.issueToken iat) token) :
    token = auth.issueToken t ∧ Lineage auth log call (k + 1) t := by
  obtain ⟨iat', a, hold, rfl, haccepted, hle, hend, hat, hage⟩ := hrefreshed
  obtain rfl : iat = iat' := TokenService.issueToken_inj hold
  exact ⟨rfl, h.refresh haccepted hle hend hat hage hlog⟩

/-- The token of the time `iat` was issued, and not after the time `t`. -/
def Genuine (auth : TokenService) (log : List SessionEntry) (t : ℕ) (token : Token) : Prop :=
  ∃ call k iat, token = auth.issueToken iat ∧ iat ≤ t ∧ Lineage auth log call k iat

lemma Genuine.mono {log log' : List SessionEntry} {t t' : ℕ} {token : Token}
    (h : Genuine auth log t token) (hsub : log ⊆ log') (hle : t ≤ t') :
    Genuine auth log' t' token := by
  obtain ⟨call, k, iat, htoken, hiat, hlineage⟩ := h
  exact ⟨call, k, iat, htoken, Nat.le_trans hiat hle, hlineage.mono hsub⟩

/-- What holds of the tokens, the calls and the log, whatever was requested. -/
structure Sound (verifyPassword : String → String → Bool) (auth : TokenService) (hash : String)
    (s : ControlSessions) : Prop where
  username : s.login.username = auth.username
  passwordHash : s.login.passwordHash = hash
  issued : ∀ token ∈ s.issued, Genuine auth s.log s.clock token
  accepted : ∀ t token, ⟨t, .accepted token⟩ ∈ s.log →
    t ≤ s.clock ∧ ∃ iat, token = auth.issueToken iat ∧ t ≤ iat + auth.tokenTtl + auth.leeway ∧
      Genuine auth s.log t token
  calls : ∀ c ∈ s.calls, ⟨c.acceptedAt, .accepted c.token⟩ ∈ s.log ∧
    c.token = auth.issueToken c.session.issuedAt
  logins : ∀ t call token, ⟨t, .loggedIn call token⟩ ∈ s.log → token = auth.issueToken t ∧
    verifyPassword hash call.password = true ∧ call.username = auth.username
  refreshes : ∀ t old token, ⟨t, .refreshed old token⟩ ∈ s.log →
    RefreshedAt auth s.log t old token

variable {hash : String}

lemma mem_issued {token : Token} : token ∈ s.issued ↔
    (∃ t call, ⟨t, .loggedIn call token⟩ ∈ s.log) ∨ ∃ t old, ⟨t, .refreshed old token⟩ ∈ s.log := by
  rw [issued, List.mem_filterMap]
  constructor
  · rintro ⟨⟨t, record⟩, hentry, hsome⟩
    cases record with
    | loggedIn call other =>
      cases hsome
      exact Or.inl ⟨t, call, hentry⟩
    | accepted other => cases hsome
    | refreshed old other =>
      cases hsome
      exact Or.inr ⟨t, old, hentry⟩
  · rintro (⟨t, call, hentry⟩ | ⟨t, old, hentry⟩)
    · exact ⟨_, hentry, rfl⟩
    · exact ⟨_, hentry, rfl⟩

lemma sound_new (auth : TokenService) (hash : String) (clock : ℕ) :
    Sound verifyPassword auth hash (new auth hash clock) where
  username := rfl
  passwordHash := rfl
  issued token htoken := by cases htoken
  accepted t token hentry := by cases hentry
  calls c hc := by cases hc
  logins t call token hentry := by cases hentry
  refreshes t old token hentry := by cases hentry

lemma Sound.quiet (h : Sound verifyPassword auth hash s) (hlog : s'.log = s.log)
    (hclock : s.clock ≤ s'.clock) (hcalls : s'.calls ⊆ s.calls)
    (husername : s'.login.username = s.login.username)
    (hhash : s'.login.passwordHash = s.login.passwordHash) :
    Sound verifyPassword auth hash s' where
  username := husername.trans h.username
  passwordHash := hhash.trans h.passwordHash
  issued token htoken := by
    have hsub : s.log ⊆ s'.log := hlog ▸ List.Subset.refl _
    refine (h.issued token ?_).mono hsub hclock
    rw [mem_issued, hlog] at htoken
    exact mem_issued.mpr htoken
  accepted t token hentry := by
    rw [hlog] at hentry ⊢
    obtain ⟨hle, hrest⟩ := h.accepted t token hentry
    exact ⟨Nat.le_trans hle hclock, hrest⟩
  calls c hc := hlog ▸ h.calls c (hcalls hc)
  logins t call token hentry := h.logins t call token (hlog ▸ hentry)
  refreshes t old token hentry := hlog ▸ h.refreshes t old token (hlog ▸ hentry)

/-- A new entry in the log, at the time of the clock. -/
lemma Sound.append (h : Sound verifyPassword auth hash s) {entry : SessionRecord}
    (hlog : s'.log = ⟨s.clock, entry⟩ :: s.log) (hclock : s'.clock = s.clock)
    (husername : s'.login.username = s.login.username)
    (hhash : s'.login.passwordHash = s.login.passwordHash)
    (hissued : ∀ token,
      (∃ call, entry = .loggedIn call token) ∨ (∃ old, entry = .refreshed old token) →
        Genuine auth s'.log s.clock token)
    (haccepted : ∀ token, entry = .accepted token → ∃ iat, token = auth.issueToken iat ∧
      s.clock ≤ iat + auth.tokenTtl + auth.leeway ∧ Genuine auth s.log s.clock token)
    (hcalls : ∀ c ∈ s'.calls, c ∈ s.calls ∨ entry = .accepted c.token ∧ c.acceptedAt = s.clock ∧
      c.token = auth.issueToken c.session.issuedAt)
    (hlogins : ∀ call token, entry = .loggedIn call token → token = auth.issueToken s.clock ∧
      verifyPassword hash call.password = true ∧ call.username = auth.username)
    (hrefreshes : ∀ old token, entry = .refreshed old token →
      RefreshedAt auth s.log s.clock old token) :
    Sound verifyPassword auth hash s' := by
  have hsub : s.log ⊆ s'.log := hlog ▸ List.subset_cons_self _ _
  refine ⟨husername.trans h.username, hhash.trans h.passwordHash, fun token htoken => ?_,
    fun t token hentry => ?_, fun c hc => ?_, fun t call token hentry => ?_,
    fun t old token hentry => ?_⟩
  · rw [mem_issued, hlog] at htoken
    rw [hclock]
    have hold : ∀ t record, ⟨t, record⟩ ∈ (⟨s.clock, entry⟩ : SessionEntry) :: s.log →
        record = entry ∨ ⟨t, record⟩ ∈ s.log := by
      intro t record hmem
      rcases List.mem_cons.mp hmem with heq | hmem
      · exact Or.inl (SessionEntry.mk.inj heq).2
      · exact Or.inr hmem
    rcases htoken with ⟨t, call, hmem⟩ | ⟨t, old, hmem⟩
    · rcases hold t _ hmem with heq | hmem
      · exact hissued token (Or.inl ⟨call, heq.symm⟩)
      · exact (h.issued token (mem_issued.mpr (Or.inl ⟨t, call, hmem⟩))).mono hsub le_rfl
    · rcases hold t _ hmem with heq | hmem
      · exact hissued token (Or.inr ⟨old, heq.symm⟩)
      · exact (h.issued token (mem_issued.mpr (Or.inr ⟨t, old, hmem⟩))).mono hsub le_rfl
  · rw [hclock]
    rw [hlog] at hentry
    rcases List.mem_cons.mp hentry with heq | hmem
    · obtain ⟨rfl, hrecord⟩ := SessionEntry.mk.inj heq
      obtain ⟨iat, htoken, hend, hgenuine⟩ := haccepted token hrecord.symm
      exact ⟨le_rfl, iat, htoken, hend, hgenuine.mono hsub le_rfl⟩
    · obtain ⟨hle, iat, htoken, hend, hgenuine⟩ := h.accepted t token hmem
      exact ⟨hle, iat, htoken, hend, hgenuine.mono hsub le_rfl⟩
  · rcases hcalls c hc with hold | ⟨rfl, htime, htoken⟩
    · exact ⟨hsub (h.calls c hold).1, (h.calls c hold).2⟩
    · rw [hlog, htime]
      exact ⟨List.mem_cons_self, htoken⟩
  · rw [hlog] at hentry
    rcases List.mem_cons.mp hentry with heq | hmem
    · obtain ⟨rfl, hrecord⟩ := SessionEntry.mk.inj heq
      exact hlogins call token hrecord.symm
    · exact h.logins t call token hmem
  · rw [hlog] at hentry
    rcases List.mem_cons.mp hentry with heq | hmem
    · obtain ⟨rfl, hrecord⟩ := SessionEntry.mk.inj heq
      exact (hrefreshes old token hrecord.symm).mono hsub
    · exact (h.refreshes t old token hmem).mono hsub

lemma Sound.step (h : Sound verifyPassword auth hash s) (hsecret : known auth.jwtSecret = false)
    (hstep : step verifyPassword auth known s e = some s') : Sound verifyPassword auth hash s' := by
  obtain ⟨husername, hhash⟩ := credentials_of_step hstep
  rcases change_of_step hstep with ⟨hlog, hclock, hcalls⟩ | ⟨call, haccepts, heq⟩ |
    ⟨token, session, hpresents, hverify, hlog, hclock, hcalls⟩ |
    ⟨call, token, hcall, hrefresh, hlog, hclock, hcalls⟩
  · exact h.quiet hlog hclock hcalls husername hhash
  · have hlog : s'.log = ⟨s.clock, .loggedIn call (auth.issueToken s.clock)⟩ :: s.log := by
      rw [heq]
      rfl
    refine h.append hlog (by rw [heq]; rfl) husername hhash ?_ (fun _ hentry => by cases hentry)
      (fun c hc => ?_) ?_ (fun _ _ hentry => by cases hentry)
    · rintro token (⟨other, hother⟩ | ⟨old, hold⟩)
      · cases hother
        exact ⟨call, 0, s.clock, rfl, le_rfl, .login (hlog ▸ List.mem_cons_self)⟩
      · cases hold
    · rw [heq] at hc
      exact Or.inl hc
    · rintro other token hother
      cases hother
      rw [AuthService.accepts, Bool.and_eq_true, decide_eq_true_eq] at haccepts
      rw [← h.passwordHash, ← h.username]
      exact ⟨rfl, haccepts⟩
  · obtain ⟨claims, rfl, hsub, hend, rfl⟩ := TokenService.verifyToken_eq_some hverify
    have hsent : Tag.mac auth.jwtSecret claims ∈ s.issued :=
      (mem_of_verify (verify_iff.mpr rfl) hpresents).resolve_left (Bool.eq_false_iff.mp hsecret)
    obtain ⟨call, k, iat, htoken, hiat, hlineage⟩ := h.issued _ hsent
    have hclaims : claims = auth.claims iat := (Tag.mac.inj htoken).2
    refine h.append hlog hclock husername hhash ?_ ?_ (fun c hc => ?_)
      (fun _ _ hentry => by cases hentry) (fun _ _ hentry => by cases hentry)
    · rintro token (⟨other, hother⟩ | ⟨old, hold⟩)
      · cases hother
      · cases hold
    · rintro token ⟨⟩
      refine ⟨iat, htoken, ?_, call, k, iat, htoken, hiat, hlineage⟩
      have hexp : (auth.claims iat).exp ≤ iat + auth.tokenTtl := auth.exp_le iat
      rw [hclaims] at hend
      omega
    · rcases List.mem_cons.mp (hcalls hc) with rfl | hold
      · exact Or.inr ⟨rfl, rfl, by rw [hclaims]; rfl⟩
      · exact Or.inl hold
  · obtain ⟨hage, rfl⟩ := TokenService.refreshToken_eq_some hrefresh
    obtain ⟨haccepted, hissued⟩ := h.calls call hcall
    obtain ⟨hat, iat, htoken, hend, login, k, iat', htoken', hiat, hlineage⟩ :=
      h.accepted _ _ haccepted
    obtain rfl : call.session.issuedAt = iat :=
      TokenService.issueToken_inj (hissued.symm.trans htoken)
    obtain rfl : call.session.issuedAt = iat' :=
      TokenService.issueToken_inj (hissued.symm.trans htoken')
    have hrefreshed : RefreshedAt auth s.log s.clock call.token (auth.issueToken s.clock) :=
      ⟨_, _, hissued, rfl, haccepted, hiat, hend, hat, hage⟩
    have hsub : s.log ⊆ s'.log := hlog ▸ List.subset_cons_self _ _
    refine h.append hlog hclock husername hhash ?_ (fun _ hentry => by cases hentry)
      (fun c hc => Or.inl (hcalls hc)) (fun _ _ hentry => by cases hentry) ?_
    · rintro token (⟨other, hother⟩ | ⟨old, hold⟩)
      · cases hother
      · cases hold
        have hentry : ⟨s.clock, .refreshed (auth.issueToken call.session.issuedAt)
            (auth.issueToken s.clock)⟩ ∈ s'.log := by
          rw [hlog, ← hissued]
          exact List.mem_cons_self
        have hnew := (hlineage.mono hsub).snoc hentry (hissued ▸ hrefreshed.mono hsub)
        exact ⟨login, k + 1, s.clock, rfl, le_rfl, hnew.2⟩
    · rintro old token hold
      cases hold
      exact hrefreshed

/-- **Where an accepted token comes from.**  In every run, whatever is requested by whom, a token
that `require_auth` accepts was issued by the service and comes from a login with the right
credentials by some number of refreshes.  Between two of them lies at least an hour, and each token
of the chain was presented before its own end, so a session that nobody uses for the lifetime of a
token and the leeway cannot be used any more. -/
theorem accepted_of_login (hsecret : known auth.jwtSecret = false) {clock : ℕ}
    (h : Reach (ControlSessions.step verifyPassword auth known) Always (new auth hash clock) s)
    {t : ℕ} {token : Token} (haccepted : ⟨t, .accepted token⟩ ∈ s.log) :
    ∃ call k iat start, Lineage auth s.log call k iat ∧ token = auth.issueToken iat ∧
      iat ≤ t ∧ t ≤ iat + auth.tokenTtl + auth.leeway ∧
      ⟨start, .loggedIn call (auth.issueToken start)⟩ ∈ s.log ∧
      start + TOKEN_REFRESH_INTERVAL * k ≤ iat ∧
      verifyPassword hash call.password = true ∧ call.username = auth.username := by
  have hsound : Sound verifyPassword auth hash s :=
    h.invariant (sound_new auth hash clock) fun _ _ _ hs _ hstep => hs.step hsecret hstep
  obtain ⟨-, iat, htoken, hend, call, k, iat', htoken', hiat, hlineage⟩ :=
    hsound.accepted t token haccepted
  obtain rfl : iat = iat' := TokenService.issueToken_inj (htoken.symm.trans htoken')
  obtain ⟨start, hlogin, hstart⟩ := hlineage.exists_login
  exact ⟨call, k, iat, start, hlineage, htoken, hiat, hend, hlogin, hstart,
    (hsound.logins start call _ hlogin).2⟩

/-- Tokens of three days. -/
def sampleTokens : TokenService := ⟨"admin", "0123456789abcdef", 259200, 60⟩

/-- A login, a refresh after two hours, and a request with the new token two days later. -/
def refreshedRun : List SessionEvent :=
  let call : LoginCall := ⟨AuthService.sampleAddress, "admin", "secret", .waiting⟩
  [.login (.login call.address call.username call.password), .login (.acquire call),
    .login (.verify { call with phase := .verifying }),
    .login (.answer { call with phase := .verified } call.address), .tick 7200,
    .session (sampleTokens.issueToken 0), .tick 1,
    .answer ⟨sampleTokens.issueToken 0, 7200, ⟨0⟩⟩, .tick 172800,
    .request (sampleTokens.issueToken 7201)]

theorem accepted_after_refresh : ∃ s,
    exec (ControlSessions.step AuthService.sampleVerify sampleTokens fun _ => false) Always
      (new sampleTokens "secret" 0) refreshedRun = some s ∧
    ∃ call k iat start, Lineage sampleTokens s.log call k iat ∧
      sampleTokens.issueToken 7201 = sampleTokens.issueToken iat ∧
      start + TOKEN_REFRESH_INTERVAL * k ≤ iat ∧ 180001 ≤ iat + 259200 + 60 := by
  have hrun : (exec (ControlSessions.step AuthService.sampleVerify sampleTokens fun _ => false)
      Always (new sampleTokens "secret" 0) refreshedRun).map
        (fun s => decide (⟨180001, .accepted (sampleTokens.issueToken 7201)⟩ ∈ s.log)) =
      some true := by
    decide +kernel
  obtain ⟨s, hs, haccepted⟩ := Option.map_eq_some_iff.mp hrun
  obtain ⟨call, k, iat, start, hlineage, htoken, -, hend, -, hstart, -⟩ :=
    accepted_of_login rfl (reach_of_exec hs) (of_decide_eq_true haccepted)
  exact ⟨s, hs, call, k, iat, start, hlineage, htoken, hstart, hend⟩

end ControlSessions

end GateRust.Control
