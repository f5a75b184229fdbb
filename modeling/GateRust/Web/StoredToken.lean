/-
# The token of the console

The page keeps its token in the session storage of the browser.  A call of `request` is sent with
the stored token, and a response may bring a new one, which is stored only while the token that the
call was sent with is still the stored one.  Calls may stay in flight over a logout, another login,
and the refresh of another call.
-/
import GateRust.Control.Sessions

namespace GateRust.Web

open Machine Control

/-- The storage of a page and its calls in flight, beside the server.  Of the empty string, which
stands for no token, `none` takes the place. -/
structure Session where
  server : ControlSessions
  stored : Option Token
  /-- The state of `App`. -/
  token : Option Token
  /-- For each call in flight the token that it was sent with. -/
  requests : List (Option Token)
  /-- The login whose answer the page took last, none after a logout.  For the statements only. -/
  last : Option LoginCall

inductive SessionPageEvent where
  | server (e : SessionEvent)
  /-- A login is answered, and `authenticated` takes its token. -/
  | authenticated (call : LoginCall) (token : Token)
  /-- A component calls `request` with the token that it was rendered with. -/
  | request (token : Option Token)
  /-- A call sent with `authToken` is answered, with a new token in the header or not. -/
  | respond (authToken refreshed : Option Token)
  | fail (authToken : Option Token)
  /-- The user or a response with the status 401 logs the page out. -/
  | logout
  /-- The page is loaded again. -/
  | reload
deriving DecidableEq

namespace Session

def new (auth : TokenService) (hash : String) (clock : ℕ) : Session :=
  ⟨.new auth hash clock, none, none, [], none⟩

/-- The server has answered a login with the token. -/
def LoggedIn (log : List SessionEntry) (call : LoginCall) (token : Token) : Prop :=
  ∃ entry ∈ log, entry.record = .loggedIn call token

/-- The server has answered a call sent with the token `old` with the token `token`. -/
def Refreshed (log : List SessionEntry) (old token : Token) : Prop :=
  ∃ entry ∈ log, entry.record = .refreshed old token

instance (log : List SessionEntry) (call : LoginCall) (token : Token) :
    Decidable (LoggedIn log call token) := inferInstanceAs (Decidable (∃ _ ∈ log, _))

instance (log : List SessionEntry) (old token : Token) : Decidable (Refreshed log old token) :=
  inferInstanceAs (Decidable (∃ _ ∈ log, _))

/-- The token in the header of a response is one that the server has put there. -/
def Answers (log : List SessionEntry) : Option Token → Option Token → Prop
  | _, none => True
  | none, some _ => False
  | some old, some token => Refreshed log old token

instance (log : List SessionEntry) :
    (authToken refreshed : Option Token) → Decidable (Answers log authToken refreshed)
  | _, none => inferInstanceAs (Decidable True)
  | none, some _ => inferInstanceAs (Decidable False)
  | some old, some token => inferInstanceAs (Decidable (Refreshed log old token))

variable (verifyPassword : String → String → Bool) (auth : TokenService) (known : String → Bool)

def step (s : Session) : SessionPageEvent → Option Session
  | .server e => (s.server.step verifyPassword auth known e).map fun server => { s with server }
  | .authenticated call token =>
    if LoggedIn s.server.log call token then
      some { s with stored := some token, token := some token, last := some call }
    else none
  | .request token =>
    let authToken := token.bind fun token => s.stored.or (some token)
    some { s with requests := authToken :: s.requests }
  | .respond authToken refreshed =>
    if authToken ∈ s.requests ∧ Answers s.server.log authToken refreshed then
      let stored := if refreshed.isSome ∧ s.stored = authToken then refreshed else s.stored
      some { s with stored, requests := s.requests.erase authToken }
    else none
  | .fail authToken =>
    if authToken ∈ s.requests then some { s with requests := s.requests.erase authToken } else none
  | .logout => some { s with stored := none, token := none, last := none }
  | .reload => some { s with token := s.stored, requests := [] }

variable {verifyPassword auth known} {s s' : Session} {e : SessionPageEvent} {hash : String}

/-- The stored token belongs to the login that the page took last. -/
structure Own (verifyPassword : String → String → Bool) (auth : TokenService) (hash : String)
    (s : Session) : Prop where
  server : s.server.Sound verifyPassword auth hash
  none_iff : s.stored = none ↔ s.last = none
  lineage : ∀ token call, s.stored = some token → s.last = some call →
    ∃ k iat, token = auth.issueToken iat ∧ ControlSessions.Lineage auth s.server.log call k iat

lemma own_new (auth : TokenService) (hash : String) (clock : ℕ) :
    Own verifyPassword auth hash (new auth hash clock) where
  server := ControlSessions.sound_new auth hash clock
  none_iff := by simp [new]
  lineage token call hstored := by cases hstored

/-- A step that leaves the storage. -/
lemma Own.of_eq (h : Own verifyPassword auth hash s) (hserver : s'.server = s.server)
    (hstored : s'.stored = s.stored) (hlast : s'.last = s.last) :
    Own verifyPassword auth hash s' where
  server := hserver ▸ h.server
  none_iff := by rw [hstored, hlast, h.none_iff]
  lineage := by
    rw [hserver, hstored, hlast]
    exact h.lineage

/-- The log of the server only grows. -/
lemma log_subset {server server' : ControlSessions} {e : SessionEvent}
    (hstep : server.step verifyPassword auth known e = some server') :
    server.log ⊆ server'.log := by
  rcases ControlSessions.change_of_step hstep with ⟨hlog, -, -⟩ | ⟨call, -, heq⟩ |
    ⟨token, session, -, -, hlog, -, -⟩ | ⟨call, token, -, -, hlog, -, -⟩
  · rw [hlog]
    exact List.Subset.refl _
  · rw [heq]
    exact List.subset_cons_self _ _
  · rw [hlog]
    exact List.subset_cons_self _ _
  · rw [hlog]
    exact List.subset_cons_self _ _

lemma Own.step (h : Own verifyPassword auth hash s) (hsecret : known auth.jwtSecret = false)
    (hstep : step verifyPassword auth known s e = some s') : Own verifyPassword auth hash s' := by
  cases e with
  | server e =>
    simp only [Session.step, Option.map_eq_some_iff] at hstep
    obtain ⟨server, hserver, rfl⟩ := hstep
    refine ⟨h.server.step hsecret hserver, h.none_iff, fun token call hstored hlast => ?_⟩
    obtain ⟨k, iat, htoken, hlineage⟩ := h.lineage token call hstored hlast
    exact ⟨k, iat, htoken, hlineage.mono (log_subset hserver)⟩
  | authenticated call token =>
    simp only [Session.step, Option.ite_none_right_eq_some, Option.some.injEq] at hstep
    obtain ⟨⟨⟨t, record⟩, hentry, hrecord⟩, rfl⟩ := hstep
    dsimp only at hrecord
    subst hrecord
    refine ⟨h.server, by simp, fun token' call' hstored hlast => ?_⟩
    cases hstored
    cases hlast
    obtain ⟨rfl, -⟩ := h.server.logins t call token hentry
    exact ⟨0, t, rfl, .login hentry⟩
  | request token =>
    cases hstep
    exact h.of_eq rfl rfl rfl
  | respond authToken refreshed =>
    simp only [Session.step, Option.ite_none_right_eq_some, Option.some.injEq] at hstep
    obtain ⟨⟨-, hanswers⟩, rfl⟩ := hstep
    by_cases hreplaces : refreshed.isSome ∧ s.stored = authToken
    · obtain ⟨hsome, hstored⟩ := hreplaces
      obtain ⟨token, rfl⟩ := Option.isSome_iff_exists.mp hsome
      -- the call was sent with the stored token, so its answer continues the same lineage
      cases authToken with
      | none => exact hanswers.elim
      | some old =>
        obtain ⟨⟨t, record⟩, hentry, hrecord⟩ := hanswers
        dsimp only at hrecord
        subst hrecord
        refine ⟨h.server, ?_, fun token' call hstored' hlast => ?_⟩
        · have hlast : s.last ≠ none := fun hnone => by
            rw [h.none_iff.mpr hnone] at hstored
            cases hstored
          simp [hstored, hlast]
        · simp only [Option.isSome_some, hstored, and_self, if_true] at hstored'
          cases hstored'
          obtain ⟨k, iat, rfl, hlineage⟩ := h.lineage old call hstored hlast
          obtain ⟨rfl, hnext⟩ := hlineage.snoc hentry (h.server.refreshes t _ _ hentry)
          exact ⟨k + 1, t, rfl, hnext⟩
    · exact h.of_eq rfl (if_neg hreplaces) rfl
  | fail authToken =>
    simp only [Session.step, Option.ite_none_right_eq_some, Option.some.injEq] at hstep
    obtain ⟨-, rfl⟩ := hstep
    exact h.of_eq rfl rfl rfl
  | logout =>
    cases hstep
    exact ⟨h.server, by simp, fun token call hstored => by cases hstored⟩
  | reload =>
    cases hstep
    exact h.of_eq rfl rfl rfl

/-- **Calls in flight do not bring back another session.**  In every run of the page and the server,
whatever is in flight, there is a stored token exactly while the page is logged in, and it comes by
refreshes from the login that the page took last. -/
theorem stored_of_last (hsecret : known auth.jwtSecret = false) {clock : ℕ}
    (h : Reach (Session.step verifyPassword auth known) Always (new auth hash clock) s) :
    (s.stored = none ↔ s.last = none) ∧
      ∀ token call, s.stored = some token → s.last = some call →
        ∃ k iat, token = auth.issueToken iat ∧
          ControlSessions.Lineage auth s.server.log call k iat := by
  have hown : Own verifyPassword auth hash s :=
    h.invariant (own_new auth hash clock) fun _ _ _ hs _ hstep => hs.step hsecret hstep
  exact ⟨hown.none_iff, hown.lineage⟩

/-- Two hours after a login, two calls go out with the same token, and the answer to one of them
arrives after that to the other was stored. -/
def staleAnswersRun : List SessionPageEvent :=
  let call : LoginCall := ⟨AuthService.sampleAddress, "admin", "secret", .verified⟩
  let tokens := ControlSessions.sampleTokens
  let refresh : ℕ → ℕ → List SessionPageEvent := fun iat now =>
    [.server (.session (tokens.issueToken iat)),
      .server (.answer ⟨tokens.issueToken iat, now, ⟨iat⟩⟩)]
  (ControlSessions.refreshedRun.take 4).map .server ++
    [.authenticated call (tokens.issueToken 0), .server (.tick 7200),
      .request (some (tokens.issueToken 0)), .request (some (tokens.issueToken 0))] ++
    refresh 0 7200 ++ [.server (.tick 1)] ++ refresh 0 7201 ++
    [.respond (some (tokens.issueToken 0)) (some (tokens.issueToken 7201)),
      .respond (some (tokens.issueToken 0)) (some (tokens.issueToken 7200))]

theorem stored_after_staleAnswers : ∃ s,
    exec (Session.step AuthService.sampleVerify ControlSessions.sampleTokens fun _ => false) Always
      (new ControlSessions.sampleTokens "secret" 0) staleAnswersRun = some s ∧
    s.stored = some (ControlSessions.sampleTokens.issueToken 7201) ∧
    ∀ token call, s.stored = some token → s.last = some call →
      ∃ k iat, token = ControlSessions.sampleTokens.issueToken iat ∧
        ControlSessions.Lineage ControlSessions.sampleTokens s.server.log call k iat := by
  have hrun : (exec (Session.step AuthService.sampleVerify ControlSessions.sampleTokens
      fun _ => false) Always (new ControlSessions.sampleTokens "secret" 0) staleAnswersRun).map
        (·.stored) = some (some (ControlSessions.sampleTokens.issueToken 7201)) := by
    decide +kernel
  obtain ⟨s, hs, hstored⟩ := Option.map_eq_some_iff.mp hrun
  exact ⟨s, hs, hstored, (stored_of_last rfl (reach_of_exec hs)).2⟩

end Session

end GateRust.Web
