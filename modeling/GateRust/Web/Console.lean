/-
# The console page and the events of the server

The page asks for the session and for the configuration, and then listens to the stream of
dashboards.  When the revision of an event differs from the one before it, the page asks for the
configuration again, with one such request in flight at a time.

The panels of the page change the configuration as well.  The server answers such a request with
the half that it has stored, and the page puts this half over its own, whatever it has read since.
The requests are not limited in number, and their answers come in any order.

The events are delivered in the order in which the server sent the dashboards, though not all of
them: a dashboard that is replaced in the channel before the server takes it is no event.
-/
import GateRust.Lib.Machine
import GateRust.Control.Dashboard

namespace GateRust.Web

open Machine Control

open Tunnel (ServerConfig)

open Proxy (ProxyConfig)

/-! ## The page -/

/-- What a `getConfig` request returns. -/
structure ConfigRead where
  config : ConfigSnapshot
  /-- The latest change when the server read its snapshot. -/
  change : ℕ
deriving DecidableEq, Repr

/-- A `getConfig` request in flight. -/
inductive GetConfig where
  | sent
  | answered (read : ConfigRead)
deriving DecidableEq, Repr

/-- A half of the configuration on the page. -/
structure Half (α : Type) where
  config : Option α
  /-- The latest change when the server read the half for a `getConfig`; none if it is the answer to
  a request of a panel. -/
  read : Option ℕ
deriving DecidableEq, Repr

/-- The object `config` of the page. -/
structure PageConfig where
  tunnel : Half ServerConfig
  proxy : Half ProxyConfigView
deriving DecidableEq, Repr

/-- The initial empty object. -/
def PageConfig.empty : PageConfig := ⟨⟨none, none⟩, ⟨none, none⟩⟩

def PageConfig.snapshot (page : PageConfig) : ConfigSnapshot :=
  ⟨page.tunnel.config, page.proxy.config⟩

def ConfigRead.page (read : ConfigRead) : PageConfig :=
  ⟨⟨read.config.tunnel, some read.change⟩, ⟨read.config.proxy, some read.change⟩⟩

/-- The half that a request of a panel has stored. -/
inductive SavedConfig where
  | tunnel (config : ServerConfig)
  | proxy (config : ProxyConfigView)
deriving DecidableEq, Repr

/-- `onSaved` of the panels. -/
def PageConfig.onSaved (page : PageConfig) : SavedConfig → PageConfig
  | .tunnel config => { page with tunnel := ⟨some config, none⟩ }
  | .proxy config => { page with proxy := ⟨some config, none⟩ }

/-- A request of a panel that changes the configuration. -/
inductive Save where
  | sent
  /-- The server has written the half to its snapshot, as the change. -/
  | stored (saved : SavedConfig) (change : ℕ)
  | answered (saved : SavedConfig)
deriving DecidableEq, Repr

/-- What goes on while `refreshingConfig` is set. -/
inductive Refresh where
  | inFlight (request : GetConfig)
  /-- The response was handled, and `finally` has not run. -/
  | settling
deriving DecidableEq, Repr

inductive Stage where
  | signedOut
  | checkingSession
  | fetching (request : GetConfig)
  | bootstrapped
  | failed
deriving DecidableEq, Repr

/-- The stream of events, from the subscription at the server to the handler. -/
inductive EventStream where
  | closed
  | connecting
  /-- The events on their way, and how many dashboards had been sent to the channel when the server
  took the last one from it. -/
  | opened (wire : List Dashboard) (seen : Option ℕ)
deriving DecidableEq, Repr

/-- The state of `App`, and the variables of its effect. -/
structure App where
  stage : Stage
  config : PageConfig
  dashboard : Option Dashboard
  fatal : String
  stream : EventStream
  lastRevision : Option ℕ
  refreshing : Option Refresh
  /-- The requests of the panels, which outlive the effect and the session. -/
  saves : List Save
deriving DecidableEq, Repr

namespace App

inductive Event where
  /-- There is a token. -/
  | authenticated
  | sessionChecked
  /-- A rejection other than 401, with the message of the error. -/
  | bootstrapFails (message : Option String)
  /-- The server reads its snapshot for the request in flight. -/
  | readConfig
  | respond
  /-- The `finally` of a refresh. -/
  | settle
  | subscribe
  /-- The server takes the dashboard from the channel. -/
  | emit
  | deliver
  | streamDone
  | streamFails (message : Option String)
  | retry
  | logout
  /-- A panel, which is shown once the page has been loaded, sends a request. -/
  | save
  /-- The server answers a request of a panel when the dashboard of its change has been sent. -/
  | answer (i : ℕ)
  | saved (i : ℕ)
  | saveFails (i : ℕ)

def new : App := ⟨.signedOut, .empty, none, "", .closed, none, none, []⟩

variable (app : App) (store : SnapshotStore)

/-- The effect runs: after it was disposed of, no response and no event of the last run counts. -/
def bootstrap : App :=
  { app with
    stage := .checkingSession
    fatal := ""
    stream := .closed
    lastRevision := none
    refreshing := none }

def loading : Bool :=
  match app.stage with
  | .checkingSession | .fetching _ => true
  | .signedOut | .bootstrapped | .failed => false

/-- The handler of an event. -/
def onDashboard (next : Dashboard) : App :=
  let revisionChanged := app.lastRevision.isSome && app.lastRevision != some next.revision
  { app with
    lastRevision := some next.revision
    dashboard := some next
    refreshing :=
      if revisionChanged && app.refreshing.isNone then some (.inFlight .sent)
      else app.refreshing }

def step : Event → Option App
  | .authenticated => if app.stage = .signedOut then some app.bootstrap else none
  | .sessionChecked =>
    if app.stage = .checkingSession then some { app with stage := .fetching .sent } else none
  | .bootstrapFails message =>
    if app.loading then
      some { app with stage := .failed, fatal := message.getD "加载控制台失败" }
    else none
  | .readConfig =>
    match app.stage, app.refreshing with
    | .fetching .sent, _ =>
      some { app with stage := .fetching (.answered ⟨store.snapshot, store.current⟩) }
    | .bootstrapped, some (.inFlight .sent) =>
      some { app with
        refreshing := some (.inFlight (.answered ⟨store.snapshot, store.current⟩)) }
    | _, _ => none
  | .respond =>
    match app.stage, app.refreshing with
    | .fetching (.answered read), _ =>
      some { app with stage := .bootstrapped, config := read.page, stream := .connecting }
    | .bootstrapped, some (.inFlight (.answered read)) =>
      some { app with config := read.page, refreshing := some .settling }
    | _, _ => none
  | .settle =>
    if app.refreshing = some .settling then some { app with refreshing := none } else none
  | .subscribe =>
    if app.stream = .connecting then some { app with stream := .opened [] none } else none
  | .emit =>
    match app.stream with
    | .opened wire seen =>
      -- the subscription itself counts as a change of the channel
      if seen = some store.announced.length then none
      else some { app with
        stream := .opened (wire ++ [store.dashboard]) (some store.announced.length) }
    | .closed | .connecting => none
  | .deliver =>
    match app.stream with
    | .opened (next :: wire) seen =>
      some ({ app with stream := .opened wire seen }.onDashboard next)
    | .opened [] _ | .closed | .connecting => none
  | .streamDone =>
    match app.stream with
    | .opened [] _ => some { app with stream := .closed }
    | .opened (_ :: _) _ | .closed | .connecting => none
  | .streamFails message =>
    if app.stream = .closed then none
    else some { app with stream := .closed, fatal := message.getD "实时状态连接失败" }
  | .retry => if app.fatal ≠ "" ∧ app.loading = false then some app.bootstrap else none
  | .logout => if app.stage = .signedOut then none else some { App.new with saves := app.saves }
  | .save =>
    if app.stage = .bootstrapped ∨ app.stage = .failed then
      some { app with saves := app.saves ++ [.sent] }
    else none
  | .answer i =>
    match app.saves[i]? with
    | some (.stored saved change) =>
      if change ∈ store.announced.map Announcement.change then
        some { app with saves := app.saves.set i (.answered saved) }
      else none
    | some .sent | some (.answered _) | none => none
  | .saved i =>
    match app.saves[i]? with
    | some (.answered saved) =>
      -- the callback sets the state of the page even after a logout
      some { app with config := app.config.onSaved saved, saves := app.saves.eraseIdx i }
    | some .sent | some (.stored _ _) | none => none
  | .saveFails i =>
    if i < app.saves.length then some { app with saves := app.saves.eraseIdx i } else none

end App

/-- The server with one page. -/
structure Console where
  store : SnapshotStore
  app : App

namespace Console

inductive Event where
  | store (e : SnapshotStore.Event)
  | app (e : App.Event)
  /-- The server writes its snapshot for a request of a panel. -/
  | saveTunnel (i : ℕ) (config : ServerConfig)
  | saveProxy (i : ℕ) (config : ProxyConfig)

def start (snapshot : ConfigSnapshot) (tunnelEnabled proxyEnabled : Bool) : Console :=
  ⟨.start snapshot tunnelEnabled proxyEnabled, .new⟩

/-- The server makes the change for a request of a panel. -/
def commit (s : Console) (i : ℕ) (e : SnapshotStore.Event) (saved : SavedConfig) :
    Option Console :=
  if s.app.saves[i]? = some .sent then
    (s.store.step e).map fun store =>
      ⟨store, { s.app with saves := s.app.saves.set i (.stored saved store.current) }⟩
  else none

def step (s : Console) : Event → Option Console
  | .store e => (s.store.step e).map fun store => { s with store }
  | .app e => (s.app.step s.store e).map fun app => { s with app }
  | .saveTunnel i config => s.commit i (.updateTunnel (some config)) (.tunnel config)
  | .saveProxy i config => s.commit i (.updateProxy (some config)) (.proxy (.ofConfig config))

end Console

/-! ## The requests of the panels -/

lemma App.answer_eq {app app' : App} {store : SnapshotStore} {i : ℕ}
    (hstep : app.step store (.answer i) = some app') : ∃ saves, app' = { app with saves } := by
  simp only [App.step] at hstep
  split at hstep
  case h_1 saved change _ =>
    simp only [Option.ite_none_right_eq_some] at hstep
    exact ⟨_, (Option.some.inj hstep.2).symm⟩
  case h_2 => cases hstep
  case h_3 => cases hstep
  case h_4 => cases hstep

lemma App.saved_eq {app app' : App} {store : SnapshotStore} {i : ℕ}
    (hstep : app.step store (.saved i) = some app') :
    ∃ saved, app.saves[i]? = some (.answered saved) ∧
      app' = { app with config := app.config.onSaved saved, saves := app.saves.eraseIdx i } := by
  simp only [App.step] at hstep
  split at hstep
  case h_1 saved hsaved => exact ⟨saved, hsaved, (Option.some.inj hstep).symm⟩
  case h_2 => cases hstep
  case h_3 => cases hstep
  case h_4 => cases hstep

lemma Console.commit_eq {s s' : Console} {i : ℕ} {e : SnapshotStore.Event} {saved : SavedConfig}
    (hstep : s.commit i e saved = some s') :
    ∃ store saves, s.store.step e = some store ∧ s' = ⟨store, { s.app with saves }⟩ := by
  simp only [Console.commit, Option.ite_none_right_eq_some] at hstep
  obtain ⟨store, hstore, rfl⟩ := Option.map_eq_some_iff.mp hstep.2
  exact ⟨store, _, hstore, rfl⟩

/-! ## What is on its way to the page -/

/-- The revisions on their way to the handler, with that of the channel if the server has not taken
it yet. -/
def EventStream.revisions (stream : EventStream) (store : SnapshotStore) : List ℕ :=
  match stream with
  | .closed | .connecting => []
  | .opened wire seen => wire.map Dashboard.revision ++
      if seen = some store.announced.length then [] else [store.dashboard.revision]

namespace Console

structure Inv (s : Console) : Prop where
  store : s.store.Consistent
  unopened : s.app.stage ≠ .bootstrapped →
    s.app.stream = .closed ∧ s.app.lastRevision = none ∧ s.app.refreshing = none
  connecting : s.app.stream = .connecting → s.app.lastRevision = none
  /-- The events are delivered in the order in which their dashboards were sent. -/
  ordered : (s.app.lastRevision.toList ++ s.app.stream.revisions s.store).Sublist s.store.revisions

variable {s s' : Console} {e : Event} {store : SnapshotStore} {app : App}

lemma inv_start (snapshot : ConfigSnapshot) (tunnelEnabled proxyEnabled : Bool) :
    (start snapshot tunnelEnabled proxyEnabled).Inv where
  store := SnapshotStore.consistent_start _ _ _
  unopened _ := ⟨rfl, rfl, rfl⟩
  connecting h := by cases h
  ordered := List.nil_sublist _

/-- The dashboard that a step of the server sends comes after all others. -/
lemma Inv.store_step (h : s.Inv) {event : SnapshotStore.Event}
    (hstep : s.store.step event = some store) : Inv { s with store } := by
  refine ⟨h.store.step hstep, h.unopened, h.connecting, ?_⟩
  have hold := h.ordered
  rcases SnapshotStore.step_cases hstep with
    ⟨a, -, hannounced, hdashboard⟩ | ⟨hannounced, hdashboard⟩
  · have hrevisions : store.revisions = s.store.revisions ++ [a.revision] := by
      simp [SnapshotStore.revisions, hannounced]
    show (s.app.lastRevision.toList ++ s.app.stream.revisions store).Sublist store.revisions
    rw [hrevisions]
    cases hstream : s.app.stream with
    | closed =>
      rw [hstream] at hold
      exact hold.trans (List.sublist_append_left _ _)
    | connecting =>
      rw [hstream] at hold
      exact hold.trans (List.sublist_append_left _ _)
    | opened wire seen =>
      rw [hstream, EventStream.revisions, ← List.append_assoc] at hold
      rw [EventStream.revisions, ← List.append_assoc, hdashboard]
      refine ((List.sublist_append_left _ _).trans hold).append ?_
      split_ifs
      · exact List.nil_sublist _
      · exact List.Sublist.refl _
  · have hstream : s.app.stream.revisions store = s.app.stream.revisions s.store := by
      cases s.app.stream <;> simp only [EventStream.revisions, hannounced, hdashboard]
    show (s.app.lastRevision.toList ++ s.app.stream.revisions store).Sublist store.revisions
    rw [hstream, SnapshotStore.revisions, hannounced]
    exact hold

/-- The configuration on the page and the requests of its panels are of no account. -/
lemma Inv.withConfig (h : s.Inv) (config : PageConfig) (saves : List Save) :
    Inv { s with app := { s.app with config, saves } } :=
  ⟨h.store, h.unopened, h.connecting, h.ordered⟩

/-- Nothing is on its way to a page that has no stream. -/
lemma Inv.withIdle (h : s.Inv)
    (hidle : app.stream = .closed ∧ app.lastRevision = none ∧ app.refreshing = none) :
    Inv { s with app } := by
  refine ⟨h.store, fun _ => hidle, fun _ => hidle.2.1, ?_⟩
  show (app.lastRevision.toList ++ app.stream.revisions s.store).Sublist _
  rw [hidle.1, hidle.2.1]
  exact List.nil_sublist _

/-- A step of the stream of a bootstrapped page. -/
lemma Inv.withStream (h : s.Inv) (hopen : s.app.stream ≠ .closed)
    (hstage : app.stage = s.app.stage) (hconnecting : app.stream ≠ .connecting)
    (hordered : (app.lastRevision.toList ++ app.stream.revisions s.store).Sublist
      s.store.revisions) : Inv { s with app } := by
  have hboot : s.app.stage = .bootstrapped := by
    by_contra hne
    exact hopen (h.unopened hne).1
  exact ⟨h.store, fun hne => absurd (hstage.trans hboot) hne, fun heq => absurd heq hconnecting,
    hordered⟩

lemma Inv.bootstrap (h : s.Inv) : Inv { s with app := s.app.bootstrap } :=
  h.withIdle ⟨rfl, rfl, rfl⟩

/-- Before the page is bootstrapped, its effect only changes its stage. -/
lemma Inv.moveStage (h : s.Inv) (hboot : s.app.stage ≠ .bootstrapped) (stage : Stage)
    (fatal : String) : Inv { s with app := { s.app with stage, fatal } } :=
  h.withIdle (h.unopened hboot)

/-- The requests of a bootstrapped page, which leave its stream. -/
lemma Inv.withRefresh (h : s.Inv) (hboot : s.app.stage = .bootstrapped) (config : PageConfig)
    (refreshing : Option Refresh) : Inv { s with app := { s.app with config, refreshing } } :=
  ⟨h.store, fun hne => absurd hboot hne, h.connecting, h.ordered⟩

lemma Inv.readConfig (h : s.Inv) (hstep : s.app.step s.store .readConfig = some app) :
    Inv { s with app } := by
  simp only [App.step] at hstep
  split at hstep
  case h_1 hstage =>
    obtain rfl := Option.some.inj hstep
    exact h.moveStage (by rw [hstage]; rintro ⟨⟩) _ s.app.fatal
  case h_2 hstage _ =>
    obtain rfl := Option.some.inj hstep
    exact h.withRefresh hstage s.app.config _
  case h_3 => cases hstep

lemma Inv.respond (h : s.Inv) (hstep : s.app.step s.store .respond = some app) :
    Inv { s with app } := by
  simp only [App.step] at hstep
  split at hstep
  case h_1 read hstage =>
    obtain rfl := Option.some.inj hstep
    have hidle := h.unopened (by rw [hstage]; rintro ⟨⟩)
    refine ⟨h.store, fun hne => absurd rfl hne, fun _ => hidle.2.1, ?_⟩
    show (s.app.lastRevision.toList ++ []).Sublist _
    rw [hidle.2.1]
    exact List.nil_sublist _
  case h_2 read hstage _ =>
    obtain rfl := Option.some.inj hstep
    exact h.withRefresh hstage _ _
  case h_3 => cases hstep

lemma Inv.settle (h : s.Inv) (hstep : s.app.step s.store .settle = some app) :
    Inv { s with app } := by
  simp only [App.step, Option.ite_none_right_eq_some] at hstep
  obtain ⟨hsettling, hstep⟩ := hstep
  obtain rfl := Option.some.inj hstep
  have hboot : s.app.stage = .bootstrapped := by
    by_contra hne
    rw [(h.unopened hne).2.2] at hsettling
    cases hsettling
  exact h.withRefresh hboot s.app.config none

lemma Inv.subscribe (h : s.Inv) (hstep : s.app.step s.store .subscribe = some app) :
    Inv { s with app } := by
  simp only [App.step, Option.ite_none_right_eq_some] at hstep
  obtain ⟨hconnecting, hstep⟩ := hstep
  obtain rfl := Option.some.inj hstep
  refine h.withStream (by rw [hconnecting]; rintro ⟨⟩) rfl (by rintro ⟨⟩) ?_
  show (s.app.lastRevision.toList ++ [s.store.dashboard.revision]).Sublist _
  rw [h.connecting hconnecting]
  exact List.singleton_sublist.mpr h.store.latest_mem

lemma Inv.emit (h : s.Inv) (hstep : s.app.step s.store .emit = some app) :
    Inv { s with app } := by
  simp only [App.step] at hstep
  split at hstep
  case h_1 wire seen hstream =>
    split at hstep
    case isTrue => cases hstep
    case isFalse hunseen =>
      obtain rfl := Option.some.inj hstep
      refine h.withStream (by rw [hstream]; rintro ⟨⟩) rfl (by rintro ⟨⟩) ?_
      have hold := h.ordered
      rw [hstream, EventStream.revisions, if_neg hunseen] at hold
      simpa [EventStream.revisions] using hold
  case h_2 => cases hstep
  case h_3 => cases hstep

/-- The last revision gives way to that of the event. -/
lemma Inv.deliver (h : s.Inv) (hstep : s.app.step s.store .deliver = some app) :
    Inv { s with app } := by
  simp only [App.step] at hstep
  split at hstep
  case h_1 next wire seen hstream =>
    obtain rfl := Option.some.inj hstep
    refine h.withStream (by rw [hstream]; rintro ⟨⟩) rfl (by rintro ⟨⟩) ?_
    have hold := h.ordered
    rw [hstream] at hold
    exact (List.sublist_append_right _ _).trans hold
  case h_2 => cases hstep
  case h_3 => cases hstep
  case h_4 => cases hstep

/-- A stream that is closed has nothing on its way. -/
lemma Inv.closeStream (h : s.Inv) (hopen : s.app.stream ≠ .closed) (fatal : String) :
    Inv { s with app := { s.app with stream := .closed, fatal } } := by
  refine h.withStream hopen rfl (by rintro ⟨⟩) ?_
  show (s.app.lastRevision.toList ++ []).Sublist _
  exact ((List.Sublist.refl _).append (List.nil_sublist _)).trans h.ordered

lemma loading_ne_bootstrapped (hloading : app.loading = true) : app.stage ≠ .bootstrapped := by
  intro heq
  simp [App.loading, heq] at hloading

lemma Inv.app_step (h : s.Inv) {event : App.Event} (hstep : s.app.step s.store event = some app) :
    Inv { s with app } := by
  cases event with
  | authenticated =>
    simp only [App.step, Option.ite_none_right_eq_some] at hstep
    obtain rfl := Option.some.inj hstep.2
    exact h.bootstrap
  | sessionChecked =>
    simp only [App.step, Option.ite_none_right_eq_some] at hstep
    obtain ⟨hstage, hstep⟩ := hstep
    obtain rfl := Option.some.inj hstep
    exact h.moveStage (by rw [hstage]; rintro ⟨⟩) _ s.app.fatal
  | bootstrapFails message =>
    simp only [App.step, Option.ite_none_right_eq_some] at hstep
    obtain ⟨hloading, hstep⟩ := hstep
    obtain rfl := Option.some.inj hstep
    exact h.moveStage (loading_ne_bootstrapped hloading) _ _
  | readConfig => exact h.readConfig hstep
  | respond => exact h.respond hstep
  | settle => exact h.settle hstep
  | subscribe => exact h.subscribe hstep
  | emit => exact h.emit hstep
  | deliver => exact h.deliver hstep
  | streamDone =>
    simp only [App.step] at hstep
    split at hstep
    case h_1 hstream =>
      obtain rfl := Option.some.inj hstep
      exact h.closeStream (by rw [hstream]; rintro ⟨⟩) s.app.fatal
    case h_2 => cases hstep
    case h_3 => cases hstep
    case h_4 => cases hstep
  | streamFails message =>
    simp only [App.step, Option.ite_none_left_eq_some] at hstep
    obtain ⟨hopen, hstep⟩ := hstep
    obtain rfl := Option.some.inj hstep
    exact h.closeStream hopen _
  | retry =>
    simp only [App.step, Option.ite_none_right_eq_some] at hstep
    obtain rfl := Option.some.inj hstep.2
    exact h.bootstrap
  | logout =>
    simp only [App.step, Option.ite_none_left_eq_some] at hstep
    obtain rfl := Option.some.inj hstep.2
    exact h.withIdle ⟨rfl, rfl, rfl⟩
  | save =>
    simp only [App.step, Option.ite_none_right_eq_some] at hstep
    obtain rfl := Option.some.inj hstep.2
    exact h.withConfig s.app.config _
  | answer i =>
    obtain ⟨saves, rfl⟩ := App.answer_eq hstep
    exact h.withConfig s.app.config _
  | saved i =>
    obtain ⟨saved, -, rfl⟩ := App.saved_eq hstep
    exact h.withConfig _ _
  | saveFails i =>
    simp only [App.step, Option.ite_none_right_eq_some] at hstep
    obtain rfl := Option.some.inj hstep.2
    exact h.withConfig s.app.config _

lemma Inv.commit (h : s.Inv) {i : ℕ} {event : SnapshotStore.Event} {saved : SavedConfig}
    (hstep : s.commit i event saved = some s') : s'.Inv := by
  obtain ⟨store, saves, hstore, rfl⟩ := commit_eq hstep
  exact (h.store_step hstore).withConfig s.app.config saves

lemma Inv.step (h : s.Inv) (hstep : s.step e = some s') : s'.Inv := by
  cases e with
  | store event =>
    obtain ⟨store, hstore, rfl⟩ := Option.map_eq_some_iff.mp hstep
    exact h.store_step hstore
  | app event =>
    obtain ⟨app, happ, rfl⟩ := Option.map_eq_some_iff.mp hstep
    exact h.app_step happ
  | saveTunnel i config => exact h.commit hstep
  | saveProxy i config => exact h.commit hstep

end Console

end GateRust.Web
