/-
# The proxy and its configuration file

`run_proxy_with_runtime` loads the configuration, starts a `ConfigWatcher` for the file, starts the
proxy, and reloads whenever the watcher has a token.  After each replacement of the file a callback
runs, which puts the token into a channel with one place.  A callback that finds the place taken
does nothing: the token there will be taken out, and only then is the file read.

A replacement between the first load and the start of the watcher is not announced.  Otherwise the
proxy gets to what the file has: once nothing replaces the file any more, nine steps of the proxy
are enough, and what is reported then is about what the file has.
-/
import GateRust.Control.ConfigPaths
import GateRust.Proxy.Migration
import GateRust.Proxy.ProxyServer

namespace GateRust.Proxy

open Machine
open Control (resolvePath)

/-! ## Loading the file -/

def ReadError.display : ReadError → String
  | .readConfig path source => "读取配置 " ++ path ++ " 失败: " ++ source
  | .parseConfig path source => "解析配置 " ++ path ++ " 失败: " ++ source
  | .config error => error.display

def ProxyConfig.withCacheDir (config : ProxyConfig) (cacheDir : String) : ProxyConfig :=
  { config with proxy := { config.proxy with cacheDir := cacheDir } }

/-- The validation does not look at the directory of the cache. -/
lemma ProxyConfig.validate_withCacheDir (parseUri : String → Option Uri) (config : ProxyConfig)
    (cacheDir : String) :
    (config.withCacheDir cacheDir).validate parseUri =
      (config.validate parseUri).map (·.withCacheDir cacheDir) := by
  unfold ProxyConfig.validate
  simp only [Except.map_bind]
  rfl

lemma ProxyConfig.Validated.withCacheDir {parseUri : String → Option Uri} {config : ProxyConfig}
    (h : config.Validated parseUri) (cacheDir : String) :
    (config.withCacheDir cacheDir).Validated parseUri := by
  obtain ⟨raw, hraw⟩ := h
  refine ⟨raw.withCacheDir cacheDir, ?_⟩
  rw [ProxyConfig.validate_withCacheDir, hraw]
  rfl

/-- What the proxy is run with: the libraries and the path of its file. -/
structure ProxyProgram where
  lib : Libraries
  library : ConfigLibrary
  parseUri : String → Option Uri
  path : String

/-- `ProxyConfig::load`, where `file` is what the file system gives for the path.  The error is
given by its text. -/
def ProxyProgram.load (p : ProxyProgram) (file : Except String String) :
    Except String ProxyConfig := do
  let config ← (ProxyConfig.read p.library p.parseUri p.path file).mapError ReadError.display
  let cacheDir := resolvePath (.ofString p.path) (.ofString config.proxy.cacheDir)
  return config.withCacheDir cacheDir.display

lemma ProxyProgram.validated_of_load {p : ProxyProgram} {file : Except String String}
    {config : ProxyConfig} (h : p.load file = .ok config) : config.Validated p.parseUri := by
  obtain ⟨read, hread, h⟩ := Except.exists_ok_of_bind h
  cases h
  obtain ⟨content, -, hread⟩ := Except.exists_ok_of_bind (Except.ok_of_mapError_ok hread)
  obtain ⟨raw, -, hvalid⟩ := Except.exists_ok_of_bind hread
  exact ProxyConfig.Validated.withCacheDir ⟨raw, Except.ok_of_mapError_ok hvalid⟩ _

/-! ## The proxy with its watcher -/

/-- How many steps a reload has left. -/
def Reloading.work : Reloading → ℕ
  | .idle => 0
  | .applied .. => 1
  | .applying .. => 2

lemma Reloading.work_le (reloading : Reloading) : reloading.work ≤ 2 := by
  cases reloading <;> simp [work]

structure WatchedProxy where
  /-- What reading the file gives. -/
  file : Except String String
  /-- The file was replaced, and the callback has not run since. -/
  unnotified : Bool
  /-- The channel of the watcher has a token. -/
  token : Bool
  server : ProxyServer

inductive WatchedEvent where
  /-- The file is written, replaced or removed. -/
  | edit (file : Except String String)
  | callback
  /-- The loop takes the token, and the reload begins. -/
  | changed (outcomes : BindOutcomes)
  /-- The reload goes on, or the manager does something. -/
  | server (event : ProxyServer.Event)

namespace WatchedProxy

variable (p : ProxyProgram) (s : WatchedProxy)

/-- The start, where the file is read first and has `watched` when the watcher is started. -/
def start (file watched : Except String String) (disk : Disk) (now : UInt64)
    (http https : BindOutcome) : Except String WatchedProxy := do
  let initial ← p.load file
  let server ← (ProxyServer.start p.lib p.parseUri initial disk now http https).mapError
    ProxyError.display
  return ⟨watched, false, false, server⟩

/-- What an event is for the proxy alone. -/
def serverEvent? : WatchedEvent → Option ProxyServer.Event
  | .edit _ | .callback => none
  | .changed outcomes => some (.changed (p.load s.file) outcomes)
  | .server event => some event

def step : WatchedEvent → Option WatchedProxy
  | .edit file => some { s with file := file, unnotified := true }
  -- `try_send`: a full channel is ignored
  | .callback => some { s with unnotified := false, token := true }
  | .changed outcomes =>
    if s.token then
      (s.server.step p.lib p.parseUri (.changed (p.load s.file) outcomes)).map fun server =>
        { s with token := false, server := server }
    else none
  | .server event =>
    match event with
    | .changed .. => none
    | event =>
      (s.server.step p.lib p.parseUri event).map fun server => { s with server := server }

/-- No replacement is still to be announced, and no reload is to be begun or under way. -/
structure Quiet : Prop where
  notified : s.unnotified = false
  taken : s.token = false
  idle : s.server.reloading = .idle

/-- What the proxy and its watcher do to get to the file. -/
def Works : WatchedEvent → Prop
  | .callback => s.unnotified = true
  | .changed _ | .server (.apply ..) | .server (.refused ..) | .server .replaceRoutes => True
  | .edit _ | .server (.changed ..) | .server (.manager _) | .server .managerEnds => False

instance : (event : WatchedEvent) → Decidable (s.Works event)
  | .callback => inferInstanceAs (Decidable (_ = _))
  | .changed _ | .server (.apply ..) | .server (.refused ..) | .server .replaceRoutes =>
    isTrue trivial
  | .edit _ | .server (.changed ..) | .server (.manager _) | .server .managerEnds => isFalse id

/-- The listeners can be bound again where the event stops them. -/
def Recovers (event : WatchedEvent) : Prop :=
  ∀ inner ∈ s.serverEvent? p event, s.server.Recovers inner

/-- The last report, or the reload that is under way, is about what the file has. -/
def Current : Prop :=
  match s.server.reloading with
  | .idle => ∃ report, s.server.reports.getLast? = some report ∧ report.IsOf (p.load s.file)
  | .applying config .. | .applied config _ => p.load s.file = .ok config

/-- How many steps the proxy may need. -/
def work : ℕ :=
  (if s.unnotified then 4 else 0) + (if s.token then 3 else 0) + s.server.reloading.work

variable {p} {s s' first : WatchedProxy} {event : WatchedEvent}

/-! ## One step -/

lemma server_of_step (h : s.step p event = some s') :
    (∃ inner, s.serverEvent? p event = some inner ∧
      s.server.step p.lib p.parseUri inner = some s'.server) ∨ s'.server = s.server := by
  cases event with
  | edit file => exact .inr (by cases h; rfl)
  | callback => exact .inr (by cases h; rfl)
  | changed outcomes =>
    obtain ⟨-, h⟩ := Option.ite_none_right_eq_some.mp h
    obtain ⟨server, hserver, rfl⟩ := Option.map_eq_some_iff.mp h
    exact .inl ⟨_, rfl, hserver⟩
  | server inner =>
    simp only [step] at h
    split at h
    case h_1 => cases h
    case h_2 =>
      obtain ⟨server, hserver, rfl⟩ := Option.map_eq_some_iff.mp h
      exact .inl ⟨_, rfl, hserver⟩

/-- What is loaded has passed the validation. -/
lemma validated_of_serverEvent (h : s.step p event = some s') {inner : ProxyServer.Event}
    (hinner : s.serverEvent? p event = some inner) : s.server.Validated p.parseUri inner := by
  cases event with
  | edit file => cases hinner
  | callback => cases hinner
  | changed outcomes =>
    cases hinner
    cases hload : p.load s.file with
    | ok config => exact ProxyProgram.validated_of_load hload
    | error error => trivial
  | server inner =>
    cases hinner
    cases inner with
    | changed => cases h
    | apply | refused | replaceRoutes | manager | managerEnds => trivial

/-! ## What was loaded last -/

lemma current_of_reported (report : ConfigReport) (hidle : s.server.reloading = .idle)
    (hlast : s.server.reports.getLast? = some report) (hof : report.IsOf (p.load s.file)) :
    s.Current p := by
  unfold Current
  rw [hidle]
  exact ⟨report, hlast, hof⟩

/-- A reload begins with what the file has. -/
lemma current_of_changed {outcomes : BindOutcomes} (h : s.step p (.changed outcomes) = some s') :
    s'.Current p := by
  obtain ⟨-, h⟩ := Option.ite_none_right_eq_some.mp h
  obtain ⟨server, hserver, rfl⟩ := Option.map_eq_some_iff.mp h
  obtain ⟨hidle, rfl⟩ := ProxyServer.idle_of_changed hserver
  obtain ⟨config, error, hof, hreload⟩ | ⟨next, error, listeners, hload, -, hreload⟩ |
    ⟨next, routes, listeners, hload, -, -, hreload⟩ :=
    ProxyServer.reload_cases p.parseUri s.server (p.load s.file) outcomes
  · refine current_of_reported ⟨config, some error⟩ ?_ ?_ hof
    · rw [hreload]
      exact hidle
    · rw [hreload]
      exact List.getLast?_concat
  · refine current_of_reported ⟨some next, some error.display⟩ ?_ ?_ ?_
    · rw [hreload]
      exact hidle
    · rw [hreload]
      exact List.getLast?_concat
    · show ConfigReport.IsOf _ (p.load s.file)
      rw [hload]
      rfl
  · unfold Current
    rw [hreload]
    exact hload

/-- A reload that goes on or ends is still about the same configuration. -/
lemma Current.server {inner : ProxyServer.Event} (h : s.Current p)
    (hstep : s.step p (.server inner) = some s') : s'.Current p := by
  cases inner with
  | changed => cases hstep
  | apply disk now =>
    obtain ⟨server, hserver, rfl⟩ := Option.map_eq_some_iff.mp hstep
    obtain ⟨next, routes, previous, hreloading, rfl⟩ := ProxyServer.applying_of_apply hserver
    unfold Current at h
    rw [hreloading] at h
    exact h
  | refused sent outcomes =>
    obtain ⟨server, hserver, rfl⟩ := Option.map_eq_some_iff.mp hstep
    obtain ⟨next, routes, previous, hreloading, rfl⟩ := ProxyServer.applying_of_refused hserver
    unfold Current at h
    rw [hreloading] at h
    refine current_of_reported _ rfl List.getLast?_concat ?_
    show ConfigReport.IsOf _ (p.load s.file)
    rw [h]
    rfl
  | replaceRoutes =>
    obtain ⟨server, hserver, rfl⟩ := Option.map_eq_some_iff.mp hstep
    obtain ⟨next, routes, hreloading, rfl⟩ := ProxyServer.applied_of_replaceRoutes hserver
    unfold Current at h
    rw [hreloading] at h
    refine current_of_reported _ rfl List.getLast?_concat ?_
    show ConfigReport.IsOf _ (p.load s.file)
    rw [h]
    rfl
  | manager event =>
    obtain ⟨server, hserver, rfl⟩ := Option.map_eq_some_iff.mp hstep
    obtain ⟨manager, -, rfl⟩ := ProxyServer.names_of_manager hserver
    exact h
  | managerEnds =>
    obtain ⟨server, hserver, rfl⟩ := Option.map_eq_some_iff.mp hstep
    obtain ⟨-, hserver⟩ := Option.ite_none_right_eq_some.mp hserver
    cases hserver
    exact h

/-- What the file has is still to be announced or to be loaded, or was loaded last. -/
def Announced (p : ProxyProgram) (s : WatchedProxy) : Prop :=
  s.unnotified = true ∨ s.token = true ∨ s.Current p

lemma Announced.step (h : s.Announced p) (hstep : s.step p event = some s') : s'.Announced p := by
  cases event with
  | edit file =>
    cases hstep
    exact .inl rfl
  | callback =>
    cases hstep
    exact .inr (.inl rfl)
  | changed outcomes => exact .inr (.inr (current_of_changed hstep))
  | server inner =>
    have hkept : s'.unnotified = s.unnotified ∧ s'.token = s.token := by
      have hmap := hstep
      simp only [WatchedProxy.step] at hmap
      split at hmap
      case h_1 => cases hmap
      case h_2 =>
        obtain ⟨server, -, rfl⟩ := Option.map_eq_some_iff.mp hmap
        exact ⟨rfl, rfl⟩
    rw [Announced, hkept.1, hkept.2]
    exact h.imp id fun h => h.imp id fun h => h.server hstep

/-! ## How the proxy gets to its file -/

lemma work_le (s : WatchedProxy) : s.work ≤ 9 := by
  have hreloading := s.server.reloading.work_le
  unfold work
  split <;> split <;> omega

lemma quiet_of_work (h : s.work = 0) : s.Quiet := by
  unfold work at h
  refine ⟨?_, ?_, ?_⟩
  · by_contra hunnotified
    simp [hunnotified] at h
  · by_contra htoken
    simp [htoken] at h
  · cases hreloading : s.server.reloading with
    | idle => rfl
    | applying | applied => simp [hreloading, Reloading.work] at h

/-- A reload takes a token, and is then under way at most. -/
lemma work_of_changed {outcomes : BindOutcomes} (h : s.step p (.changed outcomes) = some s') :
    s'.file = s.file ∧ s'.work < s.work := by
  obtain ⟨htoken, h⟩ := Option.ite_none_right_eq_some.mp h
  obtain ⟨server, hserver, rfl⟩ := Option.map_eq_some_iff.mp h
  have hreloading := server.reloading.work_le
  refine ⟨rfl, ?_⟩
  simp only [work, htoken, if_true, Bool.false_eq_true, if_false]
  omega

lemma work_lt (hworks : s.Works event) (h : s.step p event = some s') :
    s'.file = s.file ∧ s'.work < s.work := by
  cases event with
  | edit file => exact hworks.elim
  | callback =>
    cases h
    have hunnotified : s.unnotified = true := hworks
    refine ⟨rfl, ?_⟩
    simp only [work, hunnotified, if_true, Bool.false_eq_true, if_false]
    split <;> omega
  | changed outcomes => exact work_of_changed h
  | server inner =>
    cases inner with
    | changed => cases h
    | manager event => exact hworks.elim
    | managerEnds => exact hworks.elim
    | apply disk now =>
      obtain ⟨server, hserver, rfl⟩ := Option.map_eq_some_iff.mp h
      obtain ⟨next, routes, previous, hreloading, rfl⟩ := ProxyServer.applying_of_apply hserver
      refine ⟨rfl, ?_⟩
      simp [work, hreloading, Reloading.work]
    | refused sent outcomes =>
      obtain ⟨server, hserver, rfl⟩ := Option.map_eq_some_iff.mp h
      obtain ⟨next, routes, previous, hreloading, rfl⟩ := ProxyServer.applying_of_refused hserver
      refine ⟨rfl, ?_⟩
      simp [work, hreloading, Reloading.work, ProxyServer.report]
    | replaceRoutes =>
      obtain ⟨server, hserver, rfl⟩ := Option.map_eq_some_iff.mp h
      obtain ⟨next, routes, hreloading, rfl⟩ := ProxyServer.applied_of_replaceRoutes hserver
      refine ⟨rfl, ?_⟩
      simp [work, hreloading, Reloading.work, ProxyServer.report]

/-- A reload that is under way can go on, also when the manager has ended. -/
lemma idle_of_stuck (h : ∀ event, s.Works event → s.step p event = none) :
    s.server.reloading = .idle := by
  cases hreloading : s.server.reloading with
  | idle => rfl
  | applying config routes previous =>
    cases hruns : s.server.managerRuns with
    | true =>
      have hstuck := h (.server (.apply CertificateManager.emptyDisk 0)) trivial
      simp [step, ProxyServer.step, hreloading, hruns] at hstuck
    | false =>
      have hstuck := h (.server (.refused true ListenerManager.allBind)) trivial
      simp [step, ProxyServer.step, hreloading, hruns] at hstuck
  | applied config routes =>
    have hstuck := h (.server .replaceRoutes) trivial
    simp [step, ProxyServer.step, hreloading] at hstuck

lemma quiet_of_stuck (h : ∀ event, s.Works event → s.step p event = none) : s.Quiet where
  notified := by
    by_contra hunnotified
    cases h .callback (eq_true_of_ne_false hunnotified)
  taken := by
    by_contra htoken
    have hstuck := h (.changed ListenerManager.allBind) trivial
    simp [step, ProxyServer.step, htoken, idle_of_stuck h] at hstuck
  idle := idle_of_stuck h

/-! ## Runs -/

section Runs

variable {file : Except String String} {disk : Disk} {now : UInt64} {http https : BindOutcome}
  {past : List (WatchedProxy × WatchedEvent)}

/-- What holds in a run: the parts of the proxy belong together, and the file was not missed. -/
def Sound (p : ProxyProgram) (past : List (WatchedProxy × WatchedEvent)) (s : WatchedProxy) :
    Prop :=
  s.Announced p ∧ ∃ config, s.server.Follows p.parseUri config ∧
    ((∀ e ∈ past, e.1.Recovers p e.2) → s.server.ListenersFollow config)

lemma sound_start (h : WatchedProxy.start p file file disk now http https = .ok first) :
    first.Sound p [] := by
  obtain ⟨initial, hload, h⟩ := Except.exists_ok_of_bind h
  obtain ⟨server, hserver, h⟩ := Except.exists_ok_of_bind h
  cases h
  have hstart := Except.ok_of_mapError_ok hserver
  obtain ⟨hfollows, hlisteners⟩ :=
    ProxyServer.follows_start (ProxyProgram.validated_of_load hload) hstart
  refine ⟨.inr (.inr ?_), initial, hfollows, fun _ => hlisteners⟩
  obtain ⟨routes, -, hstart⟩ := Except.exists_ok_of_bind hstart
  obtain ⟨listeners, -, hstart⟩ := Except.exists_ok_of_bind hstart
  cases hstart
  refine current_of_reported _ rfl (List.getLast?_singleton) ?_
  show ConfigReport.IsOf _ (p.load file)
  rw [hload]
  rfl

lemma Sound.step (h : s.Sound p past) (hstep : s.step p event = some s') :
    s'.Sound p (past ++ [(s, event)]) := by
  obtain ⟨hannounced, config, hfollows, hlisteners⟩ := h
  refine ⟨hannounced.step hstep, ?_⟩
  obtain ⟨inner, hinner, hserver⟩ | hserver := server_of_step hstep
  · obtain ⟨config', hfollows', hlisteners'⟩ :=
      hfollows.step (validated_of_serverEvent hstep hinner) hserver
    refine ⟨config', hfollows', fun hrecovers => ?_⟩
    rw [List.forall_mem_append, List.forall_mem_singleton] at hrecovers
    exact hlisteners' (hlisteners hrecovers.1) (hrecovers.2 inner hinner)
  · rw [hserver]
    refine ⟨config, hfollows, fun hrecovers => hlisteners fun e he => ?_⟩
    exact hrecovers e (List.mem_append_left _ he)

lemma sound_of_run (hstart : WatchedProxy.start p file file disk now http https = .ok first)
    (h : Run (WatchedProxy.step p) Always first past s) : s.Sound p past :=
  h.invariant (I := fun past s => s.Sound p past) (sound_start hstart)
    fun _ _ _ _ hs _ hstep => hs.step hstep

/-- A configuration that is reported last without an error is the one that was applied last. -/
lemma lastApplied_of_getLast {server : ProxyServer} {config : ProxyConfig}
    (h : server.reports.getLast? = some ⟨some config, none⟩) :
    server.lastApplied = some config := by
  obtain ⟨reports, hreports⟩ := List.getLast?_eq_some_iff.mp h
  simp [ProxyServer.lastApplied, hreports, List.filter_append]

/-- **The proxy gets to what its file has.**  Whenever no replacement is still to be announced and
no reload is to be begun or under way, the last report is about what the file has.  If it has no
error, the configuration in the file was applied; in any case the routes, the certificates of all
hosts and the listeners are those of a proxy that is started from the configuration that was applied
last, the listeners as long as they could be bound again.  From every state reached, however many
replacements have come together, nine steps of the proxy lead there at the latest, in whatever order
they come. -/
theorem serves_file (hstart : WatchedProxy.start p file file disk now http https = .ok first)
    (h : Run (WatchedProxy.step p) Always first past s) :
    (s.Quiet → ∃ config report, s.server.lastApplied = some config ∧
      s.server.reports.getLast? = some report ∧ report.IsOf (p.load s.file) ∧
      (report.error = none → p.load s.file = .ok config) ∧
      ∀ disk now, ∃ fresh,
        ProxyServer.start p.lib p.parseUri config disk now none none = .ok fresh ∧
        s.server.routes = fresh.routes ∧
        (∀ host, (s.server.manager.resolver.resolverFor host).map (·.owner) =
          (fresh.manager.resolver.resolverFor host).map (·.owner)) ∧
        ((∀ e ∈ past, e.1.Recovers p e.2) → s.server.listeners = fresh.listeners)) ∧
    ∀ events s', exec (WatchedProxy.step p) Works s events = some s' →
      events.length ≤ 9 ∧ s'.file = s.file ∧
      ((∀ event, s'.Works event → s'.step p event = none) → s'.Quiet) ∧
      ∃ more s'', exec (WatchedProxy.step p) Works s' more = some s'' ∧
        ∀ event, s''.Works event → s''.step p event = none := by
  constructor
  · intro hquiet
    obtain ⟨hannounced, config, hfollows, hlisteners⟩ := sound_of_run hstart h
    have hcurrent : s.Current p := by
      rw [Announced, hquiet.notified, hquiet.taken] at hannounced
      simpa using hannounced
    unfold Current at hcurrent
    rw [hquiet.idle] at hcurrent
    obtain ⟨⟨reported, error⟩, hlast, hof⟩ := hcurrent
    refine ⟨config, ⟨reported, error⟩, hfollows.reported, hlast, hof, fun hnone => ?_,
      fun disk now => ?_⟩
    · cases hload : p.load s.file with
      | error message =>
        rw [hload] at hof
        cases hof
        cases hnone
      | ok loaded =>
        rw [hload] at hof
        have hreported : reported = some loaded := hof
        have herror : error = none := hnone
        subst hreported herror
        rw [Option.some.inj (hfollows.reported.symm.trans (lastApplied_of_getLast hlast))]
    · obtain ⟨fresh, hfresh, hroutes, howner, hsame⟩ := hfollows.startsAs hquiet.idle disk now
      exact ⟨fresh, hfresh, hroutes, howner, fun hrecovers => hsame (hlisteners hrecovers)⟩
  · intro events s' hexec
    have hmeasure : ∀ (t : WatchedProxy) e t', t.file = s.file → t.Works e →
        t.step p e = some t' → t'.file = s.file ∧ t'.work < t.work := by
      intro t e t' hfile hworks hstep
      obtain ⟨hsame, hlt⟩ := work_lt hworks hstep
      exact ⟨hsame.trans hfile, hlt⟩
    obtain ⟨hfile, hle⟩ := exec_length_le hmeasure rfl hexec
    have hbound := s.work_le
    exact ⟨by omega, hfile, quiet_of_stuck, exists_exec_stuck hmeasure hfile⟩

end Runs

/-! ## A file that is replaced -/

/-- A file with the listeners alone. -/
def listenersText (http https : String) : String :=
  "[proxy]\nhttp_bind = \"127.0.0.1:" ++ http ++ "\"\nhttps_bind = \"127.0.0.1:" ++ https ++
    "\"\ncache_dir = \"cache\"\n"

def listenersDocument (http https : String) : Toml.Document :=
  [("proxy", .table [("http_bind", .string ("127.0.0.1:" ++ http)),
    ("https_bind", .string ("127.0.0.1:" ++ https)), ("cache_dir", .string "cache")])]

def listenersConfig (http https : UInt16) : ProxyConfig :=
  ⟨⟨⟨.v4 0x7f000001, http⟩, ⟨.v4 0x7f000001, https⟩, "/etc/gaterust/cache", 2048⟩, [], [], [], []⟩

/-- The libraries know two such files. -/
def listenersProgram : ProxyProgram where
  lib := CertificateManager.noCertificates
  library :=
    { parse := fun text => [(listenersText "80" "443", listenersDocument "80" "443"),
        (listenersText "8080" "8443", listenersDocument "8080" "8443")].lookup text
      write := fun _ => .error "unsupported type"
      parseAddr := fun text => [("127.0.0.1:80", (⟨.v4 0x7f000001, 80⟩ : Tunnel.SocketAddr)),
        ("127.0.0.1:443", ⟨.v4 0x7f000001, 443⟩), ("127.0.0.1:8080", ⟨.v4 0x7f000001, 8080⟩),
        ("127.0.0.1:8443", ⟨.v4 0x7f000001, 8443⟩)].lookup text
      currentError := fun _ => "missing field" }
  parseUri := fun _ => none
  path := "/etc/gaterust/proxy.toml"

lemma load_listeners :
    listenersProgram.load (.ok (listenersText "80" "443")) = .ok (listenersConfig 80 443) ∧
      listenersProgram.load (.ok (listenersText "8080" "8443")) =
        .ok (listenersConfig 8080 8443) := by
  constructor <;> decide +kernel

/-- The file is removed and written anew, one callback runs for both, and the proxy reloads. -/
def replaceEvents : List WatchedEvent :=
  [.edit (.error "No such file or directory (os error 2)"),
    .edit (.ok (listenersText "8080" "8443")), .callback, .changed ListenerManager.allBind,
    .server (.apply CertificateManager.emptyDisk 0), .server .replaceRoutes]

theorem replaced_file_served :
    ∃ first past s fresh,
      WatchedProxy.start listenersProgram (.ok (listenersText "80" "443"))
        (.ok (listenersText "80" "443")) CertificateManager.emptyDisk 0 none none = .ok first ∧
      Run (WatchedProxy.step listenersProgram) Always first past s ∧
      s.file = .ok (listenersText "8080" "8443") ∧
      ProxyServer.start listenersProgram.lib listenersProgram.parseUri (listenersConfig 8080 8443)
        CertificateManager.emptyDisk 0 none none = .ok fresh ∧
      s.server.routes = fresh.routes := by
  have hall : (WatchedProxy.start listenersProgram (.ok (listenersText "80" "443"))
      (.ok (listenersText "80" "443")) CertificateManager.emptyDisk 0 none none).toOption.bind
        (fun first => (exec (WatchedProxy.step listenersProgram) Always first replaceEvents).map
          fun s => (s.file, s.work, s.server.reports.getLast?.map (·.error))) =
      some (.ok (listenersText "8080" "8443"), 0, some none) := by
    decide +kernel
  obtain ⟨first, hstart⟩ : ∃ first,
      WatchedProxy.start listenersProgram (.ok (listenersText "80" "443"))
        (.ok (listenersText "80" "443")) CertificateManager.emptyDisk 0 none none = .ok first := by
    rw [WatchedProxy.start, load_listeners.1]
    exact ⟨_, rfl⟩
  rw [hstart] at hall
  obtain ⟨s, hexec, hall⟩ := Option.map_eq_some_iff.mp hall
  rw [Prod.mk.injEq, Prod.mk.injEq] at hall
  obtain ⟨hfile, hwork, herror⟩ := hall
  obtain ⟨past, hrun⟩ := (reach_of_exec hexec).exists_run
  obtain ⟨config, report, -, hlast, -, hconfig, hfresh⟩ :=
    (serves_file hstart hrun).1 (quiet_of_work hwork)
  rw [hlast, Option.map_some, Option.some_inj] at herror
  have hload := hconfig herror
  rw [hfile, load_listeners.2] at hload
  cases hload
  obtain ⟨fresh, hfresh, hroutes, -⟩ := hfresh CertificateManager.emptyDisk 0
  exact ⟨first, past, s, fresh, hstart, hrun, hfile, hfresh, hroutes⟩

end WatchedProxy

end GateRust.Proxy
