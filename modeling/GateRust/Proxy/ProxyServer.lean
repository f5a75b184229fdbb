/-
# The proxy and its reloads

`run_proxy_with_runtime` starts the router, the certificate manager and the listeners from one
configuration, and `reload` moves the three to a new one: it compiles the routes, moves the
listeners, lets the manager apply the configuration, and puts the new routes into service at the
end.  A step that fails takes the listeners back.  The manager is a task of its own and goes on with
its work between the steps.

What the file holds when it is loaded, the answers of the system to attempts to bind and the end of
the manager are events.  The runs end where the proxy is told to stop.
-/
import GateRust.Proxy.Listeners
import GateRust.Proxy.Router
import GateRust.Proxy.ServedNames

namespace GateRust.Proxy

open Machine
open Tunnel (SocketAddr)

/-- How far `reload` has come. -/
inductive Reloading where
  | idle
  /-- The listeners have moved, and the command of `apply_config` waits for the manager. -/
  | applying (config : ProxyConfig) (routes : Router) (previousListener : ProxyListenerConfig)
  /-- The manager has answered. -/
  | applied (config : ProxyConfig) (routes : Router)

namespace Reloading

/-- The configuration that the listeners have, where `config` was applied last. -/
def listenersHave (config : ProxyConfig) : Reloading → ProxyConfig
  | .idle => config
  | .applying next _ _ | .applied next _ => next

/-- The configuration that the certificates have. -/
def certificatesHave (config : ProxyConfig) : Reloading → ProxyConfig
  | .idle | .applying .. => config
  | .applied next _ => next

/-- The configuration that is to be applied, with its routes. -/
def target? : Reloading → Option (ProxyConfig × Router)
  | .idle => none
  | .applying next routes _ | .applied next routes => some (next, routes)

end Reloading

/-- A configuration and why it was not applied, as it is reported.  After a load error there is no
configuration. -/
structure ConfigReport where
  config : Option ProxyConfig
  error : Option String

/-- The report is about what was loaded. -/
def ConfigReport.IsOf (report : ConfigReport) : Except String ProxyConfig → Prop
  | .ok config => report.config = some config
  | .error error => report = ⟨none, some error⟩

structure ProxyServer where
  routes : Router
  listeners : ListenerManager
  manager : CertificateManager
  managerRuns : Bool
  reloading : Reloading
  reports : List ConfigReport

namespace ProxyServer

/-! ## Start and reload -/

/-- The start of `run_proxy_with_runtime`, up to its loop. -/
def start (lib : Libraries) (parseUri : String → Option Uri) (initial : ProxyConfig) (disk : Disk)
    (now : UInt64) (http https : BindOutcome) : Except ProxyError ProxyServer := do
  let routes ← Router.new parseUri initial
  let manager := CertificateManager.new.applyConfig lib disk now initial
  let listeners ← ListenerManager.bind initial.proxy http https
  return ⟨routes, listeners, manager, true, .idle, [⟨some initial, none⟩]⟩

def report (s : ProxyServer) (config : Option ProxyConfig) (error : Option String) :
    ProxyServer :=
  { s with reports := s.reports ++ [⟨config, error⟩] }

/-- `reload` up to the call of `apply_config`. -/
def reload (parseUri : String → Option Uri) (s : ProxyServer)
    (loaded : Except String ProxyConfig) (outcomes : BindOutcomes) : ProxyServer :=
  match loaded with
  | .error error => s.report none (some error)
  | .ok config =>
    match Router.new parseUri config with
    | .error error => s.report (some config) (some error.display)
    | .ok routes =>
      let previousListener := s.listeners.config
      match s.listeners.apply config.proxy outcomes with
      | (.error error, listeners) =>
        { s with listeners := listeners }.report (some config) (some error.display)
      | (.ok (), listeners) =>
        { s with listeners := listeners, reloading := .applying config routes previousListener }

inductive Event where
  /-- The watcher wakes the loop, and the file is loaded; an error is given by its text. -/
  | changed (loaded : Except String ProxyConfig) (outcomes : BindOutcomes)
  /-- The manager handles the command. -/
  | apply (disk : Disk) (now : UInt64)
  /-- The manager has ended before it took the command, or before the command was sent. -/
  | refused (sent : Bool) (outcomes : BindOutcomes)
  | replaceRoutes
  /-- The manager does something else. -/
  | manager (event : CertificateManager.Event)
  | managerEnds

/-- The errors of `apply_config`: that of `runtime_closed` and that of `send`. -/
def applyError (sent : Bool) : ProxyError :=
  .runtime (if sent then "代理运行时已停止" else "代理运行时未启动")

def step (lib : Libraries) (parseUri : String → Option Uri) (s : ProxyServer) :
    Event → Option ProxyServer
  | .changed loaded outcomes =>
    match s.reloading with
    | .idle => some (s.reload parseUri loaded outcomes)
    | .applying .. | .applied .. => none
  | .apply disk now =>
    match s.reloading with
    | .applying config routes _ =>
      if s.managerRuns then some { s with
        manager := s.manager.applyConfig lib disk now config
        reloading := .applied config routes }
      else none
    | .idle | .applied .. => none
  | .refused sent outcomes =>
    match s.reloading with
    | .applying config _ previousListener =>
      if s.managerRuns then none
      else some <| { s with
        -- an error of the way back is only logged
        listeners := (s.listeners.apply previousListener outcomes).2
        reloading := .idle }.report (some config) (some (applyError sent).display)
    | .idle | .applied .. => none
  | .replaceRoutes =>
    match s.reloading with
    | .applied config routes =>
      some <| { s with routes := routes, reloading := .idle }.report (some config) none
    | .idle | .applying .. => none
  | .manager event =>
    match event with
    | .apply .. => none
    | event =>
      if s.managerRuns then
        (s.manager.step lib event).map fun manager => { s with manager := manager }
      else none
  | .managerEnds => if s.managerRuns then some { s with managerRuns := false } else none

/-- The configuration that was reported last as applied. -/
def lastApplied (s : ProxyServer) : Option ProxyConfig :=
  (s.reports.filter fun report => report.error.isNone).getLast?.bind (·.config)

/-! ## What the surroundings do -/

variable {lib : Libraries} {parseUri : String → Option Uri} {s s' start : ProxyServer}
  {config initial : ProxyConfig} {event : Event}

/-- What is loaded has passed the validation. -/
def Validated (parseUri : String → Option Uri) (_ : ProxyServer) : Event → Prop
  | .changed (.ok config) _ => config.Validated parseUri
  | _ => True

/-- Where both listeners have to be stopped for a reload, the new or the previous addresses can be
bound, and the way back to the previous ones succeeds. -/
def Recovers (s : ProxyServer) : Event → Prop
  | .changed (.ok config) outcomes => s.listeners.Recovers (config.proxy, outcomes)
  | .refused _ outcomes =>
    match s.reloading with
    | .applying _ _ previousListener => (s.listeners.apply previousListener outcomes).1 = .ok ()
    | .idle | .applied .. => True
  | _ => True

/-! ## The listeners -/

section Listeners

variable {previous next : ProxyListenerConfig} {outcomes : BindOutcomes}
  {result : Except ProxyError Unit} {m : ListenerManager}

/-- A successful call moves bound listeners to the new addresses. -/
lemma bound_of_apply (h : (ListenerManager.bound previous).apply next outcomes = (.ok (), m)) :
    m = .bound next := by
  obtain ⟨-, rfl⟩ | ⟨-, -, rfl⟩ | ⟨error, herror, -⟩ := ListenerManager.apply_cases h
  · have hmoved (current next : SocketAddr) : ((ListenerManager.prepared current next).map
        ActiveListener.mk).or (some ⟨⟨current⟩⟩) = some ⟨⟨next⟩⟩ :=
      (ListenerManager.replaced_eq_some_iff next fun _ h => (Option.some.inj h).symm).mpr
        (.inl rfl)
    rw [ListenerManager.replaced, ListenerManager.bound, hmoved, hmoved]
    rfl
  · rfl
  · cases herror

/-- A call that fails leaves bound listeners where they are, or has lost them. -/
lemma bound_of_apply_error {error : ProxyError}
    (hrecovers : (ListenerManager.bound previous).Recovers (next, outcomes))
    (h : (ListenerManager.bound previous).apply next outcomes = (.error error, m)) :
    m = .bound previous := by
  have hrunning : m.Running := by
    have hrunning := ListenerManager.Running.apply (m := .bound previous) ⟨rfl, rfl⟩ hrecovers
    rwa [h] at hrunning
  obtain ⟨hok, -⟩ | ⟨hok, -, -⟩ | ⟨error, -, rfl | rfl | rfl⟩ := ListenerManager.apply_cases h
  · cases hok
  · cases hok
  · rfl
  · rfl
  · exact absurd hrunning.1 (by simp [ListenerManager.stopActive])

end Listeners

/-! ## The manager -/

lemma applyConfig_config (m : CertificateManager) (disk : Disk) (now : UInt64) :
    (m.applyConfig lib disk now config).config = some config :=
  congrArg Prod.fst ((m.installConfig lib disk now config).names_scheduleDue now)

lemma namesServed_applyConfig {m : CertificateManager} (h : m.NamesServed) (disk : Disk)
    (now : UInt64) (hconfig : config.Validated parseUri) :
    (m.applyConfig lib disk now config).NamesServed :=
  (h.installConfig hconfig.regular).congr (CertificateManager.names_scheduleDue _ now)

/-- Whatever else the manager does, the names stay. -/
lemma names_of_step {m m' : CertificateManager} {event : CertificateManager.Event}
    (hevent : ∀ config disk now, event ≠ .apply config disk now)
    (h : m.step lib event = some m') : m'.names = m.names := by
  cases event with
  | apply config disk now => exact absurd rfl (hevent config disk now)
  | issue certificateId =>
    cases h
    exact m.names_startIssue certificateId false
  | «continue» certificateId =>
    cases h
    exact m.names_startContinue certificateId
  | tick now =>
    cases h
    exact m.names_scheduleDue now
  | finish index answers =>
    obtain ⟨task, -, rfl⟩ := CertificateManager.endTask_cases h
    rfl
  | panic index =>
    obtain ⟨task, -, rfl⟩ := CertificateManager.endTask_cases h
    rfl
  | join index now =>
    obtain ⟨task, -, ⟨-, rfl⟩ | ⟨result, -, ⟨-, rfl⟩ | ⟨-, rfl⟩⟩⟩ := CertificateManager.join_cases h
    · rfl
    · rfl
    · exact CertificateManager.names_handleTask _ now _

/-! ## What the parts have during a reload -/

@[simp] lemma lastApplied_report_error (config : Option ProxyConfig) (error : String) :
    (s.report config (some error)).lastApplied = s.lastApplied := by
  simp [lastApplied, report, List.filter_append]

@[simp] lemma lastApplied_report_applied (config : ProxyConfig) :
    (s.report (some config) none).lastApplied = some config := by
  simp [lastApplied, report, List.filter_append]

/-- The routes are those of the configuration that was applied last, and so are the certificates
until the manager has the next one. -/
structure Follows (parseUri : String → Option Uri) (s : ProxyServer) (config : ProxyConfig) :
    Prop where
  reported : s.lastApplied = some config
  validated : config.Validated parseUri
  routes : Router.new parseUri config = .ok s.routes
  names : s.manager.NamesServed
  certificates : s.manager.config = some (s.reloading.certificatesHave config)
  target : ∀ next routes, s.reloading.target? = some (next, routes) →
    next.Validated parseUri ∧ Router.new parseUri next = .ok routes

/-- The listeners run on the addresses of the configuration, or of the next one. -/
structure ListenersFollow (s : ProxyServer) (config : ProxyConfig) : Prop where
  bound : s.listeners = .bound (s.reloading.listenersHave config).proxy
  previous : ∀ next routes previousListener,
    s.reloading = .applying next routes previousListener → previousListener = config.proxy

/-- What the first part of a reload does. -/
lemma reload_cases (parseUri : String → Option Uri) (s : ProxyServer)
    (loaded : Except String ProxyConfig) (outcomes : BindOutcomes) :
    (∃ config error, (ConfigReport.mk config (some error)).IsOf loaded ∧
        s.reload parseUri loaded outcomes = s.report config (some error)) ∨
      (∃ next error listeners, loaded = .ok next ∧
        s.listeners.apply next.proxy outcomes = (.error error, listeners) ∧
        s.reload parseUri loaded outcomes =
          { s with listeners := listeners }.report (some next) (some error.display)) ∨
      ∃ next routes listeners, loaded = .ok next ∧ Router.new parseUri next = .ok routes ∧
        s.listeners.apply next.proxy outcomes = (.ok (), listeners) ∧
        s.reload parseUri loaded outcomes = { s with
          listeners := listeners, reloading := .applying next routes s.listeners.config } := by
  cases loaded with
  | error error => exact .inl ⟨none, error, rfl, rfl⟩
  | ok next =>
    rw [reload]
    cases hroutes : Router.new parseUri next with
    | error error => exact .inl ⟨some next, error.display, rfl, rfl⟩
    | ok routes =>
      right
      cases happly : s.listeners.apply next.proxy outcomes with
      | mk result listeners =>
        simp only
        cases result with
        | error error => exact .inl ⟨next, error, listeners, rfl, happly, rfl⟩
        | ok value => exact .inr ⟨next, routes, listeners, rfl, hroutes, happly, rfl⟩

lemma Follows.changed {loaded : Except String ProxyConfig} {outcomes : BindOutcomes}
    (h : s.Follows parseUri config) (hidle : s.reloading = .idle)
    (hok : s.Validated parseUri (.changed loaded outcomes)) :
    (s.reload parseUri loaded outcomes).Follows parseUri config ∧
      (s.ListenersFollow config → s.Recovers (.changed loaded outcomes) →
        (s.reload parseUri loaded outcomes).ListenersFollow config) := by
  obtain ⟨other, error, -, hreload⟩ | ⟨next, error, listeners, rfl, happly, hreload⟩ |
    ⟨next, routes, listeners, rfl, hroutes, happly, hreload⟩ :=
    reload_cases parseUri s loaded outcomes
  · rw [hreload]
    exact ⟨{ h with reported := (lastApplied_report_error other error).trans h.reported },
      fun hl _ => ⟨hl.bound, hl.previous⟩⟩
  · rw [hreload]
    refine ⟨{ h with reported := (lastApplied_report_error (some next) _).trans h.reported },
      fun hl hrecovers => ⟨?_, hl.previous⟩⟩
    rw [Recovers, hl.bound] at hrecovers
    rw [hl.bound] at happly
    exact bound_of_apply_error hrecovers happly
  · rw [hreload]
    have hcertificates := h.certificates
    rw [hidle] at hcertificates
    refine ⟨⟨h.reported, h.validated, h.routes, h.names, hcertificates, ?_⟩,
      fun hl _ => ⟨?_, ?_⟩⟩
    · rintro _ _ ⟨⟩
      exact ⟨hok, hroutes⟩
    · rw [hl.bound] at happly
      exact bound_of_apply happly
    · rintro _ _ _ ⟨⟩
      rw [hl.bound, hidle]
      rfl

/-! ## One step -/

lemma idle_of_changed {loaded : Except String ProxyConfig} {outcomes : BindOutcomes}
    (h : s.step lib parseUri (.changed loaded outcomes) = some s') :
    s.reloading = .idle ∧ s' = s.reload parseUri loaded outcomes := by
  unfold ProxyServer.step at h
  cases hreloading : s.reloading <;> simp only [hreloading, reduceCtorEq, Option.some.injEq] at h
  exact ⟨rfl, h.symm⟩

lemma applying_of_apply {disk : Disk} {now : UInt64}
    (h : s.step lib parseUri (.apply disk now) = some s') :
    ∃ next routes previousListener, s.reloading = .applying next routes previousListener ∧
      s' = { s with
        manager := s.manager.applyConfig lib disk now next
        reloading := .applied next routes } := by
  unfold ProxyServer.step at h
  cases hreloading : s.reloading with
  | idle => simp only [hreloading, reduceCtorEq] at h
  | applied next routes => simp only [hreloading, reduceCtorEq] at h
  | applying next routes previousListener =>
    simp only [hreloading, Option.ite_none_right_eq_some, Option.some.injEq] at h
    exact ⟨next, routes, previousListener, rfl, h.2.symm⟩

lemma applying_of_refused {sent : Bool} {outcomes : BindOutcomes}
    (h : s.step lib parseUri (.refused sent outcomes) = some s') :
    ∃ next routes previousListener, s.reloading = .applying next routes previousListener ∧
      s' = { s with
        listeners := (s.listeners.apply previousListener outcomes).2
        reloading := .idle }.report (some next) (some (applyError sent).display) := by
  unfold ProxyServer.step at h
  cases hreloading : s.reloading with
  | idle => simp only [hreloading, reduceCtorEq] at h
  | applied next routes => simp only [hreloading, reduceCtorEq] at h
  | applying next routes previousListener =>
    simp only [hreloading, Option.ite_none_left_eq_some, Option.some.injEq] at h
    exact ⟨next, routes, previousListener, rfl, h.2.symm⟩

lemma applied_of_replaceRoutes (h : s.step lib parseUri .replaceRoutes = some s') :
    ∃ next routes, s.reloading = .applied next routes ∧
      s' = { s with routes := routes, reloading := .idle }.report (some next) none := by
  unfold ProxyServer.step at h
  cases hreloading : s.reloading <;> simp only [hreloading, reduceCtorEq, Option.some.injEq] at h
  exact ⟨_, _, rfl, h.symm⟩

/-- Whatever else the manager does, the names and the other parts stay. -/
lemma names_of_manager {event : CertificateManager.Event}
    (h : s.step lib parseUri (.manager event) = some s') :
    ∃ manager, manager.names = s.manager.names ∧ s' = { s with manager := manager } := by
  simp only [ProxyServer.step] at h
  split at h
  case h_1 => cases h
  case h_2 hevent =>
    obtain ⟨-, h⟩ := Option.ite_none_right_eq_some.mp h
    obtain ⟨manager, hmanager, rfl⟩ := Option.map_eq_some_iff.mp h
    exact ⟨manager, names_of_step hevent hmanager, rfl⟩

/-- A step keeps the parts together, and only the last step of a reload changes the configuration
that they have. -/
lemma Follows.step (h : s.Follows parseUri config) (hok : s.Validated parseUri event)
    (hstep : s.step lib parseUri event = some s') :
    ∃ config', s'.Follows parseUri config' ∧
      (s.ListenersFollow config → s.Recovers event → s'.ListenersFollow config') := by
  cases event with
  | changed loaded outcomes =>
    obtain ⟨hidle, rfl⟩ := idle_of_changed hstep
    exact ⟨config, h.changed hidle hok⟩
  | apply disk now =>
    obtain ⟨next, routes, previousListener, hreloading, rfl⟩ := applying_of_apply hstep
    obtain ⟨hnext, hroutes⟩ := h.target next routes (by rw [hreloading]; rfl)
    refine ⟨config, ⟨h.reported, h.validated, h.routes,
      namesServed_applyConfig h.names disk now hnext, applyConfig_config s.manager disk now, ?_⟩,
      fun hl _ => ⟨?_, fun _ _ _ h => by cases h⟩⟩
    · rintro _ _ ⟨⟩
      exact ⟨hnext, hroutes⟩
    · have hbound := hl.bound
      rw [hreloading] at hbound
      exact hbound
  | refused sent outcomes =>
    obtain ⟨next, routes, previousListener, hreloading, rfl⟩ := applying_of_refused hstep
    have hcertificates := h.certificates
    rw [hreloading] at hcertificates
    refine ⟨config, ⟨(lastApplied_report_error (some next) _).trans h.reported, h.validated,
      h.routes, h.names, hcertificates, fun _ _ h => by cases h⟩,
      fun hl hrecovers => ⟨?_, fun _ _ _ h => by cases h⟩⟩
    have hprevious := hl.previous next routes previousListener hreloading
    subst hprevious
    rw [Recovers, hreloading] at hrecovers
    rw [hl.bound] at hrecovers ⊢
    exact bound_of_apply (Prod.ext hrecovers rfl)
  | replaceRoutes =>
    obtain ⟨next, routes, hreloading, rfl⟩ := applied_of_replaceRoutes hstep
    obtain ⟨hnext, hroutes⟩ := h.target next routes (by rw [hreloading]; rfl)
    have hcertificates := h.certificates
    rw [hreloading] at hcertificates
    refine ⟨next, ⟨lastApplied_report_applied next, hnext, hroutes, h.names, hcertificates,
      fun _ _ h => by cases h⟩, fun hl _ => ⟨?_, fun _ _ _ h => by cases h⟩⟩
    have hbound := hl.bound
    rw [hreloading] at hbound
    exact hbound
  | manager event =>
    obtain ⟨manager, hnames, rfl⟩ := names_of_manager hstep
    exact ⟨config, ⟨h.reported, h.validated, h.routes, h.names.congr hnames,
      (congrArg Prod.fst hnames).trans h.certificates, h.target⟩,
      fun hl _ => ⟨hl.bound, hl.previous⟩⟩
  | managerEnds =>
    obtain ⟨-, hrest⟩ := Option.ite_none_right_eq_some.mp hstep
    cases hrest
    exact ⟨config, { h with }, fun hl _ => ⟨hl.bound, hl.previous⟩⟩

/-! ## Runs -/

section Runs

variable {first : ProxyServer} {disk : Disk} {now : UInt64} {http https : BindOutcome}
  {past : List (ProxyServer × Event)}

lemma follows_start (hinitial : initial.Validated parseUri)
    (h : ProxyServer.start lib parseUri initial disk now http https = .ok first) :
    first.Follows parseUri initial ∧ first.ListenersFollow initial := by
  obtain ⟨routes, hroutes, h⟩ := Except.exists_ok_of_bind h
  obtain ⟨listeners, hlisteners, h⟩ := Except.exists_ok_of_bind h
  cases h
  refine ⟨⟨rfl, hinitial, hroutes,
    namesServed_applyConfig CertificateManager.namesServed_new disk now hinitial,
    applyConfig_config _ disk now, fun _ _ h => by cases h⟩, ⟨?_, fun _ _ _ h => by cases h⟩⟩
  exact ListenerManager.bind_ok hlisteners

lemma follows_of_run (hinitial : initial.Validated parseUri)
    (hstart : ProxyServer.start lib parseUri initial disk now http https = .ok first)
    (h : Run (ProxyServer.step lib parseUri) (Validated parseUri) first past s) :
    ∃ config, s.Follows parseUri config ∧
      ((∀ p ∈ past, p.1.Recovers p.2) → s.ListenersFollow config) := by
  obtain ⟨hfirst, hlisteners⟩ := follows_start hinitial hstart
  refine h.invariant (I := fun past s => ∃ config, s.Follows parseUri config ∧
    ((∀ p ∈ past, p.1.Recovers p.2) → s.ListenersFollow config))
    ⟨initial, hfirst, fun _ => hlisteners⟩ ?_
  rintro past s event s' ⟨config, hs, hlisteners⟩ hok hstep
  obtain ⟨config', hs', hlisteners'⟩ := hs.step hok hstep
  refine ⟨config', hs', fun hrecovers => ?_⟩
  rw [List.forall_mem_append, List.forall_mem_singleton] at hrecovers
  exact hlisteners' (hlisteners hrecovers.1) hrecovers.2

/-- A configuration that was compiled once can be started from. -/
lemma exists_start {routes : Router} (hroutes : Router.new parseUri config = .ok routes) :
    ∃ fresh, ProxyServer.start lib parseUri config disk now none none = .ok fresh ∧
      fresh.routes = routes ∧ fresh.listeners = .bound config.proxy ∧ fresh.reloading = .idle := by
  refine ⟨⟨routes, .bound config.proxy, CertificateManager.new.applyConfig lib disk now config,
    true, .idle, [⟨some config, none⟩]⟩, ?_, rfl, rfl, rfl⟩
  rw [ProxyServer.start, hroutes]
  rfl

lemma Follows.owner_iff (h : s.Follows parseUri config) (host owner : String) :
    (s.manager.resolver.resolverFor host).map (·.owner) = some owner ↔
      Owns (s.reloading.certificatesHave config).certificates host owner := by
  have hserves := h.names.serves
  rw [h.certificates] at hserves
  exact hserves.resolverFor_iff

/-- Between two reloads the parts are those of a proxy that is started. -/
lemma Follows.startsAs (h : s.Follows parseUri config) (hidle : s.reloading = .idle) (disk : Disk)
    (now : UInt64) :
    ∃ fresh, ProxyServer.start lib parseUri config disk now none none = .ok fresh ∧
      s.routes = fresh.routes ∧
      (∀ host, (s.manager.resolver.resolverFor host).map (·.owner) =
        (fresh.manager.resolver.resolverFor host).map (·.owner)) ∧
      (s.ListenersFollow config → s.listeners = fresh.listeners) := by
  obtain ⟨fresh, hfresh, hroutes, hbound, hfreshIdle⟩ := exists_start h.routes
  obtain ⟨hfollows, -⟩ := follows_start h.validated hfresh
  refine ⟨fresh, hfresh, hroutes.symm, fun host => Option.ext fun owner => ?_, fun hlisteners => ?_⟩
  · rw [h.owner_iff, hfollows.owner_iff, hidle, hfreshIdle]
  · rw [hlisteners.bound, hidle, hbound]
    rfl

/-- **A reloaded proxy serves what a started one serves.**  The routes are at any time those of the
configuration that was reported last as applied, and the certificates those of this one or, just
before the end of a reload, those of the next.  Between two reloads the routes, the certificate of
every host and the listeners are those of a proxy started from that configuration, however many
reloads have failed; the listeners as long as a call that had to stop them, or to take a failed
reload back, could bind addresses again. -/
theorem reloaded_as_started (hinitial : initial.Validated parseUri)
    (hstart : ProxyServer.start lib parseUri initial disk now http https = .ok first)
    (h : Run (ProxyServer.step lib parseUri) (Validated parseUri) first past s) :
    ∃ config, s.lastApplied = some config ∧ Router.new parseUri config = .ok s.routes ∧
      (∃ current, (current = config ∨ ∃ routes, s.reloading = .applied current routes) ∧
        ∀ host owner, (s.manager.resolver.resolverFor host).map (·.owner) = some owner ↔
          Owns current.certificates host owner) ∧
      (s.reloading = .idle → ∀ disk now, ∃ fresh,
        ProxyServer.start lib parseUri config disk now none none = .ok fresh ∧
        s.routes = fresh.routes ∧
        (∀ host, (s.manager.resolver.resolverFor host).map (·.owner) =
          (fresh.manager.resolver.resolverFor host).map (·.owner)) ∧
        ((∀ p ∈ past, p.1.Recovers p.2) → s.listeners = fresh.listeners)) := by
  obtain ⟨config, hs, hlisteners⟩ := follows_of_run hinitial hstart h
  refine ⟨config, hs.reported, hs.routes,
    ⟨s.reloading.certificatesHave config, ?_, hs.owner_iff⟩, fun hidle disk' now' => ?_⟩
  · cases hreloading : s.reloading with
    | idle => exact .inl rfl
    | applying next routes previousListener => exact .inl rfl
    | applied next routes => exact .inr ⟨routes, rfl⟩
  · obtain ⟨fresh, hfresh, hroutes, howner, hsame⟩ := hs.startsAs hidle disk' now'
    exact ⟨fresh, hfresh, hroutes, howner, fun hrecovers => hsame (hlisteners hrecovers)⟩

end Runs

open CertificateManager (manualConfig noCertificates emptyDisk)

/-- The listeners move to other ports while the site gets another name. -/
def movedConfig : ProxyConfig :=
  { manualConfig "b.example.com" with
    proxy := ⟨⟨.v4 0x7f000001, 8080⟩, ⟨.v4 0x7f000001, 8443⟩, "cache", 16⟩ }

theorem moved_as_started :
    ∃ first past s fresh,
      ProxyServer.start noCertificates (fun _ => none) (manualConfig "a.example.com") emptyDisk 0
        none none = .ok first ∧
      Run (ProxyServer.step noCertificates fun _ => none) (Validated fun _ => none) first past s ∧
      ProxyServer.start noCertificates (fun _ => none) movedConfig emptyDisk 0 none none =
        .ok fresh ∧
      s.lastApplied = some movedConfig ∧ s.listeners = fresh.listeners ∧
      (s.manager.resolver.resolverFor "b.example.com").map (·.owner) =
        (fresh.manager.resolver.resolverFor "b.example.com").map (·.owner) := by
  have hinitial : (manualConfig "a.example.com").Validated fun _ => none :=
    ⟨manualConfig "a.example.com", by decide +kernel⟩
  have hmoved : movedConfig.Validated fun _ => none := ⟨movedConfig, by decide +kernel⟩
  obtain ⟨first, hfirst, s, past, hrun, happlied, hidle, hrecovers⟩ : ∃ first,
      ProxyServer.start noCertificates (fun _ => none) (manualConfig "a.example.com") emptyDisk 0
        none none = .ok first ∧
      ∃ s past, Run (ProxyServer.step noCertificates fun _ => none) (Validated fun _ => none) first
          past s ∧
        s.lastApplied = some movedConfig ∧ s.reloading = .idle ∧
        ∀ p ∈ past, p.1.Recovers p.2 := by
    refine ⟨_, rfl, _, _, ((Run.init.next (e := Event.changed (.ok movedConfig)
      ListenerManager.allBind) hmoved rfl).next (e := Event.apply emptyDisk 0) trivial rfl).next
      (e := Event.replaceRoutes) trivial rfl, ?_, ?_, ?_⟩
    · rfl
    · rfl
    · simp only [List.nil_append, List.cons_append, List.forall_mem_cons, List.not_mem_nil,
        false_implies, implies_true, and_true]
      exact ⟨fun _ => .inl rfl, trivial, trivial⟩
  obtain ⟨config, happlied', -, -, hfresh⟩ := reloaded_as_started hinitial hfirst hrun
  cases happlied.symm.trans happlied'
  obtain ⟨fresh, hfresh, -, howner, hlisteners⟩ := hfresh hidle emptyDisk 0
  exact ⟨first, past, s, fresh, hfirst, hrun, hfresh, happlied, hlisteners hrecovers, howner _⟩

end ProxyServer

end GateRust.Proxy
