/-
# Waiting for a configuration to be applied

A module reports every configuration that it applies, or fails to apply or to load, with the next
revision.  The control plane reads the revision, changes the file, and waits in `wait_for_config`
for a report with another revision and with its configuration.

The tunnel server keeps the revision and the configuration in one watch channel.  The proxy keeps
the revision in its snapshot, and publishes a report in three steps: it changes the snapshot, reads
the status back, and sends the status and the configuration to the channel that is waited on.  All
reports of a module come from the one task that reloads it; the readers run at any time.
-/
import GateRust.Control.ConfigPaths
import GateRust.Lib.Machine

namespace GateRust.Control

open Machine
open Tunnel (Digest)

/-! ## The channel of the reports -/

/-- The watch channel of the applied configuration, with all reports that were sent.  The version
of the channel is the number of reports. -/
structure ReportChannel (C K : Type) where
  state : ConfigApplyState K
  sent : List (Option C × ConfigStatus)

/-- What `config_revision` has returned.  For the proofs: how many reports were sent then, and
whether another one was being published. -/
structure Reading where
  revision : UInt64
  sent : ℕ
  underWay : Bool
deriving DecidableEq

/-- A reader of the revision.  In `wait_for_config` it has the key of its configuration and the
version of the channel that it has seen. -/
structure Waiter (K : Type) where
  reading : Reading
  waiting : Option (K × Option ℕ)

/-- What a reader does after it has read the revision. -/
inductive WaiterEvent (K : Type) where
  | wait (key : K)
  /-- `borrow_and_update` in the loop of `wait_for_config`, at first or after a change. -/
  | borrow
  | timeout

section Channel

variable {C K : Type}

def ReportChannel.new : ReportChannel C K := ⟨⟨none, 0, none⟩, []⟩

/-- The configuration is none after a load error. -/
def ReportChannel.send (channel : ReportChannel C K) (key : C → Option K) (config : Option C)
    (status : ConfigStatus) : ReportChannel C K :=
  ⟨⟨config.bind key, status⟩, channel.sent ++ [(config, status)]⟩

/-- The status after a report. -/
def ConfigStatus.next (status : ConfigStatus) (error : Option String) : ConfigStatus :=
  ⟨status.revision + 1, error⟩

variable [BEq K]

/-- What the call returns that waits for the key. -/
def Waiter.returned (channel : ReportChannel C K) (w : Waiter K) (key : K) : Option ConfigStatus :=
  channel.state.waitForConfig key w.reading.revision

def Waiter.step (channel : ReportChannel C K) (w : Waiter K) : WaiterEvent K → Option (Waiter K)
  | .wait key => some { w with waiting := some (key, none) }
  | .borrow =>
    match w.waiting with
    | some (key, seen) =>
      if seen = some channel.sent.length then none
      else some { w with
        waiting := if (w.returned channel key).isSome then none
          else some (key, some channel.sent.length) }
    | none => none
  | .timeout => some { w with waiting := none }

/-- The status was published for a configuration with the key, by a report that had not been sent
when the revision was read. -/
def Waiter.Fresh (channel : ReportChannel C K) (key : C → Option K) (w : Waiter K) (k : K)
    (status : ConfigStatus) : Prop :=
  ∃ n config, w.reading.sent ≤ n ∧ channel.sent[n]? = some (some config, status) ∧
    (key config).any (· == k)

end Channel

/-! ## The two runtimes -/

/-- The reports of the tunnel server. -/
structure TunnelReports where
  channel : ReportChannel LoadedServerConfig Digest
  waiters : List (Waiter Digest)

inductive TunnelReportEvent where
  /-- The configuration has no fingerprint when it cannot be written as text. -/
  | report (config : Option LoadedServerConfig) (error : Option String)
  | read
  | waiter (number : ℕ) (event : WaiterEvent Digest)

namespace TunnelReports

def new : TunnelReports := ⟨.new, []⟩

/-- `report_config_applied`, `report_config_failed` and `report_config_load_error`, where the last
one has no configuration. -/
def report (fingerprint : LoadedServerConfig → Option Digest) (s : TunnelReports)
    (config : Option LoadedServerConfig) (error : Option String) : TunnelReports :=
  if config.all fun config => (fingerprint config).isSome then
    { s with channel := s.channel.send fingerprint config (s.channel.state.status.next error) }
  else s

def step (fingerprint : LoadedServerConfig → Option Digest) (s : TunnelReports) :
    TunnelReportEvent → Option TunnelReports
  | .report config error => some (s.report fingerprint config error)
  | .read => some { s with
      waiters := s.waiters ++
        [⟨⟨s.channel.state.status.revision, s.channel.sent.length, false⟩, none⟩] }
  | .waiter number event => do
    let w ← s.waiters[number]?
    let w' ← w.step s.channel event
    return { s with waiters := s.waiters.set number w' }

end TunnelReports

/-- A report of the proxy that has changed the snapshot, with the status once it was read back. -/
structure Publication where
  config : Option LoadedProxyConfig
  status : Option ConfigStatus

/-- The reports of the proxy. -/
structure ProxyReports where
  snapshot : ConfigStatus
  publishing : Option Publication
  channel : ReportChannel LoadedProxyConfig LoadedProxyConfig
  waiters : List (Waiter LoadedProxyConfig)

inductive ProxyReportEvent where
  /-- `send_modify` of `publish_config_status`. -/
  | modify (config : Option LoadedProxyConfig) (error : Option String)
  /-- The status is borrowed from the snapshot. -/
  | readBack
  | sendReplace
  | read
  | waiter (number : ℕ) (event : WaiterEvent LoadedProxyConfig)

namespace ProxyReports

def new : ProxyReports := ⟨⟨0, none⟩, none, .new, []⟩

def step (s : ProxyReports) : ProxyReportEvent → Option ProxyReports
  | .modify config error =>
    match s.publishing with
    | none => some { s with snapshot := s.snapshot.next error, publishing := some ⟨config, none⟩ }
    | some _ => none
  | .readBack =>
    match s.publishing with
    | some ⟨config, none⟩ => some { s with publishing := some ⟨config, some s.snapshot⟩ }
    | _ => none
  | .sendReplace =>
    match s.publishing with
    | some ⟨config, some status⟩ =>
      some { s with channel := s.channel.send some config status, publishing := none }
    | _ => none
  | .read => some { s with
      waiters := s.waiters ++
        [⟨⟨s.snapshot.revision, s.channel.sent.length, s.publishing.isSome⟩, none⟩] }
  | .waiter number event => do
    let w ← s.waiters[number]?
    let w' ← w.step s.channel event
    return { s with waiters := s.waiters.set number w' }

end ProxyReports

/-! ## The last report -/

section Latest

variable {C K : Type} {channel : ReportChannel C K} {key : C → Option K}

/-- The channel holds the last report. -/
def ReportChannel.Latest (channel : ReportChannel C K) (key : C → Option K) : Prop :=
  ∀ k, channel.state.key = some k →
    ∃ config, channel.sent.getLast? = some (some config, channel.state.status) ∧
      key config = some k

lemma ReportChannel.latest_new : (ReportChannel.new : ReportChannel C K).Latest key := by
  simp [ReportChannel.Latest, ReportChannel.new]

lemma ReportChannel.latest_send (config : Option C) (status : ConfigStatus) :
    (channel.send key config status).Latest key := by
  intro k hk
  obtain ⟨config, rfl, hkey⟩ := Option.bind_eq_some_iff.mp hk
  exact ⟨config, List.getLast?_concat, hkey⟩

/-- A reader that has read the revision of the last report finds no other revision. -/
def Reading.Bounded (reading : Reading) (channel : ReportChannel C K) : Prop :=
  reading.sent ≤ channel.sent.length ∧
    (reading.underWay = false → reading.sent = channel.sent.length →
      reading.revision = channel.state.status.revision)

lemma Reading.Bounded.send {reading : Reading} (h : reading.Bounded channel) (config : Option C)
    (status : ConfigStatus) : reading.Bounded (channel.send key config status) := by
  have hlength : (channel.send key config status).sent.length = channel.sent.length + 1 := by
    simp [ReportChannel.send]
  refine ⟨by have := h.1; omega, fun _ hsent => ?_⟩
  have := h.1
  omega

variable [BEq K]

/-- The readings of the readers stay as they were. -/
lemma Waiter.reading_step {w w' : Waiter K} {e : WaiterEvent K}
    (h : w.step channel e = some w') : w'.reading = w.reading := by
  cases e with
  | wait key =>
    cases h
    rfl
  | borrow =>
    simp only [Waiter.step] at h
    split at h
    · split at h
      · cases h
      · cases h
        rfl
    · cases h
  | timeout =>
    cases h
    rfl

/-- A status that is returned is that of the last report, and it is fresh unless this report had
been sent when the revision was read, in the middle of the next one. -/
lemma Waiter.fresh_iff {w : Waiter K} {k : K} {status : ConfigStatus}
    (hlatest : channel.Latest key) (hbounded : w.reading.Bounded channel)
    (hreturned : w.returned channel k = some status) :
    w.Fresh channel key k status ↔
      ¬ (w.reading.underWay = true ∧ w.reading.sent = channel.sent.length) := by
  simp only [Waiter.returned, ConfigApplyState.waitForConfig, Bool.and_eq_true,
    decide_eq_true_eq, Option.ite_none_right_eq_some, Option.some.injEq, Option.any_eq_true]
    at hreturned
  obtain ⟨⟨hne, k', hk', hbeq⟩, rfl⟩ := hreturned
  obtain ⟨config, hlast, hkey⟩ := hlatest k' hk'
  constructor
  · rintro ⟨n, c, hn, hentry, -⟩ ⟨-, hsent⟩
    have hlt := (List.getElem?_eq_some_iff.mp hentry).1
    omega
  · intro hold
    have hlt : w.reading.sent < channel.sent.length := by
      rcases Nat.lt_or_eq_of_le hbounded.1 with hlt | heq
      · exact hlt
      · cases hunder : w.reading.underWay with
        | true => exact absurd ⟨hunder, heq⟩ hold
        | false => exact absurd (hbounded.2 hunder heq).symm hne
    refine ⟨channel.sent.length - 1, config, by omega, ?_, ?_⟩
    · rw [← List.getLast?_eq_getElem?]
      exact hlast
    · rw [hkey]
      exact hbeq

end Latest

namespace TunnelReports

variable {fingerprint : LoadedServerConfig → Option Digest} {s s' : TunnelReports}

structure Invariant (fingerprint : LoadedServerConfig → Option Digest) (s : TunnelReports) :
    Prop where
  latest : s.channel.Latest fingerprint
  bounded : ∀ w ∈ s.waiters, w.reading.Bounded s.channel
  atomic : ∀ w ∈ s.waiters, w.reading.underWay = false

lemma invariant_new : new.Invariant fingerprint :=
  ⟨ReportChannel.latest_new, by simp [new], by simp [new]⟩

lemma Invariant.step {e : TunnelReportEvent} (h : s.Invariant fingerprint)
    (hstep : s.step fingerprint e = some s') : s'.Invariant fingerprint := by
  cases e with
  | report config error =>
    cases hstep
    unfold report
    split
    · exact ⟨ReportChannel.latest_send config _, fun w hw => (h.bounded w hw).send config _,
        h.atomic⟩
    · exact h
  | read =>
    cases hstep
    refine ⟨h.latest, fun w hw => ?_, fun w hw => ?_⟩
    · rcases List.mem_append.mp hw with hw | hw
      · exact h.bounded w hw
      · rw [List.mem_singleton.mp hw]
        exact ⟨le_rfl, fun _ _ => rfl⟩
    · rcases List.mem_append.mp hw with hw | hw
      · exact h.atomic w hw
      · rw [List.mem_singleton.mp hw]
  | waiter number e =>
    simp only [TunnelReports.step, Option.bind_eq_bind, Option.bind_eq_some_iff] at hstep
    obtain ⟨w, hw, w', hw', heq⟩ := hstep
    cases heq
    have hmem := List.mem_of_getElem? hw
    have hreading := Waiter.reading_step hw'
    refine ⟨h.latest, fun v hv => ?_, fun v hv => ?_⟩
    · rcases List.mem_or_eq_of_mem_set hv with hv | rfl
      · exact h.bounded v hv
      · rw [hreading]
        exact h.bounded w hmem
    · rcases List.mem_or_eq_of_mem_set hv with hv | rfl
      · exact h.atomic v hv
      · rw [hreading]
        exact h.atomic w hmem

end TunnelReports

namespace ProxyReports

variable {s s' : ProxyReports}

structure Invariant (s : ProxyReports) : Prop where
  latest : s.channel.Latest some
  bounded : ∀ w ∈ s.waiters, w.reading.Bounded s.channel
  idle : s.publishing = none → s.channel.state.status.revision = s.snapshot.revision
  readBack : ∀ config status, s.publishing = some ⟨config, some status⟩ → status = s.snapshot

lemma invariant_new : new.Invariant :=
  ⟨ReportChannel.latest_new, by simp [new], fun _ => rfl, by simp [new]⟩

lemma Invariant.step {e : ProxyReportEvent} (h : s.Invariant) (hstep : s.step e = some s') :
    s'.Invariant := by
  cases e with
  | modify config error =>
    simp only [ProxyReports.step] at hstep
    split at hstep
    · cases hstep
      exact ⟨h.latest, h.bounded, by simp, by simp⟩
    · cases hstep
  | readBack =>
    simp only [ProxyReports.step] at hstep
    split at hstep
    · cases hstep
      refine ⟨h.latest, h.bounded, by simp, ?_⟩
      rintro config status ⟨⟩
      rfl
    · cases hstep
  | sendReplace =>
    simp only [ProxyReports.step] at hstep
    split at hstep
    case h_1 config status hpublishing =>
      cases hstep
      refine ⟨ReportChannel.latest_send config status,
        fun w hw => (h.bounded w hw).send config status, fun _ => ?_, by simp⟩
      rw [h.readBack config status hpublishing]
      rfl
    case h_2 => cases hstep
  | read =>
    cases hstep
    refine ⟨h.latest, fun w hw => ?_, h.idle, h.readBack⟩
    rcases List.mem_append.mp hw with hw | hw
    · exact h.bounded w hw
    · rw [List.mem_singleton.mp hw]
      refine ⟨le_rfl, fun hunder _ => (h.idle ?_).symm⟩
      exact Option.isSome_eq_false_iff.mp hunder |> Option.isNone_iff_eq_none.mp
  | waiter number e =>
    simp only [ProxyReports.step, Option.bind_eq_bind, Option.bind_eq_some_iff] at hstep
    obtain ⟨w, hw, w', hw', heq⟩ := hstep
    cases heq
    refine ⟨h.latest, fun v hv => ?_, h.idle, h.readBack⟩
    rcases List.mem_or_eq_of_mem_set hv with hv | rfl
    · exact h.bounded v hv
    · rw [Waiter.reading_step hw']
      exact h.bounded w (List.mem_of_getElem? hw)

end ProxyReports

/-! ## What the readers get -/

/-- **When `wait_for_config` returns a stale result.**  In every run of the reports and of the
readers: for the tunnel server a status that is returned belongs to a report with the key that was
not sent when the revision was read.  For the proxy it does unless the revision was read while a
report was being published, and this report is still not sent. -/
theorem wait_for_config_fresh_iff (fingerprint : LoadedServerConfig → Option Digest) :
    (∀ (s : TunnelReports) (w : Waiter Digest) (k : Digest) (status : ConfigStatus),
      Reach (TunnelReports.step fingerprint) Always .new s → w ∈ s.waiters →
      w.returned s.channel k = some status → w.Fresh s.channel fingerprint k status) ∧
    ∀ (s : ProxyReports) (w : Waiter LoadedProxyConfig) (config : LoadedProxyConfig)
      (status : ConfigStatus),
      Reach ProxyReports.step Always .new s → w ∈ s.waiters →
      w.returned s.channel config = some status →
      (w.Fresh s.channel some config status ↔
        ¬ (w.reading.underWay = true ∧ w.reading.sent = s.channel.sent.length)) := by
  constructor
  · intro s w k status hreach hw hreturned
    have hinv : s.Invariant fingerprint := hreach.invariant TunnelReports.invariant_new
      fun _ _ _ hs _ hstep => hs.step hstep
    refine (Waiter.fresh_iff hinv.latest (hinv.bounded w hw) hreturned).mpr ?_
    rintro ⟨hunder, -⟩
    exact absurd (hinv.atomic w hw) (by simp [hunder])
  · intro s w config status hreach hw hreturned
    have hinv : s.Invariant := hreach.invariant ProxyReports.invariant_new
      fun _ _ _ hs _ hstep => hs.step hstep
    exact Waiter.fresh_iff hinv.latest (hinv.bounded w hw) hreturned

/-- A proxy configuration that differs from others in its number of connections. -/
def sampleLoaded (maxConnections : ℕ) : LoadedProxyConfig where
  httpBind := ⟨.v4 0, 80⟩
  httpsBind := ⟨.v4 0, 443⟩
  cacheDir := .ofString "/srv/gate/cache"
  maxConnections := maxConnections
  acmeAccounts := []
  dnsAccounts := []
  certificates := []
  routes := []

/-- The report of a configuration that was applied. -/
def sampleReport (maxConnections : ℕ) : List ProxyReportEvent :=
  [.modify (some (sampleLoaded maxConnections)) none, .readBack, .sendReplace]

/-- The revision is read between two reports, and the second one is found. -/
theorem wait_finds_next_report :
    ∃ s w, Reach ProxyReports.step Always .new s ∧ w ∈ s.waiters ∧
      w.reading = ⟨1, 1, false⟩ ∧
      w.Fresh s.channel some (sampleLoaded 1) ⟨2, none⟩ := by
  have hrun : (exec ProxyReports.step Always .new (sampleReport 1 ++
      [.read, .waiter 0 (.wait (sampleLoaded 1)), .waiter 0 .borrow] ++ sampleReport 1)).map
        (fun s => s.waiters.map fun w =>
          (w.reading, s.channel.sent.length, w.returned s.channel (sampleLoaded 1))) =
      some [(⟨1, 1, false⟩, 2, some ⟨2, none⟩)] := by decide +kernel
  obtain ⟨s, hs, hview⟩ := Option.map_eq_some_iff.mp hrun
  obtain ⟨w, hw, hview⟩ := List.map_eq_singleton_iff.mp hview
  simp only [Prod.mk.injEq] at hview
  obtain ⟨hreading, -, hreturned⟩ := hview
  have hmem : w ∈ s.waiters := by simp [hw]
  refine ⟨s, w, reach_of_exec hs, hmem, hreading, ?_⟩
  refine ((wait_for_config_fresh_iff fun _ => none).2 s w (sampleLoaded 1) ⟨2, none⟩
    (reach_of_exec hs) hmem hreturned).mpr ?_
  rw [hreading]
  simp

/-- The revision is read after the snapshot of the second report was changed and before it is
sent, and the status of the first one is returned. -/
theorem wait_finds_previous_report :
    ¬ ∀ (s : ProxyReports) (w : Waiter LoadedProxyConfig) (config : LoadedProxyConfig)
      (seen : Option ℕ) (status : ConfigStatus),
      Reach ProxyReports.step Always .new s → w ∈ s.waiters → w.waiting = some (config, seen) →
      (w.step s.channel .borrow).isSome → w.returned s.channel config = some status →
      w.Fresh s.channel some config status := by
  intro hfresh
  have hrun : (exec ProxyReports.step Always .new (sampleReport 1 ++
      [.modify (some (sampleLoaded 2)) none, .read, .waiter 0 (.wait (sampleLoaded 1))])).map
        (fun s => s.waiters.map fun w =>
          (s.channel.sent.length, w.reading, (w.step s.channel .borrow).isSome,
            w.waiting.bind fun call => w.returned s.channel call.1)) =
      some [(1, ⟨2, 1, true⟩, true, some ⟨1, none⟩)] := by decide +kernel
  obtain ⟨s, hs, hview⟩ := Option.map_eq_some_iff.mp hrun
  obtain ⟨w, hw, hview⟩ := List.map_eq_singleton_iff.mp hview
  simp only [Prod.mk.injEq] at hview
  obtain ⟨hsent, hreading, hborrow, hwaiting⟩ := hview
  obtain ⟨⟨config, seen⟩, hcall, hreturned⟩ := Option.bind_eq_some_iff.mp hwaiting
  obtain ⟨n, c, hn, hentry, -⟩ := hfresh s w config seen ⟨1, none⟩ (reach_of_exec hs)
    (by simp [hw]) hcall hborrow hreturned
  -- one report was sent when the revision was read, and it is the only one
  have hlt := (List.getElem?_eq_some_iff.mp hentry).1
  rw [hreading] at hn
  have hone : 1 ≤ n := hn
  omega

end GateRust.Control
