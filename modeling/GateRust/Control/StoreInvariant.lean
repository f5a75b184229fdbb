/-
# Serial replacement of a configuration file

The changes of a configuration file that are committed should form a sequence: each of them is
computed from the text that the one before it left.  The permit of the file ensures this for
requests whose futures run to their end.  It does not for a request whose future is dropped
while its closure is queued or running: the next request gets the permit, and the two closures
may read the same text.

In the runs in which the closure of a dropped request does not overlap with another closure in
this way, the replacements are the sequential application of the committed changes.
-/
import GateRust.Control.Store

namespace GateRust.Control

open Machine History

variable {C : Type}

/-- The closure has read the file and has not replaced it. -/
def BlockingClosure.inProgress : BlockingClosure C → Bool
  | .loaded .. => true
  | .notSpawned | .queued | .finished _ => false

namespace ConfigStore

variable {f : ConfigFormat C} {initial : Option String} {s s' : ConfigStore C}

/-! ## Serial commits -/

/-- The text of the file after some replacements. -/
def contentAfter (initial : Option String) (commits : List (Commit C)) : Option String :=
  (commits.getLast?.map (·.text)).or initial

/-- A commit was computed from the text that the commits before it left. -/
def SeesPrevious (f : ConfigFormat C) (initial : Option String) (pre : List (Commit C))
    (c : Commit C) : Prop :=
  c.base = contentAfter initial pre ∧ f.apply c.mutate c.base = .ok c.text

/-- No closure reads the file while another one is in progress and one of the two requests was
dropped. -/
def noOverlap (s : ConfigStore C) : Event C → Bool
  | .load i =>
    (List.range s.requests.length).all fun j =>
      match s.requests[i]?, s.requests[j]? with
      | some r, some r' =>
        i = j || !r'.closure.inProgress || (r.future ≠ .ended && r'.future ≠ .ended)
      | _, _ => true
  | _ => true

def NoOverlap (s : ConfigStore C) (e : Event C) : Prop := s.noOverlap e = true

instance (s : ConfigStore C) (e : Event C) : Decidable (s.NoOverlap e) :=
  inferInstanceAs (Decidable (_ = true))

structure Serial (f : ConfigFormat C) (initial : Option String) (s : ConfigStore C) : Prop where
  chain : Along (SeesPrevious f initial) s.commits
  file : s.file = contentAfter initial s.commits
  permit : ∀ (i : ℕ) (r : Request C), s.requests[i]? = some r → r.future = .holding →
    s.writer = some i
  spawned : ∀ (i : ℕ) (r : Request C), s.requests[i]? = some r → r.future = .waiting →
    r.closure = .notSpawned
  loaded : ∀ (i : ℕ) (r : Request C) text config, s.requests[i]? = some r →
    r.closure = .loaded text config → text = s.file ∧ f.mutated r.mutate text = .ok config
  alone : ∀ (i j : ℕ) (r r' : Request C), s.requests[i]? = some r → s.requests[j]? = some r' →
    r.closure.inProgress = true → r'.closure.inProgress = true → i = j

lemma contentAfter_snoc (commits : List (Commit C)) (c : Commit C) :
    contentAfter initial (commits ++ [c]) = some c.text := by
  simp [contentAfter]

lemma serial_start : Serial f initial (start initial) :=
  ⟨along_nil, rfl, by simp [start], by simp [start], by simp [start], by simp [start]⟩

/-! ## Changing one request -/

variable {i j : ℕ} {r r' x : Request C}

/-- The requests after one of them is replaced. -/
lemma request_set (h : (s.setRequest i r').requests[j]? = some x) :
    (j = i ∧ x = r') ∨ (j ≠ i ∧ s.requests[j]? = some x) := by
  rw [setRequest, List.getElem?_set] at h
  split at h
  · rename_i hij
    split at h
    · exact Or.inl ⟨hij.symm, (Option.some.inj h).symm⟩
    · simp at h
  · rename_i hij
    exact Or.inr ⟨Ne.symm hij, h⟩

/-- The closure of a request moves on without being in progress afterwards. -/
lemma Serial.setFinished (h : Serial f initial s) (hi : s.requests[i]? = some r)
    (hfuture : r'.future = r.future) (hspawned : r'.future ≠ .waiting)
    (hclosure : r'.closure.inProgress = false) : Serial f initial (s.setRequest i r') where
  chain := h.chain
  file := h.file
  permit j x hx hhold := by
    rcases request_set hx with ⟨rfl, rfl⟩ | ⟨-, hx⟩
    · exact h.permit j r hi (hfuture ▸ hhold)
    · exact h.permit j x hx hhold
  spawned j x hx hwait := by
    rcases request_set hx with ⟨rfl, rfl⟩ | ⟨-, hx⟩
    · exact absurd hwait hspawned
    · exact h.spawned j x hx hwait
  loaded j x text config hx hload := by
    rcases request_set hx with ⟨rfl, rfl⟩ | ⟨-, hx⟩
    · rw [hload] at hclosure
      simp [BlockingClosure.inProgress] at hclosure
    · exact h.loaded j x text config hx hload
  alone j k x y hx hy hpx hpy := by
    rcases request_set hx with ⟨rfl, rfl⟩ | ⟨-, hx⟩
    · simp [hclosure] at hpx
    · rcases request_set hy with ⟨rfl, rfl⟩ | ⟨-, hy⟩
      · simp [hclosure] at hpy
      · exact h.alone j k x y hx hy hpx hpy

/-- The future of a request ends. -/
lemma Serial.endFuture (h : Serial f initial s) (hi : s.requests[i]? = some r) :
    Serial f initial (s.endFuture i r) where
  chain := h.chain
  file := h.file
  permit j x hx hhold := by
    rcases request_set hx with ⟨rfl, rfl⟩ | ⟨hne, hx⟩
    · simp at hhold
    · have hj := h.permit j x hx hhold
      have hr : r.future ≠ .holding := fun hr =>
        hne (Option.some.inj (hj.symm.trans (h.permit i r hi hr)))
      simpa [ConfigStore.endFuture, hr] using hj
  spawned j x hx hwait := by
    rcases request_set hx with ⟨rfl, rfl⟩ | ⟨-, hx⟩
    · simp at hwait
    · exact h.spawned j x hx hwait
  loaded j x text config hx hload := by
    rcases request_set hx with ⟨rfl, rfl⟩ | ⟨-, hx⟩
    · exact h.loaded j r text config hi hload
    · exact h.loaded j x text config hx hload
  alone j k x y hx hy hpx hpy := by
    rcases request_set hx with ⟨rfl, rfl⟩ | ⟨-, hx'⟩
    · rcases request_set hy with ⟨rfl, rfl⟩ | ⟨-, hy'⟩
      · rfl
      · exact h.alone j k r y hi hy' hpx hpy
    · rcases request_set hy with ⟨rfl, rfl⟩ | ⟨-, hy'⟩
      · exact h.alone j k x r hx' hi hpx hpy
      · exact h.alone j k x y hx' hy' hpx hpy

/-- A future gets the free permit and spawns its closure. -/
lemma Serial.acquire (h : Serial f initial s) (hfree : s.writer = none)
    {mutate : Mutation C} :
    Serial f initial
      { s.setRequest i ⟨mutate, .holding, .queued⟩ with writer := some i } where
  chain := h.chain
  file := h.file
  permit j x hx hhold := by
    rcases request_set hx with ⟨rfl, rfl⟩ | ⟨-, hx⟩
    · rfl
    · have hj := h.permit j x hx hhold
      simp [hfree] at hj
  spawned j x hx hwait := by
    rcases request_set hx with ⟨rfl, rfl⟩ | ⟨-, hx⟩
    · simp at hwait
    · exact h.spawned j x hx hwait
  loaded j x text config hx hload := by
    rcases request_set hx with ⟨rfl, rfl⟩ | ⟨-, hx⟩
    · simp at hload
    · exact h.loaded j x text config hx hload
  alone j k x y hx hy hpx hpy := by
    rcases request_set hx with ⟨rfl, rfl⟩ | ⟨-, hx⟩
    · simp [BlockingClosure.inProgress] at hpx
    · rcases request_set hy with ⟨rfl, rfl⟩ | ⟨-, hy⟩
      · simp [BlockingClosure.inProgress] at hpy
      · exact h.alone j k x y hx hy hpx hpy

/-- A closure reads the file while no other one is in progress. -/
lemma Serial.load (h : Serial f initial s) {mutate : Mutation C} {future : RequestFuture}
    {config : C} (hi : s.requests[i]? = some ⟨mutate, future, .queued⟩)
    (hconfig : f.mutated mutate s.file = .ok config)
    (halone : ∀ (j : ℕ) (x : Request C), s.requests[j]? = some x →
      x.closure.inProgress = true → j = i) :
    Serial f initial (s.setRequest i ⟨mutate, future, .loaded s.file config⟩) where
  chain := h.chain
  file := h.file
  permit j x hx hhold := by
    rcases request_set hx with ⟨rfl, rfl⟩ | ⟨-, hx⟩
    · exact h.permit j _ hi hhold
    · exact h.permit j x hx hhold
  spawned j x hx hwait := by
    rcases request_set hx with ⟨rfl, rfl⟩ | ⟨-, hx⟩
    · simpa using h.spawned j _ hi hwait
    · exact h.spawned j x hx hwait
  loaded j x text config' hx hload := by
    rcases request_set hx with ⟨rfl, rfl⟩ | ⟨-, hx⟩
    · simp only [BlockingClosure.loaded.injEq] at hload
      rw [← hload.1, ← hload.2]
      exact ⟨rfl, hconfig⟩
    · exact h.loaded j x text config' hx hload
  alone j k x y hx hy hpx hpy := by
    rcases request_set hx with ⟨rfl, rfl⟩ | ⟨hne, hx⟩
    · rcases request_set hy with ⟨rfl, rfl⟩ | ⟨-, hy⟩
      · rfl
      · exact (halone k y hy hpy).symm
    · exact absurd (halone j x hx hpx) hne

/-- The closure in progress replaces the file. -/
lemma Serial.replace (h : Serial f initial s) {mutate : Mutation C} {future : RequestFuture}
    {base : Option String} {config stored : C} {text : String}
    {result : Except ControlError C}
    (hi : s.requests[i]? = some ⟨mutate, future, .loaded base config⟩)
    (hvalid : f.validated config = .ok (text, stored)) :
    Serial f initial
      ((s.replace mutate base text).setRequest i ⟨mutate, future, .finished result⟩) := by
  obtain ⟨hbase, hmutated⟩ := h.loaded i _ base config hi rfl
  have happly : f.apply mutate base = .ok text := by
    simp [ConfigFormat.apply, hmutated, Except.bind, hvalid, Except.map]
  refine ⟨h.chain.snoc ⟨hbase.trans h.file, happly⟩, 
    (contentAfter_snoc s.commits ⟨mutate, base, text⟩).symm, ?_, ?_, ?_, ?_⟩
  · intro j x hx hhold
    rcases request_set hx with ⟨rfl, rfl⟩ | ⟨-, hx⟩
    · exact h.permit j _ hi hhold
    · exact h.permit j x hx hhold
  · intro j x hx hwait
    rcases request_set hx with ⟨rfl, rfl⟩ | ⟨-, hx⟩
    · simpa using h.spawned j _ hi hwait
    · exact h.spawned j x hx hwait
  · -- no other closure is in progress
    intro j x text' config' hx hload
    rcases request_set hx with ⟨rfl, rfl⟩ | ⟨hne, hx⟩
    · simp at hload
    · exact absurd (h.alone j i x _ hx hi (by rw [hload]; rfl) rfl) hne
  · intro j k x y hx hy hpx hpy
    rcases request_set hx with ⟨rfl, rfl⟩ | ⟨hne, hx⟩
    · simp [BlockingClosure.inProgress] at hpx
    · exact absurd (h.alone j i x _ hx hi hpx rfl) hne

lemma Serial.request (h : Serial f initial s) (mutate : Mutation C) :
    Serial f initial { s with requests := s.requests ++ [⟨mutate, .waiting, .notSpawned⟩] } := by
  -- a request that is there afterwards was there before, or is the new one
  have hold : ∀ (j : ℕ) (x : Request C),
      (s.requests ++ [⟨mutate, .waiting, .notSpawned⟩])[j]? = some x →
      s.requests[j]? = some x ∨ x = ⟨mutate, .waiting, .notSpawned⟩ := by
    intro j x hx
    rcases Nat.lt_or_ge j s.requests.length with hj | hj
    · rw [List.getElem?_append_left hj] at hx
      exact Or.inl hx
    · rw [List.getElem?_append_right hj] at hx
      exact Or.inr (List.mem_singleton.mp (List.mem_of_getElem? hx))
  refine ⟨h.chain, h.file, ?_, ?_, ?_, ?_⟩
  · intro j x hx hhold
    rcases hold j x hx with hx' | rfl
    · exact h.permit j x hx' hhold
    · simp at hhold
  · intro j x hx hwait
    rcases hold j x hx with hx' | rfl
    · exact h.spawned j x hx' hwait
    · rfl
  · intro j x text config hx hload
    rcases hold j x hx with hx' | rfl
    · exact h.loaded j x text config hx' hload
    · simp at hload
  · intro j k x y hx hy hpx hpy
    rcases hold j x hx with hx' | rfl
    · rcases hold k y hy with hy' | rfl
      · exact h.alone j k x y hx' hy' hpx hpy
      · simp [BlockingClosure.inProgress] at hpy
    · simp [BlockingClosure.inProgress] at hpx

/-! ## Runs -/

/-- Two closures whose requests were not dropped do not overlap, because of the permit. -/
lemma Serial.alone_of_noOverlap (h : Serial f initial s) {mutate : Mutation C}
    {future : RequestFuture} (hi : s.requests[i]? = some ⟨mutate, future, .queued⟩)
    (hok : s.NoOverlap (.load i)) {x : Request C} (hx : s.requests[j]? = some x)
    (hprogress : x.closure.inProgress = true) : j = i := by
  by_contra hne
  obtain ⟨hj, -⟩ := List.getElem?_eq_some_iff.mp hx
  have hpair := List.all_eq_true.mp hok j (List.mem_range.mpr hj)
  simp only [hi, hx, hprogress, Ne.symm hne, decide_false, Bool.not_true, Bool.false_or,
    Bool.and_eq_true, decide_eq_true_eq] at hpair
  -- a future that has spawned its closure and has not ended holds the permit
  have hholds : ∀ (k : ℕ) (y : Request C), s.requests[k]? = some y →
      y.closure ≠ .notSpawned → y.future ≠ .ended → s.writer = some k := by
    intro k y hy hclosure hended
    refine h.permit k y hy ?_
    cases hfuture : y.future with
    | waiting => exact absurd (h.spawned k y hy hfuture) hclosure
    | holding => rfl
    | ended => exact absurd hfuture hended
  have hwi := hholds i _ hi (by simp) hpair.1
  have hwj := hholds j x hx (by rintro heq; simp [heq, BlockingClosure.inProgress] at hprogress)
    hpair.2
  exact hne (Option.some.inj (hwj.symm.trans hwi))

lemma serial_step {e : Event C} (h : Serial f initial s) (hok : s.NoOverlap e)
    (hstep : s.step f e = some s') : Serial f initial s' := by
  cases e with
  | request mutate =>
    obtain rfl := Option.some.inj hstep
    exact h.request mutate
  | acquire i =>
    simp only [step] at hstep
    split at hstep
    · rename_i hfree
      obtain rfl := Option.some.inj hstep
      exact h.acquire hfree
    · simp at hstep
  | load i =>
    simp only [step] at hstep
    split at hstep
    · rename_i mutate future hi
      have hspawned : future ≠ .waiting := fun hw => by simpa using h.spawned i _ hi hw
      split at hstep
      · rename_i hconfig
        obtain rfl := Option.some.inj hstep
        exact h.load hi hconfig fun j x hx hp => h.alone_of_noOverlap hi hok hx hp
      · obtain rfl := Option.some.inj hstep
        exact h.setFinished hi rfl hspawned rfl
    · simp at hstep
  | commit i io sync =>
    simp only [step] at hstep
    split at hstep
    · rename_i mutate future base config hi
      have hspawned : future ≠ .waiting := fun hw => by simpa using h.spawned i _ hi hw
      split at hstep
      · rename_i hvalid
        obtain rfl := Option.some.inj hstep
        exact h.replace hi hvalid
      · obtain rfl := Option.some.inj hstep
        exact h.setFinished hi rfl hspawned rfl
      · obtain rfl := Option.some.inj hstep
        exact h.setFinished hi rfl hspawned rfl
    · simp at hstep
  | complete i =>
    simp only [step] at hstep
    split at hstep
    · rename_i hi
      obtain rfl := Option.some.inj hstep
      exact h.endFuture hi
    · simp at hstep
  | drop i =>
    simp only [step] at hstep
    split at hstep
    · rename_i hi
      split at hstep
      · simp at hstep
      · obtain rfl := Option.some.inj hstep
        exact h.endFuture hi
    · simp at hstep

/-- **The replacements of a configuration file are serial** in the runs in which no closure of a
dropped request overlaps with another one: each commit was computed from the text that the one
before it left, and the file holds the text of the last one. -/
theorem config_commits_serial (h : Reach (step f) NoOverlap (start initial) s) :
    (∀ pre c post, s.commits = pre ++ c :: post →
      c.base = contentAfter initial pre ∧ f.apply c.mutate c.base = .ok c.text) ∧
    s.file = contentAfter initial s.commits := by
  have hI : Serial f initial s :=
    h.invariant serial_start fun _ _ _ hI hok hstep => serial_step hI hok hstep
  exact ⟨hI.chain, hI.file⟩

/-! ## Sample runs -/

/-- `default_tunnel`. -/
def defaultTunnel : Tunnel.ServerConfig where
  quic := ⟨⟨.v4 0, 2333⟩, "/etc/gaterust/tunnel/server.pem", "/etc/gaterust/tunnel/server-key.pem"⟩
  groups := []
  tunnels := []

/-- The closure of `create_group`. -/
def createGroup (group : Tunnel.GroupConfig) : Mutation Tunnel.ServerConfig := fun config =>
  .ok { config with groups := config.groups ++ [group] }

/-- The text of a configuration that has the default QUIC settings and no tunnels. -/
def groupsToml (groups : List Tunnel.GroupConfig) : String :=
  "tunnels = []\n\n[quic]\nbind = \"0.0.0.0:2333\"\n" ++
    "certificate = \"/etc/gaterust/tunnel/server.pem\"\n" ++
    "private_key = \"/etc/gaterust/tunnel/server-key.pem\"\n" ++
    String.join (groups.map fun group =>
      "\n[[groups]]\nname = \"" ++ group.name ++ "\"\nkey = \"" ++ group.key ++ "\"\n")

def officeGroup : Tunnel.GroupConfig := ⟨"office", "0123456789abcdef0123456789abcdef"⟩

def labGroup : Tunnel.GroupConfig := ⟨"lab", "fedcba9876543210fedcba9876543210"⟩

/-- The configurations of the sample runs. -/
def sampleGroups : List (List Tunnel.GroupConfig) :=
  [[officeGroup], [labGroup], [officeGroup, labGroup]]

/-- Server configurations, on the ones of the sample runs. -/
def sampleFormat : ConfigFormat Tunnel.ServerConfig where
  default := defaultTunnel
  toToml config :=
    if config.groups ∈ sampleGroups then .ok (groupsToml config.groups) else .error "unknown"
  read text :=
    match sampleGroups.find? fun groups => groupsToml groups = text with
    | some groups => .ok { defaultTunnel with groups }
    | none => .error "unknown"

/-- The future of the first request is dropped while its closure is queued; the closure is done
before the next one reads the file. -/
theorem dropped_request_committed_in_time :
    ∃ s, Reach (step sampleFormat) NoOverlap (start none) s ∧
      s.file = some (groupsToml [officeGroup, labGroup]) ∧
      s.file = contentAfter none s.commits := by
  have hrun : (exec (step sampleFormat) NoOverlap (start none)
      [.request (createGroup officeGroup), .request (createGroup labGroup), .acquire 0, .drop 0,
        .acquire 1, .load 0, .commit 0 (.ok ()) (.ok ()), .load 1,
        .commit 1 (.ok ()) (.ok ()), .complete 1]).map (fun s => s.file) =
      some (some (groupsToml [officeGroup, labGroup])) := by
    decide +kernel
  obtain ⟨s, hs, hfile⟩ := Option.map_eq_some_iff.mp hrun
  have hreach := reach_of_exec hs
  exact ⟨s, hreach, hfile, (config_commits_serial hreach).2⟩

/-- The future of the first request is dropped after its closure has read the file.  The second
request gets the permit, reads the same text and replaces the file; then the closure of the
first request replaces it again, and the group of the second request is lost. -/
theorem dropped_request_overwrites_commit :
    ∃ s, Reach (step sampleFormat) Always (start none) s ∧
      s.file = some (groupsToml [officeGroup]) ∧
      ∃ pre c post, s.commits = pre ++ c :: post ∧
        ¬ (c.base = contentAfter none pre ∧ sampleFormat.apply c.mutate c.base = .ok c.text) := by
  have hrun : (exec (step sampleFormat) Always (start none)
      [.request (createGroup officeGroup), .request (createGroup labGroup), .acquire 0, .load 0,
        .drop 0, .acquire 1, .load 1, .commit 1 (.ok ()) (.ok ()), .complete 1,
        .commit 0 (.ok ()) (.ok ())]).map
      (fun s => (s.file, s.commits.map fun c => (c.base, c.text))) =
      some (some (groupsToml [officeGroup]),
        [(none, groupsToml [labGroup]), (none, groupsToml [officeGroup])]) := by
    decide +kernel
  obtain ⟨s, hs, hview⟩ := Option.map_eq_some_iff.mp hrun
  obtain ⟨hfile, hcommits⟩ := Prod.mk.inj hview
  obtain ⟨first, rest, hfirst, hlab, hrest⟩ := List.map_eq_cons_iff.mp hcommits
  obtain ⟨second, rest', rfl, hsecond, -⟩ := List.map_eq_cons_iff.mp hrest
  refine ⟨s, reach_of_exec hs, hfile, [first], second, rest', hfirst, ?_⟩
  rintro ⟨hbase, -⟩
  rw [(Prod.mk.inj hsecond).1] at hbase
  simp [contentAfter] at hbase

end ConfigStore

end GateRust.Control
