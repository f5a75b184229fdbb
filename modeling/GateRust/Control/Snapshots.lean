/-
# The snapshot of the configuration files

The control plane keeps the parsed configurations of its two files as a snapshot.  A change through
the store writes the snapshot once its closure has replaced the file, and other programs replace the
files as well: a watcher puts the kind of the file into a queue of 16 entries for both kinds, and a
task takes a kind, reads its file and writes the snapshot.

A reload that has read a file before it was replaced is repaired by the one for the replacement.
There are two gaps: a callback that finds the queue full of the other kind is lost, and a change
writes what it has stored however late it is, also over the snapshot of a newer file.  In the runs
without them, each snapshot is that of its file once nothing is in progress.
-/
import Mathlib.Logic.Function.Basic
import GateRust.Control.MutationEffects

namespace GateRust.Control

open Machine

open Proxy (AcmeProvider AcmeEnvironment KeyAlgorithm DnsProvider ProxyListenerConfig
  CertificateConfig RouteConfig ProxyConfig)

open Tunnel (ServerConfig)

/-! ## The view of a proxy configuration -/

structure AcmeAccountView where
  id : String
  name : String
  provider : AcmeProvider
  environment : AcmeEnvironment
  email : String
  keyAlgorithm : KeyAlgorithm
  eabKeyId : Option String
  eabHmacKeyConfigured : Bool
deriving DecidableEq, Repr

structure DnsAccountView where
  id : String
  name : String
  provider : DnsProvider
  apiTokenConfigured : Bool
  accessKeyConfigured : Bool
  secretKeyConfigured : Bool
deriving DecidableEq, Repr

structure ProxyConfigView where
  proxy : ProxyListenerConfig
  acmeAccounts : List AcmeAccountView
  dnsAccounts : List DnsAccountView
  certificates : List CertificateConfig
  routes : List RouteConfig
deriving DecidableEq, Repr

/-- `ProxyConfigView::from`: the secrets are left out. -/
def ProxyConfigView.ofConfig (config : ProxyConfig) : ProxyConfigView where
  proxy := config.proxy
  acmeAccounts := config.acmeAccounts.map fun account =>
    ⟨account.id, account.name, account.provider, account.environment, account.email,
      account.keyAlgorithm, account.eabKeyId, account.eabHmacKey.isSome⟩
  dnsAccounts := config.dnsAccounts.map fun account =>
    ⟨account.id, account.name, account.provider, account.apiToken.isSome,
      account.accessKey.isSome, account.secretKey.isSome⟩
  certificates := config.certificates
  routes := config.routes

/-! ## The control plane -/

/-- The closure has been spawned and has not finished. -/
def BlockingClosure.isRunning {C : Type} : BlockingClosure C → Bool
  | .queued | .loaded .. => true
  | .notSpawned | .finished _ => false

inductive ConfigKind where
  | tunnel
  | proxy
deriving DecidableEq, Repr

/-- A kind of file, and what the snapshot has of its configuration. -/
structure SnapshotFormat (C V : Type) extends ConfigFormat C where
  view : C → V

/-- The task that reloads. -/
inductive ReloadTask (C : ConfigKind → Type) where
  | idle
  /-- It has taken the kind out of the queue and has not read the file. -/
  | received (kind : ConfigKind)
  /-- It has read the file and has not written the snapshot. -/
  | loaded (kind : ConfigKind) (config : Option (C kind))

namespace ReloadTask

variable {C : ConfigKind → Type}

/-- The kind whose file will be read. -/
def received? : ReloadTask C → Option ConfigKind
  | .received kind => some kind
  | .idle | .loaded .. => none

/-- The kind whose snapshot will be written. -/
def loaded? : ReloadTask C → Option ConfigKind
  | .loaded kind _ => some kind
  | .idle | .received _ => none

end ReloadTask

/-- The store, the watcher with its queue, and the task that reloads. -/
structure ControlPlane (C V : ConfigKind → Type) where
  stores : (kind : ConfigKind) → ConfigStore (C kind)
  snapshot : (kind : ConfigKind) → Option (V kind)
  /-- The requests that have written the snapshot. -/
  recorded : ConfigKind → List ℕ
  queue : List ConfigKind
  reload : ReloadTask C
  /-- The file was replaced, and the callback has not run since. -/
  unnotified : ConfigKind → Bool

def queueCapacity : ℕ := 16

namespace ControlPlane

inductive Event (C : ConfigKind → Type) where
  /-- Another program replaces or removes the file. -/
  | edit (kind : ConfigKind) (text : Option String)
  /-- The callback of the watcher for the file. -/
  | notify (kind : ConfigKind)
  | receive
  | load (io : Except String Unit)
  | update
  | mutate (kind : ConfigKind) (e : ConfigStore.Event (C kind))
  /-- The future of a request writes the snapshot. -/
  | record (kind : ConfigKind) (i : ℕ)

variable {C V : ConfigKind → Type} (f : (kind : ConfigKind) → SnapshotFormat (C kind) (V kind))

/-- `ConfigStore::new`, and the watcher. -/
def start (files : ConfigKind → Option String) : Except ControlError (ControlPlane C V) := do
  let tunnel ← (f .tunnel).loadOptional (files .tunnel)
  let proxy ← (f .proxy).loadOptional (files .proxy)
  return {
    stores := fun kind => .start (files kind)
    snapshot := fun
      | .tunnel => tunnel.map (f .tunnel).view
      | .proxy => proxy.map (f .proxy).view
    recorded := fun _ => []
    queue := []
    reload := .idle
    unnotified := fun _ => false }

variable (s : ControlPlane C V)

/-- A request whose closure has succeeded writes the snapshot before it returns. -/
def mayReturn (kind : ConfigKind) : ConfigStore.Event (C kind) → Bool
  | .complete i =>
    match (s.stores kind).requests[i]? with
    | some ⟨_, _, .finished (.ok _)⟩ => i ∈ s.recorded kind
    | _ => true
  | _ => true

/-- The store of a kind after a step of its requests. -/
def withStore (kind : ConfigKind) (store : ConfigStore (C kind)) : ControlPlane C V where
  stores := Function.update s.stores kind store
  snapshot := s.snapshot
  recorded := s.recorded
  queue := s.queue
  reload := s.reload
  unnotified :=
    if store.commits.length = (s.stores kind).commits.length then s.unnotified
    else Function.update s.unnotified kind true

/-- The snapshot once the reload task has written what it has read. -/
def settled : (kind : ConfigKind) → Option (V kind) :=
  match s.reload with
  | .loaded kind config => Function.update s.snapshot kind (config.map (f kind).view)
  | .idle | .received _ => s.snapshot

def step : Event C → Option (ControlPlane C V)
  | .edit kind text =>
    some { s with
      stores := Function.update s.stores kind { s.stores kind with file := text }
      unnotified := Function.update s.unnotified kind true }
  | .notify kind =>
    some { s with
      -- `try_send`: a full queue is ignored
      queue := if s.queue.length < queueCapacity then s.queue ++ [kind] else s.queue
      unnotified := Function.update s.unnotified kind false }
  | .receive =>
    match s.reload, s.queue with
    | .idle, kind :: queue => some { s with reload := .received kind, queue := queue }
    | _, _ => none
  | .load io =>
    match s.reload with
    | .received kind =>
      match io, (f kind).loadOptional (s.stores kind).file with
      | .ok (), .ok config => some { s with reload := .loaded kind config }
      | _, _ => some { s with reload := .idle }
    | .idle | .loaded .. => none
  | .update =>
    match s.reload with
    | .loaded .. => some { s with snapshot := s.settled f, reload := .idle }
    | .idle | .received _ => none
  | .mutate kind e =>
    if s.mayReturn kind e then
      ((s.stores kind).step (f kind).toConfigFormat e).map (s.withStore kind)
    else none
  | .record kind i =>
    match (s.stores kind).requests[i]? with
    | some ⟨_, .holding, .finished (.ok stored)⟩ =>
      if i ∈ s.recorded kind then none
      else some { s with
        snapshot := Function.update s.snapshot kind (some ((f kind).view stored))
        recorded := Function.update s.recorded kind (i :: s.recorded kind) }
    | _ => none

/-! ## Convergence -/

/-- What a snapshot has is the parsed content of the file, if it can be parsed. -/
def Shows {C V : Type} (f : SnapshotFormat C V) (file : Option String) (snapshot : Option V) :
    Prop :=
  match f.loadOptional file with
  | .ok config => snapshot = config.map f.view
  | .error _ => True

instance {C V : Type} [DecidableEq V] (f : SnapshotFormat C V) (file : Option String)
    (snapshot : Option V) : Decidable (Shows f file snapshot) :=
  match h : f.loadOptional file with
  | .ok config =>
    decidable_of_iff (snapshot = config.map f.view) (by simp only [Shows, h])
  | .error _ => isTrue (by simp only [Shows, h])

/-- The file will be read again. -/
def Outstanding (kind : ConfigKind) : Prop :=
  s.unnotified kind = true ∨ kind ∈ s.queue ∨ s.reload.received? = some kind

instance (kind : ConfigKind) : Decidable (s.Outstanding kind) :=
  inferInstanceAs (Decidable (_ ∨ _))

/-- The steps after which the snapshots are still repaired: no kind is lost to a full queue or a
failed read, and no request writes an old configuration, unless the file is read again or the
snapshot is that of the file anyway. -/
def Repaired : Event C → Prop
  | .notify kind =>
    s.queue.length < queueCapacity ∨ kind ∈ s.queue ∨ s.reload.received? = some kind ∨
      Shows (f kind) (s.stores kind).file (s.settled f kind)
  | .load (.error _) =>
    match s.reload with
    | .received kind =>
      s.unnotified kind = true ∨ kind ∈ s.queue ∨
        Shows (f kind) (s.stores kind).file (s.snapshot kind)
    | .idle | .loaded .. => True
  | .record kind i =>
    match (s.stores kind).requests[i]? with
    | some ⟨_, _, .finished (.ok stored)⟩ =>
      s.Outstanding kind ∨ s.reload.loaded? = some kind ∨
        Shows (f kind) (s.stores kind).file (some ((f kind).view stored))
    | _ => True
  | _ => True

instance [∀ kind, DecidableEq (V kind)] : (e : Event C) → Decidable (s.Repaired f e)
  | .notify _ => inferInstanceAs (Decidable (_ ∨ _))
  | .load (.error _) =>
    match h : s.reload with
    | .received kind =>
      decidable_of_iff (s.unnotified kind = true ∨ kind ∈ s.queue ∨
        Shows (f kind) (s.stores kind).file (s.snapshot kind)) (by simp only [Repaired, h])
    | .idle => isTrue (by simp only [Repaired, h])
    | .loaded .. => isTrue (by simp only [Repaired, h])
  | .record kind i =>
    match h : (s.stores kind).requests[i]? with
    | some ⟨_, _, .finished (.ok stored)⟩ =>
      decidable_of_iff (s.Outstanding kind ∨ s.reload.loaded? = some kind ∨
        Shows (f kind) (s.stores kind).file (some ((f kind).view stored)))
        (by simp only [Repaired, h])
    | some ⟨_, _, .finished (.error _)⟩ => isTrue (by simp only [Repaired, h])
    | some ⟨_, _, .notSpawned⟩ => isTrue (by simp only [Repaired, h])
    | some ⟨_, _, .queued⟩ => isTrue (by simp only [Repaired, h])
    | some ⟨_, _, .loaded ..⟩ => isTrue (by simp only [Repaired, h])
    | none => isTrue (by simp only [Repaired, h])
  | .edit .. | .receive | .load (.ok _) | .update | .mutate .. => isTrue trivial

/-- No queued kind, no replacement without a callback, and no reload or change in progress. -/
structure Quiet : Prop where
  notified : ∀ kind, s.unnotified kind = false
  queue : s.queue = []
  received : s.reload.received? = none
  loaded : s.reload.loaded? = none
  requests : ∀ kind, ∀ request ∈ (s.stores kind).requests,
    request.future ≠ .holding ∧ request.closure.isRunning = false

variable {f s} {s₀ s' : ControlPlane C V} {e : Event C} {kind : ConfigKind}

/-- Each file is read again, or its snapshot will be right. -/
def Converges (f : (kind : ConfigKind) → SnapshotFormat (C kind) (V kind))
    (s : ControlPlane C V) : Prop :=
  ∀ kind, s.Outstanding kind ∨ Shows (f kind) (s.stores kind).file (s.settled f kind)

/-- The conditions on one kind, for a step that does not change its file or its snapshot. -/
lemma Converges.of_same (h : s.Converges f) (hstores : s'.stores = s.stores)
    (hsettled : s'.settled f = s.settled f)
    (houtstanding : ∀ kind, s.Outstanding kind → s'.Outstanding kind ∨
      Shows (f kind) (s'.stores kind).file (s'.settled f kind)) : s'.Converges f := by
  intro kind
  rcases h kind with hout | hshows
  · exact houtstanding kind hout
  · rw [hstores, hsettled]
    exact .inr hshows

lemma settled_of_loaded {config : Option (C kind)} (h : s.reload = .loaded kind config) :
    s.settled f kind = config.map (f kind).view := by
  simp only [settled, h, Function.update_self]

lemma settled_of_ne (h : s.reload.loaded? ≠ some kind) : s.settled f kind = s.snapshot kind := by
  cases hreload : s.reload with
  | idle => simp only [settled, hreload]
  | received next => simp only [settled, hreload]
  | loaded next config =>
    have hne : kind ≠ next := by
      rintro rfl
      exact h (by rw [hreload]; rfl)
    simp only [settled, hreload, Function.update_of_ne hne]

lemma settled_of_loaded?_none (h : s.reload.loaded? = none) : s.settled f = s.snapshot := by
  funext kind
  refine settled_of_ne ?_
  rw [h]
  exact Option.some_ne_none kind |>.symm

lemma exists_loaded (h : s.reload.loaded? = some kind) :
    ∃ config, s.reload = .loaded kind config := by
  cases hreload : s.reload with
  | idle =>
    rw [hreload] at h
    cases h
  | received next =>
    rw [hreload] at h
    cases h
  | loaded next config =>
    rw [hreload] at h
    cases h
    exact ⟨config, rfl⟩

lemma Converges.notify (h : s.Converges f) (hok : s.Repaired f (.notify kind))
    (hstep : s.step f (.notify kind) = some s') : s'.Converges f := by
  obtain rfl := Option.some.inj hstep
  have hmem : ∀ other ∈ s.queue,
      other ∈ if s.queue.length < queueCapacity then s.queue ++ [kind] else s.queue := by
    intro other hother
    split
    · exact List.mem_append_left _ hother
    · exact hother
  refine h.of_same rfl rfl ?_
  rintro other (hunnotified | hqueue | hreceived)
  · by_cases hkind : other = kind
    · subst hkind
      rcases hok with hspace | hqueued | hreceived | hshows
      · left
        right
        left
        dsimp only
        rw [if_pos hspace]
        exact List.mem_append_right _ List.mem_cons_self
      · exact .inl (.inr (.inl (hmem _ hqueued)))
      · exact .inl (.inr (.inr hreceived))
      · exact .inr hshows
    · left
      left
      dsimp only
      rw [Function.update_of_ne hkind]
      exact hunnotified
  · exact .inl (.inr (.inl (hmem other hqueue)))
  · exact .inl (.inr (.inr hreceived))

lemma Converges.edit {text : Option String} (h : s.Converges f)
    (hstep : s.step f (.edit kind text) = some s') : s'.Converges f := by
  obtain rfl := Option.some.inj hstep
  intro other
  by_cases hkind : other = kind
  · subst hkind
    exact .inl (.inl (Function.update_self ..))
  · have hother := h other
    simp only [Outstanding, Function.update_of_ne hkind] at hother ⊢
    exact hother

lemma Converges.receive (h : s.Converges f) (hstep : s.step f .receive = some s') :
    s'.Converges f := by
  simp only [step] at hstep
  split at hstep
  case h_1 next queue hreload hqueue =>
    cases hstep
    have hloaded : s.reload.loaded? = none := by rw [hreload]; rfl
    refine h.of_same rfl ?_ ?_
    · rw [settled_of_loaded?_none hloaded]
      rfl
    · rintro other (hunnotified | hmem | hreceived)
      · exact .inl (.inl hunnotified)
      · rw [hqueue] at hmem
        rcases List.mem_cons.mp hmem with rfl | hmem
        · exact .inl (.inr (.inr rfl))
        · exact .inl (.inr (.inl hmem))
      · rw [hreload] at hreceived
        cases hreceived
  case h_2 => cases hstep

lemma shows_of_ok {C V : Type} {f : SnapshotFormat C V} {file : Option String}
    {config : Option C} (h : f.loadOptional file = .ok config) :
    Shows f file (config.map f.view) := by
  simp only [Shows, h]

lemma shows_of_ne_ok {C V : Type} {f : SnapshotFormat C V} {file : Option String}
    (h : ∀ config, f.loadOptional file ≠ .ok config) (snapshot : Option V) :
    Shows f file snapshot := by
  unfold Shows
  split
  case h_1 config hload => exact absurd hload (h config)
  case h_2 => trivial

lemma Converges.load {io : Except String Unit} (h : s.Converges f)
    (hok : s.Repaired f (.load io)) (hstep : s.step f (.load io) = some s') :
    s'.Converges f := by
  have hio : io = .ok () ∨ ∃ error, io = .error error := by
    cases io with
    | ok => exact .inl rfl
    | error error => exact .inr ⟨error, rfl⟩
  simp only [step] at hstep
  split at hstep
  case h_1 next hreload =>
    have hloaded : s.reload.loaded? = none := by rw [hreload]; rfl
    have hbefore := settled_of_loaded?_none (f := f) hloaded
    split at hstep
    case h_1 config hload =>
      cases hstep
      intro other
      by_cases hkind : other = next
      · subst hkind
        right
        rw [settled]
        dsimp only
        rw [Function.update_self]
        exact shows_of_ok hload
      · rcases h other with (hunnotified | hmem | hreceived) | hshows
        · exact .inl (.inl hunnotified)
        · exact .inl (.inr (.inl hmem))
        · rw [hreload] at hreceived
          exact absurd (Option.some.inj hreceived).symm hkind
        · right
          rw [settled]
          dsimp only
          rw [Function.update_of_ne hkind, ← hbefore]
          exact hshows
    case h_2 hfailed =>
      cases hstep
      refine h.of_same rfl hbefore.symm ?_
      rintro other (hunnotified | hmem | hreceived)
      · exact .inl (.inl hunnotified)
      · exact .inl (.inr (.inl hmem))
      · have hother : next = other := by
          rw [hreload] at hreceived
          exact Option.some.inj hreceived
        subst hother
        rcases hio with rfl | ⟨error, rfl⟩
        · exact .inr (shows_of_ne_ok (fun config hload => hfailed config rfl hload) _)
        · simp only [Repaired, hreload] at hok
          rcases hok with hunnotified | hmem | hshows
          · exact .inl (.inl hunnotified)
          · exact .inl (.inr (.inl hmem))
          · exact .inr hshows
  case h_2 => cases hstep
  case h_3 => cases hstep

lemma Converges.update (h : s.Converges f) (hstep : s.step f .update = some s') :
    s'.Converges f := by
  simp only [step] at hstep
  split at hstep
  case h_1 next config hreload =>
    cases hstep
    refine h.of_same rfl rfl ?_
    rintro other (hunnotified | hmem | hreceived)
    · exact .inl (.inl hunnotified)
    · exact .inl (.inr (.inl hmem))
    · rw [hreload] at hreceived
      cases hreceived
  case h_2 => cases hstep
  case h_3 => cases hstep

/-- A step of a request that adds no replacement leaves the file as it is. -/
lemma file_of_step {C : Type} {f : ConfigFormat C} {s s' : ConfigStore C}
    {e : ConfigStore.Event C} (h : s.step f e = some s')
    (hlength : s'.commits.length = s.commits.length) : s'.file = s.file := by
  cases e with
  | request mutate =>
    cases h
    rfl
  | acquire i =>
    simp only [ConfigStore.step] at h
    split at h
    · cases h
      rfl
    · cases h
  | load i =>
    simp only [ConfigStore.step] at h
    split at h
    · split at h <;> cases h <;> rfl
    · cases h
  | commit i io sync =>
    simp only [ConfigStore.step] at h
    split at h
    · split at h
      · cases h
        simp [ConfigStore.replace, ConfigStore.setRequest] at hlength
      · cases h
        rfl
      · cases h
        rfl
    · cases h
  | complete i =>
    simp only [ConfigStore.step] at h
    split at h
    · cases h
      rfl
    · cases h
  | drop i =>
    simp only [ConfigStore.step] at h
    split at h
    · split at h
      · cases h
      · cases h
        rfl
    · cases h

lemma Converges.mutate {e : ConfigStore.Event (C kind)} (h : s.Converges f)
    (hstep : s.step f (.mutate kind e) = some s') : s'.Converges f := by
  simp only [step] at hstep
  split at hstep
  case isFalse => cases hstep
  case isTrue =>
    obtain ⟨store, hstore, rfl⟩ := Option.map_eq_some_iff.mp hstep
    intro other
    by_cases hkind : other = kind
    · subst hkind
      by_cases hlength : store.commits.length = (s.stores other).commits.length
      · have hother := h other
        simp only [Outstanding, withStore, if_pos hlength] at hother ⊢
        rw [Function.update_self, file_of_step hstore hlength]
        exact hother
      · left
        left
        simp only [withStore, if_neg hlength]
        exact Function.update_self ..
    · have hother := h other
      simp only [Outstanding, withStore, apply_ite (fun g : ConfigKind → Bool => g other),
        Function.update_of_ne hkind, ite_self] at hother ⊢
      exact hother

lemma Converges.record {i : ℕ} (h : s.Converges f) (hok : s.Repaired f (.record kind i))
    (hstep : s.step f (.record kind i) = some s') : s'.Converges f := by
  simp only [step] at hstep
  split at hstep
  case h_2 => cases hstep
  case h_1 mutate stored hrequest =>
    split at hstep
    case isTrue => cases hstep
    case isFalse =>
      have hs' := Option.some.inj hstep
      have hreload' : s'.reload = s.reload := by rw [← hs']
      have hstores : s'.stores = s.stores := by rw [← hs']
      have hsnapshot : s'.snapshot =
          Function.update s.snapshot kind (some ((f kind).view stored)) := by rw [← hs']
      have hout : ∀ other, s.Outstanding other → s'.Outstanding other := by
        rw [← hs']
        exact fun _ h => h
      simp only [Repaired, hrequest] at hok
      intro other
      rw [hstores]
      by_cases hloaded : s.reload.loaded? = some other
      · -- the reload task writes the snapshot after the request
        obtain ⟨config, hreload⟩ := exists_loaded hloaded
        have hother := h other
        rw [settled_of_loaded hreload] at hother
        rw [settled_of_loaded (hreload'.trans hreload)]
        exact hother.imp_left (hout other)
      have hloaded' : s'.reload.loaded? ≠ some other := by rwa [hreload']
      rw [settled_of_ne hloaded', hsnapshot]
      by_cases hkind : other = kind
      · subst hkind
        rw [Function.update_self]
        rcases hok with hbefore | hbefore | hshows
        · exact .inl (hout other hbefore)
        · exact absurd hbefore hloaded
        · exact .inr hshows
      · have hother := h other
        rw [settled_of_ne hloaded] at hother
        rw [Function.update_of_ne hkind]
        exact hother.imp_left (hout other)

lemma Converges.step (h : s.Converges f) (hok : s.Repaired f e) (hstep : s.step f e = some s') :
    s'.Converges f := by
  cases e with
  | edit kind text => exact h.edit hstep
  | notify kind => exact h.notify hok hstep
  | receive => exact h.receive hstep
  | load io => exact h.load hok hstep
  | update => exact h.update hstep
  | mutate kind e => exact h.mutate hstep
  | record kind i => exact h.record hok hstep

/-- No other step repairs the snapshots. -/
lemma repaired_of_converges (h : s'.Converges f) (hstep : s.step f e = some s') :
    s.Repaired f e := by
  cases e with
  | notify kind =>
    obtain rfl := Option.some.inj hstep
    by_cases hspace : s.queue.length < queueCapacity
    · exact .inl hspace
    · rcases h kind with (hunnotified | hmem | hreceived) | hshows
      · dsimp only at hunnotified
        rw [Function.update_self] at hunnotified
        cases hunnotified
      · dsimp only at hmem
        rw [if_neg hspace] at hmem
        exact .inr (.inl hmem)
      · exact .inr (.inr (.inl hreceived))
      · exact .inr (.inr (.inr hshows))
  | load io =>
    cases io with
    | ok => trivial
    | error error =>
      simp only [step] at hstep
      split at hstep
      case h_1 kind hreload =>
        cases hstep
        simp only [Repaired, hreload]
        rcases h kind with (hunnotified | hmem | hreceived) | hshows
        · exact .inl hunnotified
        · exact .inr (.inl hmem)
        · cases hreceived
        · exact .inr (.inr hshows)
      case h_2 => cases hstep
      case h_3 => cases hstep
  | record kind i =>
    simp only [step] at hstep
    split at hstep
    case h_2 => cases hstep
    case h_1 mutate stored hrequest =>
      split at hstep
      case isTrue => cases hstep
      case isFalse =>
        have hs' := Option.some.inj hstep
        have hreload : s'.reload = s.reload := by rw [← hs']
        have hsnapshot : s'.snapshot =
            Function.update s.snapshot kind (some ((f kind).view stored)) := by rw [← hs']
        simp only [Repaired, hrequest]
        by_cases hloaded : s.reload.loaded? = some kind
        · exact .inr (.inl hloaded)
        have hafter := h kind
        rw [settled_of_ne (by rwa [hreload]), hsnapshot, Function.update_self] at hafter
        rcases hafter with hout | hshows
        · left
          rw [← hs'] at hout
          exact hout
        · right
          right
          rw [← hs'] at hshows
          exact hshows
  | edit kind text => trivial
  | receive => trivial
  | update => trivial
  | mutate kind e => trivial

/-- These are exactly the steps that keep the snapshots repaired. -/
lemma converges_step_iff (h : s.Converges f) (hstep : s.step f e = some s') :
    s'.Converges f ↔ s.Repaired f e :=
  ⟨fun h' => repaired_of_converges h' hstep, fun hok => h.step hok hstep⟩

lemma converges_start {files : ConfigKind → Option String} (h : start f files = .ok s₀) :
    s₀.Converges f := by
  obtain ⟨tunnel, htunnel, h⟩ := Except.exists_ok_of_bind h
  obtain ⟨proxy, hproxy, h⟩ := Except.exists_ok_of_bind h
  cases h
  intro kind
  right
  cases kind with
  | tunnel => exact shows_of_ok htunnel
  | proxy => exact shows_of_ok hproxy

/-- **The snapshots converge.**  In the runs in which no kind is lost and no request writes an old
configuration, the snapshot of each file that can be parsed is its parsed content whenever nothing
is in progress. -/
theorem quiet_snapshot_shows_file {files : ConfigKind → Option String}
    (hstart : start f files = .ok s₀) (hreach : Reach (step f) (Repaired f) s₀ s)
    (hquiet : s.Quiet) (kind : ConfigKind) {config : Option (C kind)}
    (hconfig : (f kind).loadOptional (s.stores kind).file = .ok config) :
    s.snapshot kind = config.map (f kind).view := by
  have hconverges : s.Converges f :=
    hreach.invariant (converges_start hstart) fun _ _ _ h hok hstep =>
      (converges_step_iff h hstep).mpr hok
  rcases hconverges kind with (hunnotified | hmem | hreceived) | hshows
  · rw [hquiet.notified kind] at hunnotified
    cases hunnotified
  · rw [hquiet.queue] at hmem
    cases hmem
  · rw [hquiet.received] at hreceived
    cases hreceived
  · rw [settled_of_loaded?_none hquiet.loaded] at hshows
    simpa only [Shows, hconfig] using hshows

/-! ## Sample runs -/

def FileConfig : ConfigKind → Type
  | .tunnel => ServerConfig
  | .proxy => ProxyConfig

def SnapshotConfig : ConfigKind → Type
  | .tunnel => ServerConfig
  | .proxy => ProxyConfigView

instance : (kind : ConfigKind) → DecidableEq (SnapshotConfig kind)
  | .tunnel => inferInstanceAs (DecidableEq ServerConfig)
  | .proxy => inferInstanceAs (DecidableEq ProxyConfigView)

def sampleFormats : (kind : ConfigKind) → SnapshotFormat (FileConfig kind) (SnapshotConfig kind)
  | .tunnel => ⟨groupFormat, id⟩
  | .proxy => ⟨dnsFormat, .ofConfig⟩

/-- There is no proxy file. -/
def sampleFiles : ConfigKind → Option String
  | .tunnel => some (groupText "office")
  | .proxy => none

def isQuiet (s : ControlPlane C V) : Bool :=
  ([ConfigKind.tunnel, .proxy].all fun kind => !s.unnotified kind &&
    (s.stores kind).requests.all fun r => r.future ≠ .holding && !r.closure.isRunning) &&
  s.queue.isEmpty && s.reload.received?.isNone && s.reload.loaded?.isNone

lemma quiet_of_isQuiet (h : s.isQuiet = true) : s.Quiet := by
  simp only [isQuiet, Bool.and_eq_true, List.all_cons, List.all_nil, List.all_eq_true,
    List.isEmpty_iff, Option.isNone_iff_eq_none, Bool.not_eq_true', decide_eq_true_eq,
    and_true] at h
  obtain ⟨⟨⟨⟨⟨htunnel, htunnels⟩, hproxy, hproxies⟩, hqueue⟩, hreceived⟩, hloaded⟩ := h
  refine ⟨?_, hqueue, hreceived, hloaded, ?_⟩
  · rintro ⟨⟩
    · exact htunnel
    · exact hproxy
  · rintro ⟨⟩
    · exact htunnels
    · exact hproxies

/-- The control plane after some steps from the sample files. -/
def sampleRun (ok : ControlPlane FileConfig SnapshotConfig → Event FileConfig → Prop)
    [∀ s e, Decidable (ok s e)] (events : List (Event FileConfig)) :
    Option (ControlPlane FileConfig SnapshotConfig) :=
  (start sampleFormats sampleFiles).toOption.bind fun s₀ =>
    exec (step sampleFormats) ok s₀ events

/-- A request gives the group another name, and its closure replaces the file. -/
def renameSteps : List (Event FileConfig) :=
  [.mutate .tunnel (.request renameGroup.mutation), .mutate .tunnel (.acquire 0),
    .mutate .tunnel (.load 0), .mutate .tunnel (.commit 0 (.ok ()) (.ok ()))]

/-- The callback runs for the tunnel file, and the file is reloaded. -/
def reloadSteps : List (Event FileConfig) :=
  [.notify .tunnel, .receive, .load (.ok ()), .update]

lemma exists_of_sampleRun {ok : ControlPlane FileConfig SnapshotConfig → Event FileConfig → Prop}
    [∀ s e, Decidable (ok s e)] {events : List (Event FileConfig)}
    {s : ControlPlane FileConfig SnapshotConfig} (h : sampleRun ok events = some s) :
    ∃ s₀, start sampleFormats sampleFiles = .ok s₀ ∧ Reach (step sampleFormats) ok s₀ s := by
  obtain ⟨s₀, hs₀, hrun⟩ := Option.bind_eq_some_iff.mp h
  refine ⟨s₀, ?_, reach_of_exec hrun⟩
  cases hstart : start sampleFormats sampleFiles with
  | error error =>
    rw [hstart] at hs₀
    cases hs₀
  | ok s₁ =>
    rw [hstart] at hs₀
    cases hs₀
    rfl

/-- The request returns before the callback runs. -/
theorem renamed_group_shown :
    ∃ s₀ s, start sampleFormats sampleFiles = .ok s₀ ∧
      Reach (step sampleFormats) (Repaired sampleFormats) s₀ s ∧ s.Quiet ∧
      s.snapshot .tunnel = some (groupConfig "lab") := by
  have hrun : (sampleRun (Repaired sampleFormats) (renameSteps ++
      [.record .tunnel 0, .mutate .tunnel (.complete 0)] ++ reloadSteps)).map (fun s =>
        (s.isQuiet, (s.stores .tunnel).file)) = some (true, some (groupText "lab")) := by
    decide +kernel
  obtain ⟨s, hs, hview⟩ := Option.map_eq_some_iff.mp hrun
  obtain ⟨hquiet, hfile⟩ := Prod.mk.inj hview
  obtain ⟨s₀, hstart, hreach⟩ := exists_of_sampleRun hs
  have hlab : groupFormat.loadOptional (some (groupText "lab")) =
      .ok (some (groupConfig "lab")) := by decide +kernel
  have hload : (sampleFormats .tunnel).loadOptional (s.stores .tunnel).file =
      .ok (some (groupConfig "lab")) := by
    rw [hfile]
    exact hlab
  refine ⟨s₀, s, hstart, hreach, quiet_of_isQuiet hquiet, ?_⟩
  exact quiet_snapshot_shows_file hstart hreach (quiet_of_isQuiet hquiet) .tunnel hload

/-- The file is put back and reloaded before the request writes what it has stored. -/
theorem late_request_hides_edit :
    ¬ ∀ (C V : ConfigKind → Type) (f : (kind : ConfigKind) → SnapshotFormat (C kind) (V kind))
      (files : ConfigKind → Option String) (s₀ s : ControlPlane C V),
      start f files = .ok s₀ → Reach (step f) Always s₀ s → s.Quiet →
      (∀ kind, ∃ config, (f kind).loadOptional (s.stores kind).file = .ok config) →
      ∀ kind config, (f kind).loadOptional (s.stores kind).file = .ok config →
        s.snapshot kind = config.map (f kind).view := by
  intro hshows
  have hrun : (sampleRun Always (renameSteps ++
      .edit .tunnel (some (groupText "office")) :: reloadSteps ++
      [.record .tunnel 0, .mutate .tunnel (.complete 0)])).map (fun s =>
        (s.isQuiet, (s.stores .tunnel).file, (s.stores .proxy).file,
          (s.snapshot .tunnel : Option ServerConfig))) =
      some (true, some (groupText "office"), none, some (groupConfig "lab")) := by decide +kernel
  obtain ⟨s, hs, hview⟩ := Option.map_eq_some_iff.mp hrun
  obtain ⟨hquiet, hview⟩ := Prod.mk.inj hview
  obtain ⟨hfile, hview⟩ := Prod.mk.inj hview
  obtain ⟨hproxy, hsnapshot⟩ := Prod.mk.inj hview
  obtain ⟨s₀, hstart, hreach⟩ := exists_of_sampleRun hs
  have hoffice : groupFormat.loadOptional (some (groupText "office")) =
      .ok (some (groupConfig "office")) := by decide +kernel
  have htunnelLoad : (sampleFormats .tunnel).loadOptional (s.stores .tunnel).file =
      .ok (some (groupConfig "office")) := by
    rw [hfile]
    exact hoffice
  have hproxyLoad : (sampleFormats .proxy).loadOptional (s.stores .proxy).file = .ok none := by
    rw [hproxy]
    rfl
  have hparse : ∀ kind, ∃ config,
      (sampleFormats kind).loadOptional (s.stores kind).file = .ok config := by
    rintro ⟨⟩
    · exact ⟨_, htunnelLoad⟩
    · exact ⟨_, hproxyLoad⟩
  have hshown : s.snapshot .tunnel = some (groupConfig "office") :=
    hshows _ _ sampleFormats sampleFiles s₀ s hstart hreach (quiet_of_isQuiet hquiet) hparse
      .tunnel _ htunnelLoad
  have hnames : some (groupConfig "lab") = some (groupConfig "office") :=
    hsnapshot.symm.trans hshown
  exact absurd hnames (by decide +kernel)

end ControlPlane

end GateRust.Control
