/-
# The configuration on the page

An event is dropped by the page when it is the first one, or when it comes while a request for the
configuration is in flight.  It was not needed if the configuration on the page, or the one on its
way, was read after the change of the event, and it is made up for if the server has not read its
snapshot for the request, or if another event follows.

The answer to a request of a panel can be older than what the page has read in the meantime.  This
does no harm if the server has had the same half since, or if an event or a response is to follow.

In the runs where every dropped event and every answer is of these kinds, the configuration on the
page is up to date once everything has been delivered; a step outside these runs can be all that it
takes for the page to keep an old one.
-/
import GateRust.Web.Console

namespace GateRust.Web

open Machine Control

namespace Console

/-- The page is bootstrapped, no `getConfig` is in flight, and the latest event was delivered. -/
structure Quiet (s : Console) : Prop where
  bootstrapped : s.app.stage = .bootstrapped
  settled : ∀ request, s.app.refreshing ≠ some (.inFlight request)
  delivered : s.app.lastRevision = some s.store.dashboard.revision

instance (s : Console) : Decidable s.Quiet :=
  decidable_of_iff (s.app.stage = .bootstrapped ∧
      (s.app.refreshing = none ∨ s.app.refreshing = some .settling) ∧
      s.app.lastRevision = some s.store.dashboard.revision) <| by
    constructor
    · rintro ⟨hboot, hrefreshing, hlast⟩
      refine ⟨hboot, fun request heq => ?_, hlast⟩
      rw [heq] at hrefreshing
      rcases hrefreshing with h | h <;> cases h
    · rintro ⟨hboot, hsettled, hlast⟩
      refine ⟨hboot, ?_, hlast⟩
      rcases hrefreshing : s.app.refreshing with _ | _ | _
      · exact Or.inl rfl
      · exact absurd hrefreshing (hsettled _)
      · exact Or.inr rfl

end Console

/-! ## What is up to date -/

namespace Half

variable {α : Type} (half : Half α) (part : ConfigSnapshot → Option α) (store : SnapshotStore)

/-- The half is what the server had as of the change, and a half that was read for a `getConfig` was
read then. -/
def AsOf (change : ℕ) : Prop :=
  (∀ read ∈ half.read, read = change) ∧ (store.stored[change]?).map part = some half.config

/-- The change is at or after every change whose revision has been published. -/
def UpToDate : Prop :=
  ∃ change, half.AsOf part store change ∧ ∀ a ∈ store.announced, a.change ≤ change

variable {half part store}

lemma AsOf.lt {change : ℕ} (h : half.AsOf part store change) : change < store.stored.length := by
  obtain ⟨snapshot, hsnapshot, -⟩ := Option.map_eq_some_iff.mp h.2
  exact (List.getElem?_eq_some_iff.mp hsnapshot).1

lemma AsOf.extends {change : ℕ} {store' : SnapshotStore} (h : half.AsOf part store change)
    (hext : SnapshotStore.Extends store store') : half.AsOf part store' change := by
  obtain ⟨snapshot, hsnapshot, hpart⟩ := Option.map_eq_some_iff.mp h.2
  refine ⟨h.1, Option.map_eq_some_iff.mpr ⟨snapshot, hext.stored_eq hsnapshot, hpart⟩⟩

lemma UpToDate.extends {store' : SnapshotStore} (h : half.UpToDate part store)
    (hext : SnapshotStore.Extends store store') (hannounced : store'.announced = store.announced) :
    half.UpToDate part store' := by
  obtain ⟨change, hasOf, hchanges⟩ := h
  exact ⟨change, hasOf.extends hext, by rwa [hannounced]⟩

/-- With no other change to be published, the half is that of the snapshot. -/
lemma UpToDate.eq_of_current (h : half.UpToDate part store)
    (hcurrent : ∃ a ∈ store.announced, a.change = store.current) :
    half.config = part store.snapshot := by
  obtain ⟨change, hasOf, hchanges⟩ := h
  obtain ⟨a, ha, heq⟩ := hcurrent
  have hle : store.current ≤ change := heq ▸ hchanges a ha
  have hlt := hasOf.lt
  have hlength : store.stored.length = store.current + 1 := by
    simp [SnapshotStore.stored, SnapshotStore.current]
  have hchange : change = store.current := by omega
  have hstored := hasOf.2
  rw [hchange, SnapshotStore.stored_current] at hstored
  exact (Option.some.inj hstored).symm

instance [DecidableEq α] (change : ℕ) : Decidable (half.AsOf part store change) :=
  inferInstanceAs (Decidable (_ ∧ _))

instance [DecidableEq α] : Decidable (half.UpToDate part store) :=
  decidable_of_iff (∃ change ∈ List.range store.stored.length, half.AsOf part store change ∧
      ∀ a ∈ store.announced, a.change ≤ change) <| by
    constructor
    · rintro ⟨change, -, h⟩
      exact ⟨change, h⟩
    · rintro ⟨change, h⟩
      exact ⟨change, List.mem_range.mpr h.1.lt, h⟩

end Half

/-- Each half of the configuration is what the server had as of some change, and this change is at
or after every change whose revision has been published. -/
def PageConfig.UpToDate (page : PageConfig) (store : SnapshotStore) : Prop :=
  page.tunnel.UpToDate ConfigSnapshot.tunnel store ∧ page.proxy.UpToDate ConfigSnapshot.proxy store

instance (page : PageConfig) (store : SnapshotStore) : Decidable (page.UpToDate store) :=
  inferInstanceAs (Decidable (_ ∧ _))

/-- The half is that of the server as of a change at or after all that have been published. -/
def SavedConfig.UpToDate (saved : SavedConfig) (store : SnapshotStore) : Prop :=
  match saved with
  | .tunnel config => (⟨some config, none⟩ : Half _).UpToDate ConfigSnapshot.tunnel store
  | .proxy config => (⟨some config, none⟩ : Half _).UpToDate ConfigSnapshot.proxy store

instance (saved : SavedConfig) (store : SnapshotStore) : Decidable (saved.UpToDate store) :=
  match saved with
  | .tunnel _ | .proxy _ => inferInstanceAs (Decidable (Half.UpToDate _ _ _))

/-- When all is quiet, the configuration of the page is up to date. -/
def Console.Converged (s : Console) : Prop := s.Quiet → s.app.config.UpToDate s.store

lemma PageConfig.UpToDate.onSaved_iff {page : PageConfig} {store : SnapshotStore}
    (h : page.UpToDate store) (saved : SavedConfig) :
    (page.onSaved saved).UpToDate store ↔ saved.UpToDate store := by
  cases saved with
  | tunnel config => exact ⟨And.left, fun hsaved => ⟨hsaved, h.2⟩⟩
  | proxy config => exact ⟨And.right, fun hsaved => ⟨h.1, hsaved⟩⟩

/-- What the server reads now is at or after all changes. -/
lemma upToDate_current {store : SnapshotStore} (h : store.Consistent) :
    (ConfigRead.page ⟨store.snapshot, store.current⟩).UpToDate store := by
  have hchanges : ∀ a ∈ store.announced, a.change ≤ store.current :=
    fun a ha => h.change_le a (List.mem_append_left _ ha)
  have hstored := SnapshotStore.stored_current (s := store)
  constructor
  · refine ⟨store.current, ⟨fun read hread => ?_, ?_⟩, hchanges⟩
    · exact (Option.some.inj hread).symm
    · rw [hstored]
      rfl
  · refine ⟨store.current, ⟨fun read hread => ?_, ?_⟩, hchanges⟩
    · exact (Option.some.inj hread).symm
    · rw [hstored]
      rfl

namespace App

variable (app : App) (store : SnapshotStore)

/-- The configuration of the page once the response on its way is handled. -/
def settled : PageConfig :=
  match app.refreshing with
  | some (.inFlight (.answered read)) => read.page
  | some (.inFlight .sent) | some .settling | none => app.config

def UpToDate : Prop := app.settled.UpToDate store

instance : Decidable (app.UpToDate store) := inferInstanceAs (Decidable (PageConfig.UpToDate _ _))

def nextEvent? : Option Dashboard :=
  match app.stream with
  | .opened (next :: _) _ => some next
  | .opened [] _ | .closed | .connecting => none

/-- The handler takes the event for a baseline or finds a request in flight, and no request is
read by the server after the event. -/
def drops : Bool :=
  match app.refreshing with
  | none => app.lastRevision.isNone
  | some (.inFlight .sent) => false
  | some (.inFlight (.answered _)) | some .settling => true

/-- The answer to a request of a panel. -/
def answered? (i : ℕ) : Option SavedConfig :=
  match app.saves[i]? with
  | some (.answered saved) => some saved
  | some .sent | some (.stored _ _) | none => none

end App

namespace Console

/-- The latest event is dropped only if the page is up to date without it, and an answer that
nothing follows is no older than what the page has. -/
def Heeded (s : Console) : Event → Prop
  | .app .deliver => ∀ next ∈ s.app.nextEvent?, next.revision = s.store.dashboard.revision →
      s.app.drops = true → s.app.UpToDate s.store
  | .app (.saved i) => s.Quiet → ∀ saved ∈ s.app.answered? i, saved.UpToDate s.store
  | _ => True

instance (s : Console) : (e : Event) → Decidable (s.Heeded e)
  | .app .deliver => inferInstanceAs (Decidable (∀ _ ∈ _, _))
  | .app (.saved _) => inferInstanceAs (Decidable (_ → _))
  | .store _ | .saveTunnel _ _ | .saveProxy _ _
  | .app .authenticated | .app .sessionChecked | .app (.bootstrapFails _)
  | .app .readConfig | .app .respond | .app .settle | .app .subscribe | .app .emit
  | .app .streamDone | .app (.streamFails _) | .app .retry | .app .logout
  | .app .save | .app (.answer _) | .app (.saveFails _) => isTrue trivial

end Console

namespace Console

variable {s s' : Console} {e : Event} {store : SnapshotStore} {app : App}

/-! ## The runs in which the latest event is heeded -/

/-- Another event is to come, the server will read its snapshot for a request, or the page is up to
date once it has the response on its way. -/
def Covered (s : Console) : Prop :=
  s.app.stage = .bootstrapped → s.app.lastRevision ≠ some s.store.dashboard.revision ∨
    s.app.refreshing = some (.inFlight .sent) ∨ s.app.UpToDate s.store

lemma covered_start (snapshot : ConfigSnapshot) (tunnelEnabled proxyEnabled : Bool) :
    (start snapshot tunnelEnabled proxyEnabled).Covered := by
  rintro ⟨⟩

/-- The dashboard of a change is an event to come. -/
lemma Covered.store_step (hcov : s.Covered) (h : s.Inv) {event : SnapshotStore.Event}
    (hstep : s.store.step event = some store) : Covered { s with store } := by
  intro hboot
  rcases SnapshotStore.step_cases hstep with ⟨a, ha, -, hdashboard⟩ | ⟨hannounced, hdashboard⟩
  · left
    show s.app.lastRevision ≠ some store.dashboard.revision
    intro hlast
    have hseen := h.ordered.subset (List.mem_append_left _ (Option.mem_toList.mpr hlast))
    rw [hdashboard] at hseen
    exact h.store.fresh ha hseen
  · have hext := SnapshotStore.extends_of_step hstep
    rw [hdashboard]
    exact (hcov hboot).imp_right (Or.imp_right fun hread =>
      ⟨hread.1.extends hext hannounced, hread.2.extends hext hannounced⟩)

/-- A step that leaves the revision and the `getConfig` requests. -/
lemma Covered.of_same (hcov : s.Covered) (hstage : app.stage = s.app.stage)
    (hconfig : app.config = s.app.config) (hlast : app.lastRevision = s.app.lastRevision)
    (hrefreshing : app.refreshing = s.app.refreshing) : Covered { s with app } := by
  intro hboot
  have hold := hcov (hstage ▸ hboot)
  simp only [App.UpToDate, App.settled] at hold ⊢
  rw [hlast, hrefreshing, hconfig]
  exact hold

lemma Inv.covered_readConfig (h : s.Inv) (hstep : s.app.step s.store .readConfig = some app) :
    Covered { s with app } := by
  intro hboot
  simp only [App.step] at hstep
  split at hstep
  case h_1 =>
    obtain rfl := Option.some.inj hstep
    cases hboot
  case h_2 =>
    obtain rfl := Option.some.inj hstep
    exact Or.inr (Or.inr (upToDate_current h.store))
  case h_3 => cases hstep

lemma Covered.respond (hcov : s.Covered) (h : s.Inv)
    (hstep : s.app.step s.store .respond = some app) : Covered { s with app } := by
  intro hboot
  simp only [App.step] at hstep
  split at hstep
  case h_1 read hstage =>
    obtain rfl := Option.some.inj hstep
    left
    show s.app.lastRevision ≠ _
    rw [(h.unopened (by rw [hstage]; rintro ⟨⟩)).2.1]
    rintro ⟨⟩
  case h_2 read hstage hrefreshing =>
    obtain rfl := Option.some.inj hstep
    rcases hcov hstage with hlast | hsent | hread
    · exact Or.inl hlast
    · rw [hrefreshing] at hsent
      cases hsent
    · simp only [App.UpToDate, App.settled, hrefreshing] at hread
      exact Or.inr (Or.inr hread)
  case h_3 => cases hstep

lemma Covered.settle (hcov : s.Covered) (hstep : s.app.step s.store .settle = some app) :
    Covered { s with app } := by
  simp only [App.step, Option.ite_none_right_eq_some] at hstep
  obtain ⟨hsettling, hstep⟩ := hstep
  obtain rfl := Option.some.inj hstep
  intro hboot
  rcases hcov hboot with hlast | hsent | hread
  · exact Or.inl hlast
  · rw [hsettling] at hsent
    cases hsent
  · simp only [App.UpToDate, App.settled, hsettling] at hread
    exact Or.inr (Or.inr hread)

/-- No two events have one revision. -/
lemma Inv.next_fresh (h : s.Inv) {next : Dashboard} {wire : List Dashboard} {seen : Option ℕ}
    (hstream : s.app.stream = .opened (next :: wire) seen) :
    s.app.lastRevision ≠ some next.revision := by
  intro hlast
  have hnodup := h.ordered.nodup h.store.revisions_nodup
  rw [hlast, hstream] at hnodup
  exact (List.nodup_cons.mp hnodup).1 List.mem_cons_self

/-- An event that is not dropped is followed by a read of the server. -/
lemma Inv.refreshing_of_not_drops (h : s.Inv) {next : Dashboard} {wire : List Dashboard}
    {seen : Option ℕ} (hstream : s.app.stream = .opened (next :: wire) seen)
    (hdrops : s.app.drops = false) :
    (s.app.onDashboard next).refreshing = some (.inFlight .sent) := by
  have hfresh := h.next_fresh hstream
  unfold App.drops at hdrops
  split at hdrops
  case h_1 hnone =>
    cases hlast : s.app.lastRevision with
    | none =>
      rw [hlast] at hdrops
      cases hdrops
    | some last =>
      have hchanged : last ≠ next.revision := by
        rintro rfl
        exact hfresh hlast
      simp [App.onDashboard, hnone, hlast, hchanged]
  case h_2 hsent => simp [App.onDashboard, hsent]
  case h_3 => cases hdrops
  case h_4 => cases hdrops

lemma refreshing_of_drops {next : Dashboard} (hdrops : app.drops = true) :
    (app.onDashboard next).refreshing = app.refreshing := by
  unfold App.drops at hdrops
  split at hdrops
  case h_1 hnone => simp [App.onDashboard, hnone, Option.isNone_iff_eq_none.mp hdrops]
  case h_2 => cases hdrops
  case h_3 hanswered => simp [App.onDashboard, hanswered]
  case h_4 hsettling => simp [App.onDashboard, hsettling]

/-- Nothing makes up for the latest event when it is dropped by a page that is not up to date. -/
lemma Inv.covered_deliver_iff (h : s.Inv) (hstep : s.app.step s.store .deliver = some app) :
    Covered { s with app } ↔ s.Heeded (.app .deliver) := by
  simp only [App.step] at hstep
  split at hstep
  case h_1 next wire seen hstream =>
    obtain rfl := Option.some.inj hstep
    have hboot : s.app.stage = .bootstrapped := by
      by_contra hne
      rw [(h.unopened hne).1] at hstream
      cases hstream
    have hnext : s.app.nextEvent? = some next := by rw [App.nextEvent?, hstream]
    have hsame : s.app.drops = true →
        (({ s.app with stream := .opened wire seen }.onDashboard next).UpToDate s.store ↔
          s.app.UpToDate s.store) := by
      intro hdrops
      have hrefreshing : ({ s.app with stream := .opened wire seen }.onDashboard next).refreshing =
          s.app.refreshing := refreshing_of_drops hdrops
      simp only [App.UpToDate, App.settled]
      rw [hrefreshing]
      rfl
    constructor
    · intro hcov other hother hlatest hdrops
      rw [hnext] at hother
      obtain rfl := Option.some.inj hother
      rcases hcov hboot with hlast | hsent | hread
      · exact absurd (congrArg some hlatest) hlast
      · have hkept : ({ s.app with stream := .opened wire seen }.onDashboard next).refreshing =
            s.app.refreshing := refreshing_of_drops hdrops
        have hold : s.app.refreshing = some (.inFlight .sent) := hkept.symm.trans hsent
        simp [App.drops, hold] at hdrops
      · exact (hsame hdrops).mp hread
    · intro hheeded hboot'
      by_cases hlatest : next.revision = s.store.dashboard.revision
      · cases hdrops : s.app.drops with
        | true => exact Or.inr (Or.inr ((hsame hdrops).mpr (hheeded next hnext hlatest hdrops)))
        | false => exact Or.inr (Or.inl (h.refreshing_of_not_drops hstream hdrops))
      · exact Or.inl fun heq => hlatest (Option.some.inj heq)
  case h_2 => cases hstep
  case h_3 => cases hstep
  case h_4 => cases hstep

lemma Quiet.settled_eq (hquiet : s.Quiet) : s.app.settled = s.app.config := by
  unfold App.settled
  split
  case h_1 hanswered => exact absurd hanswered (hquiet.settled _)
  case h_2 => rfl
  case h_3 => rfl
  case h_4 => rfl

lemma Covered.upToDate (hcov : s.Covered) (hquiet : s.Quiet) : s.app.config.UpToDate s.store := by
  rcases hcov hquiet.bootstrapped with hlast | hsent | hread
  · exact absurd hquiet.delivered hlast
  · exact absurd hsent (hquiet.settled _)
  · rwa [App.UpToDate, hquiet.settled_eq] at hread

/-- Nothing makes up for an old half that is put over that of a quiet page. -/
lemma Covered.saved_iff (hcov : s.Covered) {i : ℕ}
    (hstep : s.app.step s.store (.saved i) = some app) :
    Covered { s with app } ↔ s.Heeded (.app (.saved i)) := by
  obtain ⟨saved, hsaved, rfl⟩ := App.saved_eq hstep
  have hanswered : s.app.answered? i = some saved := by rw [App.answered?, hsaved]
  have hkept : s.Quiet → Quiet { s with app := { s.app with
      config := s.app.config.onSaved saved, saves := s.app.saves.eraseIdx i } } :=
    fun hquiet => ⟨hquiet.bootstrapped, hquiet.settled, hquiet.delivered⟩
  constructor
  · intro hcov' hquiet other hother
    rw [hanswered] at hother
    obtain rfl := Option.some.inj hother
    exact ((hcov.upToDate hquiet).onSaved_iff saved).mp (hcov'.upToDate (hkept hquiet))
  · intro hheeded hboot
    by_cases hquiet : s.Quiet
    · right
      right
      rw [App.UpToDate, (hkept hquiet).settled_eq]
      exact ((hcov.upToDate hquiet).onSaved_iff saved).mpr (hheeded hquiet saved hanswered)
    · rcases hcov hboot with hlast | hsent | hread
      · exact Or.inl hlast
      · exact Or.inr (Or.inl hsent)
      by_cases hlast : s.app.lastRevision = some s.store.dashboard.revision
      · obtain ⟨request, hrequest⟩ : ∃ request, s.app.refreshing = some (.inFlight request) := by
          by_contra hnone
          exact hquiet ⟨hboot, fun request heq => hnone ⟨request, heq⟩, hlast⟩
        cases request with
        | sent => exact Or.inr (Or.inl hrequest)
        | answered read =>
          -- the response is put over the answer
          right
          right
          simpa only [App.UpToDate, App.settled, hrequest] using hread
      · exact Or.inl hlast

/-- A step other than a delivery and an answer keeps the page covered. -/
lemma Covered.app_step (hcov : s.Covered) (h : s.Inv) {event : App.Event}
    (hstep : s.app.step s.store event = some app) (hne : event ≠ .deliver)
    (hsaved : ∀ i, event ≠ .saved i) : Covered { s with app } := by
  cases event with
  | authenticated =>
    simp only [App.step, Option.ite_none_right_eq_some] at hstep
    obtain rfl := Option.some.inj hstep.2
    rintro ⟨⟩
  | sessionChecked =>
    simp only [App.step, Option.ite_none_right_eq_some] at hstep
    obtain rfl := Option.some.inj hstep.2
    rintro ⟨⟩
  | bootstrapFails message =>
    simp only [App.step, Option.ite_none_right_eq_some] at hstep
    obtain rfl := Option.some.inj hstep.2
    rintro ⟨⟩
  | readConfig => exact h.covered_readConfig hstep
  | respond => exact hcov.respond h hstep
  | settle => exact hcov.settle hstep
  | subscribe =>
    simp only [App.step, Option.ite_none_right_eq_some] at hstep
    obtain rfl := Option.some.inj hstep.2
    exact hcov.of_same rfl rfl rfl rfl
  | emit =>
    simp only [App.step] at hstep
    split at hstep
    case h_1 =>
      simp only [Option.ite_none_left_eq_some] at hstep
      obtain rfl := Option.some.inj hstep.2
      exact hcov.of_same rfl rfl rfl rfl
    case h_2 => cases hstep
    case h_3 => cases hstep
  | deliver => exact absurd rfl hne
  | streamDone =>
    simp only [App.step] at hstep
    split at hstep
    case h_1 =>
      obtain rfl := Option.some.inj hstep
      exact hcov.of_same rfl rfl rfl rfl
    case h_2 => cases hstep
    case h_3 => cases hstep
    case h_4 => cases hstep
  | streamFails message =>
    simp only [App.step, Option.ite_none_left_eq_some] at hstep
    obtain rfl := Option.some.inj hstep.2
    exact hcov.of_same rfl rfl rfl rfl
  | retry =>
    simp only [App.step, Option.ite_none_right_eq_some] at hstep
    obtain rfl := Option.some.inj hstep.2
    rintro ⟨⟩
  | logout =>
    simp only [App.step, Option.ite_none_left_eq_some] at hstep
    obtain rfl := Option.some.inj hstep.2
    rintro ⟨⟩
  | save =>
    simp only [App.step, Option.ite_none_right_eq_some] at hstep
    obtain rfl := Option.some.inj hstep.2
    exact hcov.of_same rfl rfl rfl rfl
  | answer i =>
    obtain ⟨saves, rfl⟩ := App.answer_eq hstep
    exact hcov.of_same rfl rfl rfl rfl
  | saved i => exact absurd rfl (hsaved i)
  | saveFails i =>
    simp only [App.step, Option.ite_none_right_eq_some] at hstep
    obtain rfl := Option.some.inj hstep.2
    exact hcov.of_same rfl rfl rfl rfl

lemma Covered.commit (hcov : s.Covered) (h : s.Inv) {i : ℕ} {event : SnapshotStore.Event}
    {saved : SavedConfig} (hstep : s.commit i event saved = some s') : s'.Covered := by
  obtain ⟨store, saves, hstore, rfl⟩ := commit_eq hstep
  have hcov' : Covered { s with store } := hcov.store_step h hstore
  exact hcov'.of_same rfl rfl rfl rfl

/-- The steps after which the page is still covered are those in which the latest event is
heeded. -/
lemma Covered.step_iff (hcov : s.Covered) (h : s.Inv) (hstep : s.step e = some s') :
    s'.Covered ↔ s.Heeded e := by
  cases e with
  | store event =>
    obtain ⟨store, hstore, rfl⟩ := Option.map_eq_some_iff.mp hstep
    exact iff_of_true (hcov.store_step h hstore) trivial
  | app event =>
    obtain ⟨app, happ, rfl⟩ := Option.map_eq_some_iff.mp hstep
    by_cases hdeliver : event = .deliver
    · subst hdeliver
      exact h.covered_deliver_iff happ
    by_cases hsaved : ∃ i, event = .saved i
    · obtain ⟨i, rfl⟩ := hsaved
      exact hcov.saved_iff happ
    · have hsaved' : ∀ i, event ≠ .saved i := fun i heq => hsaved ⟨i, heq⟩
      refine iff_of_true (hcov.app_step h happ hdeliver hsaved') ?_
      cases event <;> first | trivial | exact absurd rfl hdeliver | exact absurd rfl (hsaved' _)
  | saveTunnel i config => exact iff_of_true (hcov.commit h hstep) trivial
  | saveProxy i config => exact iff_of_true (hcov.commit h hstep) trivial

/-! ## Quiet states -/

lemma Quiet.not_converged (hquiet : s.Quiet) (hold : ¬ s.app.UpToDate s.store) :
    ¬ s.Converged := by
  intro hconverged
  rw [App.UpToDate, hquiet.settled_eq] at hold
  exact hold (hconverged hquiet)

/-- A page that is not covered keeps an old configuration, at the latest once the response on its
way is handled. -/
lemma exists_not_converged (hcov : ¬ s.Covered) :
    ∃ s', Reach step Always s s' ∧ ¬ s'.Converged := by
  obtain ⟨hboot, hnot⟩ := Classical.not_imp.mp hcov
  rw [not_or, not_or, not_not] at hnot
  obtain ⟨hdelivered, hsent, hold⟩ := hnot
  by_cases hanswered : ∃ read, s.app.refreshing = some (.inFlight (.answered read))
  · obtain ⟨read, hread⟩ := hanswered
    have hstep : s.step (.app .respond) = some { s with
        app := { s.app with config := read.page, refreshing := some .settling } } := by
      simp [step, App.step, hboot, hread]
    refine ⟨_, Reach.init.next trivial hstep, Quiet.not_converged ⟨hboot, ?_, hdelivered⟩ ?_⟩
    · rintro request ⟨⟩
    · simpa only [App.UpToDate, App.settled, hread] using hold
  · refine ⟨s, .init, Quiet.not_converged ⟨hboot, ?_, hdelivered⟩ hold⟩
    rintro (_ | read) hrequest
    · exact hsent hrequest
    · exact hanswered ⟨read, hrequest⟩

lemma inv_and_covered (snapshot : ConfigSnapshot) (tunnelEnabled proxyEnabled : Bool)
    (hreach : Reach step Heeded (start snapshot tunnelEnabled proxyEnabled) s) :
    s.Inv ∧ s.Covered := by
  refine hreach.invariant (I := fun s => s.Inv ∧ s.Covered)
    ⟨inv_start _ _ _, covered_start _ _ _⟩ ?_
  rintro s e s' ⟨h, hcov⟩ hok hstep
  exact ⟨h.step hstep, (hcov.step_iff h hstep).mpr hok⟩

/-- **The page converges** in the runs in which the latest event is heeded and no answer hides what
the page has read, and only in these: any other step leads to a quiet state with an old
configuration. -/
theorem console_converges (snapshot : ConfigSnapshot) (tunnelEnabled proxyEnabled : Bool)
    (hreach : Reach step Heeded (start snapshot tunnelEnabled proxyEnabled) s) :
    s.Converged ∧ ∀ e t, s.step e = some t → ¬ s.Heeded e →
      ∃ t', Reach step Always t t' ∧ ¬ t'.Converged := by
  obtain ⟨h, hcov⟩ := inv_and_covered snapshot tunnelEnabled proxyEnabled hreach
  refine ⟨hcov.upToDate, fun e t hstep hlost => exists_not_converged fun hcov' => ?_⟩
  exact hlost ((hcov.step_iff h hstep).mp hcov')

/-- With no dashboard to come either, the page has the snapshot of the server. -/
theorem quiet_page_shows_snapshot (snapshot : ConfigSnapshot) (tunnelEnabled proxyEnabled : Bool)
    (hreach : Reach step Heeded (start snapshot tunnelEnabled proxyEnabled) s)
    (hquiet : s.Quiet) (hnumbered : s.store.unnumbered = []) (hsent : s.store.unsent = []) :
    s.app.config.snapshot = s.store.snapshot := by
  obtain ⟨h, hcov⟩ := inv_and_covered snapshot tunnelEnabled proxyEnabled hreach
  obtain ⟨htunnel, hproxy⟩ := hcov.upToDate hquiet
  have hcurrent := h.store.current_announced hnumbered hsent
  rw [PageConfig.snapshot, htunnel.eq_of_current hcurrent, hproxy.eq_of_current hcurrent]

/-! ## Sample runs -/

/-- The page is bootstrapped, with the configuration of the change that `between` leads to. -/
def openSteps (between : List Event) : List Event :=
  [.app .authenticated, .app .sessionChecked, .app .readConfig] ++ between ++
    [.app .respond, .app .subscribe]

/-- The dashboard of a change is published. -/
def publishSteps (change : ℕ) : List Event :=
  [.store (.number change), .store (.send ⟨change + 1, change⟩)]

/-- A change of the group, and its dashboard. -/
def changeSteps (change : ℕ) (group : String) : List Event :=
  .store (.updateTunnel (some (groupConfig group))) :: publishSteps change

/-- A panel changes the group, and the server answers. -/
def saveSteps (change : ℕ) (group : String) : List Event :=
  [.app .save, .saveTunnel 0 (groupConfig group)] ++ publishSteps change ++ [.app (.answer 0)]

def eventSteps : List Event := [.app .emit, .app .deliver]

def responseSteps : List Event := [.app .respond, .app .settle]

def sampleRun (ok : Console → Event → Prop) [∀ s e, Decidable (ok s e)] (events : List Event) :
    Option Console :=
  exec step ok (start ⟨some (groupConfig "office"), none⟩ true true) events

/-- Two changes while a request is in flight, before the server reads its snapshot; then a panel
stores a group, the file is reloaded, and the answer comes when the page has read it. -/
theorem dropped_event_made_up_for :
    ∃ s, Reach step Heeded (start ⟨some (groupConfig "office"), none⟩ true true) s ∧ s.Quiet ∧
      s.app.config.UpToDate s.store := by
  have hrun : ∃ s ∈ sampleRun Heeded (openSteps [] ++ eventSteps ++ changeSteps 1 "lab" ++
      eventSteps ++ changeSteps 2 "attic" ++ eventSteps ++ .app .readConfig :: responseSteps ++
      saveSteps 3 "cellar" ++ changeSteps 4 "cellar" ++ eventSteps ++
      .app .readConfig :: responseSteps ++ [.app (.saved 0)]), s.Quiet := by decide +kernel
  obtain ⟨s, hs, hquiet⟩ := hrun
  have hreach := reach_of_exec hs
  exact ⟨s, hreach, hquiet, (console_converges _ _ _ hreach).1 hquiet⟩

/-- A change before the first event, a change after the server has read its snapshot for the request
in flight, and an answer to a panel after a change that the page has read. -/
theorem dropped_event_lost :
    (∃ s, Reach step Always (start ⟨some (groupConfig "office"), none⟩ true true) s ∧
      s.app.lastRevision = some 2 ∧ ¬ s.Converged) ∧
    (∃ s, Reach step Always (start ⟨some (groupConfig "office"), none⟩ true true) s ∧
      s.app.lastRevision = some 3 ∧ ¬ s.Converged) ∧
    ∃ s, Reach step Always (start ⟨some (groupConfig "office"), none⟩ true true) s ∧
      s.app.config.tunnel.config = some (groupConfig "lab") ∧ ¬ s.Converged := by
  have hfirst : ∃ s ∈ sampleRun Always (openSteps (changeSteps 1 "lab") ++ eventSteps),
      s.app.lastRevision = some 2 ∧ s.Quiet ∧ ¬ s.app.UpToDate s.store := by decide +kernel
  have hbusy : ∃ s ∈ sampleRun Always (openSteps [] ++ eventSteps ++ changeSteps 1 "lab" ++
      eventSteps ++ .app .readConfig :: changeSteps 2 "attic" ++ eventSteps ++ responseSteps),
      s.app.lastRevision = some 3 ∧ s.Quiet ∧ ¬ s.app.UpToDate s.store := by decide +kernel
  have hlate : ∃ s ∈ sampleRun Always (openSteps [] ++ eventSteps ++ saveSteps 1 "lab" ++
      changeSteps 2 "attic" ++ eventSteps ++ .app .readConfig :: responseSteps ++
      [.app (.saved 0)]), s.app.config.tunnel.config = some (groupConfig "lab") ∧ s.Quiet ∧
        ¬ s.app.UpToDate s.store := by decide +kernel
  obtain ⟨s, hs, hlast, hquiet, hold⟩ := hfirst
  obtain ⟨t, ht, hlast', hquiet', hold'⟩ := hbusy
  obtain ⟨u, hu, hshown, hquiet'', hold''⟩ := hlate
  exact ⟨⟨s, reach_of_exec hs, hlast, hquiet.not_converged hold⟩,
    ⟨t, reach_of_exec ht, hlast', hquiet'.not_converged hold'⟩,
    ⟨u, reach_of_exec hu, hshown, hquiet''.not_converged hold''⟩⟩

end Console

end GateRust.Web
