/-
# The dashboard of the stored configurations

The store keeps a snapshot of both configurations.  Whoever changes it then takes a number from
the revision counter, and last sends a dashboard of the snapshot under that number to a watch
channel, which keeps the latest one.  Several tasks do so at the same time: a dashboard may be sent
after one with a later revision, and it may be one of a later snapshot.

What matters to the receivers of the channel is kept here: no two dashboards have one revision, and
every change has its dashboard sent or still to come.
-/
import Mathlib.Data.List.Infix
import Mathlib.Data.List.Nodup
import GateRust.Control.Snapshots

namespace GateRust.Control

open Tunnel (ServerConfig)

open Proxy (ProxyConfig)

structure ConfigSnapshot where
  tunnel : Option ServerConfig
  proxy : Option ProxyConfigView
deriving DecidableEq, Repr

structure Dashboard where
  revision : ℕ
  tunnelEnabled : Bool
  proxyEnabled : Bool
  groups : ℕ
  tunnels : ℕ
  certificates : ℕ
  routes : ℕ
deriving DecidableEq, Repr

def dashboardFor (snapshot : ConfigSnapshot) (revision : ℕ) (tunnelEnabled proxyEnabled : Bool) :
    Dashboard where
  revision
  tunnelEnabled
  proxyEnabled
  groups := snapshot.tunnel.elim 0 (·.groups.length)
  tunnels := snapshot.tunnel.elim 0 (·.tunnels.length)
  certificates := snapshot.proxy.elim 0 (·.certificates.length)
  routes := snapshot.proxy.elim 0 (·.routes.length)

/-- A revision and the change that it was taken for. -/
structure Announcement where
  revision : ℕ
  change : ℕ
deriving DecidableEq, Repr

/-- The snapshot with its dashboard channel.  The changes are counted from 0, which stands for what
was loaded at the start. -/
structure SnapshotStore where
  snapshot : ConfigSnapshot
  /-- What the snapshot was before each change. -/
  past : List ConfigSnapshot
  revision : ℕ
  /-- The value in the watch channel. -/
  dashboard : Dashboard
  tunnelEnabled : Bool
  proxyEnabled : Bool
  /-- The changes whose task has not taken a revision. -/
  unnumbered : List ℕ
  /-- The changes whose task has a revision and has not sent its dashboard. -/
  unsent : List Announcement
  /-- The dashboards that were sent, the latest last. -/
  announced : List Announcement

namespace SnapshotStore

inductive Event where
  | updateTunnel (config : Option ServerConfig)
  | updateProxy (config : Option ProxyConfig)
  /-- The first half of `publish`: the revision of a change. -/
  | number (change : ℕ)
  /-- The second half of `publish`: the dashboard is sent. -/
  | send (announcement : Announcement)

def start (snapshot : ConfigSnapshot) (tunnelEnabled proxyEnabled : Bool) : SnapshotStore where
  snapshot
  past := []
  revision := 1
  dashboard := dashboardFor snapshot 1 tunnelEnabled proxyEnabled
  tunnelEnabled
  proxyEnabled
  unnumbered := []
  unsent := []
  announced := [⟨1, 0⟩]

variable (s : SnapshotStore)

/-- All snapshots so far, by the number of the change that made them. -/
def stored : List ConfigSnapshot := s.past ++ [s.snapshot]

/-- The number of the latest change. -/
def current : ℕ := s.past.length

/-- A task writes the snapshot; it will publish. -/
def change (snapshot : ConfigSnapshot) : SnapshotStore :=
  { s with
    snapshot
    past := s.stored
    unnumbered := (s.current + 1) :: s.unnumbered }

def step : Event → Option SnapshotStore
  | .updateTunnel config => some (s.change { s.snapshot with tunnel := config })
  | .updateProxy config =>
    some (s.change { s.snapshot with proxy := config.map ProxyConfigView.ofConfig })
  | .number change =>
    if change ∈ s.unnumbered then
      some { s with
        revision := s.revision + 1
        unnumbered := s.unnumbered.erase change
        unsent := ⟨s.revision + 1, change⟩ :: s.unsent }
    else none
  | .send announcement =>
    if announcement ∈ s.unsent then
      some { s with
        dashboard :=
          dashboardFor s.snapshot announcement.revision s.tunnelEnabled s.proxyEnabled
        unsent := s.unsent.erase announcement
        announced := s.announced ++ [announcement] }
    else none

/-- The revisions of the dashboards that were sent, in the order of sending. -/
def revisions : List ℕ := s.announced.map Announcement.revision

variable {s} {s' : SnapshotStore} {e : Event}

@[simp] lemma dashboardFor_revision (snapshot : ConfigSnapshot) (revision : ℕ)
    (tunnelEnabled proxyEnabled : Bool) :
    (dashboardFor snapshot revision tunnelEnabled proxyEnabled).revision = revision := rfl

lemma stored_current : s.stored[s.current]? = some s.snapshot := by
  simp [stored, current]

/-! ## What a step does -/

/-- The snapshots so far are kept, and revisions are only added. -/
structure Extends (s s' : SnapshotStore) : Prop where
  stored : s.stored <+: s'.stored
  announced : s.announced <+: s'.announced

/-- What was stored as the change `k` remains stored as that change. -/
lemma Extends.stored_eq (h : Extends s s') {k : ℕ} {snapshot : ConfigSnapshot}
    (hk : s.stored[k]? = some snapshot) : s'.stored[k]? = some snapshot := by
  obtain ⟨later, hlater⟩ := h.stored
  obtain ⟨hlt, -⟩ := List.getElem?_eq_some_iff.mp hk
  rw [← hlater, List.getElem?_append_left hlt]
  exact hk

/-- A step sends a dashboard, and then it is the one in the channel, or leaves the channel. -/
lemma step_cases (hstep : s.step e = some s') :
    (∃ a ∈ s.unsent, s'.announced = s.announced ++ [a] ∧ s'.dashboard.revision = a.revision) ∨
      (s'.announced = s.announced ∧ s'.dashboard = s.dashboard) := by
  cases e with
  | updateTunnel config =>
    obtain rfl := Option.some.inj hstep
    exact Or.inr ⟨rfl, rfl⟩
  | updateProxy config =>
    obtain rfl := Option.some.inj hstep
    exact Or.inr ⟨rfl, rfl⟩
  | number change =>
    simp only [step, Option.ite_none_right_eq_some] at hstep
    obtain ⟨-, hstep⟩ := hstep
    obtain rfl := Option.some.inj hstep
    exact Or.inr ⟨rfl, rfl⟩
  | send a =>
    simp only [step, Option.ite_none_right_eq_some] at hstep
    obtain ⟨hmem, hstep⟩ := hstep
    obtain rfl := Option.some.inj hstep
    exact Or.inl ⟨a, hmem, rfl, rfl⟩

lemma extends_of_step (hstep : s.step e = some s') : Extends s s' := by
  have hannounced : s.announced <+: s'.announced := by
    rcases step_cases hstep with ⟨a, -, heq, -⟩ | ⟨heq, -⟩
    · exact ⟨[a], heq.symm⟩
    · rw [heq]
  refine ⟨?_, hannounced⟩
  cases e with
  | updateTunnel config =>
    obtain rfl := Option.some.inj hstep
    exact List.prefix_append _ _
  | updateProxy config =>
    obtain rfl := Option.some.inj hstep
    exact List.prefix_append _ _
  | number change =>
    simp only [step, Option.ite_none_right_eq_some] at hstep
    obtain ⟨-, hstep⟩ := hstep
    obtain rfl := Option.some.inj hstep
    exact List.prefix_rfl
  | send a =>
    simp only [step, Option.ite_none_right_eq_some] at hstep
    obtain ⟨-, hstep⟩ := hstep
    obtain rfl := Option.some.inj hstep
    exact List.prefix_rfl

/-! ## The invariant -/

structure Consistent (s : SnapshotStore) : Prop where
  /-- No two changes have one revision. -/
  nodup : (s.announced ++ s.unsent).map Announcement.revision |>.Nodup
  revision_le : ∀ a ∈ s.announced ++ s.unsent, a.revision ≤ s.revision
  change_le : ∀ a ∈ s.announced ++ s.unsent, a.change ≤ s.current
  unnumbered_le : ∀ change ∈ s.unnumbered, change ≤ s.current
  /-- The channel has the dashboard that was sent last. -/
  latest : s.revisions.getLast? = some s.dashboard.revision
  /-- Every change has its dashboard sent or still to come. -/
  complete : ∀ change ≤ s.current, change ∈ s.unnumbered ∨
    ∃ a ∈ s.announced ++ s.unsent, a.change = change

lemma consistent_start (snapshot : ConfigSnapshot) (tunnelEnabled proxyEnabled : Bool) :
    (start snapshot tunnelEnabled proxyEnabled).Consistent where
  nodup := List.nodup_singleton _
  revision_le a ha := by
    obtain rfl := List.mem_singleton.mp ha
    exact Nat.le_refl 1
  change_le a ha := by
    obtain rfl := List.mem_singleton.mp ha
    exact Nat.le_refl 0
  unnumbered_le change hchange := absurd hchange List.not_mem_nil
  latest := rfl
  complete change hle := Or.inr ⟨⟨1, 0⟩, List.mem_singleton_self _, (Nat.le_zero.mp hle).symm⟩

lemma Consistent.change (h : s.Consistent) (snapshot : ConfigSnapshot) :
    (s.change snapshot).Consistent := by
  have hcurrent : (s.change snapshot).current = s.current + 1 := by
    simp [SnapshotStore.change, current, stored]
  refine ⟨h.nodup, h.revision_le, fun a ha => ?_, fun change hchange => ?_, h.latest,
    fun change hle => ?_⟩
  · rw [hcurrent]
    exact (h.change_le a ha).trans (Nat.le_succ _)
  · rw [hcurrent]
    rcases List.mem_cons.mp hchange with rfl | hmem
    · exact Nat.le_refl _
    · exact (h.unnumbered_le change hmem).trans (Nat.le_succ _)
  · rw [hcurrent] at hle
    rcases Nat.le_succ_iff.mp hle with hold | rfl
    · exact (h.complete change hold).imp (List.mem_cons_of_mem _) id
    · exact Or.inl List.mem_cons_self

/-- The number is above all that were taken. -/
lemma Consistent.number (h : s.Consistent) {change : ℕ}
    (hstep : s.step (.number change) = some s') : s'.Consistent := by
  simp only [step, Option.ite_none_right_eq_some] at hstep
  obtain ⟨hmem, hstep⟩ := hstep
  obtain rfl := Option.some.inj hstep
  have hperm : (s.announced ++ ⟨s.revision + 1, change⟩ :: s.unsent).Perm
      (⟨s.revision + 1, change⟩ :: (s.announced ++ s.unsent)) := List.perm_middle
  have hall : ∀ a ∈ s.announced ++ ⟨s.revision + 1, change⟩ :: s.unsent,
      a = ⟨s.revision + 1, change⟩ ∨ a ∈ s.announced ++ s.unsent :=
    fun a ha => List.mem_cons.mp (hperm.mem_iff.mp ha)
  refine ⟨?_, fun a ha => ?_, fun a ha => ?_, fun c hc => ?_, h.latest, fun c hle => ?_⟩
  · refine ((hperm.map Announcement.revision).nodup_iff).mpr (List.nodup_cons.mpr ⟨?_, h.nodup⟩)
    intro hused
    obtain ⟨a, ha, hrevision⟩ := List.mem_map.mp hused
    have hle := h.revision_le a ha
    dsimp only at hrevision
    omega
  · rcases hall a ha with rfl | hold
    · exact Nat.le_refl _
    · exact (h.revision_le a hold).trans (Nat.le_succ _)
  · rcases hall a ha with rfl | hold
    · exact h.unnumbered_le change hmem
    · exact h.change_le a hold
  · exact h.unnumbered_le c (List.mem_of_mem_erase hc)
  · rcases eq_or_ne c change with rfl | hne
    · exact Or.inr ⟨_, hperm.mem_iff.mpr List.mem_cons_self, rfl⟩
    · rcases h.complete c hle with hwait | ⟨a, ha, heq⟩
      · exact Or.inl ((List.mem_erase_of_ne hne).mpr hwait)
      · exact Or.inr ⟨a, hperm.mem_iff.mpr (List.mem_cons_of_mem _ ha), heq⟩

/-- The dashboards sent and to be sent remain the same, in another order. -/
lemma Consistent.send (h : s.Consistent) {announcement : Announcement}
    (hstep : s.step (.send announcement) = some s') : s'.Consistent := by
  simp only [step, Option.ite_none_right_eq_some] at hstep
  obtain ⟨hmem, hstep⟩ := hstep
  obtain rfl := Option.some.inj hstep
  have hperm : (s.announced ++ [announcement] ++ s.unsent.erase announcement).Perm
      (s.announced ++ s.unsent) := by
    rw [List.append_assoc]
    exact (List.perm_cons_erase hmem).symm.append_left _
  refine ⟨((hperm.map _).nodup_iff).mpr h.nodup, fun a ha => ?_, fun a ha => ?_, h.unnumbered_le,
    ?_, fun c hle => ?_⟩
  · exact h.revision_le a (hperm.mem_iff.mp ha)
  · exact h.change_le a (hperm.mem_iff.mp ha)
  · simp [revisions]
  · refine (h.complete c hle).imp id ?_
    rintro ⟨a, ha, heq⟩
    exact ⟨a, hperm.mem_iff.mpr ha, heq⟩

lemma Consistent.step (h : s.Consistent) (hstep : s.step e = some s') : s'.Consistent := by
  cases e with
  | updateTunnel config =>
    obtain rfl := Option.some.inj hstep
    exact h.change _
  | updateProxy config =>
    obtain rfl := Option.some.inj hstep
    exact h.change _
  | number change => exact h.number hstep
  | send announcement => exact h.send hstep

/-- A dashboard that is still to come has a revision that none before it had. -/
lemma Consistent.fresh (h : s.Consistent) {a : Announcement} (ha : a ∈ s.unsent) :
    a.revision ∉ s.revisions := by
  have hnodup := h.nodup
  rw [List.map_append] at hnodup
  intro hused
  exact (List.disjoint_of_nodup_append hnodup) hused (List.mem_map_of_mem ha)

lemma Consistent.revisions_nodup (h : s.Consistent) : s.revisions.Nodup := by
  have hnodup := h.nodup
  rw [List.map_append] at hnodup
  exact hnodup.of_append_left

lemma Consistent.latest_mem (h : s.Consistent) : s.dashboard.revision ∈ s.revisions :=
  List.mem_of_getLast? h.latest

/-- Once no dashboard is to come, that of the latest change was sent. -/
lemma Consistent.current_announced (h : s.Consistent) (hnumbered : s.unnumbered = [])
    (hsent : s.unsent = []) : ∃ a ∈ s.announced, a.change = s.current := by
  rcases h.complete s.current le_rfl with hwait | ⟨a, ha, heq⟩
  · rw [hnumbered] at hwait
    exact absurd hwait List.not_mem_nil
  · rw [hsent, List.append_nil] at ha
    exact ⟨a, ha, heq⟩

end SnapshotStore

end GateRust.Control
