/-
# The control stream under `tokio::select!`

Both ends of a control stream read it inside a `select!` loop: the server in the session
loop of `authenticate`, the client in `run_connected`.  Every iteration creates a new
`read_frame` call; when another branch completes first, the call is dropped with the bytes
it has taken.

`ControlLoop` is such a loop, for any set of other branches.  The messages it decodes are a
prefix of the messages written as long as no branch that lets the loop go on wins while the
read call holds bytes of a frame (`KeepsRead`); without that condition messages are lost.
-/
import GateRust.Lib.Machine
import GateRust.Tunnel.Protocol

namespace GateRust.Tunnel

open Framing Machine

/-- A loop that reads messages from a control stream. -/
structure ControlLoop (M : Type) where
  /-- The control stream, seen from the loop that reads it. -/
  link : Link M
  /-- The loop has not been left. -/
  running : Bool
deriving DecidableEq

/-- What can happen to a control stream and to the loop that reads it; `B` are the branches
of the `select!` other than the read. -/
inductive ControlEvent (M B : Type) where
  /-- The peer writes a message. -/
  | write (m : M)
  /-- The next `n` bytes arrive. -/
  | arrive (n : ℕ)
  /-- The `read_frame` branch is polled; when it completes with a message, `goesOn` says
  whether its handler continues the loop. -/
  | poll (goesOn : Bool)
  /-- The stream ends or is reset, and the read fails. -/
  | readError
  /-- Another branch completes. -/
  | branch (b : B)

section Loop

variable {M B : Type} (serde : Serde M) (continues : B → Bool)

def ControlLoop.init : ControlLoop M := ⟨Link.empty, true⟩

/-- One step of a loop; `continues` tells the branches after which it is not left. -/
def ControlLoop.step (s : ControlLoop M) : ControlEvent M B → Option (ControlLoop M)
  | .write m =>
    match s.link.send (frame serde) m with
    | .ok link => some { s with link }
    | .error _ => none
  | .arrive n => some { s with link := s.link.arrive n }
  | .poll goesOn =>
    if s.running then
      match s.link.poll (frame serde) with
      | (link, none) => some { s with link }
      | (link, some (.ok _)) => some ⟨link, goesOn⟩
      | (link, some (.error _)) => some ⟨link, false⟩
    else none
  | .readError => if s.running then some { s with running := false } else none
  | .branch b => if s.running then some ⟨s.link.dropRead, continues b⟩ else none

/-- No branch that continues the loop wins over a read call that has taken bytes. -/
def KeepsRead (s : ControlLoop M) : ControlEvent M B → Prop
  | .branch b => continues b = true → s.link.read = .start
  | _ => True

instance : ∀ (s : ControlLoop M) (e : ControlEvent M B), Decidable (KeepsRead continues s e)
  | s, .branch b => inferInstanceAs (Decidable (continues b = true → s.link.read = .start))
  | _, .write _ | _, .arrive _ | _, .poll _ | _, .readError => inferInstanceAs (Decidable True)

variable {serde continues}

/-- The messages decoded are a prefix of those written, and a loop that is still running is
aligned with its stream. -/
def ControlLoop.Inv (serde : Serde M) (s : ControlLoop M) : Prop :=
  s.link.delivered <+: s.link.written ∧ (s.running = true → s.link.Aligned (frame serde))

lemma ControlLoop.inv_of_aligned {s : ControlLoop M} (h : s.link.Aligned (frame serde)) :
    s.Inv serde :=
  ⟨h.inOrder, fun _ => h⟩

lemma ControlLoop.inv_of_stopped {s : ControlLoop M} (h : s.link.delivered <+: s.link.written)
    (hstop : s.running = false) : s.Inv serde :=
  ⟨h, fun hrun => absurd hrun (by simp [hstop])⟩

/-- What a step does to the stream: the peer writes, bytes arrive, the loop polls its read
call, or it drops it. -/
lemma ControlLoop.step_cases {s s' : ControlLoop M} {e : ControlEvent M B}
    (h : s.step serde continues e = some s') :
    (∃ m link, s.link.send (frame serde) m = .ok link ∧ s' = { s with link }) ∨
      (∃ n, s' = { s with link := s.link.arrive n }) ∨
      (s.running = true ∧ s'.link = (s.link.poll (frame serde)).1) ∨
      (s' = { s with running := false }) ∨
      (∃ b, e = .branch b ∧ s.running = true ∧ s' = ⟨s.link.dropRead, continues b⟩) := by
  cases e with
  | write m =>
    simp only [step] at h
    cases hs : s.link.send (frame serde) m with
    | error e => simp [hs] at h
    | ok link =>
      simp only [hs, Option.some.injEq] at h
      exact Or.inl ⟨m, link, hs, h.symm⟩
  | arrive n =>
    simp only [step, Option.some.injEq] at h
    exact Or.inr (Or.inl ⟨n, h.symm⟩)
  | poll goesOn =>
    simp only [step, Option.ite_none_right_eq_some] at h
    obtain ⟨hrun, h⟩ := h
    refine Or.inr (Or.inr (Or.inl ⟨hrun, ?_⟩))
    rcases hp : s.link.poll (frame serde) with ⟨link, _ | _ | _⟩ <;>
      simp only [hp, Option.some.injEq] at h <;> rw [← h]
  | readError =>
    simp only [step, Option.ite_none_right_eq_some, Option.some.injEq] at h
    exact Or.inr (Or.inr (Or.inr (Or.inl h.2.symm)))
  | branch b =>
    simp only [step, Option.ite_none_right_eq_some, Option.some.injEq] at h
    exact Or.inr (Or.inr (Or.inr (Or.inr ⟨b, rfl, h.1, h.2.symm⟩)))

/-- One admitted step keeps the invariant. -/
lemma ControlLoop.Inv.step {s s' : ControlLoop M} {e : ControlEvent M B} (hinv : s.Inv serde)
    (hrt : ∀ m ∈ s.link.written, serde.RoundTrips m) (hok : KeepsRead continues s e)
    (h : s.step serde continues e = some s') : s'.Inv serde := by
  obtain ⟨hpre, halign⟩ := hinv
  rcases step_cases h with ⟨m, link, hs, rfl⟩ | ⟨n, rfl⟩ | ⟨hrun, hlink⟩ | rfl |
    ⟨b, rfl, hrun, rfl⟩
  · refine ⟨?_, fun hrun => (halign hrun).send hs⟩
    obtain ⟨bytes, -, rfl⟩ := Link.send_eq_ok hs
    exact hpre.trans (List.prefix_append _ _)
  · exact ⟨hpre, fun hrun => (halign hrun).arrive n⟩
  · have hpoll := (halign hrun).poll fun m hm => frame_roundTrips (hrt m hm)
    rw [← hlink] at hpoll
    exact inv_of_aligned hpoll
  · exact inv_of_stopped hpre rfl
  · cases hc : continues b with
    | true => exact inv_of_aligned ((halign hrun).dropRead (hok hc))
    | false => exact inv_of_stopped hpre rfl

lemma ControlLoop.written_mono {s s' : ControlLoop M} {e : ControlEvent M B}
    (h : s.step serde continues e = some s') : s.link.written <+: s'.link.written := by
  rcases step_cases h with ⟨m, link, hs, rfl⟩ | ⟨n, rfl⟩ | ⟨-, hlink⟩ | rfl | ⟨b, -, -, rfl⟩
  · obtain ⟨bytes, -, rfl⟩ := Link.send_eq_ok hs
    exact List.prefix_append _ _
  · exact List.prefix_rfl
  · simp only [hlink, Link.poll_written, List.prefix_rfl]
  · exact List.prefix_rfl
  · exact List.prefix_rfl

/-- In every state of an admitted run, the messages decoded are a prefix of those written. -/
lemma ControlLoop.decoded_prefix {s : ControlLoop M}
    (h : Reach (ControlLoop.step serde continues) (KeepsRead continues) .init s)
    (hrt : ∀ m ∈ s.link.written, serde.RoundTrips m) : s.link.delivered <+: s.link.written := by
  -- that the messages round-trip is inherited by the earlier states of the run
  have hinv : (∀ m ∈ s.link.written, serde.RoundTrips m) → s.Inv serde := by
    refine h.invariant (I := fun s => (∀ m ∈ s.link.written, serde.RoundTrips m) → s.Inv serde)
      (fun _ => inv_of_aligned (Link.aligned_empty _)) ?_
    intro s e s' ih hok hstep hrt'
    have hrt : ∀ m ∈ s.link.written, serde.RoundTrips m :=
      fun m hm => hrt' m ((written_mono hstep).subset hm)
    exact (ih hrt).step hrt hok hstep
  exact (hinv hrt).1

end Loop

/-! ## The two loops -/

/-- The branches of the session loop of `authenticate` other than `read_frame`. -/
inductive ServerBranch where
  /-- `connection.closed()` -/
  | closed
  /-- `changes.changed()`: whether the channel is open, and whether the snapshot could be
  written. -/
  | changed (alive written : Bool)
deriving DecidableEq

def ServerBranch.continues : ServerBranch → Bool
  | .closed => false
  | .changed alive written => alive && written

/-- The branches of `run_connected` other than `read_frame`. -/
inductive ClientBranch where
  /-- `shutdown.cancelled()` -/
  | shutdown
  /-- `wait_for_deadline(update_deadline)` -/
  | deadline
  /-- `connection.closed()` -/
  | closed
  /-- `watcher.changed()`, and whether its handler goes on with the loop -/
  | watcher (goesOn : Bool)
  /-- `receive_client_command(..)`, and whether its handler goes on with the loop -/
  | command (goesOn : Bool)
  /-- `connection.accept_bi()` -/
  | acceptBi (ok : Bool)
  /-- `tasks.join_next()` -/
  | joinNext
deriving DecidableEq

def ClientBranch.continues : ClientBranch → Bool
  | .shutdown | .deadline | .closed => false
  | .watcher goesOn | .command goesOn => goesOn
  | .acceptBi ok => ok
  | .joinNext => true

/-- The server's session loop, reading the messages of the client. -/
abbrev serverLoop (serde : Serde ControlMessage) :=
  ControlLoop.step serde ServerBranch.continues

/-- The client's loop, reading the messages of the server. -/
abbrev clientLoop (serde : Serde ServerControlMessage) :=
  ControlLoop.step serde ClientBranch.continues

/-- **Control messages are decoded in order, without loss**, by both loops, in every run in
which no branch that continues the loop wins over a read call that has taken bytes. -/
theorem control_messages_decoded_in_order (serdeC : Serde ControlMessage)
    (serdeS : Serde ServerControlMessage) :
    (∀ s, Reach (serverLoop serdeC) (KeepsRead ServerBranch.continues) .init s →
        (∀ m ∈ s.link.written, serdeC.RoundTrips m) → s.link.delivered <+: s.link.written) ∧
      (∀ s, Reach (clientLoop serdeS) (KeepsRead ClientBranch.continues) .init s →
        (∀ m ∈ s.link.written, serdeS.RoundTrips m) → s.link.delivered <+: s.link.written) :=
  ⟨fun _ h hrt => ControlLoop.decoded_prefix h hrt,
    fun _ h hrt => ControlLoop.decoded_prefix h hrt⟩

/-- What `serde_json` does with two messages of the client. -/
def jsonControl : Serde ControlMessage := .ofTable
  [(.updateServices 1 [], "\x7b\"UpdateServices\":\x7b\"request_id\":1,\"services\":[]\x7d\x7d"),
    (.updateServices 2 [], "\x7b\"UpdateServices\":\x7b\"request_id\":2,\"services\":[]\x7d\x7d")]

/-- What `serde_json` does with two messages of the server. -/
def jsonServerControl : Serde ServerControlMessage := .ofTable
  [(.tunnelSnapshot [], "\x7b\"TunnelSnapshot\":[]\x7d"),
    (.servicesApplied 1 [], "\x7b\"ServicesApplied\":\x7b\"request_id\":1,\"tunnels\":[]\x7d\x7d")]

/-- The run in which a snapshot arrives in two pieces, and no other branch wins in between. -/
theorem split_snapshot_decoded :
    ∃ s, Reach (clientLoop jsonServerControl) (KeepsRead ClientBranch.continues) .init s ∧
      s.link.written = [.tunnelSnapshot [], .servicesApplied 1 []] ∧
      s.link.delivered = [.tunnelSnapshot []] ∧ s.link.delivered <+: s.link.written := by
  have hrun : (exec (clientLoop jsonServerControl) (KeepsRead ClientBranch.continues) .init
      [.write (.tunnelSnapshot []), .write (.servicesApplied 1 []), .arrive 10, .poll true,
        .arrive 15, .poll true, .branch .joinNext, .arrive 5, .poll true]).map
      (fun s => (s.link.written, s.link.delivered)) =
      some ([.tunnelSnapshot [], .servicesApplied 1 []], [.tunnelSnapshot []]) := by
    decide +kernel
  obtain ⟨s, hs, hlists⟩ := Option.map_eq_some_iff.mp hrun
  obtain ⟨hw, hd⟩ := Prod.mk.inj hlists
  have hreach := reach_of_exec hs
  refine ⟨s, hreach, hw, hd, (control_messages_decoded_in_order jsonControl
    jsonServerControl).2 s hreach ?_⟩
  rw [hw]
  decide +kernel

/-- All bytes of a snapshot but the last arrive, and a new stream wins over the read; the
last byte arrives, and a finished task wins over the next read.  The acknowledgement that
follows is then the first message decoded: the snapshot is lost. -/
theorem snapshot_lost_by_dropped_reads :
    ∃ s, Reach (clientLoop jsonServerControl) Always .init s ∧
      (∀ m ∈ s.link.written, jsonServerControl.RoundTrips m) ∧
      s.link.written = [.tunnelSnapshot [], .servicesApplied 1 []] ∧
      s.link.delivered = [.servicesApplied 1 []] ∧ ¬ s.link.delivered <+: s.link.written := by
  have hrun : (exec (clientLoop jsonServerControl) Always .init
      [.write (.tunnelSnapshot []), .write (.servicesApplied 1 []), .arrive 24, .poll true,
        .branch (.acceptBi true), .arrive 1, .poll true, .branch .joinNext, .arrive 53,
        .poll true]).map (fun s => (s.link.written, s.link.delivered)) =
      some ([.tunnelSnapshot [], .servicesApplied 1 []], [.servicesApplied 1 []]) := by
    decide +kernel
  obtain ⟨s, hs, hlists⟩ := Option.map_eq_some_iff.mp hrun
  obtain ⟨hw, hd⟩ := Prod.mk.inj hlists
  refine ⟨s, reach_of_exec hs, ?_, hw, hd, ?_⟩
  · rw [hw]
    decide +kernel
  · rw [hw, hd]
    decide

end GateRust.Tunnel
