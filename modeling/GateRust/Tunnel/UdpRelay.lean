/-
# Datagrams of a UDP session

A UDP session runs over one QUIC stream.  On the server `relay_session` forwards the
datagrams of the public peer, which it takes from the queue `inbound`, and hands the
datagrams that it reads from the stream to the public socket; on the client `handle_udp`
does the same with the socket of the target.  Both loops race `read_datagram` against the
arrival of a datagram for the other direction, and both drop the read call when it loses.
-/
import GateRust.Lib.Machine
import GateRust.Tunnel.Protocol

namespace GateRust.Tunnel

open Framing Machine

/-- One end of a UDP session: the stream it reads, and whether its loop is running.  The
datagrams delivered on the stream are those that the end hands to its UDP socket. -/
structure RelayEnd where
  incoming : Link (List UInt8)
  running : Bool
deriving DecidableEq

/-- A UDP session: `relay_session` on the server and `handle_udp` on the client. -/
structure UdpRelay where
  server : RelayEnd
  client : RelayEnd
deriving DecidableEq

inductive Side where
  | server
  | client
deriving DecidableEq

/-- What can happen in a UDP session. -/
inductive RelayEvent where
  /-- The next `n` bytes arrive at one end. -/
  | arrive (side : Side) (n : ℕ)
  /-- `inbound.recv()` on the server or `socket.recv(..)` on the client completes with a
  datagram, which is written to the stream; the write may fail. -/
  | forward (side : Side) (payload : List UInt8) (written : Bool)
  /-- `read_datagram` is polled; a datagram that it returns is handed to the UDP socket,
  which may fail. -/
  | receive (side : Side) (sent : Bool)
  /-- The loop is left: the queue is closed or the session is idle on the server, the socket
  fails on the client, or the stream fails. -/
  | leave (side : Side)

/-- The other direction wins: the read call of `self` is dropped and the datagram is written
to the stream of the peer. -/
def RelayEnd.forward (self peer : RelayEnd) (payload : List UInt8) (written : Bool) :
    RelayEnd × RelayEnd :=
  match peer.incoming.send datagram payload with
  | .ok link => (⟨self.incoming.dropRead, written⟩, { peer with incoming := link })
  | .error _ => (⟨self.incoming.dropRead, false⟩, peer)

def RelayEnd.receive (self : RelayEnd) (sent : Bool) : RelayEnd :=
  match self.incoming.poll datagram with
  | (link, none) => { self with incoming := link }
  | (link, some (.ok _)) => ⟨link, sent⟩
  | (link, some (.error _)) => ⟨link, false⟩

def UdpRelay.init : UdpRelay := ⟨⟨Link.empty, true⟩, ⟨Link.empty, true⟩⟩

def UdpRelay.step (s : UdpRelay) : RelayEvent → Option UdpRelay
  | .arrive .server n => some { s with server.incoming := s.server.incoming.arrive n }
  | .arrive .client n => some { s with client.incoming := s.client.incoming.arrive n }
  | .forward .server payload written =>
    if s.server.running then
      let ends := s.server.forward s.client payload written
      some ⟨ends.1, ends.2⟩
    else none
  | .forward .client payload written =>
    if s.client.running then
      let ends := s.client.forward s.server payload written
      some ⟨ends.2, ends.1⟩
    else none
  | .receive .server sent =>
    if s.server.running then some { s with server := s.server.receive sent } else none
  | .receive .client sent =>
    if s.client.running then some { s with client := s.client.receive sent } else none
  | .leave .server => some { s with server.running := false }
  | .leave .client => some { s with client.running := false }

/-- No datagram for the other direction wins over a read call that has taken bytes. -/
def KeepsDatagram (s : UdpRelay) : RelayEvent → Prop
  | .forward .server _ written => written = true → s.server.incoming.read = .start
  | .forward .client _ written => written = true → s.client.incoming.read = .start
  | _ => True

instance : ∀ (s : UdpRelay) (e : RelayEvent), Decidable (KeepsDatagram s e)
  | s, .forward .server _ written =>
    inferInstanceAs (Decidable (written = true → s.server.incoming.read = .start))
  | s, .forward .client _ written =>
    inferInstanceAs (Decidable (written = true → s.client.incoming.read = .start))
  | _, .arrive _ _ | _, .receive _ _ | _, .leave _ => inferInstanceAs (Decidable True)

/-! ## The invariant of one end -/

/-- The datagrams handed on are a prefix of those written, and an end that is still running
is aligned with its stream. -/
def RelayEnd.Inv (r : RelayEnd) : Prop :=
  r.incoming.delivered <+: r.incoming.written ∧
    (r.running = true → r.incoming.Aligned datagram)

lemma RelayEnd.inv_init : RelayEnd.Inv ⟨Link.empty, true⟩ :=
  ⟨List.prefix_rfl, fun _ => Link.aligned_empty _⟩

lemma RelayEnd.Inv.arrive {r : RelayEnd} (h : r.Inv) (n : ℕ) :
    RelayEnd.Inv { r with incoming := r.incoming.arrive n } :=
  ⟨h.1, fun hrun => (h.2 hrun).arrive n⟩

lemma RelayEnd.Inv.leave {r : RelayEnd} (h : r.Inv) :
    RelayEnd.Inv { r with running := false } :=
  ⟨h.1, fun hrun => absurd hrun (by simp)⟩

lemma RelayEnd.Inv.receive {r : RelayEnd} (h : r.Inv) (hrun : r.running = true) (sent : Bool) :
    (r.receive sent).Inv := by
  have hpoll := (h.2 hrun).poll fun m _ => datagram_roundTrips m
  have hlink : (r.receive sent).incoming = (r.incoming.poll datagram).1 := by
    unfold RelayEnd.receive
    rcases r.incoming.poll datagram with ⟨link, _ | _ | _⟩ <;> rfl
  rw [← hlink] at hpoll
  exact ⟨hpoll.inOrder, fun _ => hpoll⟩

/-- Forwarding keeps both ends aligned when it drops a read call that has taken nothing. -/
lemma RelayEnd.Inv.forward {self peer : RelayEnd} (hself : self.Inv) (hpeer : peer.Inv)
    (hrun : self.running = true) {payload : List UInt8} {written : Bool}
    (hread : written = true → self.incoming.read = .start) :
    (self.forward peer payload written).1.Inv ∧ (self.forward peer payload written).2.Inv := by
  unfold RelayEnd.forward
  cases hs : peer.incoming.send datagram payload with
  | error e => exact ⟨⟨hself.1, fun h => absurd h (by simp)⟩, hpeer⟩
  | ok link =>
    refine ⟨⟨hself.1, fun hw => (hself.2 hrun).dropRead (hread hw)⟩, ?_, fun hpr =>
      (hpeer.2 hpr).send hs⟩
    obtain ⟨bytes, -, rfl⟩ := Link.send_eq_ok hs
    exact hpeer.1.trans (List.prefix_append _ _)

/-! ## Whole sessions -/

def UdpRelay.Inv (s : UdpRelay) : Prop := s.server.Inv ∧ s.client.Inv

lemma UdpRelay.Inv.step {s s' : UdpRelay} {e : RelayEvent} (h : s.Inv)
    (hok : KeepsDatagram s e) (hs : s.step e = some s') : s'.Inv := by
  obtain ⟨hserver, hclient⟩ := h
  cases e with
  | arrive side n =>
    cases side <;> simp only [UdpRelay.step, Option.some.injEq] at hs <;> subst hs
    · exact ⟨hserver.arrive n, hclient⟩
    · exact ⟨hserver, hclient.arrive n⟩
  | forward side payload written =>
    cases side <;>
      simp only [UdpRelay.step, Option.ite_none_right_eq_some, Option.some.injEq] at hs <;>
      obtain ⟨hrun, rfl⟩ := hs
    · exact hserver.forward hclient hrun hok
    · exact (hclient.forward hserver hrun hok).symm
  | receive side sent =>
    cases side <;>
      simp only [UdpRelay.step, Option.ite_none_right_eq_some, Option.some.injEq] at hs <;>
      obtain ⟨hrun, rfl⟩ := hs
    · exact ⟨hserver.receive hrun sent, hclient⟩
    · exact ⟨hserver, hclient.receive hrun sent⟩
  | leave side =>
    cases side <;> simp only [UdpRelay.step, Option.some.injEq] at hs <;> subst hs
    · exact ⟨hserver.leave, hclient⟩
    · exact ⟨hserver, hclient.leave⟩

/-- **Datagrams keep their order, boundaries and contents** in both directions, in every
session in which no datagram for the other direction wins over a read call that has taken
bytes. -/
theorem udp_datagrams_delivered_in_order {s : UdpRelay}
    (h : Reach UdpRelay.step KeepsDatagram .init s) :
    s.client.incoming.delivered <+: s.client.incoming.written ∧
      s.server.incoming.delivered <+: s.server.incoming.written := by
  have hinv : s.Inv := h.invariant ⟨RelayEnd.inv_init, RelayEnd.inv_init⟩
    fun _ _ _ hI hok hs => hI.step hok hs
  exact ⟨hinv.2.1, hinv.1.1⟩

/-- A datagram in each direction, the one to the client in two pieces. -/
theorem udp_datagram_in_two_pieces :
    ∃ s, Reach UdpRelay.step KeepsDatagram .init s ∧
      s.client.incoming.delivered = [[1, 2, 3]] ∧ s.server.incoming.delivered = [[4]] ∧
      s.client.incoming.delivered <+: s.client.incoming.written ∧
      s.server.incoming.delivered <+: s.server.incoming.written := by
  have hrun : (exec UdpRelay.step KeepsDatagram .init
      [.forward .server [1, 2, 3] true, .arrive .client 3, .receive .client true,
        .arrive .client 2, .receive .client true, .forward .client [4] true, .arrive .server 3,
        .receive .server true]).map
      (fun s => (s.client.incoming.delivered, s.server.incoming.delivered)) =
      some ([[1, 2, 3]], [[4]]) := by decide +kernel
  obtain ⟨s, hs, hlists⟩ := Option.map_eq_some_iff.mp hrun
  obtain ⟨hc, hd⟩ := Prod.mk.inj hlists
  have hreach := reach_of_exec hs
  exact ⟨s, hreach, hc, hd, udp_datagrams_delivered_in_order hreach⟩

/-- The length of a datagram arrives, a datagram for the public peer wins over the read
call, and the two bytes of the payload are then read as a length: the client hands an empty
datagram to its socket. -/
theorem udp_datagram_parsed_from_its_payload :
    ∃ s, Reach UdpRelay.step Always .init s ∧
      s.client.incoming.written = [[0, 0]] ∧ s.client.incoming.delivered = [[]] ∧
      ¬ s.client.incoming.delivered <+: s.client.incoming.written := by
  have hrun : (exec UdpRelay.step Always .init
      [.forward .server [0, 0] true, .arrive .client 2, .receive .client true,
        .forward .client [4] true, .arrive .client 2, .receive .client true]).map
      (fun s => (s.client.incoming.written, s.client.incoming.delivered)) =
      some ([[0, 0]], [[]]) := by decide +kernel
  obtain ⟨s, hs, hlists⟩ := Option.map_eq_some_iff.mp hrun
  obtain ⟨hw, hd⟩ := Prod.mk.inj hlists
  refine ⟨s, reach_of_exec hs, hw, hd, ?_⟩
  rw [hw, hd]
  decide

end GateRust.Tunnel
