/-
# The resources of a server

`ResourceBudget` has the semaphores that all tunnels of a server share.  The state of a semaphore is
the number of its free permits; what somebody holds is counted in the same three numbers, so that
the permits that are free and those that are held add up to the initial ones.
-/
import GateRust.Tunnel.ServerConfig
import Mathlib.Algebra.Group.Defs

namespace GateRust.Tunnel

def maxQueuedUdpBytes : ℕ := 16 * 1024 * 1024

/-- Permits of the three semaphores: those that are free, or those that somebody holds. -/
@[ext] structure ResourceBudget where
  dataStreams : ℕ
  udpSessions : ℕ
  queuedUdpBytes : ℕ
deriving DecidableEq, Repr

namespace ResourceBudget

instance : Zero ResourceBudget := ⟨⟨0, 0, 0⟩⟩

instance : Add ResourceBudget :=
  ⟨fun a b => ⟨a.dataStreams + b.dataStreams, a.udpSessions + b.udpSessions,
    a.queuedUdpBytes + b.queuedUdpBytes⟩⟩

@[simp] lemma dataStreams_add (a b : ResourceBudget) :
    (a + b).dataStreams = a.dataStreams + b.dataStreams := rfl

@[simp] lemma udpSessions_add (a b : ResourceBudget) :
    (a + b).udpSessions = a.udpSessions + b.udpSessions := rfl

@[simp] lemma queuedUdpBytes_add (a b : ResourceBudget) :
    (a + b).queuedUdpBytes = a.queuedUdpBytes + b.queuedUdpBytes := rfl

@[simp] lemma dataStreams_zero : (0 : ResourceBudget).dataStreams = 0 := rfl

@[simp] lemma udpSessions_zero : (0 : ResourceBudget).udpSessions = 0 := rfl

@[simp] lemma queuedUdpBytes_zero : (0 : ResourceBudget).queuedUdpBytes = 0 := rfl

instance : AddCommMonoid ResourceBudget where
  add_assoc a b c := by ext <;> simp [Nat.add_assoc]
  zero_add a := by ext <;> simp
  add_zero a := by ext <;> simp
  add_comm a b := by ext <;> simp [Nat.add_comm]
  nsmul := nsmulRec

def new : ResourceBudget := ⟨maxDataStreams, maxUdpSessions, maxQueuedUdpBytes⟩

/-- The permit of a data stream. -/
def stream : ResourceBudget := ⟨1, 0, 0⟩

/-- The permit of a UDP session. -/
def session : ResourceBudget := ⟨0, 1, 0⟩

/-- The permits of a queued datagram of the given length. -/
def bytes (length : ℕ) : ResourceBudget := ⟨0, 0, length⟩

def tryDataStream (budget : ResourceBudget) : Option ResourceBudget :=
  if 0 < budget.dataStreams then some { budget with dataStreams := budget.dataStreams - 1 }
  else none

def tryUdpSession (budget : ResourceBudget) : Option ResourceBudget :=
  if 0 < budget.udpSessions then some { budget with udpSessions := budget.udpSessions - 1 }
  else none

def tryQueueUdpBytes (budget : ResourceBudget) (length : ℕ) : Option ResourceBudget :=
  if length < 2 ^ 32 ∧ length ≤ budget.queuedUdpBytes then
    some { budget with queuedUdpBytes := budget.queuedUdpBytes - length }
  else none

variable {budget budget' : ResourceBudget} {length : ℕ}

lemma add_stream_of_try (h : budget.tryDataStream = some budget') : budget' + stream = budget := by
  obtain ⟨hpos, h⟩ := Option.ite_none_right_eq_some.mp h
  cases h
  ext <;> simp [stream]
  omega

lemma add_session_of_try (h : budget.tryUdpSession = some budget') :
    budget' + session = budget := by
  obtain ⟨hpos, h⟩ := Option.ite_none_right_eq_some.mp h
  cases h
  ext <;> simp [session]
  omega

lemma add_bytes_of_try (h : budget.tryQueueUdpBytes length = some budget') :
    budget' + bytes length = budget := by
  obtain ⟨⟨-, hle⟩, h⟩ := Option.ite_none_right_eq_some.mp h
  cases h
  ext <;> simp [bytes]
  omega

lemma bytes_add (a b : ℕ) : bytes (a + b) = bytes a + bytes b := by
  ext <;> simp [bytes]

end ResourceBudget

end GateRust.Tunnel
