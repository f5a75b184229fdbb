/-
# Messages on a framed byte stream

One end of a link writes messages as frames; the bytes arrive in pieces of any size; the
other end takes them with read calls.  `Link` is the state of the whole, with the messages
written and delivered so far.  A read call may be *dropped* before it completes: the bytes
it had taken are gone with it.

The invariant is `Link.Aligned`: the bytes taken by the live read call, the bytes that have
arrived and the bytes under way are the frames of the messages that were written and not
yet delivered.  Every operation preserves it, with one exception: dropping a read call that
has taken something.
-/
import GateRust.Lib.Framing

namespace Framing

variable {M E : Type*}

/-- How messages are turned into frames and back. -/
structure Codec (M E : Type*) where
  /-- The format of the frames. -/
  format : Format
  /-- The payload of a message. -/
  encode : M → Except E (List UInt8)
  /-- The message of a payload. -/
  decode : List UInt8 → Except E M
  /-- The error for writing a payload that is too long. -/
  tooLongToWrite : E
  /-- The error for reading a length that is too large. -/
  tooLongToRead : E

/-- What a poll of a read call gives: the call goes on, or it ends with a result. -/
inductive Read (M E : Type*) where
  | pending (p : Progress)
  | ready (result : Except E M)

namespace Codec

variable (C : Codec M E)

/-- The bytes written for a message. -/
def write (m : M) : Except E (List UInt8) :=
  match C.encode m with
  | .error e => .error e
  | .ok payload =>
    if C.format.limit < payload.length then .error C.tooLongToWrite
    else .ok (C.format.frame payload)

/-- Continue a read call with the available bytes. -/
def read (p : Progress) (bytes : List UInt8) : Read M E × List UInt8 :=
  match C.format.poll p bytes with
  | (.pending p', rest) => (.pending p', rest)
  | (.oversized, rest) => (.ready (.error C.tooLongToRead), rest)
  | (.ready payload, rest) => (.ready (C.decode payload), rest)

/-- Decoding the payload of `m` gives `m` back. -/
def RoundTrips (m : M) : Prop := ∀ payload, C.encode m = .ok payload → C.decode payload = .ok m

/-- The bytes of a sequence of messages. -/
inductive Frames : List M → List UInt8 → Prop
  | nil : Frames [] []
  | cons {m : M} {ms : List M} {frame bytes : List UInt8} :
      C.write m = .ok frame → Frames ms bytes → Frames (m :: ms) (frame ++ bytes)

variable {C}

lemma write_eq_ok {m : M} {bytes : List UInt8} (h : C.write m = .ok bytes) :
    ∃ payload, C.encode m = .ok payload ∧ payload.length ≤ C.format.limit ∧
      bytes = C.format.frame payload := by
  unfold write at h
  cases henc : C.encode m with
  | error e => simp [henc] at h
  | ok payload =>
    rw [henc] at h
    by_cases hlen : C.format.limit < payload.length
    · simp [hlen] at h
    · simp only [hlen, if_false, Except.ok.injEq] at h
      exact ⟨payload, rfl, Nat.not_lt.mp hlen, h.symm⟩

lemma Frames.snoc {ms : List M} {m : M} {bytes frame : List UInt8} (h : C.Frames ms bytes)
    (hm : C.write m = .ok frame) : C.Frames (ms ++ [m]) (bytes ++ frame) := by
  induction h with
  | nil => simpa using Frames.cons hm .nil
  | cons hw _ ih =>
    rw [List.append_assoc]
    exact .cons hw ih

/-- A poll on a stream of frames delivers the first message or takes everything that is
available. -/
lemma read_spec {p : Progress} {ms : List M} {bytes later : List UInt8}
    (hp : C.format.Partial p) (hms : C.Frames ms (C.format.consumed p ++ bytes ++ later))
    (hrt : ∀ m ∈ ms, C.RoundTrips m) :
    (∃ m ms' rest, ms = m :: ms' ∧ C.read p bytes = (.ready (.ok m), rest) ∧
        C.Frames ms' (rest ++ later)) ∨
      (∃ p', C.read p bytes = (.pending p', []) ∧ C.format.Partial p' ∧
        C.format.consumed p' = C.format.consumed p ++ bytes) := by
  generalize hstream : C.format.consumed p ++ bytes ++ later = stream at hms
  cases hms with
  | nil =>
    -- nothing was written that is not delivered: there are no bytes at all
    simp only [List.append_eq_nil_iff] at hstream
    obtain ⟨⟨hcons, rfl⟩, -⟩ := hstream
    right
    refine ⟨p, ?_, hp, by simp⟩
    rw [read, Format.poll_nil hp]
  | @cons m ms' frame tail hw hrest =>
    obtain ⟨payload, henc, hlen, rfl⟩ := write_eq_ok hw
    rcases Format.poll_spec hp hlen hstream with ⟨rest, hpoll, htail⟩ | ⟨p', hpoll, hp', hcons⟩
    · left
      refine ⟨m, ms', rest, rfl, ?_, htail ▸ hrest⟩
      rw [read, hpoll]
      simp only
      rw [hrt m List.mem_cons_self payload henc]
    · right
      refine ⟨p', ?_, hp', hcons⟩
      rw [read, hpoll]

end Codec

/-! ## Links -/

/-- One direction of a connection. -/
structure Link (M : Type*) where
  /-- The messages written so far. -/
  written : List M
  /-- The bytes under way. -/
  wire : List UInt8
  /-- The bytes that have arrived and that no read call has taken. -/
  arrived : List UInt8
  /-- The live read call. -/
  read : Progress
  /-- The messages that the read calls have returned. -/
  delivered : List M
deriving DecidableEq

namespace Link

variable (C : Codec M E) (l : Link M)

/-- A link on which nothing has been written. -/
def empty : Link M := ⟨[], [], [], .start, []⟩

/-- Write a message. -/
def send (m : M) : Except E (Link M) :=
  match C.write m with
  | .error e => .error e
  | .ok frame => .ok { l with written := l.written ++ [m], wire := l.wire ++ frame }

/-- The next `n` bytes arrive. -/
def arrive (n : ℕ) : Link M :=
  { l with wire := l.wire.drop n, arrived := l.arrived ++ l.wire.take n }

/-- Drop the live read call and start a new one. -/
def dropRead : Link M := { l with read := .start }

/-- Poll the live read call.  A completed call is replaced by a new one, and its result is
returned. -/
def poll : Link M × Option (Except E M) :=
  match C.read l.read l.arrived with
  | (.pending p, rest) => ({ l with read := p, arrived := rest }, none)
  | (.ready (.ok m), rest) =>
    ({ l with read := .start, arrived := rest, delivered := l.delivered ++ [m] }, some (.ok m))
  | (.ready (.error e), rest) => ({ l with read := .start, arrived := rest }, some (.error e))

/-- The bytes that are still in the link are the frames of the messages that are still to
be delivered. -/
def Aligned : Prop :=
  C.format.Partial l.read ∧ ∃ rest, l.written = l.delivered ++ rest ∧
    C.Frames rest (C.format.consumed l.read ++ l.arrived ++ l.wire)

variable {C l}

lemma Aligned.inOrder (h : l.Aligned C) : l.delivered <+: l.written := by
  obtain ⟨-, rest, hrest, -⟩ := h
  exact ⟨rest, hrest.symm⟩

variable (C) in
lemma aligned_empty : (empty : Link M).Aligned C :=
  ⟨C.format.partial_start, [], rfl, by simpa [empty] using Codec.Frames.nil⟩

lemma send_eq_ok {m : M} {l' : Link M} (hs : l.send C m = .ok l') :
    ∃ frame, C.write m = .ok frame ∧
      l' = { l with written := l.written ++ [m], wire := l.wire ++ frame } := by
  unfold Link.send at hs
  cases hw : C.write m with
  | error e => simp [hw] at hs
  | ok frame =>
    simp only [hw, Except.ok.injEq] at hs
    exact ⟨frame, rfl, hs.symm⟩

@[simp] lemma poll_written : (l.poll C).1.written = l.written := by
  unfold Link.poll
  split <;> rfl

lemma Aligned.send {m : M} {l' : Link M} (h : l.Aligned C) (hs : l.send C m = .ok l') :
    l'.Aligned C := by
  obtain ⟨frame, hw, rfl⟩ := send_eq_ok hs
  obtain ⟨hp, rest, hrest, hframes⟩ := h
  refine ⟨hp, rest ++ [m], by simp [hrest], ?_⟩
  simpa using hframes.snoc hw

lemma Aligned.arrive (h : l.Aligned C) (n : ℕ) : (l.arrive n).Aligned C := by
  obtain ⟨hp, rest, hrest, hframes⟩ := h
  refine ⟨hp, rest, hrest, ?_⟩
  rw [Link.arrive, List.append_assoc, List.append_assoc, List.take_append_drop,
    ← List.append_assoc]
  exact hframes

/-- Dropping a read call that has taken nothing loses nothing. -/
lemma Aligned.dropRead (h : l.Aligned C) (hread : l.read = .start) : l.dropRead.Aligned C := by
  rw [Link.dropRead, ← hread]
  exact h

/-- **A poll of an aligned link** delivers the next message or none, and keeps the link
aligned. -/
lemma Aligned.poll (h : l.Aligned C) (hrt : ∀ m ∈ l.written, C.RoundTrips m) :
    (l.poll C).1.Aligned C := by
  obtain ⟨hp, rest, hrest, hframes⟩ := h
  have hrt' : ∀ m ∈ rest, C.RoundTrips m := fun m hm => hrt m (by simp [hrest, hm])
  rcases Codec.read_spec hp hframes hrt' with ⟨m, ms', left, rfl, hread, hleft⟩ |
    ⟨p', hread, hp', hcons⟩
  · have hpoll : l.poll C = ({ l with
        read := .start, arrived := left, delivered := l.delivered ++ [m] }, some (.ok m)) := by
      rw [Link.poll, hread]
    rw [hpoll]
    refine ⟨C.format.partial_start, ms', by simp [hrest], ?_⟩
    simpa using hleft
  · have hpoll : l.poll C = ({ l with read := p', arrived := [] }, none) := by
      rw [Link.poll, hread]
    rw [hpoll]
    refine ⟨hp', rest, hrest, ?_⟩
    simpa [hcons] using hframes

end Link

end Framing
