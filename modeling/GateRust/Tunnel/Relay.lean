/-
# The relay of a stream

`relay.rs`: a public connection and a connection to the service behind the client are joined by
two calls of `copy_bidirectional`, one at the server and one at the client, with a QUIC stream
between them.  Each call runs `copy_one_way` in both directions; it reads a block, waits for the
rate limiter, writes the block, and passes the end of its reader on.

A direction is a path of three pipes and two calls of `copy_one_way`.  The handshakes are over
before the first block, and what they read and wrote is not part of the pipes.
-/
import GateRust.Lib.Machine
import GateRust.Lib.Pipe

namespace GateRust.Tunnel.Relay

open Machine

def BUFFER_SIZE : ℕ := 16 * 1024

/-- Where a call of `copy_one_way` is. -/
inductive CopyOneWay
  | reading
  | acquiring (block : List UInt8)
  | writing (rest : List UInt8)
  | shuttingDown
  | done
  | dropped
deriving DecidableEq, Repr

/-- A call of `copy_one_way`, with its reader and its writer. -/
structure Hop where
  reader : Pipe UInt8
  copy : CopyOneWay
  writer : Pipe UInt8

/-- What an `await` of the call returns. -/
inductive CopyEvent
  | read (n : ℕ)
  | eof
  | acquired
  | written (n : ℕ)
  | shutdown
deriving DecidableEq

/-- The next step of the call.  The writer takes at most what fits into its window. -/
def Hop.step (window : ℕ) (h : Hop) : CopyEvent → Option Hop
  | .read n =>
    if h.copy = .reading ∧ 0 < n ∧ n ≤ BUFFER_SIZE ∧ n ≤ h.reader.pending.length then
      some ⟨h.reader.read n, .acquiring (h.reader.pending.take n), h.writer⟩
    else none
  | .eof =>
    if h.copy = .reading ∧ h.reader.AtEnd then some { h with copy := .shuttingDown } else none
  | .acquired =>
    match h.copy with
    | .acquiring block => some { h with copy := .writing block }
    | _ => none
  | .written n =>
    match h.copy with
    | .writing rest =>
      if 0 < n ∧ n ≤ rest.length ∧ h.writer.pending.length + n ≤ window then
        -- `write_all` goes on until nothing is left
        some ⟨h.reader, if n = rest.length then .reading else .writing (rest.drop n),
          h.writer.write (rest.take n)⟩
      else none
    | _ => none
  | .shutdown =>
    if h.copy = .shuttingDown then some ⟨h.reader, .done, h.writer.shutdown⟩ else none

/-- The call is dropped before its end, and its writer with it: a `SendStream` finishes then, and a
`TcpStream` is closed.  That the reader may see an error in place of the end is left to the failure
of the call that reads. -/
def Hop.abandon (h : Hop) : Hop :=
  ⟨h.reader, if h.copy = .done then .done else .dropped, h.writer.shutdown⟩

/-! ## The stream -/

inductive Side
  | server
  | client
deriving DecidableEq

/-- Towards the service, or back to the public connection. -/
inductive Way
  | inward
  | outward
deriving DecidableEq

/-- One direction: the connection of its source, the QUIC stream and the connection of its sink. -/
structure Path where
  source : Pipe UInt8
  enter : CopyOneWay
  tunnel : Pipe UInt8
  leave : CopyOneWay
  sink : Pipe UInt8

/-- Whether the side copies into the QUIC stream or out of it. -/
def Enters : Side → Way → Bool
  | .server, .inward => true
  | .client, .outward => true
  | _, _ => false

namespace Path

def new : Path := ⟨.empty, .reading, .empty, .reading, .empty⟩

/-- The call at the start of the path, or the one at its end. -/
def hop (p : Path) (enters : Bool) : Hop :=
  if enters then ⟨p.source, p.enter, p.tunnel⟩ else ⟨p.tunnel, p.leave, p.sink⟩

def setHop (p : Path) (enters : Bool) (h : Hop) : Path :=
  if enters then ⟨h.reader, h.copy, h.writer, p.leave, p.sink⟩
  else ⟨p.source, p.enter, h.reader, h.copy, h.writer⟩

end Path

/-- A stream that is relayed, by its two directions. -/
abbrev Stream := Way → Path

namespace Stream

def new : Stream := fun _ => .new

/-- The call of `copy_one_way` for the direction at the side. -/
def copy (s : Stream) (side : Side) (way : Way) : CopyOneWay :=
  ((s way).hop (Enters side way)).copy

/-- The result of `copy_bidirectional`, none while it runs. -/
def result (s : Stream) (side : Side) : Option Bool :=
  if s.copy side .inward = .dropped ∨ s.copy side .outward = .dropped then some false
  else if s.copy side .inward = .done ∧ s.copy side .outward = .done then some true
  else none

end Stream

inductive Event
  /-- The source of the direction writes. -/
  | send (way : Way) (bytes : List UInt8)
  /-- The source ends its direction. -/
  | close (way : Way)
  /-- The sink of the direction reads. -/
  | receive (way : Way) (n : ℕ)
  | copy (side : Side) (way : Way) (e : CopyEvent)
  /-- An error in one of the two directions, or the tunnel is shut down. -/
  | abort (side : Side)
deriving DecidableEq

/-- A step of the stream, where `window` bounds what is on its way after a write of a side. -/
def step (window : Side → Way → ℕ) (s : Stream) : Event → Option Stream
  | .send way bytes =>
    if (s way).source.shut = false then
      some (Function.update s way { s way with source := (s way).source.write bytes })
    else none
  | .close way => some (Function.update s way { s way with source := (s way).source.shutdown })
  | .receive way n =>
    if 0 < n ∧ n ≤ (s way).sink.pending.length then
      some (Function.update s way { s way with sink := (s way).sink.read n })
    else none
  | .copy side way e =>
    (((s way).hop (Enters side way)).step (window side way) e).map fun h =>
      Function.update s way ((s way).setHop (Enters side way) h)
  | .abort side =>
    if s.result side = none then
      -- `try_join!` drops the other direction, and the caller drops the streams
      some fun way => (s way).setHop (Enters side way) ((s way).hop (Enters side way)).abandon
    else none

/-! ## One call -/

/-- What a call of `copy_one_way` has done, by where it is. -/
def Hop.Relays (h : Hop) : Prop :=
  match h.copy with
  | .reading => Pipe.Holds h.reader h.writer [] ∧ h.writer.shut = false
  | .acquiring block | .writing block =>
    Pipe.Holds h.reader h.writer block ∧ block ≠ [] ∧ block.length ≤ BUFFER_SIZE ∧
      h.writer.shut = false
  | .shuttingDown => Pipe.Holds h.reader h.writer [] ∧ h.reader.AtEnd ∧ h.writer.shut = false
  | .done => Pipe.Holds h.reader h.writer [] ∧ h.reader.AtEnd ∧ h.writer.shut = true
  | .dropped => Pipe.Carries h.reader h.writer ∧ h.writer.shut = true

namespace Hop

variable {window : ℕ} {h h' : Hop} {e : CopyEvent}

/-- What the step of a call does. -/
lemma step_cases (hstep : h.step window e = some h') :
    (∃ n, e = .read n ∧ h.copy = .reading ∧ 0 < n ∧ n ≤ BUFFER_SIZE ∧
      n ≤ h.reader.pending.length ∧
      h' = ⟨h.reader.read n, .acquiring (h.reader.pending.take n), h.writer⟩) ∨
    (e = .eof ∧ h.copy = .reading ∧ h.reader.AtEnd ∧ h' = { h with copy := .shuttingDown }) ∨
    (∃ block, e = .acquired ∧ h.copy = .acquiring block ∧
      h' = { h with copy := .writing block }) ∨
    (∃ n rest, e = .written n ∧ h.copy = .writing rest ∧ 0 < n ∧ n ≤ rest.length ∧
      h.writer.pending.length + n ≤ window ∧
      h' = ⟨h.reader, if n = rest.length then .reading else .writing (rest.drop n),
        h.writer.write (rest.take n)⟩) ∨
    (e = .shutdown ∧ h.copy = .shuttingDown ∧ h' = ⟨h.reader, .done, h.writer.shutdown⟩) := by
  cases e with
  | read n =>
    simp only [step, Option.ite_none_right_eq_some, Option.some.injEq] at hstep
    obtain ⟨⟨hcopy, hpos, hle, hlen⟩, rfl⟩ := hstep
    exact Or.inl ⟨n, rfl, hcopy, hpos, hle, hlen, rfl⟩
  | eof =>
    simp only [step, Option.ite_none_right_eq_some, Option.some.injEq] at hstep
    obtain ⟨⟨hcopy, hend⟩, rfl⟩ := hstep
    exact Or.inr (Or.inl ⟨rfl, hcopy, hend, rfl⟩)
  | acquired =>
    simp only [step] at hstep
    split at hstep
    case h_1 block hcopy =>
      cases hstep
      exact Or.inr (Or.inr (Or.inl ⟨block, rfl, hcopy, rfl⟩))
    case h_2 => cases hstep
  | written n =>
    simp only [step] at hstep
    split at hstep
    case h_1 rest hcopy =>
      simp only [Option.ite_none_right_eq_some, Option.some.injEq] at hstep
      obtain ⟨⟨hpos, hle, hroom⟩, rfl⟩ := hstep
      exact Or.inr (Or.inr (Or.inr (Or.inl ⟨n, rest, rfl, hcopy, hpos, hle, hroom, rfl⟩)))
    case h_2 => cases hstep
  | shutdown =>
    simp only [step, Option.ite_none_right_eq_some, Option.some.injEq] at hstep
    obtain ⟨hcopy, rfl⟩ := hstep
    exact Or.inr (Or.inr (Or.inr (Or.inr ⟨rfl, hcopy, rfl⟩)))

lemma Relays.step (h₀ : h.Relays) (hstep : h.step window e = some h') : h'.Relays := by
  rcases step_cases hstep with ⟨n, -, hcopy, hpos, hle, hlen, rfl⟩ | ⟨-, hcopy, hend, rfl⟩ |
    ⟨block, -, hcopy, rfl⟩ | ⟨n, rest, -, hcopy, hpos, hle, -, rfl⟩ | ⟨-, hcopy, rfl⟩
  · simp only [Relays, hcopy] at h₀ ⊢
    refine ⟨h₀.1.read, ?_, ?_, h₀.2⟩
    · rw [← List.length_pos_iff, List.length_take]
      omega
    · rw [List.length_take]
      omega
  · simp only [Relays, hcopy] at h₀ ⊢
    exact ⟨h₀.1, hend, h₀.2⟩
  · simp only [Relays, hcopy] at h₀ ⊢
    exact h₀
  · simp only [Relays, hcopy] at h₀ ⊢
    obtain ⟨hholds, -, hlen, hshut⟩ := h₀
    have hwritten := hholds.write (n := n)
    by_cases hn : n = rest.length
    · rw [if_pos hn]
      rw [hn, List.drop_length] at hwritten
      exact ⟨hn ▸ hwritten, hshut⟩
    · rw [if_neg hn]
      refine ⟨hwritten, ?_, ?_, hshut⟩
      · rw [← List.length_pos_iff, List.length_drop]
        omega
      · rw [List.length_drop]
        omega
  · simp only [Relays, hcopy] at h₀ ⊢
    exact ⟨h₀.1, h₀.2.1, rfl⟩

lemma Relays.carries (h₀ : h.Relays) : Pipe.Carries h.reader h.writer := by
  unfold Relays at h₀
  split at h₀ <;> first | exact h₀.1.carries | exact h₀.1

lemma Relays.abandon (h₀ : h.Relays) : h.abandon.Relays := by
  by_cases hcopy : h.copy = .done
  · simp only [Relays, Hop.abandon, hcopy, if_true] at h₀ ⊢
    exact ⟨h₀.1, h₀.2.1, rfl⟩
  · simp only [Relays, Hop.abandon, if_neg hcopy]
    exact ⟨h₀.carries, rfl⟩

/-- A change of the reader that leaves what was read, and an end that was reached. -/
lemma Relays.of_reader {r : Pipe UInt8} (h₀ : h.Relays) (hgot : r.got = h.reader.got)
    (hend : h.reader.AtEnd → r.AtEnd) : (⟨r, h.copy, h.writer⟩ : Hop).Relays := by
  cases hcopy : h.copy <;>
    simp only [Relays, hcopy, Pipe.Holds, Pipe.Carries, hgot] at h₀ ⊢
  case shuttingDown => exact ⟨h₀.1, hend h₀.2.1, h₀.2.2⟩
  case done => exact ⟨h₀.1, hend h₀.2.1, h₀.2.2⟩
  all_goals exact h₀

/-- A change of the writer that leaves what was written. -/
lemma Relays.of_writer {w : Pipe UInt8} (h₀ : h.Relays) (hput : w.put = h.writer.put)
    (hshut : w.shut = h.writer.shut) : (⟨h.reader, h.copy, w⟩ : Hop).Relays := by
  cases hcopy : h.copy <;>
    simp only [Relays, hcopy, Pipe.Holds, Pipe.Carries, hput, hshut] at h₀ ⊢ <;> exact h₀

/-- What a call may do to the two pipes besides reading and writing itself. -/
structure Keeps (h h' : Hop) : Prop where
  put : h'.reader.put = h.reader.put
  readerShut : h'.reader.shut = h.reader.shut
  got : h'.writer.got = h.writer.got
  atEnd : h.writer.AtEnd → h'.writer.AtEnd

lemma Relays.keeps (h₀ : h.Relays) (hstep : h.step window e = some h') : h.Keeps h' := by
  rcases step_cases hstep with ⟨n, -, -, -, -, -, rfl⟩ | ⟨-, -, -, rfl⟩ | ⟨block, -, -, rfl⟩ |
    ⟨n, rest, -, hcopy, -, -, -, rfl⟩ | ⟨-, -, rfl⟩
  · exact ⟨rfl, rfl, rfl, id⟩
  · exact ⟨rfl, rfl, rfl, id⟩
  · exact ⟨rfl, rfl, rfl, id⟩
  · -- the writer has not been ended before
    simp only [Relays, hcopy] at h₀
    refine ⟨rfl, rfl, rfl, fun hend => ?_⟩
    rw [hend.1] at h₀
    exact absurd h₀.2.2.2 (by simp)
  · exact ⟨rfl, rfl, rfl, fun hend => ⟨rfl, hend.2⟩⟩

lemma keeps_abandon (h : Hop) : h.Keeps h.abandon := ⟨rfl, rfl, rfl, fun hend => ⟨rfl, hend.2⟩⟩

end Hop

/-! ## A direction -/

namespace Path

/-- Both calls of the direction relay. -/
def Relays (p : Path) : Prop := ∀ enters, (p.hop enters).Relays

variable {p : Path} {h : Hop} {enters : Bool}

lemma relays_new : new.Relays := by
  intro enters
  cases enters <;> exact ⟨Pipe.holds_empty, rfl⟩

lemma Relays.setHop (hp : p.Relays) (hkeeps : (p.hop enters).Keeps h) (hh : h.Relays) :
    (p.setHop enters h).Relays := by
  intro other
  cases enters <;> cases other
  · exact hh
  · exact (hp true).of_writer hkeeps.put hkeeps.readerShut
  · exact (hp false).of_reader hkeeps.got hkeeps.atEnd
  · exact hh

lemma Relays.abandon (hp : p.Relays) (enters : Bool) :
    (p.setHop enters (p.hop enters).abandon).Relays :=
  hp.setHop (Hop.keeps_abandon _) (hp enters).abandon

/-- The source acts while its direction is open, or ends it. -/
lemma Relays.source {source : Pipe UInt8} (hp : p.Relays) (hgot : source.got = p.source.got)
    (hend : p.source.AtEnd → source.AtEnd) : ({ p with source := source } : Path).Relays := by
  intro enters
  cases enters
  · exact hp false
  · exact (hp true).of_reader hgot hend

lemma Relays.sink {sink : Pipe UInt8} (hp : p.Relays) (hput : sink.put = p.sink.put)
    (hshut : sink.shut = p.sink.shut) : ({ p with sink := sink } : Path).Relays := by
  intro enters
  cases enters
  · exact (hp false).of_writer hput hshut
  · exact hp true

/-- What comes out is the start of what went in, in the same order. -/
lemma Relays.carries (hp : p.Relays) : Pipe.Carries p.source p.sink :=
  (hp true).carries.trans (hp false).carries

/-- A call that returned `Ok` has passed everything on. -/
lemma Relays.of_done (hp : p.Relays) (hdone : (p.hop enters).copy = .done) :
    (p.hop enters).reader.AtEnd ∧ (p.hop enters).writer.put = (p.hop enters).reader.put ∧
      (p.hop enters).writer.shut = true := by
  have hrelays := hp enters
  simp only [Hop.Relays, hdone] at hrelays
  exact ⟨hrelays.2.1, hrelays.1.put_eq hrelays.2.1, hrelays.2.2⟩

/-- A writer that was ended was ended by a call that returned `Ok`, or by one that was dropped. -/
lemma Relays.of_shut (hp : p.Relays) (hshut : (p.hop enters).writer.shut = true) :
    (p.hop enters).copy = .done ∨ (p.hop enters).copy = .dropped := by
  have hrelays := hp enters
  cases hcopy : (p.hop enters).copy <;>
    simp only [Hop.Relays, hcopy, hshut, Bool.true_eq_false, and_false] at hrelays
  case done => exact Or.inl rfl
  case dropped => exact Or.inr rfl

end Path

/-! ## A stream -/

namespace Stream

variable {window : Side → Way → ℕ} {s s' : Stream} {way : Way} {side : Side} {e : Event}

def Relays (s : Stream) : Prop := ∀ way, (s way).Relays

lemma relays_new : new.Relays := fun _ => Path.relays_new

lemma Relays.update {p : Path} (hs : s.Relays) (hp : p.Relays) :
    Stream.Relays (Function.update s way p) := by
  intro other
  by_cases heq : other = way
  · subst heq
    rwa [Function.update_self]
  · rw [Function.update_of_ne heq]
    exact hs other

lemma Relays.step (hs : s.Relays) (hstep : step window s e = some s') : s'.Relays := by
  cases e with
  | send way bytes =>
    simp only [Relay.step, Option.ite_none_right_eq_some, Option.some.injEq] at hstep
    obtain ⟨hopen, rfl⟩ := hstep
    refine hs.update ((hs way).source rfl fun hend => ?_)
    exact absurd (hend.1.symm.trans hopen) (by simp)
  | close way =>
    simp only [Relay.step, Option.some.injEq] at hstep
    subst hstep
    exact hs.update ((hs way).source rfl fun hend => ⟨rfl, hend.2⟩)
  | receive way n =>
    simp only [Relay.step, Option.ite_none_right_eq_some, Option.some.injEq] at hstep
    obtain ⟨-, rfl⟩ := hstep
    exact hs.update ((hs way).sink rfl rfl)
  | copy side way e =>
    simp only [Relay.step, Option.map_eq_some_iff] at hstep
    obtain ⟨h, hh, rfl⟩ := hstep
    exact hs.update ((hs way).setHop ((hs way _).keeps hh) ((hs way _).step hh))
  | abort side =>
    simp only [Relay.step, Option.ite_none_right_eq_some, Option.some.injEq] at hstep
    obtain ⟨-, rfl⟩ := hstep
    exact fun way => (hs way).abandon _

lemma relays_of_reach {ok : Stream → Event → Prop} (h : Reach (Relay.step window) ok new s) :
    s.Relays :=
  h.invariant relays_new fun _ _ _ hs _ hstep => hs.step hstep

lemma copy_eq_done (hresult : s.result side = some true) (way : Way) :
    s.copy side way = .done := by
  unfold result at hresult
  split_ifs at hresult with hdropped hdone
  · cases hresult
  · cases way
    · exact hdone.1
    · exact hdone.2

lemma copy_ne_dropped (hresult : s.result side ≠ some false) (way : Way) :
    s.copy side way ≠ .dropped := by
  intro hdropped
  refine hresult (if_pos ?_)
  cases way
  · exact Or.inl hdropped
  · exact Or.inr hdropped

/-- Each call of a direction is at one of the sides. -/
lemma exists_side (way : Way) (enters : Bool) : ∃ side, Enters side way = enters := by
  cases way <;> cases enters
  · exact ⟨.client, rfl⟩
  · exact ⟨.server, rfl⟩
  · exact ⟨.server, rfl⟩
  · exact ⟨.client, rfl⟩

/-- Neither call of `copy_bidirectional` has failed or was dropped. -/
def Unbroken (s : Stream) : Prop := ∀ side, s.result side ≠ some false

lemma Unbroken.copy_ne (hs : s.Unbroken) (way : Way) (enters : Bool) :
    ((s way).hop enters).copy ≠ .dropped := by
  obtain ⟨side, rfl⟩ := exists_side way enters
  exact copy_ne_dropped (hs side) way

/-- **What comes out of a relayed stream.**  Whatever the order of the events, however the bytes are
cut into blocks, and wherever the two relays fail: in each direction the sink receives the start of
what the source has sent, in the same order.  As long as no relay has failed, the sink sees the end
of its connection only behind all that the source has sent before its own end.  When both relays
have returned `Ok`, both directions have been handed over as a whole and are ended. -/
theorem relayed (h : Reach (Relay.step window) Always new s) (way : Way) :
    (s way).sink.got <+: (s way).sink.put ∧ (s way).sink.put <+: (s way).source.put ∧
      (s.Unbroken → (s way).sink.AtEnd →
        (s way).source.shut = true ∧ (s way).sink.got = (s way).source.put) ∧
      ((∀ side, s.result side = some true) →
        (s way).source.shut = true ∧ (s way).sink.put = (s way).source.put ∧
          (s way).sink.shut = true) := by
  have hp : (s way).Relays := relays_of_reach h way
  have hdone : (∀ enters, ((s way).hop enters).copy = .done) →
      (s way).source.shut = true ∧ (s way).sink.put = (s way).source.put ∧
        (s way).sink.shut = true := by
    intro hboth
    obtain ⟨hsource, htunnel, -⟩ := hp.of_done (hboth true)
    obtain ⟨-, hsink, hshut⟩ := hp.of_done (hboth false)
    exact ⟨hsource.1, hsink.trans htunnel, hshut⟩
  refine ⟨(s way).sink.inOrder, hp.carries.put_le, fun hunbroken hend => ?_, fun hresults => ?_⟩
  · have hsink : ((s way).hop false).writer.shut = true := hend.1
    have hleave : ((s way).hop false).copy = .done :=
      (hp.of_shut hsink).resolve_right (hunbroken.copy_ne way false)
    have htunnel : ((s way).hop true).writer.shut = true := (hp.of_done hleave).1.1
    have henter : ((s way).hop true).copy = .done :=
      (hp.of_shut htunnel).resolve_right (hunbroken.copy_ne way true)
    obtain ⟨hshut, hput, -⟩ := hdone fun enters => by cases enters <;> assumption
    exact ⟨hshut, (Pipe.pending_eq_nil.mp hend.2).trans hput⟩
  · refine hdone fun enters => ?_
    obtain ⟨side, rfl⟩ := exists_side way enters
    exact copy_eq_done (hresults side) way

/-- Three bytes in two blocks, and both directions ended. -/
def wholeRun : List Event :=
  [.send .inward [1, 2, 3], .copy .server .inward (.read 2), .copy .server .inward .acquired,
    .close .inward, .copy .server .inward (.written 2), .copy .server .inward (.read 1),
    .copy .client .inward (.read 2), .copy .server .inward .acquired,
    .copy .server .inward (.written 1), .copy .client .inward .acquired,
    .copy .client .inward (.written 2), .copy .client .inward (.read 1),
    .copy .client .inward .acquired, .copy .client .inward (.written 1),
    .copy .server .inward .eof, .copy .server .inward .shutdown, .receive .inward 3,
    .close .outward, .copy .client .inward .eof, .copy .client .inward .shutdown,
    .copy .client .outward .eof, .copy .client .outward .shutdown,
    .copy .server .outward .eof, .copy .server .outward .shutdown]

theorem relayed_whole : ∃ s, exec (Relay.step fun _ _ => 3) Always new wholeRun = some s ∧
    (∀ side, s.result side = some true) ∧ (s .inward).sink.got = [1, 2, 3] ∧
    (s .inward).source.shut = true ∧ (s .inward).sink.put = (s .inward).source.put := by
  obtain ⟨s, hs⟩ := Option.isSome_iff_exists.mp
    (show (exec (Relay.step fun _ _ => 3) Always new wholeRun).isSome from by decide +kernel)
  have hall : (exec (Relay.step fun _ _ => 3) Always new wholeRun).map
      (fun s => (s.result .server, s.result .client, (s .inward).sink.got)) =
        some (some true, some true, [1, 2, 3]) := by decide +kernel
  rw [hs, Option.map_some, Option.some_inj, Prod.mk.injEq, Prod.mk.injEq] at hall
  have hresults : ∀ side, s.result side = some true := by
    rintro (_ | _)
    · exact hall.1
    · exact hall.2.1
  obtain ⟨-, -, -, hwhole⟩ := relayed (reach_of_exec hs) .inward
  obtain ⟨hshut, hput, -⟩ := hwhole hresults
  exact ⟨s, hs, hresults, hall.2.2, hshut, hput⟩

/-- A relay that fails finishes its stream, and the sink takes that for the end of the source. -/
example : (exec (Relay.step fun _ _ => 3) Always new
    [.send .inward [1, 2], .copy .server .inward (.read 1), .copy .server .inward .acquired,
      .copy .server .inward (.written 1), .abort .server, .copy .client .inward (.read 1),
      .copy .client .inward .acquired, .copy .client .inward (.written 1),
      .copy .client .inward .eof, .copy .client .inward .shutdown, .receive .inward 1]).map
      (fun s => (decide (s .inward).sink.AtEnd, (s .inward).sink.got, (s .inward).source.put)) =
    some (true, [1], [1, 2]) := by
  decide +kernel

end Stream

end GateRust.Tunnel.Relay
