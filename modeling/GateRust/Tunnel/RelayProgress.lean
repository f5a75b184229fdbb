/-
# A relayed stream does not stall

Each step of a call of `copy_one_way`, and each read of a sink, brings some bytes closer to the end
of their direction.  This bounds the number of such steps between two events at the sources; and
where none of them is possible any more, everything has arrived.  The two directions do not wait for
each other.
-/
import GateRust.Tunnel.Relay

namespace GateRust.Tunnel.Relay

open Machine

/-! ## The work of a direction -/

/-- The steps that a call still has to make for what it holds, where a byte in the pipe of its
writer takes `weight` steps more. -/
def CopyOneWay.work (weight : ℕ) : CopyOneWay → ℕ
  | .reading => 2
  | .acquiring block => 2 + (weight + 2) * block.length
  | .writing rest => 2 + (weight + 1) * rest.length
  | .shuttingDown => 1
  | .done | .dropped => 0

def Hop.work (weight : ℕ) (h : Hop) : ℕ :=
  (weight + 3) * h.reader.pending.length + h.copy.work weight + weight * h.writer.pending.length

/-- A call makes its work smaller, and is not dropped by its own steps. -/
lemma Hop.Relays.work_lt {window weight : ℕ} {h h' : Hop} {e : CopyEvent} (h₀ : h.Relays)
    (hstep : h.step window e = some h') : h'.work weight < h.work weight := by
  rcases Hop.step_cases hstep with ⟨n, -, hcopy, hpos, -, hlen, rfl⟩ | ⟨-, hcopy, -, rfl⟩ |
    ⟨block, -, hcopy, rfl⟩ | ⟨n, rest, -, hcopy, hpos, hle, -, rfl⟩ | ⟨-, hcopy, rfl⟩
  · obtain ⟨m, hm⟩ := Nat.exists_eq_add_of_le hlen
    have hdrop : (h.reader.read n).pending.length = m := by
      rw [Pipe.pending_read, List.length_drop]
      omega
    have htake : (h.reader.pending.take n).length = n := List.length_take_of_le hlen
    simp only [Hop.work, CopyOneWay.work, hcopy, hdrop, htake, hm, Nat.add_mul, Nat.mul_add]
    omega
  · simp only [Hop.work, CopyOneWay.work, hcopy]
    omega
  · simp only [Hop.Relays, hcopy] at h₀
    have hne : 0 < block.length := List.length_pos_iff.mpr h₀.2.1
    simp only [Hop.work, CopyOneWay.work, hcopy, Nat.add_mul]
    omega
  · obtain ⟨m, hm⟩ := Nat.exists_eq_add_of_le hle
    have hput : (h.writer.write (rest.take n)).pending.length = h.writer.pending.length + n := by
      rw [Pipe.pending_write, List.length_append, List.length_take_of_le hle]
    have hrest : (if n = rest.length then CopyOneWay.reading else .writing (rest.drop n)).work
        weight = 2 + (weight + 1) * m := by
      split_ifs with hn
      · have hm0 : m = 0 := by omega
        rw [hm0]
        rfl
      · have hdrop : (rest.drop n).length = m := by
          rw [List.length_drop]
          omega
        rw [CopyOneWay.work, hdrop]
    simp only [Hop.work, hput, hrest, hcopy]
    simp only [CopyOneWay.work, hm, Nat.add_mul, Nat.mul_add]
    omega
  · simp only [Hop.work, CopyOneWay.work, hcopy, Pipe.pending_shutdown]
    omega

lemma Hop.copy_ne_of_step {window : ℕ} {h h' : Hop} {e : CopyEvent}
    (hstep : h.step window e = some h') : h'.copy ≠ .dropped := by
  rcases Hop.step_cases hstep with ⟨n, -, -, -, -, -, rfl⟩ | ⟨-, -, -, rfl⟩ | ⟨block, -, -, rfl⟩ |
    ⟨n, rest, -, -, -, -, -, rfl⟩ | ⟨-, -, rfl⟩
  · exact CopyOneWay.noConfusion
  · exact CopyOneWay.noConfusion
  · exact CopyOneWay.noConfusion
  · dsimp only
    split_ifs <;> exact CopyOneWay.noConfusion
  · exact CopyOneWay.noConfusion

namespace Path

variable {p : Path}

/-- The steps that the direction can still make without its source. -/
def work (p : Path) : ℕ :=
  7 * p.source.pending.length + p.enter.work 4 + 4 * p.tunnel.pending.length + p.leave.work 1 +
    p.sink.pending.length

lemma work_setHop {window : ℕ} {h : Hop} {enters : Bool} {e : CopyEvent} (hp : p.Relays)
    (hstep : (p.hop enters).step window e = some h) : (p.setHop enters h).work < p.work := by
  cases enters
  · have hlt : h.work 1 < (p.hop false).work 1 := (hp false).work_lt hstep
    simp only [Hop.work, hop, Bool.false_eq_true, if_false] at hlt
    simp only [work, setHop, Bool.false_eq_true, if_false]
    omega
  · have hlt : h.work 4 < (p.hop true).work 4 := (hp true).work_lt hstep
    simp only [Hop.work, hop, if_true] at hlt
    simp only [work, setHop, if_true]
    omega

lemma work_receive {n : ℕ} (hpos : 0 < n) (hle : n ≤ p.sink.pending.length) :
    ({ p with sink := p.sink.read n } : Path).work < p.work := by
  simp only [work, Pipe.pending_read, List.length_drop]
  omega

lemma source_setHop {h : Hop} {enters : Bool} (hkeeps : (p.hop enters).Keeps h) :
    (p.setHop enters h).source.put = p.source.put ∧
      (p.setHop enters h).source.shut = p.source.shut := by
  cases enters
  · exact ⟨rfl, rfl⟩
  · exact ⟨hkeeps.put, hkeeps.readerShut⟩

/-- No call of the direction was dropped. -/
def Kept (p : Path) : Prop := ∀ enters, (p.hop enters).copy ≠ .dropped

lemma Kept.setHop {enters : Bool} {h : Hop} (hp : p.Kept) (hh : h.copy ≠ .dropped) :
    (p.setHop enters h).Kept := by
  intro other
  cases enters <;> cases other
  · exact hh
  · exact hp true
  · exact hp false
  · exact hh

end Path

/-! ## Where a direction rests -/

/-- A call of `copy_one_way` that can go no further, although its writer has room: it waits for its
reader, or has ended, or was dropped. -/
lemma Hop.Relays.at_rest {window : ℕ} {h : Hop} (h₀ : h.Relays) (hcopy : h.copy ≠ .dropped)
    (hroom : h.writer.pending.length < window) (hstuck : ∀ e, h.step window e = none) :
    h.reader.pending = [] ∧ h.writer.put = h.reader.put ∧
      (h.reader.shut = true ↔ h.writer.shut = true) := by
  cases hphase : h.copy with
  | reading =>
    have hpending : h.reader.pending = [] := by
      by_contra hne
      have hlen : 1 ≤ h.reader.pending.length := List.length_pos_iff.mpr hne
      have hread := hstuck (.read 1)
      rw [Hop.step, if_pos ⟨hphase, Nat.one_pos, by decide, hlen⟩] at hread
      cases hread
    have hopen : h.reader.shut ≠ true := by
      intro hshut
      have heof := hstuck .eof
      rw [Hop.step, if_pos ⟨hphase, hshut, hpending⟩] at heof
      cases heof
    simp only [Hop.Relays, hphase] at h₀
    have hgot : h.writer.put = h.reader.got := by simpa [Pipe.Holds] using h₀.1
    exact ⟨hpending, hgot.trans (Pipe.pending_eq_nil.mp hpending), by simp [hopen, h₀.2]⟩
  | acquiring block =>
    have hacquired := hstuck .acquired
    simp only [Hop.step, hphase, reduceCtorEq] at hacquired
  | writing rest =>
    simp only [Hop.Relays, hphase] at h₀
    have hlen : 1 ≤ rest.length := List.length_pos_iff.mpr h₀.2.1
    have hwritten := hstuck (.written 1)
    simp only [Hop.step, hphase] at hwritten
    rw [if_pos ⟨Nat.one_pos, hlen, hroom⟩] at hwritten
    cases hwritten
  | shuttingDown =>
    have hshutdown := hstuck .shutdown
    rw [Hop.step, if_pos hphase] at hshutdown
    cases hshutdown
  | done =>
    simp only [Hop.Relays, hphase] at h₀
    exact ⟨h₀.2.1.2, h₀.1.put_eq h₀.2.1, by simp [h₀.2.1.1, h₀.2.2]⟩
  | dropped => exact absurd hphase hcopy

namespace Stream

variable {window : Side → Way → ℕ} {s s' : Stream} {way : Way}

/-- The steps of one direction without its source. -/
def Progress (way : Way) (_ : Stream) : Event → Prop
  | .copy _ way' _ | .receive way' _ => way' = way
  | _ => False

instance (way : Way) (s : Stream) (e : Event) : Decidable (Progress way s e) := by
  cases e <;> unfold Progress <;> infer_instance

/-- A step of the direction keeps what holds of it, and makes its work smaller; its source and the
other direction are as they were. -/
lemma progress_step {e : Event} (hs : (s way).Relays) (hkept : (s way).Kept)
    (hprogress : Progress way s e) (hstep : Relay.step window s e = some s') :
    ((s' way).Relays ∧ (s' way).Kept) ∧ (s' way).work < (s way).work ∧
      (s' way).source.put = (s way).source.put ∧ (s' way).source.shut = (s way).source.shut ∧
      ∀ other ≠ way, s' other = s other := by
  cases e with
  | send | close | abort => exact hprogress.elim
  | receive way' n =>
    obtain rfl : way' = way := hprogress
    simp only [Relay.step, Option.ite_none_right_eq_some, Option.some.injEq] at hstep
    obtain ⟨⟨hpos, hle⟩, rfl⟩ := hstep
    rw [Function.update_self]
    refine ⟨⟨hs.sink rfl rfl, fun enters => ?_⟩, Path.work_receive hpos hle, rfl, rfl,
      fun other hne => Function.update_of_ne hne _ _⟩
    cases enters
    · exact hkept false
    · exact hkept true
  | copy side way' e =>
    obtain rfl : way' = way := hprogress
    simp only [Relay.step, Option.map_eq_some_iff] at hstep
    obtain ⟨h, hh, rfl⟩ := hstep
    have hkeeps := (hs _).keeps hh
    rw [Function.update_self]
    exact ⟨⟨hs.setHop hkeeps ((hs _).step hh), hkept.setHop (Hop.copy_ne_of_step hh)⟩,
      Path.work_setHop hs hh, (Path.source_setHop hkeeps).1, (Path.source_setHop hkeeps).2,
      fun other hne => Function.update_of_ne hne _ _⟩

/-- Where no step of the direction is possible, everything has arrived. -/
lemma delivered (hs : (s way).Relays) (hkept : (s way).Kept)
    (hwindow : ∀ side, 0 < window side way)
    (hstuck : ∀ e, Progress way s e → Relay.step window s e = none) :
    (s way).sink.got = (s way).source.put ∧
      ((s way).source.shut = true → (s way).sink.AtEnd) := by
  have hsink : (s way).sink.pending = [] := by
    by_contra hne
    have hlen : 1 ≤ (s way).sink.pending.length := List.length_pos_iff.mpr hne
    have hreceive := hstuck (.receive way 1) rfl
    rw [Relay.step, if_pos ⟨Nat.one_pos, hlen⟩] at hreceive
    cases hreceive
  have hrest : ∀ enters side, Enters side way = enters →
      ∀ e, ((s way).hop enters).step (window side way) e = none := by
    rintro enters side rfl e
    have hcopy := hstuck (.copy side way e) rfl
    simpa only [Relay.step, Option.map_eq_none_iff] using hcopy
  obtain ⟨leaving, hleaving⟩ := exists_side way false
  obtain ⟨entering, hentering⟩ := exists_side way true
  have hroom : ((s way).hop false).writer.pending.length < window leaving way := by
    rw [show ((s way).hop false).writer.pending = [] from hsink]
    exact hwindow leaving
  obtain ⟨htunnel, hleft, hends⟩ :=
    (hs false).at_rest (hkept false) hroom (hrest false leaving hleaving)
  have hroom' : ((s way).hop true).writer.pending.length < window entering way := by
    rw [show ((s way).hop true).writer.pending = [] from htunnel]
    exact hwindow entering
  obtain ⟨-, hentered, hends'⟩ :=
    (hs true).at_rest (hkept true) hroom' (hrest true entering hentering)
  refine ⟨?_, fun hshut => ⟨hends.mp (hends'.mp hshut), hsink⟩⟩
  calc (s way).sink.got = (s way).sink.put := Pipe.pending_eq_nil.mp hsink
    _ = (s way).tunnel.put := hleft
    _ = (s way).source.put := hentered

/-- What is kept along the steps of one direction that begin in `s`. -/
def Advanced (way : Way) (s s' : Stream) : Prop :=
  ((s' way).Relays ∧ (s' way).Kept) ∧ (s' way).source.put = (s way).source.put ∧
    (s' way).source.shut = (s way).source.shut ∧ ∀ other ≠ way, s' other = s other

lemma Advanced.step {t t' : Stream} {e : Event} (h : Advanced way s t)
    (hprogress : Progress way t e) (hstep : Relay.step window t e = some t') :
    Advanced way s t' ∧ (t' way).work < (t way).work := by
  obtain ⟨⟨hrelays, hkept⟩, hput, hshut, hother⟩ := h
  obtain ⟨hkeeps, hlt, hput', hshut', hother'⟩ := progress_step hrelays hkept hprogress hstep
  exact ⟨⟨hkeeps, hput'.trans hput, hshut'.trans hshut,
    fun other hne => (hother' other hne).trans (hother other hne)⟩, hlt⟩

/-- **Each direction of a relayed stream arrives.**  From every reachable state in which no relay
has failed, the calls and the sink of one direction can make at most as many steps as its work,
whatever their order, and the other direction has no part in it.  Where no such step is left, the
sink has received all that the source has sent, and its end if the source has ended; and this point
can be reached from wherever the steps have led. -/
theorem arrives (hreach : Reach (Relay.step window) Always new s) (hunbroken : s.Unbroken)
    (way : Way) (hwindow : ∀ side, 0 < window side way) (events : List Event)
    (hexec : exec (Relay.step window) (Progress way) s events = some s') :
    events.length ≤ (s way).work ∧ (∀ other ≠ way, s' other = s other) ∧
      ((∀ e, Progress way s' e → Relay.step window s' e = none) →
        (s' way).sink.got = (s way).source.put ∧
          ((s way).source.shut = true → (s' way).sink.AtEnd)) ∧
      ∃ more s'', exec (Relay.step window) (Progress way) s' more = some s'' ∧
        ∀ e, Progress way s'' e → Relay.step window s'' e = none := by
  have hstart : Advanced way s s :=
    ⟨⟨relays_of_reach hreach way, hunbroken.copy_ne way⟩, rfl, rfl, fun _ _ => rfl⟩
  have hmeasure : ∀ t e t', Advanced way s t → Progress way t e →
      Relay.step window t e = some t' → Advanced way s t' ∧ (t' way).work < (t way).work :=
    fun _ _ _ ht hprogress hstep => ht.step hprogress hstep
  obtain ⟨hadvanced, hle⟩ := exec_length_le hmeasure hstart hexec
  obtain ⟨⟨hrelays, hkept⟩, hput, hshut, hother⟩ := hadvanced
  refine ⟨by omega, hother, fun hstuck => ?_, ?_⟩
  · rw [← hput, ← hshut]
    exact delivered hrelays hkept hwindow hstuck
  · exact exists_exec_stuck hmeasure ⟨⟨hrelays, hkept⟩, hput, hshut, hother⟩

/-- A byte is on its way inwards, and the outward direction is still open. -/
theorem arrives_sample : ∃ s s',
    exec (Relay.step fun _ _ => 1) (Progress .inward) s
      [.copy .server .inward .acquired, .copy .server .inward (.written 1)] = some s' ∧
    2 ≤ (s .inward).work ∧ s' .outward = s .outward ∧
    ∃ more s'', exec (Relay.step fun _ _ => 1) (Progress .inward) s' more = some s'' ∧
      ∀ e, Progress .inward s'' e → Relay.step (fun _ _ => 1) s'' e = none := by
  obtain ⟨s, hs⟩ := Option.isSome_iff_exists.mp (show (exec (Relay.step fun _ _ => 1) Always new
    [.send .inward [7], .copy .server .inward (.read 1)]).isSome from by decide +kernel)
  have hunbroken : s.Unbroken := by
    have hall : (exec (Relay.step fun _ _ => 1) Always new
        [.send .inward [7], .copy .server .inward (.read 1)]).map
          (fun s => (s.result .server, s.result .client)) = some (none, none) := by decide +kernel
    rw [hs, Option.map_some, Option.some_inj, Prod.mk.injEq] at hall
    rintro (_ | _)
    · simp [hall.1]
    · simp [hall.2]
  have hsome : ((exec (Relay.step fun _ _ => 1) Always new
      [.send .inward [7], .copy .server .inward (.read 1)]).bind fun s =>
        exec (Relay.step fun _ _ => 1) (Progress .inward) s
          [.copy .server .inward .acquired, .copy .server .inward (.written 1)]).isSome := by
    decide +kernel
  rw [hs, Option.bind_some] at hsome
  obtain ⟨s', hs'⟩ := Option.isSome_iff_exists.mp hsome
  obtain ⟨hle, hother, -, hmore⟩ :=
    arrives (reach_of_exec hs) hunbroken .inward (fun _ => Nat.one_pos) _ hs'
  exact ⟨s, s', hs', hle, hother .outward (by decide), hmore⟩

end Stream

end GateRust.Tunnel.Relay
