/-
# Length-prefixed frames on a byte stream

A frame is the length of a payload, as a big-endian number of a fixed width, followed by
the payload.  A reader takes the bytes of a frame from a stream as they arrive; a call that
has taken some of them keeps them in its own state until the frame is complete.

`Progress` is the state of one read call, and `Format.poll` is what a call does with the
bytes that are available.  The main result is `Format.poll_spec`: on a stream that starts
with a frame, a poll either completes with the payload of that frame and leaves the rest of
the stream, or takes everything that is available.
-/
import Mathlib.Data.List.Basic
import Mathlib.Tactic.Ring
import Mathlib.Tactic.Common

namespace Framing

/-! ## Big-endian numbers -/

/-- The `w` bytes of `n`, the most significant first. -/
def toBE : ℕ → ℕ → List UInt8
  | 0, _ => []
  | w + 1, n => UInt8.ofNat (n / 256 ^ w) :: toBE w n

/-- The number that a list of bytes denotes, the most significant byte first. -/
def ofBE : List UInt8 → ℕ
  | [] => 0
  | b :: bs => b.toNat * 256 ^ bs.length + ofBE bs

@[simp] lemma length_toBE (w n : ℕ) : (toBE w n).length = w := by
  induction w with
  | zero => rfl
  | succ w ih => simp [toBE, ih]

lemma ofBE_toBE_mod (w n : ℕ) : ofBE (toBE w n) = n % 256 ^ w := by
  induction w with
  | zero => simp [toBE, ofBE, Nat.mod_one]
  | succ w ih =>
    have hbyte : (UInt8.ofNat (n / 256 ^ w)).toNat = n / 256 ^ w % 256 := by simp
    rw [toBE, ofBE, ih, length_toBE, hbyte, pow_succ, Nat.mod_mul]
    ring

lemma ofBE_toBE {w n : ℕ} (h : n < 256 ^ w) : ofBE (toBE w n) = n := by
  rw [ofBE_toBE_mod, Nat.mod_eq_of_lt h]

/-! ## Frames and read calls -/

/-- A frame format: the width of the length field and the largest length a reader accepts. -/
structure Format where
  /-- The number of bytes of the length field. -/
  width : ℕ
  /-- The largest payload length. -/
  limit : ℕ
  width_pos : 0 < width
  limit_lt : limit < 256 ^ width

/-- The state of a read call that has not completed. -/
inductive Progress where
  /-- The bytes of the length field taken so far. -/
  | header (taken : List UInt8)
  /-- The length that was read and the payload bytes taken so far. -/
  | body (length : ℕ) (taken : List UInt8)
deriving DecidableEq, Repr

/-- The state of a read call that has taken nothing. -/
def Progress.start : Progress := .header []

/-- The result of polling a read call. -/
inductive Polled where
  | pending (p : Progress)
  | ready (payload : List UInt8)
  | oversized
deriving DecidableEq, Repr

namespace Format

variable (F : Format)

/-- The bytes of the frame with the given payload. -/
def frame (payload : List UInt8) : List UInt8 := toBE F.width payload.length ++ payload

/-- Continue the read of a payload with the available bytes; the second component is what
is left of them. -/
def pollBody (length : ℕ) (taken bytes : List UInt8) : Polled × List UInt8 :=
  let need := length - taken.length
  let taken' := taken ++ bytes.take need
  if taken'.length < length then (.pending (.body length taken'), bytes.drop need)
  else (.ready taken', bytes.drop need)

/-- Continue a read call with the available bytes. -/
def poll : Progress → List UInt8 → Polled × List UInt8
  | .header taken, bytes =>
    let need := F.width - taken.length
    let taken' := taken ++ bytes.take need
    if taken'.length < F.width then (.pending (.header taken'), bytes.drop need)
    else if F.limit < ofBE taken' then (.oversized, bytes.drop need)
    else pollBody (ofBE taken') [] (bytes.drop need)
  | .body length taken, bytes => pollBody length taken bytes

/-- The bytes that a read call has taken from the stream. -/
def consumed : Progress → List UInt8
  | .header taken => taken
  | .body length taken => toBE F.width length ++ taken

/-- The states of a read call between two polls. -/
def Partial : Progress → Prop
  | .header taken => taken.length < F.width
  | .body length taken => length ≤ F.limit ∧ taken.length < length

@[simp] lemma consumed_start : F.consumed .start = [] := rfl

lemma partial_start : F.Partial .start := F.width_pos

variable {F}

/-- Where a stream splits into `A` and `B` inside the available bytes, the first of these
complete `A` and the others begin `B`. -/
lemma split_available {taken bytes later A B : List UInt8} (htaken : taken.length ≤ A.length)
    (havail : A.length ≤ taken.length + bytes.length)
    (h : taken ++ bytes ++ later = A ++ B) :
    taken ++ bytes.take (A.length - taken.length) = A ∧
      bytes.drop (A.length - taken.length) ++ later = B := by
  have hcut : (taken ++ bytes.take (A.length - taken.length)) ++
      (bytes.drop (A.length - taken.length) ++ later) = A ++ B := by
    rw [← h, List.append_assoc, ← List.append_assoc (bytes.take _), List.take_append_drop,
      List.append_assoc]
  exact List.append_inj hcut (by simp only [List.length_append, List.length_take]; omega)

/-- Reading a payload: if the stream continues with the rest of the payload, the poll
completes it or takes all the available bytes. -/
lemma pollBody_spec {payload taken bytes later tail : List UInt8}
    (htaken : taken.length ≤ payload.length)
    (h : taken ++ bytes ++ later = payload ++ tail) :
    (∃ rest, pollBody payload.length taken bytes = (.ready payload, rest) ∧
        rest ++ later = tail) ∨
      (taken.length + bytes.length < payload.length ∧
        pollBody payload.length taken bytes =
          (.pending (.body payload.length (taken ++ bytes)), [])) := by
  by_cases hlt : taken.length + bytes.length < payload.length
  · right
    have htake : bytes.take (payload.length - taken.length) = bytes :=
      List.take_of_length_le (by omega)
    have hdrop : bytes.drop (payload.length - taken.length) = [] :=
      List.drop_of_length_le (by omega)
    refine ⟨hlt, ?_⟩
    simp [pollBody, htake, hdrop, hlt]
  · left
    obtain ⟨hpayload, hrest⟩ := split_available htaken (by omega) h
    refine ⟨bytes.drop (payload.length - taken.length), ?_, hrest⟩
    simp [pollBody, hpayload]

/-- **One poll of a read call.**  If the bytes taken so far, the available bytes and the
bytes to come are a frame followed by `tail`, a poll completes with the payload and leaves
`tail`, or takes all the available bytes and stays a partial read of the same frame. -/
theorem poll_spec {p : Progress} {payload bytes later tail : List UInt8}
    (hp : F.Partial p) (hlimit : payload.length ≤ F.limit)
    (h : F.consumed p ++ bytes ++ later = F.frame payload ++ tail) :
    (∃ rest, F.poll p bytes = (.ready payload, rest) ∧ rest ++ later = tail) ∨
      (∃ p', F.poll p bytes = (.pending p', []) ∧ F.Partial p' ∧
        F.consumed p' = F.consumed p ++ bytes) := by
  have hval : ofBE (toBE F.width payload.length) = payload.length :=
    ofBE_toBE (lt_of_le_of_lt hlimit F.limit_lt)
  cases p with
  | header taken =>
    have htaken : taken.length < F.width := hp
    simp only [consumed, frame] at h
    by_cases hlt : taken.length + bytes.length < F.width
    · right
      have htake : bytes.take (F.width - taken.length) = bytes :=
        List.take_of_length_le (by omega)
      have hdrop : bytes.drop (F.width - taken.length) = [] :=
        List.drop_of_length_le (by omega)
      refine ⟨.header (taken ++ bytes), ?_, ?_, rfl⟩
      · simp [poll, htake, hdrop, hlt]
      · simpa [Partial] using hlt
    · -- the length field is complete, and is the length of the payload
      rw [List.append_assoc _ payload] at h
      obtain ⟨hhead, hrest⟩ := split_available (by simpa using le_of_lt htaken)
        (by simpa using hlt) h
      rw [length_toBE] at hhead hrest
      have hpoll : F.poll (.header taken) bytes
          = pollBody payload.length [] (bytes.drop (F.width - taken.length)) := by
        simp only [poll, hhead, length_toBE, lt_irrefl, if_false, hval,
          if_neg (Nat.not_lt.mpr hlimit)]
      rw [hpoll]
      have hbody : ([] : List UInt8) ++ bytes.drop (F.width - taken.length) ++ later
          = payload ++ tail := hrest
      rcases pollBody_spec (Nat.zero_le _) hbody with hready | ⟨hlen, hpend⟩
      · exact Or.inl hready
      · right
        refine ⟨_, hpend, ⟨hlimit, by simpa using hlen⟩, ?_⟩
        rw [consumed, consumed, List.nil_append, ← hhead, List.append_assoc,
          List.take_append_drop]
  | body length taken =>
    obtain ⟨hle, htaken⟩ := hp
    simp only [consumed, frame, List.append_assoc] at h
    -- the length that was read is the length of the payload
    obtain ⟨hlenEq, hbody⟩ := List.append_inj h (by simp)
    have hlen : length = payload.length := by
      rw [← hval, ← hlenEq, ofBE_toBE (lt_of_le_of_lt hle F.limit_lt)]
    subst hlen
    rw [← List.append_assoc] at hbody
    rcases pollBody_spec (le_of_lt htaken) hbody with hready | ⟨hlt, hpend⟩
    · exact Or.inl hready
    · right
      refine ⟨_, hpend, ⟨hlimit, by simpa using hlt⟩, ?_⟩
      simp [consumed]

/-- On an exhausted stream a poll changes nothing. -/
lemma poll_nil {p : Progress} (hp : F.Partial p) : F.poll p [] = (.pending p, []) := by
  cases p with
  | header taken =>
    have htaken : taken.length < F.width := hp
    simp [poll, htaken]
  | body length taken => simp [poll, pollBody, hp.2]

end Format

end Framing
