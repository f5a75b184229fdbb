/-
# A byte stream that is read and written

The two directions of a connection: the bytes that the peer sends until it closes its side, of
which a part has been read, and the bytes that were written.  A read that needs more bytes than
there are fails.  For every operation one lemma says when it succeeds and what it leaves, so that
a parser is the relation between the stream before and the stream after it.
-/
import GateRust.Lib.Framing
import GateRust.Lib.Utf8

namespace ByteStream

open Framing

structure Duplex where
  /-- The bytes that are not read yet. -/
  input : List UInt8
  written : List UInt8
deriving DecidableEq, Repr

/-- A computation on a stream. -/
abbrev Process (ε : Type) := EStateM ε Duplex

variable {ε α β : Type} {s s' : Duplex}

lemma bind_ok_iff {x : Process ε α} {f : α → Process ε β} {b : β} :
    (x >>= f) s = .ok b s' ↔ ∃ a t, x s = .ok a t ∧ f a t = .ok b s' := by
  have hbind : (x >>= f) s = EStateM.bind x f s := rfl
  rw [hbind, EStateM.bind]
  cases x s with
  | ok a t => simp
  | error e t => simp

lemma pure_ok_iff {a b : α} : (pure a : Process ε α) s = .ok b s' ↔ a = b ∧ s = s' := by
  have hpure : (pure a : Process ε α) s = .ok a s := rfl
  simp [hpure]

lemma throw_ne_ok {e : ε} {b : α} : (throw e : Process ε α) s ≠ .ok b s' := by
  have hthrow : (throw e : Process ε α) s = .error e s := rfl
  simp [hthrow]

/-! ## Reading -/

section Reading

variable (eof : ε)

def readU8 : Process ε UInt8 := fun s =>
  match s.input with
  | byte :: rest => .ok byte { s with input := rest }
  | [] => .error eof s

/-- The stream is used up when it has less than `n` bytes. -/
def readExact (n : ℕ) : Process ε (List UInt8) := fun s =>
  if n ≤ s.input.length then .ok (s.input.take n) { s with input := s.input.drop n }
  else .error eof { s with input := [] }

variable {eof}

lemma readU8_ok_iff {byte : UInt8} :
    readU8 eof s = .ok byte s' ↔ s.input = byte :: s'.input ∧ s.written = s'.written := by
  obtain ⟨input, written⟩ := s
  obtain ⟨input', written'⟩ := s'
  cases input with
  | nil => simp [readU8]
  | cons b rest => simp [readU8, and_assoc]

lemma readExact_ok_iff {n : ℕ} {bytes : List UInt8} :
    readExact eof n s = .ok bytes s' ↔
      bytes.length = n ∧ s.input = bytes ++ s'.input ∧ s.written = s'.written := by
  obtain ⟨input, written⟩ := s
  obtain ⟨input', written'⟩ := s'
  unfold readExact
  constructor
  · intro h
    split at h
    case isTrue hle =>
      cases h
      exact ⟨by simpa using hle, (List.take_append_drop n input).symm, rfl⟩
    case isFalse => cases h
  · rintro ⟨rfl, hinput, hwritten⟩
    obtain rfl : input = bytes ++ input' := hinput
    obtain rfl : written = written' := hwritten
    simp

end Reading

/-! ## Writing -/

def writeAll (bytes : List UInt8) : Process ε Unit := fun s =>
  .ok () { s with written := s.written ++ bytes }

lemma writeAll_ok_iff {bytes : List UInt8} :
    (writeAll bytes : Process ε Unit) s = .ok () s' ↔
      s'.input = s.input ∧ s'.written = s.written ++ bytes := by
  obtain ⟨input, written⟩ := s
  obtain ⟨input', written'⟩ := s'
  simp [writeAll, eq_comm]

/-! ## Numbers and texts -/

lemma ofBE_lt (bytes : List UInt8) : ofBE bytes < 256 ^ bytes.length := by
  induction bytes with
  | nil => exact Nat.one_pos
  | cons byte bytes ih =>
    rw [ofBE, List.length_cons, Nat.pow_succ, Nat.mul_comm _ 256]
    have hbyte : (byte.toNat + 1) * 256 ^ bytes.length ≤ 256 * 256 ^ bytes.length :=
      Nat.mul_le_mul_right _ byte.toNat_lt
    rw [Nat.add_mul, Nat.one_mul] at hbyte
    omega

/-- The digits above the width are not written. -/
lemma toBE_mul_add (w n m : ℕ) : toBE w (m * 256 ^ w + n) = toBE w n := by
  induction w generalizing n m with
  | zero => rfl
  | succ w ih =>
    have hpow : m * 256 ^ (w + 1) = 256 ^ w * (m * 256) := by ring
    have hdiv : (m * 256 ^ (w + 1) + n) / 256 ^ w = m * 256 + n / 256 ^ w := by
      rw [hpow, Nat.mul_add_div (Nat.pow_pos (by decide))]
    have hbyte : UInt8.ofNat (m * 256 + n / 256 ^ w) = UInt8.ofNat (n / 256 ^ w) := by
      rw [← UInt8.toNat_inj]
      simp
    have htail : toBE w (m * 256 ^ (w + 1) + n) = toBE w n := by
      rw [hpow, Nat.mul_comm]
      exact ih n (m * 256)
    rw [toBE, toBE, hdiv, hbyte, htail]

/-- The bytes of a number are read back from it. -/
lemma toBE_ofBE (bytes : List UInt8) : toBE bytes.length (ofBE bytes) = bytes := by
  induction bytes with
  | nil => rfl
  | cons byte bytes ih =>
    have hdiv : (byte.toNat * 256 ^ bytes.length + ofBE bytes) / 256 ^ bytes.length =
        byte.toNat := by
      rw [Nat.mul_comm, Nat.mul_add_div (Nat.pow_pos (by decide)), Nat.div_eq_of_lt (ofBE_lt bytes),
        Nat.add_zero]
    rw [ofBE, List.length_cons, toBE, hdiv, toBE_mul_add, ih, UInt8.ofNat_toNat]

/-- The bytes that are a text are those of the text. -/
lemma fromUTF8?_eq_some_iff {bytes : List UInt8} {text : String} :
    String.fromUTF8? bytes.toByteArray = some text ↔ bytes = text.toUTF8.toList := by
  constructor
  · intro h
    unfold String.fromUTF8? at h
    split at h
    case isTrue hvalid =>
      cases h
      rw [ByteArray.toList_eq_data]
      exact (List.toList_data_toByteArray).symm
    case isFalse => cases h
  · rintro rfl
    exact String.fromUTF8?_toUTF8 text

end ByteStream
