/-
# Symbolic message authentication

A message authentication code that cannot be forged, in the symbolic style: the tag of a message
under a key is a term of its own, and all other strings of the length of a tag are different from
it.  An attacker can present the tags that somebody has sent, those under the keys that it knows,
and strings that are no tags.
-/
import Mathlib.Tactic.Common

namespace SymbolicMac

variable {K M : Type}

inductive Tag (K M : Type) where
  /-- The tag of a message under a key. -/
  | mac (key : K) (message : M)
  /-- A string that is not the tag of any message. -/
  | noise (bytes : List UInt8)
deriving DecidableEq, Repr

variable [DecidableEq K] [DecidableEq M] {known : K → Bool} {sent : List (Tag K M)} {key : K}
  {message : M} {tag : Tag K M}

def verify (key : K) (message : M) (tag : Tag K M) : Bool := tag = .mac key message

/-- What an attacker can present who knows the keys `known` and has seen the tags `sent`. -/
def presents (known : K → Bool) (sent : List (Tag K M)) (tag : Tag K M) : Bool :=
  match tag with
  | .mac key _ => known key || sent.contains tag
  | .noise _ => true

lemma verify_iff : verify key message tag = true ↔ tag = .mac key message := by
  simp [verify]

/-- A presented tag that is accepted under a key that the attacker does not know was sent. -/
lemma mem_of_verify (hverify : verify key message tag = true)
    (hpresents : presents known sent tag = true) :
    known key = true ∨ Tag.mac key message ∈ sent := by
  rw [verify_iff] at hverify
  subst hverify
  simpa [presents] using hpresents

end SymbolicMac
