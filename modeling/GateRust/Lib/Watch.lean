/-
# Watch channels

A shared value with a version number.  Whoever changes the value announces the change
afterwards, by a notification that raises the version; between the two, others may change and
announce it as well.  A change may go without a notification when it does not alter what the
receivers look at.  A receiver remembers the version that it has seen.

A receiver that marks the current version as seen and reads the value *afterwards* has read
what is there now whenever no notification is outstanding and none is unseen (`Covers`).
-/
import Mathlib.Tactic.Common

variable {σ β : Type*}

structure Watch (σ : Type*) where
  value : σ
  version : ℕ
  /-- The number of changes whose notification is still to come. -/
  pending : ℕ

namespace Watch

variable (w : Watch σ) (seen : ℕ)

/-- Change the value; the notification follows later if there is one. -/
def change (value : σ) (notifies : Bool) : Watch σ :=
  { w with value, pending := if notifies then w.pending + 1 else w.pending }

/-- The notification of a change. -/
def notify (value : σ) : Watch σ := ⟨value, w.version + 1, w.pending - 1⟩

/-- The receiver has seen the latest version, and no change waits for its notification. -/
def Current : Prop := seen = w.version ∧ w.pending = 0

instance : Decidable (w.Current seen) := inferInstanceAs (Decidable (_ ∧ _))

/-- What the receiver has read is what is there now, once everything is announced and seen. -/
def Covers (view : σ → β) (read : β) : Prop := w.Current seen → read = view w.value

variable {w seen} {view : σ → β} {read : β}

lemma covers_view : w.Covers seen view (view w.value) := fun _ => rfl

/-- A change that alters what the receiver looks at is announced. -/
lemma Covers.change (h : w.Covers seen view read) {value : σ} {notifies : Bool}
    (hsilent : notifies = false → view value = view w.value) :
    (w.change value notifies).Covers seen view read := by
  intro hcur
  cases notifies with
  | true => exact absurd hcur.2 (Nat.succ_ne_zero _)
  | false =>
    show read = view value
    rw [hsilent rfl]
    exact h hcur

/-- After a notification the receiver has not seen the latest version. -/
lemma covers_notify (hseen : seen ≤ w.version) (value : σ) :
    (w.notify value).Covers seen view read := by
  rintro ⟨hversion, -⟩
  have hnew : seen = w.version + 1 := hversion
  omega

end Watch
