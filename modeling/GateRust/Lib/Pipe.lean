/-
# Pipes

A pipe is one direction of a connection: a writer puts items into it and ends it at some point,
and a reader takes the items out in their order.  The pipe keeps both histories, so that what is
on its way is a matter of the two lists.

Pipes are joined by programs that read one of them and write what they have read into the next.
Such a program *carries* the first pipe into the second; a chain of them is again a carrier, which
is why a connection through any number of relays is like one pipe.
-/
import Mathlib.Data.List.Infix
import Mathlib.Tactic.Common

variable {α : Type*}

/-- The items that were put into the pipe and those that were taken out, and whether the writer has
ended the pipe. -/
structure Pipe (α : Type*) where
  put : List α
  got : List α
  shut : Bool
  inOrder : got <+: put

namespace Pipe

def empty : Pipe α := ⟨[], [], false, List.nil_prefix⟩

/-- The items that are on their way. -/
def pending (p : Pipe α) : List α := p.put.drop p.got.length

/-- The reader has taken everything and will see the end. -/
def AtEnd (p : Pipe α) : Prop := p.shut = true ∧ p.pending = []

instance [DecidableEq α] (p : Pipe α) : Decidable p.AtEnd := inferInstanceAs (Decidable (_ ∧ _))

lemma got_append_pending (p : Pipe α) : p.got ++ p.pending = p.put :=
  List.prefix_iff_eq_append.mp p.inOrder

lemma pending_eq_nil {p : Pipe α} : p.pending = [] ↔ p.got = p.put := by
  have heq : p.got ++ p.pending = p.put := p.got_append_pending
  constructor
  · intro h
    rw [← heq, h, List.append_nil]
  · intro h
    rw [h] at heq
    exact List.append_right_eq_self.mp heq

def write (p : Pipe α) (items : List α) : Pipe α :=
  ⟨p.put ++ items, p.got, p.shut, p.inOrder.trans (List.prefix_append _ _)⟩

/-- The first `n` items on their way are taken out. -/
def read (p : Pipe α) (n : ℕ) : Pipe α :=
  ⟨p.put, p.got ++ p.pending.take n, p.shut, by
    conv_rhs => rw [← p.got_append_pending]
    exact (List.prefix_append_right_inj _).mpr (List.take_prefix _ _)⟩

/-- The writer ends the pipe. -/
def shutdown (p : Pipe α) : Pipe α := ⟨p.put, p.got, true, p.inOrder⟩

section Fields

variable (p : Pipe α) (items : List α) (n : ℕ)

@[simp] lemma put_empty : (empty : Pipe α).put = [] := rfl
@[simp] lemma got_empty : (empty : Pipe α).got = [] := rfl
@[simp] lemma shut_empty : (empty : Pipe α).shut = false := rfl

@[simp] lemma put_write : (p.write items).put = p.put ++ items := rfl
@[simp] lemma got_write : (p.write items).got = p.got := rfl
@[simp] lemma shut_write : (p.write items).shut = p.shut := rfl

@[simp] lemma put_read : (p.read n).put = p.put := rfl
@[simp] lemma got_read : (p.read n).got = p.got ++ p.pending.take n := rfl
@[simp] lemma shut_read : (p.read n).shut = p.shut := rfl

@[simp] lemma put_shutdown : p.shutdown.put = p.put := rfl
@[simp] lemma got_shutdown : p.shutdown.got = p.got := rfl
@[simp] lemma shut_shutdown : p.shutdown.shut = true := rfl
@[simp] lemma pending_shutdown : p.shutdown.pending = p.pending := rfl

@[simp] lemma pending_write : (p.write items).pending = p.pending ++ items := by
  rw [pending, pending, put_write, got_write, List.drop_append_of_le_length p.inOrder.length_le]

@[simp] lemma pending_read : (p.read n).pending = p.pending.drop n := by
  have heq : (p.read n).got ++ (p.read n).pending = p.got ++ p.pending :=
    (p.read n).got_append_pending.trans p.got_append_pending.symm
  rw [got_read, List.append_assoc] at heq
  exact List.append_cancel_left ((List.append_cancel_left heq).trans
    (List.take_append_drop n p.pending).symm)

end Fields

/-! ## Carriers -/

/-- Everything in the pipe `q` was taken out of the pipe `p`, in the same order. -/
def Carries (p q : Pipe α) : Prop := q.put <+: p.got

/-- Moreover `held` was taken out next and is not lost. -/
def Holds (p q : Pipe α) (held : List α) : Prop := q.put ++ held = p.got

variable {p q r : Pipe α} {held items : List α} {n : ℕ}

lemma Holds.carries (h : Holds p q held) : Carries p q := ⟨held, h⟩

lemma holds_empty : Holds (empty : Pipe α) (empty : Pipe α) [] := rfl

/-- Two carriers one after the other are a carrier. -/
lemma Carries.trans (h : Carries p q) (h' : Carries q r) : Carries p r :=
  List.IsPrefix.trans h' (q.inOrder.trans h)

/-- What was put into `q` is the start of what was put into `p`. -/
lemma Carries.put_le (h : Carries p q) : q.put <+: p.put := List.IsPrefix.trans h p.inOrder

/-- The items that are read next are held. -/
lemma Holds.read (h : Holds p q []) : Holds (p.read n) q (p.pending.take n) := by
  have hgot : q.put = p.got := by simpa [Holds] using h
  rw [Holds, got_read, hgot]

/-- What was held is handed on from its start. -/
lemma Holds.write (h : Holds p q held) : Holds p (q.write (held.take n)) (held.drop n) := by
  rw [Holds, put_write, List.append_assoc, List.take_append_drop]
  exact h

/-- At the end of a pipe nothing is missing in the next one. -/
lemma Holds.put_eq (h : Holds p q []) (hend : p.AtEnd) : q.put = p.put := by
  have hgot : q.put = p.got := by simpa [Holds] using h
  exact hgot.trans (pending_eq_nil.mp hend.2)

end Pipe
