/-
# Results of fallible functions

Facts about `Except` that the proofs about fallible functions share, and loops that change a
state and end with the first error.
-/
import Mathlib.Tactic.Common

namespace Except

variable {ε α β : Type}

/-- A call that succeeds returns a value, and the rest of the computation works on it. -/
lemma exists_ok_of_bind {x : Except ε α} {f : α → Except ε β} {b : β}
    (h : (x >>= f) = .ok b) : ∃ a, x = .ok a ∧ f a = .ok b := by
  cases x with
  | error e => cases h
  | ok a => exact ⟨a, rfl, h⟩

lemma bind_ok {x : Except ε α} {f : α → Except ε β} {a : α} {b : β} (hx : x = .ok a)
    (hf : f a = .ok b) : (x >>= f) = .ok b := by
  rw [hx]
  exact hf

lemma map_bind {γ : Type} (x : Except ε α) (f : α → Except ε β) (g : β → γ) :
    (x >>= f).map g = x >>= fun a => (f a).map g := by
  cases x <;> rfl

lemma ok_of_mapError_ok {ε' : Type} {x : Except ε α} {a : α} {g : ε → ε'}
    (h : x.mapError g = .ok a) : x = .ok a := by
  cases x with
  | error e => cases h
  | ok =>
    cases h
    rfl

lemma eq_ok_of_isOk {x : Except ε Unit} (h : x.isOk = true) : x = .ok () := by
  cases x with
  | ok => rfl
  | error e => exact absurd h Bool.false_ne_true

/-- Checks that are made one after the other: the first that fails gives the error. -/
def reject (error : String → ε) (checks : List (Bool × String)) : Except ε Unit :=
  match checks.find? (·.1) with
  | some (_, message) => .error (error message)
  | none => .ok ()

/-- All checks pass. -/
lemma of_reject_ok {error : String → ε} {checks : List (Bool × String)}
    (h : reject error checks = .ok ()) {check : Bool × String} (hmem : check ∈ checks) :
    check.1 = false := by
  unfold reject at h
  cases hf : checks.find? (·.1) with
  | some found => simp [hf] at h
  | none => simpa using List.find?_eq_none.mp hf check hmem

lemma reject_ok {error : String → ε} {checks : List (Bool × String)}
    (h : ∀ check ∈ checks, check.1 = false) : reject error checks = .ok () := by
  have hfind : checks.find? (·.1) = none :=
    List.find?_eq_none.mpr fun check hcheck => by simp [h check hcheck]
  rw [reject, hfind]

/-- A relation between the elements done and the state that every round preserves holds after a
loop without an error. -/
theorem foldlM_invariant {σ : Type} {f : σ → α → Except ε σ} {xs : List α} {s s' : σ}
    {I : List α → σ → Prop} (h : xs.foldlM f s = .ok s') (hs : I [] s)
    (hf : ∀ done x s s', I done s → f s x = .ok s' → I (done ++ [x]) s') : I xs s' := by
  suffices hgen : ∀ done s, I done s → xs.foldlM f s = .ok s' → I (done ++ xs) s' from
    hgen [] s hs h
  clear h hs s
  induction xs with
  | nil =>
    intro done s hs h
    cases h
    simpa using hs
  | cons x xs ih =>
    intro done s hs h
    rw [List.foldlM_cons] at h
    obtain ⟨t, ht, h⟩ := exists_ok_of_bind h
    have hrest := ih (done ++ [x]) t (hf done x s t hs ht) h
    rwa [List.append_assoc, List.singleton_append] at hrest

/-- A loop that lets no key pass twice. -/
lemma foldlM_nodup {σ κ : Type} {f : σ → α → Except ε σ} {xs : List α} {s s' : σ} {k : α → κ}
    {o : σ → List κ} (h : xs.foldlM f s = .ok s') (hs : o s = [])
    (hf : ∀ s x s', f s x = .ok s' → k x ∉ o s ∧ o s' = k x :: o s) :
    (xs.map k).Nodup := by
  have hinv : o s' = (xs.map k).reverse ∧ (xs.map k).Nodup := by
    refine foldlM_invariant (I := fun done s => o s = (done.map k).reverse ∧
      (done.map k).Nodup) h ⟨hs, List.nodup_nil⟩ ?_
    rintro done x t t' ⟨hseen, hnodup⟩ ht
    obtain ⟨hnew, hseen'⟩ := hf t x t' ht
    rw [hseen, List.mem_reverse] at hnew
    refine ⟨?_, ?_⟩
    · rw [hseen', hseen, List.map_append, List.reverse_append]
      rfl
    · rw [List.map_append, List.map_singleton, List.nodup_append]
      refine ⟨hnodup, List.nodup_cons.mpr ⟨List.not_mem_nil, List.nodup_nil⟩, ?_⟩
      rintro a ha b hb rfl
      rw [List.mem_singleton.mp hb] at ha
      exact hnew ha
  exact hinv.2

/-- What every round of a loop checks holds of all elements. -/
lemma foldlM_forall {σ : Type} {f : σ → α → Except ε σ} {xs : List α} {s s' : σ} {P : α → Prop}
    (h : xs.foldlM f s = .ok s') (hf : ∀ s x s', f s x = .ok s' → P x) : ∀ x ∈ xs, P x := by
  refine foldlM_invariant (I := fun done _ => ∀ x ∈ done, P x) h (by simp) ?_
  intro done x t t' hdone ht y hy
  obtain hy | hy := List.mem_append.mp hy
  · exact hdone y hy
  · rw [List.mem_singleton.mp hy]
    exact hf t x t' ht

/-- A loop that collects an output for each element. -/
lemma foldlM_map {σ : Type} {f : σ → α → Except ε σ} {xs : List α} {s s' : σ} {g : α → β}
    {o : σ → List β} (h : xs.foldlM f s = .ok s') (hs : o s = [])
    (hf : ∀ s x s', f s x = .ok s' → o s' = o s ++ [g x]) : o s' = xs.map g := by
  refine foldlM_invariant (I := fun done s => o s = done.map g) h hs ?_
  intro done x t t' hdone ht
  rw [hf t x t' ht, hdone, List.map_append, List.map_singleton]

/-- A loop over other elements that gives the same result in every round. -/
lemma foldlM_map_ok {σ : Type} {f : σ → α → Except ε σ} {f' : σ → β → Except ε σ} {g : α → β}
    {xs : List α} {s s' : σ} (h : xs.foldlM f s = .ok s')
    (hf : ∀ s x s', f s x = .ok s' → f' s (g x) = .ok s') : (xs.map g).foldlM f' s = .ok s' := by
  induction xs generalizing s with
  | nil => exact h
  | cons x xs ih =>
    rw [List.foldlM_cons] at h
    obtain ⟨t, ht, h⟩ := exists_ok_of_bind h
    rw [List.map_cons, List.foldlM_cons, hf s x t ht]
    exact ih h

/-- A function that is defined exactly where `p` holds, and is `g` there, maps the lists of which
all elements satisfy `p`. -/
lemma mapM_ok_iff {f : α → Except ε β} {p : α → Prop} {g : α → β} {xs : List α} {ys : List β}
    (hf : ∀ x y, f x = .ok y ↔ p x ∧ y = g x) :
    xs.mapM f = .ok ys ↔ (∀ x ∈ xs, p x) ∧ ys = xs.map g := by
  induction xs generalizing ys with
  | nil => simp [pure, Except.pure, eq_comm]
  | cons x xs ih =>
    rw [List.mapM_cons, List.forall_mem_cons]
    constructor
    · intro h
      obtain ⟨y, hy, h⟩ := exists_ok_of_bind h
      obtain ⟨ys', hys', h⟩ := exists_ok_of_bind h
      obtain ⟨hx, rfl⟩ := (hf x y).mp hy
      obtain ⟨hxs, rfl⟩ := ih.mp hys'
      cases h
      exact ⟨⟨hx, hxs⟩, rfl⟩
    · rintro ⟨⟨hx, hxs⟩, rfl⟩
      exact bind_ok ((hf x _).mpr ⟨hx, rfl⟩) (bind_ok (ih.mpr ⟨hxs, rfl⟩) rfl)

/-- A loop in which no round fails. -/
lemma exists_foldlM_ok {σ : Type} {f : σ → α → Except ε σ} {xs : List α}
    (hf : ∀ x ∈ xs, ∀ s, ∃ s', f s x = .ok s') (s : σ) : ∃ s', xs.foldlM f s = .ok s' := by
  induction xs generalizing s with
  | nil => exact ⟨s, rfl⟩
  | cons x xs ih =>
    obtain ⟨t, ht⟩ := hf x List.mem_cons_self s
    obtain ⟨s', hs'⟩ := ih (fun y hy => hf y (List.mem_cons_of_mem x hy)) t
    refine ⟨s', ?_⟩
    rw [List.foldlM_cons, ht]
    exact hs'

/-! ## Results that agree -/

/-- Both calls fail with one error, or both succeed with related results. -/
inductive Alike {γ : Type} (R : α → γ → Prop) : Except ε α → Except ε γ → Prop where
  | error (e : ε) : Alike R (.error e) (.error e)
  | ok {a : α} {c : γ} (h : R a c) : Alike R (.ok a) (.ok c)

namespace Alike

variable {γ δ : Type} {R : α → γ → Prop} {S : β → δ → Prop} {x : Except ε α} {y : Except ε γ}

lemma bind {f : α → Except ε β} {g : γ → Except ε δ} (h : x.Alike R y)
    (hfg : ∀ a c, R a c → (f a).Alike S (g c)) : (x.bind f).Alike S (y.bind g) := by
  cases h with
  | error e => exact .error e
  | ok h => exact hfg _ _ h

lemma map {f : α → β} {g : γ → δ} (h : x.Alike R y) (hfg : ∀ a c, R a c → S (f a) (g c)) :
    (x.map f).Alike S (y.map g) := by
  cases h with
  | error e => exact .error e
  | ok h => exact .ok (hfg _ _ h)

lemma mapError {ε' : Type} {f : ε → ε'} (h : x.Alike R y) :
    (x.mapError f).Alike R (y.mapError f) := by
  cases h with
  | error e => exact .error (f e)
  | ok h => exact .ok h

lemma of_map_eq {f : α → β} {g : γ → β} (h : x.map f = y.map g) :
    x.Alike (fun a c => f a = g c) y := by
  cases x with
  | error e =>
    cases y with
    | error e' =>
      cases h
      exact .error e
    | ok c => cases h
  | ok a =>
    cases y with
    | error e' => cases h
    | ok c => exact .ok (Except.ok.inj h)

lemma map_eq {f : α → β} {g : γ → β} (h : x.Alike R y) (hfg : ∀ a c, R a c → f a = g c) :
    x.map f = y.map g := by
  cases h with
  | error e => rfl
  | ok h => exact congrArg Except.ok (hfg _ _ h)

end Alike

/-! ## Loops that end with the first error -/

section UntilError

variable {σ ε α : Type} {body : α → σ → Except ε Unit × σ} {xs : List α} {s s' : σ}

/-- Run `body` for each element.  The changes made before an error, and by the call that gives
it, remain. -/
def untilError (body : α → σ → Except ε Unit × σ) : List α → σ → Except ε Unit × σ
  | [], s => (.ok (), s)
  | x :: xs, s =>
    match body x s with
    | (.ok (), s') => untilError body xs s'
    | (.error e, s') => (.error e, s')

lemma untilError_cons_ok {x : α} (h : body x s = (.ok (), s')) :
    untilError body (x :: xs) s = untilError body xs s' := by
  simp only [untilError, h]

lemma untilError_cons_error {x : α} {e : ε} (h : body x s = (.error e, s')) :
    untilError body (x :: xs) s = (.error e, s') := by
  simp only [untilError, h]

lemma untilError_append (h : untilError body xs s = (.ok (), s')) (ys : List α) :
    untilError body (xs ++ ys) s = untilError body ys s' := by
  induction xs generalizing s with
  | nil =>
    cases h
    rfl
  | cons x xs ih =>
    rcases hb : body x s with ⟨_ | ⟨⟩, t⟩
    · rw [untilError_cons_error hb] at h
      cases h
    · rw [untilError_cons_ok hb] at h
      rw [List.cons_append, untilError_cons_ok hb, ih h]

/-- What every round preserves holds after the loop, however it ends. -/
theorem untilError_invariant {I : σ → Prop} (hs : I s)
    (hbody : ∀ x ∈ xs, ∀ s, I s → I (body x s).2) : I (untilError body xs s).2 := by
  induction xs generalizing s with
  | nil => exact hs
  | cons x xs ih =>
    have hx : I (body x s).2 := hbody x List.mem_cons_self s hs
    rcases hb : body x s with ⟨_ | ⟨⟩, s'⟩
    · rw [untilError_cons_error hb]
      rwa [hb] at hx
    · rw [untilError_cons_ok hb]
      rw [hb] at hx
      exact ih hx fun y hy => hbody y (List.mem_cons_of_mem x hy)

/-- What a round establishes for its element, and later rounds keep, holds for all elements when
the loop ends without an error. -/
theorem untilError_all {P : α → σ → Prop} (h : untilError body xs s = (.ok (), s'))
    (hset : ∀ x ∈ xs, ∀ s s', body x s = (.ok (), s') → P x s')
    (hkeep : ∀ x ∈ xs, ∀ y ∈ xs, ∀ s, P x s → P x (body y s).2) : ∀ x ∈ xs, P x s' := by
  induction xs generalizing s with
  | nil => simp
  | cons x xs ih =>
    rcases hb : body x s with ⟨_ | ⟨⟩, t⟩
    · rw [untilError_cons_error hb] at h
      cases h
    · rw [untilError_cons_ok hb] at h
      have hx : P x t := hset x List.mem_cons_self s t hb
      have hxs : P x s' := by
        have hinv : P x (untilError body xs t).2 := untilError_invariant hx fun y hy u hu =>
          hkeep x List.mem_cons_self y (List.mem_cons_of_mem x hy) u hu
        rwa [h] at hinv
      have hrest := ih h (fun y hy => hset y (List.mem_cons_of_mem x hy)) fun y hy z hz =>
        hkeep y (List.mem_cons_of_mem x hy) z (List.mem_cons_of_mem x hz)
      exact List.forall_mem_cons.mpr ⟨hxs, hrest⟩

end UntilError

end Except
