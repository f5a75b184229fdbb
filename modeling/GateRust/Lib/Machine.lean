/-
# Runs of a partial step function

A component is described by its states, by the events that may happen to it and by a
step function that gives the next state, or none when the event cannot happen.  The
order of the events is left open: a state is *reachable* when some sequence of events
leads to it.  The step function may be restricted to the steps that satisfy a condition
`ok`, which is how a result about the runs that avoid a given step is stated.
-/
import Mathlib.Tactic.Common

namespace Machine

variable {σ ε : Type*}

/-- The states reached from `s₀` by steps that all satisfy `ok`. -/
inductive Reach (step : σ → ε → Option σ) (ok : σ → ε → Prop) (s₀ : σ) : σ → Prop
  | init : Reach step ok s₀ s₀
  | next {s s' : σ} {e : ε} :
      Reach step ok s₀ s → ok s e → step s e = some s' → Reach step ok s₀ s'

/-- The condition that every step satisfies. -/
def Always (_ : σ) (_ : ε) : Prop := True

instance (s : σ) (e : ε) : Decidable (Always s e) := inferInstanceAs (Decidable True)

section Reach

variable {step : σ → ε → Option σ} {ok : σ → ε → Prop} {s₀ s s' : σ}

/-- **The invariant rule.**  A property of the initial state that every admitted step
preserves holds in every reachable state. -/
theorem Reach.invariant {I : σ → Prop} (h : Reach step ok s₀ s) (h₀ : I s₀)
    (hstep : ∀ s e s', I s → ok s e → step s e = some s' → I s') : I s := by
  induction h with
  | init => exact h₀
  | next _ hok hs ih => exact hstep _ _ _ ih hok hs

lemma Reach.trans (h : Reach step ok s₀ s) (h' : Reach step ok s s') :
    Reach step ok s₀ s' := by
  induction h' with
  | init => exact h
  | next _ hok hs ih => exact ih.next hok hs

lemma Reach.mono {ok' : σ → ε → Prop} (h : Reach step ok s₀ s)
    (himp : ∀ s e, ok s e → ok' s e) : Reach step ok' s₀ s := by
  induction h with
  | init => exact .init
  | next _ hok hs ih => exact ih.next (himp _ _ hok) hs

end Reach

/-! ## Runs with their past -/

/-- The steps `past`, each given by the state before it and its event, lead from `s₀` to the
state. -/
inductive Run (step : σ → ε → Option σ) (ok : σ → ε → Prop) (s₀ : σ) : List (σ × ε) → σ → Prop
  | init : Run step ok s₀ [] s₀
  | next {past : List (σ × ε)} {s s' : σ} {e : ε} :
      Run step ok s₀ past s → ok s e → step s e = some s' →
      Run step ok s₀ (past ++ [(s, e)]) s'

/-- **The invariant rule for runs**: the property may speak of the steps so far. -/
theorem Run.invariant {step : σ → ε → Option σ} {ok : σ → ε → Prop} {s₀ s : σ}
    {past : List (σ × ε)} {I : List (σ × ε) → σ → Prop} (h : Run step ok s₀ past s)
    (h₀ : I [] s₀)
    (hstep : ∀ past s e s', I past s → ok s e → step s e = some s' → I (past ++ [(s, e)]) s') :
    I past s := by
  induction h with
  | init => exact h₀
  | next _ hok hs ih => exact hstep _ _ _ _ ih hok hs

/-! ## Executing a list of events -/

/-- The state after the events `es`, none as soon as one of them cannot happen or does
not satisfy `ok`. -/
def exec (step : σ → ε → Option σ) (ok : σ → ε → Prop) [∀ s e, Decidable (ok s e)] :
    σ → List ε → Option σ
  | s, [] => some s
  | s, e :: es => if ok s e then (step s e).bind fun s' => exec step ok s' es else none

variable {step : σ → ε → Option σ} {ok : σ → ε → Prop} [∀ s e, Decidable (ok s e)]

lemma exec_cons {s s' : σ} {e : ε} {es : List ε} :
    exec step ok s (e :: es) = some s' ↔
      ok s e ∧ ∃ t, step s e = some t ∧ exec step ok t es = some s' := by
  by_cases hok : ok s e
  · simp [exec, hok, Option.bind_eq_some_iff]
  · simp [exec, hok]

/-- The result of an execution is reachable, also under another condition that the events of the
execution satisfy. -/
theorem reach_of_exec_imp {ok' : σ → ε → Prop} {s s' : σ} {es : List ε}
    (h : exec step ok s es = some s') (himp : ∀ s, ∀ e ∈ es, ok s e → ok' s e) :
    Reach step ok' s s' := by
  induction es generalizing s with
  | nil =>
    simp only [exec, Option.some.injEq] at h
    exact h ▸ .init
  | cons e es ih =>
    obtain ⟨hok, t, ht, hrest⟩ := exec_cons.mp h
    have hfirst : Reach step ok' s t := Reach.init.next (himp s e List.mem_cons_self hok) ht
    exact hfirst.trans (ih hrest fun s e he => himp s e (List.mem_cons_of_mem _ he))

theorem reach_of_exec {s s' : σ} {es : List ε} (h : exec step ok s es = some s') :
    Reach step ok s s' :=
  reach_of_exec_imp h fun _ _ _ => id

/-! ## Runs that come to an end -/

/-- **The measure rule.**  Where every admitted step keeps `I` and makes the measure smaller, a run
has no more steps than its first state measures. -/
theorem exec_length_le {I : σ → Prop} {μ : σ → ℕ} {s s' : σ} {es : List ε}
    (hstep : ∀ s e s', I s → ok s e → step s e = some s' → I s' ∧ μ s' < μ s) (hs : I s)
    (h : exec step ok s es = some s') : I s' ∧ es.length + μ s' ≤ μ s := by
  induction es generalizing s with
  | nil =>
    simp only [exec, Option.some.injEq] at h
    subst h
    exact ⟨hs, by simp⟩
  | cons e es ih =>
    obtain ⟨hok, t, ht, hrest⟩ := exec_cons.mp h
    obtain ⟨htI, hlt⟩ := hstep s e t hs hok ht
    obtain ⟨hs', hle⟩ := ih htI hrest
    exact ⟨hs', by rw [List.length_cons]; omega⟩

/-- Such a run can be continued until no step is admitted any more. -/
theorem exists_exec_stuck {I : σ → Prop} {μ : σ → ℕ} {s : σ}
    (hstep : ∀ s e s', I s → ok s e → step s e = some s' → I s' ∧ μ s' < μ s) (hs : I s) :
    ∃ es s', exec step ok s es = some s' ∧ ∀ e, ok s' e → step s' e = none := by
  induction hm : μ s using Nat.strongRecOn generalizing s with
  | ind m ih =>
    by_cases hstuck : ∀ e, ok s e → step s e = none
    · exact ⟨[], s, rfl, hstuck⟩
    · push Not at hstuck
      obtain ⟨e, hok, hne⟩ := hstuck
      obtain ⟨t, ht⟩ := Option.ne_none_iff_exists'.mp hne
      obtain ⟨htI, hlt⟩ := hstep s e t hs hok ht
      obtain ⟨es, s', hexec, hend⟩ := ih (μ t) (hm ▸ hlt) htI rfl
      exact ⟨e :: es, s', exec_cons.mpr ⟨hok, t, ht, hexec⟩, hend⟩

/-- Every reachable state is the end of a run. -/
lemma Reach.exists_run {step : σ → ε → Option σ} {ok : σ → ε → Prop} {s₀ s : σ}
    (h : Reach step ok s₀ s) : ∃ past, Run step ok s₀ past s := by
  induction h with
  | init => exact ⟨[], .init⟩
  | next _ hok hs ih =>
    obtain ⟨past, hrun⟩ := ih
    exact ⟨_, hrun.next hok hs⟩

end Machine
