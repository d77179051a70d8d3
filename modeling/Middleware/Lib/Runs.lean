/-
Runs of a machine that takes one action after the other. `Always` says that every action of a run satisfies a condition
on the state it is taken in; an invariant that such actions keep holds in every state reached.
-/
import Mathlib

namespace Middleware.Lib

variable {σ α : Type} (step : α → σ → σ)

/-- The state after the actions. -/
def runFrom (s : σ) (acts : List α) : σ := acts.foldl (fun s a => step a s) s

/-- Every action satisfies the condition in the state it is taken in. -/
def Always (P : σ → α → Prop) : σ → List α → Prop
  | _, [] => True
  | s, a :: acts => P s a ∧ Always P (step a s) acts

variable {step} {P Q : σ → α → Prop} {s : σ} {acts acts' : List α} {a : α}

@[simp] theorem runFrom_nil : runFrom step s [] = s := rfl

@[simp] theorem runFrom_cons : runFrom step s (a :: acts) = runFrom step (step a s) acts := rfl

theorem runFrom_append : runFrom step s (acts ++ acts') = runFrom step (runFrom step s acts) acts' := by
  unfold runFrom
  rw [List.foldl_append]

theorem runFrom_concat : runFrom step s (acts ++ [a]) = step a (runFrom step s acts) := runFrom_append

theorem always_append : Always step P s (acts ++ acts') ↔ Always step P s acts ∧ Always step P (runFrom step s acts) acts' := by
  induction acts generalizing s with
  | nil => simp [Always]
  | cons a acts ih => rw [List.cons_append, Always, Always, ih, runFrom_cons, and_assoc]

theorem always_concat : Always step P s (acts ++ [a]) ↔ Always step P s acts ∧ P (runFrom step s acts) a := by
  rw [always_append]
  simp [Always]

/-- A condition on every action, read at one place of the run. -/
theorem always_iff : Always step P s acts ↔ ∀ before a after, acts = before ++ a :: after → P (runFrom step s before) a := by
  constructor
  · rintro h before a after rfl
    exact (always_append.1 h).2.1
  · intro h
    induction acts generalizing s with
    | nil => trivial
    | cons a acts ih =>
      refine ⟨h [] a acts rfl, ih fun before b after heq => ?_⟩
      exact h (a :: before) b after (by rw [heq]; rfl)

theorem Always.take (h : Always step P s acts) {before : List α} (hb : before <+: acts) : Always step P s before := by
  obtain ⟨after, rfl⟩ := hb
  exact (always_append.1 h).1

theorem Always.mono (hPQ : ∀ s a, P s a → Q s a) (h : Always step P s acts) : Always step Q s acts :=
  always_iff.2 fun before a after heq => hPQ _ a (always_iff.1 h before a after heq)

/-- What the actions of a run keep while they satisfy the condition. -/
theorem Always.induction {I : List α → σ → Prop} (h : Always step P s acts) (h0 : I [] s)
    (hstep : ∀ before a, Always step P s (before ++ [a]) → I before (runFrom step s before) →
      P (runFrom step s before) a → I (before ++ [a]) (step a (runFrom step s before))) :
    I acts (runFrom step s acts) := by
  induction acts using List.reverseRecOn with
  | nil => exact h0
  | append_singleton before a ih =>
    obtain ⟨hbefore, ha⟩ := always_concat.1 h
    rw [runFrom_concat]
    exact hstep before a h (ih hbefore) ha

/-- An invariant that every admitted action keeps. -/
theorem Always.invariant {I : σ → Prop} (h : Always step P s acts) (h0 : I s) (hstep : ∀ s a, I s → P s a → I (step a s)) :
    I (runFrom step s acts) :=
  h.induction (I := fun _ => I) h0 fun _ a _ hI ha => hstep _ a hI ha

theorem runFrom_invariant {I : σ → Prop} (h0 : I s) (hstep : ∀ s a, I s → I (step a s)) : I (runFrom step s acts) := by
  induction acts using List.reverseRecOn with
  | nil => exact h0
  | append_singleton before a ih =>
    rw [runFrom_concat]
    exact hstep _ a ih

/-- Every state of a run satisfies what the invariant of its actions implies. -/
theorem Always.of_invariant {I : σ → Prop} (h : Always step P s acts) (h0 : I s) (hstep : ∀ s a, I s → P s a → I (step a s))
    (hQ : ∀ s a, I s → P s a → Q s a) : Always step Q s acts := by
  rw [always_iff]
  intro before a after heq
  subst heq
  obtain ⟨hbefore, ha, -⟩ := always_append.1 h
  exact hQ _ a (hbefore.invariant h0 hstep) ha

/-! ## Conditions on the actions before -/

/-- What holds of each action of a run, after those before it. -/
def Throughout (P : List α → α → Prop) (acts : List α) : Prop := ∀ before a after, acts = before ++ a :: after → P before a

section Throughout

variable {P Q : List α → α → Prop} {acts : List α}

end Throughout

end Middleware.Lib
