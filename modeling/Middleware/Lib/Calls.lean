/-
Calls on a state that survives their exceptions: what the monad of such calls computes, and how a call that succeeded is
taken apart.
-/
import Mathlib

namespace Middleware.Lib

variable {E S A B : Type} {f : A → Except E B}

theorem bind_ok {x : Except E A} {b : B} (h : (x >>= f) = .ok b) : ∃ a, x = .ok a ∧ f a = .ok b := by
  cases x with
  | error e => cases h
  | ok a => exact ⟨a, rfl, h⟩

theorem ok_bind {a : A} : (Except.ok a >>= f) = f a := rfl

abbrev CallM (E S A : Type) := ExceptT E (StateM S) A

/-- Run a call on a state: its reply, and the state it leaves. -/
def invoke (m : CallM E S A) (s : S) : Except E A × S := m.run s

section Invoke

variable {s : S}

@[simp] theorem invoke_pure (a : A) : invoke (pure a : CallM E S A) s = (.ok a, s) := rfl

@[simp] theorem invoke_throw (e : E) : invoke (throw e : CallM E S A) s = (.error e, s) := rfl

@[simp] theorem invoke_get : invoke (MonadState.get : CallM E S S) s = (.ok s, s) := rfl

@[simp] theorem invoke_modify (f : S → S) : invoke (modify f : CallM E S PUnit) s = (.ok PUnit.unit, f s) := rfl

@[simp] theorem invoke_lift (x : Except E A) : invoke (liftM x : CallM E S A) s = (x, s) := rfl

/-- Sequencing: an exception ends the call with the state it was raised in. -/
theorem invoke_bind (x : CallM E S A) (f : A → CallM E S B) :
    invoke (x >>= f) s = match invoke x s with
      | (.ok a, s') => invoke (f a) s'
      | (.error e, s') => (.error e, s') := by
  show (do
    let r ← x.run s
    (ExceptT.bindCont f r.1).run r.2 : Id _) = _
  unfold invoke
  generalize x.run s = r
  obtain ⟨r | r, s'⟩ := r <;> rfl

end Invoke

/-! ## Taking a call apart -/

section Peel

variable {s s' : S} {r : Except E B} {f : A → CallM E S B}

/-- A call that raises before its last part leaves what that part found. -/
theorem bind_peel {x : CallM E S A} (h : invoke (x >>= f) s = (r, s')) :
    (∃ e, invoke x s = (.error e, s') ∧ r = .error e) ∨ ∃ a t, invoke x s = (.ok a, t) ∧ invoke (f a) t = (r, s') := by
  rw [invoke_bind] at h
  rcases hx : invoke x s with ⟨e | a, t⟩
  · rw [hx] at h
    obtain ⟨rfl, rfl⟩ := Prod.mk.inj h
    exact .inl ⟨e, rfl, rfl⟩
  · rw [hx] at h
    exact .inr ⟨a, t, rfl, h⟩

/-- A part that only computes either ends the call or hands on its value. -/
theorem lift_peel {x : Except E A} (h : invoke (liftM x >>= f) s = (r, s')) :
    (∃ e, r = .error e ∧ s' = s) ∨ ∃ a, x = .ok a ∧ invoke (f a) s = (r, s') := by
  rcases bind_peel h with ⟨e, hx, rfl⟩ | ⟨a, t, hx, hf⟩
  · exact .inl ⟨e, rfl, (congrArg Prod.snd hx).symm⟩
  · obtain ⟨rfl, rfl⟩ := Prod.mk.inj hx
    exact .inr ⟨a, rfl, hf⟩

/-- A guard that raises either ends the call or lets it go on. -/
theorem guard_peel {c : Prop} [Decidable c] {e : E} {f : CallM E S B}
    (h : invoke (if c then throw e else f) s = (r, s')) :
    (∃ e, r = .error e ∧ s' = s) ∨ ¬c ∧ invoke f s = (r, s') := by
  by_cases hc : c
  · rw [if_pos hc, invoke_throw] at h
    obtain ⟨rfl, rfl⟩ := Prod.mk.inj h
    exact .inl ⟨e, rfl, rfl⟩
  · rw [if_neg hc] at h
    exact .inr ⟨hc, h⟩

theorem get_peel {f : S → CallM E S B} (h : invoke (MonadState.get >>= f) s = (r, s')) :
    invoke (f s) s = (r, s') := by
  rwa [invoke_bind, invoke_get] at h

end Peel

end Middleware.Lib
