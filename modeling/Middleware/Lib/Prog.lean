/-
Programs of calls. A cooperative process is a tree: it returns, raises, or makes a call and goes
on with the answer, which is a value or an exception. `bind` and `tryCatch` make it a monad with
exceptions, so a coroutine is written in `do` notation with one call for each point where it may
be suspended.

`wp R G p h Q E` is the weakest precondition over the calls already answered (`h`, newest first):
relying on answers that satisfy `R`, every call the program can still make satisfies `G` at the history
it is made with; a normal return satisfies `Q` and an exception `E`. The rules below follow the
constructors of the `do` notation, so a program is checked by walking through its text.
-/
import Mathlib

namespace Middleware.Lib

/-- A program over calls `Op`, the call `op` answered by an `Ans op` or an exception. -/
inductive Prog {Op : Type} (Ans : Op → Type) (ε α : Type) : Type
  | pure (a : α)
  | throw (e : ε)
  | call (op : Op) (k : Except ε (Ans op) → Prog Ans ε α)

structure Ev {Op : Type} (Ans : Op → Type) (ε : Type) where
  op : Op
  reply : Except ε (Ans op)

namespace Prog

variable {Op : Type} {Ans : Op → Type} {ε α β : Type}

protected def bind : Prog Ans ε α → (α → Prog Ans ε β) → Prog Ans ε β
  | .pure a, f => f a
  | .throw e, _ => .throw e
  | .call op k, f => .call op fun r => (k r).bind f

protected def tryCatch : Prog Ans ε α → (ε → Prog Ans ε α) → Prog Ans ε α
  | .pure a, _ => .pure a
  | .throw e, h => h e
  | .call op k, h => .call op fun r => (k r).tryCatch h

instance : Monad (Prog Ans ε) where
  pure := .pure
  bind := Prog.bind

instance : MonadExcept ε (Prog Ans ε) where
  throw := .throw
  tryCatch := Prog.tryCatch

/-- Make one call; an exception of the call is raised in the program. -/
def ask (op : Op) : Prog Ans ε (Ans op) := .call op fun
  | .ok a => .pure a
  | .error e => .throw e

/-- Whether the program still has a call to make. -/
def running : Prog Ans ε α → Bool
  | .call _ _ => true
  | _ => false

/-! ## The weakest precondition over histories -/

/-- Relying on answers in `R`, every call `p` can make from the history `h` satisfies `G`, its returns
`Q` and its exceptions `E`. -/
def wp (R : (op : Op) → Except ε (Ans op) → Prop) (G : List (Ev Ans ε) → Op → Prop) :
    Prog Ans ε α → List (Ev Ans ε) → (List (Ev Ans ε) → α → Prop) → (List (Ev Ans ε) → ε → Prop) → Prop
  | .pure a, h, Q, _ => Q h a
  | .throw e, h, _, E => E h e
  | .call op k, h, Q, E => G h op ∧ ∀ r, R op r → wp R G (k r) (⟨op, r⟩ :: h) Q E

variable {R : (op : Op) → Except ε (Ans op) → Prop} {G : List (Ev Ans ε) → Op → Prop} {h : List (Ev Ans ε)}
  {Q : List (Ev Ans ε) → α → Prop} {E : List (Ev Ans ε) → ε → Prop}

@[simp] theorem wp_pure (a : α) : wp R G (Pure.pure a : Prog Ans ε α) h Q E ↔ Q h a := Iff.rfl

@[simp] theorem wp_throw (e : ε) : wp R G (MonadExcept.throw e : Prog Ans ε α) h Q E ↔ E h e := Iff.rfl

@[simp] theorem wp_ask {op : Op} {Q : List (Ev Ans ε) → Ans op → Prop} :
    wp R G (ask op) h Q E ↔ G h op ∧
      (∀ a, R op (.ok a) → Q (⟨op, .ok a⟩ :: h) a) ∧ ∀ e, R op (.error e) → E (⟨op, .error e⟩ :: h) e := by
  constructor
  · rintro ⟨hg, hr⟩
    exact ⟨hg, fun a ha => hr (.ok a) ha, fun e he => hr (.error e) he⟩
  · rintro ⟨hg, hok, herr⟩
    refine ⟨hg, fun r hr => ?_⟩
    cases r with
    | ok a => exact hok a hr
    | error e => exact herr e hr

variable {f : β → Prog Ans ε α}

theorem wp_bind_iff : ∀ (p : Prog Ans ε β) (h : List (Ev Ans ε)),
    wp R G (p.bind f) h Q E ↔ wp R G p h (fun h b => wp R G (f b) h Q E) E
  | .pure _, _ => Iff.rfl
  | .throw _, _ => Iff.rfl
  | .call _ k, _ => and_congr Iff.rfl (forall_congr' fun r => imp_congr Iff.rfl (wp_bind_iff (k r) _))

@[simp] theorem wp_bind {p : Prog Ans ε β} :
    wp R G (p >>= f) h Q E ↔ wp R G p h (fun h b => wp R G (f b) h Q E) E := wp_bind_iff p h

variable {f : ε → Prog Ans ε α}

theorem wp_tryCatch_iff : ∀ (p : Prog Ans ε α) (h : List (Ev Ans ε)),
    wp R G (p.tryCatch f) h Q E ↔ wp R G p h Q (fun h e => wp R G (f e) h Q E)
  | .pure _, _ => Iff.rfl
  | .throw _, _ => Iff.rfl
  | .call _ k, _ => and_congr Iff.rfl (forall_congr' fun r => imp_congr Iff.rfl (wp_tryCatch_iff (k r) _))

variable {p : Prog Ans ε α}

@[simp] theorem wp_tryCatch :
    wp R G (tryCatch p f) h Q E ↔ wp R G p h Q (fun h e => wp R G (f e) h Q E) := wp_tryCatch_iff p h

/-- The rule of consequence. -/
theorem wp_mono {G' : List (Ev Ans ε) → Op → Prop} {Q' : List (Ev Ans ε) → α → Prop}
    {E' : List (Ev Ans ε) → ε → Prop} (hG : ∀ h op, G h op → G' h op) (hQ : ∀ h a, Q h a → Q' h a)
    (hE : ∀ h e, E h e → E' h e) :
    ∀ (p : Prog Ans ε α) (h : List (Ev Ans ε)), wp R G p h Q E → wp R G' p h Q' E'
  | .pure a, h, hp => hQ h a hp
  | .throw e, h, hp => hE h e hp
  | .call op k, h, hp => ⟨hG h op hp.1, fun r hr => wp_mono hG hQ hE (k r) _ (hp.2 r hr)⟩

/-- What no call the program can make breaks is kept by the program. -/
theorem wp_invariant {P : List (Ev Ans ε) → Prop} (hP : ∀ h op r, P h → G h op → R op r → P (⟨op, r⟩ :: h)) :
    ∀ (p : Prog Ans ε α) (h : List (Ev Ans ε)), P h → wp R G p h Q E →
      wp R (fun h op => P h ∧ G h op) p h (fun h a => P h ∧ Q h a) (fun h e => P h ∧ E h e)
  | .pure _, _, h0, hp => ⟨h0, hp⟩
  | .throw _, _, h0, hp => ⟨h0, hp⟩
  | .call op k, h, h0, hp =>
    ⟨⟨h0, hp.1⟩, fun r hr => wp_invariant hP (k r) _ (hP h op r h0 hp.1 hr) (hp.2 r hr)⟩

@[simp] theorem wp_map {p : Prog Ans ε β} {f : β → α} :
    wp R G (f <$> p) h Q E ↔ wp R G p h (fun h b => Q h (f b)) E := wp_bind_iff p h

/-- A coroutine whose value is thrown away. -/
@[simp] theorem wp_discard {Q : List (Ev Ans ε) → PUnit → Prop} :
    wp R G (discard p) h Q E ↔ wp R G p h (fun h _ => Q h PUnit.unit) E := wp_bind_iff p h

end Prog

end Middleware.Lib
