/-
A program that runs alone: its calls are answered one after the other and nothing comes between them. A process of a pool
that is the only one resumed does what its program does alone.
-/
import Middleware.Lib.Pool

namespace Middleware.Lib

variable {Op : Type} {Ans : Op → Type} {ε α β σ ι Job : Type}

namespace Prog

variable {exec : (op : Op) → σ → Except ε (Ans op) × σ} {s s' : σ}

/-- The end of a program that runs alone from a state. -/
def alone (exec : (op : Op) → σ → Except ε (Ans op) × σ) : Prog Ans ε α → σ → Except ε α × σ
  | .pure a, s => (.ok a, s)
  | .throw e, s => (.error e, s)
  | .call op k, s => alone exec (k (exec op s).1) (exec op s).2

@[simp] theorem alone_pure (a : α) : alone exec (Pure.pure a : Prog Ans ε α) s = (.ok a, s) := rfl

@[simp] theorem alone_ask (op : Op) : alone exec (ask op) s = exec op s := by
  unfold ask alone
  cases h : exec op s with
  | mk reply s' => cases reply <;> rfl

theorem alone_bind_ok {f : β → Prog Ans ε α} {b : β} : ∀ {p : Prog Ans ε β} {s : σ}, alone exec p s = (.ok b, s') →
    alone exec (p >>= f) s = alone exec (f b) s'
  | .pure _, _, h => by
    cases h
    rfl
  | .throw _, _, h => by cases h
  | .call op k, s, h => alone_bind_ok (p := k (exec op s).1) h

theorem alone_bind_error {f : β → Prog Ans ε α} {e : ε} : ∀ {p : Prog Ans ε β} {s : σ}, alone exec p s = (.error e, s') →
    alone exec (p >>= f) s = (.error e, s')
  | .pure _, _, h => by cases h
  | .throw _, _, h => by
    cases h
    rfl
  | .call op k, s, h => alone_bind_error (p := k (exec op s).1) h

theorem alone_tryCatch_ok {f : ε → Prog Ans ε α} {a : α} : ∀ {p : Prog Ans ε α} {s : σ}, alone exec p s = (.ok a, s') →
    alone exec (tryCatch p f) s = (.ok a, s')
  | .pure _, _, h => h
  | .throw _, _, h => by cases h
  | .call op k, s, h => alone_tryCatch_ok (p := k (exec op s).1) h

theorem alone_tryCatch_error {f : ε → Prog Ans ε α} {e : ε} : ∀ {p : Prog Ans ε α} {s : σ}, alone exec p s = (.error e, s') →
    alone exec (tryCatch p f) s = alone exec (f e) s'
  | .pure _, _, h => by cases h
  | .throw _, _, h => by
    cases h
    rfl
  | .call op k, s, h => alone_tryCatch_error (p := k (exec op s).1) h

/-- What is made of a program's value does not change the state it ends in. -/
theorem alone_bind_pure (p : Prog Ans ε β) (f : β → α) :
    ((p >>= fun b => Pure.pure (f b)).alone exec s).2 = (p.alone exec s).2 := by
  cases h : p.alone exec s with
  | mk reply s' =>
    cases reply with
    | ok b =>
      rw [alone_bind_ok h]
      rfl
    | error e => rw [alone_bind_error h]

/-- A program whose value is thrown away ends in the same state. -/
theorem alone_discard (p : Prog Ans ε α) : ((discard p).alone exec s).2 = (p.alone exec s).2 :=
  alone_bind_pure p fun _ => PUnit.unit

end Prog

namespace System

variable (sys : System Ans ε α σ ι Job)

/-- Resumed often enough, a process brings the shared state where its program brings it alone. -/
theorem run_alone (hsync : ∀ op, sys.sync op = false) (i : ι) (pid : Nat) (job : Job) :
    ∀ (p : Prog Ans ε α) (w : Pool Ans ε α σ Job), w.procs[pid]? = some ⟨job, p, true⟩ →
      ∃ n, (sys.run w (List.replicate n (.resume pid i))).shared = (p.alone (sys.exec i) w.shared).2
  | .pure _, _, _ => ⟨0, rfl⟩
  | .throw _, _, _ => ⟨0, rfl⟩
  | .call op k, w, hp => by
    have hsettle : ∀ (q : Prog Ans ε α) (s : σ) (log : List (Entry Ans ε σ)), sys.settle i pid q s log = (q, s, log) := by
      intro q s log
      cases q with
      | pure | throw => rfl
      | call op k => simp [settle, hsync]
    have hstep : sys.step w (.resume pid i) = ⟨(sys.exec i op w.shared).2,
        w.procs.set pid ⟨job, k (sys.exec i op w.shared).1, true⟩,
        ⟨⟨op, (sys.exec i op w.shared).1⟩, pid, w.shared, (sys.exec i op w.shared).2⟩ :: w.log⟩ := by
      simp only [step, hp, chunk, hsettle]
    obtain ⟨n, hn⟩ := run_alone hsync i pid job (k (sys.exec i op w.shared).1) (sys.step w (.resume pid i))
      (by rw [hstep]; exact List.getElem?_set_self (List.getElem?_eq_some_iff.1 hp).1)
    refine ⟨n + 1, ?_⟩
    show (sys.run (sys.step w (.resume pid i)) _).shared = _
    rw [hn, hstep]
    rfl

end System

end Middleware.Lib
