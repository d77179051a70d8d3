/-
Operator mutations are fenced by the version and remembered by their idempotency key. Versions of a command only grow,
so a version that one call has consumed is gone; a call that succeeded is remembered for good, so its repetition is
answered from memory whatever happened since.
-/
import Middleware.Data.Canonical
import Middleware.Platform.Store

namespace Middleware.Ledger

/-- The canonical text of a mutation's content. -/
def Mutation.text (m : Mutation) : String :=
  dumps true (.obj [("expected_version", .int m.expectedVersion), ("reason", .str m.reason)])

theorem mutationDigest_eq (m : Mutation) : mutationDigest m.expectedVersion m.reason = Sha256.hexdigest m.text := rfl

theorem Mutation.text_inj {m m' : Mutation} (h : m.text = m'.text) :
    m.expectedVersion = m'.expectedVersion ∧ m.reason = m'.reason := by
  have hcanon := dumps_inj (by simp [Json.valid, validMembers]) (by simp [Json.valid, validMembers]) h
  have hle : ("expected_version" : String) ≤ "reason" := by decide +kernel
  simpa [Json.canon, canonMembers, List.insertionSort, List.orderedInsert, hle] using hcanon

end Middleware.Ledger

namespace Middleware.Platform.Store

open Ledger MemoryCommandStore

/-- The call succeeds on the command under `k` at the version it expected, and not as a repetition. -/
def StoreStep.Succeeds (x : StoreStep) (s : MemoryCommandStore) (k : Key) (version : Int) : Prop :=
  match x.call with
  | .ledger (.mutateOperation m) => m.key = k ∧ m.expectedVersion = version ∧
    ∃ o, (perform (mutateOperation m x.now) s).1 = .ok o ∧ o.duplicate = false
  | .ledger (.reconcile r) => r.key = k ∧ r.expectedVersion = some version ∧
    ∃ o, (perform (reconcile r x.now) s).1 = .ok o
  | _ => False

variable {key : String × Uuid × MutationAction × String × String} {e : String × CommandOperation}

section Step

variable {s s' : MemoryCommandStore} {x : StoreStep} {k : Key} {version : Int} {m : Mutation} {now : Time}
  {o : CommandOperation}

/-- What a remembered mutation was answered is never forgotten. -/
theorem Stored.remembered (h : Stored s x s')
    (he : s.mutations.lookup key = some e) : s'.mutations.lookup key = some e := by
  cases h with
  | mutated m call new =>
    have hne : key ≠ m.mutationKey := by
      rintro rfl
      rw [new] at he
      cases he
    rw [lookup_insert_ite, if_neg hne, he]
  | _ => exact he

/-- A mutation that is answered is remembered with its answer; it is new and stored, or it was remembered before. -/
theorem mutate_ok (hs : s.Synced) (h : (perform (mutateOperation m now) s).1 = .ok o) :
    (∃ digest, s.commands.lookup m.key = some digest) ∧
    ((s.mutations.lookup m.mutationKey = none ∧ ∃ digest p changed outbox events,
      s.commands.lookup m.key = some (digest, p) ∧ (p.resourceVersion : Int) = m.expectedVersion ∧
      Mutated s m p now changed outbox ∧ o = Mutation.updated p changed now ∧
      perform (mutateOperation m now) s = (.ok o,
        { s with
          commands := s.commands.insert m.key (digest, o), events := events, outbox := outbox
          mutations := s.mutations.insert m.mutationKey (Sha256.hexdigest m.text, o) })) ∨
    ∃ p, s.mutations.lookup m.mutationKey = some (Sha256.hexdigest m.text, p) ∧ o = { p with duplicate := true } ∧
      perform (mutateOperation m now) s = (.ok o, s)) := by
  cases hm : s.mutations.lookup m.mutationKey with
  | none =>
    rcases mutateOperation_store hs m now hm with
      ⟨e, he⟩ | ⟨digest, p, changed, outbox, events, _, hp, -, -, hv, hmut, hok⟩
    · rw [he] at h
      cases h
    · rw [hok] at h
      cases h
      exact ⟨⟨_, hp⟩, .inl ⟨rfl, digest, p, changed, outbox, _, hp, hv, hmut, rfl, hok⟩⟩
  | some replay =>
    obtain ⟨digest, p⟩ := replay
    cases hc : s.commands.lookup m.key with
    | none =>
      simp only [mutateOperation, perform_bind, perform_get, hc, perform_throw] at h
      cases h
    | some entry =>
      have hknown := mutateOperation_known m now hc hm
      refine ⟨⟨entry, rfl⟩, .inr ⟨p, ?_⟩⟩
      rw [hknown] at h ⊢
      dsimp only at h ⊢
      split at h
      · rename_i hd
        cases h
        rw [if_pos hd, hd, mutationDigest_eq]
        exact ⟨rfl, rfl, rfl⟩
      · cases h

/-- Operations are stored without the mark of a repetition. -/
theorem store_duplicate (steps : List StoreStep) : ∀ k digest o, (store steps).commands.lookup k = some (digest, o) →
    o.duplicate = false := by
  induction steps using List.reverseRecOn with
  | nil => intro k digest o h; cases h
  | append_singleton steps x ih =>
    intro k digest o' h
    rcases (store_stored steps x).source h with ⟨o, ho, hlater⟩ | ⟨r, -, -, -, ho, -⟩
    · rw [hlater.duplicate]
      exact ih k digest o ho
    · rw [ho]
      rfl

/-- A call that succeeds finds the version it expected and leaves a later one. -/
theorem succeeds_version (hs : s.Synced) (h : x.Succeeds s k version) :
    (∃ digest p, s.commands.lookup k = some (digest, p) ∧ (p.resourceVersion : Int) = version) ∧
      ∃ digest p, (x.exec s).commands.lookup k = some (digest, p) ∧ version < p.resourceVersion := by
  obtain ⟨call, now⟩ := x
  cases call with
  | ledger c =>
    cases c with
    | mutateOperation m =>
      obtain ⟨rfl, rfl, o, hok, hdup⟩ := h
      obtain ⟨-, ⟨-, digest, p, changed, outbox, events, hp, hv, -, ho, hrun⟩ | ⟨p, -, ho, -⟩⟩ := mutate_ok hs hok
      · refine ⟨⟨digest, p, hp, hv⟩, digest, o, ?_, ?_⟩
        · simp only [StoreStep.exec, LedgerCall.action, perform_discard, hrun]
          exact AList.lookup_insert _
        · rw [ho, ← hv]
          exact Int.ofNat_lt.2 (Nat.lt_succ_self _)
      · rw [ho] at hdup
        cases hdup
    | reconcile r =>
      obtain ⟨rfl, hversion, o, hok⟩ := h
      rcases reconcile_store hs r now with ⟨e, he⟩ | ⟨digest, p, _, _, _, hp, -, -, -, hv, -, hrun⟩
      · rw [he] at hok
        cases hok
      · have hv := hv version hversion
        refine ⟨⟨digest, p, hp, hv⟩, digest, r.updated p now, ?_, ?_⟩
        · simp only [StoreStep.exec, LedgerCall.action, perform_discard, hrun]
          exact AList.lookup_insert _
        · rw [← hv]
          exact Int.ofNat_lt.2 (Nat.lt_succ_self _)
    | _ => cases h
  | _ => cases h

theorem mutated_rows {changed : CommandOperation} {outbox : List MemoryOutboxIntent}
    (h : Mutated s m o now changed outbox) :
    (m.action = .retry ∧ ∃ i, outbox = s.outbox ++ [i] ∧ rowKey i = m.key) ∨
      m.action ≠ .retry ∧ outbox.length = s.outbox.length := by
  cases h with
  | cancelled action => exact .inr ⟨by rw [action]; simp, by simp [mapIntents]⟩
  | parked action => exact .inr ⟨by rw [action]; simp, rfl⟩
  | reconciled action => exact .inr ⟨by rw [action]; simp, by simp [mapIntents]⟩
  | retried action => exact .inl ⟨action, _, rfl, rfl⟩

end Step

/-! ## Runs -/

section Run

variable {done : List StoreStep} {k : Key} {version : Int} {m m' : Mutation} {now now' : Time} {o : CommandOperation}

theorem store_mutate (done : List StoreStep) (m : Mutation) (now : Time) :
    store (done ++ [⟨.ledger (.mutateOperation m), now⟩]) = (perform (mutateOperation m now) (store done)).2 := by
  rw [store_concat]
  simp only [StoreStep.exec, LedgerCall.action, perform_discard]

theorem store_remembered
    (h : (store done).mutations.lookup key = some e) : ∀ more : List StoreStep,
    (store (done ++ more)).mutations.lookup key = some e := by
  intro more
  induction more using List.reverseRecOn with
  | nil => rw [List.append_nil, h]
  | append_singleton more x ih =>
    rw [← List.append_assoc]
    exact (store_stored (done ++ more) x).remembered ih

/-- After a mutation was answered, its command and its answer are in the store at every later point. -/
theorem answered_later (h : (perform (mutateOperation m now) (store done)).1 = .ok o) (mid : List StoreStep) :
    ∃ entry p, (store (done ++ ⟨.ledger (.mutateOperation m), now⟩ :: mid)).commands.lookup m.key = some entry ∧
      (store (done ++ ⟨.ledger (.mutateOperation m), now⟩ :: mid)).mutations.lookup m.mutationKey =
        some (Sha256.hexdigest m.text, p) ∧ { p with duplicate := true } = { o with duplicate := true } := by
  obtain ⟨⟨⟨digest, q⟩, hq⟩, hcase⟩ := mutate_ok (store_wf done).synced h
  obtain ⟨p, hp, hdup⟩ : ∃ p, (store (done ++ [⟨.ledger (.mutateOperation m), now⟩])).mutations.lookup m.mutationKey =
      some (Sha256.hexdigest m.text, p) ∧ { p with duplicate := true } = { o with duplicate := true } := by
    rw [store_mutate]
    rcases hcase with ⟨-, _, _, _, _, _, -, -, -, -, hrun⟩ | ⟨p, hp, ho, hrun⟩
    · rw [hrun]
      exact ⟨o, AList.lookup_insert _, rfl⟩
    · rw [hrun]
      exact ⟨p, hp, by rw [ho]⟩
  obtain ⟨o', ho', -⟩ := store_kept done hq (⟨.ledger (.mutateOperation m), now⟩ :: mid)
  refine ⟨(digest, o'), p, ho', ?_, hdup⟩
  have := store_remembered hp mid
  rwa [List.append_assoc, List.singleton_append] at this

theorem succeeds_once {x x' : StoreStep} {mid : List StoreStep} (h : x.Succeeds (store done) k version)
    (h' : x'.Succeeds (store (done ++ x :: mid)) k version) : False := by
  obtain ⟨-, digest, p, hp, hlt⟩ := succeeds_version (store_wf done).synced h
  rw [← store_concat] at hp
  obtain ⟨p', hp', hlater⟩ := store_kept _ hp mid
  rw [List.append_assoc, List.singleton_append] at hp'
  obtain ⟨⟨_, q, hq, hv⟩, -⟩ := succeeds_version (store_wf _).synced h'
  cases hp'.symm.trans hq
  have := hlater.version
  omega

end Run

/-- What the version and the idempotency key promise of a run. -/
structure VersionFenced (steps : List StoreStep) : Prop where
  once : ∀ (done : List StoreStep) x (mid : List StoreStep) x' (rest : List StoreStep) k version,
    steps = done ++ x :: (mid ++ x' :: rest) →
    x.Succeeds (store done) k version → ¬x'.Succeeds (store (done ++ x :: mid)) k version
  repeated : ∀ (done : List StoreStep) m now (mid : List StoreStep) m' now' (rest : List StoreStep) o,
    steps = done ++ ⟨.ledger (.mutateOperation m), now⟩ :: (mid ++ ⟨.ledger (.mutateOperation m'), now'⟩ :: rest) →
    (perform (mutateOperation m now) (store done)).1 = .ok o → m'.mutationKey = m.mutationKey →
    m'.expectedVersion = m.expectedVersion → m'.reason = m.reason →
    perform (mutateOperation m' now') (store (done ++ ⟨.ledger (.mutateOperation m), now⟩ :: mid)) =
      (.ok { o with duplicate := true }, store (done ++ ⟨.ledger (.mutateOperation m), now⟩ :: mid))
  conflicting : ∀ (done : List StoreStep) m now (mid : List StoreStep) m' now' (rest : List StoreStep) o,
    steps = done ++ ⟨.ledger (.mutateOperation m), now⟩ :: (mid ++ ⟨.ledger (.mutateOperation m'), now'⟩ :: rest) →
    (perform (mutateOperation m now) (store done)).1 = .ok o → m'.mutationKey = m.mutationKey →
    (m'.expectedVersion ≠ m.expectedVersion ∨ m'.reason ≠ m.reason) → Set.InjOn Sha256.hexdigest {m.text, m'.text} →
    ∃ message, perform (mutateOperation m' now') (store (done ++ ⟨.ledger (.mutateOperation m), now⟩ :: mid)) =
      (.error (.commandConflict message), store (done ++ ⟨.ledger (.mutateOperation m), now⟩ :: mid))
  retried : ∀ (done : List StoreStep) m now (rest : List StoreStep), steps = done ++ ⟨.ledger (.mutateOperation m), now⟩ :: rest →
    ((m.action = .retry ∧ ∃ o, (perform (mutateOperation m now) (store done)).1 = .ok o ∧ o.duplicate = false) ∧
      ∃ i, (store (done ++ [⟨.ledger (.mutateOperation m), now⟩])).outbox = (store done).outbox ++ [i] ∧
        rowKey i = m.key) ∨
    ¬(m.action = .retry ∧ ∃ o, (perform (mutateOperation m now) (store done)).1 = .ok o ∧ o.duplicate = false) ∧
      (store (done ++ [⟨.ledger (.mutateOperation m), now⟩])).outbox.length = (store done).outbox.length

/-- Operator mutations are fenced by version and made at most once, in every run. -/
theorem mutations_exactly_once (steps : List StoreStep) : VersionFenced steps where
  once done x mid x' rest k version _ h h' := succeeds_once h h'
  repeated done m now mid m' now' rest o _ h hkey hversion hreason := by
    obtain ⟨entry, p, hentry, hp, hdup⟩ := answered_later h mid
    have hcommand : m'.key = m.key := by
      simp only [Prod.mk.injEq] at hkey
      exact Prod.ext hkey.1 hkey.2.1
    rw [← hkey] at hp
    rw [← hcommand] at hentry
    rw [mutateOperation_known m' now' hentry hp, if_pos, hdup]
    rw [hversion, hreason, mutationDigest_eq]
  conflicting done m now mid m' now' rest o _ h hkey hother collisionFree := by
    obtain ⟨entry, p, hentry, hp, -⟩ := answered_later h mid
    have hcommand : m'.key = m.key := by
      simp only [Prod.mk.injEq] at hkey
      exact Prod.ext hkey.1 hkey.2.1
    rw [← hkey] at hp
    rw [← hcommand] at hentry
    have hdigest : Sha256.hexdigest m.text ≠ mutationDigest m'.expectedVersion m'.reason := by
      intro hdigest
      obtain ⟨hversion, hreason⟩ := Mutation.text_inj (collisionFree (by simp) (by simp) hdigest)
      rcases hother with hne | hne
      · exact hne hversion.symm
      · exact hne hreason.symm
    have hknown := mutateOperation_known m' now' hentry hp
    rw [if_neg hdigest] at hknown
    exact ⟨_, hknown⟩
  retried done m now rest _ := by
    rw [store_mutate]
    cases hreply : (perform (mutateOperation m now) (store done)).1 with
    | error e =>
      right
      rcases mutateOperation_cases (store_wf done).synced m now with
        ⟨r, h⟩ | ⟨_, _, _, _, _, _, _, -, -, -, -, -, h, -⟩
      · refine ⟨?_, by rw [h]⟩
        rintro ⟨-, o, ho, -⟩
        cases ho
      · rw [h] at hreply
        cases hreply
    | ok o =>
      obtain ⟨-, ⟨-, digest, p, changed, outbox, events, hp, -, hmut, ho, hrun⟩ | ⟨p, -, ho, hrun⟩⟩ :=
        mutate_ok (store_wf done).synced hreply
      · rw [hrun]
        rcases mutated_rows hmut with ⟨haction, i, hi, hk⟩ | ⟨haction, hlen⟩
        · have hdup : o.duplicate = false := by
            rw [ho, (mutation_later hmut).duplicate]
            exact store_duplicate done _ _ _ hp
          exact .inl ⟨⟨haction, o, rfl, hdup⟩, i, hi, hk⟩
        · exact .inr ⟨fun h => haction h.1, hlen⟩
      · rw [hrun]
        refine .inr ⟨?_, rfl⟩
        rintro ⟨-, o', ho', hdup⟩
        cases ho'
        rw [ho] at hdup
        cases hdup

end Middleware.Platform.Store
