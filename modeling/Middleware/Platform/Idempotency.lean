/-
Submission is idempotent: whatever the callers submit, in whatever order and with whatever other calls between, a
command has one identity by its id and one by its idempotency key, and both stand or fall together.

The store compares digests. What is said of envelopes is said for runs in which SHA-256 does not collide on the
canonical texts that were submitted; these determine the envelope and the client.
-/
import Middleware.Data.Canonical
import Middleware.Platform.Store

namespace Middleware.Ledger

/-! ## What a digest stands for -/

/-- Equal in every field, the payloads as dictionaries: the order of members does not count. -/
structure CommandEnvelope.Same (c c' : CommandEnvelope) : Prop where
  fields : { c with payload := [] } = { c' with payload := [] }
  payload : (Json.obj c.payload).canon = (Json.obj c'.payload).canon

/-- The canonical texts a submission is hashed to: with its client, and in the legacy form without. -/
def Submission.text (r : Submission) : String :=
  dumps false (.obj (authenticatedCommandPayload r.command r.authenticatedClientId))

def Submission.legacyText (r : Submission) : String := dumps false (.obj r.command.modelDump)

theorem authenticatedCommandPayload_eq (c : CommandEnvelope) (clientId : String) :
    authenticatedCommandPayload c clientId = c.modelDump ++ [("_authenticated_client_id", .str clientId)] := by
  simp [authenticatedCommandPayload, CommandEnvelope.modelDump, Obj.set]

theorem modelDump_field {c : CommandEnvelope} {clientId key : String} {v : Json}
    (h : ∃ m ∈ authenticatedCommandPayload c clientId, m.1 = key ∧ m.2.canon = v) :
    (key = "command_id" ∧ v = .str c.commandId) ∨ (key = "command_type" ∧ v = .str c.commandType) ∨
    (key = "command_version" ∧ v = .str c.commandVersion) ∨ (key = "target" ∧ v = .str c.target) ∨
    (key = "tenant_id" ∧ v = .str c.tenantId) ∨ (key = "requested_by" ∧ v = .str c.requestedBy) ∨
    (key = "correlation_id" ∧ v = .str c.correlationId) ∨ (key = "idempotency_key" ∧ v = .str c.idempotencyKey) ∨
    (key = "capability" ∧ v = .str c.capability) ∨ (key = "payload" ∧ v = (Json.obj c.payload).canon) ∨
    (key = "_authenticated_client_id" ∧ v = .str clientId) := by
  obtain ⟨m, hm, rfl, rfl⟩ := h
  simp only [authenticatedCommandPayload_eq, CommandEnvelope.modelDump, List.mem_append, List.mem_cons, List.not_mem_nil,
    or_false] at hm
  rcases hm with (rfl | rfl | rfl | rfl | rfl | rfl | rfl | rfl | rfl | rfl) | rfl <;> simp [Json.canon]

variable {r r' : Submission}

theorem authenticated_valid (hr : validMembers r.command.payload = true) :
    (Json.obj (authenticatedCommandPayload r.command r.authenticatedClientId)).valid = true := by
  simp [authenticatedCommandPayload_eq, CommandEnvelope.modelDump, Json.valid, validMembers, hr]

theorem legacy_valid (hr : validMembers r.command.payload = true) : (Json.obj r.command.modelDump).valid = true := by
  simp [CommandEnvelope.modelDump, Json.valid, validMembers, hr]

theorem text_inj (hr : validMembers r.command.payload = true) (hr' : validMembers r'.command.payload = true)
    (h : r.text = r'.text) :
    r.authenticatedClientId = r'.authenticatedClientId ∧ r.command.Same r'.command := by
  have hcanon := dumps_inj (authenticated_valid hr) (authenticated_valid hr') h
  have hmem : ∀ m ∈ authenticatedCommandPayload r.command r.authenticatedClientId,
      ∃ m' ∈ authenticatedCommandPayload r'.command r'.authenticatedClientId, m'.1 = m.1 ∧ m'.2.canon = m.2.canon :=
    fun m hm => canon_obj_mem hcanon hm
  simp only [authenticatedCommandPayload_eq r.command, CommandEnvelope.modelDump, List.cons_append, List.nil_append,
    List.forall_mem_cons] at hmem
  obtain ⟨h₁, h₂, h₃, h₄, h₅, h₆, h₇, h₈, h₉, h₁₀, h₁₁, -⟩ := hmem
  have h₁ : r.command.commandId = r'.command.commandId := by simpa [Json.canon] using modelDump_field h₁
  have h₂ : r.command.commandType = r'.command.commandType := by simpa [Json.canon] using modelDump_field h₂
  have h₃ : r.command.commandVersion = r'.command.commandVersion := by simpa [Json.canon] using modelDump_field h₃
  have h₄ : r.command.target = r'.command.target := by simpa [Json.canon] using modelDump_field h₄
  have h₅ : r.command.tenantId = r'.command.tenantId := by simpa [Json.canon] using modelDump_field h₅
  have h₆ : r.command.requestedBy = r'.command.requestedBy := by simpa [Json.canon] using modelDump_field h₆
  have h₇ : r.command.correlationId = r'.command.correlationId := by simpa [Json.canon] using modelDump_field h₇
  have h₈ : r.command.idempotencyKey = r'.command.idempotencyKey := by simpa [Json.canon] using modelDump_field h₈
  have h₉ : r.command.capability = r'.command.capability := by simpa [Json.canon] using modelDump_field h₉
  have h₁₀ : (Json.obj r.command.payload).canon = (Json.obj r'.command.payload).canon := by
    simpa using modelDump_field h₁₀
  have h₁₁ : r.authenticatedClientId = r'.authenticatedClientId := by simpa [Json.canon] using modelDump_field h₁₁
  refine ⟨h₁₁, ?_, h₁₀⟩
  rw [h₁, h₂, h₃, h₄, h₅, h₆, h₇, h₈, h₉]

theorem text_ne_legacy (hr : validMembers r.command.payload = true) (hr' : validMembers r'.command.payload = true) :
    r.text ≠ r'.legacyText := by
  intro h
  have hcanon := dumps_inj (authenticated_valid hr) (legacy_valid hr') h
  obtain ⟨m, hm, hkey, -⟩ := canon_obj_mem hcanon
    (m := ("_authenticated_client_id", .str r.authenticatedClientId)) (by simp [authenticatedCommandPayload_eq])
  simp only [CommandEnvelope.modelDump, List.mem_cons, List.not_mem_nil, or_false] at hm
  rcases hm with rfl | rfl | rfl | rfl | rfl | rfl | rfl | rfl | rfl | rfl <;> simp at hkey

end Middleware.Ledger

namespace Middleware.Platform.Store

open Ledger MemoryCommandStore

/-! ## The two indexes -/

/-- Every command is found by its idempotency key, and what an idempotency key names is a command with that key. -/
structure Indexed (s : MemoryCommandStore) : Prop where
  byKey : ∀ {k digest o}, s.commands.lookup k = some (digest, o) →
    ∃ digest' o', s.idempotency.lookup (k.1, o.idempotencyKey) = some (digest', o') ∧ o'.commandId = k.2
  byId : ∀ {tenantId key digest o}, s.idempotency.lookup (tenantId, key) = some (digest, o) →
    ∃ o', s.commands.lookup (tenantId, o.commandId) = some (digest, o') ∧ o'.idempotencyKey = key

theorem Indexed.empty : Indexed {} := ⟨fun h => by simp at h, fun h => by simp at h⟩

section Step

variable {s s' : MemoryCommandStore} {x : StoreStep} {k : Key} {digest : String} {o o' : CommandOperation}

theorem Indexed.unique (hi : Indexed s) {k' : Key} {digest' : String} (h : s.commands.lookup k = some (digest, o))
    (h' : s.commands.lookup k' = some (digest', o')) (ht : k.1 = k'.1) (hkey : o.idempotencyKey = o'.idempotencyKey) :
    k = k' := by
  obtain ⟨d, p, hp, hpid⟩ := hi.byKey h
  obtain ⟨d', p', hp', hpid'⟩ := hi.byKey h'
  rw [← ht, ← hkey, hp] at hp'
  cases hp'
  exact Prod.ext ht (hpid.symm.trans hpid')

/-- An operation is replaced under its identity; its index is replaced with it, or left alone. -/
theorem Indexed.update (hi : Indexed s) (hw : WF s) (h : s.commands.lookup k = some (digest, o))
    (hid : o'.identity = o.identity) (hc : s'.commands = s.commands.insert k (digest, o'))
    (hk : s'.idempotency = s.idempotency ∨ s'.idempotency = s.idempotency.insert (k.1, o.idempotencyKey) (digest, o')) :
    Indexed s' := by
  have hkeyed := hw.keyed h
  simp only [CommandOperation.identity, Prod.mk.injEq] at hid
  obtain ⟨hcid, -, -, -, hkey, -⟩ := hid
  have hpid : o'.commandId = k.2 := by rw [hcid, ← hkeyed]
  have hpk : (k.1, o'.commandId) = k := Prod.ext rfl hpid
  refine ⟨fun {k' d p} hl => ?_, fun {t key d p} hl => ?_⟩
  · rw [hc, lookup_insert_ite] at hl
    by_cases hkk : k' = k
    · subst hkk
      rw [if_pos rfl] at hl
      cases hl
      rcases hk with hk | hk
      · rw [hk, hkey]
        exact hi.byKey h
      · exact ⟨digest, o', by rw [hk, hkey, AList.lookup_insert], hpid⟩
    · rw [if_neg hkk] at hl
      obtain ⟨d', p', hp', hpid'⟩ := hi.byKey hl
      rcases hk with hk | hk
      · exact ⟨d', p', by rw [hk]; exact hp', hpid'⟩
      · refine ⟨d', p', ?_, hpid'⟩
        rw [hk, lookup_insert_ite, if_neg]
        · exact hp'
        · intro heq
          rw [Prod.mk.injEq] at heq
          exact hkk (hi.unique hl h heq.1 heq.2)
  · have hold : s.idempotency.lookup (t, key) = some (d, p) →
        ∃ o'', s'.commands.lookup (t, p.commandId) = some (d, o'') ∧ o''.idempotencyKey = key := by
      intro hl
      obtain ⟨p', hp', hpkey⟩ := hi.byId hl
      rw [hc, lookup_insert_ite]
      by_cases hkk : (t, p.commandId) = k
      · rw [hkk, h] at hp'
        cases hp'
        exact ⟨o', if_pos hkk, hkey.trans hpkey⟩
      · exact ⟨p', by rw [if_neg hkk, hp'], hpkey⟩
    rcases hk with hk | hk
    · rw [hk] at hl
      exact hold hl
    · rw [hk, lookup_insert_ite] at hl
      split at hl
      · rename_i heq
        cases hl
        rw [Prod.mk.injEq] at heq
        refine ⟨o', ?_, hkey.trans heq.2.symm⟩
        rw [hc, heq.1, hpk, AList.lookup_insert]
      · exact hold hl

theorem Indexed.admitted (hi : Indexed s) {r : Submission} {now : Time} (hid : s.commands.lookup r.key = none)
    (hkey : s.idempotency.lookup (r.command.tenantId, r.command.idempotencyKey) = none) : Indexed (r.admitted s now) := by
  refine ⟨fun {k d p} hl => ?_, fun {t key d p} hl => ?_⟩
  · simp only [Submission.admitted, lookup_insert_ite] at hl ⊢
    split at hl
    · rename_i hk
      cases hl
      refine ⟨_, r.operation now, if_pos ?_, by rw [hk]; rfl⟩
      rw [hk]
      rfl
    · obtain ⟨d', p', hp', hpid⟩ := hi.byKey hl
      refine ⟨d', p', ?_, hpid⟩
      rw [if_neg]
      · exact hp'
      · intro heq
        rw [heq, hkey] at hp'
        cases hp'
  · simp only [Submission.admitted, lookup_insert_ite] at hl ⊢
    split at hl
    · rename_i hk
      rw [Prod.mk.injEq] at hk
      cases hl
      refine ⟨r.operation now, if_pos ?_, hk.2.symm⟩
      rw [hk.1]
      rfl
    · obtain ⟨p', hp', hpkey⟩ := hi.byId hl
      refine ⟨p', ?_, hpkey⟩
      rw [if_neg]
      · exact hp'
      · intro heq
        rw [heq, hid] at hp'
        cases hp'

theorem Stored.indexed (h : Stored s x s') (hw : WF s) (hi : Indexed s) : Indexed s' := by
  cases h with
  | same => exact hi
  | submitted r call newId newKey => exact hi.admitted newId newKey
  | transitioned t call digest o command => exact hi.update hw command (transition_later t o _).identity rfl (.inr rfl)
  | reconciled r call digest o command => exact hi.update hw command (reconciliation_later r o _).identity rfl (.inr rfl)
  | mutated m call new digest o changed outbox command mutated =>
    exact hi.update hw command (mutation_later mutated).identity rfl (.inl rfl)
  | deadLettered | requested | completed | withdrawn | rows => exact ⟨hi.byKey, hi.byId⟩

theorem Stored.rows_kept (h : Stored s x s') :
    (s.outbox.map fun i => (i.id, rowKey i)) <+: s'.outbox.map fun i => (i.id, rowKey i) := by
  have hmap : ∀ f : MemoryOutboxIntent → MemoryOutboxIntent, (∀ i, (f i).id = i.id ∧ rowKey (f i) = rowKey i) →
      (s.outbox.map fun i => (i.id, rowKey i)) <+: (s.outbox.map f).map fun i => (i.id, rowKey i) := by
    intro f hf
    have hcomp : (fun i => (i.id, rowKey i)) ∘ f = fun i => (i.id, rowKey i) := funext fun i => Prod.ext (hf i).1 (hf i).2
    rw [List.map_map, hcomp]
  have hintents : ∀ (tenantId : String) (commandId : Uuid) (f : MemoryOutboxIntent → MemoryOutboxIntent),
      (∀ i, (f i).id = i.id ∧ rowKey (f i) = rowKey i) →
      (s.outbox.map fun i => (i.id, rowKey i)) <+: (mapIntents tenantId commandId f s.outbox).map fun i => (i.id, rowKey i) := by
    intro tenantId commandId f hf
    refine hmap _ fun i => ?_
    split
    · exact hf i
    · exact ⟨rfl, rfl⟩
  cases h with
  | submitted r =>
    simp only [Submission.admitted, List.map_append]
    exact List.prefix_append _ _
  | mutated m call new digest o changed outbox command mutated =>
    cases mutated with
    | cancelled =>
      refine hintents _ _ _ fun i => ?_
      unfold cancelIntent
      split <;> exact ⟨rfl, rfl⟩
    | parked => exact List.prefix_rfl
    | reconciled =>
      refine hintents _ _ _ fun i => ?_
      unfold parkIntent
      split <;> exact ⟨rfl, rfl⟩
    | retried =>
      rw [List.map_append]
      exact List.prefix_append _ _
  | rows f same => exact hmap f fun i => ⟨(same i).id, (same i).key⟩
  | same | transitioned | reconciled | deadLettered | requested | completed | withdrawn => exact List.prefix_rfl

end Step

/-! ## Runs -/

structure Creates (s : MemoryCommandStore) (r : Submission) (now : Time) : Prop where
  newId : s.commands.lookup r.key = none
  newKey : s.idempotency.lookup (r.command.tenantId, r.command.idempotencyKey) = none
  reply : perform (submit r now) s = (.ok (r.operation now), r.admitted s now)

section Run

variable {k : Key} {digest : String} {o : CommandOperation} {r : Submission} {now : Time}
variable (steps : List StoreStep)

theorem store_indexed : Indexed (store steps) := by
  induction steps using List.reverseRecOn with
  | nil => exact Indexed.empty
  | append_singleton steps x ih => exact (store_stored steps x).indexed (store_wf steps) ih

theorem store_rows : ∀ more : List StoreStep,
    ((store steps).outbox.map fun i => (i.id, rowKey i)) <+: (store (steps ++ more)).outbox.map fun i => (i.id, rowKey i) := by
  intro more
  induction more using List.reverseRecOn with
  | nil => rw [List.append_nil]
  | append_singleton more x ih =>
    rw [← List.append_assoc]
    exact ih.trans (store_stored (steps ++ more) x).rows_kept

/-- The outcome of a submission whose identities are both new. -/
theorem creates_or (s : MemoryCommandStore) (r : Submission) (now : Time) : Creates s r now ∨
    (perform (submit r now) s).2 = s := by
  rcases submit_store (s := s) r now with ⟨hid, hkey, -, h⟩ | ⟨_, _, -, -, h⟩ | ⟨_, h⟩
  · exact .inl ⟨hid, hkey, h⟩
  · exact .inr (by rw [h])
  · exact .inr (by rw [h])

theorem store_submit (done : List StoreStep) (r : Submission) (now : Time) :
    store (done ++ [⟨.ledger (.submit r), now⟩]) = (perform (submit r now) (store done)).2 := by
  rw [store_concat]
  simp only [StoreStep.exec, LedgerCall.action, perform_discard]

theorem store_origin : ∀ k digest o, (store steps).commands.lookup k = some (digest, o) →
    ∃ done r now rest, steps = done ++ ⟨.ledger (.submit r), now⟩ :: rest ∧ Creates (store done) r now ∧ r.key = k ∧
      digest = authenticatedCommandDigest r.command r.authenticatedClientId ∧ Later (r.operation now) o := by
  induction steps using List.reverseRecOn with
  | nil => intro k digest o h; cases h
  | append_singleton steps x ih =>
    intro k digest o' h
    rcases (store_stored steps x).source h with ⟨o, ho, hid⟩ | ⟨r, hcall, hk, hdigest, ho, hnewId, hnewKey⟩
    · obtain ⟨done, r, now, rest, hsteps, hcreates, hk, hdigest, hid'⟩ := ih k digest o ho
      exact ⟨done, r, now, rest ++ [x], by simp [hsteps], hcreates, hk, hdigest, hid'.trans hid⟩
    · obtain ⟨call, now⟩ := x
      obtain rfl : call = .ledger (.submit r) := hcall
      refine ⟨steps, r, now, [], rfl, ?_, hk, hdigest, by rw [ho]; exact .refl _⟩
      rcases creates_or (store steps) r now with hc | hsame
      · exact hc
      · rw [store_submit, hsame, ← hk, hnewId] at h
        cases h

/-- A command that was created stands in the way of every other with its id or its idempotency key. -/
theorem creates_once {done mid : List StoreStep} {r' : Submission} {now' : Time} (h : Creates (store done) r now)
    (h' : Creates (store (done ++ ⟨.ledger (.submit r), now⟩ :: mid)) r' now')
    (ht : r.command.tenantId = r'.command.tenantId) :
    r.command.commandId ≠ r'.command.commandId ∧ r.command.idempotencyKey ≠ r'.command.idempotencyKey := by
  have hcreated : (store (done ++ [⟨.ledger (.submit r), now⟩])).commands.lookup r.key =
      some (authenticatedCommandDigest r.command r.authenticatedClientId, r.operation now) := by
    rw [store_submit, h.reply, Submission.admitted]
    exact AList.lookup_insert _
  obtain ⟨o', ho', hid⟩ := store_kept _ hcreated mid
  rw [List.append_assoc, List.singleton_append] at ho'
  refine ⟨fun hc => ?_, fun hc => ?_⟩
  · have hk : r.key = r'.key := Prod.ext ht hc
    rw [hk, h'.newId] at ho'
    cases ho'
  · obtain ⟨_, _, hkey, -⟩ := (store_indexed _).byKey ho'
    have hidentity := hid.identity
    simp only [CommandOperation.identity, Prod.mk.injEq] at hidentity
    have hnone := h'.newKey
    rw [hidentity.2.2.2.2.1] at hkey
    rw [← ht, ← hc] at hnone
    exact absurd (hkey.symm.trans hnone) (by simp)

/-- A submission adds a row for the command under `k` after the steps `done`. -/
def Appends (steps done : List StoreStep) (k : Key) : Prop :=
  ∃ r : Submission, ∃ now, ∃ rest : List StoreStep, steps = done ++ ⟨.ledger (.submit r), now⟩ :: rest ∧ r.key = k ∧
    (store (done ++ [⟨.ledger (.submit r), now⟩])).outbox =
      (store done).outbox ++ [r.intent ((store done).outbox.length + 1)]

theorem Creates.appends {steps done rest : List StoreStep} (h : Creates (store done) r now)
    (hsteps : steps = done ++ ⟨.ledger (.submit r), now⟩ :: rest) : Appends steps done r.key :=
  ⟨r, now, rest, hsteps, rfl, by rw [store_submit, h.reply]; rfl⟩

theorem Appends.creates {steps done : List StoreStep} (h : Appends steps done k) :
    ∃ r now rest, steps = done ++ ⟨.ledger (.submit r), now⟩ :: rest ∧ r.key = k ∧ Creates (store done) r now := by
  obtain ⟨r, now, rest, hsteps, hk, hrow⟩ := h
  refine ⟨r, now, rest, hsteps, hk, ?_⟩
  rcases creates_or (store done) r now with hc | hsame
  · exact hc
  · rw [store_submit, hsame] at hrow
    simp at hrow

/-- No command gets rows from two submissions. -/
theorem appends_unique {steps done done' : List StoreStep} (h : Appends steps done k) (h' : Appends steps done' k)
    (hle : done.length ≤ done'.length) : done = done' := by
  obtain ⟨r, now, rest, hsteps, hk, hc⟩ := h.creates
  obtain ⟨r', now', rest', hsteps', hk', hc'⟩ := h'.creates
  obtain ⟨tail, htail⟩ : done <+: done' :=
    List.prefix_of_prefix_length_le ⟨_, hsteps.symm⟩ ⟨_, hsteps'.symm⟩ hle
  cases tail with
  | nil => rw [← htail, List.append_nil]
  | cons x mid =>
    rw [hsteps', ← htail, List.append_assoc] at hsteps
    have hx := (List.cons.inj (List.append_cancel_left hsteps)).1
    subst hx
    rw [← htail] at hc'
    have hkey : r.key = r'.key := hk.trans hk'.symm
    exact absurd (congrArg Prod.snd hkey) (creates_once hc hc' (congrArg Prod.fst hkey)).1

end Run

/-- The canonical texts the submissions of a run are hashed to. -/
def canonicalTexts (steps : List StoreStep) : Set String :=
  {t | ∃ r now, ⟨.ledger (.submit r), now⟩ ∈ steps ∧ (t = r.text ∨ t = r.legacyText)}

/-- What submission promises of a run. -/
structure Idempotent (steps : List StoreStep) : Prop where
  unique : ∀ k k' digest digest' o o', (store steps).commands.lookup k = some (digest, o) →
    (store steps).commands.lookup k' = some (digest', o') → o.tenantId = o'.tenantId →
    o.idempotencyKey = o'.idempotencyKey ∨ o.commandId = o'.commandId → k = k'
  once : ∀ done r now mid r' now' rest,
    steps = done ++ ⟨.ledger (.submit r), now⟩ :: (mid ++ ⟨.ledger (.submit r'), now'⟩ :: rest) →
    Creates (store done) r now → Creates (store (done ++ ⟨.ledger (.submit r), now⟩ :: mid)) r' now' →
    r.command.tenantId = r'.command.tenantId →
    r.command.commandId ≠ r'.command.commandId ∧ r.command.idempotencyKey ≠ r'.command.idempotencyKey
  intents : ∀ k ∈ (store steps).commands, ∃! done, Appends steps done k
  rows : ∀ done rest, steps = done ++ rest →
    ((store done).outbox.map fun i => (i.id, rowKey i)) <+: (store steps).outbox.map fun i => (i.id, rowKey i)
  submissions : ∀ done r now rest, steps = done ++ ⟨.ledger (.submit r), now⟩ :: rest →
    Creates (store done) r now ∨
    (∃ digest o, (store done).commands.lookup r.key = some (digest, o) ∧
      perform (submit r now) (store done) = (.ok { o with duplicate := true }, store done) ∧
      ∃ r₀ now₀, ⟨.ledger (.submit r₀), now₀⟩ ∈ done ∧ r₀.authenticatedClientId = r.authenticatedClientId ∧
        r₀.command.Same r.command) ∨
    ∃ message, perform (submit r now) (store done) = (.error (.commandConflict message), store done)

section Digests

variable {steps done rest : List StoreStep} {r r₀ : Submission} {now now₀ : Time}

theorem digest_matches (json : ∀ r now, ⟨.ledger (.submit r), now⟩ ∈ steps → validMembers r.command.payload = true)
    (collisionFree : Set.InjOn Sha256.hexdigest (canonicalTexts steps)) (hr : ⟨.ledger (.submit r), now⟩ ∈ steps)
    (hr₀ : ⟨.ledger (.submit r₀), now₀⟩ ∈ steps)
    (h : commandDigestMatches (authenticatedCommandDigest r₀.command r₀.authenticatedClientId) r.command
      r.authenticatedClientId = true) :
    r₀.authenticatedClientId = r.authenticatedClientId ∧ r₀.command.Same r.command := by
  have hvalid := json r now hr
  have hvalid₀ := json r₀ now₀ hr₀
  have hmem : r.text ∈ canonicalTexts steps := ⟨r, now, hr, .inl rfl⟩
  have hlegacy : r.legacyText ∈ canonicalTexts steps := ⟨r, now, hr, .inr rfl⟩
  have hmem₀ : r₀.text ∈ canonicalTexts steps := ⟨r₀, now₀, hr₀, .inl rfl⟩
  simp only [commandDigestMatches, Bool.or_eq_true, beq_iff_eq] at h
  rcases h with h | h
  · exact text_inj hvalid₀ hvalid (collisionFree hmem₀ hmem h)
  · exact absurd (collisionFree hmem₀ hlegacy h) (text_ne_legacy hvalid₀ hvalid)

/-- Submission is idempotent in every run whose digests do not collide. -/
theorem submission_idempotent (steps : List StoreStep)
    (json : ∀ r now, ⟨.ledger (.submit r), now⟩ ∈ steps → validMembers r.command.payload = true)
    (collisionFree : Set.InjOn Sha256.hexdigest (canonicalTexts steps)) : Idempotent steps where
  unique k k' digest digest' o o' h h' ht hsame := by
    have hk := (store_wf steps).keyed h
    have hk' := (store_wf steps).keyed h'
    rcases hsame with hkey | hid
    · refine (store_indexed steps).unique h h' ?_ hkey
      rw [← hk, ← hk']
      exact ht
    · rw [← hk, ← hk', ht, hid]
  once done r now mid r' now' rest _ h h' ht := creates_once h h' ht
  intents k hk := by
    obtain ⟨⟨digest, o⟩, ho⟩ := Option.isSome_iff_exists.1 (AList.lookup_isSome.2 hk)
    obtain ⟨done, r, now, rest, hsteps, hcreates, rfl, -, -⟩ := store_origin steps k digest o ho
    refine ⟨done, hcreates.appends hsteps, fun done' h' => ?_⟩
    rcases le_total done'.length done.length with hle | hle
    · exact appends_unique h' (hcreates.appends hsteps) hle
    · exact (appends_unique (hcreates.appends hsteps) h' hle).symm
  rows done rest hsteps := by
    rw [hsteps]
    exact store_rows done rest
  submissions done r now rest hsteps := by
    have hr : ⟨.ledger (.submit r), now⟩ ∈ steps := by simp [hsteps]
    rcases submit_store (s := store done) r now with ⟨hid, hkey, -, h⟩ | ⟨digest, o, hfound, hmatch, h⟩ | ⟨message, h⟩
    · exact .inl ⟨hid, hkey, h⟩
    · -- The operation that was found is a command of the store, with the digest it was created with.
      obtain ⟨k, o', hk, ho'⟩ : ∃ k o', (store done).commands.lookup k = some (digest, o') ∧
          ((store done).commands.lookup r.key = none ∨ k = r.key ∧ o' = o) := by
        rcases hfound with hid | ⟨hid, hkey⟩
        · exact ⟨r.key, o, hid, .inr ⟨rfl, rfl⟩⟩
        · obtain ⟨o', ho', -⟩ := (store_indexed done).byId hkey
          exact ⟨_, o', ho', .inl hid⟩
      obtain ⟨done₀, r₀, now₀, rest₀, hdone, -, hk₀, hdigest, -⟩ := store_origin done k digest o' hk
      have hmem₀ : ⟨.ledger (.submit r₀), now₀⟩ ∈ done := by simp [hdone]
      have hr₀ : ⟨.ledger (.submit r₀), now₀⟩ ∈ steps := by
        rw [hsteps]
        exact List.mem_append_left _ hmem₀
      rw [hdigest] at hmatch
      obtain ⟨hclient, hsame⟩ := digest_matches json collisionFree hr hr₀ hmatch
      have hkey : r₀.key = r.key := by
        have hfields := hsame.fields
        simp only [CommandEnvelope.mk.injEq] at hfields
        exact Prod.ext hfields.2.2.2.2.1 hfields.1
      rw [← hk₀, hkey] at hk ho'
      rcases ho' with hnone | ⟨-, rfl⟩
      · rw [hnone] at hk
        cases hk
      · exact .inr (.inl ⟨digest, o', hk, h, r₀, now₀, hmem₀, hclient, hsame⟩)
    · exact .inr (.inr ⟨message, h⟩)

end Digests

/-! ## A payload submitted twice -/

namespace Synthetic

def envelope (payload : Obj) : CommandEnvelope :=
  { commandId := "5a1c", commandType := "crm.write", commandVersion := "1.0", target := "odoo", tenantId := "a",
    requestedBy := "u", correlationId := "c", idempotencyKey := "i-1", capability := "CRM", payload := payload }

def submission (payload : Obj) : Submission :=
  { command := envelope payload, authenticatedClientId := "m" }

/-- The same payload, its members in two orders. -/
def resubmitted : List StoreStep :=
  [⟨.ledger (.submit (submission [("a", .int 1), ("b", .int 2)])), 1⟩,
    ⟨.ledger (.submit (submission [("b", .int 2), ("a", .int 1)])), 2⟩]

theorem resubmitted_collision_free : Set.InjOn Sha256.hexdigest (canonicalTexts resubmitted) := by
  have hne : Sha256.hexdigest (submission [("a", .int 1), ("b", .int 2)]).text ≠
      Sha256.hexdigest (submission [("a", .int 1), ("b", .int 2)]).legacyText := by
    intro h
    have hdigits := congrArg String.toList h
    rw [Sha256.hexdigest_toList, Sha256.hexdigest_toList, Submission.text, Submission.legacyText, dumps_eq_print,
      dumps_eq_print] at hdigits
    revert hdigits
    decide +kernel
  have htexts : ∀ t ∈ canonicalTexts resubmitted, t = (submission [("a", .int 1), ("b", .int 2)]).text ∨
      t = (submission [("a", .int 1), ("b", .int 2)]).legacyText := by
    rintro t ⟨r, now, hr, ht⟩
    simp only [resubmitted, List.mem_cons, StoreStep.mk.injEq, StoreCall.ledger.injEq, LedgerCall.submit.injEq,
      List.not_mem_nil, or_false] at hr
    rcases hr with ⟨rfl, -⟩ | ⟨rfl, -⟩
    · exact ht
    · have htext : (submission [("b", .int 2), ("a", .int 1)]).text =
          (submission [("a", .int 1), ("b", .int 2)]).text := dumps_of_canon <| by
        simp [Json.canon, authenticatedCommandPayload, CommandEnvelope.modelDump, canonMembers, submission, envelope, Obj.set]
      have hlegacy : (submission [("b", .int 2), ("a", .int 1)]).legacyText =
          (submission [("a", .int 1), ("b", .int 2)]).legacyText := dumps_of_canon <| by
        simp [Json.canon, CommandEnvelope.modelDump, canonMembers, submission, envelope]
      rwa [htext, hlegacy] at ht
  intro t ht t' ht' h
  rcases htexts t ht with rfl | rfl <;> rcases htexts t' ht' with rfl | rfl
  · rfl
  · exact absurd h hne
  · exact absurd h.symm hne
  · rfl

theorem resubmitted_json : ∀ r now, ⟨.ledger (.submit r), now⟩ ∈ resubmitted →
    validMembers r.command.payload = true := by
  intro r now hr
  simp only [resubmitted, List.mem_cons, StoreStep.mk.injEq, StoreCall.ledger.injEq, LedgerCall.submit.injEq,
    List.not_mem_nil, or_false] at hr
  rcases hr with ⟨rfl, -⟩ | ⟨rfl, -⟩ <;> decide +kernel

end Synthetic

theorem resubmission_idempotent : Idempotent Synthetic.resubmitted :=
  submission_idempotent _ Synthetic.resubmitted_json Synthetic.resubmitted_collision_free

end Middleware.Platform.Store
