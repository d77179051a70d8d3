/-
The two command ledgers of `app/commands.py` side by side: what makes a state of `MemoryCommandStore` and one of
`PostgresCommandStore` the same ledger, and exactly when `mutate_operation` and `complete_replay` answer alike on
corresponding states and leave corresponding states.

Generated ids are not compared, and of the markers of an intent only whether they are set: in memory an operator's call
stamps them with 0.0.
-/
import Middleware.Platform.Intents
import Middleware.Postgres.Evidence
import Middleware.Lib.Rows

namespace Middleware.Postgres

open Ledger Platform Platform.Store Lib PostgresCommandStore

/-- The tables of the ledger with `middleware_command_replays`, whose primary key is the replay id. -/
structure Database where
  tables : Tables
  replays : List ReplayRecord
  unique : (replays.map (·.replayId)).Nodup

namespace PostgresCommandStore

/-! ## Replays -/

/-- `WHERE tenant_id=$1 AND replay_id=$2`. -/
def isReplay (tenantId : String) (replayId : Uuid) (r : ReplayRecord) : Bool :=
  decide (r.tenantId = tenantId ∧ r.replayId = replayId)

/-- `state IN ('requested','scheduled')`. -/
def isExecutable (r : ReplayRecord) : Bool := decide (r.state = .requested ∨ r.state = .scheduled)

def submittedReplay (replayCommandId : Uuid) (r : ReplayRecord) : ReplayRecord :=
  { r with state := .submitted, replayCommandId := some replayCommandId }

def completeReplay (tenantId : String) (replayId replayCommandId : Uuid) (t : List ReplayRecord) :
    Except Exc ReplayRecord × List ReplayRecord :=
  match t.find? fun r => isReplay tenantId replayId r && isExecutable r with
  | none => (.error (.commandConflict "replay is not executable"), t)
  | some row =>
    (.ok (submittedReplay replayCommandId row),
      t.map fun r => if isReplay tenantId replayId r && isExecutable r then submittedReplay replayCommandId r else r)

theorem completeReplay_ids (tenantId : String) (replayId replayCommandId : Uuid) (t : List ReplayRecord) :
    (completeReplay tenantId replayId replayCommandId t).2.map (·.replayId) = t.map (·.replayId) := by
  unfold completeReplay
  split
  · rfl
  · rw [List.map_map]
    refine List.map_congr_left fun r _ => ?_
    show (if isReplay tenantId replayId r && isExecutable r then submittedReplay replayCommandId r else r).replayId =
      r.replayId
    split <;> rfl

end PostgresCommandStore

namespace Database

def mutateOperation (m : Mutation) (now : Time) (db : Database) : Except Exc CommandOperation × Database :=
  let r := PostgresCommandStore.mutateOperation m now db.tables
  (r.1, { db with tables := r.2 })

def completeReplay (tenantId : String) (replayId replayCommandId : Uuid) (db : Database) :
    Except Exc ReplayRecord × Database :=
  let r := PostgresCommandStore.completeReplay tenantId replayId replayCommandId db.replays
  (r.1,
    { db with
      replays := r.2
      unique := by rw [PostgresCommandStore.completeReplay_ids]; exact db.unique })

/-- `SELECT * FROM middleware_command_replays WHERE tenant_id=$1 AND replay_id=$2`. -/
def replay (db : Database) (tenantId : String) (replayId : Uuid) : Option ReplayRecord :=
  db.replays.find? (isReplay tenantId replayId)

end Database

/-! ## Corresponding states -/

/-- The operation a row holds, without the evidence, which is kept elsewhere. -/
def CommandRow.bare (r : CommandRow) : CommandOperation where
  commandId := r.commandId
  tenantId := r.tenantId
  commandType := r.commandType
  commandVersion := r.commandVersion
  target := r.target
  requestedBy := r.requestedBy
  correlationId := r.correlationId
  idempotencyKey := r.idempotencyKey
  capability := r.capability
  state := r.state
  providerOperationId := r.providerOperationId
  lastError := r.lastError
  createdAt := r.createdAt
  updatedAt := r.updatedAt
  resourceVersion := r.resourceVersion
  cancelledAt := r.cancelledAt
  cancellationReason := r.cancellationReason
  reconciliationRequestedAt := r.reconciliationRequestedAt
  reconciliationReason := r.reconciliationReason

def withoutEvidence (o : CommandOperation) : CommandOperation :=
  { o with readbackEvidence := none, readbackEvidenceSha256 := none }

/-- An operation and its row: the evidence is in the attempts and its digest in the audit. -/
structure CommandAgrees (t : Tables) (k : Key) (entry : String × CommandOperation) (row : CommandRow) : Prop where
  digest : entry.1 = row.payloadSha256
  operation : withoutEvidence entry.2 = row.bare
  evidence : entry.2.readbackEvidence.isSome = (t.resultPayload k).isSome
  evidenceDigest : entry.2.readbackEvidenceSha256 = t.persistedDigest k

/-- An event and its audit row. A transition's row carries the digest of the evidence, its event does not. -/
structure EventAgrees (e : OperationEvent) (a : AuditRow) : Prop where
  operation : e.operationId = a.commandId
  previous : e.previousState = a.previousState
  next : e.newState = a.newState
  actor : e.actorId = a.actorId
  reason : e.reason = a.reason
  metadata : ∀ name, name ≠ "readback_evidence_sha256" → e.safeMetadata.lookup name = a.metadata.lookup name
  created : e.createdAt = a.createdAt

structure AttemptAgrees (a : OperationAttempt) (r : AttemptRow) : Prop where
  operation : a.operationId = r.commandId
  number : a.attemptNumber = r.attemptNumber
  state : a.state = r.state
  provider : a.providerOperationId = r.providerOperationId
  error : a.safeErrorCode = r.errorCode
  started : a.startedAt = r.startedAt
  finished : a.finishedAt = r.finishedAt

structure IntentAgrees (i : MemoryOutboxIntent) (r : OutboxRow) : Prop where
  tenantId : i.tenantId = r.tenantId
  commandId : i.commandId = r.commandId
  destination : i.destination = r.destination
  eventType : i.eventType = r.eventType
  idempotencyKey : i.idempotencyKey = r.idempotencyKey
  payload : i.payload = r.payload
  attemptCount : i.attemptCount = r.attemptCount
  leaseOwner : i.leaseOwner = r.leaseOwner
  leaseUntil : i.leaseUntil = r.leaseUntil
  completed : i.completedAt.isSome = r.completedAt.isSome
  deadLettered : i.deadLetteredAt.isSome = r.deadLetteredAt.isSome
  cancelled : i.cancelledAt.isSome = r.cancelledAt.isSome
  quarantined : i.reconciliationRequiredAt.isSome = r.reconciliationRequiredAt.isSome
  reconciliationAttempts : i.reconciliationAttempts = r.reconciliationAttempts
  lastError : i.lastError = r.lastError

/-- The digest and the response a store remembers a mutation by. -/
structure RemembersAlike (entry : String × CommandOperation) (row : MutationRow) : Prop where
  digest : entry.1 = row.requestSha256
  response : entry.2 = row.responsePayload

/-- The two stores hold the same ledger. -/
structure Corresponds (s : MemoryCommandStore) (db : Database) : Prop where
  commands : ∀ k, Option.Rel (CommandAgrees db.tables k) (s.commands.lookup k) (db.tables.command k)
  payloads : ∀ k row, db.tables.command k = some row → s.payloads.lookup k = some row.payload
  events : ∀ k, List.Forall₂ EventAgrees ((s.events.lookup k).getD []) (db.tables.audit.filter fun a => a.key = k)
  attempts : ∀ k, List.Forall₂ AttemptAgrees ((s.attempts.lookup k).getD [])
    (db.tables.attempts.filter fun a => a.key = k)
  mutations : ∀ m : Mutation, Option.Rel RemembersAlike (s.mutations.lookup m.mutationKey)
    (replayed m db.tables)
  outbox : List.Forall₂ IntentAgrees s.outbox db.tables.outbox
  replays : ∀ tenantId replayId, s.replays.lookup (tenantId, replayId) = db.replay tenantId replayId

/-- Equal answers, or errors of one class. -/
def SameReply {α : Type} : Except Exc α → Except Exc α → Prop
  | .ok a, .ok b => a = b
  | .error e, .error e' => e.typeName = e'.typeName
  | _, _ => False

/-- The two stores answer alike and hold the same ledger afterwards. -/
structure Alike {α : Type} (mem : Except Exc α × MemoryCommandStore) (pg : Except Exc α × Database) : Prop where
  reply : SameReply mem.1 pg.1
  states : Corresponds mem.2 pg.2

/-! ## When the stores agree -/

/-- An intent that somebody has claimed and not completed. -/
def holdsLease (i : MemoryOutboxIntent) : Bool := i.leaseOwner.isSome && i.completedAt.isNone

def leaseLive (now : Time) (i : MemoryOutboxIntent) : Bool := i.leaseUntil.any fun t => decide (now < t)

/-- A claimed intent of an idle command has a lease that did not run out, or another one of it has. -/
def CancelAgrees (s : MemoryCommandStore) (m : Mutation) (now : Time) (o : CommandOperation) : Prop :=
  o.state ∈ [CommandState.persisted, .queued] → (∃ i ∈ s.outbox, rowKey i = m.key ∧ holdsLease i) →
    ∃ i ∈ s.outbox, rowKey i = m.key ∧ holdsLease i ∧ leaseLive now i

/-- What an operator's reconcile would do to an open intent in one store only is done already, and PostgreSQL has
nothing to insert. -/
def ReconcileAgrees (s : MemoryCommandStore) (m : Mutation) (now : Time) : Prop :=
  ((∃ i ∈ s.outbox, rowKey i = m.key ∧ i.isOpen ∧ i.destination = adapterCommandDestination) ∨
    ∃ i ∈ s.outbox, i.tenantId = m.tenantId ∧ i.destination = temporalCommandDestination ∧
      i.idempotencyKey = workKey m) ∧
  ∀ i ∈ s.outbox, rowKey i = m.key → i.isOpen →
    if i.destination = adapterCommandDestination then leaseLive now i = false
    else i.reconciliationRequiredAt.isSome ∧ i.leaseOwner = none ∧ i.leaseUntil = none

/-- What the call would change is changed alike. -/
def ChangesAlike (s : MemoryCommandStore) (m : Mutation) (now : Time) (o : CommandOperation) : Prop :=
  match m.action with
  | .cancel => o.state ∉ MemoryCommandStore.notCancellable →
      withoutEvidence o = o ∧ CancelAgrees s m now o
  | .reconcile => o.state ∈ MemoryCommandStore.reconcilable →
      withoutEvidence o = o ∧ ReconcileAgrees s m now
  | .retry => o.state ≠ .failed

/-- The call is refused or answered from memory, or what it changes is changed alike. -/
def MutatesAlike (s : MemoryCommandStore) (m : Mutation) (now : Time) : Prop :=
  ∀ digest o, s.commands.lookup m.key = some (digest, o) → s.mutations.lookup m.mutationKey = none →
    (o.resourceVersion : Int) = m.expectedVersion → ChangesAlike s m now o

/-! ## What a mutation writes, row by row -/

section Intents

variable {i : MemoryOutboxIntent} {r : OutboxRow} {m : Mutation} {now : Time} {s : MemoryCommandStore} {t : OutboxTable}

theorem IntentAgrees.open_iff (h : IntentAgrees i r) : i.isOpen = r.isOpen := by
  have hnone : ∀ {a b : Option Time}, a.isSome = b.isSome → a.isNone = b.isNone := by
    rintro (_ | a) (_ | b) h <;> simp_all
  unfold MemoryOutboxIntent.isOpen
  rw [hnone h.completed, hnone h.deadLettered, hnone h.cancelled]

theorem IntentAgrees.ofCommand (h : IntentAgrees i r) (k : Key) :
    ofCommand k r = decide (rowKey i = k) := by
  unfold PostgresCommandStore.ofCommand rowKey
  rw [h.tenantId, h.commandId]

theorem IntentAgrees.live (h : IntentAgrees i r) (now : Time) : PostgresOutboxStore.leaseActive now r = leaseLive now i := by
  unfold PostgresOutboxStore.leaseActive leaseLive
  rw [h.leaseUntil]

theorem IntentAgrees.completed_none (h : IntentAgrees i r) : i.completedAt = none ↔ r.completedAt = none := by
  rw [← Option.not_isSome_iff_eq_none, h.completed, Option.not_isSome_iff_eq_none]

/-- A cancellation that takes effect at once writes the same intents. A row cancelled before is stamped anew. -/
theorem cancelled_agree (h : List.Forall₂ IntentAgrees s.outbox t)
    (hl : ∀ i ∈ s.outbox, i.leaseOwner = none → i.leaseUntil = none) :
    List.Forall₂ IntentAgrees
      (MemoryCommandStore.mapIntents m.tenantId m.commandId MemoryCommandStore.cancelIntent s.outbox)
      (cancelRows m.key now t) := by
  have hpair := (List.forall₂_and_left s.outbox t).2 ⟨hl, h⟩
  refine List.rel_map ?_ hpair
  rintro i r ⟨hle, ha⟩
  dsimp only
  have hk := ha.ofCommand m.key
  by_cases hkey : i.tenantId = m.tenantId ∧ i.commandId = m.commandId
  · rw [if_pos hkey]
    rw [decide_eq_true (Prod.ext hkey.1 hkey.2)] at hk
    unfold MemoryCommandStore.cancelIntent
    by_cases hfree : i.completedAt = none ∧ i.leaseOwner = none
    · obtain ⟨hc, ho⟩ := hfree
      have hpg : (ofCommand m.key r && r.completedAt.isNone && r.leaseOwner.isNone) = true := by
        simp [hk, ha.completed_none.1 hc, ← ha.leaseOwner, ho]
      split
      · exact { ha with cancelled := rfl, leaseOwner := ho, leaseUntil := hle ho }
      · rename_i hcan
        have hset : i.cancelledAt.isSome = true := by
          simpa [hc, ho, Option.isSome_iff_ne_none] using hcan
        exact { ha with cancelled := hset, leaseOwner := ho, leaseUntil := hle ho }
    · have hpg : (ofCommand m.key r && r.completedAt.isNone && r.leaseOwner.isNone) = false := by
        rw [Bool.eq_false_iff]
        intro hr
        simp only [Bool.and_eq_true, Option.isNone_iff_eq_none] at hr
        exact hfree ⟨ha.completed_none.2 hr.1.2, ha.leaseOwner.trans hr.2⟩
      rw [hpg, if_neg Bool.false_ne_true, if_neg]
      · exact ha
      · rintro ⟨hc, ho, -⟩
        exact hfree ⟨Option.isNone_iff_eq_none.1 hc, Option.isNone_iff_eq_none.1 ho⟩
  · rw [if_neg hkey]
    rw [decide_eq_false fun heq => hkey (Prod.mk.inj heq)] at hk
    rw [if_neg (by simp [hk])]
    exact ha

/-- An operator's reconcile leaves the intent and its row alike. -/
def ParksAlike (m : Mutation) (now : Time) (i : MemoryOutboxIntent) : Prop :=
  rowKey i = m.key → i.isOpen → if i.destination = adapterCommandDestination then leaseLive now i = false
    else i.reconciliationRequiredAt.isSome ∧ i.leaseOwner = none ∧ i.leaseUntil = none

theorem IntentAgrees.adapter_row (h : IntentAgrees i r) (k : Key) : isAdapterRow k r =
    (decide (rowKey i = k) && decide (i.destination = adapterCommandDestination) && i.isOpen) := by
  unfold isAdapterRow
  rw [h.ofCommand, h.open_iff, h.destination]
  rfl

theorem parked_iff (h : List.Forall₂ IntentAgrees s.outbox t) :
    List.Forall₂ IntentAgrees
      (MemoryCommandStore.mapIntents m.tenantId m.commandId MemoryCommandStore.parkIntent s.outbox)
      (parkRows m.key now t) ↔ ∀ i ∈ s.outbox, ParksAlike m now i := by
  refine forall₂_map_iff h fun i r ha => ?_
  have hrow := ha.adapter_row m.key
  by_cases hkey : rowKey i = m.key
  · rw [if_pos (Prod.mk.inj hkey)]
    cases hopen : i.isOpen with
    | false =>
      rw [hrow, hopen, Bool.and_false, if_neg Bool.false_ne_true]
      have hpark : MemoryCommandStore.parkIntent i = i := by
        unfold MemoryCommandStore.parkIntent
        rw [hopen, if_neg Bool.false_ne_true]
      rw [hpark]
      exact ⟨fun _ _ ho => absurd ho (by simp [hopen]), fun _ => ha⟩
    | true =>
      have hpark : MemoryCommandStore.parkIntent i =
          { i with
            reconciliationRequiredAt := some (i.reconciliationRequiredAt.getD 0), leaseOwner := none
            leaseUntil := none } := by
        unfold MemoryCommandStore.parkIntent
        rw [hopen, if_pos rfl]
      rw [hpark]
      by_cases hd : i.destination = adapterCommandDestination
      · rw [hrow, decide_eq_true hkey, decide_eq_true hd, hopen, if_pos (by rfl), ha.live]
        -- a lease that is still running survives in the table only
        cases hlive : leaseLive now i with
        | true =>
          constructor
          · intro hboth
            have huntil := hboth.leaseUntil
            simp only [if_true] at huntil
            simp [leaseLive, ha.leaseUntil, ← huntil] at hlive
          · intro hp
            have := hp hkey hopen
            rw [if_pos hd, hlive] at this
            cases this
        | false =>
          constructor
          · intro _ _ _
            rw [if_pos hd, hlive]
          · intro _
            exact { ha with quarantined := rfl, leaseOwner := rfl, leaseUntil := rfl }
      · rw [hrow, decide_eq_false hd, Bool.and_false, Bool.false_and, if_neg Bool.false_ne_true]
        constructor
        · intro hboth _ _
          rw [if_neg hd]
          exact ⟨ha.quarantined.trans hboth.quarantined.symm, ha.leaseOwner.trans hboth.leaseOwner.symm,
            ha.leaseUntil.trans hboth.leaseUntil.symm⟩
        · intro hp
          have := hp hkey hopen
          rw [if_neg hd] at this
          obtain ⟨hq, ho, hu⟩ := this
          exact { ha with
            quarantined := hq.symm.trans ha.quarantined, leaseOwner := ho.symm.trans ha.leaseOwner
            leaseUntil := hu.symm.trans ha.leaseUntil }
  · rw [if_neg fun heq => hkey (Prod.ext heq.1 heq.2), hrow, decide_eq_false hkey, Bool.false_and, Bool.false_and,
      if_neg Bool.false_ne_true]
    exact ⟨fun _ hk => absurd hk hkey, fun _ => ha⟩

theorem insertWork_eq (m : Mutation) (destination eventType : String) (payload : IntentPayload) (now : Time)
    (t : OutboxTable) :
    insertWork m destination eventType payload now t = t ∧ (∃ r ∈ t, r.tenantId = m.tenantId ∧
        r.destination = destination ∧ r.idempotencyKey = workKey m) ∨
    ∃ row : OutboxRow, insertWork m destination eventType payload now t = t ++ [row] ∧
      row.destination = destination ∧ row.payload = payload ∧ ¬ ∃ r ∈ t, r.tenantId = m.tenantId ∧
        r.destination = destination ∧ r.idempotencyKey = workKey m := by
  have hany : (t.any fun r => r.tenantId == m.tenantId && r.destination == destination &&
      r.idempotencyKey == workKey m) = true ↔ ∃ r ∈ t, r.tenantId = m.tenantId ∧
        r.destination = destination ∧ r.idempotencyKey = workKey m := by
    simp [List.any_eq_true, and_assoc]
  unfold insertWork insertOutbox
  by_cases hdup : ∃ r ∈ t, r.tenantId = m.tenantId ∧ r.destination = destination ∧
      r.idempotencyKey = workKey m
  · rw [if_pos (hany.2 hdup)]
    exact .inl ⟨rfl, hdup⟩
  · rw [if_neg fun h => hdup (hany.1 h)]
    exact .inr ⟨_, rfl, rfl, rfl, hdup⟩

theorem reconciled_iff (h : List.Forall₂ IntentAgrees s.outbox t) :
    List.Forall₂ IntentAgrees
      (MemoryCommandStore.mapIntents m.tenantId m.commandId MemoryCommandStore.parkIntent s.outbox)
      (if t.any (isAdapterRow m.key) then parkRows m.key now t
        else insertWork m temporalCommandDestination "operation.reconcile.v1"
          { commandId := m.commandId } now t) ↔ ReconcileAgrees s m now := by
  have hadapter : t.any (isAdapterRow m.key) = true ↔
      ∃ i ∈ s.outbox, rowKey i = m.key ∧ i.isOpen ∧ i.destination = adapterCommandDestination := by
    rw [List.any_eq_true, forall₂_exists h fun i r ha => ?_]
    rw [ha.adapter_row]
    simp only [Bool.and_eq_true, decide_eq_true_eq]
    exact ⟨fun ⟨hk, hopen, hd⟩ => ⟨⟨hk, hd⟩, hopen⟩, fun ⟨⟨hk, hd⟩, hopen⟩ => ⟨hk, hopen, hd⟩⟩
  have htaken : (∃ i ∈ s.outbox, i.tenantId = m.tenantId ∧ i.destination = temporalCommandDestination ∧
        i.idempotencyKey = workKey m) ↔
      ∃ r ∈ t, r.tenantId = m.tenantId ∧ r.destination = temporalCommandDestination ∧
        r.idempotencyKey = workKey m :=
    forall₂_exists h fun i r ha => by rw [ha.tenantId, ha.destination, ha.idempotencyKey]
  by_cases hany : t.any (isAdapterRow m.key) = true
  · rw [if_pos hany, parked_iff h]
    exact ⟨fun hp => ⟨.inl (hadapter.1 hany), hp⟩, fun hp => hp.2⟩
  · rw [if_neg hany]
    rcases insertWork_eq m temporalCommandDestination "operation.reconcile.v1" { commandId := m.commandId } now t with
      ⟨hw, hdup⟩ | ⟨row, hw, -, -, hfree⟩
    · -- no adapter row is open, so parking the rows changes none of them
      have hpark : parkRows m.key now t = t := by
        unfold parkRows
        rw [List.map_congr_left (g := id) fun r hr => ?_, List.map_id]
        rw [if_neg]
        · rfl
        · exact fun hrow => hany (List.any_eq_true.2 ⟨r, hr, hrow⟩)
      rw [hw]
      have hiff := @parked_iff m now s t h
      rw [hpark] at hiff
      rw [hiff]
      exact ⟨fun hp => ⟨.inr (htaken.2 hdup), hp⟩, fun hp => hp.2⟩
    · rw [hw]
      constructor
      · intro hf
        have hlen := hf.length_eq
        rw [List.length_append, MemoryCommandStore.mapIntents, List.length_map, h.length_eq] at hlen
        simp at hlen
      · rintro ⟨hopen | hdup, -⟩
        · exact absurd (hadapter.2 hopen) hany
        · exact absurd (htaken.1 hdup) hfree

/-- A retry never leaves corresponding outboxes: PostgreSQL replaces the idempotency key in the envelope it sends, and
where that key is the command's own there is nothing to insert. -/
theorem retried_disagree {digest eventType destination clientId : String} {o : CommandOperation}
    {envelope : CommandEnvelope} {payload : IntentPayload} (h : List.Forall₂ IntentAgrees s.outbox t) (hf : Filed s)
    (ho : s.commands.lookup m.key = some (digest, o)) (hsent : payload.envelope = some (envelope, clientId))
    (hwork : envelope.idempotencyKey = workKey m) :
    ¬ List.Forall₂ IntentAgrees (s.outbox ++ [MemoryCommandStore.retryIntent s m o])
      (insertWork m destination eventType payload now t) := by
  intro hboth
  rcases insertWork_eq m destination eventType payload now t with ⟨hw, -⟩ | ⟨row, hw, hdest, hpay, hfree⟩
  · rw [hw] at hboth
    have hlen := hboth.length_eq
    rw [List.length_append, h.length_eq] at hlen
    simp at hlen
  · rw [hw] at hboth
    have hlast := List.forall₂_drop_append _ _ _ hboth
    rw [List.drop_append_of_le_length (by rw [h.length_eq]), List.drop_eq_nil_of_le (by rw [h.length_eq]),
      List.nil_append, List.forall₂_cons] at hlast
    obtain ⟨hnew, -⟩ := hlast
    obtain ⟨source, hsource, hsk, hgl⟩ := last_intent hf ho
    obtain ⟨command, clientId, place, hsub⟩ := hf.submitted ho
    obtain ⟨hplace, henv⟩ := hsub.copies source hsource hsk
    have hpayload := hnew.payload
    have hdestination := hnew.destination
    simp only [MemoryCommandStore.retryIntent, hgl] at hpayload hdestination
    rw [hpay] at hpayload
    rw [hpayload, hsent, Option.some.injEq, Prod.mk.injEq] at henv
    have hkey : command.idempotencyKey = workKey m := henv.1 ▸ hwork
    -- the first intent of the command stands under that key already
    obtain ⟨first, hfirst, hfk, hfkey⟩ := hsub.first
    have htaken : (∃ i ∈ s.outbox, i.tenantId = m.tenantId ∧ i.destination = destination ∧
          i.idempotencyKey = workKey m) ↔
        ∃ r ∈ t, r.tenantId = m.tenantId ∧ r.destination = destination ∧
          r.idempotencyKey = workKey m :=
      forall₂_exists h fun i r ha => by rw [ha.tenantId, ha.destination, ha.idempotencyKey]
    apply hfree
    apply htaken.1
    refine ⟨first, hfirst, (Prod.mk.inj hfk).1, ?_, hfkey.trans hkey⟩
    rw [(hsub.copies first hfirst hfk).1, ← hplace, hdestination, hdest]

end Intents

/-! ## What a mutation writes, as a whole -/

theorem withoutEvidence_iff (o : CommandOperation) :
    withoutEvidence o = o ↔ o.readbackEvidence = none ∧ o.readbackEvidenceSha256 = none := by
  constructor
  · intro h
    rw [← h]
    exact ⟨rfl, rfl⟩
  · rintro ⟨he, hd⟩
    cases o
    simp_all [withoutEvidence]

/-- The store in memory after a mutation that took effect. -/
def memoryWritten (s : MemoryCommandStore) (m : Mutation) (now : Time) (digest : String) (o u : CommandOperation)
    (events : List OperationEvent) (outbox : List MemoryOutboxIntent) : MemoryCommandStore :=
  { s with
    commands := s.commands.insert m.key (digest, u)
    events := s.events.insert m.key (events ++ [m.event o u now (events.length + 1)])
    mutations := s.mutations.insert m.mutationKey (mutationDigest m.expectedVersion m.reason, u)
    outbox := outbox }

def tablesWritten (t : Tables) (m : Mutation) (now : Time) (current updated : CommandRow) (outbox : OutboxTable) :
    Tables :=
  { t with
    commands := t.updateCommand m.key fun _ => updated
    audit := t.audit ++ [mutationAudit m current updated now]
    mutations := t.mutations ++ [⟨m.tenantId, m.commandId, m.action, m.actorId, m.idempotencyKey,
      mutationDigest m.expectedVersion m.reason, updated.bare⟩]
    outbox := outbox }

/-- What a mutation makes of an operation and of its row. -/
structure Updates (o u : CommandOperation) (current updated : CommandRow) : Prop where
  key : updated.key = current.key
  payload : updated.payload = current.payload
  digest : updated.payloadSha256 = current.payloadSha256
  evidence : u.readbackEvidence = o.readbackEvidence
  evidenceDigest : u.readbackEvidenceSha256 = o.readbackEvidenceSha256
  operation : o = current.bare → u = updated.bare

section Written

variable {s : MemoryCommandStore} {db : Database} {m : Mutation} {now : Time} {digest : String}
  {o u : CommandOperation} {current updated : CommandRow} {events : List OperationEvent}
  {outbox : List MemoryOutboxIntent} {outbox' : OutboxTable}

variable {entry : String × CommandOperation}

theorem rel_some {A B : Type} {R : A → B → Prop} {a : A} {y : Option B} (h : Option.Rel R (some a) y) : ∃ b, y = some b ∧ R a b := by
  cases h with
  | some hab => exact ⟨_, rfl, hab⟩

theorem rel_none {A B : Type} {R : A → B → Prop} {y : Option B} (h : Option.Rel R none y) : y = none := by
  cases h
  rfl

theorem Corresponds.row (h : Corresponds s db) {k : Key}
    (ho : s.commands.lookup k = some entry) :
    ∃ row, db.tables.command k = some row ∧ CommandAgrees db.tables k entry row := rel_some (ho ▸ h.commands k)

theorem command_written (hk : updated.key = current.key) (hcur : db.tables.command m.key = some current) (k : Key) :
    (tablesWritten db.tables m now current updated outbox').command k =
      if k = m.key then some updated else db.tables.command k := by
  have hkey : updated.key = m.key := hk.trans (command_key hcur)
  show (db.tables.updateCommand m.key fun _ => updated).find? (fun r => decide (r.key = k)) = _
  rw [Tables.updateCommand, find_map_at fun _ _ => hkey]
  by_cases hkk : k = m.key
  · subst hkk
    have : db.tables.commands.find? (fun r => decide (r.key = m.key)) = some current := hcur
    rw [this, if_pos rfl, Option.map_some, if_pos rfl]
  · rw [if_neg hkk]
    show Option.map _ (db.tables.command k) = _
    cases db.tables.command k with
    | none => rfl
    | some r => rw [Option.map_some, if_neg hkk]

theorem CommandAgrees.written {k : Key} {row : CommandRow}
    (h : CommandAgrees db.tables k entry row) :
    CommandAgrees (tablesWritten db.tables m now current updated outbox') k entry row := by
  have haudit : (tablesWritten db.tables m now current updated outbox').audit =
    db.tables.audit ++ [mutationAudit m current updated now] := rfl
  refine ⟨h.digest, h.operation, h.evidence, h.evidenceDigest.trans ?_⟩
  rw [digest_append haudit, mutationAudit_carries]
  simp

theorem replayed_written (hrep : replayed m db.tables = none) (m' : Mutation) :
    Option.Rel RemembersAlike (s.mutations.lookup m'.mutationKey) (replayed m' db.tables) →
    u = updated.bare →
    Option.Rel RemembersAlike
      ((memoryWritten s m now digest o u events outbox).mutations.lookup m'.mutationKey)
      (replayed m' (tablesWritten db.tables m now current updated outbox')) := by
  rintro hrel rfl
  have hfind : replayed m' (tablesWritten db.tables m now current updated outbox') =
      (replayed m' db.tables).or
        (if m.mutationKey = m'.mutationKey then some ⟨m.tenantId, m.commandId, m.action, m.actorId, m.idempotencyKey,
          mutationDigest m.expectedVersion m.reason, updated.bare⟩ else none) := by
    unfold replayed tablesWritten
    rw [List.find?_append, List.find?_singleton]
    simp only [decide_eq_true_eq]
  rw [hfind]
  show Option.Rel RemembersAlike (AList.lookup m'.mutationKey (AList.insert m.mutationKey _ s.mutations)) _
  rw [MemoryCommandStore.lookup_insert_ite]
  by_cases hk : m'.mutationKey = m.mutationKey
  · have hnone : replayed m' db.tables = none := by
      rw [← hrep]
      exact congrArg (fun key => db.tables.mutations.find? fun r =>
        decide ((r.tenantId, r.commandId, r.action, r.actorId, r.idempotencyKey) = key)) hk
    rw [if_pos hk, if_pos hk.symm, hnone, Option.none_or]
    exact .some ⟨rfl, rfl⟩
  · rw [if_neg hk, if_neg (Ne.symm hk), Option.or_none]
    exact hrel

theorem events_written (hop : o.state = current.state) (hu : u = updated.bare) (k : Key)
    (h : List.Forall₂ EventAgrees ((s.events.lookup k).getD []) (db.tables.audit.filter fun a => a.key = k))
    (he : s.events.lookup m.key = some events) :
    List.Forall₂ EventAgrees (((memoryWritten s m now digest o u events outbox).events.lookup k).getD [])
      ((tablesWritten db.tables m now current updated outbox').audit.filter fun a => a.key = k) := by
  show List.Forall₂ EventAgrees ((AList.lookup k (AList.insert m.key _ s.events)).getD [])
    ((db.tables.audit ++ [mutationAudit m current updated now]).filter fun a => a.key = k)
  rw [MemoryCommandStore.lookup_insert_ite, List.filter_append]
  by_cases hk : k = m.key
  · subst hk
    have hone : [mutationAudit m current updated now].filter (fun a => decide (a.key = m.key)) =
        [mutationAudit m current updated now] := by
      simp [mutationAudit]
    rw [if_pos rfl, Option.getD_some, hone]
    rw [he, Option.getD_some] at h
    refine List.rel_append h (.cons ⟨rfl, ?_, ?_, rfl, rfl, fun name _ => ?_, rfl⟩ .nil)
    · exact congrArg some hop
    · exact congrArg CommandOperation.state hu
    · rw [hu]
      rfl
  · have hnone : [mutationAudit m current updated now].filter (fun a => decide (a.key = k)) = [] := by
      simp only [List.filter_singleton, mutationAudit]
      rw [decide_eq_false fun h => hk h.symm]
      rfl
    rw [if_neg hk, hnone, List.append_nil]
    exact h

/-- Both calls took effect: they agree when there is no evidence to answer with and the outboxes agree. -/
theorem written_alike (h : Corresponds s db) (ho : s.commands.lookup m.key = some (digest, o))
    (he : s.events.lookup m.key = some events) (hcur : db.tables.command m.key = some current)
    (hrep : replayed m db.tables = none) (hu : Updates o u current updated) :
    Alike (.ok u, memoryWritten s m now digest o u events outbox)
        (.ok updated.bare, { db with tables := tablesWritten db.tables m now current updated outbox' }) ↔
      withoutEvidence o = o ∧ List.Forall₂ IntentAgrees outbox outbox' := by
  obtain ⟨row, hrow, hagree⟩ := h.row ho
  obtain rfl : current = row := Option.some.inj (hcur.symm.trans hrow)
  constructor
  · rintro ⟨hreply, hstates⟩
    have hub : u = updated.bare := hreply
    refine ⟨(withoutEvidence_iff o).2 ⟨?_, ?_⟩, hstates.outbox⟩
    · rw [← hu.evidence, hub]
      rfl
    · rw [← hu.evidenceDigest, hub]
      rfl
  · rintro ⟨hevid, hout⟩
    have hbare : o = current.bare := hevid.symm.trans hagree.operation
    have hub := hu.operation hbare
    refine ⟨hub, ⟨fun k => ?_, fun k r hr => ?_, fun k => ?_, h.attempts, fun m' => ?_, hout, h.replays⟩⟩
    · show Option.Rel _ (AList.lookup k (AList.insert m.key (digest, u) s.commands)) _
      rw [MemoryCommandStore.lookup_insert_ite, command_written hu.key hcur]
      by_cases hk : k = m.key
      · subst hk
        rw [if_pos rfl, if_pos rfl]
        refine .some (CommandAgrees.written ⟨?_, ?_, ?_, ?_⟩)
        · exact hagree.digest.trans hu.digest.symm
        · rw [hub]
          rfl
        · exact (congrArg Option.isSome hu.evidence).trans hagree.evidence
        · exact hu.evidenceDigest.trans hagree.evidenceDigest
      · rw [if_neg hk, if_neg hk]
        have hrel := h.commands k
        generalize AList.lookup k s.commands = entry at hrel ⊢
        generalize db.tables.command k = row at hrel ⊢
        cases hrel with
        | none => exact .none
        | some ha => exact .some ha.written
    · rw [command_written hu.key hcur] at hr
      split at hr
      · rename_i hk
        cases hr
        rw [hk, hu.payload]
        exact h.payloads m.key current hcur
      · exact h.payloads k r hr
    · exact events_written (by rw [hbare]; rfl) hub k (h.events k) he
    · exact replayed_written hrep m' (h.mutations m') hub

/-! ## Both calls -/

theorem refused_alike {α : Type} (h : Corresponds s db) {e e' : Exc} (he : e.typeName = e'.typeName) :
    Alike (.error e, s) ((.error e', db) : Except Exc α × Database) := ⟨he, h⟩

theorem mutatesAlike_iff (ho : s.commands.lookup m.key = some (digest, o)) (hm : s.mutations.lookup m.mutationKey = none)
    (hv : (o.resourceVersion : Int) = m.expectedVersion) : MutatesAlike s m now ↔ ChangesAlike s m now o := by
  constructor
  · intro h
    exact h digest o ho hm hv
  · intro h digest' o' ho' _ _
    rw [ho] at ho'
    cases ho'
    exact h

/-- `mutate_operation` in memory, once the request is known to be new and its version current. -/
theorem memory_mutate (ho : s.commands.lookup m.key = some (digest, o)) (he : s.events.lookup m.key = some events)
    (hm : s.mutations.lookup m.mutationKey = none) (hv : (o.resourceVersion : Int) = m.expectedVersion) :
    perform (MemoryCommandStore.mutateOperation m now) s =
      match perform (MemoryCommandStore.mutationUpdates m o now) s with
      | (.error e, s') => (.error e, s')
      | (.ok changed, s') => (.ok (Mutation.updated o changed now),
        memoryWritten s m now digest o (Mutation.updated o changed now) events s'.outbox) := by
  unfold MemoryCommandStore.mutateOperation
  simp only [perform_bind, perform_get, ho, hm, perform_ite, perform_throw, perform_pure, perform_modify]
  rw [if_neg (not_not.2 hv)]
  rcases MemoryCommandStore.mutationUpdates_cases (s := s) m o now with ⟨e, hrun⟩ | ⟨changed, outbox, -, hrun⟩
  · rw [hrun]
  · rw [hrun]
    dsimp only
    rw [MemoryCommandStore.perform_appendEvent (by exact he)]
    rfl

theorem tables_mutate (hcur : db.tables.command m.key = some current)
    (hrep : replayed m db.tables = none) (hv : (current.resourceVersion : Int) = m.expectedVersion) :
    db.mutateOperation m now = match mutatedRow m now current db.tables.outbox with
      | .error e => (.error e, db)
      | .ok (updated, outbox) =>
        (.ok updated.bare, { db with tables := tablesWritten db.tables m now current updated outbox }) := by
  unfold Database.mutateOperation PostgresCommandStore.mutateOperation
  simp only [hcur, hrep]
  rw [if_neg (not_not.2 hv)]
  cases mutatedRow m now current db.tables.outbox with
  | error e => rfl
  | ok p => rfl

theorem memory_active (s : MemoryCommandStore) (m : Mutation) :
    ((s.adapterIntents m.tenantId m.commandId).any fun i => i.leaseOwner.isSome && i.completedAt.isNone) = true ↔
      ∃ i ∈ s.outbox, rowKey i = m.key ∧ holdsLease i := by
  rw [List.any_eq_true]
  constructor
  · rintro ⟨i, hi, hl⟩
    obtain ⟨hmem, hk⟩ := List.mem_filter.1 hi
    have hk := of_decide_eq_true hk
    exact ⟨i, hmem, Prod.ext hk.1 hk.2, hl⟩
  · rintro ⟨i, hi, hk, hl⟩
    exact ⟨i, List.mem_filter.2 ⟨hi, decide_eq_true (Prod.mk.inj hk)⟩, hl⟩

theorem tables_active (h : List.Forall₂ IntentAgrees s.outbox db.tables.outbox) :
    activeLease m.key now db.tables.outbox = true ↔
      ∃ i ∈ s.outbox, rowKey i = m.key ∧ holdsLease i ∧ leaseLive now i := by
  unfold activeLease
  rw [List.any_eq_true]
  refine (forall₂_exists h fun i r ha => ?_).symm
  have hnone : i.completedAt.isNone = r.completedAt.isNone := by
    rw [← Option.not_isSome, ha.completed, Option.not_isSome]
  rw [ha.ofCommand, ha.live, ← ha.leaseOwner, ← hnone]
  unfold holdsLease
  simp only [Bool.and_eq_true, decide_eq_true_eq]
  exact ⟨fun ⟨hk, ⟨ho, hc⟩, hl⟩ => ⟨⟨⟨hk, ho⟩, hl⟩, hc⟩, fun ⟨⟨⟨hk, ho⟩, hl⟩, hc⟩ => ⟨hk, ⟨ho, hc⟩, hl⟩⟩

theorem cancellable_undated (hf : Filed s) (ho : s.commands.lookup m.key = some (digest, o))
    (hn : o.state ∉ MemoryCommandStore.notCancellable) : o.cancelledAt = none := by
  refine hf.dated ho fun hcan => hn ?_
  rw [hcan]
  decide

section Fresh

variable (hf : Filed s) (h : Corresponds s db) (ho : s.commands.lookup m.key = some (digest, o))
  (he : s.events.lookup m.key = some events) (hm : s.mutations.lookup m.mutationKey = none)
  (hv : (o.resourceVersion : Int) = m.expectedVersion) (hcur : db.tables.command m.key = some current)
  (hrep : replayed m db.tables = none) (hv' : (current.resourceVersion : Int) = m.expectedVersion)
  (hsame : withoutEvidence o = current.bare)
include hf h ho he hm hv hcur hrep hv' hsame

theorem cancel_iff (ha : m.action = .cancel) :
    Alike (perform (MemoryCommandStore.mutateOperation m now) s) (db.mutateOperation m now) ↔ ChangesAlike s m now o := by
  have hstate : o.state = current.state := congrArg CommandOperation.state hsame
  have hdate : o.cancelledAt = current.cancelledAt := congrArg CommandOperation.cancelledAt hsame
  rw [memory_mutate ho he hm hv, tables_mutate hcur hrep hv']
  unfold ChangesAlike MemoryCommandStore.mutationUpdates mutatedRow
  simp only [ha, perform_bind, perform_get, perform_ite, perform_throw, perform_modify, perform_pure]
  by_cases hn : o.state ∈ MemoryCommandStore.notCancellable
  · rw [if_pos hn, if_pos (hstate ▸ hn)]
    exact ⟨fun _ hn' => absurd hn hn', fun _ => refused_alike h rfl⟩
  have hn' : current.state ∉ MemoryCommandStore.notCancellable := hstate ▸ hn
  rw [if_neg hn, if_neg hn', forall_prop_of_true hn]
  have hpg := @tables_active s db m now h.outbox
  have hmem := memory_active s m
  have hundated := cancellable_undated hf ho hn
  have hparked : Updates o
      (Mutation.updated o { o with
        state := .reconciliationRequired, cancelledAt := none, cancellationReason := some m.reason } now) current
      { current with
        resourceVersion := current.resourceVersion + 1, updatedAt := now, state := .reconciliationRequired
        cancellationReason := some m.reason } := by
    refine ⟨rfl, rfl, rfl, rfl, rfl, fun hb => ?_⟩
    have hnone : current.cancelledAt = none := hdate ▸ hundated
    rw [hb]
    simp [Mutation.updated, CommandRow.bare, hnone]
  have hcancelled : Updates o
      (Mutation.updated o { o with
        state := .cancelled, cancelledAt := some now, cancellationReason := some m.reason } now) current
      { current with
        resourceVersion := current.resourceVersion + 1, updatedAt := now, state := .cancelled
        cancelledAt := some now, cancellationReason := some m.reason } := by
    refine ⟨rfl, rfl, rfl, rfl, rfl, fun hb => ?_⟩
    rw [hb]
    rfl
  -- an idle command whose only leases ran out is parked in memory and cancelled in the tables
  by_cases hidle : o.state ∈ [CommandState.persisted, .queued]
  · have hidle' : current.state ∈ [CommandState.persisted, .queued] := hstate ▸ hidle
    by_cases hheld : ∃ i ∈ s.outbox, rowKey i = m.key ∧ holdsLease i
    · have hpark : MemoryCommandStore.cancelState s m o = .reconciliationRequired := by
        unfold MemoryCommandStore.cancelState
        simp [hmem.2 hheld]
      simp only [hpark, reduceCtorEq, if_false]
      by_cases hlive : ∃ i ∈ s.outbox, rowKey i = m.key ∧ holdsLease i ∧ leaseLive now i
      · rw [if_neg (by simp [hpg.2 hlive])]
        refine (written_alike h ho he hcur hrep hparked).trans ?_
        exact and_congr_right fun _ => ⟨fun _ _ _ => hlive, fun _ => h.outbox⟩
      · have hidleness := Bool.not_eq_true' _ ▸ Bool.eq_false_iff.2 fun hp => hlive (hpg.1 hp)
        rw [if_pos ⟨hidle', hidleness⟩]
        constructor
        · intro hboth
          have hreply : CommandState.reconciliationRequired = .cancelled := congrArg CommandOperation.state hboth.reply
          cases hreply
        · rintro ⟨-, hcancel⟩
          exact absurd (hcancel hidle hheld) hlive
    · have hcancel : MemoryCommandStore.cancelState s m o = .cancelled := by
        unfold MemoryCommandStore.cancelState
        rw [if_pos ⟨hidle, by simpa using fun hp => hheld (hmem.1 hp)⟩]
      simp only [hcancel, if_true]
      have hfree : ¬ ∃ i ∈ s.outbox, rowKey i = m.key ∧ holdsLease i ∧ leaseLive now i := by
        rintro ⟨i, hi, hk, hl, -⟩
        exact hheld ⟨i, hi, hk, hl⟩
      have hidleness := Bool.not_eq_true' _ ▸ Bool.eq_false_iff.2 fun hp => hfree (hpg.1 hp)
      rw [if_pos ⟨hidle', hidleness⟩]
      refine (written_alike h ho he hcur hrep hcancelled).trans ?_
      exact and_congr_right fun _ => ⟨fun _ _ hh => absurd hh hheld, fun _ => cancelled_agree h.outbox hf.leases⟩
  · have hidle' : current.state ∉ [CommandState.persisted, .queued] := hstate ▸ hidle
    have hpark : MemoryCommandStore.cancelState s m o = .reconciliationRequired := by
      unfold MemoryCommandStore.cancelState
      rw [if_neg fun hp => hidle hp.1]
    simp only [hpark, reduceCtorEq, if_false]
    rw [if_neg fun hp => hidle' hp.1]
    refine (written_alike h ho he hcur hrep hparked).trans ?_
    exact and_congr_right fun _ => ⟨fun _ hi => absurd hi hidle, fun _ => h.outbox⟩

omit hf in
theorem reconcile_iff (ha : m.action = .reconcile) :
    Alike (perform (MemoryCommandStore.mutateOperation m now) s) (db.mutateOperation m now) ↔ ChangesAlike s m now o := by
  have hstate : o.state = current.state := congrArg CommandOperation.state hsame
  rw [memory_mutate ho he hm hv, tables_mutate hcur hrep hv']
  unfold ChangesAlike MemoryCommandStore.mutationUpdates mutatedRow
  simp only [ha, perform_bind, perform_get, perform_ite, perform_throw, perform_modify, perform_pure]
  by_cases hn : o.state ∈ MemoryCommandStore.reconcilable
  · have hn' : current.state ∈ MemoryCommandStore.reconcilable := hstate ▸ hn
    rw [if_neg (not_not.2 hn), if_neg (not_not.2 hn'), forall_prop_of_true hn]
    have hupdates : Updates o
        (Mutation.updated o { o with
          state := .reconciliationRequired, reconciliationRequestedAt := some now
          reconciliationReason := some m.reason } now) current
        { current with
          resourceVersion := current.resourceVersion + 1, updatedAt := now, state := .reconciliationRequired
          reconciliationRequestedAt := some now, reconciliationReason := some m.reason } := by
      refine ⟨rfl, rfl, rfl, rfl, rfl, fun hb => ?_⟩
      rw [hb]
      rfl
    refine (written_alike h ho he hcur hrep hupdates).trans ?_
    exact and_congr_right fun _ => reconciled_iff h.outbox
  · have hn' : current.state ∉ MemoryCommandStore.reconcilable := hstate ▸ hn
    rw [if_pos hn, if_pos hn']
    exact ⟨fun _ hmem => absurd hmem hn, fun _ => refused_alike h rfl⟩

theorem retry_iff (ha : m.action = .retry) :
    Alike (perform (MemoryCommandStore.mutateOperation m now) s) (db.mutateOperation m now) ↔ ChangesAlike s m now o := by
  have hstate : o.state = current.state := congrArg CommandOperation.state hsame
  rw [memory_mutate ho he hm hv, tables_mutate hcur hrep hv']
  unfold ChangesAlike MemoryCommandStore.mutationUpdates mutatedRow
  simp only [ha, perform_bind, perform_get, perform_ite, perform_throw, perform_modify, perform_pure]
  by_cases hn : o.state = .failed
  · have hn' : current.state = .failed := hstate ▸ hn
    rw [if_neg (not_not.2 hn), if_neg (not_not.2 hn')]
    constructor
    · intro hboth
      exact absurd hboth.states.outbox (retried_disagree h.outbox hf ho rfl rfl)
    · intro hne
      exact absurd hn hne
  · have hn' : current.state ≠ .failed := hstate ▸ hn
    rw [if_pos hn, if_pos hn']
    exact ⟨fun _ => hn, fun _ => refused_alike h rfl⟩

end Fresh

theorem mutation_alike_iff (hw : WF s) (hf : Filed s) (h : Corresponds s db) :
    Alike (perform (MemoryCommandStore.mutateOperation m now) s) (db.mutateOperation m now) ↔ MutatesAlike s m now := by
  cases ho : s.commands.lookup m.key with
  | none =>
    have hcur : db.tables.command m.key = none := rel_none (ho ▸ h.commands m.key)
    have hmem : perform (MemoryCommandStore.mutateOperation m now) s =
        (.error (.commandNotFound "command operation was not found"), s) := by
      unfold MemoryCommandStore.mutateOperation
      simp only [perform_bind, perform_get, ho, perform_throw]
    have hpg : db.mutateOperation m now = (.error (.commandNotFound "command operation was not found"), db) := by
      unfold Database.mutateOperation PostgresCommandStore.mutateOperation
      simp only [hcur]
    rw [hmem, hpg]
    refine ⟨fun _ digest o ho' => ?_, fun _ => refused_alike h rfl⟩
    rw [ho] at ho'
    cases ho'
  | some entry =>
    obtain ⟨digest, o⟩ := entry
    obtain ⟨current, hcur, hagree⟩ := h.row ho
    have hversion : o.resourceVersion = current.resourceVersion :=
      congrArg CommandOperation.resourceVersion hagree.operation
    have hrem := h.mutations m
    cases hm : s.mutations.lookup m.mutationKey with
    | some replay =>
      obtain ⟨row, hrep, hrem⟩ := rel_some (hm ▸ hrem)
      have hpg : db.mutateOperation m now =
          (if row.requestSha256 = mutationDigest m.expectedVersion m.reason then
              .ok { row.responsePayload with duplicate := true }
            else .error (.commandConflict "idempotency key was reused with different mutation content"), db) := by
        unfold Database.mutateOperation PostgresCommandStore.mutateOperation
        simp only [hcur, hrep, ne_eq, ite_not]
        split <;> rfl
      rw [MemoryCommandStore.mutateOperation_known m now ho hm, hpg, hrem.digest]
      refine ⟨fun _ _ _ _ hm' => ?_, fun _ => ⟨?_, h⟩⟩
      · rw [hm] at hm'
        cases hm'
      · split
        · rw [hrem.response]
          rfl
        · rfl
    | none =>
      have hrep : replayed m db.tables = none := rel_none (hm ▸ hrem)
      by_cases hv : (o.resourceVersion : Int) = m.expectedVersion
      · obtain ⟨events, _, he, -, -⟩ := hw.tracked ho
        rw [mutatesAlike_iff ho hm hv]
        cases ha : m.action with
        | cancel => exact cancel_iff hf h ho he hm hv hcur hrep (hversion ▸ hv) hagree.operation ha
        | reconcile => exact reconcile_iff h ho he hm hv hcur hrep (hversion ▸ hv) hagree.operation ha
        | retry => exact retry_iff hf h ho he hm hv hcur hrep (hversion ▸ hv) hagree.operation ha
      · have hmem : perform (MemoryCommandStore.mutateOperation m now) s =
            (.error (.commandConflict "expected_version is stale"), s) := by
          unfold MemoryCommandStore.mutateOperation
          simp only [perform_bind, perform_get, ho, hm, perform_ite, perform_throw]
          rw [if_pos hv]
        have hpg : db.mutateOperation m now = (.error (.commandConflict "expected_version is stale"), db) := by
          unfold Database.mutateOperation PostgresCommandStore.mutateOperation
          simp only [hcur, hrep]
          rw [if_pos (hversion ▸ hv)]
        rw [hmem, hpg]
        refine ⟨fun _ digest' o' ho' _ hv' => ?_, fun _ => refused_alike h rfl⟩
        rw [ho] at ho'
        cases ho'
        exact absurd hv' hv

/-! ### Replays -/

theorem replay_found (db : Database) (tenantId : String) (replayId : Uuid) :
    db.replays.find? (fun r => isReplay tenantId replayId r &&
      isExecutable r) = (db.replay tenantId replayId).filter isExecutable :=
  find_and db.unique fun _ hr => (of_decide_eq_true hr).2

variable {tenantId : String} {row : ReplayRecord}

theorem replay_written (db : Database) {replayId : Uuid} (replayCommandId : Uuid)
    (hr : db.replay tenantId replayId = some row) (he : isExecutable row = true)
    (tenantId' : String) (replayId' : Uuid) :
    (db.completeReplay tenantId replayId replayCommandId).2.replay tenantId' replayId' =
      if (tenantId', replayId') = (tenantId, replayId) then
        some (submittedReplay replayCommandId row)
      else db.replay tenantId' replayId' := by
  have hsome : db.replays.find? (fun r => isReplay tenantId replayId r &&
      isExecutable r) = some row := by
    rw [replay_found, hr]
    simp [he]
  unfold Database.completeReplay PostgresCommandStore.completeReplay
  simp only [hsome, Database.replay]
  rw [List.find?_map]
  have hkeep : isReplay tenantId' replayId' ∘ (fun r =>
      if isReplay tenantId replayId r && isExecutable r then
        submittedReplay replayCommandId r else r) =
      isReplay tenantId' replayId' := by
    funext r
    simp only [Function.comp]
    split <;> rfl
  rw [hkeep]
  by_cases hk : (tenantId', replayId') = (tenantId, replayId)
  · obtain ⟨rfl, rfl⟩ := Prod.mk.inj hk
    have hfound : db.replays.find? (isReplay tenantId' replayId') = some row := hr
    have hmatch := List.find?_some hfound
    rw [if_pos rfl, hfound, Option.map_some, hmatch, he, if_pos (by rfl)]
  · rw [if_neg hk]
    cases hfind : db.replays.find? (isReplay tenantId' replayId') with
    | none => rfl
    | some r =>
      have hother : isReplay tenantId replayId r = false := by
        have hmatch : r.tenantId = tenantId' ∧ r.replayId = replayId' := by
          simpa [isReplay] using List.find?_some hfind
        refine decide_eq_false fun heq => hk ?_
        rw [← hmatch.1, ← hmatch.2, heq.1, heq.2]
      rw [Option.map_some, hother, Bool.false_and, if_neg Bool.false_ne_true]

theorem replay_completed_alike {replayId replayCommandId : Uuid}
    (h : Corresponds s db) (hl : s.replays.lookup (tenantId, replayId) = some row)
    (hst : row.state = .requested ∨ row.state = .scheduled) :
    Alike (.ok (submittedReplay replayCommandId row), { s with
        replays := s.replays.insert (tenantId, replayId) (submittedReplay replayCommandId row) })
      (db.completeReplay tenantId replayId replayCommandId) := by
  have hexec : isExecutable row = true := decide_eq_true hst
  have hrow : db.replay tenantId replayId = some row := (h.replays tenantId replayId).symm.trans hl
  refine ⟨?_, { h with replays := fun tenantId' replayId' => ?_ }⟩
  · unfold Database.completeReplay PostgresCommandStore.completeReplay
    simp only [replay_found, hrow, Option.filter_some, hexec, if_true]
    rfl
  · rw [replay_written db replayCommandId hrow hexec, MemoryCommandStore.lookup_insert_ite, h.replays]

theorem replay_alike_iff {replayId replayCommandId : Uuid} (h : Corresponds s db) :
    Alike (perform (MemoryCommandStore.completeReplay tenantId replayId replayCommandId) s)
        (db.completeReplay tenantId replayId replayCommandId) ↔
      ∃ row, s.replays.lookup (tenantId, replayId) = some row ∧ row.state ≠ .submitted := by
  have hrow := h.replays tenantId replayId
  have hrefused : (db.replay tenantId replayId).filter isExecutable = none →
      db.completeReplay tenantId replayId replayCommandId =
        (.error (.commandConflict "replay is not executable"), db) := by
    intro hnone
    unfold Database.completeReplay PostgresCommandStore.completeReplay
    simp only [replay_found, hnone]
  unfold MemoryCommandStore.completeReplay
  simp only [perform_bind, perform_get]
  cases hl : s.replays.lookup (tenantId, replayId) with
  | none =>
    rw [hl] at hrow
    rw [hrefused (by rw [← hrow]; rfl), perform_throw]
    constructor
    · rintro ⟨hreply, -⟩
      exact absurd hreply (by decide : "CommandNotFound" ≠ "CommandConflict")
    · rintro ⟨row, ⟨⟩, -⟩
  | some row =>
    rw [hl] at hrow
    simp only [perform_bind, perform_ite, perform_throw, perform_modify, perform_pure]
    -- a submitted replay is completed again in memory and refused in the table
    cases hst : row.state with
    | cancelled =>
      have hexec : isExecutable row = false := by simp [isExecutable, hst]
      rw [if_pos rfl, hrefused (by rw [← hrow]; simp [hexec])]
      exact ⟨fun _ => ⟨row, rfl, by simp [hst]⟩, fun _ => refused_alike h rfl⟩
    | submitted =>
      have hexec : isExecutable row = false := by simp [isExecutable, hst]
      rw [if_neg (by simp), hrefused (by rw [← hrow]; simp [hexec])]
      constructor
      · rintro ⟨⟨⟩, -⟩
      · rintro ⟨row', hr', hne⟩
        cases hr'
        exact absurd hst hne
    | requested =>
      exact ⟨fun _ => ⟨row, rfl, by simp [hst]⟩, fun _ => replay_completed_alike h hl (.inl hst)⟩
    | scheduled =>
      exact ⟨fun _ => ⟨row, rfl, by simp [hst]⟩, fun _ => replay_completed_alike h hl (.inr hst)⟩

end Written

/-- The two ledgers agree on a mutation exactly when it is refused, answered from memory, or changes an operation
without evidence, and its intents, alike; a retry that takes effect never does. They agree on the completion of a replay
exactly when it exists and was not submitted before. -/
theorem stores_agree (steps : List StoreStep) (db : Database) (h : Corresponds (store steps) db) :
    (∀ m now, Alike (perform (MemoryCommandStore.mutateOperation m now) (store steps)) (db.mutateOperation m now) ↔
      MutatesAlike (store steps) m now) ∧
    ∀ tenantId replayId replayCommandId,
      Alike (perform (MemoryCommandStore.completeReplay tenantId replayId replayCommandId) (store steps))
          (db.completeReplay tenantId replayId replayCommandId) ↔
        ∃ row, (store steps).replays.lookup (tenantId, replayId) = some row ∧ row.state ≠ .submitted :=
  ⟨fun _ _ => mutation_alike_iff (store_wf steps) (store_filed steps) h, fun _ _ _ => replay_alike_iff h⟩

/-! ## One command in both stores -/

section Fresh

variable {r : Submission} {now : Time}

/-- The tables with one submitted command, whose intent is the given row. -/
def submittedDatabase (r : Submission) (now : Time) (row : OutboxRow) : Database where
  tables :=
    { commands := [submittedRow r now]
      audit := [submittedAudit r now]
      outbox := [row] }
  replays := []
  unique := .nil

theorem submitted_corresponds {row : OutboxRow} {i : MemoryOutboxIntent} (ha : IntentAgrees i row) :
    Corresponds { r.admitted {} now with outbox := [i] } (submittedDatabase r now row) := by
  have hcommand : ∀ k, (submittedDatabase r now row).tables.command k =
      if k = r.key then some (submittedRow r now) else none := by
    intro k
    show List.find? _ [submittedRow r now] = _
    rw [List.find?_singleton]
    have hkey : (submittedRow r now).key = r.key := rfl
    simp only [hkey, decide_eq_true_eq, eq_comm (a := k)]
  have haudit : ∀ k, (submittedDatabase r now row).tables.audit.filter (fun a => decide (a.key = k)) =
      if k = r.key then [submittedAudit r now] else [] := by
    intro k
    show List.filter _ [submittedAudit r now] = _
    have hkey : (submittedAudit r now).key = r.key := rfl
    simp only [List.filter_singleton, hkey, Bool.cond_decide, eq_comm]
  have hdigest : ∀ k, (submittedDatabase r now row).tables.persistedDigest k = none := by
    intro k
    unfold Tables.persistedDigest
    have hcarries : (submittedAudit r now).carriesDigest = false := rfl
    simp [submittedDatabase, hcarries]
  refine ⟨fun k => ?_, fun k c hc => ?_, fun k => ?_, fun k => ?_, fun m => ?_, .cons ha .nil, fun _ _ => rfl⟩
  · simp only [Submission.admitted, MemoryCommandStore.lookup_insert_ite, hcommand]
    by_cases hk : k = r.key
    · rw [if_pos hk, if_pos hk]
      exact .some ⟨rfl, rfl, rfl, (hdigest k).symm⟩
    · rw [if_neg hk, if_neg hk]
      exact .none
  · rw [hcommand] at hc
    simp only [Submission.admitted, MemoryCommandStore.lookup_insert_ite]
    by_cases hk : k = r.key
    · rw [if_pos hk] at hc ⊢
      cases hc
      rfl
    · rw [if_neg hk] at hc
      cases hc
  · rw [haudit]
    simp only [Submission.admitted, MemoryCommandStore.lookup_insert_ite]
    by_cases hk : k = r.key
    · rw [if_pos hk, if_pos hk]
      exact .cons ⟨rfl, rfl, rfl, rfl, rfl, fun _ _ => rfl, rfl⟩ .nil
    · rw [if_neg hk, if_neg hk]
      exact .nil
  · simp only [Submission.admitted, MemoryCommandStore.lookup_insert_ite]
    by_cases hk : k = r.key
    · rw [if_pos hk]
      exact .nil
    · rw [if_neg hk]
      exact .nil
  · exact .none

end Fresh

namespace Synthetic

def queuedWork : Submission where
  command :=
    { commandId := "command-1", commandType := "test.syn.execute.v1", commandVersion := "1.0", target := "adapter"
      tenantId := "tenant-1", requestedBy := "user-1", correlationId := "correlation-1", idempotencyKey := "key-1"
      capability := "test.execute", payload := [] }
  authenticatedClientId := "client-1"
  destination := adapterCommandDestination

/-- Its intent, claimed by a bus at 1 for 60 ticks. -/
def claimedIntent : MemoryOutboxIntent := MemoryExecutionBus.claimRow {} 1 (queuedWork.intent 1)

/-- The command was submitted at 0, its intent claimed, and the worker was never heard of again. -/
def abandoned : List StoreStep := [⟨.ledger (.submit queuedWork), 0⟩, ⟨.busClaim {}, 1⟩]

def abandonedDatabase : Database := submittedDatabase queuedWork 0 { claimedIntent with fencingToken := 1 }

def cancellation : Mutation where
  tenantId := "tenant-1"
  commandId := "command-1"
  action := .cancel
  actorId := "operator-1"
  idempotencyKey := "cancel-1"
  expectedVersion := 1
  reason := "not needed any more"

end Synthetic

open Synthetic in
open Synthetic in
theorem abandoned_corresponds : Corresponds (store abandoned) abandonedDatabase := by
  exact submitted_corresponds ⟨rfl, rfl, rfl, rfl, rfl, rfl, rfl, rfl, rfl, rfl, rfl, rfl, rfl, rfl, rfl⟩

/-- The lease ran out at 61. At 100 an operator's cancellation parks the command in memory and cancels it in
PostgreSQL. -/
theorem expired_lease_disagrees : Corresponds (store Synthetic.abandoned) Synthetic.abandonedDatabase ∧
    ¬ Alike (perform (MemoryCommandStore.mutateOperation Synthetic.cancellation 100) (store Synthetic.abandoned))
      (Synthetic.abandonedDatabase.mutateOperation Synthetic.cancellation 100) := by
  refine ⟨abandoned_corresponds, fun h => ?_⟩
  have hm := (mutation_alike_iff (store_wf _) (store_filed _) abandoned_corresponds).1 h
  have hchanges := hm _ (Synthetic.queuedWork.operation 0) (AList.lookup_insert _) rfl rfl
  obtain ⟨-, hcancel⟩ := hchanges (by decide)
  obtain ⟨i, hi, -, -, hlive⟩ := hcancel (by decide) ⟨Synthetic.claimedIntent, List.mem_singleton_self _, rfl, rfl⟩
  obtain rfl := List.mem_singleton.1 hi
  exact absurd hlive (by decide)

/-- Before the lease ran out the two stores agree on the cancellation. -/
theorem running_lease_agrees :
    Alike (perform (MemoryCommandStore.mutateOperation Synthetic.cancellation 30) (store Synthetic.abandoned))
      (Synthetic.abandonedDatabase.mutateOperation Synthetic.cancellation 30) := by
  refine ((stores_agree Synthetic.abandoned Synthetic.abandonedDatabase abandoned_corresponds).1 _ _).2 ?_
  intro digest o ho _ _
  obtain rfl := (Prod.mk.inj (Option.some.inj ho)).2
  exact fun _ => ⟨rfl, fun _ _ => ⟨Synthetic.claimedIntent, List.mem_singleton_self _, rfl, rfl, rfl⟩⟩

end Middleware.Postgres
